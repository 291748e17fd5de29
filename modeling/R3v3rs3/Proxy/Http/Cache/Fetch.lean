/-
# R3v3rs3.Proxy.Http.Cache.Fetch -- requests, revalidations and purges on one cache

A request looks the entries up, may ask the other nodes, takes the lead of a flight or follows one,
asks the upstream server, and refreshes or records what comes back.  A stale answer leaves a
revalidation behind that goes on in the background.  A purge notes its time, empties the entries
and moves the mark of the shared responses.  Every access to the cache is a step of its own, and
the steps of any number of requests and purges interleave.

Beside the state of the program the model keeps what it is judged by: which request a stored body
answered and how many purges had started when the upstream server produced it (`Origin`), and the
lists of all insertions and of all answers from the cache.  No step looks at these.

This module is the machine; `Provenance` has its invariant and `Promises` what follows for purges,
`vary` and what may be stored.
-/
import R3v3rs3.Proxy.Http.Cache.Store
import R3v3rs3.Theory.Threads

namespace R3v3rs3.Proxy.Http.Cache.Fetch
open Api Theory Theory.Threads
open Theory.Run (exec Guarded Throughout)
set_option autoImplicit false

/-- What a cache is set up with. -/
structure Setup where
  config : CacheConfig
  /-- Whether the nodes of a cluster share the responses. -/
  sharing : Bool
  parseHttpDate : List Char → Option SystemTime
  decodeBody : String → Option (List UInt8)

/-- The clocks at one step. -/
structure Clocks where
  instant : Instant
  system : SystemTime
  unixMs : UInt64

/-- Where a stored body comes from. -/
structure Origin where
  /-- The headers of the request that the upstream server answered with the body. -/
  request : HeaderMap
  /-- The purges that had started when the upstream server produced it. -/
  era : Nat
  deriving DecidableEq

structure Kept where
  entry : CachedResponse
  origin : Origin
  deriving DecidableEq

/-- The ways into the entries. -/
inductive Way where
  /-- `Recorder::finish`. -/
  | stored
  /-- `refresh_entry`. -/
  | refreshed
  /-- `store_entry`. -/
  | revalidated
  /-- The response of another node. -/
  | shared
  deriving DecidableEq

structure Insertion where
  key : String
  kept : Kept
  way : Way
  /-- Whether the request it is made for carried credentials. -/
  authorized : Bool
  /-- The last purge that had emptied the entries. -/
  cleared : Nat

/-- How the answer to a request was found. -/
inductive Source where
  | lookup
  | shared
  | refreshed
  deriving DecidableEq

/-- What the client is sent. -/
structure Reply where
  status : StatusCode
  headers : HeaderMap
  body : List UInt8

/-- A request, with the last purge that had returned when its lookup started. -/
structure Client where
  request : CacheRequest
  floor : Nat
  deriving DecidableEq

structure Answer where
  client : Client
  kept : Kept
  source : Source
  reply : Reply

structure Shared where
  entries : Table (Prod.fst : String × Kept → String)
  inFlight : List String
  revalidating : List String
  /-- The Unix time in milliseconds of the last purge: older shared responses do not count. -/
  purgedAt : UInt64
  started : Nat
  /-- The last purge that emptied the entries. -/
  cleared : Nat
  /-- The last purge that returned. -/
  returned : Nat
  insertions : List Insertion
  answers : List Answer

def Shared.empty : Shared :=
  { entries := .empty
    inFlight := []
    revalidating := []
    purgedAt := 0
    started := 0
    cleared := 0
    returned := 0
    insertions := []
    answers := [] }

inductive Task where
  /-- Waiting for the response of another node. -/
  | probing (client : Client)
  | adopting (client : Client) (kept : Kept)
  /-- A stale entry is sent; its revalidation is not marked yet. -/
  | spawning (client : Client) (kept : Kept) (source : Source)
  /-- Before `start_flight`. -/
  | boarding (client : Client) (stored : Option Kept)
  | following (client : Client) (stored : Option Kept)
  | waiting (client : Client) (stored : Option Kept)
  /-- The upstream server has the request. -/
  | asking (client : Client) (stored : Option Kept) (leads : Bool)
  /-- The upstream server produced the response. -/
  | arriving (client : Client) (stored : Option Kept) (leads : Bool) (response : Response)
      (era : Nat)
  | refreshing (client : Client) (kept : Kept) (headers : HeaderMap)
  | recording (request : CacheRequest) (recorder : Recorder) (era : Nat) (leads : Bool)
  /-- The guard of the flight is dropped. -/
  | leaving (key : String)
  /-- A revalidation: the upstream server has the request. -/
  | revalidating (request : CacheRequest) (kept : Kept)
  | reading (request : CacheRequest) (kept : Kept) (response : Response) (era : Nat)
  | collecting (request : CacheRequest) (response : Response) (era : Nat)
  /-- The guard of the revalidation is dropped. -/
  | settling (key : String)
  /-- A changing request that the upstream server has. -/
  | changing (request : CacheRequest)
  | invalidating (keys : List String)
  /-- A purge that has noted its time. -/
  | clearing (purge : Nat) (purgedAt : UInt64)
  | announcing (purge : Nat) (purgedAt : UInt64)
  deriving DecidableEq

inductive Call where
  | fetch (clocks : Clocks) (method : Method) (headers : HeaderMap) (key : String)
      (authorized : Bool)
  | purge (unixMs : UInt64)
  /-- The store drops an entry: it has expired, there is no room, or a path is purged. -/
  | evict (key : String)

inductive Input where
  | go
  /-- What the shared store says, with where its response comes from. -/
  | found (shared : Option (SharedResponse × Origin))
  /-- The upstream server answers. -/
  | response (response : Response)
  | frame (frame : Frame)
  | finished (clean : Bool)
  | body (frames : List Frame)
  /-- The upstream server failed, or the client went away. -/
  | failed
  deriving DecidableEq

/-! ## The accesses -/

namespace Shared

def goto (shared : Shared) (task : Task) : Shared × Option Task := (shared, some task)

def finish (shared : Shared) : Shared × Option Task := (shared, none)

def insert (shared : Shared) (key : String) (kept : Kept) (way : Way) (authorized : Bool) :
    Shared :=
  { shared with
    entries := shared.entries.upsert (key, kept)
    insertions := ⟨key, kept, way, authorized, shared.cleared⟩ :: shared.insertions }

def invalidate (shared : Shared) (key : String) : Shared :=
  { shared with entries := shared.entries.erase key }

def answer (shared : Shared) (answer : Answer) : Shared :=
  { shared with answers := answer :: shared.answers }

/-- `CacheRequest::stored`. -/
def stored (shared : Shared) (request : CacheRequest) : Option Kept :=
  if request.lookup then
    ((shared.entries.find request.key).map Prod.snd).filter
      (·.entry.matchesRequest request.headers)
  else none

/-- The guard of a flight is dropped where there is one. -/
def release (shared : Shared) (key : String) (leads : Bool) : Shared × Option Task :=
  if leads then shared.goto (.leaving key) else shared.finish

section Accesses

variable (setup : Setup)

/-- `respond`: a client with a matching validator receives `304 Not Modified`. -/
def reply (clocks : Clocks) (request : CacheRequest) (entry : CachedResponse) (label : String) :
    Option Reply := do
  let age ← entry.age clocks.instant
  let notModified := isNotModified setup.parseHttpDate request.headers entry.head.headers
  let headers :=
    if notModified then
      entry.head.headers.removeAll
        ["content-length", "content-type", "content-encoding", "content-language", "content-range"]
    else entry.head.headers
  some
    { status := if notModified then .notModified else entry.head.status
      headers :=
        (headers.insert "age" (bytes (toString age.asSecs.toNat))).insert "x-cache" (bytes label)
      body := if request.head || notModified then [] else entry.body }

/-- Sends a stored response; nothing is sent where the age is too large. -/
def respond (shared : Shared) (clocks : Clocks) (client : Client) (kept : Kept) (source : Source)
    (label : String) : Shared :=
  match reply setup clocks client.request kept.entry label with
  | none => shared
  | some reply => shared.answer ⟨client, kept, source, reply⟩

/-- `fetch` from the entry that was found to the flight. -/
def serve (shared : Shared) (clocks : Clocks) (client : Client) (kept : Kept) (source : Source) :
    Shared × Option Task :=
  match kept.entry.isFresh clocks.instant with
  | none => shared.finish
  | some true => (shared.respond setup clocks client kept source "HIT").finish
  | some false =>
    match kept.entry.isStaleRevalidatable setup.config.staleWhileRevalidate clocks.instant with
    | none => shared.finish
    | some true => shared.goto (.spawning client kept source)
    | some false => shared.goto (.boarding client (some kept))

/-- The start of `fetch`: the entries are looked up. -/
def fetch (shared : Shared) (clocks : Clocks) (request : CacheRequest) : Shared × Option Task :=
  let client : Client := ⟨request, shared.returned⟩
  if request.unsafeMethod then shared.goto (.changing request)
  else
    match shared.stored request with
    | some kept => shared.serve setup clocks client kept .lookup
    | none =>
      if request.lookup && setup.sharing then shared.goto (.probing client)
      else shared.goto (.boarding client none)

/-- The lookups of `fetch` up to the upstream server. -/
def board (shared : Shared) (clocks : Clocks) : Task → Input → Shared × Option Task
  | .probing client, .found found =>
    -- a response from before the last purge does not count
    match found.filter (shared.purgedAt ≤ ·.1.storedAt) with
    | none => shared.goto (.boarding client none)
    | some (response, origin) =>
      match CachedResponse.fromShared setup.decodeBody response clocks.unixMs
        clocks.instant with
      | .error .overflow => shared.finish
      | .error .invalid => shared.goto (.boarding client none)
      | .ok entry =>
        if entry.matchesRequest client.request.headers then
          shared.goto (.adopting client ⟨entry, origin⟩)
        else shared.goto (.boarding client none)
  | .adopting client kept, .go =>
    (shared.insert client.request.key kept .shared client.request.authorized).serve setup clocks
      client kept .shared
  | .spawning client kept source, .go =>
    let answered := shared.respond setup clocks client kept source "STALE"
    if client.request.key ∈ shared.revalidating then answered.finish
    else
      { answered with revalidating := client.request.key :: shared.revalidating }.goto
        (.revalidating client.request kept)
  | .boarding client stored, .go =>
    if client.request.key ∈ shared.inFlight then shared.goto (.following client stored)
    else
      { shared with inFlight := client.request.key :: shared.inFlight }.goto
        (.asking client stored true)
  | .following client stored, .go =>
    match (shared.stored client.request).filter
      (·.entry.isFresh clocks.instant = some true) with
    | some kept => (shared.respond setup clocks client kept .lookup "HIT").finish
    | none => shared.goto (.waiting client stored)
  -- the leader has finished, or ten seconds are over
  | .waiting client stored, .go =>
    match (shared.stored client.request).filter
      (·.entry.isFresh clocks.instant = some true) with
    | some kept => (shared.respond setup clocks client kept .lookup "HIT").finish
    | none => shared.goto (.asking client stored false)
  | .probing _, .failed | .boarding _ _, .failed | .following _ _, .failed
  | .waiting _ _, .failed => shared.finish
  | task, _ => shared.goto task

/-- A frame is recorded: the entry is stored, the recorder goes on, or it has given up. -/
def recorded (shared : Shared) (clocks : Clocks) (request : CacheRequest) (era : Nat)
    (leads : Bool) : Recorder × Option Stored → Shared × Option Task
  | (_, some (head, body)) =>
    (shared.insert request.key ⟨⟨head, body, clocks.instant⟩, ⟨request.headers, era⟩⟩ .stored
      request.authorized).release request.key leads
  | (recorder, none) =>
    if recorder.head.isSome then shared.goto (.recording request recorder era leads)
    else shared.release request.key leads

/-- `fetch_upstream`, with the recording of the body. -/
def receive (shared : Shared) (clocks : Clocks) : Task → Input → Shared × Option Task
  | .asking client stored leads, .response response =>
    shared.goto (.arriving client stored leads response shared.started)
  | .arriving client stored leads response era, .go =>
    match stored.filter fun _ => response.status = .notModified with
    | some kept =>
      { shared with
        inFlight :=
          if leads then shared.inFlight.filter (· ≠ client.request.key)
          else shared.inFlight }.goto (.refreshing client kept response.headers)
    | none =>
      match storableHead setup.parseHttpDate setup.config clocks.system client.request
        response with
      | none => shared.release client.request.key leads
      | some head =>
        shared.goto (.recording client.request (Recorder.start setup.config head response)
          era leads)
  | .refreshing client kept headers, .go =>
    -- `handle_304`
    let storable := isStorable304 headers client.request.authorized
    let merged : Kept :=
      ⟨merge304Headers setup.parseHttpDate clocks.instant clocks.system kept.entry headers
        setup.config.defaultTtl storable, kept.origin⟩
    let shared :=
      if storable then
        shared.insert client.request.key merged .refreshed client.request.authorized
      else shared
    (shared.respond setup clocks client merged .refreshed "HIT").finish
  | .recording request recorder era leads, .frame frame =>
    shared.recorded clocks request era leads (recorder.record frame)
  | .recording request recorder era leads, .finished clean =>
    shared.recorded clocks request era leads (recorder.finish clean)
  | .asking client _ leads, .failed | .arriving client _ leads _ _, .failed =>
    shared.release client.request.key leads
  | .recording request _ _ leads, .failed => shared.release request.key leads
  | .leaving key, .go => { shared with inFlight := shared.inFlight.filter (· ≠ key) }.finish
  | task, _ => shared.goto task

/-- `run_background_revalidation`. -/
def revalidate (shared : Shared) (clocks : Clocks) : Task → Input → Shared × Option Task
  | .revalidating request kept, .response response =>
    shared.goto (.reading request kept response shared.started)
  | .reading request kept response era, .go =>
    if response.status = .notModified then
      if isStorable304 response.headers request.authorized then
        (shared.insert request.key
          ⟨merge304Headers setup.parseHttpDate clocks.instant clocks.system kept.entry
            response.headers setup.config.defaultTtl true, kept.origin⟩ .refreshed
          request.authorized).goto (.settling request.key)
      else shared.goto (.settling request.key)
    else if !isStorable response.status response.headers request.authorized ||
        request.head then shared.goto (.settling request.key)
    else shared.goto (.collecting request response era)
  | .collecting request response era, .body frames =>
    match backgroundStore setup.parseHttpDate setup.config clocks.system request response
      frames with
    | none => shared.goto (.settling request.key)
    | some (head, body) =>
      (shared.insert request.key ⟨⟨head, body, clocks.instant⟩, ⟨request.headers, era⟩⟩
        .revalidated request.authorized).goto (.settling request.key)
  | .revalidating request _, .failed | .collecting request _ _, .failed =>
    shared.goto (.settling request.key)
  | .settling key, .go =>
    { shared with revalidating := shared.revalidating.filter (· ≠ key) }.finish
  | task, _ => shared.goto task

/-- `fetch_unsafe`. -/
def change (shared : Shared) : Task → Input → Shared × Option Task
  | .changing request, .response response =>
    if response.status.isSuccess || response.status.isRedirection then
      shared.goto (.invalidating request.targetKeys)
    else shared.finish
  | .changing _, .failed => shared.finish
  | .invalidating [], .go => shared.finish
  | .invalidating (key :: keys), .go => (shared.invalidate key).goto (.invalidating keys)
  | task, _ => shared.goto task

/-- `purge_at`. -/
def purge (shared : Shared) : Task → Input → Shared × Option Task
  | .clearing purge purgedAt, .go =>
    { shared with entries := .empty, cleared := max shared.cleared purge }.goto
      (.announcing purge purgedAt)
  | .announcing purge purgedAt, .go =>
    { shared with
      purgedAt := max shared.purgedAt purgedAt
      returned := max shared.returned purge }.finish
  | task, _ => shared.goto task

def advance (_ : Nat) (shared : Shared) (task : Task) (input : Clocks × Input) :
    Shared × Option Task :=
  match task with
  | .probing _ | .adopting _ _ | .spawning _ _ _ | .boarding _ _ | .following _ _ | .waiting _ _ =>
    shared.board setup input.1 task input.2
  | .asking _ _ _ | .arriving _ _ _ _ _ | .refreshing _ _ _ | .recording _ _ _ _ | .leaving _ =>
    shared.receive setup input.1 task input.2
  | .revalidating _ _ | .reading _ _ _ _ | .collecting _ _ _ | .settling _ =>
    shared.revalidate setup input.1 task input.2
  | .changing _ | .invalidating _ => shared.change task input.2
  | .clearing _ _ | .announcing _ _ => shared.purge task input.2

def begin (_ : Nat) (shared : Shared) : Call → Shared × Option Task
  | .fetch clocks method headers key authorized =>
    match CacheRequest.new method headers key authorized with
    | none => shared.finish
    | some request => shared.fetch setup clocks request
  | .purge unixMs =>
    { shared with started := shared.started + 1 }.goto (.clearing (shared.started + 1) unixMs)
  | .evict key => (shared.invalidate key).finish

end Accesses

end Shared

def program (setup : Setup) : Program Shared Task Call (Clocks × Input) :=
  ⟨Shared.begin setup, Shared.advance setup⟩

abbrev State := System Shared Task

abbrev start : State := System.start .empty

end R3v3rs3.Proxy.Http.Cache.Fetch
