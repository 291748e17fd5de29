/-
# R3v3rs3.Proxy.Http.Cache.Store -- when a response is stored, on the two ways to the store

A response to a request that missed the cache is recorded while the client receives it: the head
must pass `storableHead`, and the `Recorder` stores it when the declared length is reached or a
chunked body ends cleanly.  A revalidation in the background decides for itself: it collects the
body and stores it when `isStorable` holds and the body is small enough.

`foregroundStore` and `backgroundStore` are what the two ways store of one response with a
complete body.  `background_store_eq_iff` says exactly when they agree.  They do not for a response
with an `age`, for one that is neither fresh nor has a validator, for a body with trailers, and for
a body whose length is neither declared nor chunked: the background stores all of these.
-/
import R3v3rs3.Proxy.Http.Cache.Entry
import R3v3rs3.Theory.BodyStream

namespace R3v3rs3.Proxy.Http.Cache
open Api Theory Theory.BodyStream
set_option autoImplicit false

/-! ## The cache state of one request -/

/-- The parts of a key: `"{proto} {host} {path}"` or `"{host} {path}"`. -/
inductive KeyParts where
  | one
  | two (host path : List Char)
  | three (proto host path : List Char)

def keyParts (key : String) : KeyParts :=
  match Text.splitOnce ' ' key.toList with
  | none => .one
  | some (first, rest) =>
    match Text.splitOnce ' ' rest with
    | none => .two first rest
    | some (second, third) => .three first second third

def extractKeyPath (key : String) : String :=
  match keyParts key with
  | .three _ _ path => String.ofList path
  | .two _ path => String.ofList path
  | .one => key

def extractKeyHost (key : String) : String :=
  match keyParts key with
  | .three _ host _ => String.ofList host
  | .two host _ => String.ofList host
  | .one => ""

structure CacheRequest where
  key : String
  head : Bool
  /-- Headers of the upstream request, for `vary` and conditional requests. -/
  headers : HeaderMap
  /-- False when the client asks for a response that does not come from the cache. -/
  lookup : Bool
  /-- True when the client request had credentials. -/
  authorized : Bool
  unsafeMethod : Bool
  host : String
  path : String
  deriving DecidableEq

/-- `none` when the request cannot use or affect the cache. -/
def CacheRequest.new (method : Method) (headers : HeaderMap) (key : String) (authorized : Bool) :
    Option CacheRequest :=
  let unsafeMethod := isUnsafeMethod method
  if !unsafeMethod && !isCacheableRequest method headers then none
  else
    let headers := if unsafeMethod then headers else headers.remove "accept-encoding"
    some
      { key, headers, authorized, unsafeMethod
        head := method = .head
        lookup := !unsafeMethod && isLookupAllowed headers
        host := extractKeyHost key
        path := extractKeyPath key }

/-- The keys that a changing request takes out of the cache. -/
def CacheRequest.targetKeys (request : CacheRequest) : List String :=
  request.key ::
    if request.host ≠ "" ∧ request.path ≠ "" then
      ["http " ++ request.host ++ " " ++ request.path,
        "https " ++ request.host ++ " " ++ request.path, request.host ++ " " ++ request.path]
    else []

/-- The head of an upstream response. -/
structure Response where
  status : StatusCode
  headers : HeaderMap
  deriving DecidableEq

/-- What the trailers are is not looked at. -/
abbrev Frame := BodyStream.Frame Unit

/-! ## Recording a body -/

/-- A head and a body that go to the store. -/
abbrev Stored := StoredHead × List UInt8

structure Recorder where
  /-- `none` when the response cannot be stored. -/
  head : Option StoredHead
  buffer : List UInt8
  expected : Option Nat
  maxSize : Nat
  chunked : Bool
  deriving DecidableEq

namespace Recorder

variable (recorder : Recorder)

def abort : Recorder := { recorder with head := none, buffer := [] }

/-- The end of the body, with what is stored. -/
def finish (completedCleanly : Bool) : Recorder × Option Stored :=
  match recorder.head with
  | none => (recorder.abort, none)
  | some head =>
    if recorder.expected.any (· ≠ recorder.buffer.length) ||
        (recorder.expected.isNone && (!recorder.chunked || !completedCleanly)) then
      (recorder.abort, none)
    else (recorder.abort, some (head, recorder.buffer))

def extend (bytes : List UInt8) : Recorder :=
  { recorder with buffer := recorder.buffer ++ bytes }

def record : Frame → Recorder × Option Stored
  -- trailers are not stored, so a response with trailers is not stored
  | .trailers _ => (recorder.abort, none)
  | .data bytes =>
    if recorder.head.isNone then (recorder, none)
    else if recorder.maxSize < recorder.buffer.length + bytes.length then (recorder.abort, none)
    else if recorder.expected = some (recorder.extend bytes).buffer.length then
      (recorder.extend bytes).finish true
    else (recorder.extend bytes, none)

theorem finish_spec (clean : Bool) :
    (recorder.finish clean).1.head = none ∧
      ∀ stored ∈ (recorder.finish clean).2, recorder.head = some stored.1 := by
  unfold finish
  split
  · exact ⟨rfl, nofun⟩
  · rename_i head active
    split
    · exact ⟨rfl, nofun⟩
    · refine ⟨rfl, ?_⟩
      rintro _ ⟨⟩
      exact active

/-- A recorder keeps its head or gives it up, and what it stores has that head. -/
theorem record_spec (frame : Frame) :
    (∀ head ∈ (recorder.record frame).1.head, recorder.head = some head) ∧
      ∀ stored ∈ (recorder.record frame).2, recorder.head = some stored.1 := by
  cases frame with
  | trailers => exact ⟨nofun, nofun⟩
  | data bytes =>
    simp only [record]
    split
    · exact ⟨fun _ same => same, nofun⟩
    · split
      · exact ⟨nofun, nofun⟩
      · split
        · obtain ⟨gone, stored⟩ := (recorder.extend bytes).finish_spec true
          refine ⟨?_, stored⟩
          rw [gone]
          nofun
        · exact ⟨fun _ same => same, nofun⟩

/-- What is stored of a body that ends after the frames. -/
def run : Recorder → List Frame → Bool → Option Stored
  | recorder, [], clean => (recorder.finish clean).2
  | recorder, frame :: rest, clean =>
    (recorder.record frame).2.or ((recorder.record frame).1.run rest clean)

theorem run_aborted {recorder : Recorder} (aborted : recorder.head = none) (frames : List Frame)
    (clean : Bool) : recorder.run frames clean = none := by
  induction frames generalizing recorder with
  | nil => simp [run, finish, aborted]
  | cons frame rest ih =>
    cases frame with
    | trailers => exact ih rfl
    | data bytes =>
      have same : recorder.record (.data bytes) = (recorder, none) := by
        simp [record, aborted]
      rw [run, same]
      exact ih aborted

end Recorder

/-- The data frames up to a declared length: `none` when they miss it, and when trailers come
first. -/
def fills : Nat → List Frame → Option (List UInt8)
  | missing, [] => if missing = 0 then some [] else none
  | _, .trailers _ :: _ => none
  | missing, .data bytes :: rest =>
    if bytes.length = missing then some bytes
    else if bytes.length < missing then
      (fills (missing - bytes.length) rest).map (bytes ++ ·)
    else none

theorem length_of_fills {missing : Nat} {frames : List Frame} {body : List UInt8}
    (filled : fills missing frames = some body) : body.length = missing := by
  induction frames generalizing missing body with
  | nil =>
    unfold fills at filled
    split at filled
    · rename_i zero
      obtain rfl := Option.some.inj filled
      exact zero.symm
    · exact absurd filled nofun
  | cons frame rest ih =>
    cases frame with
    | trailers => exact absurd filled nofun
    | data =>
      unfold fills at filled
      split at filled
      · rename_i exact
        obtain rfl := Option.some.inj filled
        exact exact
      · split at filled
        · obtain ⟨tail, later, rfl⟩ := Option.map_eq_some_iff.mp filled
          have := ih later
          rw [List.length_append]
          omega
        · exact absurd filled nofun

namespace Recorder

section Runs

variable {recorder : Recorder} {head : StoredHead}

theorem extend_length (recorder : Recorder) (bytes : List UInt8) :
    (recorder.extend bytes).buffer.length = recorder.buffer.length + bytes.length :=
  List.length_append

section Active

variable (active : recorder.head = some head)
include active

/-- A frame that makes the body too large. -/
theorem run_large {bytes : List UInt8}
    (large : recorder.maxSize < recorder.buffer.length + bytes.length) (rest : List Frame)
    (clean : Bool) : recorder.run (.data bytes :: rest) clean = none := by
  have aborts : recorder.record (.data bytes) = (recorder.abort, none) := by
    simp [record, active, large]
  rw [run, aborts, Option.none_or]
  exact run_aborted rfl rest clean

/-- A frame after which more is expected, or too much was. -/
theorem run_grows {bytes : List UInt8}
    (small : ¬ recorder.maxSize < recorder.buffer.length + bytes.length)
    (differs : recorder.expected ≠ some (recorder.buffer.length + bytes.length)) (rest : List Frame)
    (clean : Bool) :
    recorder.run (.data bytes :: rest) clean = (recorder.extend bytes).run rest clean := by
  have grows : recorder.record (.data bytes) = (recorder.extend bytes, none) := by
    simp [record, active, small, extend_length, differs]
  rw [run, grows, Option.none_or]

omit active in
theorem expected_ne {length other : Nat} (declared : recorder.expected = some length)
    (differs : length ≠ other) : recorder.expected ≠ some other := by
  rw [declared, Ne, Option.some.injEq]
  exact differs

/-- A frame after which too much was expected. -/
theorem run_passes {length : Nat} {bytes : List UInt8} (declared : recorder.expected = some length)
    (differs : length ≠ recorder.buffer.length + bytes.length) {rest : List Frame} {clean : Bool}
    (later : (recorder.extend bytes).run rest clean = none) :
    recorder.run (.data bytes :: rest) clean = none := by
  by_cases large : recorder.maxSize < recorder.buffer.length + bytes.length
  · exact run_large active large rest clean
  · rwa [run_grows active large (expected_ne declared differs)]

/-- More than the declared length is never stored. -/
theorem run_exceeded {length : Nat} (declared : recorder.expected = some length)
    (exceeded : length < recorder.buffer.length) (frames : List Frame) (clean : Bool) :
    recorder.run frames clean = none := by
  induction frames generalizing recorder with
  | nil =>
    have differs : length ≠ recorder.buffer.length := by omega
    simp [run, finish, active, declared, differs]
  | cons frame rest ih =>
    cases frame with
    | trailers => exact run_aborted rfl rest clean
    | data bytes =>
      have longer := recorder.extend_length bytes
      refine run_passes active declared (by omega) ?_
      exact @ih (recorder.extend bytes) active declared (by omega)

/-- A body with a declared length is stored as the frames that make it up. -/
theorem run_declared {length : Nat} (declared : recorder.expected = some length)
    (small : length ≤ recorder.maxSize) (started : recorder.buffer.length ≤ length)
    (frames : List Frame) (clean : Bool) :
    recorder.run frames clean =
      (fills (length - recorder.buffer.length) frames).map fun body =>
        (head, recorder.buffer ++ body) := by
  induction frames generalizing recorder with
  | nil =>
    by_cases complete : length = recorder.buffer.length
    · simp [run, finish, active, declared, complete, fills]
    · have missing : length - recorder.buffer.length ≠ 0 := by omega
      simp [run, finish, active, declared, complete, fills, missing]
  | cons frame rest ih =>
    cases frame with
    | trailers => exact run_aborted rfl rest clean
    | data bytes =>
      have longer := recorder.extend_length bytes
      rcases Nat.lt_trichotomy (recorder.buffer.length + bytes.length) length with
        below | complete | above
      · have differs := expected_ne declared (Nat.ne_of_gt below)
        rw [run_grows active (by omega) differs, fills, if_neg (by omega), if_pos (by omega),
          @ih (recorder.extend bytes) active declared small (by omega), longer, ← Nat.sub_sub,
          Option.map_map]
        congr 1
        funext body
        simp [extend]
      · have stores : (recorder.record (.data bytes)).2 =
            some (head, recorder.buffer ++ bytes) := by
          have fits : ¬ recorder.maxSize < length := by omega
          simp [record, finish, extend, active, fits, declared, complete]
        rw [run, stores, fills, if_pos (by omega)]
        rfl
      · rw [fills, if_neg (by omega), if_neg (by omega)]
        refine run_passes active declared (Nat.ne_of_lt above) ?_
        exact @run_exceeded (recorder.extend bytes) head active length declared (by omega) rest clean

/-- A body without a declared length is stored whole: chunked, ended cleanly, without trailers and
within the size. -/
theorem run_undeclared (undeclared : recorder.expected = none)
    (started : recorder.buffer.length ≤ recorder.maxSize) (frames : List Frame) (clean : Bool) :
    recorder.run frames clean =
      if recorder.chunked ∧ clean ∧ Frame.trailers () ∉ frames ∧
          recorder.buffer.length + (content frames).length ≤ recorder.maxSize then
        some (head, recorder.buffer ++ content frames)
      else none := by
  induction frames generalizing recorder with
  | nil =>
    cases chunked : recorder.chunked <;> cases clean <;>
      simp [run, finish, active, undeclared, chunked, started]
  | cons frame rest ih =>
    cases frame with
    | trailers =>
      rw [if_neg (by simp)]
      exact run_aborted rfl rest clean
    | data bytes =>
      have longer := recorder.extend_length bytes
      by_cases large : recorder.maxSize < recorder.buffer.length + bytes.length
      · rw [run_large active large, if_neg]
        rintro ⟨-, -, -, fits⟩
        rw [content_cons, Frame.bytes_data, List.length_append] at fits
        omega
      · rw [run_grows active large (by rw [undeclared]; nofun),
          @ih (recorder.extend bytes) active undeclared (by rw [longer]; exact Nat.le_of_not_lt large)]
        simp [extend, Nat.add_assoc]

end Active

end Runs

end Recorder

/-! ## The two ways to the store -/

section Ways

variable (parseHttpDate : List Char → Option SystemTime) (config : CacheConfig)

/-- Neither a declared length nor chunks: the end of the body cannot be told from a cut. -/
def isUnframed (headers : HeaderMap) : Bool :=
  (contentLength headers).isNone && !isChunked headers

def isTooLarge (headers : HeaderMap) : Bool :=
  (contentLength headers).any (config.maxEntrySize < ·)

/-- Stale at once and without anything to revalidate it by. -/
def isUseless (clock : SystemTime) (headers : HeaderMap) : Bool :=
  freshness parseHttpDate clock headers config.defaultTtl = .zero && !hasValidator headers

def storableHead (clock : SystemTime) (request : CacheRequest) (response : Response) :
    Option StoredHead :=
  if request.head || !isStorable response.status response.headers request.authorized then none
  else if isUnframed response.headers then none
  else if isTooLarge config response.headers ||
      isUseless parseHttpDate config clock response.headers then none
  else do
    let vary ← varyValues response.headers request.headers
    some
      { status := response.status
        headers := response.headers
        vary
        initialAge := age response.headers
        freshness := freshness parseHttpDate clock response.headers config.defaultTtl }

/-- The recorder that a response whose head is stored starts with. -/
def Recorder.start (head : StoredHead) (response : Response) : Recorder :=
  { head := some head
    buffer := []
    expected := contentLength response.headers
    maxSize := config.maxEntrySize
    chunked := isChunked response.headers }

/-- What the miss path stores of a response and its complete body. -/
def foregroundStore (clock : SystemTime) (request : CacheRequest) (response : Response)
    (frames : List Frame) (clean : Bool) : Option Stored :=
  (storableHead parseHttpDate config clock request response).bind fun head =>
    (Recorder.start config head response).run frames clean

/-- What `run_background_revalidation` stores of a response other than a `304` and its complete
body; it looks at the clock after the body. -/
def backgroundStore (clock : SystemTime) (request : CacheRequest) (response : Response)
    (frames : List Frame) : Option Stored :=
  if !isStorable response.status response.headers request.authorized || request.head then none
  else
    let body := content frames
    if config.maxEntrySize < body.length then none
    else do
      let vary ← varyValues response.headers request.headers
      some
        ({ status := response.status
           headers := response.headers
           vary
           initialAge := .zero
           freshness := freshness parseHttpDate clock response.headers config.defaultTtl },
          body)

/-- The body that the recorder gets together. -/
def delivered (headers : HeaderMap) (frames : List Frame) (clean : Bool) : Option (List UInt8) :=
  match contentLength headers with
  | some length => if length ≤ config.maxEntrySize then fills length frames else none
  | none =>
    if isChunked headers ∧ clean ∧ Frame.trailers () ∉ frames ∧
        (content frames).length ≤ config.maxEntrySize then some (content frames)
    else none

variable {parseHttpDate config} {clock later : SystemTime} {request : CacheRequest}
  {response : Response} {frames : List Frame} {clean : Bool}

variable {head : StoredHead}

theorem run_start (small : isTooLarge config response.headers = false) :
    (Recorder.start config head response).run frames clean =
      (delivered config response.headers frames clean).map fun body => (head, body) := by
  unfold delivered
  split
  · rename_i length declared
    have fits : length ≤ config.maxEntrySize := by
      rw [isTooLarge, declared, Option.any_some, decide_eq_false_iff_not] at small
      exact Nat.le_of_not_lt small
    rw [if_pos fits]
    exact Recorder.run_declared rfl declared fits (Nat.zero_le _) frames clean
  · rename_i undeclared
    rw [Recorder.run_undeclared rfl undeclared (Nat.zero_le _) frames clean]
    simp only [Recorder.start, List.length_nil, Nat.zero_add, List.nil_append]
    split <;> rfl

/-- Nothing comes together of a body that is not framed or declared too large. -/
theorem delivered_refused
    (refused : isUnframed response.headers = true ∨ isTooLarge config response.headers = true) :
    delivered config response.headers frames clean = none := by
  unfold delivered
  split
  · rename_i length declared
    have large : ¬ length ≤ config.maxEntrySize := by
      simpa [isUnframed, isTooLarge, declared] using refused
    rw [if_neg large]
  · rename_i undeclared
    have plain : isChunked response.headers = false := by
      simpa [isUnframed, isTooLarge, undeclared] using refused
    rw [if_neg (by simp [plain])]

/-- The conditions that both ways ask of a head. -/
structure Accepted (request : CacheRequest) (response : Response)
    (vary : List (HeaderName × Option HeaderValue)) : Prop where
  plain : request.head = false
  storable : isStorable response.status response.headers request.authorized = true
  values : varyValues response.headers request.headers = some vary

theorem accepted_of_storableHead
    (found : storableHead parseHttpDate config clock request response = some head) :
    head.status = response.status ∧ head.headers = response.headers ∧
      Accepted request response head.vary := by
  unfold storableHead at found
  split at found
  · exact absurd found nofun
  · rename_i passed
    rw [Bool.or_eq_true, Bool.not_eq_true', not_or, Bool.not_eq_true, Bool.not_eq_false] at passed
    split at found
    · exact absurd found nofun
    · split at found
      · exact absurd found nofun
      · simp only [Option.bind_eq_bind, Option.bind_eq_some_iff, Option.some.injEq] at found
        obtain ⟨vary, values, rfl⟩ := found
        exact ⟨rfl, rfl, passed.1, passed.2, values⟩

theorem accepted_of_backgroundStore {body : List UInt8}
    (found : backgroundStore parseHttpDate config later request response frames =
      some (head, body)) :
    head.status = response.status ∧ head.headers = response.headers ∧
      Accepted request response head.vary := by
  unfold backgroundStore at found
  split at found
  · exact absurd found nofun
  · rename_i passed
    rw [Bool.or_eq_true, Bool.not_eq_true', not_or, Bool.not_eq_true, Bool.not_eq_false] at passed
    dsimp only at found
    split at found
    · exact absurd found nofun
    · simp only [Option.bind_eq_bind, Option.bind_eq_some_iff, Option.some.injEq,
        Prod.mk.injEq] at found
      obtain ⟨vary, values, rfl, -⟩ := found
      exact ⟨rfl, rfl, passed.2, passed.1, values⟩

variable {vary : List (HeaderName × Option HeaderValue)}

theorem foregroundStore_accepted (accepted : Accepted request response vary) :
    foregroundStore parseHttpDate config clock request response frames clean =
      if isUseless parseHttpDate config clock response.headers then none
      else
        (delivered config response.headers frames clean).map fun body =>
          (⟨response.status, response.headers, vary, age response.headers,
            freshness parseHttpDate clock response.headers config.defaultTtl⟩, body) := by
  obtain ⟨plain, storable, values⟩ := accepted
  unfold foregroundStore storableHead
  rw [if_neg (by simp [plain, storable])]
  by_cases unframed : isUnframed response.headers = true
  · rw [if_pos unframed, delivered_refused (.inl unframed)]
    simp
  · rw [if_neg unframed]
    cases large : isTooLarge config response.headers with
    | true =>
      rw [delivered_refused (.inr large)]
      simp
    | false =>
      rw [Bool.false_or, values]
      by_cases useless : isUseless parseHttpDate config clock response.headers = true
      · simp [useless]
      · rw [if_neg useless, if_neg useless]
        exact run_start large

theorem backgroundStore_accepted (accepted : Accepted request response vary) :
    backgroundStore parseHttpDate config later request response frames =
      if config.maxEntrySize < (content frames).length then none
      else
        some (⟨response.status, response.headers, vary, .zero,
          freshness parseHttpDate later response.headers config.defaultTtl⟩, content frames) := by
  obtain ⟨plain, storable, values⟩ := accepted
  unfold backgroundStore
  rw [if_neg (by simp [plain, storable]), values]
  rfl

/-- Neither way stores what is not accepted. -/
theorem stores_refused (refused : ∀ vary, ¬ Accepted request response vary) :
    foregroundStore parseHttpDate config clock request response frames clean = none ∧
      backgroundStore parseHttpDate config later request response frames = none := by
  constructor
  · have none : storableHead parseHttpDate config clock request response = none := by
      cases found : storableHead parseHttpDate config clock request response with
      | none => rfl
      | some head => exact absurd (accepted_of_storableHead found).2.2 (refused head.vary)
    rw [foregroundStore, none]
    rfl
  · cases found : backgroundStore parseHttpDate config later request response frames with
    | none => rfl
    | some stored => exact absurd (accepted_of_backgroundStore found).2.2 (refused stored.1.vary)

/-- The recorder gets the whole body: the declared length is that of the frames before any
trailers, or a chunked body without trailers ends cleanly. -/
def Whole (headers : HeaderMap) (frames : List Frame) (clean : Bool) : Prop :=
  match contentLength headers with
  | some length => fills length frames = some (content frames)
  | none => isChunked headers = true ∧ clean = true ∧ Frame.trailers () ∉ frames

theorem delivered_content_iff (small : (content frames).length ≤ config.maxEntrySize) :
    delivered config response.headers frames clean = some (content frames) ↔
      Whole response.headers frames clean := by
  unfold delivered Whole
  cases contentLength response.headers with
  | some length =>
    show (if length ≤ config.maxEntrySize then fills length frames else none) = _ ↔ _
    constructor
    · intro filled
      split at filled
      · exact filled
      · exact absurd filled nofun
    · intro filled
      rw [if_pos (length_of_fills filled ▸ small), filled]
  | none => simp [small]

/-- **Where the two ways store the same.**  Of a response that both accept, the miss path stores
what the background stores exactly when the response is useful, came without an age, has one
freshness at both readings of the clock and its body is recorded whole; of a body that is too large
for the background, exactly when the recorder stores no declared part of it either. -/
theorem background_store_eq_iff (parseHttpDate : List Char → Option SystemTime)
    (config : CacheConfig) (clock later : SystemTime) (request : CacheRequest)
    (response : Response) (frames : List Frame) (clean : Bool) :
    backgroundStore parseHttpDate config later request response frames =
        foregroundStore parseHttpDate config clock request response frames clean ↔
      ∀ vary, Accepted request response vary →
        if (content frames).length ≤ config.maxEntrySize then
          isUseless parseHttpDate config clock response.headers = false ∧
            age response.headers = .zero ∧
            freshness parseHttpDate clock response.headers config.defaultTtl =
              freshness parseHttpDate later response.headers config.defaultTtl ∧
            Whole response.headers frames clean
        else
          isUseless parseHttpDate config clock response.headers = true ∨
            ∀ length ∈ contentLength response.headers, length ≤ config.maxEntrySize →
              fills length frames = none := by
  by_cases refused : ∀ vary, ¬ Accepted request response vary
  · obtain ⟨foreground, background⟩ := stores_refused refused
    rw [foreground, background]
    exact iff_of_true rfl fun vary accepted => absurd accepted (refused vary)
  · obtain ⟨vary, accepted⟩ := not_forall_not.mp refused
    refine Iff.trans ?_ ⟨fun holds _ _ => holds, fun all => all vary accepted⟩
    rw [foregroundStore_accepted accepted, backgroundStore_accepted accepted]
    by_cases small : (content frames).length ≤ config.maxEntrySize
    · rw [if_neg (Nat.not_lt.mpr small), if_pos small, ← delivered_content_iff small]
      cases isUseless parseHttpDate config clock response.headers with
      | true => simp
      | false =>
        rw [if_neg Bool.false_ne_true, eq_comm, Option.map_eq_some_iff]
        simp only [Prod.mk.injEq, StoredHead.mk.injEq, true_and]
        constructor
        · rintro ⟨body, whole, ⟨young, same⟩, rfl⟩
          exact ⟨young, same, whole⟩
        · rintro ⟨young, same, whole⟩
          exact ⟨_, whole, ⟨young, same⟩, rfl⟩
    · have large : config.maxEntrySize < (content frames).length := Nat.lt_of_not_le small
      rw [if_pos large, if_neg small]
      cases isUseless parseHttpDate config clock response.headers with
      | true => simp
      | false =>
        rw [if_neg Bool.false_ne_true, eq_comm, Option.map_eq_none_iff, delivered]
        cases contentLength response.headers with
        | some => simp
        | none => simp [large]

end Ways

/-- A response of sixty seconds that is thirty seconds old: the miss path stores it with its age,
the background as a new one. -/
theorem background_forgets_age :
    let config : CacheConfig := ⟨true, 1000, 100, .zero, .zero⟩
    let request : CacheRequest := ⟨"a /", false, ⟨[]⟩, true, false, false, "a", "/"⟩
    let headers : HeaderMap :=
      ⟨[("cache-control", bytes "max-age=60"), ("age", bytes "30"), ("content-length", bytes "2")]⟩
    let frames := [Frame.data [104, 105]]
    foregroundStore (fun _ => none) config .zero request ⟨.ok, headers⟩ frames true =
        some (⟨.ok, headers, [], .fromSecs 30, .fromSecs 60⟩, [104, 105]) ∧
      backgroundStore (fun _ => none) config .zero request ⟨.ok, headers⟩ frames =
        some (⟨.ok, headers, [], .zero, .fromSecs 60⟩, [104, 105]) ∧
      Duration.fromSecs 30 ≠ Duration.zero := by
  decide

/-! ## A body that is polled -/

/-- What a poll gives before the end of the body. -/
inductive Polled where
  | frame (frame : Frame)
  | error

/-- The recorder treats an error as it treats trailers. -/
def Polled.toFrame : Polled → Frame
  | .frame next => next
  | .error => .trailers ()

/-- `RecordingBody::poll_frame`: the recorder, what it stores, and what the client receives. -/
def Recorder.pollFrame (recorder : Recorder) : Polled → (Recorder × Option Stored) × Polled
  | .frame next => (recorder.record next, .frame next)
  | .error => ((recorder.abort, none), .error)

/-- What the client receives of a body, and what is stored of it: the body is polled to its end,
clean or not, or no longer. -/
def Recorder.poll : Recorder → List Polled → Option Bool → List Polled × Option Stored
  | _, [], none => ([], none)
  | recorder, [], some clean => ([], (recorder.finish clean).2)
  | recorder, next :: rest, ending =>
    let ((after, stored), sent) := recorder.pollFrame next
    (sent :: (after.poll rest ending).1, stored.or (after.poll rest ending).2)

/-- The frames that the recorder sees; where the polls stop, it never sees an end. -/
def seen (polls : List Polled) (ending : Option Bool) : List Frame :=
  polls.map Polled.toFrame ++ if ending = none then [.trailers ()] else []

theorem Recorder.poll_eq (recorder : Recorder) (polls : List Polled) (ending : Option Bool) :
    recorder.poll polls ending =
      (polls, recorder.run (seen polls ending) (ending.getD true)) := by
  induction polls generalizing recorder with
  | nil => cases ending <;> rfl
  | cons next rest ih => cases next <;> simp only [poll, pollFrame, ih] <;> rfl

theorem prefix_of_fills {missing : Nat} {frames : List Frame} {body : List UInt8}
    (filled : fills missing frames = some body) : body <+: content frames := by
  fun_induction fills missing frames generalizing body with
  | case1 | case2 | case3 | case6 => simp_all
  | case4 =>
    cases filled
    exact List.prefix_append _ _
  | case5 missing bytes rest _ _ ih =>
    obtain ⟨tail, later, rfl⟩ := Option.map_eq_some_iff.mp filled
    exact (List.prefix_append_right_inj bytes).mpr (ih later)

theorem content_seen (polls : List Polled) (ending : Option Bool) :
    content (seen polls ending) = content (polls.map Polled.toFrame) := by
  rw [seen, content, List.flatMap_append, content]
  cases ending <;> simp

section Polls

variable (parseHttpDate : List Char → Option SystemTime) (config : CacheConfig) (clock : SystemTime)
  (request : CacheRequest) (response : Response) (polls : List Polled) (ending : Option Bool)

/-- What the client receives and what is stored of a response that missed: its body is recorded where
its head can be stored, and else goes on as it is. -/
def store : List Polled × Option Stored :=
  match storableHead parseHttpDate config clock request response with
  | none => (polls, none)
  | some head => (Recorder.start config head response).poll polls ending

/-- The client receives the frames unchanged, and what is stored is the whole body: no error and no
trailers came, and it has the size allowed and the length declared. -/
def Faithful : Prop :=
  let (received, stored) := store parseHttpDate config clock request response polls ending
  received = polls ∧ ∀ entry ∈ stored,
    (∀ poll ∈ polls, poll.toFrame ≠ .trailers ()) ∧ entry.2 = content (polls.map Polled.toFrame) ∧
      entry.2.length ≤ config.maxEntrySize ∧
      ∀ length ∈ contentLength response.headers, entry.2.length = length

/-- **A response is recorded faithfully if and only if nothing comes after its declared length.** -/
theorem recorded_faithfully_iff :
    Faithful parseHttpDate config clock request response polls ending ↔
      (storableHead parseHttpDate config clock request response ≠ none →
        ∀ length ∈ contentLength response.headers, fills length (seen polls ending) ≠ none →
          (∀ poll ∈ polls, poll.toFrame ≠ .trailers ()) ∧
            (content (polls.map Polled.toFrame)).length = length) := by
  unfold Faithful store
  cases found : storableHead parseHttpDate config clock request response with
  | none => simp
  | some =>
    have small : isTooLarge config response.headers = false := by
      unfold storableHead at found
      repeat' split at found
      all_goals simp_all
    simp only [Recorder.poll_eq, run_start small, true_and, delivered]
    cases declared : contentLength response.headers with
    | none =>
      refine iff_of_true (fun entry stored => ?_) (by simp)
      obtain ⟨body, kept, rfl⟩ := Option.map_eq_some_iff.mp stored
      dsimp only at kept
      split at kept
      · rename_i complete
        obtain ⟨-, -, plain, size⟩ := complete
        cases kept
        refine ⟨fun poll member trailers => plain ?_, content_seen polls ending, size, nofun⟩
        exact List.mem_append_left _ (List.mem_map.mpr ⟨poll, member, trailers⟩)
      · cases kept
    | some length =>
      have fits : length ≤ config.maxEntrySize := by
        simpa [isTooLarge, declared] using small
      cases filled : fills length (seen polls ending) with
      | none => simp [fits, filled]
      | some =>
        have exact := length_of_fills filled
        have start := prefix_of_fills filled
        rw [content_seen] at start
        simp only [fits, if_true, filled, Option.map_some, Option.mem_def, Option.some.injEq, ne_eq,
          forall_eq', reduceCtorEq, not_false_eq_true, forall_const, and_congr_right_iff]
        intro plain
        constructor
        · rintro ⟨whole, -, -⟩
          rw [← whole, exact]
        · intro size
          exact ⟨start.eq_of_length (exact.trans size.symm), by omega, exact⟩

end Polls

/-- Trailers after the declared two bytes: the entry is stored before they come. -/
theorem stored_before_trailers :
    let config : CacheConfig := ⟨true, 1000, 100, .zero, .zero⟩
    let request : CacheRequest := ⟨"a /", false, ⟨[]⟩, true, false, false, "a", "/"⟩
    let headers : HeaderMap :=
      ⟨[("cache-control", bytes "max-age=60"), ("content-length", bytes "2")]⟩
    let polls := [Polled.frame (.data [104, 105]), .frame (.trailers ())]
    (store (fun _ => none) config .zero request ⟨.ok, headers⟩ polls (some true)).2 =
        some (⟨.ok, headers, [], .zero, .fromSecs 60⟩, [104, 105]) ∧
      ¬ Faithful (fun _ => none) config .zero request ⟨.ok, headers⟩ polls (some true) := by
  intro config request headers polls
  refine ⟨?stored, fun faithful => (faithful.2 _ ?stored).1 _ (List.mem_of_getLast? rfl) rfl⟩
  decide

end R3v3rs3.Proxy.Http.Cache
