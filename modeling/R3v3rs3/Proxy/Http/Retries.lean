/-
# R3v3rs3.Proxy.Http.Retries -- the copies of a request that go to upstream servers

`select` points a request at the first candidate.  The loop of `sendWithRetries` takes a permit for
the next candidate that lets a request through, points the request at it if that is not the first
one, and sends; a failure that the retry policy names sends another copy, as long as there is one.
A copy is made only of a request whose body is known to be short, and that body is read into memory
first.

The permits and the network are a parameter (`Servers`), with any state of their own: what other
requests do to the circuits meanwhile is part of it.  One round of the loop keeps `Going`, or ends
the loop with `Done`, and `retries_are_sound` is what follows for a whole request.
-/
import R3v3rs3.Proxy.Health
import R3v3rs3.Proxy.Http.Cache.Rules
import R3v3rs3.Proxy.Http.RequestBody
import R3v3rs3.Proxy.Http.UpstreamUrl

namespace R3v3rs3.Proxy.Http.Retries
open Api Theory Theory.UrlPath Theory.BodyStream
open Proxy.Health (Outcome)
open Proxy.Http.Cache (Method StatusCode)
open Proxy.Http.UpstreamUrl (Url Rewrite upstreamUri upstreamUrl)
open MultiMap (getAll_insert getAll_insertSome)
set_option autoImplicit false

/-! ## Requests and errors -/

inductive RetryOn where
  | connect
  | timeout
  | http502
  | http503
  | http504
  deriving DecidableEq

structure RetryPolicy where
  attempts : Nat
  retryOn : List RetryOn
  replayBodyLimit : Nat

/-- The errors of the proxy that an upstream call can end with. -/
inductive ProxyError where
  | noUpstreamServers
  | noUpstreamAvailable
  | upstreamUriInvalid
  | upstreamTimeout
  | payloadTooLarge
  deriving DecidableEq

/-- An error of the proxy, or of a library. -/
inductive Fault (Foreign : Type) where
  | proxy (error : ProxyError)
  /-- A body that is longer than it was to be read. -/
  | lengthLimit
  | foreign (error : Foreign)
  /-- The error of a library around another one. -/
  | wrapped (inner : Fault Foreign)
  deriving DecidableEq

/-- `connect` when the server received nothing. -/
structure SendError (Foreign : Type) where
  error : Fault Foreign
  connect : Bool
  deriving DecidableEq

def SendError.other {Foreign : Type} (error : Fault Foreign) : SendError Foreign := ⟨error, false⟩

abbrev ProxyBody (Foreign : Type) := Body HeaderMap (Fault Foreign)

/-- The URI of a request: the one that the client sent, or one that was built for a server. -/
inductive RequestUri where
  | client (query : Option (List Char))
  | server (url : Url)

def RequestUri.query : RequestUri → Option (List Char)
  | .client query => query
  | .server url => url.query

structure Request (Content : Type) where
  method : Method
  uri : RequestUri
  headers : HeaderMap
  body : Content

structure Response (Content : Type) where
  status : StatusCode
  body : Content
  deriving DecidableEq

abbrev Answer (Foreign Content : Type) := Except (SendError Foreign) (Response Content)

/-- The `host` that the server gets.  The HTTP library derives it from the URI where the request has
none. -/
def Request.hostSent {Content : Type} (req : Request Content) : List HeaderValue :=
  match req.headers.getAll "host", req.uri with
  | [], .server url => [bytes (String.ofList url.authority)]
  | values, _ => values

/-- Which texts are URIs to the HTTP library; the authority of a URI is visible ASCII. -/
structure UriRules where
  isUri : List Char → Bool
  authority_visible : ∀ url : Url, isUri url.text = true →
    ∀ c ∈ url.authority, 33 ≤ c.toNat ∧ c.toNat < 127

/-! ## The upstream of a route -/

/-- The sticky cookie of a route. -/
structure Affinity where
  name : String
  /-- The server whose signed token a cookie of the request has. -/
  pinned : HeaderMap → Option Nat
  setCookie : Nat → Bool → Option HeaderValue

structure Upstream where
  servers : List Url
  retry : RetryPolicy
  affinity : Option Affinity
  rewrite : Rewrite

structure StickyTarget where
  pinned : Option Nat
  secure : Bool

/-- The servers to try in order, and what their URIs are built from. -/
structure UpstreamTarget where
  candidates : List Nat
  pathSegments : List Segment
  query : Option (List Char)
  sticky : Option StickyTarget

section Upstream

variable (uris : UriRules) (upstream : Upstream)

/-- Points the request at the server. -/
def apply {Content : Type} (req : Request Content) (index : Nat) (target : UpstreamTarget) :
    Except ProxyError (Request Content) :=
  match upstream.servers[index]? with
  | none => .error .noUpstreamServers
  | some server =>
    match upstreamUri uris.isUri server target.pathSegments target.query with
    | .error .upstreamUriInvalid => .error .upstreamUriInvalid
    | .ok url =>
      .ok { req with
        uri := .server url
        headers := req.headers.insertSome "host"
          (HeaderValue.fromStr (String.ofList url.authority)) }

/-- The server of the sticky cookie goes to the front, and the cookie out of the request. -/
def pin (affinity : Affinity) (isPinnable : Nat → Bool) (headers : HeaderMap)
    (candidates : List Nat) (secure : Bool) : HeaderMap × List Nat × StickyTarget :=
  let pinned := (affinity.pinned headers).filter isPinnable
  let candidates :=
    match pinned with
    | some index => index :: candidates.filter (· ≠ index)
    | none => candidates
  (removeCookie affinity.name headers, candidates, ⟨pinned, secure⟩)

/-- The headers without the sticky cookie, and the target.  `candidates` and `isPinnable` are what
the group of the servers says. -/
def chooseTarget (candidates : List Nat) (isPinnable : Nat → Bool) (secure : Bool)
    (segments : List Segment) (query : Option (List Char)) (headers : HeaderMap) :
    HeaderMap × UpstreamTarget :=
  match upstream.affinity with
  | some affinity =>
    let (headers, candidates, sticky) := pin affinity isPinnable headers candidates secure
    (headers, ⟨candidates, upstream.rewrite.apply segments, query, some sticky⟩)
  | none => (headers, ⟨candidates, upstream.rewrite.apply segments, query, none⟩)

/-- A route without a server leaves the request unchanged. -/
def select {Content : Type} (candidates : List Nat) (isPinnable : Nat → Bool) (secure : Bool)
    (segments : List Segment) (req : Request Content) :
    Except ProxyError (Request Content × Option UpstreamTarget) :=
  if upstream.servers.isEmpty then .ok (req, none)
  else
    let (headers, target) :=
      chooseTarget upstream candidates isPinnable secure segments req.uri.query req.headers
    match target.candidates.head? with
    | none => .ok ({ req with headers }, some target)
    | some first =>
      match apply uris upstream { req with headers } first target with
      | .ok req => .ok (req, some target)
      | .error error => .error error

/-- The cookie of the response once the server has answered. -/
def remember (target : UpstreamTarget) (index : Nat) (slot : Option HeaderValue) :
    Option HeaderValue :=
  match upstream.affinity, target.sticky with
  | some affinity, some sticky =>
    if sticky.pinned = some index then none else affinity.setCookie index sticky.secure
  | _, _ => slot

end Upstream

/-! ## Copies of a request -/

/-- The request of the first try, and what later tries are made of. -/
structure Replay (Foreign : Type) where
  first : Option (Request (ProxyBody Foreign))
  copy : Option (Request (List UInt8))
  method : Method

section Replays

variable {Foreign : Type}

def bodyLength (req : Request (ProxyBody Foreign)) : Option Nat :=
  req.body.size.or (RequestBody.declaredLength req.headers)

/-- A request that is not kept for another try. -/
def isStreamed (limit : Nat) (req : Request (ProxyBody Foreign)) : Bool :=
  req.headers.contains "upgrade" || ((bodyLength req).filter (· ≤ limit)).isNone

def Replay.prepare (limit : Nat) (req : Request (ProxyBody Foreign)) :
    Except (SendError Foreign) (Replay Foreign) :=
  if isStreamed limit req then .ok ⟨some req, none, req.method⟩
  else if req.body.size = some 0 then .ok ⟨some req, some { req with body := [] }, req.method⟩
  else
    match (req.body.limited limit .lengthLimit).collect with
    | .ok bytes =>
      .ok ⟨some { req with body := .full bytes }, some { req with body := bytes }, req.method⟩
    | .error fault => .error (.other (.wrapped fault))

/-- The request of the first try, then a new copy each time. -/
def Replay.next (replay : Replay Foreign) :
    Option (Request (ProxyBody Foreign)) × Replay Foreign :=
  match replay.first with
  | some req => (some req, { replay with first := none })
  | none => (replay.copy.map fun copy => { copy with body := .full copy.body }, replay)

end Replays

/-! ## Failures -/

section Failures

variable {Foreign Content : Type}

def retryReason : Answer Foreign Content → Option RetryOn
  | .error ⟨_, true⟩ => some .connect
  | .error ⟨.proxy .upstreamTimeout, false⟩ => some .timeout
  | .error _ => none
  | .ok response =>
    match response.status.code with
    | 502 => some .http502
    | 503 => some .http503
    | 504 => some .http504
    | _ => none

def isIdempotent : Method → Bool
  | .get | .head | .options | .trace | .put | .delete => true
  | _ => false

def shouldRetry (policy : RetryPolicy) (answer : Answer Foreign Content) (method : Method) : Bool :=
  (retryReason answer).any fun reason =>
    reason ∈ policy.retryOn && (reason = .connect || isIdempotent method)

/-- The text of a 502, 503 or 504. -/
def gatewayError (status : StatusCode) : Option String :=
  match status.code with
  | 502 => some "502 Bad Gateway"
  | 503 => some "503 Service Unavailable"
  | 504 => some "504 Gateway Timeout"
  | _ => none

/-- `record_response_permit`: how the permit ends.  `display` is how errors are shown. -/
def recordedOutcome (display : Fault Foreign → String) : Answer Foreign Content → Outcome
  | .ok response =>
    match gatewayError response.status with
    | some text => .errorResponse ("the server answered " ++ text)
    | none => .successKeep
  | .error failed => .failure (display failed.error)

/-- The policy names the failure, and the method allows another try after it. -/
def Named (policy : RetryPolicy) (method : Method) (answer : Answer Foreign Content) : Prop :=
  ∃ reason, retryReason answer = some reason ∧ reason ∈ policy.retryOn ∧
    (reason = .connect ∨ isIdempotent method = true)

theorem shouldRetry_iff {policy : RetryPolicy} {method : Method}
    {answer : Answer Foreign Content} :
    shouldRetry policy answer method = true ↔ Named policy method answer := by
  unfold shouldRetry Named
  cases retryReason answer with
  | none | some => simp

end Failures

/-! ## The loop -/

/-- The right to send one request to a server. -/
structure Permit where
  index : Nat
  trial : Bool

/-- The permits of the servers, and the network. -/
structure Servers (σ Foreign Content : Type) where
  /-- `some true` for a trial. -/
  acquire : Nat → σ → Option Bool × σ
  send : Request (ProxyBody Foreign) → σ → Answer Foreign Content × σ
  finish : Permit → Outcome → σ → σ
  display : Fault Foreign → String

/-- A copy that was sent under the permit of a server. -/
structure Copy (Foreign Content : Type) where
  index : Nat
  request : Request (ProxyBody Foreign)
  answer : Answer Foreign Content

/-- The state of the loop.  `claimed` are the servers that a permit was taken for, `sent` the copies. -/
structure Progress (σ Foreign Content : Type) where
  replay : Replay Foreign
  candidates : List Nat
  result : Answer Foreign Content
  cookie : Option HeaderValue
  servers : σ
  claimed : List Nat
  sent : List (Copy Foreign Content)

section Loop

variable {σ Foreign Content : Type} (uris : UriRules) (upstream : Upstream)
  (world : Servers σ Foreign Content) (target : UpstreamTarget)

/-- The first candidate that lets the request through, and the candidates after it. -/
def findPermit : List Nat → σ → Option Permit × List Nat × σ
  | [], servers => (none, [], servers)
  | index :: rest, servers =>
    match world.acquire index servers with
    | (some trial, servers) => (some ⟨index, trial⟩, rest, servers)
    | (none, servers) => findPermit rest servers

/-- The request of `claim` for the server of the permit. -/
def pointAt (req : Request (ProxyBody Foreign)) (index : Nat) :
    Except ProxyError (Request (ProxyBody Foreign)) :=
  if target.candidates.head? = some index then .ok req else apply uris upstream req index target

/-- Sends the request and records the result. -/
def attempt (req : Request (ProxyBody Foreign)) (permit : Permit) (servers : σ) :
    Answer Foreign Content × σ :=
  let (answer, servers) := world.send req servers
  (answer, world.finish permit (recordedOutcome world.display answer) servers)

/-- The loop after a copy was sent. -/
def deliver (p : Progress σ Foreign Content) (replay : Replay Foreign) (candidates : List Nat)
    (req : Request (ProxyBody Foreign)) (permit : Permit) (servers : σ) :
    Progress σ Foreign Content :=
  let (answer, servers) := attempt world req permit servers
  { replay, candidates, servers
    result := answer
    cookie := if answer.isOk then remember upstream target permit.index p.cookie else p.cookie
    claimed := p.claimed ++ [permit.index]
    sent := p.sent ++ [⟨permit.index, req, answer⟩] }

/-- One round, and whether another one follows. -/
def round (p : Progress σ Foreign Content) : Progress σ Foreign Content × Bool :=
  match p.replay.next with
  | (none, replay) => ({ p with replay }, false)
  | (some req, replay) =>
    match findPermit world p.candidates p.servers with
    | (none, candidates, servers) => ({ p with replay, candidates, servers }, false)
    | (some permit, candidates, servers) =>
      match pointAt uris upstream target req permit.index with
      | .error error =>
        -- the permit is dropped without a report
        ({ p with
          replay, candidates
          claimed := p.claimed ++ [permit.index]
          result := .error (.other (.proxy error))
          servers := world.finish permit .dropped servers }, false)
      | .ok req =>
        let next := deliver upstream world target p replay candidates req permit servers
        (next, shouldRetry upstream.retry next.result replay.method)

def rounds : Nat → Progress σ Foreign Content → Progress σ Foreign Content
  | 0, p => p
  | left + 1, p =>
    match round uris upstream world target p with
    | (next, true) => rounds left next
    | (next, false) => next

def start (replay : Replay Foreign) (servers : σ) : Progress σ Foreign Content where
  replay := replay
  candidates := target.candidates
  result := .error (.other (.proxy .noUpstreamAvailable))
  cookie := none
  servers := servers
  claimed := []
  sent := []

def sendWithRetries (replay : Replay Foreign) (servers : σ) : Progress σ Foreign Content :=
  rounds uris upstream world target (max upstream.retry.attempts 1) (start target replay servers)

end Loop

/-! ## Requests that point at a server -/

variable {error : ProxyError} {candidates : List Nat} (authority : String)

section Built

variable (uris : UriRules) (upstream : Upstream) {Content : Type} {req next : Request Content}
  {segments : List Segment} {server url : Url}

/-- The request has the URI and the host of the server. -/
def BuiltFor {Content : Type} (target : UpstreamTarget) (index : Nat) (req : Request Content) :
    Prop :=
  ∃ server url, upstream.servers[index]? = some server ∧
    upstreamUri uris.isUri server target.pathSegments target.query = .ok url ∧
    req.uri = .server url ∧ req.hostSent = [bytes (String.ofList url.authority)]

/-- The server has no URI for the target. -/
def Unbuildable (target : UpstreamTarget) (index : Nat) (error : ProxyError) : Prop :=
  (upstream.servers[index]? = none ∧ error = .noUpstreamServers) ∨
    ∃ server, upstream.servers[index]? = some server ∧
      upstreamUri uris.isUri server target.pathSegments target.query =
        .error .upstreamUriInvalid ∧ error = .upstreamUriInvalid

variable {uris upstream} {target : UpstreamTarget} {index : Nat}

/-- Only the URI and the host of a request count. -/
theorem BuiltFor.of_same {Other : Type} {next : Request Other}
    (built : BuiltFor uris upstream target index req) (sameUri : next.uri = req.uri)
    (host : next.headers.getAll "host" = req.headers.getAll "host" ∨
      next.headers.getAll "host" = []) : BuiltFor uris upstream target index next := by
  obtain ⟨server, url, isServer, isUrl, isUri, hostSent⟩ := built
  refine ⟨server, url, isServer, isUrl, sameUri.trans isUri, ?_⟩
  rw [isUri] at sameUri
  rcases host with same | none
  · rw [← hostSent, Request.hostSent, Request.hostSent, same, sameUri, isUri]
  · rw [Request.hostSent, none, sameUri]

theorem upstreamUri_isUri {query : Option (List Char)}
    (built : upstreamUri uris.isUri server segments query = .ok url) :
    uris.isUri url.text = true := by
  simp only [upstreamUri] at built
  split at built
  · cases built
    assumption
  · cases built

/-- The authority of a URI can be a header value. -/
theorem fromStr_authority (valid : uris.isUri url.text = true) :
    HeaderValue.fromStr (String.ofList url.authority) =
      some (bytes (String.ofList url.authority)) := by
  apply HeaderValue.fromStr_eq_some
  intro c member
  rw [String.toList_ofList] at member
  have visible := uris.authority_visible url valid c member
  omega

/-- What `apply` changes, and what it leaves alone. -/
theorem apply_ok (applied : apply uris upstream req index target = .ok next) :
    BuiltFor uris upstream target index next ∧ next.method = req.method ∧ next.body = req.body ∧
      ∀ name ≠ "host", next.headers.getAll name = req.headers.getAll name := by
  unfold apply at applied
  cases isServer : upstream.servers[index]? with
  | none => simp [isServer] at applied
  | some server =>
    cases isUrl : upstreamUri uris.isUri server target.pathSegments target.query with
    | error => simp [isServer, isUrl] at applied
    | ok url =>
      have value := fromStr_authority (upstreamUri_isUri isUrl)
      simp only [isServer, isUrl, Except.ok.injEq] at applied
      subst applied
      refine ⟨⟨server, url, isServer, isUrl, rfl, ?_⟩, rfl, rfl, fun name other => ?_⟩
      · simp [Request.hostSent, value, MultiMap.insertSome, getAll_insert]
      · rw [getAll_insertSome, if_neg other]

theorem apply_error (failed : apply uris upstream req index target = .error error) :
    Unbuildable uris upstream target index error := by
  unfold apply at failed
  cases isServer : upstream.servers[index]? with
  | none =>
    simp only [isServer, Except.error.injEq] at failed
    exact .inl ⟨isServer, failed.symm⟩
  | some server =>
    cases isUrl : upstreamUri uris.isUri server target.pathSegments target.query with
    | ok => simp [isServer, isUrl] at failed
    | error =>
      simp only [isServer, isUrl, Except.error.injEq] at failed
      exact .inr ⟨server, isServer, isUrl, failed.symm⟩

theorem apply_invalid (isServer : upstream.servers[index]? = some server)
    (invalid : upstreamUri uris.isUri server target.pathSegments target.query =
      .error .upstreamUriInvalid) :
    apply uris upstream req index target = .error .upstreamUriInvalid := by
  simp only [apply, isServer, invalid]

/-- `select` points the request at the first candidate. -/
theorem select_builtFor {isPinnable : Nat → Bool} {secure : Bool}
    (selected : select uris upstream candidates isPinnable secure segments req =
      .ok (next, some target)) :
    ∀ first ∈ target.candidates.head?, BuiltFor uris upstream target first next := by
  intro first isFirst
  unfold select at selected
  split at selected
  · cases selected
  · dsimp only at selected
    split at selected
    · rename_i none
      cases selected
      rw [none] at isFirst
      cases isFirst
    · rename_i other isOther
      split at selected
      · rename_i pointed applied
        cases selected
        rw [isOther] at isFirst
        cases isFirst
        exact (apply_ok applied).1
      · cases selected

end Built

/-- A request with its target, as `select` and the rest of the preparation leave them. -/
structure Selected (uris : UriRules) (upstream : Upstream) (Foreign : Type) where
  request : Request (ProxyBody Foreign)
  target : UpstreamTarget
  built : ∀ first ∈ target.candidates.head?, BuiltFor uris upstream target first request

/-- What `select` gives. -/
def Selected.ofSelect {uris : UriRules} {upstream : Upstream} {Foreign : Type}
    {candidates : List Nat} {isPinnable : Nat → Bool} {secure : Bool} {segments : List Segment}
    {req next : Request (ProxyBody Foreign)} {target : UpstreamTarget}
    (selected : select uris upstream candidates isPinnable secure segments req =
      .ok (next, some target)) : Selected uris upstream Foreign :=
  ⟨next, target, select_builtFor selected⟩

/-! ## The copies are the request -/

section Copies

variable {Foreign : Type} {body : ProxyBody Foreign} {limit : Nat} {replay : Replay Foreign}

/-- The same method, headers and bytes; the `host` belongs to the server. -/
structure SameMessage (req copy : Request (ProxyBody Foreign)) : Prop where
  method : copy.method = req.method
  headers : ∀ name ≠ "host", copy.headers.getAll name = req.headers.getAll name
  body : copy.body.bytes = req.body.bytes

/-- What the replay gives is the request. -/
structure ReplayOf (req : Request (ProxyBody Foreign)) (replay : Replay Foreign) : Prop where
  first : ∀ copy ∈ replay.first,
    copy.uri = req.uri ∧ copy.headers = req.headers ∧ SameMessage req copy
  copy : ∀ copy ∈ replay.copy, copy.method = req.method ∧ copy.uri = req.uri ∧
    copy.headers = req.headers ∧ copy.body = req.body.bytes
  method : replay.method = req.method

theorem bytes_of_size_zero (none : body.size = some 0) : body.bytes = [] :=
  List.length_eq_zero_iff.mp (Nat.le_zero.mp (body.exact 0 none).1)

theorem collect_limited {fault : Fault Foreign} {bytes : List UInt8}
    (read : (body.limited limit fault).collect = .ok bytes) : bytes = body.bytes := by
  obtain ⟨ends, rfl⟩ := Body.collect_eq_ok.mp read
  have whole : ¬ (fitting limit body.frames).length < body.frames.length := by
    intro cut
    simp [Body.limited, cut] at ends
  have all : fitting limit body.frames = body.frames :=
    (fitting_isPrefix limit body.frames).eq_of_length_le (Nat.le_of_not_lt whole)
  exact congrArg content all

theorem prepare_replayOf {req : Request (ProxyBody Foreign)}
    (prepared : Replay.prepare limit req = .ok replay) : ReplayOf req replay := by
  have itself : SameMessage req req := ⟨rfl, fun _ _ => rfl, rfl⟩
  unfold Replay.prepare at prepared
  split at prepared
  · cases prepared
    refine ⟨fun copy isCopy => ?_, nofun, rfl⟩
    cases isCopy
    exact ⟨rfl, rfl, itself⟩
  · split at prepared
    · rename_i none
      cases prepared
      refine ⟨fun copy isCopy => ?_, fun copy isCopy => ?_, rfl⟩
      · cases isCopy
        exact ⟨rfl, rfl, itself⟩
      · cases isCopy
        exact ⟨rfl, rfl, rfl, (bytes_of_size_zero none).symm⟩
    · split at prepared
      · rename_i bytes read
        have same := collect_limited read
        cases prepared
        refine ⟨fun copy isCopy => ?_, fun copy isCopy => ?_, rfl⟩
        · cases isCopy
          exact ⟨rfl, rfl, rfl, fun _ _ => rfl, by rw [Body.bytes_full, same]⟩
        · cases isCopy
          exact ⟨rfl, rfl, rfl, same⟩
      · cases prepared

/-- A request without a body has a copy. -/
theorem prepare_empty (limit : Nat) (req : Request (ProxyBody Foreign))
    (noUpgrade : req.headers.contains "upgrade" = false) (none : req.body.size = some 0) :
    Replay.prepare limit req =
      .ok ⟨some req, some ⟨req.method, req.uri, req.headers, []⟩, req.method⟩ := by
  have length : bodyLength req = some 0 := by
    rw [bodyLength, none]
    rfl
  have kept : isStreamed limit req = false := by simp [isStreamed, noUpgrade, length]
  rw [Replay.prepare, if_neg (by simp [kept]), if_pos none]

/-- **Every copy is the request**, the first as well as the later ones. -/
theorem ReplayOf.next {req copy : Request (ProxyBody Foreign)} {next : Replay Foreign}
    (replayOf : ReplayOf req replay) (isNext : replay.next = (some copy, next)) :
    copy.uri = req.uri ∧ copy.headers = req.headers ∧ SameMessage req copy ∧
      ReplayOf req next := by
  unfold Replay.next at isNext
  cases isFirst : replay.first with
  | some first =>
    simp only [isFirst, Prod.mk.injEq, Option.some.injEq] at isNext
    obtain ⟨rfl, rfl⟩ := isNext
    obtain ⟨uri, headers, same⟩ := replayOf.first first isFirst
    exact ⟨uri, headers, same, fun _ none => absurd none (Option.not_mem_none _), replayOf.copy,
      replayOf.method⟩
  | none =>
    simp only [isFirst, Prod.mk.injEq, Option.map_eq_some_iff] at isNext
    obtain ⟨⟨kept, isKept, rfl⟩, rfl⟩ := isNext
    obtain ⟨method, uri, headers, body⟩ := replayOf.copy kept isKept
    refine ⟨uri, headers, ⟨method, fun name _ => by rw [headers], ?_⟩, replayOf⟩
    rw [Body.bytes_full, body]

end Copies

/-! ## One round -/

section Rounds

variable {σ Foreign Content : Type} {uris : UriRules} {upstream : Upstream}
  {world : Servers σ Foreign Content} {before after : σ} {index : Nat}

/-- The candidates are asked in order, and all of them where none lets the request through. -/
theorem findPermit_spec {rest : List Nat} {given : Option Permit}
    (found : findPermit world candidates before = (given, rest, after)) :
    (given.toList.map Permit.index ++ rest).Sublist candidates ∧ (given = none → rest = []) := by
  induction candidates generalizing before with
  | nil =>
    cases found
    exact ⟨List.Sublist.refl _, fun _ => rfl⟩
  | cons index later ih =>
    unfold findPermit at found
    split at found
    · cases found
      exact ⟨List.Sublist.refl _, nofun⟩
    · exact (ih found).imp_left fun part => part.cons index

variable (selected : Selected uris upstream Foreign)

/-- What holds of the copies that were sent. -/
structure Faithful (p : Progress σ Foreign Content) : Prop where
  order : (p.sent.map Copy.index ++ p.candidates).Sublist selected.target.candidates
  copies : ∀ copy ∈ p.sent, BuiltFor uris upstream selected.target copy.index copy.request ∧
    SameMessage selected.request copy.request

/-- At the top of a round: every copy so far failed in a way that allows another try. -/
structure Going (p : Progress σ Foreign Content) : Prop extends Faithful selected p where
  replay : ReplayOf selected.request p.replay
  named : ∀ copy ∈ p.sent, Named upstream.retry selected.request.method copy.answer
  claimed : p.claimed = p.sent.map Copy.index
  result : p.result = (p.sent.getLast?.map Copy.answer).getD
    (.error (.other (.proxy .noUpstreamAvailable)))

/-- After the loop. -/
structure Done (p : Progress σ Foreign Content) : Prop extends Faithful selected p where
  named : ∀ copy ∈ p.sent.dropLast, Named upstream.retry selected.request.method copy.answer
  unclaimed : p.claimed = [] → p.result = .error (.other (.proxy .noUpstreamAvailable))
  last : p.claimed ≠ [] →
    (∃ copy, p.sent.getLast? = some copy ∧ p.result = copy.answer) ∨
      ∃ index ∈ p.claimed.getLast?, ∃ error, Unbuildable uris upstream selected.target index error ∧
        p.result = .error (.other (.proxy error))

variable {selected} {p : Progress σ Foreign Content}

theorem Going.done (going : Going selected p) :
    Done selected p := by
  refine ⟨going.toFaithful, fun copy member => going.named copy ((List.dropLast_sublist _).subset member),
    fun none => ?_, fun some => ?_⟩
  · have empty : p.sent = [] := List.map_eq_nil_iff.mp (going.claimed.symm.trans none)
    rw [going.result, empty]
    rfl
  · cases last : p.sent.getLast? with
    | none =>
      rw [List.getLast?_eq_none_iff] at last
      rw [going.claimed, last] at some
      exact absurd rfl some
    | some copy => exact .inl ⟨copy, rfl, by rw [going.result, last]; rfl⟩

variable {req : Request (ProxyBody Foreign)}

/-- The copy for the server of the permit. -/
theorem pointAt_ok {next : Request (ProxyBody Foreign)} (uri : req.uri = selected.request.uri)
    (headers : req.headers = selected.request.headers) (same : SameMessage selected.request req)
    (pointed : pointAt uris upstream selected.target req index = .ok next) :
    BuiltFor uris upstream selected.target index next ∧ SameMessage selected.request next := by
  unfold pointAt at pointed
  split at pointed
  · rename_i isFirst
    cases pointed
    exact ⟨(selected.built index isFirst).of_same uri (.inl (by rw [headers])), same⟩
  · obtain ⟨built, method, body, others⟩ := apply_ok pointed
    refine ⟨built, method.trans same.method, fun name other => ?_, ?_⟩
    · rw [others name other, same.headers name other]
    · rw [body, same.body]

theorem pointAt_error (failed : pointAt uris upstream selected.target req index = .error error) :
    Unbuildable uris upstream selected.target index error := by
  unfold pointAt at failed
  split at failed
  · cases failed
  · exact apply_error failed

variable (world) in
/-- A copy for the next candidate leaves all copies faithful. -/
theorem Faithful.deliver (replay : Replay Foreign) {permit : Permit} (servers : σ)
    (faithful : Faithful selected p)
    (order : (p.sent.map Copy.index ++ permit.index :: candidates).Sublist
      selected.target.candidates) (built : BuiltFor uris upstream selected.target permit.index req)
    (same : SameMessage selected.request req) :
    Faithful selected
      (Retries.deliver upstream world selected.target p replay candidates req permit servers) := by
  refine ⟨by simpa [Retries.deliver] using order, fun copy member => ?_⟩
  rcases List.mem_append.mp member with before | last
  · exact faithful.copies copy before
  · rw [List.mem_singleton.mp last]
    exact ⟨built, same⟩

/-- **One round** goes on as it began or ends the loop. -/
theorem Going.round {next : Progress σ Foreign Content} {again : Bool} (going : Going selected p)
    (isNext : Retries.round uris upstream world selected.target p = (next, again)) :
    (again = true → Going selected next) ∧ Done selected next := by
  have done := going.done
  unfold Retries.round at isNext
  split at isNext
  · cases isNext
    exact ⟨nofun, ⟨done.order, done.copies⟩, done.named, done.unclaimed, done.last⟩
  · rename_i req replay isReq
    obtain ⟨uri, headers, same, replayOf⟩ := going.replay.next isReq
    split at isNext
    · rename_i candidates servers found
      cases isNext
      have none := (findPermit_spec found).2 rfl
      subst none
      have order : (p.sent.map Copy.index ++ []).Sublist selected.target.candidates :=
        ((List.Sublist.refl _).append (List.nil_sublist _)).trans going.order
      exact ⟨nofun, ⟨order, done.copies⟩, done.named, done.unclaimed, done.last⟩
    · rename_i permit candidates servers found
      have rest : (p.sent.map Copy.index ++ permit.index :: candidates).Sublist
          selected.target.candidates :=
        ((List.Sublist.refl _).append (findPermit_spec found).1).trans going.order
      split at isNext
      · rename_i error failed
        cases isNext
        have skipped : (p.sent.map Copy.index ++ candidates).Sublist selected.target.candidates :=
          ((List.Sublist.refl _).append (List.sublist_cons_self _ _)).trans rest
        refine ⟨nofun, ⟨skipped, done.copies⟩, done.named, fun none => ?_, fun _ => .inr ?_⟩
        · exact absurd none (by simp)
        · exact ⟨permit.index, by simp, error, pointAt_error failed, rfl⟩
      · rename_i sent pointed
        obtain ⟨built, message⟩ := pointAt_ok uri headers same pointed
        have faithful := going.toFaithful.deliver world replay servers rest built message
        cases isNext
        refine ⟨fun retried => ⟨faithful, replayOf, fun copy member => ?_, ?_, ?_⟩, faithful,
          fun copy member => ?_, fun none => ?_, fun _ => .inl ?_⟩
        · rcases List.mem_append.mp member with before | last
          · exact going.named copy before
          · rw [List.mem_singleton.mp last]
            rw [replayOf.method] at retried
            exact shouldRetry_iff.mp retried
        · simp [Retries.deliver, going.claimed]
        · simp [Retries.deliver]
        · exact going.named copy (by simpa [Retries.deliver] using member)
        · exact absurd none (by simp [Retries.deliver])
        · exact ⟨_, List.getLast?_concat, rfl⟩

theorem round_sent {next : Progress σ Foreign Content} {again : Bool} {target : UpstreamTarget}
    (isNext : round uris upstream world target p = (next, again)) :
    next.sent.length ≤ p.sent.length + 1 := by
  have first : next = (round uris upstream world target p).1 := by rw [isNext]
  rw [first]
  unfold round
  split
  · exact Nat.le_succ _
  · split
    · exact Nat.le_succ _
    · split
      · exact Nat.le_succ _
      · simp [deliver]

/-! ## The whole loop -/

theorem Going.rounds {left : Nat} (going : Going selected p) :
    Done selected (Retries.rounds uris upstream world selected.target left p) := by
  induction left generalizing p with
  | zero => exact going.done
  | succ left ih =>
    unfold Retries.rounds
    split
    · rename_i next isNext
      exact ih ((going.round isNext).1 rfl)
    · rename_i next isNext
      exact (going.round isNext).2

variable (uris upstream world) in
theorem rounds_sent (left : Nat) (p : Progress σ Foreign Content) (target : UpstreamTarget) :
    (rounds uris upstream world target left p).sent.length ≤ p.sent.length + left := by
  induction left generalizing p with
  | zero => exact Nat.le_refl _
  | succ left ih =>
    unfold rounds
    split
    · rename_i next isNext
      have one := round_sent isNext
      have more := ih next
      omega
    · rename_i next isNext
      have one := round_sent isNext
      omega

theorem going_start {replay : Replay Foreign} (replayOf : ReplayOf selected.request replay)
    (servers : σ) :
    Going selected (start selected.target replay servers : Progress σ Foreign Content) :=
  ⟨⟨List.Sublist.refl _, fun _ member => absurd member List.not_mem_nil⟩, replayOf,
    fun _ member => absurd member List.not_mem_nil, rfl, rfl⟩

variable (world selected)

/-- **What the servers get of a request.**  At most as many copies as the policy allows go to
candidates in list order, each to another one.  Each copy has the URI and the host of its server
and is otherwise the request.  Another copy follows only after a failure that the policy names, and
after one that may have reached the server only for an idempotent method.  The result is that no
server is available if no permit was given, and otherwise that of the last copy, unless there is no
URI for the server of the last permit. -/
theorem retries_are_sound {replay : Replay Foreign}
    (prepared : Replay.prepare upstream.retry.replayBodyLimit selected.request = .ok replay)
    (servers : σ) :
    let run := sendWithRetries uris upstream world selected.target replay servers
    run.sent.length ≤ max 1 upstream.retry.attempts ∧
    (run.sent.map Copy.index).Sublist selected.target.candidates ∧
    (selected.target.candidates.Nodup → (run.sent.map Copy.index).Nodup) ∧
    (∀ copy ∈ run.sent, BuiltFor uris upstream selected.target copy.index copy.request ∧
      SameMessage selected.request copy.request) ∧
    (∀ copy ∈ run.sent.dropLast,
      Named upstream.retry selected.request.method copy.answer) ∧
    (run.claimed = [] → run.result = .error (.other (.proxy .noUpstreamAvailable))) ∧
    (run.claimed ≠ [] →
      (∃ copy, run.sent.getLast? = some copy ∧ run.result = copy.answer) ∨
        ∃ index ∈ run.claimed.getLast?, ∃ error,
          Unbuildable uris upstream selected.target index error ∧
            run.result = .error (.other (.proxy error))) := by
  intro run
  have done : Done selected run :=
    (going_start (prepare_replayOf prepared) servers).rounds
  have count := rounds_sent uris upstream world (max upstream.retry.attempts 1)
    (start selected.target replay servers) selected.target
  have order : (run.sent.map Copy.index).Sublist selected.target.candidates :=
    (List.sublist_append_left _ _).trans done.order
  refine ⟨?_, order, order.nodup, done.copies, done.named, done.unclaimed, done.last⟩
  have none : (start selected.target replay servers :
    Progress σ Foreign Content).sent.length = 0 := rfl
  have bound : run.sent.length ≤ 0 + max upstream.retry.attempts 1 := by
    rw [← none]
    exact count
  omega

end Rounds

/-! ## A server whose URI is too long -/

section LongUri

def isVisible (c : Char) : Bool := 33 ≤ c.toNat && c.toNat < 127

/-- The HTTP library takes visible ASCII of at most 65534 bytes. -/
def shortUris : UriRules where
  isUri text := text.all isVisible && text.length ≤ 65534
  authority_visible url valid c member := by
    rw [Bool.and_eq_true, List.all_eq_true] at valid
    have inside : c ∈ url.text := by
      unfold Url.text
      simp [member]
    simpa [isVisible] using valid.1 c inside

theorem isUri_shortUris {text : List Char} :
    shortUris.isUri text = true ↔ text.all isVisible = true ∧ text.length ≤ 65534 := by
  simp [shortUris]

def serverAt : Url := ⟨.http, authority.toList, .ofText ['/'], none⟩

/-- Two servers, two attempts, and another try when a connection is refused. -/
def twoServers : Upstream where
  servers := [serverAt "a", serverAt "b.example"]
  retry := ⟨2, [.connect], 0⟩
  affinity := none
  rewrite := ⟨[], none, []⟩

/-- Every connection is refused. -/
def refusing : Servers Unit Unit Unit where
  acquire _ servers := (some false, servers)
  send _ servers := (.error ⟨.foreign (), true⟩, servers)
  finish _ _ servers := servers
  display _ := "connection refused"

def getRequest (query : Option (List Char)) : Request (ProxyBody Unit) :=
  ⟨.get, .client query, ⟨[]⟩, .empty⟩

def plainTarget (query : Option (List Char)) : UpstreamTarget := ⟨[0, 1], [], query, none⟩

/-- The URL of the first server. -/
def plainUrl : Url := upstreamUrl (serverAt "a") [] none

theorem select_plain :
    select shortUris twoServers [0, 1] (fun _ => false) false [] (getRequest none) =
      .ok (⟨.get, .server plainUrl, ⟨[("host", bytes "a")]⟩, .empty⟩,
        some (plainTarget none)) := by
  have valid : shortUris.isUri plainUrl.text = true := by decide
  have isUrl : upstreamUri shortUris.isUri (serverAt "a") [] none = .ok plainUrl := by
    unfold plainUrl at valid ⊢
    rw [upstreamUri, if_pos valid]
  have isServer : twoServers.servers[0]? = some (serverAt "a") := rfl
  have pointed : apply shortUris twoServers (getRequest none) 0 (plainTarget none) =
      .ok ⟨.get, .server plainUrl, ⟨[("host", bytes "a")]⟩, .empty⟩ := by
    rfl
  -- the target is the one of `chooseTarget`, and the rest of `select` hands the request on
  exact congrArg (fun made => made.map fun req => (req, some (plainTarget none))) pointed

/-- A request that both servers refuse. -/
theorem refused_request_is_sound :
    ∃ replay, Replay.prepare 0 (Selected.ofSelect select_plain).request = .ok replay ∧
      let run := sendWithRetries shortUris twoServers refusing
        (Selected.ofSelect select_plain).target replay ()
      run.sent.length ≤ 2 ∧
        ∀ copy ∈ run.sent, BuiltFor shortUris twoServers (plainTarget none) copy.index copy.request := by
  have prepared := prepare_empty 0 (Selected.ofSelect select_plain).request (by decide) rfl
  have sound := retries_are_sound refusing (Selected.ofSelect select_plain) prepared ()
  exact ⟨_, prepared, sound.1, fun copy member => (sound.2.2.2.1 copy member).1⟩

/-- A query as long as the first server bears. -/
def longQuery : List Char := List.replicate 65520 'q'

theorem setQuery_replicate (server : Url) (n : Nat) :
    server.setQuery (some (List.replicate n 'q')) =
      { server with query := some (List.replicate n 'q') } := by
  have kept : (List.replicate n 'q').filter (fun c => !isTabOrNewline c) = List.replicate n 'q' :=
    List.filter_eq_self.mpr fun c member => by rw [List.eq_of_mem_replicate member]; decide
  have one : UrlPath.encodeIn Url.needsQueryEncoding 'q' = ['q'] := by decide
  simp [Url.setQuery, kept, one, List.flatMap_replicate]

theorem serialize_serverAt : serialize (serverAt authority).path.segments = ['/'] := by
  have root : serialize (Path.ofText ['/']).segments = ['/'] := by decide
  exact root

/-- The URL of a server for the long query. -/
def longUrl : Url := { serverAt authority with query := some longQuery }

theorem upstreamUrl_long :
    upstreamUrl (serverAt authority) [] (some longQuery) = longUrl authority := by
  rw [upstreamUrl, if_pos rfl]
  exact setQuery_replicate (serverAt authority) 65520

theorem text_longUrl :
    (longUrl authority).text =
      "http://".toList ++ authority.toList ++ ['/'] ++ '?' :: longQuery := by
  have path : serialize (longUrl authority).path.segments = ['/'] := serialize_serverAt authority
  rw [Url.text, path]
  rfl

theorem length_longUrl : (longUrl authority).text.length = authority.toList.length + 65529 := by
  have query : longQuery.length = 65520 := List.length_replicate
  have scheme : "http://".toList.length = 7 := by decide
  rw [text_longUrl, List.length_append, List.length_append, List.length_append, scheme,
    List.length_singleton, List.length_cons, query]
  omega

/-- The first server has a URI for the query. -/
theorem upstreamUri_first :
    upstreamUri shortUris.isUri (serverAt "a") [] (some longQuery) = .ok (longUrl "a") := by
  have length : (longUrl "a").text.length ≤ 65534 := by
    rw [length_longUrl]
    decide
  have visible : (longUrl "a").text.all isVisible = true := by
    have query : longQuery.all isVisible = true := by
      rw [List.all_eq_true]
      intro c member
      rw [List.eq_of_mem_replicate member]
      decide
    have front : ("http://".toList ++ "a".toList ++ ['/'] ++ ['?']).all isVisible = true := by
      decide
    have split : (longUrl "a").text =
        ("http://".toList ++ "a".toList ++ ['/'] ++ ['?']) ++ longQuery := by
      rw [text_longUrl]
      simp
    rw [split, List.all_append, front, query]
    rfl
  rw [upstreamUri, upstreamUrl_long, if_pos (isUri_shortUris.mpr ⟨visible, length⟩)]

/-- The second server has none. -/
theorem upstreamUri_second :
    upstreamUri shortUris.isUri (serverAt "b.example") [] (some longQuery) =
      .error .upstreamUriInvalid := by
  have length : ¬ (longUrl "b.example").text.length ≤ 65534 := by
    rw [length_longUrl]
    decide
  rw [upstreamUri, upstreamUrl_long, if_neg fun valid => length (isUri_shortUris.mp valid).2]

/-- The request at the first server. -/
def longRequest : Request (ProxyBody Unit) :=
  ⟨.get, .server (longUrl "a"), ⟨[("host", bytes "a")]⟩, .empty⟩

def longSelected : Selected shortUris twoServers Unit where
  request := longRequest
  target := plainTarget (some longQuery)
  built first isFirst := by
    cases isFirst
    exact ⟨serverAt "a", longUrl "a", rfl, upstreamUri_first, rfl, rfl⟩

theorem apply_second (req : Request (ProxyBody Unit)) :
    apply shortUris twoServers req 1 (plainTarget (some longQuery)) =
      .error .upstreamUriInvalid :=
  apply_invalid rfl upstreamUri_second

/-- What happens where there is no URI for the second server. -/
theorem refused_run {target : UpstreamTarget} (isTarget : target.candidates = [0, 1])
    (noUri : ∀ req : Request (ProxyBody Unit),
      apply shortUris twoServers req 1 target = .error .upstreamUriInvalid)
    (first : Request (ProxyBody Unit)) (copy : Request (List UInt8)) :
    let run := sendWithRetries shortUris twoServers refusing target
      ⟨some first, some copy, .get⟩ ()
    run.claimed = [0, 1] ∧ run.sent.map Copy.index = [0] ∧
      run.sent.map Copy.answer = [.error ⟨.foreign (), true⟩] ∧
      run.result = .error (.other (.proxy .upstreamUriInvalid)) := by
  have policy : twoServers.retry = ⟨2, [.connect], 0⟩ := rfl
  simp [sendWithRetries, policy, rounds, round, start, isTarget, Replay.next, findPermit,
    refusing, pointAt, deliver, attempt, shouldRetry, retryReason, noUri]

/-- **The result of the last attempt is lost.**  The first server refused the connection, and the
request fails because there is no URI for the second one. -/
theorem uri_error_replaces_the_result :
    ∃ replay, Replay.prepare twoServers.retry.replayBodyLimit longSelected.request = .ok replay ∧
      let run := sendWithRetries shortUris twoServers refusing longSelected.target replay ()
      run.claimed = [0, 1] ∧ run.sent.map Copy.index = [0] ∧
        run.sent.map Copy.answer = [.error ⟨.foreign (), true⟩] ∧
        run.result = .error (.other (.proxy .upstreamUriInvalid)) := by
  have isTarget : longSelected.target = plainTarget (some longQuery) := rfl
  rw [isTarget]
  have prepared : Replay.prepare 0 longRequest = _ := prepare_empty 0 longRequest (by decide) rfl
  exact ⟨_, prepared, refused_run rfl apply_second longRequest _⟩

end LongUri

end R3v3rs3.Proxy.Http.Retries
