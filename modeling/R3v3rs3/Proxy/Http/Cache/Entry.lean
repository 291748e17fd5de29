/-
# R3v3rs3.Proxy.Http.Cache.Entry -- stored responses, their age and their shared form

A `CachedResponse` is a head, a body and the time it was stored.  Its age is the age it came with
and the time since; it is fresh while the age is below its freshness, and may be sent stale for a
window after that.  The sums are additions of `Duration` that stop the program where they are too
large, so every function that makes one returns `none` there.

`merge304Headers` is the refresh by a `304 Not Modified`: the lines of the names that the `304`
carries replace the stored ones (`getAll_merge304`), the recorded `vary` values stay.
-/
import R3v3rs3.Proxy.Http.Cache.Rules

namespace R3v3rs3.Proxy.Http.Cache
open Api Theory
set_option autoImplicit false

/-- A time of the monotonic clock, as the span since it started. -/
abbrev Instant := Duration

structure CacheConfig where
  enabled : Bool
  maxSize : Nat
  maxEntrySize : Nat
  defaultTtl : Duration
  staleWhileRevalidate : Duration

/-- A stale response with a validator stays stored this long. -/
def revalidationWindow : Duration := .fromSecs 3600

structure StoredHead where
  status : StatusCode
  headers : HeaderMap
  /-- Request header values of the header names in `vary`. -/
  vary : List (HeaderName × Option HeaderValue)
  /-- Age of the response when it was received. -/
  initialAge : Duration
  freshness : Duration
  deriving DecidableEq

structure CachedResponse where
  head : StoredHead
  body : List UInt8
  storedAt : Instant
  deriving DecidableEq

namespace CachedResponse

def age (entry : CachedResponse) (now : Instant) : Option Duration :=
  entry.head.initialAge.add (now.saturatingSub entry.storedAt)

def isFresh (entry : CachedResponse) (now : Instant) : Option Bool := do
  let age ← entry.age now
  some (age < entry.head.freshness)

/-- The window in which the response may be sent stale. -/
def staleWindow (entry : CachedResponse) (configSwr : Duration) : Duration :=
  (directiveSeconds entry.head.headers "stale-while-revalidate").getD configSwr

def isStaleRevalidatable (entry : CachedResponse) (configSwr : Duration) (now : Instant) :
    Option Bool :=
  let swr := entry.staleWindow configSwr
  if swr = .zero then some false
  else do
    let age ← entry.age now
    -- `&&` makes the second sum only when the first comparison holds
    if age < entry.head.freshness then some false
    else do
      let limit ← entry.head.freshness.add swr
      some (age < limit)

/-- `matches`: the request has the recorded value of every recorded name. -/
def matchesRequest (entry : CachedResponse) (request : HeaderMap) : Bool :=
  entry.head.vary.all fun recorded => request.get recorded.1 = recorded.2

/-- How long the store keeps the entry. -/
def lifetime (defaultSwr : Duration) (entry : CachedResponse) : Option Duration :=
  let window := if hasValidator entry.head.headers then revalidationWindow else .zero
  ((entry.head.freshness.saturatingSub entry.head.initialAge).add
    (entry.staleWindow defaultSwr)).bind (·.add window)

end CachedResponse

/-! ## The form that the nodes of a cluster share -/

structure SharedResponse where
  status : Nat
  headers : List (String × String)
  vary : List (String × Option String)
  /-- The age in seconds when the node received the response. -/
  initialAge : UInt64
  /-- The freshness lifetime in seconds. -/
  freshness : UInt64
  /-- The Unix time in milliseconds when the node stored the response. -/
  storedAt : UInt64
  /-- The body in base64. -/
  body : String
  deriving DecidableEq

/-- `u64::saturating_sub`. -/
def saturatingSubU64 (first second : UInt64) : UInt64 :=
  UInt64.ofNat (first.toNat - second.toNat)

theorem saturatingSubU64_toNat (first second : UInt64) :
    (saturatingSubU64 first second).toNat = first.toNat - second.toNat := by
  have bound := first.toNat_lt
  rw [saturatingSubU64, UInt64.toNat_ofNat']
  omega

/-- The Unix time in milliseconds after which no node uses the response. -/
def SharedResponse.expiresAt (shared : SharedResponse) : Option UInt64 := do
  let lifetime := Duration.fromSecs (saturatingSubU64 shared.freshness shared.initialAge)
  let sum ← lifetime.add revalidationWindow
  -- the milliseconds are cut to a word, the addition to the time saturates
  some (UInt64.ofNat (min (shared.storedAt.toNat + sum.asMillis % 2 ^ 64) (2 ^ 64 - 1)))

/-- Why a shared response is not read. -/
inductive SharedError where
  | invalid
  /-- The sum of its ages is too large. -/
  | overflow
  deriving DecidableEq

section Share

variable (encodeBody : List UInt8 → String) (decodeBody : String → Option (List UInt8))

/-- `none` when a header value is not text. -/
def CachedResponse.toShared (entry : CachedResponse) (storedAt : UInt64) :
    Option SharedResponse := do
  let headers ← entry.head.headers.lines.mapM fun line => do
    let text ← HeaderValue.toStr line.2
    some (line.1, String.ofList text)
  let vary ← entry.head.vary.mapM fun recorded =>
    match recorded.2 with
    | none => some (recorded.1, none)
    | some value => do
      let text ← HeaderValue.toStr value
      some (recorded.1, some (String.ofList text))
  some
    { status := entry.head.status.code
      headers, vary
      initialAge := entry.head.initialAge.asSecs
      freshness := entry.head.freshness.asSecs
      storedAt
      body := encodeBody entry.body }

def SharedResponse.readHeaders (shared : SharedResponse) : Option HeaderMap := do
  let lines ← shared.headers.mapM fun line => do
    let name ← HeaderName.fromBytes line.1.toList
    let value ← HeaderValue.fromStr line.2
    some (name, value)
  some ⟨lines⟩

def SharedResponse.readVary (shared : SharedResponse) :
    Option (List (HeaderName × Option HeaderValue)) :=
  shared.vary.mapM fun recorded => do
    let value ←
      match recorded.2 with
      | none => some none
      | some text => (HeaderValue.fromStr text).map some
    let name ← HeaderName.fromBytes recorded.1.toList
    some (name, value)

/-- The age a shared response has at a time: the one it came with and the time since it was
stored. -/
def SharedResponse.ageAt (shared : SharedResponse) (nowMs : UInt64) : Option Duration :=
  (Duration.fromSecs shared.initialAge).add
    (Duration.fromMillis (saturatingSubU64 nowMs shared.storedAt))

/-- A response that another node stored. -/
def CachedResponse.fromShared (shared : SharedResponse) (nowMs : UInt64) (now : Instant) :
    Except SharedError CachedResponse :=
  match shared.readHeaders, shared.readVary, StatusCode.fromU16 shared.status with
  | some headers, some vary, some status =>
    match shared.ageAt nowMs with
    | none => .error .overflow
    | some initialAge =>
      match decodeBody shared.body with
      | none => .error .invalid
      | some body =>
        .ok
          { head :=
              { status, headers, vary, initialAge, freshness := .fromSecs shared.freshness }
            body
            storedAt := now }
  | _, _, _ => .error .invalid

end Share

/-! ## The refresh by a `304` -/

section Refresh

variable (parseHttpDate : List Char → Option SystemTime)

/-- The names whose lines a refresh replaces. -/
def mergedNames (headers : HeaderMap) (filterCookie : Bool) : List HeaderName :=
  headers.names.filter fun name =>
    name ≠ "content-length" && (!filterCookie || name ≠ "set-cookie")

def merge304Headers (now : Instant) (clock : SystemTime) (entry : CachedResponse)
    (headers : HeaderMap) (defaultTtl : Duration) (filterCookie : Bool) : CachedResponse :=
  let merged := entry.head.headers.replaceAll headers (mergedNames headers filterCookie)
  { head :=
      { entry.head with
        headers := merged
        initialAge := Cache.age headers
        freshness := Cache.freshness parseHttpDate clock merged defaultTtl }
    body := entry.body
    storedAt := now }

variable {parseHttpDate}

theorem getAll_merge304 {now : Instant} {clock : SystemTime} {entry : CachedResponse}
    {headers : HeaderMap} {defaultTtl : Duration} {filterCookie : Bool} {name : HeaderName}
    (other : name ≠ "content-length") (kept : name ≠ "set-cookie") :
    (merge304Headers parseHttpDate now clock entry headers defaultTtl
        filterCookie).head.headers.getAll name =
      if headers.getAll name ≠ [] then headers.getAll name
      else entry.head.headers.getAll name := by
  have listed : name ∈ mergedNames headers filterCookie ↔ headers.getAll name ≠ [] := by
    rw [mergedNames, List.mem_filter, MultiMap.mem_names]
    simp [other, kept]
  show (entry.head.headers.replaceAll headers _).getAll name = _
  rw [MultiMap.getAll_replaceAll]
  exact if_congr listed rfl rfl

/-- A refresh that keeps cookies out takes the lines of `set-cookie` as they are stored. -/
theorem getAll_merge304_cookie {now : Instant} {clock : SystemTime} {entry : CachedResponse}
    {headers : HeaderMap} {defaultTtl : Duration} :
    (merge304Headers parseHttpDate now clock entry headers defaultTtl
        true).head.headers.getAll "set-cookie" =
      entry.head.headers.getAll "set-cookie" := by
  have absent : "set-cookie" ∉ mergedNames headers true := by
    rw [mergedNames, List.mem_filter]
    simp
  show (entry.head.headers.replaceAll headers _).getAll "set-cookie" = _
  rw [MultiMap.getAll_replaceAll, if_neg absent]

end Refresh

end R3v3rs3.Proxy.Http.Cache
