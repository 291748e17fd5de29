/-
# R3v3rs3.Proxy.Http.Cache.Rules -- what the headers say about storing a response

The cache reads its rules from comma-separated header items: `hasDirective` and
`directiveSeconds` read `cache-control`, `freshness` puts the sources of a lifetime in order, and
`isStorable` and `isStorable304` decide about a full response and about a refresh.  `varyValues`
takes from the request the values of the headers that the response names in `vary`; a response
that names `*` or no valid header gets none.

Every rule depends on the values of the names it reads and on nothing else of a header map
(`hasDirective_of_getAll`), which is what a refresh that replaces some names goes by.
-/
import R3v3rs3.Proxy.Http.Headers
import R3v3rs3.Theory.Duration

namespace R3v3rs3.Proxy.Http.Cache
open Api Theory
set_option autoImplicit false

/-- A time of the system clock, as the span since 1970. -/
abbrev SystemTime := Duration

structure StatusCode where
  code : Nat
  valid : 100 ≤ code ∧ code < 1000
  deriving DecidableEq

variable (status : StatusCode)

namespace StatusCode

def fromU16 (code : Nat) : Option StatusCode :=
  if valid : 100 ≤ code ∧ code < 1000 then some ⟨code, valid⟩ else none

def ok : StatusCode := ⟨200, by decide⟩

def notModified : StatusCode := ⟨304, by decide⟩

def isSuccess : Bool := 200 ≤ status.code && status.code < 300

def isRedirection : Bool := 300 ≤ status.code && status.code < 400

end StatusCode

inductive Method where
  | get | head | options | trace | post | put | delete | patch | connect
  | extension (token : String)
  deriving DecidableEq

/-! ## Items of a header -/

variable (headers : HeaderMap)

/-- The trimmed items of a comma-separated header; a value that is not text has none. -/
def headerItems (name : HeaderName) : List (List Char) :=
  ((headers.getAll name).filterMap HeaderValue.toStr).flatMap fun text =>
    (Text.split ',' text).map Text.trimChars

def headerNumber (name : HeaderName) : Option UInt64 := do
  let value ← headers.get name
  let text ← HeaderValue.toStr value
  let number ← Text.parseU64 (Text.trimChars text)
  some (UInt64.ofNat number)

/-- Whether the header has the directive, with or without a value. -/
def hasDirective (name : HeaderName) (directive : String) : Bool :=
  (headerItems headers name).any fun item =>
    eqIgnoreAsciiCase (Text.trimChars ((Text.split '=' item).headD [])) directive.toList

/-- `str::trim_matches` of one character. -/
def trimMatches (mark : Char) (text : List Char) : List Char :=
  ((text.dropWhile (· = mark)).reverse.dropWhile (· = mark)).reverse

/-- The seconds that one `cache-control` item gives the directive. -/
def itemSeconds (directive : String) (item : List Char) : Option Duration := do
  let (name, value) ← Text.splitOnce '=' item
  if eqIgnoreAsciiCase (Text.trimChars name) directive.toList then
    let secs ← Text.parseU64 (trimMatches '"' (Text.trimChars value))
    some (Duration.fromSecs (UInt64.ofNat secs))
  else none

def directiveSeconds (directive : String) : Option Duration :=
  (headerItems headers "cache-control").findSome? (itemSeconds directive)

def contentLength : Option Nat :=
  (headerNumber headers "content-length").map UInt64.toNat

def isChunked : Bool :=
  (headers.getAll "transfer-encoding").any fun value =>
    (HeaderValue.toStr value).any fun text => eqIgnoreAsciiCase text "chunked".toList

def hasValidator : Bool :=
  headers.contains "etag" || headers.contains "last-modified"

/-- The age of the response when it was received. -/
def age (headers : HeaderMap) : Duration :=
  ((headerNumber headers "age").map Duration.fromSecs).getD .zero

/-! ## Lifetimes -/

section Dates

/-! How an HTTP date is read is the date library's. -/
variable (parseHttpDate : List Char → Option SystemTime)

def headerTime (value : Option HeaderValue) : Option SystemTime := do
  let value ← value
  let text ← HeaderValue.toStr value
  parseHttpDate text

/-- An invalid `expires` date means that the response is already stale. -/
def expiresLifetime (now : SystemTime) (headers : HeaderMap) : Option Duration := do
  let expires ← headers.get "expires"
  let date := (headerTime parseHttpDate (headers.get "date")).getD now
  some (((headerTime parseHttpDate (some expires)).bind (·.checkedSub date)).getD .zero)

/-- How long the response stays fresh after the upstream server created it. -/
def freshness (now : SystemTime) (headers : HeaderMap) (defaultTtl : Duration) : Duration :=
  if hasDirective headers "cache-control" "no-cache" then .zero
  else
    ((directiveSeconds headers "s-maxage").or
      ((directiveSeconds headers "max-age").or (expiresLifetime parseHttpDate now headers))).getD
      defaultTtl

/-! ## Conditional requests -/

/-- An entity tag without the mark of a weak one. -/
def weakTag (tag : List UInt8) : List UInt8 :=
  match tag with
  | 87 :: 47 :: rest => rest
  | tag => tag

def etagMatches (condition etag : HeaderValue) : Bool :=
  (HeaderValue.toStr condition).any fun text =>
    ((Text.split ',' text).map Text.trimChars).any fun tag =>
      tag = ['*'] || weakTag (bytes (String.ofList tag)) = weakTag etag

def isNotModified (request stored : HeaderMap) : Bool :=
  match request.get "if-none-match" with
  | some condition => (stored.get "etag").any (etagMatches condition)
  | none =>
    match headerTime parseHttpDate (request.get "if-modified-since"),
      headerTime parseHttpDate (stored.get "last-modified") with
    | some since, some modified => ¬ since < modified
    | _, _ => false

end Dates

/-! ## Which requests use the cache -/

def isUnsafeMethod : Method → Bool
  | .get | .head | .options | .trace => false
  | _ => true

def isLookupAllowed : Bool :=
  !hasDirective headers "cache-control" "no-cache" && !hasDirective headers "pragma" "no-cache"

def isCacheableRequest (method : Method) (headers : HeaderMap) : Bool :=
  (method = .get || method = .head) && !headers.contains "range" &&
    !headers.contains "upgrade" && !hasDirective headers "cache-control" "no-store"

/-! ## Which responses are stored -/

/-- Status codes that are cacheable by default. -/
def cacheableStatuses : List Nat := [200, 203, 204, 300, 301, 308, 404, 405, 410, 414, 501]

/-- A shared cache stores the response to a request with credentials only when the response
allows it. -/
def allowsAuthorized : Bool :=
  ["public", "s-maxage", "must-revalidate"].any (hasDirective headers "cache-control")

def isStorable (headers : HeaderMap) (authorized : Bool) : Bool :=
  status.code ∈ cacheableStatuses &&
    !hasDirective headers "cache-control" "no-store" &&
    !hasDirective headers "cache-control" "private" &&
    !headers.contains "set-cookie" &&
    (!authorized || allowsAuthorized headers)

def isStorable304 (authorized : Bool) : Bool :=
  if hasDirective headers "cache-control" "no-store" ||
      hasDirective headers "cache-control" "private" || headers.contains "set-cookie" then false
  else !authorized || allowsAuthorized headers

/-- One name of `vary` with the value that the request has for it. -/
def varyValue (request : HeaderMap) (item : List Char) : Option (HeaderName × Option HeaderValue) :=
  if item = ['*'] then none
  else do
    let name ← HeaderName.fromBytes item
    some (name, request.get name)

/-- `none` for `vary: *`, because no later request can match that response. -/
def varyValues (response request : HeaderMap) : Option (List (HeaderName × Option HeaderValue)) :=
  ((headerItems response "vary").filter (· ≠ [])).mapM (varyValue request)

/-! ## What the rules depend on -/

variable {second first : HeaderMap} {name : HeaderName}

theorem hasDirective_of_getAll (same : first.getAll name = second.getAll name)
    (directive : String) :
    hasDirective first name directive = hasDirective second name directive := by
  rw [hasDirective, headerItems, same, hasDirective, headerItems]

theorem allowsAuthorized_of_getAll
    (same : first.getAll "cache-control" = second.getAll "cache-control") :
    allowsAuthorized first = allowsAuthorized second := by
  unfold allowsAuthorized
  congr 1
  funext directive
  exact hasDirective_of_getAll same directive

/-- A directive stands in a line of its header. -/
theorem getAll_ne_nil_of_hasDirective {headers : HeaderMap} {directive : String}
    (has : hasDirective headers name directive = true) : headers.getAll name ≠ [] := by
  intro none
  simp [hasDirective, headerItems, none] at has

/-- A traversal that succeeds has one result for each item, and none besides. -/
theorem mem_of_mapM {Item Result : Type} {read : Item → Option Result} {items : List Item}
    {results : List Result} (all : items.mapM read = some results) :
    (∀ result ∈ results, ∃ item ∈ items, read item = some result) ∧
      ∀ item ∈ items, ∃ result ∈ results, read item = some result := by
  induction items generalizing results with
  | nil =>
    obtain rfl : [] = results := by simpa using all
    simp
  | cons item rest ih =>
    simp only [List.mapM_cons, Option.bind_eq_bind, Option.bind_eq_some_iff, Option.pure_def,
      Option.some.injEq] at all
    obtain ⟨first, here, others, later, rfl⟩ := all
    obtain ⟨made, kept⟩ := ih later
    constructor
    · rintro result (_ | ⟨_, known⟩)
      · exact ⟨item, by simp, here⟩
      · obtain ⟨other, member, reads⟩ := made result known
        exact ⟨other, List.mem_cons_of_mem _ member, reads⟩
    · rintro other (_ | ⟨_, known⟩)
      · exact ⟨first, by simp, here⟩
      · obtain ⟨result, member, reads⟩ := kept other known
        exact ⟨result, List.mem_cons_of_mem _ member, reads⟩

theorem varyValue_eq_some {request : HeaderMap} {item : List Char}
    {recorded : HeaderName × Option HeaderValue} :
    varyValue request item = some recorded ↔
      item ≠ ['*'] ∧ HeaderName.fromBytes item = some recorded.1 ∧
        recorded.2 = request.get recorded.1 := by
  obtain ⟨name, value⟩ := recorded
  unfold varyValue
  split
  · rename_i wild
    simp [wild]
  · rename_i plain
    cases read : HeaderName.fromBytes item with
    | none => simp [plain]
    | some =>
      simp only [Option.bind_eq_bind, Option.bind_some, Option.some.injEq, Prod.mk.injEq, plain,
        not_false_eq_true, ne_eq, true_and]
      constructor
      · rintro ⟨rfl, rfl⟩
        exact ⟨rfl, rfl⟩
      · rintro ⟨rfl, rfl⟩
        exact ⟨rfl, rfl⟩

/-- What the recorded values of a response say: each is the request's first value of its name, and
every name the response lists is there. -/
theorem varyValues_eq_some {response request : HeaderMap}
    {vary : List (HeaderName × Option HeaderValue)} (values : varyValues response request = some vary) :
    (∀ recorded ∈ vary, recorded.2 = request.get recorded.1) ∧
      ∀ item ∈ headerItems response "vary", item ≠ [] →
        item ≠ ['*'] ∧ ∃ name ∈ vary.map Prod.fst, HeaderName.fromBytes item = some name := by
  obtain ⟨made, kept⟩ := mem_of_mapM values
  constructor
  · intro recorded member
    obtain ⟨item, -, reads⟩ := made recorded member
    exact (varyValue_eq_some.mp reads).2.2
  · intro item member filled
    obtain ⟨recorded, known, reads⟩ := kept item (List.mem_filter.mpr ⟨member, by simpa using filled⟩)
    obtain ⟨plain, named, -⟩ := varyValue_eq_some.mp reads
    exact ⟨plain, recorded.1, List.mem_map_of_mem known, named⟩

end R3v3rs3.Proxy.Http.Cache
