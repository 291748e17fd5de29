/-
# R3v3rs3.Proxy.Http.Fronting -- the name of the TLS connection and the host that picks the route

A TLS client names the server it wants in the handshake.  A request whose `host` header names
another one is refused (`isDomainFronting`).  The route is picked by `requestHost`, which takes the
`host` header, then the host of the request URI, then the name of the handshake; HTTP/2 sends the
host in the URI alone.

`routed_host_is_sni_iff` says when a request that is not refused is routed by the name of its
connection: the `host` header gives a host, or the URI gives none or that name.
-/
import R3v3rs3.Proxy.Http.Headers
import R3v3rs3.Proxy.Http.UpstreamUrl

namespace R3v3rs3.Proxy.Http.Fronting
open Api Theory
open MultiMap (getAll_remove getAll_insert)
set_option autoImplicit false

/-! ## Hosts -/

/-- The text up to the first `]`. -/
def throughBracket (text : List Char) : Option (List Char) :=
  if ']' ∈ text then some (text.takeWhile (· ≠ ']') ++ [']']) else none

def splitHostPort (host : List Char) : Option (List Char) :=
  if host = [] then none
  else if host.head? = some '[' then throughBracket host
  else (Text.split ':' host).head?

/-- The URI of a request; the path of the request line alone has no authority. -/
structure RequestUri where
  authority : Option (List Char)
  path : List Char
  query : Option (List Char)

/-- `Uri::host`: the authority without user and port. -/
def RequestUri.host (uri : RequestUri) : Option (List Char) :=
  uri.authority.map fun authority =>
    let hostPort := (Text.split '@' authority).getLastD []
    -- the URI parser refuses an authority whose bracket is not closed
    if hostPort.head? = some '[' then (throughBracket hostPort).getD hostPort
    else (Text.split ':' hostPort).headD []

structure Request where
  method : String
  uri : RequestUri
  headers : HeaderMap

def headerHost (req : Request) : Option (List Char) := do
  let value ← req.headers.get "host"
  let text ← HeaderValue.toStr value
  splitHostPort text

def isDomainFronting (req : Request) (sni : Option (List Char)) : Bool :=
  match sni, headerHost req with
  | some sni, some header => !eqIgnoreAsciiCase sni header
  | _, _ => false

/-- The host of the request: the `host` header, then the host of the URI, then the SNI name. -/
def requestHost (req : Request) (headerHost sni : Option (List Char)) : Option (List Char) :=
  (headerHost.or req.uri.host).or sni

/-! ## From the connection to the route -/

structure RequestInfo where
  sni : Option (List Char)
  earlyData : Bool

def isSafeHttpMethod (method : String) : Bool :=
  ["GET", "HEAD", "OPTIONS", "TRACE"].contains (String.ofList (method.toList.map Char.toUpper))

/-- The request that goes on, `none` when it is answered with 425.  `fresh` is what the replay
filter says. -/
def validateEarlyData (fresh : Bool) (info : RequestInfo) (req : Request) : Option Request :=
  if info.earlyData = false then some { req with headers := req.headers.remove "early-data" }
  else if fresh = false then none
  else if isSafeHttpMethod req.method = false then none
  else some { req with headers := req.headers.insert "early-data" (bytes "1") }

section Route

/-! Which texts the HTTP library reads as path and query. -/
variable (isPathAndQuery : List Char → Bool)

def normalizeRequestPath (req : Request) : Request :=
  let normalized := UpstreamUrl.normalizePath req.uri.path
  if normalized = req.uri.path then req
  else
    let pathAndQuery := normalized ++ (req.uri.query.map fun query => '?' :: query).getD []
    if isPathAndQuery pathAndQuery then { req with uri := { req.uri with path := normalized } }
    else req

/-- The beginning of `route_request`: the host that the router is asked with, `none` when the
request is answered before. -/
def routeHost (fresh : Bool) (info : RequestInfo) (req : Request) : Option (Option (List Char)) :=
  (validateEarlyData fresh info (normalizeRequestPath isPathAndQuery req)).map fun req =>
    requestHost req (headerHost req) info.sni

end Route

/-! ## What is routed by another name -/

theorem eqIgnoreAsciiCase_comm (left right : List Char) :
    eqIgnoreAsciiCase left right = eqIgnoreAsciiCase right left := by
  unfold eqIgnoreAsciiCase
  rw [decide_eq_decide]
  exact eq_comm

section Route

variable (isPathAndQuery : List Char → Bool) {fresh : Bool} {info : RequestInfo} {next : Request}
  (req : Request)

theorem normalizeRequestPath_keeps :
    (normalizeRequestPath isPathAndQuery req).headers = req.headers ∧
      (normalizeRequestPath isPathAndQuery req).uri.authority = req.uri.authority := by
  unfold normalizeRequestPath
  dsimp only
  split
  · exact ⟨rfl, rfl⟩
  · split <;> exact ⟨rfl, rfl⟩

variable {req} in
theorem validateEarlyData_keeps (passes : validateEarlyData fresh info req = some next) :
    next.headers.get "host" = req.headers.get "host" ∧ next.uri = req.uri := by
  unfold validateEarlyData at passes
  split at passes
  · cases passes
    rw [MultiMap.get, getAll_remove, if_neg (by decide)]
    exact ⟨rfl, rfl⟩
  · split at passes
    · cases passes
    · split at passes
      · cases passes
      · cases passes
        rw [MultiMap.get, getAll_insert, if_neg (by decide)]
        exact ⟨rfl, rfl⟩

/-- Neither step before the router changes the host. -/
theorem routeHost_eq :
    routeHost isPathAndQuery fresh info req =
      (validateEarlyData fresh info (normalizeRequestPath isPathAndQuery req)).map fun _ =>
        requestHost req (headerHost req) info.sni := by
  unfold routeHost
  cases passed : validateEarlyData fresh info (normalizeRequestPath isPathAndQuery req) with
  | none => rfl
  | some next =>
    obtain ⟨header, uri⟩ := validateEarlyData_keeps passed
    obtain ⟨headers, authority⟩ := normalizeRequestPath_keeps isPathAndQuery req
    have sameHeader : headerHost next = headerHost req := by
      rw [headerHost, header, headers, headerHost]
    have sameUri : next.uri.host = req.uri.host := by
      rw [uri, RequestUri.host, authority, RequestUri.host]
    simp only [Option.map_some, requestHost, sameHeader, sameUri]

end Route

/-- **Which requests are routed by the name of their connection.**  On a connection with the name
`sni`, a request that is not refused as domain fronting is routed by that name, if and only if it is
answered before, its `host` header gives a host, or its URI gives no host or that name. -/
theorem routed_host_is_sni_iff (isPathAndQuery : List Char → Bool) (fresh earlyData : Bool)
    (sni : List Char) (req : Request) :
    (isDomainFronting req (some sni) = false →
      ∀ host, routeHost isPathAndQuery fresh ⟨some sni, earlyData⟩ req = some host →
        ∃ name, host = some name ∧ eqIgnoreAsciiCase name sni = true) ↔
      validateEarlyData fresh ⟨some sni, earlyData⟩ (normalizeRequestPath isPathAndQuery req) = none ∨
        headerHost req ≠ none ∨ ∀ name ∈ req.uri.host, eqIgnoreAsciiCase name sni = true := by
  rw [routeHost_eq]
  cases passed : validateEarlyData fresh ⟨some sni, earlyData⟩
      (normalizeRequestPath isPathAndQuery req) with
  | none => simp
  | some next =>
    cases header : headerHost req with
    | some name =>
      refine iff_of_true ?_ (.inr (.inl (by simp)))
      intro notFronting host routed
      have same : eqIgnoreAsciiCase sni name = true := by
        simpa [isDomainFronting, header] using notFronting
      simp only [requestHost, Option.map_some, Option.some_or, Option.some.injEq] at routed
      exact ⟨name, routed.symm, by rw [eqIgnoreAsciiCase_comm, same]⟩
    | none =>
      have notFronting : isDomainFronting req (some sni) = false := by
        simp [isDomainFronting, header]
      cases named : req.uri.host with
      | none => simp [notFronting, requestHost, named, eqIgnoreAsciiCase]
      | some => simp [notFronting, requestHost, named]

/-- An HTTP/2 request for another host, on a connection for `a.example`. -/
def frontedRequest : Request where
  method := "GET"
  uri := ⟨some "b.example".toList, "/".toList, none⟩
  headers := ⟨[]⟩

/-- **The host of an HTTP/2 request is not checked.** -/
theorem fronted_request_is_routed :
    isDomainFronting frontedRequest (some "a.example".toList) = false ∧
      routeHost (fun _ => true) true ⟨some "a.example".toList, false⟩ frontedRequest =
        some (some "b.example".toList) ∧
      eqIgnoreAsciiCase "b.example".toList "a.example".toList = false := by
  decide

end R3v3rs3.Proxy.Http.Fronting
