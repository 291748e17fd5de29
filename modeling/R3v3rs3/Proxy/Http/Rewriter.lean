/-
# R3v3rs3.Proxy.Http.Rewriter -- what the proxy does to the headers of a request it sends on

The edits between authentication and the upstream call: the hop-by-hop headers and everything the
`connection` header names are taken out, the client address headers are replaced, `via` and the
trace headers are written.  Each edit is summed up by the names it may touch; only
`removeHopByHopHeaders` touches names of the client's choice, and `getAll_removeHopByHop` says
which.  `removeHopByHop_stripped_iff` compares what is left with what the upstream is to get.
-/
import R3v3rs3.Proxy.Http.Headers

namespace R3v3rs3.Proxy.Http
open Theory Api
open MultiMap (Edits edits_insertSome getAll_remove getAll_removeAll getAll_insert getAll_insertSome)
set_option autoImplicit false

/-! ## Hop-by-hop headers -/

def hopByHopHeaders : List HeaderName :=
  ["connection", "keep-alive", "proxy-authenticate", "proxy-authorization", "proxy-connection",
    "trailer", "trailers", "transfer-encoding", "upgrade", "http2-settings"]

def isWebsocketUpgrade (isGet : Bool) (headers : HeaderMap) : Bool :=
  isGet &&
    (headers.getAll "upgrade").any
      (fun value => value.toStr.any (eqIgnoreAsciiCase · "websocket".toList)) &&
    (headers.getAll "connection").any
      (fun value => (items value).any (eqIgnoreAsciiCase · "upgrade".toList))

/-- The header an item of a `connection` line names. -/
def namedHeader (item : List Char) : Option HeaderName :=
  if item ≠ [] ∧ ¬ eqIgnoreAsciiCase item "upgrade".toList then HeaderName.fromBytes item else none

/-- The headers that `connection` lines name. -/
def connectionNamed (lines : List HeaderValue) : List HeaderName :=
  lines.flatMap fun line => (items line).filterMap namedHeader

def removeConnectionNamedHeaders (headers : HeaderMap) : HeaderMap :=
  headers.removeAll (connectionNamed (headers.getAll "connection"))

def sanitizeTeHeader (headers : HeaderMap) : HeaderMap :=
  let isTrailers := ((headers.get "te").bind HeaderValue.toStr).any
    fun text => eqIgnoreAsciiCase (Text.trimChars text) "trailers".toList
  if isTrailers then headers else headers.remove "te"

def removeHopByHopHeaders (isGet : Bool) (headers : HeaderMap) : HeaderMap :=
  let ws := isWebsocketUpgrade isGet headers
  let headers := sanitizeTeHeader (removeConnectionNamedHeaders headers)
  if ws then
    ((headers.removeAll (hopByHopHeaders.filter fun name =>
      !(name == "connection" || name == "upgrade"))).insert
        "connection" (bytes "upgrade")).insert "upgrade" (bytes "websocket")
  else headers.removeAll hopByHopHeaders

theorem edits_sanitizeTeHeader : Edits ["te"] sanitizeTeHeader := by
  intro headers other away
  have different : other ≠ "te" := by simpa using away
  unfold sanitizeTeHeader
  dsimp only
  split
  · rfl
  · rw [getAll_remove, if_neg different]

theorem getAll_notHopByHop (isGet : Bool) (headers : HeaderMap) {other : HeaderName}
    (away : other ∉ hopByHopHeaders) :
    (removeHopByHopHeaders isGet headers).getAll other =
      (sanitizeTeHeader (removeConnectionNamedHeaders headers)).getAll other := by
  have noConnection : other ≠ "connection" := fun same => away (by rw [same]; decide)
  have noUpgrade : other ≠ "upgrade" := fun same => away (by rw [same]; decide)
  unfold removeHopByHopHeaders
  dsimp only
  split
  · rw [getAll_insert, if_neg noUpgrade, getAll_insert, if_neg noConnection, getAll_removeAll,
      if_neg fun listed => away (List.mem_of_mem_filter listed)]
  · rw [getAll_removeAll, if_neg away]

/-- Apart from `te` and the hop-by-hop headers, a header stays exactly when the `connection` lines
do not name it. -/
theorem getAll_removeHopByHop (isGet : Bool) (headers : HeaderMap) {other : HeaderName}
    (away : other ∉ "te" :: hopByHopHeaders) :
    (removeHopByHopHeaders isGet headers).getAll other =
      if other ∈ connectionNamed (headers.getAll "connection") then []
      else headers.getAll other := by
  rw [List.mem_cons, not_or] at away
  have noTe : other ∉ ["te"] := by simpa using away.1
  rw [getAll_notHopByHop isGet headers away.2, edits_sanitizeTeHeader _ other noTe,
    removeConnectionNamedHeaders, getAll_removeAll]

/-! ## What is left for the upstream -/

def listed (headers : HeaderMap) : List HeaderName :=
  (headers.getAll "connection").flatMap fun line => (rawItems line).filterMap namedHeader

/-- A `GET` with a websocket `upgrade` line and an `upgrade` item in a `connection` line. -/
def wantsWebsocket (isGet : Bool) (headers : HeaderMap) : Bool :=
  isGet &&
    (headers.getAll "upgrade").any
      (fun value => value.toStr.any (eqIgnoreAsciiCase · "websocket".toList)) &&
    (headers.getAll "connection").any
      (fun line => (rawItems line).any (eqIgnoreAsciiCase · "upgrade".toList))

/-- The values of the hop-by-hop headers: the two of a websocket upgrade and no others. -/
def hopByHopValues (websocket : Bool) (name : HeaderName) : List HeaderValue :=
  if !websocket then []
  else if name = "connection" then [bytes "upgrade"]
  else if name = "upgrade" then [bytes "websocket"] else []

/-- The headers the upstream is to get. -/
structure Stripped (isGet : Bool) (headers after : HeaderMap) : Prop where
  hopByHop : ∀ name ∈ hopByHopHeaders,
    after.getAll name = hopByHopValues (wantsWebsocket isGet headers) name
  named : ∀ name ∈ listed headers, name ∉ hopByHopHeaders → after.getAll name = []
  te : ∀ value ∈ after.getAll "te", value = bytes "trailers"
  rest : ∀ name ∉ "te" :: hopByHopHeaders, name ∉ listed headers →
    after.getAll name = headers.getAll name

/-- The lines of `te` that `sanitize_te_header` leaves: all or none, by the first one. -/
def sanitizedTe (lines : List HeaderValue) : List HeaderValue :=
  if (lines.head?.bind HeaderValue.toStr).any
    fun text => eqIgnoreAsciiCase (Text.trimChars text) "trailers".toList then lines else []

section Stripped

variable {isGet : Bool} {headers : HeaderMap} {line : HeaderValue} {name : HeaderName}

theorem connectionNamed_subset : connectionNamed (headers.getAll "connection") ⊆ listed headers := by
  intro name member
  obtain ⟨line, known, named⟩ := List.mem_flatMap.mp member
  exact List.mem_flatMap.mpr ⟨line, known, List.filterMap_subset _ items_subset named⟩

theorem wantsWebsocket_of_isWebsocketUpgrade (upgrade : isWebsocketUpgrade isGet headers = true) :
    wantsWebsocket isGet headers = true := by
  simp only [isWebsocketUpgrade, wantsWebsocket, Bool.and_eq_true, List.any_eq_true] at upgrade ⊢
  obtain ⟨get, line, known, item, inside, token⟩ := upgrade
  exact ⟨get, line, known, item, items_subset inside, token⟩

theorem getAll_hopByHop (member : name ∈ hopByHopHeaders) :
    (removeHopByHopHeaders isGet headers).getAll name =
      hopByHopValues (isWebsocketUpgrade isGet headers) name := by
  unfold removeHopByHopHeaders hopByHopValues
  cases isWebsocketUpgrade isGet headers with
  | false => simp [getAll_removeAll, member]
  | true =>
    simp only [if_true, getAll_insert, getAll_removeAll, List.mem_filter, member]
    by_cases connection : name = "connection"
    · subst connection
      rfl
    · by_cases upgrade : name = "upgrade" <;> simp [connection, upgrade]

theorem getAll_te :
    (removeHopByHopHeaders isGet headers).getAll "te" =
      if "te" ∈ connectionNamed (headers.getAll "connection") then []
      else sanitizedTe (headers.getAll "te") := by
  have sanitized : ∀ map : HeaderMap,
      (sanitizeTeHeader map).getAll "te" = sanitizedTe (map.getAll "te") := by
    intro map
    unfold sanitizeTeHeader sanitizedTe MultiMap.get
    dsimp only
    split
    · rfl
    · rw [getAll_remove, if_pos rfl]
  rw [getAll_notHopByHop isGet headers (by decide), sanitized, removeConnectionNamedHeaders,
    getAll_removeAll, apply_ite sanitizedTe]
  rfl

end Stripped

/-- **What the removal leaves** is what the upstream is to get if and only if
* the `upgrade` of a websocket request stands in a `connection` line that can be read,
* so does every other listed name that has a value, and
* the lines of `te` are `trailers`, all of them and to the letter, if the first one is one. -/
theorem removeHopByHop_stripped_iff (isGet : Bool) (headers : HeaderMap) :
    Stripped isGet headers (removeHopByHopHeaders isGet headers) ↔
      (wantsWebsocket isGet headers → isWebsocketUpgrade isGet headers) ∧
      (∀ name ∈ listed headers, name ∉ "te" :: hopByHopHeaders →
        name ∈ connectionNamed (headers.getAll "connection") ∨ headers.getAll name = []) ∧
      ("te" ∈ connectionNamed (headers.getAll "connection") ∨
        ("te" ∈ listed headers → sanitizedTe (headers.getAll "te") = []) ∧
          ∀ value ∈ sanitizedTe (headers.getAll "te"), value = bytes "trailers") := by
  constructor
  · rintro ⟨hopByHop, names, te, -⟩
    refine ⟨?_, ?_, ?_⟩
    · intro wanted
      have values := hopByHop "upgrade" (by decide)
      rw [getAll_hopByHop (by decide), wanted] at values
      by_contra unseen
      simp [unseen, hopByHopValues] at values
    · intro name member away
      have gone := names name member fun hop => away (List.mem_cons_of_mem _ hop)
      rw [getAll_removeHopByHop isGet headers away, ite_eq_left_iff] at gone
      exact or_iff_not_imp_left.mpr gone
    · rw [getAll_te] at te
      rw [or_iff_not_imp_left]
      intro unseen
      rw [if_neg unseen] at te
      refine ⟨fun member => ?_, te⟩
      have gone := names "te" member (by decide)
      rwa [getAll_te, if_neg unseen] at gone
  · rintro ⟨upgrade, names, te⟩
    refine ⟨?_, ?_, ?_, ?_⟩
    · intro name hop
      rw [getAll_hopByHop hop,
        Bool.eq_iff_iff.mpr ⟨wantsWebsocket_of_isWebsocketUpgrade, upgrade⟩]
    · intro name member away
      by_cases same : name = "te"
      · subst same
        rw [getAll_te, ite_eq_left_iff]
        exact fun unseen => (te.resolve_left unseen).1 member
      · have elsewhere : name ∉ "te" :: hopByHopHeaders := by simp [same, away]
        rw [getAll_removeHopByHop isGet headers elsewhere, ite_eq_left_iff]
        exact (names name member elsewhere).resolve_left
    · rw [getAll_te]
      split
      · simp
      · rename_i unseen
        exact (te.resolve_left unseen).2
    · intro name away unlisted
      rw [getAll_removeHopByHop isGet headers away,
        if_neg fun known => unlisted (connectionNamed_subset known)]

/-- **Two requests that keep too much.**  The second line of `te` is not looked at, and a
`connection` line with a byte above ASCII is skipped. -/
theorem second_te_line_kept :
    ¬ Stripped true ⟨[("te", bytes "trailers"), ("te", bytes "gzip")]⟩
        (removeHopByHopHeaders true ⟨[("te", bytes "trailers"), ("te", bytes "gzip")]⟩) ∧
      ¬ Stripped true ⟨[("connection", bytes "x-secret, é"), ("x-secret", bytes "1")]⟩
        (removeHopByHopHeaders true
          ⟨[("connection", bytes "x-secret, é"), ("x-secret", bytes "1")]⟩) := by
  constructor
  · intro stripped
    exact absurd (stripped.te (bytes "gzip") (by decide)) (by decide)
  · intro stripped
    exact absurd (stripped.named "x-secret" (by decide) (by decide)) (by decide)

/-! ## Client address headers -/

def clientIpHeaders : List HeaderName :=
  ["forwarded", "x-forwarded-for", "x-forwarded-host", "x-real-ip", "cf-connecting-ip",
    "true-client-ip", "cloudfront-viewer-address", "fastly-client-ip", "incap-client-ip"]

/-- The addresses of the network library and their texts. -/
structure IpText where
  Ip : Type
  display : Ip → String
  parse : List Char → Option Ip
  isIpv6 : Ip → Bool

structure ClientAddr (net : IpText) where
  ip : net.Ip
  peer : net.Ip
  trustedPeer : Bool

section Forwarded

variable {net : IpText}

def forwardedForDirective (addr : net.Ip) : String :=
  if net.isIpv6 addr then "for=\"[" ++ net.display addr ++ "]\"" else "for=" ++ net.display addr

def isRfc7230Token (text : List Char) : Bool := text ≠ [] && text.all HeaderName.tokenChar

def hasControlChars (text : List Char) : Bool := text.any fun c => c.toNat < 0x20 || c.toNat = 0x7f

def escapeQuotedString (text : List Char) : List Char :=
  text.flatMap fun c => if c = '"' ∨ c = '\\' then ['\\', c] else [c]

def forwardedHostDirective (host : String) : Option String :=
  if host = "" ∨ hasControlChars host.toList then none
  else if isRfc7230Token host.toList then some ("host=" ++ host)
  else some ("host=\"" ++ String.ofList (escapeQuotedString host.toList) ++ "\"")

def forwardedProtoDirective (proto : String) : String := "proto=" ++ proto

/-- The addresses of the `x-forwarded-for` lines; what is not an address is left out. -/
def parseXForwardedFor (lines : List HeaderValue) : List net.Ip :=
  lines.flatMap fun line =>
    (Text.split ',' (line.toStr.getD [])).filterMap fun item => net.parse (Text.trimChars item)

/-- The elements of the `forwarded` lines. -/
def parseForwarded (lines : List HeaderValue) : List String :=
  lines.flatMap fun line =>
    (Text.split ',' (line.toStr.getD [])).map fun item => String.ofList (Text.trimChars item)

/-- The headers without what the client says about its address; a trusted peer's chain is read
before this. -/
def withoutClientAddress (client : ClientAddr net) (headers : HeaderMap) : HeaderMap :=
  if client.trustedPeer then
    ((headers.remove "x-forwarded-for").remove "forwarded").insertSome "x-real-ip"
      (HeaderValue.fromStr (net.display client.ip))
  else headers.removeAll clientIpHeaders

def preProcess (client : ClientAddr net) (requestHost : Option String) (proto : String)
    (headers : HeaderMap) : HeaderMap :=
  let xForwardedFor : List net.Ip :=
    if client.trustedPeer then parseXForwardedFor (headers.getAll "x-forwarded-for") else []
  let received := if client.trustedPeer then parseForwarded (headers.getAll "forwarded") else []
  let forwarded := if received = [] then xForwardedFor.map forwardedForDirective else received
  let currentHop := ";".intercalate ([forwardedForDirective client.peer] ++
    (requestHost.bind forwardedHostDirective).toList ++ [forwardedProtoDirective proto])
  let forwardedValue := HeaderValue.fromStr (", ".intercalate (forwarded ++ [currentHop]))
  let xForwardedValue := HeaderValue.fromStr
    (", ".intercalate ((xForwardedFor ++ [client.peer]).map net.display))
  ((((withoutClientAddress client headers).insertSome "forwarded" forwardedValue).insertSome
    "x-forwarded-for" xForwardedValue).insert "x-forwarded-proto" (bytes proto)).insertSome
      "x-forwarded-host" (requestHost.bind HeaderValue.fromStr)

/-- The headers that `preProcess` gives a value. -/
def processedHeaders (client : ClientAddr net) (requestHost : Option String) : List HeaderName :=
  ["x-forwarded-proto", "forwarded", "x-forwarded-for"] ++
    (if client.trustedPeer then ["x-real-ip"] else []) ++
      if (requestHost.bind HeaderValue.fromStr).isSome then ["x-forwarded-host"] else []

/-- The headers whose values `preProcess` takes out. -/
def ClientAddr.removed (client : ClientAddr net) : List HeaderName :=
  if client.trustedPeer then [] else clientIpHeaders

theorem getAll_preProcess {client : ClientAddr net} {requestHost : Option String} (proto : String)
    {headers : HeaderMap} {other : HeaderName}
    (away : other ∉ processedHeaders client requestHost)
    (kept : other ∈ client.removed → headers.getAll other = []) :
    (preProcess client requestHost proto headers).getAll other = headers.getAll other := by
  simp only [processedHeaders, List.mem_append, List.mem_cons, List.not_mem_nil, or_false,
    not_or] at away
  obtain ⟨⟨⟨noProto, noForwarded, noFor⟩, realIp⟩, host⟩ := away
  have address : (withoutClientAddress client headers).getAll other = headers.getAll other := by
    unfold withoutClientAddress
    unfold ClientAddr.removed at kept
    split
    · rename_i trusted
      rw [getAll_insertSome, if_neg (by simpa [trusted] using realIp), getAll_remove,
        if_neg noForwarded, getAll_remove, if_neg noFor]
    · rename_i untrusted
      rw [if_neg untrusted] at kept
      rw [getAll_removeAll, ite_eq_right_iff]
      exact fun listed => (kept listed).symm
  rw [preProcess, edits_insertSome _ _ _ other host, getAll_insert, if_neg noProto,
    getAll_insertSome, if_neg noFor, getAll_insertSome, if_neg noForwarded, address]

end Forwarded

def postProcess (via : Option HeaderValue) (headers : HeaderMap) : HeaderMap :=
  headers.insertSome "via" via

end R3v3rs3.Proxy.Http
