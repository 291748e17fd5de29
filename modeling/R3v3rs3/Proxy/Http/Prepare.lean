/-
# R3v3rs3.Proxy.Http.Prepare -- from an accepted request to the upstream call

`prepareUpstreamRequest` is the sequence of header edits a route without header rules makes after
authentication: the upstream server is selected, gRPC-Web and priority headers are written, the
cookies of r3v3rs3 are taken out, then come the hop-by-hop removal, the client address headers,
`via`, the trace context and the cache.  `managedHeaders` lists the names that these edits give a
value of their own in a request, or take a value of; for any other name the only edit left is the
one the `connection` lines of the request ask for (`getAll_prepare`).
-/
import R3v3rs3.Proxy.Http.Cache.Rules
import R3v3rs3.Proxy.Http.Rewriter

namespace R3v3rs3.Proxy.Http
open Theory Api
open MultiMap (Edits edits_insertSome getAll_remove getAll_insert getAll_insertSome)
set_option autoImplicit false

/-! ## Trace context -/

structure TraceParent where
  version : List Char
  traceId : List Char
  parentId : List Char
  flags : List Char

def isHexDigit (c : Char) : Bool :=
  c.isDigit || ('a' ≤ c && c ≤ 'f') || ('A' ≤ c && c ≤ 'F')

def isValidHex (text : List Char) (length : Nat) : Bool :=
  text.length = length && text.all isHexDigit

def isNonZeroHex (text : List Char) (length : Nat) : Bool :=
  isValidHex text length && !text.all (· = '0')

def TraceParent.parse (text : List Char) : Option TraceParent :=
  match Text.split '-' (Text.trimChars text) with
  | version :: traceId :: parentId :: flags :: rest =>
    if version ≠ "ff".toList ∧ isValidHex version 2 ∧ (version = "00".toList → rest = []) ∧
        isNonZeroHex traceId 32 ∧ isNonZeroHex parentId 16 ∧ isValidHex flags 2 then
      some ⟨version.map Char.toLower, traceId.map Char.toLower, parentId.map Char.toLower,
        flags.map Char.toLower⟩
    else none
  | _ => none

/-- The ids drawn for one request. -/
structure TraceIds where
  requestId : List Char
  spanId : List Char

def TraceParent.childTraceparent (parent : TraceParent) (spanId : List Char) : List Char :=
  ['-'].intercalate [parent.version, parent.traceId, spanId, parent.flags]

def TraceParent.newRoot (traceId spanId : List Char) : List Char :=
  ['-'].intercalate ["00".toList, traceId, spanId, "01".toList]

/-- The trace id of the request and the `traceparent` it is sent on with. -/
def outboundTrace (ids : TraceIds) (headers : HeaderMap) : List Char × List Char :=
  match ((headers.get "traceparent").bind HeaderValue.toStr).bind TraceParent.parse with
  | some parent => (parent.traceId, parent.childTraceparent ids.spanId)
  | none => (ids.requestId, TraceParent.newRoot ids.requestId ids.spanId)

/-- Whether the request brings its own id. -/
def hasRequestId (headers : HeaderMap) : Bool :=
  ((headers.get "x-request-id").bind HeaderValue.toStr).any fun text => Text.trimChars text ≠ []

def propagateTraceContext (ids : TraceIds) (headers : HeaderMap) : HeaderMap :=
  let (traceId, outbound) := outboundTrace ids headers
  let headers := headers.insertSome "traceparent" (HeaderValue.fromStr (String.ofList outbound))
  if hasRequestId headers then headers
  else headers.insertSome "x-request-id" (HeaderValue.fromStr (String.ofList traceId))

theorem getAll_propagateTraceContext (ids : TraceIds) {headers : HeaderMap} {other : HeaderName}
    (noParent : other ≠ "traceparent") (own : other = "x-request-id" → hasRequestId headers) :
    (propagateTraceContext ids headers).getAll other = headers.getAll other := by
  unfold propagateTraceContext
  dsimp only
  split
  · rw [getAll_insertSome, if_neg noParent]
  · rename_i missing
    have noId : other ≠ "x-request-id" := by
      rintro rfl
      have brought := own rfl
      refine missing ?_
      simpa [hasRequestId, MultiMap.get, getAll_insertSome] using brought
    rw [getAll_insertSome, if_neg noId, getAll_insertSome, if_neg noParent]

/-! ## Selecting the server -/

/-- What the pool gives for the request. -/
inductive Target where
  /-- The pool has no servers; the request goes on unchanged. -/
  | noServers
  /-- No server is a candidate. -/
  | noCandidate
  /-- The URI of the server and the request path is not valid. -/
  | invalid
  | server (authority : Option String)

/-- `none` when the request is not sent.  `affinity` is the sticky cookie of the route. -/
def select (affinity : Option String) (target : Target) (headers : HeaderMap) :
    Option HeaderMap :=
  let stripped := affinity.elim headers (removeCookie · headers)
  match target with
  | .noServers => some headers
  | .noCandidate => some stripped
  | .invalid => none
  | .server authority => some (stripped.insertSome "host" (authority.bind HeaderValue.fromStr))

/-- The headers that are written for the server. -/
def Target.written : Target → List HeaderName
  | .server authority => if (authority.bind HeaderValue.fromStr).isSome then ["host"] else []
  | _ => []

variable {other : HeaderName} {headers : HeaderMap}

theorem getAll_select {affinity : Option String} {target : Target} {next : HeaderMap}
    (selected : select affinity target headers = some next) (away : other ∉ target.written)
    (kept : other = "cookie" → ∀ name ∈ affinity, lacksCookie headers name = true) :
    next.getAll other = headers.getAll other := by
  have stripped : (affinity.elim headers (removeCookie · headers)).getAll other =
      headers.getAll other := by
    cases affinity with
    | none => rfl
    | some name =>
      rw [Option.elim_some, getAll_removeCookie, ite_eq_right_iff]
      rintro rfl
      exact of_decide_eq_true (kept rfl name rfl)
  cases target with
  | noServers =>
    cases selected
    rfl
  | noCandidate =>
    cases selected
    exact stripped
  | invalid => cases selected
  | server =>
    cases selected
    rw [edits_insertSome _ _ _ other away, stripped]

/-! ## gRPC-Web, priority, cookies, cache -/

/-- The first value of `content-type` starts like the one of gRPC-Web. -/
def hasGrpcWebType (headers : HeaderMap) : Bool :=
  ((headers.get "content-type").bind HeaderValue.toStr).any
    fun text => "application/grpc-web".toList.isPrefixOf text

def isGrpcWebRequest (headers : HeaderMap) : Bool :=
  hasGrpcWebType headers || headers.contains "x-grpc-web"

/-- Replaces the first value of a name. -/
def setFirst (headers : HeaderMap) (name : HeaderName) (value : HeaderValue) : HeaderMap :=
  (headers.insert name value).appendAll name ((headers.getAll name).drop 1)

def setGrpcType (headers : HeaderMap) : HeaderMap :=
  if hasGrpcWebType headers then setFirst headers "content-type" (bytes "application/grpc")
  else headers

def addTrailers (headers : HeaderMap) : HeaderMap :=
  if headers.contains "te" then headers else headers.insert "te" (bytes "trailers")

def prepareGrpcRequest (headers : HeaderMap) : HeaderMap := addTrailers (setGrpcType headers)

/-- The headers that the conversion gives a value. -/
def grpcHeaders (headers : HeaderMap) : List HeaderName :=
  (if hasGrpcWebType headers then ["content-type"] else []) ++
    if headers.getAll "te" = [] then ["te"] else []

theorem getAll_prepareGrpcRequest {headers : HeaderMap} {other : HeaderName}
    (away : other ∉ grpcHeaders headers) :
    (prepareGrpcRequest headers).getAll other = headers.getAll other := by
  rw [grpcHeaders, List.mem_append, not_or] at away
  have typed : ∀ name ∉ if hasGrpcWebType headers then ["content-type"] else [],
      (setGrpcType headers).getAll name = headers.getAll name := by
    intro name apart
    unfold setGrpcType
    split
    · rename_i web
      have different : name ≠ "content-type" := by simpa [web] using apart
      rw [setFirst, MultiMap.getAll_appendAll, if_neg different, getAll_insert, if_neg different]
    · rfl
  rw [prepareGrpcRequest, addTrailers, ← typed other away.1]
  split
  · rfl
  · rename_i missing
    have none : headers.getAll "te" = [] := by
      rw [MultiMap.contains_iff, not_not] at missing
      rw [← typed "te" (by split <;> decide), missing]
    rw [getAll_insert, if_neg (by simpa [none] using away.2)]

/-- The stream priority settings of a route.  `resolve` gives the `priority` text from the client's
own `priority` and `content-type`. -/
structure StreamPriority where
  enabled : Bool
  injectHeader : Bool
  resolve : Option (List Char) → Option (List Char) → String

/-- `none` when the request is refused: `throttled` says that the controller holds back background
requests and this is one. -/
def applyStreamPriority (priority : StreamPriority) (throttled : Bool) (headers : HeaderMap) :
    Option HeaderMap :=
  if priority.enabled = false then some headers
  else if throttled then none
  else if priority.injectHeader then
    some (headers.insertSome "priority" (HeaderValue.fromStr (priority.resolve
      ((headers.get "priority").bind HeaderValue.toStr)
      ((headers.get "content-type").bind HeaderValue.toStr))))
  else some headers

def StreamPriority.written (priority : StreamPriority) : List HeaderName :=
  if priority.enabled && priority.injectHeader then ["priority"] else []

theorem getAll_applyStreamPriority {priority : StreamPriority} {throttled : Bool}
    {next : HeaderMap} (applied : applyStreamPriority priority throttled headers = some next)
    (away : other ∉ priority.written) : next.getAll other = headers.getAll other := by
  unfold applyStreamPriority at applied
  split at applied
  · cases applied
    rfl
  · rename_i enabled
    split at applied
    · cases applied
    · split at applied
      · rename_i injects
        cases applied
        rw [getAll_insertSome, if_neg (by simpa [StreamPriority.written, enabled, injects] using away)]
      · cases applied
        rfl

def removeOidcCookie (headers : HeaderMap) : HeaderMap :=
  removeCookie "r3v3rs3_oidc_state" (removeCookie "r3v3rs3_oidc" headers)

def removeAuthCookies (headers : HeaderMap) : HeaderMap :=
  removeCookie "r3v3rs3_session" (removeOidcCookie headers)

/-- The cookies of r3v3rs3 itself. -/
def authCookies : List String := ["r3v3rs3_oidc", "r3v3rs3_oidc_state", "r3v3rs3_session"]

theorem edits_removeOidcCookie : Edits ["cookie"] removeOidcCookie :=
  ((edits_removeCookie _).comp (edits_removeCookie _)).mono (by simp)

theorem getAll_removeAuthCookies
    (kept : other = "cookie" → ∀ name ∈ authCookies, lacksCookie headers name = true) :
    (removeAuthCookies headers).getAll other = headers.getAll other := by
  simp only [removeAuthCookies, removeOidcCookie, getAll_removeCookie, if_true]
  by_cases cookie : other = "cookie"
  · simp only [authCookies, List.forall_mem_cons, lacksCookie, decide_eq_true_eq] at kept
    obtain ⟨oidc, state, session, -⟩ := kept cookie
    rw [if_pos cookie, oidc, state, session, cookie]
  · simp only [if_neg cookie]

/-- Takes `accept-encoding` out of a request the cache of the route may answer. -/
def cacheRequest (cached : Bool) (method : Cache.Method) (headers : HeaderMap) : HeaderMap :=
  if cached && Cache.isCacheableRequest method headers then headers.remove "accept-encoding"
  else headers

theorem getAll_cacheRequest {cached : Bool} (method : Cache.Method)
    (kept : cached = true → other = "accept-encoding" → headers.getAll other = []) :
    (cacheRequest cached method headers).getAll other = headers.getAll other := by
  unfold cacheRequest
  split
  · rename_i cacheable
    rw [getAll_remove, ite_eq_right_iff]
    exact fun same => (kept (Bool.and_eq_true_iff.mp cacheable).1 same).symm
  · rfl

/-! ## The whole sequence -/

/-- What the route, the pool and the connection add to one request. -/
structure Context (net : IpText) where
  affinity : Option String
  target : Target
  grpcWeb : Bool
  priority : StreamPriority
  throttled : Bool
  method : Cache.Method
  client : ClientAddr net
  requestHost : Option String
  proto : String
  via : Option HeaderValue
  traceIds : TraceIds
  cached : Bool

section Prepare

variable {net : IpText} (ctx : Context net)

/-- The edits after the request is known to be sent. -/
def rewriteRequest (headers : HeaderMap) : HeaderMap :=
  cacheRequest ctx.cached ctx.method (propagateTraceContext ctx.traceIds (postProcess ctx.via
    (preProcess ctx.client ctx.requestHost ctx.proto
      (removeHopByHopHeaders (ctx.method = .get) (removeAuthCookies headers)))))

/-- The headers the upstream call is made with, `none` when the request is not sent. -/
def prepareUpstreamRequest (headers : HeaderMap) : Option HeaderMap := do
  let headers ← select ctx.affinity ctx.target headers
  let headers :=
    if ctx.grpcWeb && isGrpcWebRequest headers then prepareGrpcRequest headers else headers
  let headers ← applyStreamPriority ctx.priority ctx.throttled headers
  return rewriteRequest ctx headers

/-- The request brings its own id, and the id stays. -/
def keepsRequestId (headers : HeaderMap) : Bool :=
  hasRequestId headers && "x-request-id" ∉ connectionNamed (headers.getAll "connection")

/-- The names that are written for the server of the request. -/
def selectedHeaders (headers : HeaderMap) : List HeaderName :=
  ctx.target.written ++ ctx.priority.written ++
    (if ctx.grpcWeb && isGrpcWebRequest headers then grpcHeaders headers else []) ++
      if (ctx.affinity.toList ++ authCookies).all (lacksCookie headers) then [] else ["cookie"]

/-- The names whose values are taken out, if there are any. -/
def removedHeaders : List HeaderName :=
  hopByHopHeaders ++ ctx.client.removed ++ if ctx.cached then ["accept-encoding"] else []

/-- The names that the sequence gives a value of its own in the request, or takes a value of.  A
stage that is off, or that finds nothing to do, has none. -/
def managedHeaders (headers : HeaderMap) : List HeaderName :=
  selectedHeaders ctx headers ++
    (if sanitizedTe (headers.getAll "te") = headers.getAll "te" then [] else ["te"]) ++
    (if isWebsocketUpgrade (ctx.method = .get) headers then ["connection", "upgrade"] else []) ++
    processedHeaders ctx.client ctx.requestHost ++ (if ctx.via.isSome then ["via"] else []) ++
      "traceparent" :: (if keepsRequestId headers then [] else ["x-request-id"]) ++
        (removedHeaders ctx).filter fun name => headers.getAll name ≠ []

variable {ctx}

theorem selectedHeaders_subset :
    selectedHeaders ctx headers ⊆ ["cookie", "host", "content-type", "te", "priority"] := by
  unfold selectedHeaders Target.written StreamPriority.written grpcHeaders
  repeat' split
  all_goals simp

/-- Up to the hop-by-hop headers only the selected names change. -/
theorem getAll_selected {selected prioritized : HeaderMap}
    (isSelected : select ctx.affinity ctx.target headers = some selected)
    (isPrioritized : applyStreamPriority ctx.priority ctx.throttled
      (if ctx.grpcWeb && isGrpcWebRequest selected then prepareGrpcRequest selected else selected) =
        some prioritized)
    (away : other ∉ selectedHeaders ctx headers) :
    (removeAuthCookies prioritized).getAll other = headers.getAll other := by
  simp only [selectedHeaders, List.mem_append, not_or] at away
  obtain ⟨⟨⟨target, priority⟩, grpc⟩, cookies⟩ := away
  have lacks : other = "cookie" →
      ∀ name ∈ ctx.affinity.toList ++ authCookies, lacksCookie headers name = true := by
    intro cookie
    by_contra some
    rw [← List.all_eq_true] at some
    exact cookies (by simp [some, cookie])
  have chosen := getAll_select isSelected target fun cookie name sticky =>
    lacks cookie name (List.mem_append_left _ (by simpa using sticky))
  -- the gRPC-Web stage looks at names that the server does not change
  have same : ∀ name ∈ ["content-type", "te", "x-grpc-web"],
      selected.getAll name = headers.getAll name := by
    intro name listed
    refine getAll_select isSelected ?_ ?_
    · unfold Target.written
      repeat' split
      all_goals simp at listed ⊢
      rcases listed with rfl | rfl | rfl <;> decide
    · rintro rfl
      exact absurd listed (by decide)
  have typed : hasGrpcWebType selected = hasGrpcWebType headers := by
    simp only [hasGrpcWebType, MultiMap.get, same "content-type" (by decide)]
  have web : isGrpcWebRequest selected = isGrpcWebRequest headers := by
    simp only [isGrpcWebRequest, typed, MultiMap.contains, MultiMap.get, same "x-grpc-web" (by decide)]
  have written : grpcHeaders selected = grpcHeaders headers := by
    rw [grpcHeaders, grpcHeaders, typed, same "te" (by decide)]
  have before : prioritized.getAll other = headers.getAll other := by
    rw [getAll_applyStreamPriority isPrioritized priority, ← chosen]
    split
    · rename_i on
      rw [web] at on
      rw [if_pos on, ← written] at grpc
      exact getAll_prepareGrpcRequest grpc
    · rfl
  refine (getAll_removeAuthCookies fun cookie name own => ?_).trans before
  subst cookie
  rw [lacksCookie, before]
  exact lacks rfl name (List.mem_append_right _ own)

/-- What the hop-by-hop stage leaves of a name that is not managed. -/
theorem getAll_hopped {isGet : Bool} {map : HeaderMap}
    (same : ∀ name ∉ ["cookie", "host", "content-type", "te", "priority"],
      map.getAll name = headers.getAll name)
    (own : map.getAll other = headers.getAll other)
    (te : other = "te" → sanitizedTe (headers.getAll "te") = headers.getAll "te")
    (upgrade : isWebsocketUpgrade isGet headers = true → other ∉ ["connection", "upgrade"])
    (removed : other ∈ hopByHopHeaders → headers.getAll other = []) :
    (removeHopByHopHeaders isGet map).getAll other =
      if other ∈ connectionNamed (headers.getAll "connection") then []
      else headers.getAll other := by
  rw [← same "connection" (by decide)]
  by_cases isTe : other = "te"
  · subst isTe
    rw [getAll_te, own, te rfl]
  by_cases hop : other ∈ hopByHopHeaders
  · have websocket : isWebsocketUpgrade isGet map = isWebsocketUpgrade isGet headers := by
      simp [isWebsocketUpgrade, same]
    rw [getAll_hopByHop hop, removed hop, ite_self, websocket, hopByHopValues]
    split
    · rfl
    · rename_i on
      have away := upgrade (by simpa using on)
      simp only [List.mem_cons, List.not_mem_nil, or_false, not_or] at away
      rw [if_neg away.1, if_neg away.2]
  · rw [getAll_removeHopByHop _ _ (by simp [isTe, hop]), own]

/-- **A header that the proxy does not manage itself** reaches the upstream call with the values it
has, unless a `connection` line of the request names it: then it has none. -/
theorem getAll_prepare {handed : HeaderMap}
    (sent : prepareUpstreamRequest ctx headers = some handed)
    (away : other ∉ managedHeaders ctx headers) :
    handed.getAll other =
      if other ∈ connectionNamed (headers.getAll "connection") then []
      else headers.getAll other := by
  simp only [prepareUpstreamRequest, Option.bind_eq_bind, Option.bind_eq_some_iff,
    Option.pure_def, Option.some.injEq] at sent
  obtain ⟨selected, isSelected, prioritized, isPrioritized, rfl⟩ := sent
  simp only [managedHeaders, List.mem_append, List.mem_cons, not_or] at away
  obtain ⟨⟨⟨⟨⟨⟨early, noTe⟩, noUpgrade⟩, processed⟩, noVia⟩, noParent, noId⟩, unremoved⟩ := away
  have empty : other ∈ removedHeaders ctx → headers.getAll other = [] := by
    intro listed
    by_contra values
    exact unremoved (List.mem_filter.mpr ⟨listed, by simpa using values⟩)
  have hopped : (removeHopByHopHeaders (ctx.method = .get) (removeAuthCookies prioritized)).getAll
      other = if other ∈ connectionNamed (headers.getAll "connection") then []
        else headers.getAll other := getAll_hopped
    (fun name apart => getAll_selected isSelected isPrioritized
      fun listed => apart (selectedHeaders_subset listed))
    (getAll_selected isSelected isPrioritized early)
    (fun te => by_contra fun changed => noTe (by simp [changed, te]))
    (fun on => by simpa [on] using noUpgrade)
    (fun hop => empty (List.mem_append_left _ (List.mem_append_left _ hop)))
  rw [rewriteRequest]
  generalize removeHopByHopHeaders (ctx.method = .get) (removeAuthCookies prioritized) = left
    at hopped ⊢
  have none : headers.getAll other = [] → left.getAll other = [] := by
    intro values
    rw [hopped, values, ite_self]
  have sentOn : (postProcess ctx.via (preProcess ctx.client ctx.requestHost ctx.proto
      left)).getAll other = left.getAll other := by
    rw [postProcess, edits_insertSome _ _ _ other noVia, getAll_preProcess _ processed]
    exact fun listed => none (empty (List.mem_append_left _ (List.mem_append_right _ listed)))
  have traced := @getAll_propagateTraceContext ctx.traceIds (postProcess ctx.via
    (preProcess ctx.client ctx.requestHost ctx.proto left)) other noParent ?_
  · rw [← hopped, ← sentOn, ← traced]
    refine getAll_cacheRequest _ fun cached encoding => ?_
    rw [traced, sentOn]
    refine none (empty (List.mem_append_right _ ?_))
    rw [if_pos cached, encoding]
    exact List.mem_singleton_self _
  · rintro rfl
    have brings : keepsRequestId headers = true := by_contra fun missing => noId (by simp [missing])
    simp only [keepsRequestId, Bool.and_eq_true, decide_eq_true_eq] at brings
    rw [hasRequestId, MultiMap.get, sentOn, hopped, if_neg brings.2]
    exact brings.1

end Prepare

end R3v3rs3.Proxy.Http
