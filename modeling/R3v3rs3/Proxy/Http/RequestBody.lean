/-
# R3v3rs3.Proxy.Http.RequestBody -- the body of a client request on its way to routing

A short body is read into memory first, so that the traffic log can show it; any other body is
streamed, and its failure goes on to the upstream call.  `body_is_faithful_iff` says when what
routing gets is the body of the client: always, unless a body that is read first fails.  Then the
request goes on with an empty body, complete as far as the upstream server can tell.
-/
import R3v3rs3.Proxy.Http.Headers
import R3v3rs3.Theory.BodyStream

namespace R3v3rs3.Proxy.Http.RequestBody
open Api Theory Theory.BodyStream
set_option autoImplicit false

structure BodyStreamError where
  text : String

/-- The `content-length` of the request as a `usize`. -/
def declaredLength (headers : HeaderMap) : Option Nat := do
  let value ← headers.get "content-length"
  let text ← HeaderValue.toStr value
  Text.parseU64 text

/-- A body of 1 to 16384 bytes is read first, unless the request upgrades to WebSocket. -/
def shouldBuffer (isWebsocket : Bool) (headers : HeaderMap) : Bool :=
  !isWebsocket && (declaredLength headers).any fun length => 0 < length && length ≤ 16384

section Buffer

/-! How the HTTP library shows its errors, and how the traffic log redacts a body. -/
variable {HyperError : Type} (display : HyperError → String)
  (sanitizeBodyPreview : Option String → Option String)

/-- The body for routing, and the preview for the traffic log. -/
def bufferRequestBody (isWebsocket : Bool) (headers : HeaderMap)
    (incoming : Body HeaderMap HyperError) : Body HeaderMap BodyStreamError × Option String :=
  if shouldBuffer isWebsocket headers then
    match incoming.collect with
    | .ok bytes => (.full bytes, sanitizeBodyPreview (String.fromUTF8? ⟨bytes.toArray⟩))
    | .error _ => (.empty, none)
  else (incoming.mapErr fun error => ⟨display error⟩, none)

end Buffer

/-- What is handed on has the bytes of the client and ends as the client's body does, or it
fails. -/
def Faithful {HyperError : Type} (incoming : Body HeaderMap HyperError)
    (handed : Body HeaderMap BodyStreamError) : Prop :=
  handed.failure ≠ none ∨ (incoming.failure = none ∧ handed.bytes = incoming.bytes)

section Buffer

variable {HyperError : Type} {display : HyperError → String}
  {sanitizeBodyPreview : Option String → Option String} {isWebsocket : Bool} {headers : HeaderMap}
  {incoming : Body HeaderMap HyperError}

theorem streamed_faithful (streamed : shouldBuffer isWebsocket headers = false) :
    Faithful incoming
      (bufferRequestBody display sanitizeBodyPreview isWebsocket headers incoming).1 := by
  rw [bufferRequestBody, if_neg (by simp [streamed])]
  cases failed : incoming.failure with
  | none => exact .inr ⟨failed, incoming.bytes_mapErr _⟩
  | some =>
    refine .inl ?_
    simp [Body.mapErr, failed]

theorem buffered_faithful_iff (buffered : shouldBuffer isWebsocket headers = true) :
    Faithful incoming
        (bufferRequestBody display sanitizeBodyPreview isWebsocket headers incoming).1 ↔
      incoming.failure = none := by
  rw [bufferRequestBody, if_pos buffered]
  cases failed : incoming.failure with
  | none =>
    have collected : incoming.collect = .ok incoming.bytes :=
      Body.collect_eq_ok.mpr ⟨failed, rfl⟩
    rw [collected]
    exact iff_of_true (.inr ⟨failed, Body.bytes_full _⟩) rfl
  | some error =>
    have collected : incoming.collect = .error error := by simp only [Body.collect, failed]
    rw [collected]
    apply iff_of_false
    · -- the empty body does not fail, and the client's did
      rintro (fails | ⟨ends, -⟩)
      · exact fails rfl
      · rw [failed] at ends
        cases ends
    · simp

end Buffer

/-- **A failed body that is read first is replaced by an empty one**, and that is the only way in
which the body of the client is not handed on as it is. -/
theorem body_is_faithful_iff {HyperError : Type} (display : HyperError → String)
    (sanitizeBodyPreview : Option String → Option String) (isWebsocket : Bool)
    (headers : HeaderMap) (incoming : Body HeaderMap HyperError) :
    Faithful incoming
        (bufferRequestBody display sanitizeBodyPreview isWebsocket headers incoming).1 ↔
      shouldBuffer isWebsocket headers = false ∨ incoming.failure = none := by
  cases buffered : shouldBuffer isWebsocket headers with
  | false => exact iff_of_true (streamed_faithful buffered) (.inl rfl)
  | true =>
    rw [buffered_faithful_iff buffered]
    simp

/-- Two of ten bytes arrive before the connection of the client breaks. -/
def brokenBody : Body HeaderMap Unit where
  frames := [.data [97, 98]]
  failure := some ()
  size := some 10
  exact length known := by
    cases known
    exact ⟨by decide, nofun⟩

/-- **A broken body becomes a complete empty one.** -/
theorem broken_body_is_replaced :
    let handed := (bufferRequestBody (fun _ => "connection reset") id false
      ⟨[("content-length", bytes "10")]⟩ brokenBody).1
    handed.frames = [] ∧ handed.failure = none ∧ ¬ Faithful brokenBody handed := by
  intro handed
  have replaced : handed = .empty := by
    have buffered : shouldBuffer false ⟨[("content-length", bytes "10")]⟩ = true := by decide
    rfl
  rw [replaced]
  refine ⟨rfl, rfl, ?_⟩
  rintro (fails | ⟨ends, -⟩)
  · exact fails rfl
  · cases ends

end R3v3rs3.Proxy.Http.RequestBody
