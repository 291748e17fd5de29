/-
# R3v3rs3.Proxy.Http.BodyLimit -- who is blamed for a body that is too large

A request body is wrapped, so that it fails where it passes the limit of the route and remembers
that it did.  A body of known length may be read into memory before a server is asked; any other
body is read while the request is sent, and then its failure is the failure of the send.

`request` runs this on the health and the circuit breakers of a group, over a network that does not
fail by itself.  The client gets 413 either way.  `large_body_blames_nobody_iff` says when the
servers are as they were before: nobody was asked, or the server that was asked is in the state that
one more failure leaves it in.
-/
import R3v3rs3.Proxy.Circuit
import R3v3rs3.Proxy.Http.Retries

namespace R3v3rs3.Proxy.Http.BodyLimit
open Theory Theory.BodyStream Proxy.Http.Retries
open Proxy.Health hiding start
set_option autoImplicit false

/-! ## The limit -/

section Limit

variable {Foreign : Type}

/-- `BodyLimit::apply`; the errors of the client's own body come from its library. -/
def apply (limit : Nat) (req : Request (Body HeaderMap Foreign)) : Request (ProxyBody Foreign) :=
  let body : ProxyBody Foreign := req.body.mapErr .foreign
  { req with body := if limit = 0 then body else body.limited limit (.proxy .payloadTooLarge) }

/-- Reading the body to its end or failure passes the limit. -/
def passesLimit (body : ProxyBody Foreign) : Bool :=
  match body.failure with
  | some (.proxy .payloadTooLarge) => true
  | _ => false

theorem passesLimit_iff {body : ProxyBody Foreign} :
    passesLimit body = true ↔ body.failure = some (.proxy .payloadTooLarge) := by
  unfold passesLimit
  split
  · rename_i failed
    exact iff_of_true rfl failed
  · rename_i other
    exact iff_of_false nofun other

/-- A body that is known to be empty does not pass the limit. -/
theorem passesLimit_empty {limit : Nat} {req : Request (Body HeaderMap Foreign)}
    (none : (apply limit req).body.size = some 0) : passesLimit (apply limit req).body = false := by
  rw [← Bool.not_eq_true, passesLimit_iff]
  have foreign : (req.body.mapErr (Fault.foreign : Foreign → Fault Foreign)).failure ≠
      some (.proxy .payloadTooLarge) := by
    cases failed : req.body.failure <;> simp [Body.mapErr, failed]
  unfold apply at none ⊢
  dsimp only at none ⊢
  split at none
  · rename_i unlimited
    rw [if_pos unlimited]
    exact foreign
  · rename_i limited
    rw [if_neg limited]
    have size : req.body.size = some 0 := none
    have short : (content req.body.frames).length ≤ limit :=
      Nat.le_trans (req.body.exact 0 size).1 (Nat.zero_le _)
    have whole := (fitting_eq_self_iff limit req.body.frames).mpr short
    have fits : ¬ (fitting limit req.body.frames).length < req.body.frames.length := by omega
    have kept : ((req.body.mapErr Fault.foreign).limited limit
        (.proxy .payloadTooLarge)).failure = (req.body.mapErr Fault.foreign).failure := if_neg fits
    rw [kept]
    exact foreign

end Limit

/-! ## The group and the network -/

/-- A group at a time. -/
structure Live where
  group : UpstreamGroup
  now : Nat

namespace Live

/-- Whether the circuit of the server lets a request through, `some true` for a trial. -/
def opensTo (live : Live) (index : Nat) : Option Bool :=
  if live.group.circuitBreaker.enabled = false then some false
  else live.group.breakers[index]?.bind fun breaker => (breaker.letThrough live.now).2

/-- `UpstreamGroup::acquire`. -/
def acquire (live : Live) (index : Nat) : Option Bool × Live :=
  (live.opensTo index,
    if live.group.circuitBreaker.enabled = false then live
    else
      { live with group := live.group.modifyBreaker index fun breaker =>
          (breaker.letThrough live.now).1 })

def finish (permit : Retries.Permit) (outcome : Outcome) (live : Live) : Live :=
  { live with group :=
      (⟨0, permit.index, permit.trial⟩ : Health.Permit).finish outcome live.now live.group }

/-- The first candidate whose circuit lets a request through. -/
def firstOpen (live : Live) (candidates : List Nat) : Option Nat :=
  candidates.find? fun index => (live.opensTo index).isSome

end Live

section Sent

variable {Foreign : Type}

def isWebsocketUpgradeRequest (req : Request (ProxyBody Foreign)) : Bool :=
  req.method = .get &&
    (req.headers.get "upgrade").any
      (fun value => value.toStr.any (eqIgnoreAsciiCase · "websocket".toList)) &&
    (req.headers.get "connection").any
      fun value => (items value).any (eqIgnoreAsciiCase · "upgrade".toList)

/-- The body that `ConnectionPool::send` reads: none of a WebSocket upgrade. -/
def sentBody (req : Request (ProxyBody Foreign)) : ProxyBody Foreign :=
  if isWebsocketUpgradeRequest req then .full [] else req.body

/-- A body that passes the limit while it is sent is the one of the request. -/
theorem failure_of_passes {req : Request (ProxyBody Foreign)}
    (passes : passesLimit (sentBody req) = true) :
    (sentBody req).failure = some (.proxy .payloadTooLarge) ∧ passesLimit req.body = true := by
  refine ⟨passesLimit_iff.mp passes, ?_⟩
  unfold sentBody at passes
  split at passes
  · cases passes
  · exact passes

end Sent

/-- The servers answer every request that they get whole, and the answer takes `delay`.  A body that
fails while it is sent fails the request; the error of the HTTP library is around the one of the
body, and it is not one of connecting. -/
def reliable {Foreign Content : Type} (answer : Request (ProxyBody Foreign) → Response Content)
    (delay : Nat) (display : Fault Foreign → String) : Servers Live Foreign Content where
  acquire index live := live.acquire index
  send req live :=
    (match (sentBody req).failure with
      | some fault => .error ⟨.wrapped fault, false⟩
      | none => .ok (answer { req with body := sentBody req }), { live with now := live.now + delay })
  finish permit outcome live := Live.finish permit outcome live
  display := display

/-! ## The upstream call -/

/-- How an upstream call ends. -/
structure Called (Foreign Content : Type) where
  answer : Answer Foreign Content
  live : Live
  /-- `BodyLimit::exceeded`. -/
  exceeded : Bool

section Call

variable {Foreign Content : Type} (uris : UriRules) (upstream : Upstream)
  (world : Servers Live Foreign Content)

/-- Sends the request, without a target as it is. -/
def sendRequest (req : Request (ProxyBody Foreign)) (target : Option UpstreamTarget) (live : Live) :
    Called Foreign Content :=
  match target with
  | none =>
    let (answer, live) := world.send req live
    ⟨answer, live, passesLimit (sentBody req)⟩
  | some target =>
    match Replay.prepare upstream.retry.replayBodyLimit req with
    | .error failed =>
      ⟨.error failed, live,
        passesLimit (req.body.limited upstream.retry.replayBodyLimit .lengthLimit)⟩
    | .ok replay =>
      let run := sendWithRetries uris upstream world target replay live
      ⟨run.result, run.servers, run.sent.any fun copy => passesLimit (sentBody copy.request)⟩

/-- `Upstream::request` without a mirror. -/
def request (maxBodySize : Nat) (req : Request (Body HeaderMap Foreign))
    (target : Option UpstreamTarget) (live : Live) : Called Foreign Content :=
  let called := sendRequest uris upstream world (apply maxBodySize req) target live
  match called.answer with
  | .error _ =>
    if called.exceeded then { called with answer := .error (.other (.proxy .payloadTooLarge)) }
    else called
  | .ok _ => called

end Call

/-! ## What one failure changes -/

/-- One more failure leaves the health of a server as it is. -/
def HealthFixed (check : HealthCheck) (text : String) (reported : Nat) (health : ServerHealth) :
    Prop :=
  health.lastError = some text ∧
    (check.maxFails = 0 ∨
      health.failures = u32Max ∧
        (u32Max < check.maxFails ∨ health.unhealthyUntil = some (reported + check.failTimeout)))

/-- One more failure leaves the breaker that let the request through as it is. -/
def BreakerFixed (config : CircuitBreaker) (reported : Nat) (breaker : Breaker) : Prop :=
  match breaker.circuit with
  | .closed =>
    (∃ start, breaker.windowStart = some start ∧ reported - start < config.window ∧
      breaker.requests = u32Max ∧ breaker.failures = u32Max ∧
      (u32Max < config.minRequests ∨ u32Max * 100 < config.failureRatio * u32Max)) ∨
    (breaker.windowStart = some reported ∧ config.window = 0 ∧
      breaker.requests = 1 ∧ breaker.failures = 1 ∧
      (1 < config.minRequests ∨ 100 < config.failureRatio))
  | .opened deadline =>
    deadline = reported + config.openDuration ∧ breaker.windowStart = none ∧
      breaker.requests = 0 ∧ breaker.failures = 0
  | .halfOpen _ => False

/-- The server is in the state that one more failure leaves it in. -/
def Saturated (group : UpstreamGroup) (text : String) (reported index : Nat) : Prop :=
  (∀ health ∈ group.servers[index]?, HealthFixed group.healthCheck text reported health) ∧
    (group.circuitBreaker.enabled = true → ∀ breaker ∈ group.breakers[index]?,
      BreakerFixed group.circuitBreaker reported breaker)

section Fixed

theorem modify_eq_self_iff {α : Type} {items : List α} {index : Nat} {change : α → α} :
    items.modify index change = items ↔ ∀ item ∈ items[index]?, change item = item := by
  constructor
  · intro same item isItem
    have changed : (items.modify index change)[index]? = some (change item) := by
      rw [List.getElem?_modify, Option.mem_def.mp isItem]
      simp
    rw [same, Option.mem_def.mp isItem] at changed
    exact (Option.some.inj changed).symm
  · intro fixed
    apply List.ext_getElem?
    intro other
    rw [List.getElem?_modify]
    cases isItem : items[other]? with
    | none => rfl
    | some item =>
      by_cases here : index = other
      · subst here
        simp [fixed item isItem]
      · simp [here]

theorem saturatingSucc_eq_self {n : Nat} : saturatingSucc n = n ↔ n = u32Max := by
  unfold saturatingSucc u32Max
  omega

theorem reportFailure_servers (group : UpstreamGroup) (index : Nat) (text : String) (now : Nat) :
    (group.reportFailure index text now).servers = group.servers ↔
      ∀ health ∈ group.servers[index]?, HealthFixed group.healthCheck text now health := by
  rw [UpstreamGroup.reportFailure, UpstreamGroup.modifyHealth, modify_eq_self_iff]
  apply forall₂_congr
  intro health _
  obtain ⟨failures, unhealthyUntil, checkFailed, lastError⟩ := health
  have succ := @saturatingSucc_eq_self failures
  unfold HealthFixed
  by_cases uncounted : group.healthCheck.maxFails = 0
  · simp [uncounted, eq_comm]
  · rw [if_neg uncounted]
    by_cases few : saturatingSucc failures < group.healthCheck.maxFails
    · rw [if_pos few]
      simp only [ServerHealth.mk.injEq, succ]
      constructor
      · rintro ⟨most, -, -, text⟩
        rw [succ.mpr most, most] at few
        exact ⟨text.symm, .inr ⟨most, .inl few⟩⟩
      · rintro ⟨text, none | ⟨most, -⟩⟩
        · exact absurd none uncounted
        · exact ⟨most, trivial, trivial, text.symm⟩
    · rw [if_neg few]
      simp only [ServerHealth.mk.injEq, succ]
      constructor
      · rintro ⟨most, deadline, -, text⟩
        exact ⟨text.symm, .inr ⟨most, .inr deadline.symm⟩⟩
      · rintro ⟨text, none | ⟨most, above | deadline⟩⟩
        · exact absurd none uncounted
        · rw [succ.mpr most, most] at few
          exact absurd above few
        · exact ⟨most, deadline.symm, trivial, text.symm⟩

variable {breaker : Breaker} {now reported : Nat} {config : CircuitBreaker}

/-- A failure counted for a closed circuit changes nothing when the window is full, or when a window
without length begins again. -/
theorem count_eq_self {window : Nat} :
    breaker.count window true now = breaker ↔
      (∃ start, breaker.windowStart = some start ∧ now - start < window ∧
        breaker.requests = u32Max ∧ breaker.failures = u32Max) ∨
      (breaker.windowStart = some now ∧ window = 0 ∧ breaker.requests = 1 ∧
        breaker.failures = 1) := by
  obtain ⟨circuit, windowStart, requests, failures⟩ := breaker
  cases windowStart with
  | none => simp [Breaker.count]
  | some start =>
    by_cases passed : window ≤ now - start
    · have restarted : (Breaker.mk circuit (some start) requests failures).count window true now =
          ⟨circuit, some now, 1, 1⟩ := by
        simp [Breaker.count, passed, saturatingSucc]
      rw [restarted]
      simp only [Breaker.mk.injEq, Option.some.injEq, true_and]
      constructor
      · rintro ⟨rfl, rfl, rfl⟩
        exact .inr ⟨rfl, by omega, rfl, rfl⟩
      · rintro (⟨other, rfl, inside, -⟩ | ⟨rfl, -, rfl, rfl⟩)
        · omega
        · exact ⟨rfl, rfl, rfl⟩
    · have counted : (Breaker.mk circuit (some start) requests failures).count window true now =
          ⟨circuit, some start, saturatingSucc requests, saturatingSucc failures⟩ := by
        simp [Breaker.count, passed]
      rw [counted]
      simp only [Breaker.mk.injEq, Option.some.injEq, true_and, saturatingSucc_eq_self]
      constructor
      · rintro ⟨rfl, rfl⟩
        exact .inl ⟨start, rfl, by omega, rfl, rfl⟩
      · rintro (⟨other, rfl, -, rfl, rfl⟩ | ⟨rfl, rfl, -⟩)
        · exact ⟨rfl, rfl⟩
        · omega

theorem record_closed (closed : breaker.circuit = .closed) :
    (breaker.record config false true now).1 = breaker ↔
      breaker.count config.window true now = breaker ∧
        (breaker.requests < config.minRequests ∨
          breaker.failures * 100 < config.failureRatio * breaker.requests) := by
  rw [Breaker.record, if_neg Bool.false_ne_true, if_neg (by simp [closed])]
  dsimp only
  split
  · rename_i below
    constructor
    · intro same
      replace same : breaker.count config.window true now = breaker := same
      rw [same] at below
      exact ⟨same, below⟩
    · exact fun same => same.1
  · rename_i above
    constructor
    · intro same
      -- an open circuit is not the closed one of before
      rw [← same] at closed
      cases closed
    · rintro ⟨same, below⟩
      rw [same] at above
      exact absurd below above

theorem record_closed_fixed (closed : breaker.circuit = .closed) :
    (breaker.record config false true reported).1 = breaker ↔
      BreakerFixed config reported breaker := by
  rw [record_closed closed, count_eq_self]
  simp only [BreakerFixed, closed]
  constructor
  · rintro ⟨⟨start, isStart, inside, requests, failures⟩ | ⟨isStart, window, requests, failures⟩,
      below⟩
    · rw [requests, failures] at below
      exact .inl ⟨start, isStart, inside, requests, failures, below⟩
    · rw [requests, failures] at below
      exact .inr ⟨isStart, window, requests, failures, by omega⟩
  · rintro (⟨start, isStart, inside, requests, failures, below⟩ |
      ⟨isStart, window, requests, failures, below⟩)
    · rw [requests, failures]
      exact ⟨.inl ⟨start, isStart, inside, rfl, rfl⟩, below⟩
    · rw [requests, failures]
      exact ⟨.inr ⟨isStart, window, rfl, rfl⟩, by omega⟩

/-- A trial that fails opens the circuit again. -/
theorem record_trial_fixed (notClosed : breaker.circuit ≠ .closed) :
    Breaker.openFrom config reported = breaker ↔ BreakerFixed config reported breaker := by
  obtain ⟨circuit, windowStart, requests, failures⟩ := breaker
  cases circuit with
  | closed => exact absurd rfl notClosed
  | halfOpen => simp [Breaker.openFrom, BreakerFixed]
  | opened =>
    simp only [Breaker.openFrom, BreakerFixed, Breaker.mk.injEq, Circuit.opened.injEq]
    constructor
    · rintro ⟨rfl, rfl, rfl, rfl⟩
      exact ⟨rfl, rfl, rfl, rfl⟩
    · rintro ⟨rfl, rfl, rfl, rfl⟩
      exact ⟨rfl, rfl, rfl, rfl⟩

/-- A failure of a request that was let through leaves the breaker as it was before. -/
theorem record_letThrough {trial : Bool} (isOpen : (breaker.letThrough now).2 = some trial) :
    ((breaker.letThrough now).1.record config trial true reported).1 = breaker ↔
      BreakerFixed config reported breaker := by
  cases trial with
  | false =>
    obtain ⟨closed, same⟩ := Breaker.letThrough_some isOpen
    rw [same]
    exact record_closed_fixed closed
  | true =>
    obtain ⟨notClosed, -, running⟩ := Breaker.letThrough_some isOpen
    rw [running]
    exact record_trial_fixed notClosed

/-- **What the failure of a request changes**, from before its permit was taken. -/
theorem blamed_iff {live : Live} {permit : Retries.Permit} {text : String}
    (isOpen : live.opensTo permit.index = some permit.trial) :
    let after := Live.finish permit (.failure text)
      { (live.acquire permit.index).2 with now := reported }
    (after.group.servers = live.group.servers ∧ after.group.breakers = live.group.breakers) ↔
      Saturated live.group text reported permit.index := by
  intro after
  obtain ⟨index, trial⟩ := permit
  unfold Live.opensTo at isOpen
  cases enabled : live.group.circuitBreaker.enabled with
  | false =>
    have isAfter : after.group = live.group.reportFailure index text reported := by
      simp [after, Live.finish, Live.acquire, Health.Permit.finish, enabled,
        UpstreamGroup.recordCircuit, UpstreamGroup.reportFailure, UpstreamGroup.modifyHealth]
    have breakers : after.group.breakers = live.group.breakers := by
      rw [isAfter]
      rfl
    rw [isAfter, reportFailure_servers, ← isAfter]
    simp [Saturated, enabled, breakers]
  | true =>
    rw [if_neg (by simp [enabled])] at isOpen
    obtain ⟨breaker, isBreaker, passed⟩ := Option.bind_eq_some_iff.mp isOpen
    have servers : after.group.servers =
        (live.group.reportFailure index text reported).servers := by
      simp [after, Live.finish, Live.acquire, Health.Permit.finish, enabled,
        UpstreamGroup.recordCircuit, UpstreamGroup.reportFailure, UpstreamGroup.modifyHealth,
        UpstreamGroup.modifyBreaker]
    have breakers : after.group.breakers =
        live.group.breakers.modify index fun breaker =>
          ((breaker.letThrough live.now).1.record live.group.circuitBreaker trial true
            reported).1 := by
      simp [after, Live.finish, Live.acquire, Health.Permit.finish, enabled,
        UpstreamGroup.recordCircuit, UpstreamGroup.reportFailure, UpstreamGroup.modifyHealth,
        UpstreamGroup.modifyBreaker, List.modify_modify_eq, Function.comp_def]
    rw [servers, reportFailure_servers, breakers, modify_eq_self_iff, Saturated]
    simp only [isBreaker, Option.mem_def, Option.some.injEq, forall_eq', enabled, true_imp_iff,
      record_letThrough passed]

end Fixed

/-! ## The permit of a request -/

section Permits

variable {Foreign Content : Type} {answer : Request (ProxyBody Foreign) → Response Content}
  {delay : Nat} {display : Fault Foreign → String}

/-- A circuit that blocks the request stays as it is. -/
theorem acquire_blocked {live : Live} {index : Nat} (blocked : live.opensTo index = none) :
    (live.acquire index).2 = live := by
  unfold Live.opensTo at blocked
  unfold Live.acquire
  cases enabled : live.group.circuitBreaker.enabled with
  | false => rfl
  | true =>
    rw [if_neg (by simp [enabled]), Option.bind_eq_none_iff] at blocked
    have same : live.group.breakers.modify index (fun breaker => (breaker.letThrough live.now).1) =
        live.group.breakers := by
      rw [modify_eq_self_iff]
      intro breaker isBreaker
      have none := blocked breaker isBreaker
      unfold Breaker.letThrough at none ⊢
      split
      · rfl
      · rename_i free
        rw [if_neg free] at none
        split at none <;> cases none
    simp [UpstreamGroup.modifyBreaker, same]

theorem acquire_now (live : Live) (index : Nat) : (live.acquire index).2.now = live.now := by
  unfold Live.acquire
  split <;> rfl

/-- The permit is the one of the first candidate that lets the request through. -/
theorem findPermit_reliable {candidates rest : List Nat} {live after : Live}
    {permit : Retries.Permit}
    (found : findPermit (reliable answer delay display) candidates live =
      (some permit, rest, after)) :
    live.firstOpen candidates = some permit.index ∧
      live.opensTo permit.index = some permit.trial ∧ after = (live.acquire permit.index).2 := by
  induction candidates with
  | nil => cases found
  | cons index later ih =>
    have acquired : (reliable answer delay display).acquire index live =
        (live.opensTo index, (live.acquire index).2) := rfl
    unfold findPermit at found
    rw [acquired] at found
    cases isOpen : live.opensTo index with
    | some =>
      rw [isOpen] at found
      cases found
      refine ⟨?_, isOpen, rfl⟩
      rw [Live.firstOpen, List.find?_cons_of_pos (by simp [isOpen])]
    | none =>
      rw [isOpen, acquire_blocked isOpen] at found
      obtain ⟨first, opens, isAfter⟩ := ih found
      refine ⟨?_, opens, isAfter⟩
      rw [Live.firstOpen, List.find?_cons_of_neg (by simp [isOpen])]
      exact first

end Permits

/-! ## The bodies of the copies -/

section Bodies

variable {σ Foreign Content : Type} {uris : UriRules} {upstream : Upstream}
  {world : Servers σ Foreign Content} {target : UpstreamTarget}

/-- The body is one that the replay has. -/
def HasBody (replay : Replay Foreign) (body : ProxyBody Foreign) : Prop :=
  (∃ first ∈ replay.first, body = first.body) ∨ ∃ copy ∈ replay.copy, body = .full copy.body

theorem next_hasBody {replay next : Replay Foreign} {req : Request (ProxyBody Foreign)}
    (isNext : replay.next = (some req, next)) :
    HasBody replay req.body ∧ ∀ body, HasBody next body → HasBody replay body := by
  unfold Replay.next at isNext
  cases isFirst : replay.first with
  | some first =>
    simp only [isFirst, Prod.mk.injEq, Option.some.injEq] at isNext
    obtain ⟨rfl, rfl⟩ := isNext
    refine ⟨.inl ⟨first, isFirst, rfl⟩, fun body has => ?_⟩
    rcases has with ⟨other, none, -⟩ | copied
    · cases none
    · exact .inr copied
  | none =>
    simp only [isFirst, Prod.mk.injEq, Option.map_eq_some_iff] at isNext
    obtain ⟨⟨copy, isCopy, rfl⟩, rfl⟩ := isNext
    exact ⟨.inr ⟨copy, isCopy, rfl⟩, fun _ has => has⟩

theorem pointAt_body {req next : Request (ProxyBody Foreign)} {index : Nat}
    (pointed : pointAt uris upstream target req index = .ok next) : next.body = req.body := by
  unfold pointAt at pointed
  split at pointed
  · cases pointed
    rfl
  · exact (apply_ok pointed).2.2.1

/-- A round sends a body of the replay, if it sends anything. -/
theorem round_hasBody {p next : Progress σ Foreign Content} {again : Bool}
    (isNext : round uris upstream world target p = (next, again)) :
    (∀ copy ∈ next.sent, copy ∈ p.sent ∨ HasBody p.replay copy.request.body) ∧
      ∀ body, again = true → HasBody next.replay body → HasBody p.replay body := by
  unfold Retries.round at isNext
  split at isNext
  · cases isNext
    exact ⟨fun copy member => .inl member, fun _ again => by cases again⟩
  · rename_i req replay isReq
    obtain ⟨has, later⟩ := next_hasBody isReq
    split at isNext
    · cases isNext
      exact ⟨fun copy member => .inl member, fun _ again => by cases again⟩
    · split at isNext
      · cases isNext
        exact ⟨fun copy member => .inl member, fun _ again => by cases again⟩
      · rename_i pointed isPointed
        cases isNext
        refine ⟨fun copy member => ?_, fun body _ => later body⟩
        rcases List.mem_append.mp member with before | last
        · exact .inl before
        · rw [List.mem_singleton.mp last]
          exact .inr (by rw [pointAt_body isPointed]; exact has)

theorem rounds_hasBody {left : Nat} {p : Progress σ Foreign Content} :
    ∀ copy ∈ (rounds uris upstream world target left p).sent,
      copy ∈ p.sent ∨ HasBody p.replay copy.request.body := by
  induction left generalizing p with
  | zero => exact fun copy member => .inl member
  | succ left ih =>
    unfold rounds
    split
    · rename_i next isNext
      obtain ⟨sent, later⟩ := round_hasBody isNext
      intro copy member
      rcases ih copy member with before | has
      · exact sent copy before
      · exact .inr (later _ rfl has)
    · rename_i next isNext
      exact (round_hasBody isNext).1

/-- **Every copy has a body of the replay.** -/
theorem sent_hasBody {replay : Replay Foreign} {servers : σ} :
    ∀ copy ∈ (sendWithRetries uris upstream world target replay servers).sent,
      HasBody replay copy.request.body := by
  intro copy member
  rcases rounds_hasBody copy member with none | has
  · exact absurd none List.not_mem_nil
  · exact has

end Bodies

/-! ## A body that is too large -/

section Large

variable {Foreign Content : Type} {uris : UriRules} {upstream : Upstream}
  {answer : Request (ProxyBody Foreign) → Response Content} {delay : Nat}
  {display : Fault Foreign → String}

/-- The error of sending a body that passes its limit. -/
def bodyError : Fault Foreign := .wrapped (.proxy .payloadTooLarge)

/-- The call failed with the body at a server, which is as its failure leaves it. -/
def BlamedOn (live after : Live) (candidates : List Nat) (delay : Nat) (text : String) : Prop :=
  ∃ permit : Retries.Permit, live.firstOpen candidates = some permit.index ∧
    live.opensTo permit.index = some permit.trial ∧
    after = Live.finish permit (.failure text)
      { (live.acquire permit.index).2 with now := live.now + delay }

section Streamed

variable {target : UpstreamTarget} {req : Request (ProxyBody Foreign)} {live : Live}

/-- The servers answer a body that fails with that failure. -/
theorem attempt_reliable {permit : Retries.Permit} (passes : passesLimit (sentBody req) = true) :
    attempt (reliable answer delay display) req permit live =
      (.error ⟨bodyError, false⟩,
        Live.finish permit (.failure (display bodyError))
          { live with now := live.now + delay }) := by
  simp [attempt, reliable, (failure_of_passes passes).1, bodyError, recordedOutcome]

/-- The first round of a body that was not read before leaves no copy; where the body is too large
the round is the last one. -/
theorem streamed_round :
    ∃ next again, round uris upstream (reliable answer delay display) target
        (start target ⟨some req, none, req.method⟩ live) = (next, again) ∧
      next.replay = ⟨none, none, req.method⟩ ∧
      ∀ copy ∈ next.sent, passesLimit (sentBody copy.request) = true →
        again = false ∧ next.result = .error ⟨bodyError, false⟩ ∧
          BlamedOn live next.servers target.candidates delay (display bodyError) := by
  simp only [Retries.round, start, Replay.next]
  rcases found : findPermit (reliable answer delay display) target.candidates live
    with ⟨_ | permit, rest, after⟩
  · exact ⟨_, _, rfl, rfl, fun _ none => absurd none List.not_mem_nil⟩
  · obtain ⟨first, opens, isAfter⟩ := findPermit_reliable found
    cases pointed : pointAt uris upstream target req permit.index with
    | error =>
      simp only [pointed]
      exact ⟨_, _, rfl, rfl, fun _ none => absurd none List.not_mem_nil⟩
    | ok next =>
      simp only [pointed]
      refine ⟨_, _, rfl, rfl, fun copy member passes => ?_⟩
      obtain rfl : copy = _ := List.mem_singleton.mp member
      have attempted := @attempt_reliable Foreign Content answer delay display next after permit
        passes
      have stops : shouldRetry upstream.retry
          (.error ⟨bodyError, false⟩ : Answer Foreign Content) req.method = false := rfl
      simp only [deliver, attempted, stops, true_and]
      refine ⟨permit, first, opens, ?_⟩
      rw [isAfter, acquire_now]

/-- Without a copy nothing more is sent. -/
theorem sent_rounds_exhausted {world : Servers Live Foreign Content} {left : Nat}
    {p : Progress Live Foreign Content} {method : Cache.Method}
    (exhausted : p.replay = ⟨none, none, method⟩) :
    (rounds uris upstream world target left p).sent = p.sent := by
  cases left with
  | zero => rfl
  | succ => simp [rounds, Retries.round, Replay.next, exhausted]

/-- **A body that is too large and was not read before** is the failure of the first server that
lets the request through. -/
theorem streamed_run {copy : Copy Foreign Content} :
    let run := sendWithRetries uris upstream (reliable answer delay display) target
      ⟨some req, none, req.method⟩ live
    copy ∈ run.sent → passesLimit (sentBody copy.request) = true →
      run.result = .error ⟨bodyError, false⟩ ∧
        BlamedOn live run.servers target.candidates delay (display bodyError) := by
  intro run member passes
  obtain ⟨more, isMore⟩ : ∃ more, max upstream.retry.attempts 1 = more + 1 :=
    ⟨max upstream.retry.attempts 1 - 1, by omega⟩
  obtain ⟨next, again, isNext, exhausted, blamed⟩ := @streamed_round Foreign Content uris upstream
    answer delay display target req live
  cases again with
  | false =>
    have isRun : run = next := by simp only [run, sendWithRetries, isMore, rounds, isNext]
    rw [isRun] at member ⊢
    exact (blamed copy member passes).2
  | true =>
    have isRun : run = rounds uris upstream (reliable answer delay display) target more next := by
      simp only [run, sendWithRetries, isMore, rounds, isNext]
    rw [isRun, sent_rounds_exhausted exhausted] at member
    cases (blamed copy member passes).1

end Streamed

theorem request_eq (uris : UriRules) (upstream : Upstream) (world : Servers Live Foreign Content)
    (maxBodySize : Nat) (req : Request (Body HeaderMap Foreign)) (target : Option UpstreamTarget)
    (live : Live) :
    let sent := sendRequest uris upstream world (apply maxBodySize req) target live
    let called := request uris upstream world maxBodySize req target live
    called.exceeded = sent.exceeded ∧ called.live = sent.live ∧
      (sent.exceeded = true → (∃ failed, sent.answer = .error failed) →
        called.answer = .error (.other (.proxy .payloadTooLarge))) := by
  intro sent called
  cases isAnswer : sent.answer with
  | ok =>
    have same : called = sent := by simp only [called, request, sent, isAnswer]
    rw [same]
    exact ⟨rfl, rfl, fun _ ⟨failed, isFailed⟩ => by cases isFailed⟩
  | error =>
    have isCalled : called =
        if sent.exceeded then { sent with answer := .error (.other (.proxy .payloadTooLarge)) }
        else sent := by
      simp only [called, request, sent, isAnswer]
    rw [isCalled]
    split
    · exact ⟨rfl, rfl, fun _ _ => rfl⟩
    · rename_i within
      exact ⟨rfl, rfl, fun exceeded => absurd exceeded within⟩

theorem sendRequest_prepared {world : Servers Live Foreign Content}
    {req : Request (ProxyBody Foreign)} {chosen : UpstreamTarget} {live : Live}
    {replay : Replay Foreign}
    (prepared : Replay.prepare upstream.retry.replayBodyLimit req = .ok replay) :
    sendRequest uris upstream world req (some chosen) live =
      ⟨(sendWithRetries uris upstream world chosen replay live).result,
        (sendWithRetries uris upstream world chosen replay live).servers,
        (sendWithRetries uris upstream world chosen replay live).sent.any fun copy =>
          passesLimit (sentBody copy.request)⟩ := by
  simp only [sendRequest, prepared]

variable {req : Request (Body HeaderMap Foreign)}

/-- A body that was read, or is known to be empty, does not pass the limit later. -/
theorem hasBody_within {maxBodySize limit : Nat} {replay : Replay Foreign}
    (kept : isStreamed limit (apply maxBodySize req) = false)
    (prepared : Replay.prepare limit (apply maxBodySize req) = .ok replay)
    {body : ProxyBody Foreign} (has : HasBody replay body) : passesLimit body = false := by
  rw [Replay.prepare, if_neg (by simp [kept])] at prepared
  split at prepared
  · rename_i none
    cases prepared
    rcases has with ⟨first, isFirst, rfl⟩ | ⟨copy, isCopy, rfl⟩
    · cases isFirst
      exact passesLimit_empty none
    · rfl
  · split at prepared
    · cases prepared
      rcases has with ⟨first, isFirst, rfl⟩ | ⟨copy, isCopy, rfl⟩
      · cases isFirst
        rfl
      · rfl
    · cases prepared

/-- Nobody was asked before the body passed its limit, or the first server that lets the request
through failed. -/
theorem exceeded_cases {maxBodySize : Nat} {target : Option UpstreamTarget} {live : Live}
    (exceeded : (sendRequest uris upstream (reliable answer delay display) (apply maxBodySize req)
      target live).exceeded = true) :
    let sent := sendRequest uris upstream (reliable answer delay display) (apply maxBodySize req)
      target live
    (∃ failed, sent.answer = .error failed) ∧
      (((∀ chosen ∈ target,
            isStreamed upstream.retry.replayBodyLimit (apply maxBodySize req) = false) ∧
          sent.live.group = live.group) ∨
        ∃ chosen, target = some chosen ∧
          isStreamed upstream.retry.replayBodyLimit (apply maxBodySize req) = true ∧
          BlamedOn live sent.live chosen.candidates delay (display bodyError)) := by
  intro sent
  cases target with
  | none =>
    have fails := (failure_of_passes exceeded).1
    refine ⟨⟨⟨bodyError, false⟩, ?_⟩, .inl ⟨nofun, rfl⟩⟩
    simp [sent, sendRequest, reliable, fails, bodyError]
  | some chosen =>
    cases streamed : isStreamed upstream.retry.replayBodyLimit (apply maxBodySize req) with
    | true =>
      have prepared : Replay.prepare upstream.retry.replayBodyLimit (apply maxBodySize req) =
          .ok ⟨some (apply maxBodySize req), none, (apply maxBodySize req).method⟩ := by
        rw [Replay.prepare, if_pos streamed]
      rw [sendRequest_prepared prepared, List.any_eq_true] at exceeded
      obtain ⟨copy, isCopy, passes⟩ := exceeded
      obtain ⟨result, blamed⟩ := streamed_run isCopy passes
      have isSent : sent = _ := sendRequest_prepared prepared
      rw [isSent]
      exact ⟨⟨_, result⟩, .inr ⟨chosen, rfl, rfl, blamed⟩⟩
    | false =>
      cases prepared : Replay.prepare upstream.retry.replayBodyLimit (apply maxBodySize req) with
      | ok =>
        rw [sendRequest_prepared prepared, List.any_eq_true] at exceeded
        obtain ⟨copy, isCopy, passes⟩ := exceeded
        have within := hasBody_within streamed prepared (sent_hasBody copy isCopy)
        rw [(failure_of_passes passes).2] at within
        cases within
      | error failed =>
        have isAnswer : sent.answer = .error failed := by simp only [sent, sendRequest, prepared]
        have isLive : sent.live = live := by simp only [sent, sendRequest, prepared]
        exact ⟨⟨failed, isAnswer⟩, .inl ⟨fun _ _ => rfl, by rw [isLive]⟩⟩

/-- **When a body that is too large is nobody's fault.**  The client gets 413.  The health and the
circuit breakers of all servers are as before if and only if the request has no target, or its body
was read before a server was asked, or the server that was asked is in the state that one more
failure leaves it in. -/
theorem large_body_blames_nobody_iff (maxBodySize : Nat) (req : Request (Body HeaderMap Foreign))
    (target : Option UpstreamTarget) (live : Live)
    (exceeded : (request uris upstream (reliable answer delay display) maxBodySize req target
      live).exceeded = true) :
    let called := request uris upstream (reliable answer delay display) maxBodySize req target live
    called.answer = .error (.other (.proxy .payloadTooLarge)) ∧
      ((called.live.group.servers = live.group.servers ∧
          called.live.group.breakers = live.group.breakers) ↔
        ∀ chosen ∈ target, isStreamed upstream.retry.replayBodyLimit (apply maxBodySize req) = true →
          ∀ index ∈ live.firstOpen chosen.candidates,
            Saturated live.group (display bodyError) (live.now + delay) index) := by
  intro called
  obtain ⟨sameExceeded, sameLive, answered⟩ := request_eq uris upstream
    (reliable answer delay display) maxBodySize req target live
  rw [sameExceeded] at exceeded
  obtain ⟨failed, ends⟩ := exceeded_cases exceeded
  refine ⟨answered exceeded failed, ?_⟩
  have isLive : called.live = (sendRequest uris upstream (reliable answer delay display)
    (apply maxBodySize req) target live).live := sameLive
  rw [isLive]
  rcases ends with ⟨unasked, same⟩ | ⟨chosen, rfl, streamed, permit, first, opens, isAfter⟩
  · rw [same]
    refine iff_of_true ⟨rfl, rfl⟩ fun chosen isChosen streamed => ?_
    exact absurd streamed (by simp [unasked chosen isChosen])
  · rw [isAfter]
    refine (blamed_iff opens).trans ?_
    simp [streamed, first]

end Large

/-! ## One upload -/

section Upload

/-- One server, which is unhealthy after one failure; its circuit opens after one. -/
def oneServer : UpstreamGroup :=
  .new [⟨"a", 1, none, []⟩] .first ⟨1, 10000, 0, 0, "", none⟩ ⟨true, 50, 1, 10000, 30000⟩

def toOneServer : Upstream where
  servers := [serverAt "a"]
  retry := ⟨1, [], 0⟩
  affinity := none
  rewrite := ⟨[], none, []⟩

/-- Three bytes of unknown length. -/
def upload (headers : HeaderMap) : Request (Body HeaderMap Unit) where
  method := .post
  uri := .server plainUrl
  headers := headers
  body := { frames := [.data [97, 98], .data [99]], failure := none, size := none, exact := nofun }

def toServer : UpstreamTarget := ⟨[0], [], none, none⟩

/-- The server answers 200 after a second. -/
def answering : Servers Live Unit Unit :=
  reliable (fun _ => ⟨.ok, ()⟩) 1000 fun _ => "the request body is too large"

/-- **The server is blamed for the upload**: it is unhealthy, and its circuit is open. -/
theorem upload_is_blamed_on_the_server :
    let called := request shortUris toOneServer answering 2 (upload ⟨[]⟩) (some toServer)
      ⟨oneServer, 0⟩
    called.answer = .error (.other (.proxy .payloadTooLarge)) ∧ called.exceeded = true ∧
      called.live.group.servers = [⟨1, some 11000, false, some "the request body is too large"⟩] ∧
      called.live.group.breakers = [⟨.opened 31000, none, 0, 0⟩] := by
  decide

/-- An upload whose length is declared is read first, and the server is not blamed. -/
theorem declared_upload_is_not_blamed :
    let retried : Upstream := { toOneServer with retry := ⟨1, [], 100⟩ }
    let called := request shortUris retried answering 2
      (upload ⟨[("content-length", bytes "3")]⟩) (some toServer) ⟨oneServer, 0⟩
    called.exceeded = true ∧ called.live.group.servers = oneServer.servers ∧
      called.live.group.breakers = oneServer.breakers := by
  intro retried called
  have exceeded : called.exceeded = true := by decide
  have same := (large_body_blames_nobody_iff 2 (upload ⟨[("content-length", bytes "3")]⟩)
    (some toServer) ⟨oneServer, 0⟩ exceeded).2
  refine ⟨exceeded, same.mpr fun chosen _ streamed => ?_⟩
  exact absurd streamed (by decide)

end Upload

end R3v3rs3.Proxy.Http.BodyLimit
