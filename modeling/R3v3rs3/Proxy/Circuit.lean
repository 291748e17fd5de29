/-
# R3v3rs3.Proxy.Circuit -- the circuit breakers of one group

The runs of `Proxy.Health` while no reload builds a new group.  Beside the state a run carries, for
each server, the results of the current window with their times (`Watched.held`); the breaker only
has two counters of them, which are `u32` and stop at the highest value (`Counts`).

`Sound` is the invariant: a trial runs just where an unreported trial permit is, which is the only
one of its server, and the counters are those of the results held.  `circuit_breaker_is_sound`
reads off what it says about permits, late results and the opening of a circuit.
-/
import R3v3rs3.Proxy.Health

namespace R3v3rs3.Proxy.Health
open Api Theory Breaker
open Theory.Run (exec Guarded)
set_option autoImplicit false

/-! ## The results of a window -/

/-- The time of a result, and whether it is a failure. -/
abbrev Result := Nat × Bool

/-- One more result: it joins the window, or starts a new one when the window is over. -/
def pushResult (window : Nat) (held : List Result) (result : Result) : List Result :=
  if held.head?.all fun first => window ≤ result.1 - first.1 then [result] else held ++ [result]

/-- The highest `u32`. -/
def u32Max : Nat := 4294967295

/-- The counters of the breaker are those of the results; only a closed circuit holds any. -/
structure Counts (breaker : Breaker) (held : List Result) : Prop where
  start : breaker.windowStart = held.head?.map Prod.fst
  requests : breaker.requests = min held.length u32Max
  failures : breaker.failures = min (held.countP Prod.snd) u32Max
  closed : breaker.circuit ≠ .closed → held = []

theorem Counts.empty (circuit : Circuit) : Counts { circuit } [] := by
  constructor <;> simp

theorem saturatingSucc_min (n : Nat) : saturatingSucc (min n u32Max) = min (n + 1) u32Max := by
  unfold saturatingSucc u32Max
  omega

/-- The window of the breaker is over, or it has none. -/
def Breaker.windowOver (breaker : Breaker) (window now : Nat) : Bool :=
  breaker.windowStart.all fun start => window ≤ now - start

variable {breaker before : Breaker} {now : Nat} {result : Option Bool} {next : State}

theorem Breaker.count_over {window : Nat} (isOver : breaker.windowOver window now = true)
    (failed : Bool) :
    breaker.count window failed now =
      ⟨breaker.circuit, some now, 1, if failed then 1 else 0⟩ := by
  unfold Breaker.windowOver at isOver
  cases failed <;> simp [Breaker.count, isOver, saturatingSucc]

theorem Breaker.count_within {window : Nat} (within : breaker.windowOver window now = false)
    (failed : Bool) :
    breaker.count window failed now =
      { breaker with
        requests := saturatingSucc breaker.requests
        failures := if failed then saturatingSucc breaker.failures else breaker.failures } := by
  unfold Breaker.windowOver at within
  simp [Breaker.count, within]

theorem Counts.count {held : List Result} (counts : Counts breaker held)
    (closed : breaker.circuit = .closed) (window now : Nat) (failed : Bool) :
    Counts (breaker.count window failed now) (pushResult window held (now, failed)) := by
  have still : (breaker.count window failed now).circuit ≠ .closed →
      pushResult window held (now, failed) = [] :=
    fun opened => absurd ((breaker.count_circuit window failed now).trans closed) opened
  have same : breaker.windowOver window now = held.head?.all fun first => window ≤ now - first.1 := by
    rw [Breaker.windowOver, counts.start]
    cases held.head? <;> rfl
  cases isOver : breaker.windowOver window now with
  | true =>
    have fresh : pushResult window held (now, failed) = [(now, failed)] :=
      if_pos (same.symm.trans isOver)
    rw [fresh] at still ⊢
    refine ⟨?_, ?_, ?_, still⟩ <;> rw [count_over isOver]
    · rfl
    · rfl
    · cases failed <;> rfl
  | false =>
    have joins : pushResult window held (now, failed) = held ++ [(now, failed)] :=
      if_neg (by simp [← same, isOver])
    have some : held ≠ [] := by
      rintro rfl
      simp [isOver] at same
    rw [joins] at still ⊢
    refine ⟨?_, ?_, ?_, still⟩ <;> rw [count_within isOver]
    · rw [List.head?_append_of_ne_nil _ some]
      exact counts.start
    · rw [counts.requests, saturatingSucc_min, List.length_append, List.length_singleton]
    · rw [counts.failures, List.countP_append]
      cases failed
      · rfl
      · exact saturatingSucc_min _

/-! ## Results and the circuit -/

/-- Whether a report counts as a failure; a drop is no result. -/
def Outcome.failed : Outcome → Option Bool
  | .success | .successKeep => some false
  | .failure _ | .errorResponse _ => some true
  | .dropped => none

/-- A request that started before the circuit opened does not count. -/
theorem Breaker.record_late (opened : breaker.circuit ≠ .closed) (config : CircuitBreaker)
    (failed : Bool) (now : Nat) : (breaker.record config false failed now).1 = breaker := by
  simp [Breaker.record, opened]

/-- The counters after a result are high enough to open the circuit. -/
def Breaker.Exceeds (counted : Breaker) (config : CircuitBreaker) : Prop :=
  config.minRequests ≤ counted.requests ∧
    config.failureRatio * counted.requests ≤ counted.failures * 100

theorem Breaker.record_closed (closed : breaker.circuit = .closed) (config : CircuitBreaker)
    (failed : Bool) (now : Nat) :
    ((breaker.count config.window failed now).Exceeds config ∧
        (breaker.record config false failed now).1 = openFrom config now) ∨
      (breaker.record config false failed now).1 = breaker.count config.window failed now := by
  simp only [Breaker.record, closed, ne_eq, not_true_eq_false, if_false, Bool.false_eq_true]
  split
  · exact .inr rfl
  · rename_i high
    rw [not_or, Nat.not_lt, Nat.not_lt] at high
    exact .inl ⟨high, rfl⟩

/-! ## One step, as a server sees it -/

namespace State

/-- The result that an event records for a server of the group, other than that of a trial. -/
def resultAt (state : State) (index : Nat) : Event → Option Bool
  | .finish p outcome =>
    (state.permits.find p).bind fun slot =>
      if slot.2 = ⟨0, index, false⟩ then outcome.failed else none
  | _ => none

/-- An unreported trial permit of the server. -/
def IsTrial (state : State) (index p : Nat) : Prop := (p, ⟨0, index, true⟩) ∈ state.permits.rows

/-- What a step can do at a server. -/
inductive Change (config : CircuitBreaker) (state next : State) (result : Option Bool)
    (index : Nat) : Prop where
  | rest (breaker : next.breaker 0 index = state.breaker 0 index)
      (trials : ∀ p, next.IsTrial index p ↔ state.IsTrial index p) (noResult : result = none)
  /-- A trial starts. -/
  | starts (p : Nat) (before : Breaker) (was : state.breaker 0 index = some before)
      (waiting : before.circuit ≠ .closed ∧ before.circuit ≠ .halfOpen true)
      (breaker : next.breaker 0 index = some { before with circuit := .halfOpen true })
      (trials : ∀ q, next.IsTrial index q ↔ q = p ∨ state.IsTrial index q)
      (noResult : result = none)
  /-- A request that is no trial ends with a result. -/
  | reports (failed : Bool) (before : Breaker) (was : state.breaker 0 index = some before)
      (breaker : next.breaker 0 index = some (before.record config false failed state.now).1)
      (trials : ∀ p, next.IsTrial index p ↔ state.IsTrial index p) (isResult : result = some failed)
  /-- A trial ends, with a result or without. -/
  | ends (p : Nat) (outcome : Outcome) (before : Breaker) (trial : state.IsTrial index p)
      (was : state.breaker 0 index = some before)
      (breaker : next.breaker 0 index = some (match outcome.failed with
        | some failed => (before.record config true failed state.now).1
        | none => before.releaseTrial))
      (trials : ∀ q, next.IsTrial index q ↔ q ≠ p ∧ state.IsTrial index q)
      (noResult : result = none)

/-- A state with one group, whose breakers are on. -/
structure OneGroup (config : CircuitBreaker) (state : State) : Prop where
  inv : Inv state
  one : state.groups.length = 1
  isConfig : state.settings 0 = some config
  enabled : config.enabled = true
  /-- Permits are for servers of the group. -/
  served : ∀ slot ∈ state.permits.rows, ∃ breaker, state.breaker 0 slot.2.index = some breaker

variable {state : State} {config : CircuitBreaker}

variable (only : OneGroup config state)
include only

theorem OneGroup.group_eq {id : Nat} {group : UpstreamGroup}
    (known : state.groups[id]? = some group) : id = 0 ∧ group.circuitBreaker = config := by
  have inside := (List.getElem?_eq_some_iff.mp known).1
  have zero : id = 0 := by
    have one := only.one
    omega
  subst zero
  have isConfig := only.isConfig
  rw [State.settings, known] at isConfig
  exact ⟨rfl, Option.some.inj isConfig⟩

theorem change_acquire (p id place index : Nat) :
    Change config state (state.acquire p id place) none index := by
  rcases state.acquire_cases p id place with
    same | ⟨group, known, -, fresh, ⟨off, -⟩ | ⟨breaker, trial, -, here, lets, same⟩⟩
  · rw [same]
    exact .rest rfl (fun _ => Iff.rfl) rfl
  · rw [(only.group_eq known).2, only.enabled] at off
    cases off
  · obtain ⟨rfl, -⟩ := only.group_eq known
    have was : state.breaker 0 place = some breaker := by simp [State.breaker, known, here]
    have effect : ∀ group : UpstreamGroup,
        (group.modifyBreaker place fun breaker => (breaker.letThrough state.now).1).breakers =
          group.breakers.modify place fun breaker => (breaker.letThrough state.now).1 :=
      fun _ => rfl
    have permits : ∀ q, (state.acquire p 0 place).IsTrial index q ↔
        (q = p ∧ place = index ∧ trial = true) ∨ state.IsTrial index q := by
      intro q
      rw [same]
      refine (Table.mem_upsert_fresh fresh).trans (or_comm.trans (or_congr_left ⟨?_, ?_⟩))
      · rintro ⟨⟩
        exact ⟨rfl, rfl, rfl⟩
      · rintro ⟨rfl, rfl, rfl⟩
        rfl
    have moved : (state.acquire p 0 place).breaker 0 index =
        (state.letThroughAt 0 place).breaker 0 index := by
      rw [same]
      rfl
    rw [letThroughAt, breaker_modify effect] at moved
    by_cases there : place = index
    · subst there
      rw [if_pos ⟨rfl, rfl⟩, known, Option.bind_some, here, Option.map_some] at moved
      cases trial with
      | true =>
        obtain ⟨notClosed, notRunning, isRunning⟩ := letThrough_some lets
        refine .starts p breaker was ⟨notClosed, notRunning⟩ ?_ ?_ rfl
        · rw [moved, isRunning]
        · intro q
          simp [permits]
      | false =>
        refine .rest ?_ ?_ rfl
        · rw [moved, (letThrough_some lets).2, was]
        · intro q
          simp [permits]
    · rw [if_neg fun both => there both.2] at moved
      refine .rest moved ?_ rfl
      intro q
      simp [permits, there]

section Finish

variable {p : Nat} {permit : Permit}

section Member

variable (member : (p, permit) ∈ state.permits.rows)
include member

theorem OneGroup.group_zero : permit.group = 0 := by
  have bound : permit.group < state.groups.length := only.inv.held _ member
  have one := only.one
  omega

omit only in
theorem finish_breaker_eq (outcome : Outcome) (index : Nat) :
    (state.finish p outcome).breaker 0 index =
      (state.modifyGroup permit.group (permit.finish outcome state.now)).breaker 0 index := by
  rw [finish_of_mem member]
  rfl

/-- The end of a permit changes the breaker of its own server. -/
theorem finish_breaker (was : state.breaker 0 permit.index = some before) (outcome : Outcome) :
    (state.finish p outcome).breaker 0 permit.index = some (match outcome.failed with
      | some failed => (before.record config permit.trial failed state.now).1
      | none => if permit.trial then before.releaseTrial else before) := by
  obtain ⟨group, known, there⟩ := Option.bind_eq_some_iff.mp was
  have isConfig := (only.group_eq known).2
  have enabled : group.circuitBreaker.enabled = true := by rw [isConfig, only.enabled]
  rw [finish_breaker_eq member, breaker_modify (permit.finish_breakers outcome state.now),
    if_pos ⟨only.group_zero member, rfl⟩, known, Option.bind_some, there, Option.map_some,
    ← isConfig]
  cases outcome <;> simp [Permit.effect, Outcome.failed, enabled]

omit only in
theorem finish_isTrial (outcome : Outcome) (index q : Nat) :
    (state.finish p outcome).IsTrial index q ↔ q ≠ p ∧ state.IsTrial index q := by
  rw [finish_of_mem member, IsTrial, Table.mem_erase]
  exact and_comm

omit only in
/-- The end of another permit leaves the trials of a server. -/
theorem finish_isTrial_other {index : Nat} (other : permit ≠ ⟨0, index, true⟩) (outcome : Outcome)
    (q : Nat) :
    (state.finish p outcome).IsTrial index q ↔ state.IsTrial index q := by
  rw [finish_isTrial member]
  refine and_iff_right_of_imp fun known same => ?_
  subst same
  cases state.permits.row_of_key member known rfl
  exact other rfl

end Member

end Finish

theorem change_finish (p : Nat) (outcome : Outcome) (index : Nat) :
    Change config state (state.finish p outcome) (state.resultAt index (.finish p outcome))
      index := by
  cases found : state.permits.find p with
  | none =>
    have same : state.finish p outcome = state := by simp only [finish, found]
    rw [same]
    exact .rest rfl (fun _ => Iff.rfl) (by simp [resultAt, found])
  | some slot =>
    obtain ⟨member, rfl⟩ := Table.mem_of_find found
    obtain ⟨p, permit⟩ := slot
    have result : state.resultAt index (.finish p outcome) =
        if permit = ⟨0, index, false⟩ then outcome.failed else none := by
      simp only [resultAt, found, Option.bind_some]
    rw [result]
    by_cases here : permit.index = index
    · obtain ⟨before, was⟩ := only.served _ member
      have after := finish_breaker only member was outcome
      obtain ⟨id, place, trial⟩ := permit
      obtain rfl : id = 0 := only.group_zero member
      obtain rfl : place = index := here
      cases trial with
      | true =>
        exact .ends p outcome before member was after (finish_isTrial member outcome place)
          (by simp)
      | false =>
        have noTrial : (⟨0, place, false⟩ : Permit) ≠ ⟨0, place, true⟩ := by simp
        have kept := finish_isTrial_other member noTrial outcome
        cases reported : outcome.failed with
        | some failed =>
          rw [reported] at after
          exact .reports failed before was after kept (by simp)
        | none =>
          rw [reported] at after
          exact .rest (after.trans was.symm) kept (by simp)
    · have other : ∀ trial, permit ≠ ⟨0, index, trial⟩ := by
        rintro trial rfl
        exact here rfl
      refine .rest ?_ (finish_isTrial_other member (other true) outcome) (if_neg (other false))
      rw [finish_breaker_eq member, breaker_modify (permit.finish_breakers outcome state.now),
        if_neg fun both => here both.2]

end State

/-- A reload, which may build a new group. -/
def Event.isReload : Event → Bool
  | .group .. => true
  | _ => false

namespace State

variable {state : State} {config : CircuitBreaker} {event : Event}

variable (only : OneGroup config state) (noReload : event.isReload = false)
include only noReload

/-- **What a step can do at a server.** -/
theorem change_step (index : Nat) :
    Change config state (step state event) (state.resultAt index event) index := by
  cases event with
  | acquire p id place => exact change_acquire only p id place index
  | finish p outcome => exact change_finish only p outcome index
  | wait | release => exact .rest rfl (fun _ => Iff.rfl) rfl
  | group => cases noReload
  | check =>
    refine .rest ?_ (fun _ => Iff.rfl) rfl
    rw [step, breaker_modifyGroup]
    split <;> rfl

/-- The groups keep their number and their settings, and a new permit is for a server. -/
theorem step_keeps :
    (step state event).groups.length = state.groups.length ∧
      (step state event).settings 0 = state.settings 0 ∧
      ∀ slot ∈ (step state event).permits.rows, slot ∈ state.permits.rows ∨
        ∃ breaker, state.breaker 0 slot.2.index = some breaker := by
  cases event with
  | acquire p id place =>
    rw [step]
    rcases state.acquire_cases p id place with
      same | ⟨group, known, -, -, ⟨off, -⟩ | ⟨breaker, trial, -, here, -, same⟩⟩
    · rw [same]
      exact ⟨rfl, rfl, fun _ old => .inl old⟩
    · rw [(only.group_eq known).2, only.enabled] at off
      cases off
    · obtain ⟨rfl, -⟩ := only.group_eq known
      rw [same]
      refine ⟨length_modifyGroup _ _ _, settings_modifyGroup state 0 0 fun _ => rfl, ?_⟩
      intro slot member
      rcases Table.mem_upsert.mp member with ⟨old, -⟩ | rfl
      · exact .inl old
      · exact .inr ⟨breaker, Option.bind_eq_some_iff.mpr ⟨group, known, here⟩⟩
  | finish p outcome =>
    rw [step]
    rcases state.finish_cases p outcome with same | ⟨permit, member, same⟩
    · rw [same]
      exact ⟨rfl, rfl, fun _ old => .inl old⟩
    · rw [same]
      refine ⟨length_modifyGroup _ _ _,
        settings_modifyGroup state _ 0 (permit.finish_circuitBreaker outcome state.now), ?_⟩
      exact fun slot known => .inl (Table.mem_erase.mp known).1
  | wait | release => exact ⟨rfl, rfl, fun _ old => .inl old⟩
  | group => cases noReload
  | check id place result =>
    exact ⟨length_modifyGroup _ _ _, settings_modifyGroup state id 0 fun _ => rfl,
      fun _ old => .inl old⟩

theorem OneGroup.step :
    OneGroup config (Health.step state event) := by
  obtain ⟨length, settings, permits⟩ := step_keeps only noReload
  refine ⟨only.inv.step event, length.trans only.one, settings.trans only.isConfig, only.enabled,
    fun slot member => ?_⟩
  obtain ⟨before, was⟩ : ∃ breaker, state.breaker 0 slot.2.index = some breaker := by
    rcases permits slot member with old | new
    · exact only.served slot old
    · exact new
  cases change_step only noReload slot.2.index with
  | rest breaker => exact ⟨before, breaker.trans was⟩
  | starts _ _ _ _ breaker | reports _ _ _ breaker | ends _ _ _ _ _ breaker => exact ⟨_, breaker⟩

end State

/-! ## The invariant -/

/-- A state, and the results of the current window of each server. -/
structure Watched where
  state : State
  held : Nat → List Result

/-- A step, with the results that it records; a circuit that is not closed holds none. -/
def watch (config : CircuitBreaker) (watched : Watched) (event : Event) : Watched where
  state := step watched.state event
  held index :=
    if ((step watched.state event).breaker 0 index).any fun after => after.circuit = .closed then
      match watched.state.resultAt index event with
      | some failed =>
        pushResult config.window (watched.held index) (watched.state.now, failed)
      | none => watched.held index
    else []

/-- A trial runs just where an unreported trial permit is, which is the only one of its server, and
the counters are those of the results held. -/
structure Sound (config : CircuitBreaker) (watched : Watched) : Prop where
  only : State.OneGroup config watched.state
  unique : ∀ index p q, watched.state.IsTrial index p → watched.state.IsTrial index q → p = q
  running : ∀ index, watched.state.Trial 0 index ↔ ∃ p, watched.state.IsTrial index p
  counts : ∀ index breaker, watched.state.breaker 0 index = some breaker →
    Counts breaker (watched.held index)

theorem State.trial_of_breaker {state : State} {index : Nat}
    (here : state.breaker 0 index = some breaker) :
    state.Trial 0 index ↔ breaker.circuit = .halfOpen true := by
  rw [State.Trial, here, Option.map_some, Option.some.injEq]

theorem Breaker.record_plain_iff (breaker : Breaker) (config : CircuitBreaker) (failed : Bool)
    (now : Nat) : (breaker.record config false failed now).1.circuit = .halfOpen true ↔
      breaker.circuit = .halfOpen true := by
  refine ⟨record_plain, fun runs => ?_⟩
  rw [record_late (by simp [runs]), runs]

theorem Counts.recircuit (counts : Counts breaker []) (circuit : Circuit) :
    Counts { breaker with circuit } [] :=
  ⟨counts.start, counts.requests, counts.failures, fun _ => rfl⟩

namespace Sound

variable {config : CircuitBreaker} {watched : Watched} {event : Event} {index : Nat}
  {after : Breaker}

variable (sound : Sound config watched)
include sound

theorem free (here : watched.state.breaker 0 index = some breaker)
    (notRunning : breaker.circuit ≠ .halfOpen true) (p : Nat) : ¬ watched.state.IsTrial index p :=
  fun trial => notRunning
    ((State.trial_of_breaker here).mp ((sound.running index).mpr ⟨p, trial⟩))

theorem circuit_of_trial (here : watched.state.breaker 0 index = some breaker) {p : Nat}
    (trial : watched.state.IsTrial index p) : breaker.circuit = .halfOpen true :=
  (State.trial_of_breaker here).mp ((sound.running index).mpr ⟨p, trial⟩)

theorem unique_step (change : State.Change config watched.state next result index) {p q : Nat}
    (first : next.IsTrial index p) (second : next.IsTrial index q) : p = q := by
  cases change with
  | rest _ trials | reports _ _ _ _ trials =>
    exact sound.unique index p q ((trials p).mp first) ((trials q).mp second)
  | starts started before was waiting breaker trials =>
    have none := sound.free was waiting.2
    rcases (trials p).mp first with rfl | old
    · rcases (trials q).mp second with rfl | old
      · rfl
      · exact absurd old (none q)
    · exact absurd old (none p)
  | ends ended outcome before trial was breaker trials =>
    exact sound.unique index p q ((trials p).mp first).2 ((trials q).mp second).2

theorem running_step (change : State.Change config watched.state next result index) :
    next.Trial 0 index ↔ ∃ p, next.IsTrial index p := by
  have before := sound.running index
  cases change with
  | rest breaker trials =>
    have same : next.Trial 0 index ↔ watched.state.Trial 0 index := by
      rw [State.Trial, breaker, State.Trial]
    rw [same, before]
    exact exists_congr fun p => (trials p).symm
  | starts p old was waiting breaker trials =>
    rw [State.trial_of_breaker breaker]
    exact iff_of_true rfl ⟨p, (trials p).mpr (.inl rfl)⟩
  | reports failed old was breaker trials =>
    rw [State.trial_of_breaker breaker, record_plain_iff, ← State.trial_of_breaker was,
      before]
    exact exists_congr fun p => (trials p).symm
  | ends p outcome old trial was breaker trials =>
    rw [State.trial_of_breaker breaker]
    apply iff_of_false
    · cases outcome.failed with
      | some => exact record_trial _ _ _ _
      | none => exact releaseTrial_free _
    · rintro ⟨q, still⟩
      obtain ⟨other, known⟩ := (trials q).mp still
      exact other (sound.unique index q p known trial)

theorem counts_step
    (change : State.Change config watched.state (step watched.state event)
      (watched.state.resultAt index event) index)
    (here : (step watched.state event).breaker 0 index = some after) :
    Counts after ((watch config watched event).held index) := by
  simp only [watch, here, Option.any_some, decide_eq_true_eq]
  cases change with
  | rest breaker trials noResult =>
    have counts := sound.counts index after (breaker.symm.trans here)
    rw [noResult]
    split
    · exact counts
    · rename_i opened
      rw [← counts.closed opened]
      exact counts
  | starts p before was waiting breaker trials noResult =>
    have counts := sound.counts index before was
    rw [counts.closed waiting.1] at counts
    cases breaker.symm.trans here
    exact counts.recircuit (.halfOpen true)
  | reports failed before was breaker trials isResult =>
    have counts := sound.counts index before was
    cases breaker.symm.trans here
    by_cases closed : before.circuit = .closed
    · rcases record_closed closed config failed watched.state.now with ⟨-, opens⟩ | stays
      · rw [opens]
        exact Counts.empty _
      · rw [stays, count_circuit, if_pos closed, isResult]
        exact counts.count closed config.window watched.state.now failed
    · rw [record_late closed, if_neg closed, ← counts.closed closed]
      exact counts
  | ends p outcome before trial was breaker trials noResult =>
    have runs := sound.circuit_of_trial was trial
    have counts := sound.counts index before was
    have empty := counts.closed (by simp [runs])
    rw [empty] at counts
    have none : (if after.circuit = .closed then watched.held index else []) = [] := by
      rw [empty, ite_self]
    rw [noResult, none]
    cases breaker.symm.trans here
    cases outcome.failed with
    | some failed =>
      have finished : (before.record config true failed watched.state.now).1 =
          if failed then Breaker.openFrom config watched.state.now else {} := by
        cases failed <;> simp [Breaker.record, Breaker.finishTrial, runs]
      simp only [finished]
      cases failed <;> exact Counts.empty _
    | none => simpa [Breaker.releaseTrial, runs] using counts.recircuit (.halfOpen false)

theorem step (noReload : event.isReload = false) :
    Sound config (watch config watched event) where
  only := sound.only.step noReload
  unique index _ _ := sound.unique_step (State.change_step sound.only noReload index)
  running index := sound.running_step (State.change_step sound.only noReload index)
  counts index _ := sound.counts_step (State.change_step sound.only noReload index)

/-- **Only a result opens a closed circuit**, and the counters after it are high enough. -/
theorem opens (noReload : event.isReload = false)
    (was : watched.state.breaker 0 index = some before) (closed : before.circuit = .closed)
    (here : (Health.step watched.state event).breaker 0 index = some after) {deadline : Nat}
    (opened : after.circuit = .opened deadline) :
    ∃ failed, watched.state.resultAt index event = some failed ∧
      (before.count config.window failed watched.state.now).Exceeds config := by
  cases State.change_step sound.only noReload index with
  | rest breaker =>
    cases (breaker.trans was).symm.trans here
    rw [closed] at opened
    cases opened
  | starts p old isOld waiting =>
    cases was.symm.trans isOld
    exact absurd closed waiting.1
  | reports failed old isOld breaker trials isResult =>
    cases was.symm.trans isOld
    rcases record_closed closed config failed watched.state.now with ⟨high, -⟩ | stays
    · exact ⟨failed, isResult, high⟩
    · rw [stays] at breaker
      cases breaker.symm.trans here
      rw [count_circuit, closed] at opened
      cases opened
  | ends p outcome old trial =>
    have runs := sound.circuit_of_trial was trial
    rw [closed] at runs
    cases runs

end Sound

/-! ## Every run of one group -/

/-- A group with its breakers, built in an empty registry. -/
def watched (now : Nat) (key : GroupKey) (members : List GroupServer) (policy : LoadBalancing)
    (healthCheck : HealthCheck) (config : CircuitBreaker) : Watched where
  state := step (start now) (.group key members policy healthCheck config)
  held _ := []

theorem watched_sound (now : Nat) (key : GroupKey) (members : List GroupServer)
    (policy : LoadBalancing) (healthCheck : HealthCheck) {config : CircuitBreaker}
    (enabled : config.enabled = true) :
    Sound config (watched now key members policy healthCheck config) := by
  have first : State.Inv (start now) := by constructor <;> simp [start]
  have permits : (watched now key members policy healthCheck config).state.permits.rows = [] := rfl
  have fresh : ∀ index breaker,
      (watched now key members policy healthCheck config).state.breaker 0 index = some breaker →
        breaker = {} := by
    intro index breaker here
    obtain ⟨member, -, rfl⟩ := List.mem_map.mp (List.mem_of_getElem? here)
    rfl
  refine ⟨⟨first.step (.group key members policy healthCheck config), rfl, rfl, enabled, ?_⟩, ?_,
    ?_, ?_⟩
  · simp [permits]
  · intro index p q trial
    simp [State.IsTrial, permits] at trial
  · intro index
    apply iff_of_false
    · intro trial
      obtain ⟨breaker, here, runs⟩ := Option.map_eq_some_iff.mp trial
      cases fresh index breaker here
      cases runs
    · rintro ⟨p, trial⟩
      simp [State.IsTrial, permits] at trial
  · intro index breaker here
    cases fresh index breaker here
    exact Counts.empty .closed

/-- **The circuit breakers of a group.**  In every run of one group with its breakers on: a server
has at most one unreported trial permit, and the breaker is half-open with a running trial just
when there is one; while the circuit is not closed, the end of another permit leaves the breaker as
it is; and a closed circuit opens only on a result of a permit, after which the counters of the
window are high enough.  The counters are those of the results in the window, as far as a `u32`
goes. -/
theorem circuit_breaker_is_sound (now : Nat) (key : GroupKey) (members : List GroupServer)
    (policy : LoadBalancing) (healthCheck : HealthCheck) (config : CircuitBreaker)
    (enabled : config.enabled = true) (events : List Event)
    (noReload : ∀ event ∈ events, event.isReload = false) :
    let reached := exec (watch config) (watched now key members policy healthCheck config) events
    (∀ index p q, reached.state.IsTrial index p → reached.state.IsTrial index q → p = q) ∧
      (∀ index, reached.state.Trial 0 index ↔ ∃ p, reached.state.IsTrial index p) ∧
      (∀ p index outcome breaker, (p, ⟨0, index, false⟩) ∈ reached.state.permits.rows →
        reached.state.breaker 0 index = some breaker → breaker.circuit ≠ .closed →
          (step reached.state (.finish p outcome)).breaker 0 index = some breaker) ∧
      ∀ event, event.isReload = false → ∀ index before after deadline,
        reached.state.breaker 0 index = some before → before.circuit = .closed →
        (step reached.state event).breaker 0 index = some after →
        after.circuit = .opened deadline →
          ∃ failed, reached.state.resultAt index event = some failed ∧
            let counted := before.count config.window failed reached.state.now
            let window := pushResult config.window (reached.held index) (reached.state.now, failed)
            config.minRequests ≤ counted.requests ∧
              config.failureRatio * counted.requests ≤ counted.failures * 100 ∧
              counted.requests = min window.length u32Max ∧
              counted.failures = min (window.countP Prod.snd) u32Max := by
  intro reached
  have sound : Sound config reached :=
    Guarded.invariant (fun _ _ sound noReload => sound.step noReload)
      (watched_sound now key members policy healthCheck enabled)
      (Guarded.of_forall_mem noReload _)
  refine ⟨sound.unique, sound.running, ?_, ?_⟩
  · intro p index outcome breaker member here notClosed
    refine (State.finish_breaker sound.only member here outcome).trans ?_
    cases outcome.failed with
    | some failed => exact congrArg some (Breaker.record_late notClosed _ failed _)
    | none => rfl
  · intro event kept index before after deadline was closed here opened
    obtain ⟨failed, isResult, high⟩ := sound.opens kept was closed here opened
    have counts := (sound.counts index before was).count closed config.window reached.state.now failed
    exact ⟨failed, isResult, high.1, high.2, counts.requests, counts.failures⟩

/-- One failure opens the circuit of a server; when it has waited, one of two requests is let
through as the trial. -/
theorem circuit_breaker_two_requests :
    let events : List Event := [.acquire 0 0 0, .finish 0 (.failure "refused"), .wait 30000,
      .acquire 1 0 0, .acquire 2 0 0]
    let reached := exec (watch circuitBreaker)
      (watched 0 key [server 1] .roundRobin healthCheck circuitBreaker) events
    (∀ event ∈ events, event.isReload = false) ∧ reached.state.Trial 0 0 ∧
      ∀ p, reached.state.IsTrial 0 p → p = 1 := by
  intro events reached
  have noReload : ∀ event ∈ events, event.isReload = false := by decide
  obtain ⟨unique, running, -⟩ := circuit_breaker_is_sound 0 key [server 1] .roundRobin healthCheck
    circuitBreaker rfl events noReload
  have first : reached.state.IsTrial 0 1 := by
    unfold State.IsTrial
    decide
  exact ⟨noReload, (running 0).mpr ⟨1, first⟩, fun p trial => unique 0 p 1 trial first⟩

end R3v3rs3.Proxy.Health
