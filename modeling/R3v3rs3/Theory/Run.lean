/-
# R3v3rs3.Theory.Run -- runs of a step function

A component is a step function on a state; everything the environment decides (which request
arrives, what the clock says, which task is scheduled next) is in the event.  A run is a list of
events.  Two readings of a run are used below:

* `Guarded` says that every step meets a condition on the state before it and its event;
* `Throughout` says that every state the run passes, the first and the last included, is good.

`Guarded.throughout` is the induction every safety result of the development goes through: an
invariant that a guarded step keeps holds at every state of a guarded run, and
`Guarded.invariant` after it.  `trajectory` is the run over an infinite sequence
of events, for the properties that say that something eventually happens.
-/
import Mathlib.Data.List.Basic

namespace R3v3rs3.Theory.Run
set_option autoImplicit false

section Runs

variable {State Event : Type*} (step : State → Event → State) {events : List Event}
  {state : State} {good inv : State → Prop} {ok assumed : State → Event → Prop}

/-- The state after a list of events. -/
def exec : State → List Event → State
  | state, [] => state
  | state, event :: rest => exec (step state event) rest

/-- Every step meets `ok`, a condition on the state before the step and its event. -/
def Guarded (ok : State → Event → Prop) : State → List Event → Prop
  | _, [] => True
  | state, event :: rest => ok state event ∧ Guarded ok (step state event) rest

/-- Every state of the run is good, the first and the last included. -/
def Throughout (good : State → Prop) : State → List Event → Prop
  | state, [] => good state
  | state, event :: rest => good state ∧ Throughout good (step state event) rest

instance Guarded.decidable (ok : State → Event → Prop)
    [∀ state event, Decidable (ok state event)] :
    (state : State) → (events : List Event) → Decidable (Guarded step ok state events)
  | _, [] => .isTrue trivial
  | state, event :: rest =>
    have := Guarded.decidable ok (step state event) rest
    inferInstanceAs (Decidable (ok state event ∧ Guarded step ok (step state event) rest))

instance Throughout.decidable (good : State → Prop) [DecidablePred good] :
    (state : State) → (events : List Event) → Decidable (Throughout step good state events)
  | state, [] => inferInstanceAs (Decidable (good state))
  | state, event :: rest =>
    have := Throughout.decidable good (step state event) rest
    inferInstanceAs (Decidable (good state ∧ Throughout step good (step state event) rest))

@[simp] theorem exec_nil (state : State) : exec step state [] = state := rfl

@[simp] theorem exec_cons (state : State) (event : Event) (rest : List Event) :
    exec step state (event :: rest) = exec step (step state event) rest := rfl

theorem exec_append (state : State) (first second : List Event) :
    exec step state (first ++ second) = exec step (exec step state first) second := by
  induction first generalizing state with
  | nil => rfl
  | cons event rest ih => exact ih (step state event)

variable {step}

theorem Throughout.head (all : Throughout step good state events) : good state := by
  cases events with
  | nil => exact all
  | cons => exact all.1

theorem Throughout.last (all : Throughout step good state events) :
    good (exec step state events) := by
  induction events generalizing state with
  | nil => exact all
  | cons event rest ih => exact ih all.2

theorem Throughout.suffix {front back : List Event}
    (all : Throughout step good state (front ++ back)) :
    Throughout step good (exec step state front) back := by
  induction front generalizing state with
  | nil => exact all
  | cons event rest ih => exact ih all.2

theorem Throughout.mono {better : State → Prop} (weaker : ∀ state, good state → better state)
    (all : Throughout step good state events) : Throughout step better state events := by
  induction events generalizing state with
  | nil => exact weaker state all
  | cons event rest ih => exact ⟨weaker state all.1, ih all.2⟩

/-- A condition that follows wherever an invariant of the guarded runs holds. -/
theorem Guarded.imp {other : State → Event → Prop}
    (keeps : ∀ state event, inv state → ok state event → inv (step state event))
    (implies : ∀ state event, inv state → ok state event → other state event) (start : inv state)
    (guarded : Guarded step ok state events) : Guarded step other state events := by
  induction events generalizing state with
  | nil => trivial
  | cons event rest ih =>
    exact ⟨implies state event start guarded.1, ih (keeps state event start guarded.1) guarded.2⟩

theorem guarded_congr {other : State → Event → Prop}
    (keeps : ∀ state event, inv state → ok state event → inv (step state event))
    (same : ∀ state event, inv state → (other state event ↔ ok state event)) (start : inv state) :
    Guarded step other state events ↔ Guarded step ok state events :=
  ⟨.imp (fun state event held meets => keeps state event held ((same state event held).mp meets))
    (fun state event held => (same state event held).mp) start,
    .imp keeps (fun state event held => (same state event held).mpr) start⟩

theorem Guarded.of_always (always : ∀ state event, ok state event) (state : State)
    (events : List Event) : Guarded step ok state events := by
  induction events generalizing state with
  | nil => trivial
  | cons event rest ih => exact ⟨always state event, ih (step state event)⟩

theorem Guarded.of_forall_mem {ok : Event → Prop} (all : ∀ event ∈ events, ok event)
    (state : State) : Guarded step (fun _ event => ok event) state events := by
  induction events generalizing state with
  | nil => trivial
  | cons event rest ih =>
    exact ⟨all event List.mem_cons_self, ih (fun _ later => all _ (List.mem_cons_of_mem _ later)) _⟩

theorem guarded_append {first second : List Event} :
    Guarded step ok state (first ++ second) ↔
      Guarded step ok state first ∧ Guarded step ok (exec step state first) second := by
  induction first generalizing state with
  | nil => simp [Guarded]
  | cons event rest ih => simp [Guarded, ih, and_assoc]

/-- The condition of each step, said at its place in the run. -/
theorem guarded_iff :
    Guarded step ok state events ↔
      ∀ front event back, events = front ++ event :: back → ok (exec step state front) event := by
  induction events generalizing state with
  | nil => simp [Guarded]
  | cons first rest ih =>
    rw [Guarded, ih]
    constructor
    · rintro ⟨here, later⟩ front event back split
      cases front with
      | nil =>
        obtain ⟨rfl, -⟩ := List.cons_eq_cons.mp split
        exact here
      | cons head front =>
        obtain ⟨rfl, same⟩ := List.cons_eq_cons.mp split
        exact later front event back same
    · intro all
      refine ⟨all [] first rest rfl, fun front event back split => ?_⟩
      exact all (first :: front) event back (by rw [split, List.cons_append])

/-- **The invariant rule.**  What holds at the start and is kept by every step that meets `ok`
holds in every state of a run whose steps all meet `ok`. -/
theorem Guarded.throughout
    (keeps : ∀ state event, inv state → ok state event → inv (step state event))
    (sound : ∀ state, inv state → good state) (start : inv state)
    (guarded : Guarded step ok state events) : Throughout step good state events := by
  induction events generalizing state with
  | nil => exact sound state start
  | cons event rest ih =>
    exact ⟨sound state start, ih (keeps state event start guarded.1) guarded.2⟩

/-- The same for the last state. -/
theorem Guarded.invariant
    (keeps : ∀ state event, inv state → ok state event → inv (step state event))
    (start : inv state) (guarded : Guarded step ok state events) :
    inv (exec step state events) :=
  (guarded.throughout keeps (fun _ => id) start).last

/-- Where the invariant of the good runs is itself lost with the first step that breaks the
condition. -/
theorem throughout_iff_guarded_while
    (keeps : ∀ state event, inv state → assumed state event → ok state event →
      inv (step state event)) (sound : ∀ state, inv state → good state)
    (sharp : ∀ state event, inv state → assumed state event → good (step state event) →
      ok state event) (start : inv state) (all : Guarded step assumed state events) :
    Throughout step good state events ↔ Guarded step ok state events := by
  induction events generalizing state with
  | nil => exact ⟨fun _ => trivial, fun _ => sound state start⟩
  | cons event rest ih =>
    constructor
    · rintro ⟨-, later⟩
      have meets := sharp state event start all.1 later.head
      exact ⟨meets, (ih (keeps state event start all.1 meets) all.2).mp later⟩
    · rintro ⟨meets, later⟩
      exact ⟨sound state start, (ih (keeps state event start all.1 meets) all.2).mpr later⟩

/-- Where the condition is exact in the runs whose steps all meet an assumption. -/
theorem throughout_iff_guarded_of
    (keeps : ∀ state event, inv state → assumed state event → inv (step state event))
    (sharp : ∀ state event, inv state → good state → assumed state event →
      (good (step state event) ↔ ok state event)) (start : inv state) (first : good state)
    (all : Guarded step assumed state events) :
    Throughout step good state events ↔ Guarded step ok state events := by
  refine throughout_iff_guarded_while ?_ (fun _ => And.right) ?_
    (⟨start, first⟩ : inv state ∧ good state) all
  · rintro state event ⟨held, fine⟩ allowed meets
    exact ⟨keeps state event held allowed, (sharp state event held fine allowed).mpr meets⟩
  · rintro state event ⟨held, fine⟩ allowed
    exact (sharp state event held fine allowed).mp

/-- **Where the condition is exact.**  When a step from a good state leads to a good state just
when it meets `ok`, a run is good throughout just when all its steps meet `ok`. -/
theorem throughout_iff_guarded (keeps : ∀ state event, inv state → inv (step state event))
    (sharp : ∀ state event, inv state → good state → (good (step state event) ↔ ok state event))
    (start : inv state) (first : good state) :
    Throughout step good state events ↔ Guarded step ok state events :=
  throughout_iff_guarded_of (fun state event held _ => keeps state event held)
    (fun state event held fine _ => sharp state event held fine) start first
    (Guarded.of_always (fun _ _ => trivial) state events)

end Runs

/-! ## Runs that do not end -/

section Infinite

variable {State Event : Type*} (step : State → Event → State)

/-- The states of an infinite run. -/
def trajectory (start : State) (events : Nat → Event) : Nat → State
  | 0 => start
  | n + 1 => step (trajectory start events n) (events n)

variable {step}

/-- What a step keeps stays true from then on. -/
theorem trajectory_stays {inv : State → Prop}
    (keeps : ∀ state event, inv state → inv (step state event))
    {start : State} {events : Nat → Event} {n : Nat} (now : inv (trajectory step start events n))
    {m : Nat} (later : n ≤ m) : inv (trajectory step start events m) := by
  induction later with
  | refl => exact now
  | step _ ih => exact keeps _ _ ih

end Infinite

end R3v3rs3.Theory.Run
