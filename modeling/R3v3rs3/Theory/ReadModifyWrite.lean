/-
# R3v3rs3.Theory.ReadModifyWrite -- operations that load a store, compute and save

An operation reads the whole store, computes an answer and possibly a new store from what it read,
and writes the new store back later.  `run` gives both; what the operation reads from outside after
its load (a clock, the fate of a save) is part of the call, and no step looks at it before.

`Linearizes` is the usual notion: one order of the calls that respects real time, in which every
answer that was returned is the serial one and whose end is the store.  `linearizable_of_guarded`
gives it for every run in which a saving operation finds the store as it loaded it: an operation
that saves takes effect when it ends, one that does not when it loads.
-/
import Mathlib.Data.List.Nodup
import R3v3rs3.Theory.Run

namespace R3v3rs3.Theory.ReadModifyWrite
open Theory.Run (Guarded Throughout exec)
set_option autoImplicit false

section Runs

variable {Store Call Answer : Type*}

/-- An operation between its load and its end. -/
structure Pending (Store Call : Type*) where
  call : Call
  seen : Store

inductive Moment (Call Answer : Type*) where
  | invoked (id : Nat) (call : Call)
  | returned (id : Nat) (answer : Answer)

structure State (Store Call Answer : Type*) where
  store : Store
  pending : Nat → Option (Pending Store Call)
  /-- The moments of the run so far, the latest one last. -/
  history : List (Moment Call Answer)

inductive Event (Call : Type*) where
  | load (id : Nat) (call : Call)
  | finish (id : Nat)

def initial (store : Store) : State Store Call Answer := ⟨store, fun _ => none, []⟩

def Moment.invokes (id : Nat) : Moment Call Answer → Bool
  | .invoked other _ => other = id
  | .returned _ _ => false

variable (run : Call → Store → Answer × Option Store)

/-- An id names one operation of the run. -/
def step (s : State Store Call Answer) : Event Call → State Store Call Answer
  | .load id call =>
    if s.history.any (Moment.invokes id) then s
    else
      { s with
        pending := Function.update s.pending id (some ⟨call, s.store⟩)
        history := s.history ++ [.invoked id call] }
  | .finish id =>
    match s.pending id with
    | none => s
    | some ⟨call, seen⟩ =>
      { store := (run call seen).2.getD s.store
        pending := Function.update s.pending id none
        history := s.history ++ [.returned id (run call seen).1] }

/-- The store after the calls, one after another. -/
def serial (store : Store) : List (Nat × Call) → Store
  | [] => store
  | (_, call) :: rest => serial ((run call store).2.getD store) rest

/-- The order accounts for the answers and the store of the run. -/
structure Linearizes (start : Store) (s : State Store Call Answer) (order : List (Nat × Call)) :
    Prop where
  ids : (order.map Prod.fst).Nodup
  invoked : ∀ entry ∈ order, .invoked entry.1 entry.2 ∈ s.history
  answers : ∀ id answer, .returned id answer ∈ s.history →
    ∃ before call after, order = before ++ (id, call) :: after ∧
      answer = (run call (serial run start before)).1
  realTime : ∀ first answer second call,
    [.returned first answer, .invoked second call].Sublist s.history →
      second ∈ order.map Prod.fst → [first, second].Sublist (order.map Prod.fst)
  store : s.store = serial run start order

def Linearizable (start : Store) (s : State Store Call Answer) : Prop :=
  ∃ order, Linearizes run start s order

/-- A saving operation finds the store as it loaded it. -/
def Undisturbed (s : State Store Call Answer) : Event Call → Prop
  | .load _ _ => True
  | .finish id => ∀ call seen, s.pending id = some ⟨call, seen⟩ → (run call seen).2.isSome →
      s.store = seen

/-! ## Serial runs -/

theorem serial_append (store : Store) (first second : List (Nat × Call)) :
    serial run store (first ++ second) = serial run (serial run store first) second := by
  induction first generalizing store with
  | nil => rfl
  | cons entry rest ih => exact ih _

/-! ## The invariant -/

/-- The order of the operations that took effect.  A pending operation that does not save is in
it, at a place where the store was what it loaded; one that saves is not in it yet. -/
structure Good (start : Store) (s : State Store Call Answer) (order : List (Nat × Call)) : Prop
    extends Linearizes run start s order where
  pending_invoked : ∀ id call seen, s.pending id = some ⟨call, seen⟩ →
    .invoked id call ∈ s.history
  reading : ∀ id call seen, s.pending id = some ⟨call, seen⟩ → (run call seen).2 = none →
    ∃ before after, order = before ++ (id, call) :: after ∧ serial run start before = seen
  saving : ∀ id call seen, s.pending id = some ⟨call, seen⟩ → (run call seen).2.isSome →
    id ∉ order.map Prod.fst

variable {run}

theorem pair_sublist_concat {α : Type*} {a b c : α} {l : List α}
    (pair : [a, b].Sublist (l ++ [c])) : [a, b].Sublist l ∨ (a ∈ l ∧ b = c) := by
  obtain ⟨first, second, split, inFirst, inSecond⟩ := List.sublist_append_iff.mp pair
  cases second with
  | nil =>
    rw [List.append_nil] at split
    exact .inl (split ▸ inFirst)
  | cons x rest =>
    have last : x :: rest = [c] := by
      have nil : rest = [] := by simpa using inSecond.length_le
      subst nil
      exact congrArg ([·]) (List.mem_singleton.mp (List.singleton_sublist.mp inSecond))
    have shape : first = [a] ∧ b = c := by
      have whole : [a] ++ [b] = first ++ [c] := by rw [← last, ← split]; rfl
      obtain ⟨front, back⟩ := List.append_inj' whole rfl
      exact ⟨front.symm, by simpa using back⟩
    exact .inr ⟨List.singleton_sublist.mp (shape.1 ▸ inFirst), shape.2⟩

theorem good_initial (start : Store) :
    Good run start (initial start : State Store Call Answer) [] where
  ids := List.nodup_nil
  invoked := by intro entry absent; cases absent
  answers := by intro id answer absent; cases absent
  realTime := by intro first answer second call _ absent; cases absent
  store := rfl
  pending_invoked := by intro id call seen absent; cases absent
  reading := by intro id call seen absent; cases absent
  saving := by intro id call seen absent; cases absent

section Steps

variable {start : Store} {s : State Store Call Answer} {order : List (Nat × Call)}
  {answer : Answer} {id other : Nat} {pending : Nat → Option (Pending Store Call)}
  {found entry : Pending Store Call} {seen : Store} {call : Call}

theorem not_invoked (fresh : s.history.any (Moment.invokes id) = false) (call : Call) :
    .invoked id call ∉ s.history := by
  intro member
  have seen : s.history.any (Moment.invokes id) = true :=
    List.any_eq_true.mpr ⟨_, member, by simp [Moment.invokes]⟩
  rw [fresh] at seen
  cases seen

section Orders

variable (lin : Linearizes run start s order)
include lin

theorem Linearizes.returned_mem (returned : .returned id answer ∈ s.history) :
    id ∈ order.map Prod.fst := by
  obtain ⟨before, call, after, rfl, -⟩ := lin.answers id answer returned
  simp

theorem Linearizes.fresh (fresh : s.history.any (Moment.invokes id) = false) :
    id ∉ order.map Prod.fst := by
  intro member
  obtain ⟨entry, inOrder, rfl⟩ := List.mem_map.mp member
  exact not_invoked fresh entry.2 (lin.invoked entry inOrder)

/-- An operation is invoked and has no effect yet. -/
theorem Linearizes.invoke (pending : Nat → Option (Pending Store Call)) (call : Call)
    (absent : id ∉ order.map Prod.fst) :
    Linearizes run start { s with pending, history := s.history ++ [.invoked id call] } order where
  ids := lin.ids
  invoked entry member := List.mem_append_left _ (lin.invoked entry member)
  answers other answer returned := lin.answers other answer (by simpa using returned)
  realTime first answer second secondCall pair member := by
    rcases pair_sublist_concat pair with before | ⟨-, last⟩
    · exact lin.realTime first answer second secondCall before member
    · cases last
      exact absurd member absent
  store := lin.store

/-- An operation returns what the order says. -/
theorem Linearizes.returns
    (placed : ∃ before call after, order = before ++ (id, call) :: after ∧
      answer = (run call (serial run start before)).1) :
    Linearizes run start { s with pending, history := s.history ++ [.returned id answer] }
      order where
  ids := lin.ids
  invoked entry member := List.mem_append_left _ (lin.invoked entry member)
  answers other answer returned := by
    rcases List.mem_append.mp returned with before | last
    · exact lin.answers other answer before
    · cases List.mem_singleton.mp last
      exact placed
  realTime first answer second secondCall pair member := by
    rcases pair_sublist_concat pair with before | ⟨-, last⟩
    · exact lin.realTime first answer second secondCall before member
    · cases last
  store := lin.store

/-- An operation that was invoked takes effect after all others. -/
theorem Linearizes.concat (absent : id ∉ order.map Prod.fst)
    (invoked : .invoked id call ∈ s.history) :
    Linearizes run start { s with store := (run call s.store).2.getD s.store }
      (order ++ [(id, call)]) where
  ids := by
    rw [List.map_append, List.nodup_append']
    exact ⟨lin.ids, by simp, by simpa using absent⟩
  invoked entry member := by
    rcases List.mem_append.mp member with old | added
    · exact lin.invoked entry old
    · cases List.mem_singleton.mp added
      exact invoked
  answers other answer returned := by
    obtain ⟨before, otherCall, after, rfl, serialAnswer⟩ := lin.answers other answer returned
    exact ⟨before, otherCall, after ++ [(id, call)], by simp, serialAnswer⟩
  realTime first answer second secondCall pair member := by
    rw [List.map_append] at member ⊢
    rcases List.mem_append.mp member with old | added
    · exact (lin.realTime first answer second secondCall pair old).trans
        (List.sublist_append_left _ _)
    · -- everything that has returned is before it
      cases List.mem_singleton.mp added
      have returned : .returned first answer ∈ s.history := pair.subset (by simp)
      exact (List.singleton_sublist.mpr (lin.returned_mem returned)).append (List.Sublist.refl [id])
  store := by
    rw [serial_append, ← lin.store]
    rfl

end Orders

/-- A decomposition of the order stays one when the order grows at its end. -/
theorem extend_place {otherCall : Call} {P : List (Nat × Call) → Prop}
    (place : ∃ before after, order = before ++ (id, call) :: after ∧ P before) :
    ∃ before after, order ++ [(other, otherCall)] = before ++ (id, call) :: after ∧ P before := by
  obtain ⟨before, after, rfl, holds⟩ := place
  exact ⟨before, after ++ [(other, otherCall)], by simp, holds⟩

/-- A load leaves the other pending operations as they are. -/
theorem update_some (known : Function.update pending id (some entry) other = some found) :
    (other = id ∧ found = entry) ∨ (other ≠ id ∧ pending other = some found) := by
  by_cases same : other = id
  · subst same
    rw [Function.update_self] at known
    cases known
    exact .inl ⟨rfl, rfl⟩
  · rw [Function.update_of_ne same] at known
    exact .inr ⟨same, known⟩

section Load

variable (good : Good run start s order)
include good

theorem Good.load_invoked
    (known : Function.update s.pending id (some ⟨call, s.store⟩) other = some found) :
    .invoked other found.call ∈ s.history ++ [.invoked id call] := by
  rcases update_some known with ⟨rfl, rfl⟩ | ⟨-, before⟩
  · exact List.mem_append_right _ List.mem_cons_self
  · exact List.mem_append_left _ (good.pending_invoked other found.call found.seen before)

/-- An operation that does not save takes effect when it loads. -/
theorem good_load_reading (absent : id ∉ order.map Prod.fst)
    (reads : (run call s.store).2 = none) :
    Good run start
      { s with
        pending := Function.update s.pending id (some ⟨call, s.store⟩)
        history := s.history ++ [.invoked id call] } (order ++ [(id, call)]) where
  toLinearizes := by
    have lin := good.invoke (Function.update s.pending id (some ⟨call, s.store⟩)) call absent
    have effect := lin.concat absent (List.mem_append_right _ List.mem_cons_self)
    rwa [reads] at effect
  pending_invoked other otherCall seen known := good.load_invoked known
  reading other otherCall seen known otherReads := by
    rcases update_some known with ⟨rfl, same⟩ | ⟨-, before⟩
    · cases same
      exact ⟨order, [], rfl, good.store.symm⟩
    · exact extend_place (P := fun before => serial run start before = seen)
        (good.reading other otherCall seen before otherReads)
  saving other otherCall seen known saves := by
    rcases update_some known with ⟨rfl, same⟩ | ⟨different, before⟩
    · cases same
      rw [reads] at saves
      cases saves
    · have absent := good.saving other otherCall seen before saves
      simpa [different] using absent

/-- An operation that will save has no effect when it loads. -/
theorem good_load_saving (absent : id ∉ order.map Prod.fst)
    (saves : (run call s.store).2.isSome) :
    Good run start
      { s with
        pending := Function.update s.pending id (some ⟨call, s.store⟩)
        history := s.history ++ [.invoked id call] } order where
  toLinearizes := good.invoke _ call absent
  pending_invoked other otherCall seen known := good.load_invoked known
  reading other otherCall seen known reads := by
    rcases update_some known with ⟨rfl, same⟩ | ⟨-, before⟩
    · cases same
      rw [reads] at saves
      cases saves
    · exact good.reading other otherCall seen before reads
  saving other otherCall seen known otherSaves := by
    rcases update_some known with ⟨rfl, -⟩ | ⟨-, before⟩
    · exact absent
    · exact good.saving other otherCall seen before otherSaves

theorem good_load (call : Call) (fresh : s.history.any (Moment.invokes id) = false) :
    ∃ next, Good run start
      { s with
        pending := Function.update s.pending id (some ⟨call, s.store⟩)
        history := s.history ++ [.invoked id call] } next := by
  cases known : (run call s.store).2 with
  | none => exact ⟨_, good_load_reading good (good.fresh fresh) known⟩
  | some => exact ⟨_, good_load_saving good (good.fresh fresh) (by rw [known]; rfl)⟩

end Load

/-- Ending an operation leaves the other pending ones as they are. -/
theorem update_none (known : Function.update pending id none other = some entry) :
    other ≠ id ∧ pending other = some entry := by
  by_cases same : other = id
  · subst same
    rw [Function.update_self] at known
    cases known
  · rw [Function.update_of_ne same] at known
    exact ⟨same, known⟩

theorem good_finish_reading (good : Good run start s order)
    (known : s.pending id = some ⟨call, seen⟩) (reads : (run call seen).2 = none) :
    Good run start
      { store := s.store
        pending := Function.update s.pending id none
        history := s.history ++ [.returned id (run call seen).1] } order where
  toLinearizes := by
    obtain ⟨before, after, placed, same⟩ := good.reading id call seen known reads
    exact good.returns ⟨before, call, after, placed, by rw [same]⟩
  pending_invoked other otherCall otherSeen there :=
    List.mem_append_left _ (good.pending_invoked _ _ _ (update_none there).2)
  reading other otherCall otherSeen there := good.reading _ _ _ (update_none there).2
  saving other otherCall otherSeen there := good.saving _ _ _ (update_none there).2

theorem good_finish_saving (good : Good run start s order) {next : Store}
    (known : s.pending id = some ⟨call, seen⟩) (saves : (run call seen).2 = some next)
    (same : s.store = seen) :
    Good run start
      { store := next
        pending := Function.update s.pending id none
        history := s.history ++ [.returned id (run call seen).1] } (order ++ [(id, call)]) where
  toLinearizes := by
    have lin := good.concat (good.saving id call seen known (by rw [saves]; rfl))
      (good.pending_invoked id call seen known)
    rw [same, saves] at lin
    exact lin.returns ⟨order, call, [], rfl, by rw [← good.store, same]⟩
  pending_invoked other otherCall otherSeen there :=
    List.mem_append_left _ (good.pending_invoked _ _ _ (update_none there).2)
  reading other otherCall otherSeen there reads :=
    extend_place (P := fun before => serial run start before = otherSeen)
      (good.reading _ _ _ (update_none there).2 reads)
  saving other otherCall otherSeen there savesLater := by
    have absent := good.saving _ _ _ (update_none there).2 savesLater
    simpa [(update_none there).1] using absent

theorem good_step (good : Good run start s order) (event : Event Call)
    (undisturbed : Undisturbed run s event) : ∃ next, Good run start (step run s event) next := by
  cases event with
  | load id call =>
    unfold step
    dsimp only
    split
    · exact ⟨order, good⟩
    · rename_i fresh
      exact good_load good call (by simpa using fresh)
  | finish =>
    unfold step
    dsimp only
    split
    · exact ⟨order, good⟩
    · rename_i call seen known
      cases saves : (run call seen).2 with
      | none => exact ⟨order, good_finish_reading good known saves⟩
      | some =>
        exact ⟨_, good_finish_saving good known saves
          (undisturbed call seen known (by rw [saves]; rfl))⟩

end Steps

/-- **Linearizability.**  Every state of a run in which no saving operation is disturbed has an
order that accounts for its answers and its store. -/
theorem linearizable_of_guarded {start : Store} {events : List (Event Call)}
    (guarded : Guarded (step run) (Undisturbed run) (initial start) events) :
    Throughout (step run) (Linearizable run start) (initial start) events := by
  have keeps : ∀ s event, (∃ order, Good run start s order) → Undisturbed run s event →
      ∃ order, Good run start (step run s event) order := by
    rintro s event ⟨order, good⟩ undisturbed
    exact good_step good event undisturbed
  have sound : ∀ s, (∃ order, Good run start s order) → Linearizable run start s := by
    rintro s ⟨order, good⟩
    exact ⟨order, good.toLinearizes⟩
  exact Guarded.throughout keeps sound ⟨[], good_initial start⟩ guarded

end Runs

end R3v3rs3.Theory.ReadModifyWrite
