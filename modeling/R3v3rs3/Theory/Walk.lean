/-
# R3v3rs3.Theory.Walk -- loops that walk over places

A loop is a body that is run turn after turn until it is done; it may also fault.  Where the turns
of a loop follow a walk over finitely many places (the offsets of a buffer, say), with a state
beside the place that decides nothing, whether the loop comes to its end can be read off the walk
alone: no place on the way is one at which the body faults, and none leads back to itself.

`run_ok_reaches` is the one direction, for any number of turns; `run_ok_of_acyclic` the other, for
one turn more than there are places.  A walk that only goes forward leads back nowhere
(`not_returns_of_forward`).
-/
import Mathlib.Data.List.Nodup
import Mathlib.Data.List.Perm.Subperm

namespace R3v3rs3.Theory.Walk
set_option autoImplicit false

/-- What one turn of a loop comes to. -/
inductive Turn (State Result : Type*) where
  | next (state : State)
  | done (result : Result)

variable {q : Nat}

section Walks

variable (next : Nat → Option Nat) {p : Nat}

def Moves (p q : Nat) : Prop := next p = some q

def Reaches : Nat → Nat → Prop := Relation.ReflTransGen (Moves next)

/-- The walk comes back to the place. -/
def Returns (p : Nat) : Prop := Relation.TransGen (Moves next) p p

variable {next}

theorem reaches_cases (reaches : Reaches next p q) :
    q = p ∨ ∃ middle, next p = some middle ∧ Reaches next middle q := by
  rcases Relation.ReflTransGen.cases_head reaches with same | ⟨middle, moves, rest⟩
  · exact .inl same.symm
  · exact .inr ⟨middle, moves, rest⟩

theorem returns_cases (returns : Returns next p) :
    ∃ middle, next p = some middle ∧ Reaches next middle p := by
  obtain ⟨middle, moves, rest⟩ := Relation.TransGen.head'_iff.mp returns
  exact ⟨middle, moves, rest⟩

theorem reaches_le {start : Nat} (forward : ∀ p q, Reaches next start p → next p = some q → p < q)
    (known : Reaches next start p) (reaches : Reaches next p q) : p ≤ q := by
  induction reaches with
  | refl => exact Nat.le_refl p
  | tail before moves ih =>
    exact Nat.le_of_lt (Nat.lt_of_le_of_lt ih (forward _ _ (known.trans before) moves))

/-- A walk that goes forward leads back nowhere. -/
theorem not_returns_of_forward {start : Nat}
    (forward : ∀ p q, Reaches next start p → next p = some q → p < q)
    (reaches : Reaches next start p) : ¬ Returns next p := by
  intro returns
  obtain ⟨middle, moves, back⟩ := returns_cases returns
  have later := forward p middle reaches moves
  have earlier := reaches_le forward (reaches.tail moves) back
  omega

end Walks

section Loops

variable {Fault State Result : Type*} {state : State} {turns : Nat}

/-- The loop, for at most `turns` turns. -/
def run (unfinished : Fault) (body : State → Except Fault (Turn State Result)) :
    Nat → State → Except Fault Result
  | 0, _ => .error unfinished
  | turns + 1, state =>
    match body state with
    | .error fault => .error fault
    | .ok (.done result) => .ok result
    | .ok (.next after) => run unfinished body turns after

/-- The turns of the body follow a walk over the places below `bound`. -/
structure Follows (body : State → Except Fault (Turn State Result)) (place : State → Nat)
    (next : Nat → Option Nat) (bound : Nat) : Prop where
  next_of : ∀ {state after}, body state = .ok (.next after) →
    next (place state) = some (place after)
  done_of : ∀ {state result}, body state = .ok (.done result) → next (place state) = none
  inside : ∀ {p q}, next p = some q → p < bound

variable {unfinished : Fault} {body : State → Except Fault (Turn State Result)}
  {place : State → Nat} {next : Nat → Option Nat} {bound : Nat}

/-- A loop that came to its end was at no place where the body faults and at no place that leads
back to itself. -/
theorem run_ok_reaches (follows : Follows body place next bound) (good : Nat → Prop)
    (sound : ∀ state turn, body state = .ok turn → good (place state)) {result : Result}
    (ok : run unfinished body turns state = .ok result) (reaches : Reaches next (place state) q) :
    good q ∧ ¬ Returns next q := by
  induction turns generalizing state with
  | zero => cases ok
  | succ turns ih =>
    rw [run] at ok
    cases turned : body state with
    | error =>
      rw [turned] at ok
      cases ok
    | ok turn =>
      rw [turned] at ok
      cases turn with
      | done =>
        have stops := follows.done_of turned
        rcases reaches_cases reaches with rfl | ⟨middle, moves, -⟩
        · refine ⟨sound state _ turned, fun returns => ?_⟩
          obtain ⟨middle, moves, -⟩ := returns_cases returns
          rw [stops] at moves
          cases moves
        · rw [stops] at moves
          cases moves
      | next after =>
        have first := follows.next_of turned
        rcases reaches_cases reaches with rfl | ⟨middle, moves, rest⟩
        · refine ⟨sound state _ turned, fun returns => ?_⟩
          -- The place would be met again after the first turn.
          obtain ⟨middle, moves, back⟩ := returns_cases returns
          rw [first] at moves
          cases moves
          exact (ih ok back).2 returns
        · rw [first] at moves
          cases moves
          exact ih ok rest

/-- The places that were left, none of which is ahead, and the turns that remain are together more
than there are places. -/
theorem run_ok_of_left (follows : Follows body place next bound)
    (free : ∀ q, Reaches next (place state) q →
      (∀ here, place here = q → ∃ turn, body here = .ok turn) ∧ ¬ Returns next q)
    {left : List Nat} (distinct : left.Nodup) (below : ∀ p ∈ left, p < bound)
    (behind : ∀ p ∈ left, ¬ Reaches next (place state) p) (enough : bound < turns + left.length) :
    ∃ result, run unfinished body turns state = .ok result := by
  induction turns generalizing state left with
  | zero =>
    have few : left.length ≤ (List.range bound).length :=
      (List.subperm_of_subset distinct fun p member =>
        List.mem_range.mpr (below p member)).length_le
    rw [List.length_range] at few
    omega
  | succ turns ih =>
    obtain ⟨turn, turned⟩ := (free _ .refl).1 state rfl
    rw [run, turned]
    cases turn with
    | done result => exact ⟨result, rfl⟩
    | next after =>
      have moves := follows.next_of turned
      have ahead : ∀ {q}, Reaches next (place after) q → Reaches next (place state) q :=
        fun rest => .head moves rest
      have fresh : place state ∉ left := fun member => behind _ member .refl
      refine ih (fun q rest => free q (ahead rest)) (List.nodup_cons.mpr ⟨fresh, distinct⟩)
        ?_ ?_ ?_
      · intro p member
        rcases List.mem_cons.mp member with rfl | older
        · exact follows.inside moves
        · exact below p older
      · intro p member rest
        rcases List.mem_cons.mp member with rfl | older
        · exact (free _ .refl).2 (.head' moves rest)
        · exact behind p older (ahead rest)
      · rw [List.length_cons]
        omega

/-- **A loop comes to its end** in more turns than there are places, when the walk leads to no
place where the body faults and to none that leads back to itself. -/
theorem run_ok_of_acyclic (follows : Follows body place next bound) (enough : bound < turns)
    (free : ∀ q, Reaches next (place state) q →
      (∀ here, place here = q → ∃ turn, body here = .ok turn) ∧ ¬ Returns next q) :
    ∃ result, run unfinished body turns state = .ok result :=
  run_ok_of_left follows free List.nodup_nil (fun _ member => absurd member List.not_mem_nil)
    (fun _ member => absurd member List.not_mem_nil) enough

end Loops

end R3v3rs3.Theory.Walk
