/-
# R3v3rs3.Theory.SmoothRoundRobin -- taking turns in proportion to weights

In every round each participant gains its weight, and one with the most then goes first and pays
the total weight.  How ties are broken is left open: `choose` is any function that finds a largest
value.

From an even start the values always sum to zero and stay above minus the total
(`balanced_iterate`).  What a participant has is what it gained less what it paid
(`iterate_next_eq`), so after as many rounds as the total weight nobody can have paid more often
than its weight says, and because the turns add up nobody has paid less (`count_picks_block`).  The
start is reached again, hence the same count holds for any stretch of that length, wherever it
begins (`count_picks_window`).
-/
import Mathlib.Algebra.BigOperators.Fin
import Mathlib.Algebra.Order.BigOperators.Group.Finset
import Mathlib.Tactic.Linarith
import Mathlib.Tactic.Ring

namespace R3v3rs3.Theory.SmoothRoundRobin
set_option autoImplicit false

variable {ι : Type*} [Fintype ι] (weight : ι → ℕ) {current : ι → ℤ}

/-- The weights of all. -/
def total : ℕ := ∑ i, weight i

def gain (current : ι → ℤ) : ι → ℤ := fun i => current i + weight i

theorem sum_gain (current : ι → ℤ) :
    ∑ i, gain weight current i = ∑ i, current i + total weight := by
  simp [gain, total, Finset.sum_add_distrib]

/-- The values sum to zero and stay above minus the total. -/
structure Balanced (current : ι → ℤ) : Prop where
  sum_eq : ∑ i, current i = 0
  lower : ∀ i, -(total weight : ℤ) < current i

variable {weight} in
theorem balanced_zero (some_weight : 0 < total weight) : Balanced weight (fun _ => 0) :=
  ⟨by simp, fun _ => by omega⟩

variable {weight} in
/-- What one has the others lack, and each of them lacks less than the total. -/
theorem Balanced.upper [DecidableEq ι] (balanced : Balanced weight current) (i : ι) :
    current i ≤ Fintype.card ι * (total weight : ℤ) := by
  have split := Finset.add_sum_erase Finset.univ current (Finset.mem_univ i)
  rw [balanced.sum_eq] at split
  have others : ∀ j ∈ Finset.univ.erase i, -(total weight : ℤ) ≤ current j :=
    fun j _ => le_of_lt (balanced.lower j)
  have low := Finset.card_nsmul_le_sum _ _ _ others
  have fewer : ((Finset.univ.erase i).card : ℤ) ≤ Fintype.card ι :=
    Int.ofNat_le.mpr (Finset.card_le_card (Finset.erase_subset i Finset.univ))
  have cost := mul_le_mul_of_nonneg_right fewer (Int.natCast_nonneg (total weight))
  rw [nsmul_eq_mul] at low
  linarith

/-! ## Rounds -/

variable [DecidableEq ι] (choose : (ι → ℤ) → ι)

/-- Who goes first in a round. -/
def pick (current : ι → ℤ) : ι := choose (gain weight current)

def next (current : ι → ℤ) : ι → ℤ := fun i =>
  gain weight current i - if i = pick weight choose current then (total weight : ℤ) else 0

/-- Who goes first in each of `rounds` rounds. -/
def picks : ℕ → (ι → ℤ) → List ι
  | 0, _ => []
  | rounds + 1, current => pick weight choose current :: picks rounds (next weight choose current)

@[simp] theorem length_picks (rounds : ℕ) (current : ι → ℤ) :
    (picks weight choose rounds current).length = rounds := by
  induction rounds generalizing current with
  | zero => rfl
  | succ rounds ih => simp [picks, ih]

theorem picks_eq_map (rounds : ℕ) (current : ι → ℤ) :
    picks weight choose rounds current = (List.range rounds).map fun round =>
      pick weight choose ((next weight choose)^[round] current) := by
  induction rounds generalizing current with
  | zero => rfl
  | succ rounds ih =>
    rw [picks, ih, List.range_succ_eq_map, List.map_cons, List.map_map]
    rfl

theorem sum_next (current : ι → ℤ) : ∑ i, next weight choose current i = ∑ i, current i := by
  have paid : ∑ i, (if i = pick weight choose current then (total weight : ℤ) else 0) =
      total weight := by simp
  simp only [next, Finset.sum_sub_distrib]
  rw [paid, sum_gain]
  omega

/-- What a participant has after some rounds: it gained its weight in each of them and paid the
total whenever it went first. -/
theorem iterate_next_eq (rounds : ℕ) (current : ι → ℤ) (i : ι) :
    (next weight choose)^[rounds] current i =
      current i + rounds * weight i -
        total weight * ((picks weight choose rounds current).count i : ℤ) := by
  induction rounds generalizing current with
  | zero => simp [picks]
  | succ rounds ih =>
    rw [Function.iterate_succ_apply, ih]
    by_cases first : i = pick weight choose current
    · have paid : next weight choose current i = current i + weight i - total weight := by
        simp [next, gain, first]
      have counted : (picks weight choose (rounds + 1) current).count i =
          (picks weight choose rounds (next weight choose current)).count i + 1 := by
        rw [picks, ← first, List.count_cons_self]
      rw [paid, counted]
      push_cast
      ring
    · have kept : next weight choose current i = current i + weight i := by
        simp [next, gain, first]
      have counted : (picks weight choose (rounds + 1) current).count i =
          (picks weight choose rounds (next weight choose current)).count i := by
        rw [picks, List.count_cons_of_ne (Ne.symm first)]
      rw [kept, counted]
      push_cast
      ring

/-! ## The values of a run -/

section Runs

variable {weight choose} (best : ∀ (values : ι → ℤ) (i : ι), values i ≤ values (choose values))
  (some_weight : 0 < total weight)

omit [DecidableEq ι] in
include best some_weight in
/-- Whoever goes first has more than nothing to pay from. -/
theorem gain_pick_pos (even : ∑ i, current i = 0) :
    0 < gain weight current (pick weight choose current) := by
  by_contra none
  have all : ∀ i ∈ Finset.univ, gain weight current i ≤ 0 :=
    fun i _ => le_trans (best (gain weight current) i) (not_lt.mp none)
  have few := Finset.sum_nonpos all
  rw [sum_gain, even] at few
  omega

include best some_weight in
theorem Balanced.next (balanced : Balanced weight current) :
    Balanced weight (next weight choose current) := by
  refine ⟨(sum_next weight choose current).trans balanced.sum_eq, fun i => ?_⟩
  by_cases first : i = pick weight choose current
  · have pos := gain_pick_pos best some_weight balanced.sum_eq
    rw [← first] at pos
    have paid : SmoothRoundRobin.next weight choose current i =
        gain weight current i - total weight := by
      simp [SmoothRoundRobin.next, first]
    omega
  · have before := balanced.lower i
    have kept : SmoothRoundRobin.next weight choose current i = current i + weight i := by
      simp [SmoothRoundRobin.next, gain, first]
    omega

include best some_weight in
theorem balanced_iterate (rounds : ℕ) :
    Balanced weight ((SmoothRoundRobin.next weight choose)^[rounds] fun _ => 0) := by
  induction rounds with
  | zero => exact balanced_zero some_weight
  | succ rounds ih =>
    rw [Function.iterate_succ_apply']
    exact ih.next best some_weight

/-! ## Turns -/

theorem sum_count (turns : List ι) : ∑ i, turns.count i = turns.length := by
  have counted := Multiset.sum_count_eq_card (s := Finset.univ) (m := (turns : Multiset ι))
    fun i _ => Finset.mem_univ i
  simpa using counted

include best some_weight in
/-- In as many rounds as the total weight everyone goes first as often as its weight says. -/
theorem count_picks_block (i : ι) :
    (picks weight choose (total weight) fun _ => 0).count i = weight i := by
  have atMost : ∀ j ∈ Finset.univ,
      (picks weight choose (total weight) fun _ => 0).count j ≤ weight j := by
    intro j _
    have lower := (balanced_iterate best some_weight (total weight)).lower j
    rw [iterate_next_eq] at lower
    -- one turn too many would cost a whole total
    by_contra more
    have many : ((weight j : ℤ) + 1) ≤ (picks weight choose (total weight) fun _ => 0).count j := by
      omega
    have cost := mul_le_mul_of_nonneg_left many (Int.natCast_nonneg (total weight))
    linarith
  have turns : ∑ j, (picks weight choose (total weight) fun _ => 0).count j = ∑ j, weight j := by
    rw [sum_count, length_picks, total]
  exact (Finset.sum_eq_sum_iff_of_le atMost).mp turns i (Finset.mem_univ i)

include best some_weight in
theorem iterate_next_total : (next weight choose)^[total weight] (fun _ => 0) = fun _ => 0 := by
  funext i
  rw [iterate_next_eq, count_picks_block best some_weight]
  ring

include best some_weight in
/-- The run repeats itself. -/
theorem iterate_next_add_total (rounds : ℕ) :
    (next weight choose)^[total weight + rounds] (fun _ => 0) =
      (next weight choose)^[rounds] fun _ => 0 := by
  rw [Nat.add_comm, Function.iterate_add_apply, iterate_next_total best some_weight]

include best some_weight in
theorem iterate_next_mul_total (blocks : ℕ) :
    (next weight choose)^[blocks * total weight] (fun _ => 0) = fun _ => 0 := by
  induction blocks with
  | zero => simp
  | succ blocks ih =>
    rw [Nat.succ_mul, Nat.add_comm, iterate_next_add_total best some_weight, ih]

include best some_weight in
/-- The same count in every stretch of that length. -/
theorem count_picks_window (start : ℕ) (i : ι) :
    (picks weight choose (total weight)
      ((next weight choose)^[start] fun _ => 0)).count i = weight i := by
  have again : (next weight choose)^[total weight] ((next weight choose)^[start] fun _ => 0) i =
      (next weight choose)^[start] (fun _ => 0) i := by
    rw [← Function.iterate_add_apply, iterate_next_add_total best some_weight]
  rw [iterate_next_eq] at again
  have moved : (total weight : ℤ) * weight i = total weight *
      ((picks weight choose (total weight)
        ((next weight choose)^[start] fun _ => 0)).count i : ℤ) := by omega
  have pos : (total weight : ℤ) ≠ 0 := by omega
  exact_mod_cast (mul_left_cancel₀ pos moved).symm

end Runs

end R3v3rs3.Theory.SmoothRoundRobin
