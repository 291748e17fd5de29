/-
# R3v3rs3.Theory.StableSort -- sorting by a key

`sortByKey` is a stable sort by a key: rows with the same key stay in the order they came in.
When a list is the rearrangement of a history that is already in key order, sorting gives the
history back exactly when the rows that share a key come in the order of the history;
`filter_sortByKey_eq_iff` says so for the part of both lists that a predicate selects.

`firstBest` is the search for the first element of the highest rank in one pass.
-/
import Mathlib.Data.List.Induction
import Mathlib.Data.List.Sort

namespace R3v3rs3.Theory.StableSort
set_option autoImplicit false

section Order

variable {α : Type*}

/-- Two different members of a list have an order in it. -/
theorem pair_sublist_or {a b : α} {l : List α} (ha : a ∈ l) (hb : b ∈ l) (different : a ≠ b) :
    [a, b].Sublist l ∨ [b, a].Sublist l := by
  induction l with
  | nil => cases ha
  | cons x rest ih =>
    rcases List.mem_cons.mp ha with rfl | restA
    · have restB : b ∈ rest := by simpa [Ne.symm different] using hb
      exact Or.inl ((List.singleton_sublist.mpr restB).cons_cons a)
    · rcases List.mem_cons.mp hb with rfl | restB
      · exact Or.inr ((List.singleton_sublist.mpr restA).cons_cons b)
      · exact (ih restA restB).imp (List.Sublist.cons x) (List.Sublist.cons x)

/-- Without repetition the order is only one of the two. -/
theorem not_pair_sublist {a b : α} {l : List α} (nodup : l.Nodup) (forth : [a, b].Sublist l) :
    ¬ [b, a].Sublist l := by
  intro back
  induction l with
  | nil => cases forth
  | cons x rest ih =>
    obtain ⟨fresh, restNodup⟩ := List.nodup_cons.mp nodup
    cases forth with
    | cons _ forth =>
      cases back with
      | cons _ back => exact ih restNodup forth back
      | cons_cons => exact fresh (forth.subset (by simp))
    | cons_cons _ forth =>
      cases back with
      | cons _ back => exact fresh (back.subset (by simp))
      | cons_cons => exact fresh (List.singleton_sublist.mp forth)

end Order

section Sorting

variable {α κ : Type*} [LinearOrder κ] (key : α → κ)

/-- `sort_by_key`. -/
def sortByKey (l : List α) : List α := l.insertionSort (fun a b => key a ≤ key b)

theorem sortByKey_perm (l : List α) : (sortByKey key l).Perm l := List.perm_insertionSort _ l

theorem sortByKey_sorted (l : List α) :
    (sortByKey key l).Pairwise (fun a b => key a ≤ key b) := by
  exact List.pairwise_insertionSort _ l

variable {key}

theorem sortByKey_stable {a b : α} {l : List α} (le : key a ≤ key b) (order : [a, b].Sublist l) :
    [a, b].Sublist (sortByKey key l) :=
  List.pair_sublist_insertionSort le order

/-- Rows that share a key keep their order, and have no other. -/
theorem pair_sublist_sortByKey_iff {a b : α} {l : List α} (nodup : l.Nodup) (member : a ∈ l)
    (other : b ∈ l) (tie : key a = key b) (different : a ≠ b) :
    [a, b].Sublist (sortByKey key l) ↔ [a, b].Sublist l := by
  refine ⟨fun sorted => ?_, sortByKey_stable (le_of_eq tie)⟩
  rcases pair_sublist_or member other different with forth | back
  · exact forth
  · have sortedNodup := (sortByKey_perm key l).nodup_iff.mpr nodup
    exact absurd (sortByKey_stable (le_of_eq tie.symm) back)
      (not_pair_sublist sortedNodup sorted)

/-- Two rearrangements in key order are equal when they agree on the rows that share a key. -/
theorem eq_of_sorted_of_ties {first second : List α} (perm : first.Perm second)
    (nodup : second.Nodup) (firstSorted : first.Pairwise (fun a b => key a ≤ key b))
    (secondSorted : second.Pairwise (fun a b => key a ≤ key b))
    (ties : ∀ a b, [a, b].Sublist second → key a = key b → [a, b].Sublist first) :
    first = second := by
  have firstNodup := perm.nodup_iff.mpr nodup
  -- The order of `second`, as a relation that both lists are sorted by.
  let order (a b : α) : Prop := [a, b].Sublist second
  refine List.Perm.eq_of_pairwise ?_ (?_ : first.Pairwise order) ?_ perm
  · intro a b _ _ forth back
    exact absurd back (not_pair_sublist nodup forth)
  · rw [List.pairwise_iff_forall_sublist]
    intro a b sub
    have different : a ≠ b := List.pairwise_iff_forall_sublist.mp firstNodup sub
    have memA : a ∈ second := perm.subset (sub.subset (by simp))
    have memB : b ∈ second := perm.subset (sub.subset (by simp))
    rcases pair_sublist_or memA memB different with forth | back
    · exact forth
    · have keyLe := List.pairwise_iff_forall_sublist.mp firstSorted sub
      have keyGe := List.pairwise_iff_forall_sublist.mp secondSorted back
      exact absurd (ties b a back (le_antisymm keyGe keyLe)) (not_pair_sublist firstNodup sub)
  · exact List.pairwise_iff_forall_sublist.mpr (fun sub => sub)

/-- **Sorting a rearranged history.**  The selected part of the sorted list is the selected part
of the history if and only if the selected rows that share a key come in the order of the
history. -/
theorem filter_sortByKey_eq_iff {files history : List α} (selected : α → Bool)
    (perm : files.Perm history) (nodup : history.Nodup)
    (sorted : history.Pairwise (fun a b => key a ≤ key b)) :
    (sortByKey key files).filter selected = history.filter selected ↔
      ∀ a b, [a, b].Sublist (history.filter selected) → key a = key b →
        [a, b].Sublist files := by
  have filesNodup := perm.nodup_iff.mpr nodup
  have keptNodup : (history.filter selected).Nodup := nodup.filter selected
  constructor
  · intro same a b sub tie
    have different : a ≠ b := List.pairwise_iff_forall_sublist.mp keptNodup sub
    have inHistory := sub.subset
    have memA : a ∈ files := perm.symm.subset (List.mem_of_mem_filter (inHistory (by simp)))
    have memB : b ∈ files := perm.symm.subset (List.mem_of_mem_filter (inHistory (by simp)))
    rw [← same] at sub
    exact (pair_sublist_sortByKey_iff filesNodup memA memB tie different).mp
      (sub.trans List.filter_sublist)
  · intro ties
    refine eq_of_sorted_of_ties (((sortByKey_perm key files).trans perm).filter selected)
      keptNodup ((sortByKey_sorted key files).sublist List.filter_sublist)
      (sorted.sublist List.filter_sublist) (fun a b sub tie => ?_)
    have inSorted := (sortByKey_stable (le_of_eq tie) (ties a b sub tie)).filter selected
    have keptA := List.of_mem_filter (sub.subset (by simp : a ∈ [a, b]))
    have keptB := List.of_mem_filter (sub.subset (by simp : b ∈ [a, b]))
    simpa [keptA, keptB] using inSorted

variable (key)

/-- `max_by_key`: the last one of the greatest. -/
def maxByKey : List α → Option α
  | [] => none
  | a :: rest =>
    match maxByKey rest with
    | none => some a
    | some best => if key best < key a then some a else some best

theorem maxByKey_spec (l : List α) :
    (maxByKey key l = none ∧ l = []) ∨
      ∃ best, maxByKey key l = some best ∧ best ∈ l ∧ ∀ a ∈ l, key a ≤ key best := by
  induction l with
  | nil => exact Or.inl ⟨rfl, rfl⟩
  | cons a rest ih =>
    right
    rcases ih with ⟨none, empty⟩ | ⟨best, found, member, greatest⟩
    · exact ⟨a, by simp [maxByKey, none], by simp, by simp [empty]⟩
    · by_cases less : key best < key a
      · refine ⟨a, by simp [maxByKey, found, less], by simp, ?_⟩
        intro b memB
        rcases List.mem_cons.mp memB with rfl | later
        · exact le_refl _
        · exact le_trans (greatest b later) (le_of_lt less)
      · refine ⟨best, by simp [maxByKey, found, less], List.mem_cons_of_mem a member, ?_⟩
        intro b memB
        rcases List.mem_cons.mp memB with rfl | later
        · exact not_lt.mp less
        · exact greatest b later

end Sorting

/-! ## The first one of the best -/

section Best

variable {α κ : Type*} [LinearOrder κ] (rank : α → Option κ)

/-- One turn of the search: only a higher rank replaces the best element so far. -/
def improve (best : Option (κ × α)) (a : α) : Option (κ × α) :=
  match rank a with
  | none => best
  | some high => if best.all fun top => top.1 < high then some (high, a) else best

/-- The first of the elements with the highest rank; an element without a rank is passed over. -/
def firstBest (l : List α) : Option (κ × α) := l.foldl (improve rank) none

/-- What the element found has in the list: nothing before it ranks as high, nothing after it
higher. -/
structure IsFirstBest (l : List α) (high : κ) (a : α) (before after : List α) : Prop where
  split : l = before ++ a :: after
  ranked : rank a = some high
  earlier : ∀ b ∈ before, ∀ other ∈ rank b, other < high
  later : ∀ b ∈ after, ∀ other ∈ rank b, other ≤ high

section Found

variable {rank} {l before after : List α} {high : κ} {a b : α}
  (best : IsFirstBest rank l high a before after)
include best

/-- Nothing ranks above the element found. -/
theorem IsFirstBest.highest (member : b ∈ l) {other : κ}
    (ranked : rank b = some other) : other ≤ high := by
  rw [best.split] at member
  rcases List.mem_append.mp member with front | back
  · exact (best.earlier b front other ranked).le
  · rcases List.mem_cons.mp back with rfl | last
    · exact (Option.some.inj (ranked.symm.trans best.ranked)).le
    · exact best.later b last other ranked

theorem IsFirstBest.concat (lower : ∀ other ∈ rank b, other ≤ high) :
    IsFirstBest rank (l ++ [b]) high a before (after ++ [b]) := by
  refine ⟨by simp [best.split], best.ranked, best.earlier, fun c member => ?_⟩
  rcases List.mem_append.mp member with old | new
  · exact best.later c old
  · rwa [List.mem_singleton.mp new]

/-- Nothing is preferred to the element found: it would rank higher, or as high and come first. -/
theorem IsFirstBest.unbeaten {other : κ} (ranked : rank b = some other) :
    ¬ (b ∈ before ++ after ∧ high < other ∨ b ∈ before ∧ high ≤ other) := by
  rintro (⟨member, above⟩ | ⟨front, above⟩)
  · have inside : b ∈ l := by
      rw [best.split]
      exact List.mem_append.mpr ((List.mem_append.mp member).imp id (List.mem_cons_of_mem a))
    exact absurd (best.highest inside ranked) (not_le_of_gt above)
  · exact absurd (best.earlier b front other ranked) (not_lt_of_ge above)

/-- The element found is preferred to every other one that has a rank. -/
theorem IsFirstBest.beats {front back : List α} (place : l = front ++ b :: back) (differ : a ≠ b)
    {other : κ} (ranked : rank b = some other) :
    a ∈ front ++ back ∧ other < high ∨ a ∈ front ∧ other ≤ high := by
  rcases List.append_eq_append_iff.mp (best.split.symm.trans place) with
    ⟨mid, same, rest⟩ | ⟨mid, same, rest⟩ <;> rcases mid with _ | ⟨c, mid⟩
  · exact absurd (List.cons.inj rest).1 differ
  · obtain ⟨rfl, later⟩ := List.cons.inj rest
    exact .inr ⟨by simp [same], best.later b (by simp [later]) other ranked⟩
  · exact absurd (List.cons.inj rest).1.symm differ
  · obtain ⟨rfl, later⟩ := List.cons.inj rest
    exact .inl ⟨by simp [later], best.earlier b (by simp [same]) other ranked⟩

/-- Two searches that rank what they find alike find the same. -/
theorem IsFirstBest.unique {other : α → Option κ} {front back : List α} {top : κ}
    (rival : IsFirstBest other l top b front back) (kept : other a = some high)
    (held : rank b = some top) : a = b := by
  have equal : high = top :=
    le_antisymm (rival.highest (by simp [best.split]) kept)
      (best.highest (by simp [rival.split]) held)
  rcases List.append_eq_append_iff.mp (best.split.symm.trans rival.split) with
    ⟨mid, place, rest⟩ | ⟨mid, place, rest⟩ <;> rcases mid with _ | ⟨c, mid⟩
  · exact (List.cons.inj rest).1
  · obtain ⟨rfl, -⟩ := List.cons.inj rest
    exact absurd (rival.earlier a (by simp [place]) high kept) (equal ▸ lt_irrefl _)
  · exact (List.cons.inj rest).1.symm
  · obtain ⟨rfl, -⟩ := List.cons.inj rest
    exact absurd (best.earlier b (by simp [place]) top held) (equal ▸ lt_irrefl _)

end Found

theorem firstBest_concat (l : List α) (a : α) :
    firstBest rank (l ++ [a]) = improve rank (firstBest rank l) a :=
  List.foldl_concat _ _ _ _

/-- The turns up to some element find nothing, or the first best of what they have seen. -/
theorem firstBest_cases (l : List α) :
    (firstBest rank l = none ∧ ∀ a ∈ l, rank a = none) ∨
      ∃ high a before after, firstBest rank l = some (high, a) ∧
        IsFirstBest rank l high a before after := by
  -- the search runs from the front, so the induction takes the last element off
  induction l using List.reverseRecOn with
  | nil => exact .inl ⟨rfl, by simp⟩
  | append_singleton seen a ih =>
    rw [firstBest_concat]
    cases ranked : rank a with
    | none =>
      have passed : improve rank (firstBest rank seen) a = firstBest rank seen := by
        simp [improve, ranked]
      rw [passed]
      rcases ih with ⟨nothing, unranked⟩ | ⟨high, b, before, after, found, best⟩
      · refine .inl ⟨nothing, fun c member => ?_⟩
        rcases List.mem_append.mp member with old | new
        · exact unranked c old
        · rwa [List.mem_singleton.mp new]
      · exact .inr ⟨high, b, before, after ++ [a], found, best.concat (by simp [ranked])⟩
    | some high =>
      right
      rcases ih with ⟨nothing, unranked⟩ | ⟨top, b, before, after, found, best⟩
      · refine ⟨high, a, seen, [], ?_, rfl, ranked, ?_, by simp⟩
        · simp [improve, ranked, nothing]
        · intro c member other known
          simp [unranked c member] at known
      · by_cases higher : top < high
        · refine ⟨high, a, seen, [], ?_, rfl, ranked, ?_, by simp⟩
          · simp [improve, ranked, found, higher]
          · intro c member other known
            exact (best.highest member known).trans_lt higher
        · refine ⟨top, b, before, after ++ [a], ?_, best.concat fun other known => ?_⟩
          · simp [improve, ranked, found, higher]
          · rw [ranked] at known
            exact (Option.some.inj known) ▸ not_lt.mp higher

variable {rank}

theorem firstBest_eq_none_iff {l : List α} : firstBest rank l = none ↔ ∀ a ∈ l, rank a = none := by
  rcases firstBest_cases rank l with
    ⟨nothing, unranked⟩ | ⟨high, a, before, after, found, best⟩
  · exact iff_of_true nothing unranked
  · refine iff_of_false (by simp [found]) fun unranked => ?_
    have none := unranked a (by simp [best.split])
    simp [best.ranked] at none

/-- Where the highest rank is attained once, the order of the list does not matter. -/
theorem firstBest_perm {l other before after : List α} {high : κ} {a : α}
    (split : l = before ++ a :: after) (ranked : rank a = some high)
    (once : ∀ b ∈ before ++ after, ∀ rival ∈ rank b, rival < high) (perm : other.Perm l) :
    firstBest rank other = some (high, a) := by
  have member : a ∈ other := perm.mem_iff.mpr (by simp [split])
  rcases firstBest_cases rank other with
    ⟨-, unranked⟩ | ⟨top, b, front, back, found, best⟩
  · have none := unranked a member
    simp [ranked] at none
  · have above : high ≤ top := best.highest member ranked
    have known : b ∈ before ++ a :: after := by
      rw [← split]
      exact perm.mem_iff.mp (by simp [best.split])
    have same : b = a := by
      by_contra different
      have rival : b ∈ before ++ after := by
        simpa [different] using known
      exact absurd (once b rival top best.ranked) (not_lt.mpr above)
    subst same
    have equal : top = high := Option.some.inj (best.ranked.symm.trans ranked)
    rw [found, equal]

end Best

end R3v3rs3.Theory.StableSort
