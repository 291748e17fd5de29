/-
# R3v3rs3.Kv.Etcd -- the keys that a watch of etcd asks for

A range is the interval of keys from `key` up to `rangeEnd`, in byte order; the range end `\0` stands
for the end of the key space.  `range_of_keys` says that the range of a prefix is the set of keys
under it, and that `prefixEnd` is the least bound of the keys that start with a text.
-/
import Mathlib.Order.Bounds.Basic

namespace R3v3rs3.Kv.Etcd
set_option autoImplicit false

/-- `str::trim_matches('/')`. -/
def trimSlashes (text : List Char) : List Char :=
  ((text.dropWhile (· = '/')).reverse.dropWhile (· = '/')).reverse

def utf8 (text : List Char) : List UInt8 := text.flatMap String.utf8EncodeChar

/-- The loop of `prefix_end`, over the bytes from the last one on. -/
def popEnd : List UInt8 → List UInt8
  | [] => [0]
  | last :: rest => if last < 255 then rest.reverse ++ [last + 1] else popEnd rest

/-- The first key after every key that starts with the bytes. -/
def prefixEnd (bytes : List UInt8) : List UInt8 := popEnd bytes.reverse

/-- The two keys are sent in Base64. -/
structure KeyRange where
  keyPrefix : List Char
  key : List UInt8
  rangeEnd : List UInt8

def KeyRange.startingWith (start keyPrefix : List Char) : KeyRange :=
  ⟨keyPrefix, utf8 start, prefixEnd (utf8 start)⟩

def KeyRange.new (text : List Char) : KeyRange :=
  .startingWith (trimSlashes text ++ ['/']) (trimSlashes text)

def KeyRange.Covers (range : KeyRange) (key : List UInt8) : Prop :=
  range.key ≤ key ∧ (range.rangeEnd = [0] ∨ key < range.rangeEnd)

section Order

variable {front bound : List UInt8} {b : UInt8}

theorem popEnd_replicate (small : b < 255) (n : Nat) (rest : List UInt8) :
    popEnd (List.replicate n 255 ++ b :: rest) = rest.reverse ++ [b + 1] := by
  induction n with
  | zero => simp [popEnd, small]
  | succ n ih => simpa [List.replicate_succ, popEnd] using ih

theorem prefixEnd_append (small : b < 255) (n : Nat) :
    prefixEnd (front ++ b :: List.replicate n 255) = front ++ [b + 1] := by
  simp [prefixEnd, popEnd_replicate small]

/-- The last byte below 255. -/
theorem exists_small {bytes : List UInt8} (some : ∃ byte ∈ bytes, byte < 255) :
    ∃ front b n, b < 255 ∧ bytes = front ++ b :: List.replicate n 255 := by
  induction bytes with
  | nil => simp at some
  | cons byte rest ih =>
    by_cases later : ∃ byte ∈ rest, byte < 255
    · obtain ⟨front, b, n, small, rfl⟩ := ih later
      exact ⟨byte :: front, b, n, small, rfl⟩
    · have all : rest = List.replicate rest.length 255 := by
        refine List.eq_replicate_of_mem fun other listed => ?_
        have large : ¬ other < 255 := fun small => later ⟨other, listed, small⟩
        grind
      have own : byte < 255 := by grind
      exact ⟨[], byte, rest.length, own, by rw [← all]; rfl⟩

theorem between_iff (small : b < 255) (key : List UInt8) :
    front ++ [b] ≤ key ∧ key < front ++ [b + 1] ↔ front ++ [b] <+: key := by
  induction front generalizing key with
  | nil =>
    cases key with
    | nil => simp
    | cons c rest =>
      simp [List.cons_lt_cons_iff, List.cons_le_cons_iff]
      grind
  | cons a front ih =>
    cases key with
    | nil => simp
    | cons c rest =>
      simp [List.cons_lt_cons_iff, List.cons_le_cons_iff, ← ih]
      grind

/-- A key that starts with the bytes and comes after a text below the bound. -/
theorem bound_not_above {n : Nat} (below : bound < front ++ [b + 1])
    (long : bound.length ≤ n) : ¬ front ++ b :: List.replicate n 255 < bound := by
  have last : ∀ {rest : List UInt8} {n : Nat}, rest.length ≤ n → ¬ List.replicate n 255 < rest := by
    intro rest
    induction rest with
    | nil => simp
    | cons c rest ih =>
      intro n long
      obtain ⟨n, rfl⟩ := Nat.exists_eq_succ_of_ne_zero (Nat.ne_zero_of_lt long)
      have later := ih (Nat.le_of_succ_le_succ long)
      simp only [List.replicate_succ, List.cons_lt_cons_iff]
      grind
  induction front generalizing bound with
  | nil =>
    cases bound with
    | nil => simp
    | cons c rest =>
      have later := last (Nat.le_of_succ_le long)
      simp only [List.nil_append, List.cons_lt_cons_iff, List.not_lt_nil] at below ⊢
      grind
  | cons a front ih =>
    cases bound with
    | nil => simp
    | cons c rest =>
      simp only [List.cons_append, List.cons_lt_cons_iff] at below ⊢
      have later := fun below => ih below (Nat.le_of_succ_le long)
      grind

theorem isLeast_prefixEnd {bytes : List UInt8} (some : ∃ byte ∈ bytes, byte < 255) :
    IsLeast {bound | ∀ key, bytes <+: key → key < bound} (prefixEnd bytes) := by
  obtain ⟨front, b, n, small, rfl⟩ := exists_small some
  rw [prefixEnd_append small]
  constructor
  · intro key starts
    exact ((between_iff small key).mpr (.trans ⟨List.replicate n 255, by simp⟩ starts)).2
  · intro bound above below
    refine bound_not_above below (Nat.le_add_left _ n) (above _ ⟨.replicate bound.length 255, ?_⟩)
    simp

end Order

/-- **The range of a prefix** is the set of the keys under it, and `prefix_end` is exact. -/
theorem range_of_keys (text : List Char) (key : List UInt8) :
    ((KeyRange.new text).Covers key ↔ utf8 (trimSlashes text) ++ utf8 ['/'] <+: key) ∧
      ∀ bytes : List UInt8, (∃ byte ∈ bytes, byte < 255) →
        IsLeast {bound | ∀ key, bytes <+: key → key < bound} (prefixEnd bytes) := by
  refine ⟨?_, fun bytes => isLeast_prefixEnd⟩
  have start : (KeyRange.new text).key = utf8 (trimSlashes text) ++ [47] := List.flatMap_append
  have stop : (KeyRange.new text).rangeEnd = utf8 (trimSlashes text) ++ [48] := by
    refine (congrArg prefixEnd start).trans ?_
    exact prefixEnd_append (n := 0) (by decide)
  have proper : utf8 (trimSlashes text) ++ [48] ≠ [0] := by
    intro same
    have last := congrArg List.getLast? same
    simp at last
  rw [KeyRange.Covers, start, stop, or_iff_right proper]
  exact between_iff (by decide) key

end R3v3rs3.Kv.Etcd
