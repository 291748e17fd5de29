/-
# R3v3rs3.Theory.Duration -- spans of time with a largest value

A span is a whole number of nanoseconds below `2 ^ 64` seconds; the field carries the bound, so a
sum is a span only where it stays below it.  `add` is the addition of a language that stops the
program where the sum is too large: `none` is that stop.  `add_isSome` says when it does not
happen, and `saturatingSub` and the conversions never leave the range.
-/
import Mathlib.Algebra.Group.Nat.Defs
import Mathlib.Data.Option.Basic

namespace R3v3rs3.Theory
set_option autoImplicit false

structure Duration where
  nanos : Nat
  bounded : nanos < 2 ^ 64 * 10 ^ 9
  deriving DecidableEq

namespace Duration

def zero : Duration := ⟨0, by decide⟩

instance : LT Duration := ⟨fun first second => first.nanos < second.nanos⟩

instance (first second : Duration) : Decidable (first < second) :=
  inferInstanceAs (Decidable (first.nanos < second.nanos))

theorem lt_iff {first second : Duration} : first < second ↔ first.nanos < second.nanos := Iff.rfl

theorem ext {first second : Duration} (same : first.nanos = second.nanos) : first = second := by
  cases first; cases second; cases same; rfl

def fromSecs (secs : UInt64) : Duration :=
  ⟨secs.toNat * 10 ^ 9, by have := secs.toNat_lt; omega⟩

def fromMillis (millis : UInt64) : Duration :=
  ⟨millis.toNat * 10 ^ 6, by have := millis.toNat_lt; omega⟩

@[simp] theorem fromSecs_nanos (secs : UInt64) : (fromSecs secs).nanos = secs.toNat * 10 ^ 9 := rfl

@[simp] theorem fromMillis_nanos (millis : UInt64) :
    (fromMillis millis).nanos = millis.toNat * 10 ^ 6 := rfl

/-- The whole seconds. -/
def asSecs (span : Duration) : UInt64 := UInt64.ofNat (span.nanos / 10 ^ 9)

/-- The whole milliseconds; the number can be too large for a word. -/
def asMillis (span : Duration) : Nat := span.nanos / 10 ^ 6

/-- The sum, or `none` where it is too large. -/
def add (first second : Duration) : Option Duration :=
  if fits : first.nanos + second.nanos < 2 ^ 64 * 10 ^ 9 then
    some ⟨first.nanos + second.nanos, fits⟩
  else none

def saturatingSub (first second : Duration) : Duration :=
  ⟨first.nanos - second.nanos, by have := first.bounded; omega⟩

/-- The difference, or `none` where it is negative. -/
def checkedSub (first second : Duration) : Option Duration :=
  if first < second then none else some (first.saturatingSub second)

theorem add_eq_some {first second sum : Duration} :
    first.add second = some sum ↔ sum.nanos = first.nanos + second.nanos := by
  unfold add
  split
  · rename_i fits
    rw [Option.some.injEq]
    exact ⟨fun same => same ▸ rfl, fun same => ext same.symm⟩
  · rename_i exceeds
    refine ⟨nofun, fun same => ?_⟩
    exact absurd (same ▸ sum.bounded) exceeds

theorem add_isSome {first second : Duration} :
    (first.add second).isSome ↔ first.nanos + second.nanos < 2 ^ 64 * 10 ^ 9 := by
  unfold add
  split
  · rename_i fits
    exact iff_of_true rfl fits
  · rename_i exceeds
    exact iff_of_false nofun exceeds

/-- A second addition to a sum that exists. -/
theorem add_bind_add_isSome {first second third : Duration} :
    ((first.add second).bind (·.add third)).isSome ↔
      first.nanos + second.nanos + third.nanos < 2 ^ 64 * 10 ^ 9 := by
  cases sum : first.add second with
  | some => rw [Option.bind_some, add_isSome, add_eq_some.mp sum]
  | none =>
    have exceeds : ¬ first.nanos + second.nanos < 2 ^ 64 * 10 ^ 9 := by
      rw [← add_isSome, sum]
      simp
    simp only [Option.bind_none, Option.isSome_none, Bool.false_eq_true, false_iff]
    omega

end Duration

end R3v3rs3.Theory
