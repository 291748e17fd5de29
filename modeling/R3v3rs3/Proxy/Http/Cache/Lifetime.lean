/-
# R3v3rs3.Proxy.Http.Cache.Lifetime -- where the sums of ages and lifetimes are too large

An upstream server chooses `age`, `max-age`, `s-maxage` and `stale-while-revalidate` up to
`2 ^ 64 - 1` seconds, and a span ends below `2 ^ 64` seconds.  The additions of the cache are plain
ones, so a sum that is too large stops the program.  Each function that adds has its bound here,
and `arithmetic_total_iff` puts them together: no sum stops the program exactly when five sums of
the stored numbers are below the end of the range.
-/
import R3v3rs3.Proxy.Http.Cache.Store

namespace R3v3rs3.Proxy.Http.Cache
open Api Theory Duration
set_option autoImplicit false

/-- The first number of nanoseconds that is no span. -/
def tooLong : Nat := 2 ^ 64 * 10 ^ 9

section Bounds

variable {entry : CachedResponse} {swr : Duration} {now : Instant}

theorem age_isSome :
    (entry.age now).isSome ↔
      entry.head.initialAge.nanos + (now.nanos - entry.storedAt.nanos) < tooLong :=
  add_isSome

theorem isFresh_isSome : (entry.isFresh now).isSome ↔ (entry.age now).isSome := by
  cases known : entry.age now <;> simp [CachedResponse.isFresh, known]

/-- The second sum is made only for an entry that is not fresh, and none is made where no stale
response is sent. -/
theorem isStaleRevalidatable_isSome (known : (entry.age now).isSome) :
    (entry.isStaleRevalidatable swr now).isSome ↔
      (entry.staleWindow swr ≠ .zero →
        entry.head.freshness.nanos ≤
            entry.head.initialAge.nanos + (now.nanos - entry.storedAt.nanos) →
          entry.head.freshness.nanos + (entry.staleWindow swr).nanos < tooLong) := by
  obtain ⟨age, sum⟩ := Option.isSome_iff_exists.mp known
  have total : age.nanos = entry.head.initialAge.nanos + (now.nanos - entry.storedAt.nanos) :=
    add_eq_some.mp sum
  have limit := @Duration.add_isSome entry.head.freshness (entry.staleWindow swr)
  unfold CachedResponse.isStaleRevalidatable
  by_cases closed : entry.staleWindow swr = .zero
  · simp [closed]
  · simp only [closed, if_false, sum, Option.bind_eq_bind, Option.bind_some, ne_eq,
      not_false_eq_true, true_implies, ← total]
    by_cases fresh : age < entry.head.freshness
    · rw [if_pos fresh]
      exact iff_of_true rfl fun reached => absurd (lt_iff.mp fresh) (Nat.not_lt.mpr reached)
    · have reached : entry.head.freshness.nanos ≤ age.nanos := Nat.le_of_not_lt fresh
      rw [if_neg fresh, Option.isSome_bind, forall_prop_of_true reached]
      simpa [tooLong] using limit

theorem lifetime_isSome :
    (entry.lifetime swr).isSome ↔
      entry.head.freshness.nanos - entry.head.initialAge.nanos + (entry.staleWindow swr).nanos +
        (if hasValidator entry.head.headers then revalidationWindow.nanos else 0) < tooLong := by
  unfold CachedResponse.lifetime
  rw [add_bind_add_isSome]
  split <;> rfl

end Bounds

section Share

variable {decodeBody : String → Option (List UInt8)} {shared : SharedResponse} {nowMs : UInt64}
  {now : Instant}

theorem expiresAt_isSome :
    shared.expiresAt.isSome ↔
      shared.freshness.toNat - shared.initialAge.toNat + 3600 < 2 ^ 64 := by
  have sum := @Duration.add_isSome
    (.fromSecs (saturatingSubU64 shared.freshness shared.initialAge)) revalidationWindow
  rw [fromSecs_nanos, saturatingSubU64_toNat,
    show revalidationWindow.nanos = 3600 * 10 ^ 9 from rfl, ← Nat.add_mul,
    Nat.mul_lt_mul_right (by decide)] at sum
  rw [← sum, SharedResponse.expiresAt, Option.bind_eq_bind, Option.isSome_bind]
  simp

theorem ageAt_isSome :
    (shared.ageAt nowMs).isSome ↔
      shared.initialAge.toNat * 10 ^ 9 + (nowMs.toNat - shared.storedAt.toNat) * 10 ^ 6 <
        tooLong := by
  rw [SharedResponse.ageAt, add_isSome, fromSecs_nanos,
    fromMillis_nanos, saturatingSubU64_toNat, tooLong]

/-- The parts of a shared response that are read before its age is. -/
def SharedResponse.Readable (shared : SharedResponse) : Prop :=
  shared.readHeaders.isSome ∧ shared.readVary.isSome ∧
    (StatusCode.fromU16 shared.status).isSome

theorem fromShared_overflow :
    CachedResponse.fromShared decodeBody shared nowMs now ≠ .error .overflow ↔
      (shared.Readable →
        shared.initialAge.toNat * 10 ^ 9 + (nowMs.toNat - shared.storedAt.toNat) * 10 ^ 6 <
          tooLong) := by
  rw [← ageAt_isSome]
  unfold CachedResponse.fromShared SharedResponse.Readable
  cases shared.readHeaders with
  | none => simp
  | some =>
    cases shared.readVary with
    | none => simp
    | some =>
      cases StatusCode.fromU16 shared.status with
      | none => simp
      | some =>
        cases shared.ageAt nowMs with
        | none => simp
        | some => cases decodeBody shared.body <;> simp

end Share

/-! ## All sums of an entry -/

/-- None of the functions that add stops the program. -/
structure TotalArithmetic (decodeBody : String → Option (List UInt8)) (entry : CachedResponse)
    (swr : Duration) (now : Instant) (shared : SharedResponse) (nowMs : UInt64) : Prop where
  age : (entry.age now).isSome
  isFresh : (entry.isFresh now).isSome
  isStaleRevalidatable : (entry.isStaleRevalidatable swr now).isSome
  lifetime : (entry.lifetime swr).isSome
  expiresAt : shared.expiresAt.isSome
  fromShared : CachedResponse.fromShared decodeBody shared nowMs now ≠ .error .overflow

/-- **When no sum stops the program.**  For every stored entry, shared response, window of the
configuration and time, the five bounds are exactly what it takes. -/
theorem arithmetic_total_iff (decodeBody : String → Option (List UInt8)) (entry : CachedResponse)
    (swr : Duration) (now : Instant) (shared : SharedResponse) (nowMs : UInt64) :
    TotalArithmetic decodeBody entry swr now shared nowMs ↔
      entry.head.initialAge.nanos + (now.nanos - entry.storedAt.nanos) < tooLong ∧
      (entry.staleWindow swr ≠ .zero →
        entry.head.freshness.nanos ≤
            entry.head.initialAge.nanos + (now.nanos - entry.storedAt.nanos) →
          entry.head.freshness.nanos + (entry.staleWindow swr).nanos < tooLong) ∧
      entry.head.freshness.nanos - entry.head.initialAge.nanos + (entry.staleWindow swr).nanos +
        (if hasValidator entry.head.headers then revalidationWindow.nanos else 0) < tooLong ∧
      shared.freshness.toNat - shared.initialAge.toNat + 3600 < 2 ^ 64 ∧
      (shared.Readable →
        shared.initialAge.toNat * 10 ^ 9 + (nowMs.toNat - shared.storedAt.toNat) * 10 ^ 6 <
          tooLong) := by
  constructor
  · rintro ⟨age, -, stale, lifetime, expires, read⟩
    exact ⟨age_isSome.mp age, (isStaleRevalidatable_isSome age).mp stale,
      lifetime_isSome.mp lifetime, expiresAt_isSome.mp expires, fromShared_overflow.mp read⟩
  · rintro ⟨age, stale, lifetime, expires, read⟩
    have known : (entry.age now).isSome := age_isSome.mpr age
    exact ⟨known, isFresh_isSome.mpr known, (isStaleRevalidatable_isSome known).mpr stale,
      lifetime_isSome.mpr lifetime, expiresAt_isSome.mpr expires, fromShared_overflow.mpr read⟩

/-- A response that is fresh for the longest time, with a second of stale use: it passes
`storableHead`, and the sum of its lifetime stops the program. -/
theorem longest_max_age_overflows :
    let config : CacheConfig := ⟨true, 1000, 100, .zero, .zero⟩
    let request : CacheRequest := ⟨"a /", false, ⟨[]⟩, true, false, false, "a", "/"⟩
    let headers : HeaderMap :=
      ⟨[("cache-control", bytes "max-age=18446744073709551615, stale-while-revalidate=1"),
        ("content-length", bytes "2")]⟩
    let head : StoredHead := ⟨.ok, headers, [], .zero, .fromSecs 18446744073709551615⟩
    storableHead (fun _ => none) config .zero request ⟨.ok, headers⟩ = some head ∧
      CachedResponse.lifetime config.staleWhileRevalidate ⟨head, [104, 105], .zero⟩ = none := by
  decide

end R3v3rs3.Proxy.Http.Cache
