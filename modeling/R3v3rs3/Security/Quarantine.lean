/-
# R3v3rs3.Security.Quarantine -- the tracker of violations and bans

`record_violation` counts the violations of an address and bans it when the count reaches
`max_violations`; `quarantine` bans an address for any duration.  Instants are nanoseconds, and
the last one that the platform can represent is a parameter: a ban past it panics.  In the release
profile the product of a duration and 1000 wraps.

`bans_sound_iff` says which runs have no panic and no ban that ends at another time than it should.
-/
import Mathlib.Algebra.Group.Nat.Defs
import R3v3rs3.Auth.Attempts
import R3v3rs3.Theory.Run
import R3v3rs3.Theory.StableSort

namespace R3v3rs3.Security.Quarantine
open Auth Theory Theory.Run
set_option autoImplicit false

structure AutoQuarantineConfig where
  enabled : Bool
  maxViolations : UInt32
  windowSeconds : UInt64
  banDurationSeconds : UInt64

/-- The error is the reason that `InvalidAutoQuarantineConfig` carries. -/
def AutoQuarantineConfig.validate (config : AutoQuarantineConfig) : Except String Unit :=
  if config.maxViolations = 0 then .error "max_violations must be greater than 0"
  else if config.windowSeconds = 0 then .error "window_seconds must be greater than 0"
  else if config.banDurationSeconds = 0 then .error "ban_duration_seconds must be greater than 0"
  else .ok ()

structure ActiveBan where
  reason : String
  violations : Nat
  bannedAtMs : Nat
  bannedUntilMs : Nat
  bannedUntil : Nat

structure IpViolationState where
  count : Nat
  windowStart : Nat

structure QuarantinedIpEntry where
  ip : ClientIp
  reason : String
  violations : Nat
  bannedAt : Nat
  bannedUntil : Nat
  remainingSeconds : Nat

def maxViolationEntries : Nat := 10000

/-- The violations, in the order in which the map iterates. -/
abbrev Violations := Table (Prod.fst : ClientIp × IpViolationState → ClientIp)

structure Tracker where
  config : AutoQuarantineConfig
  activeBans : ClientIp → Option ActiveBan
  violations : Violations

def Tracker.new (config : AutoQuarantineConfig) : Tracker := ⟨config, fun _ => none, Table.empty⟩

/-- What a call ends with. -/
inductive Outcome where
  | nothing
  | banned (entry : QuarantinedIpEntry)
  | panicked

/-- What a call reads from the clocks: `Instant::now()`, in `is_quarantined` and then in the call,
and `unix_ms()`. -/
structure Clock where
  asked : Nat
  now : Nat
  unixMs : UInt64

variable (lastInstant : Nat) (t : Tracker) (clock : Clock)

def second : Nat := 1000000000

def isQuarantined (ip : ClientIp) : Bool :=
  !ip.isLoopback && (t.activeBans ip).any fun ban => clock.asked < ban.bannedUntil

def expired (window : UInt64) (now : Nat) (state : IpViolationState) : Bool :=
  window.toNat ≤ (now - state.windowStart) / second

def pruneViolations (map : Violations) (now : Nat) (window : UInt64) : Violations :=
  let kept := map.discard fun row => expired window now row.2
  if maxViolationEntries ≤ kept.rows.length then
    let excess := kept.rows.length - maxViolationEntries + 1
    let entries := (StableSort.sortByKey (fun row => row.2.windowStart) kept.rows).take excess
    entries.foldl (fun map row => map.erase row.1) kept
  else kept

def quarantineInternal (ip : ClientIp) (reason : String) (duration : UInt64) (violations : Nat) :
    Outcome × Tracker :=
  let seconds := max duration.toNat 1
  let bannedAt := clock.unixMs.toNat
  let bannedUntilMs := min (bannedAt + seconds * 1000 % 2 ^ 64) (2 ^ 64 - 1)
  let bannedUntil := clock.now + seconds * second
  if bannedUntil ≤ lastInstant then
    let ban := ⟨reason, violations, bannedAt, bannedUntilMs, bannedUntil⟩
    (.banned ⟨ip, reason, violations, bannedAt, bannedUntilMs, seconds⟩,
      { t with activeBans := Function.update t.activeBans ip (some ban) })
  else (.panicked, t)

/-- Whether a violation is recorded at all. -/
def records (ip : ClientIp) : Bool :=
  t.config.enabled && !ip.isLoopback && !isQuarantined t clock ip

/-- The entry of an address with one more violation: a missing or expired one starts over. -/
def counted (window : UInt64) (now : Nat) (found : Option IpViolationState) (weight : UInt32) :
    IpViolationState :=
  let entry := found.getD ⟨0, now⟩
  let entry := if expired window now entry then ⟨0, now⟩ else entry
  { entry with count := min (entry.count + weight.toNat) (2 ^ 32 - 1) }

/-- The entry of the address after a violation that is recorded. -/
def nextEntry (ip : ClientIp) (weight : UInt32) : IpViolationState :=
  let map := pruneViolations t.violations clock.now t.config.windowSeconds
  counted t.config.windowSeconds clock.now ((map.find ip).map Prod.snd) weight

def recordViolation (ip : ClientIp) (reason : String) (weight : UInt32) : Outcome × Tracker :=
  if records t clock ip then
    let map := pruneViolations t.violations clock.now t.config.windowSeconds
    let entry := nextEntry t clock ip weight
    if t.config.maxViolations.toNat ≤ entry.count then
      quarantineInternal lastInstant { t with violations := map.erase ip } clock ip reason
        t.config.banDurationSeconds entry.count
    else (.nothing, { t with violations := map.upsert (ip, entry) })
  else (.nothing, t)

/-! ## Durations -/

/-- A call of `record_violation` or, with a duration, of `quarantine`. -/
structure Call where
  ip : ClientIp
  reason : String
  weight : UInt32
  duration : Option UInt64
  clock : Clock

def Call.run (call : Call) : Outcome × Tracker :=
  match call.duration with
  | some duration => quarantineInternal lastInstant t call.clock call.ip call.reason duration 1
  | none => recordViolation lastInstant t call.clock call.ip call.reason call.weight

def step (call : Call) : Tracker := (call.run lastInstant t).2

def Call.seconds (call : Call) : Nat :=
  max (call.duration.getD t.config.banDurationSeconds).toNat 1

/-- No panic, and a ban of so many seconds ends when it should. -/
def Ends (seconds : Nat) : Outcome → Prop
  | .nothing => True
  | .panicked => False
  | .banned entry => entry.bannedUntil = min (entry.bannedAt + seconds * 1000) (2 ^ 64 - 1)

instance (seconds : Nat) : DecidablePred (Ends seconds)
  | .nothing => .isTrue trivial
  | .panicked => .isFalse id
  | .banned _ => inferInstanceAs (Decidable (_ = _))

def Sound (call : Call) : Prop := Ends (call.seconds t) (call.run lastInstant t).1

/-- The end of a ban is an instant, and its milliseconds do not wrap or saturate all the same. -/
def Representable (seconds : Nat) : Prop :=
  clock.now + seconds * second ≤ lastInstant ∧
    (seconds * 1000 < 2 ^ 64 ∨ 2 ^ 64 ≤ clock.unixMs.toNat + seconds * 1000 % 2 ^ 64 + 1)

/-- The call is to ban the address: by hand, or because its violations reach the limit. -/
def Call.bans (call : Call) : Bool :=
  call.duration.isSome || (records t call.clock call.ip &&
    t.config.maxViolations.toNat ≤ (nextEntry t call.clock call.ip call.weight).count)

def Fits (call : Call) : Prop :=
  call.bans t = true → Representable lastInstant call.clock (call.seconds t)

variable {lastInstant t clock} {ip : ClientIp} {reason : String} {duration : UInt64}
  {violations : Nat} {call : Call}

theorem quarantineInternal_sound :
    Ends (max duration.toNat 1)
        (quarantineInternal lastInstant t clock ip reason duration violations).1 ↔
      Representable lastInstant clock (max duration.toNat 1) := by
  simp only [quarantineInternal, Representable]
  split
  · dsimp only [Ends]
    omega
  · rename_i late
    exact iff_of_false id fun fits => late fits.1

theorem sound_iff_fits (t : Tracker) (call : Call) :
    Sound lastInstant t call ↔ Fits lastInstant t call := by
  obtain ⟨ip, reason, weight, duration, clock⟩ := call
  unfold Sound Fits
  cases duration with
  | some => exact quarantineInternal_sound.trans (imp_iff_right rfl).symm
  | none =>
    simp only [Call.run, recordViolation, Call.bans, Option.isSome_none, Bool.false_or]
    split
    · rename_i recorded
      rw [recorded, Bool.true_and, decide_eq_true_eq]
      split
      · rename_i reached
        exact quarantineInternal_sound.trans (imp_iff_right reached).symm
      · rename_i below
        exact iff_of_true trivial fun reached => absurd reached below
    · rename_i passed
      exact iff_of_true trivial fun bans => absurd (Bool.and_eq_true_iff.mp bans).1 passed

/-- **No call panics and every ban ends when it should in exactly the runs whose bans are
representable.** -/
theorem bans_sound_iff (lastInstant : Nat) (config : AutoQuarantineConfig) (calls : List Call) :
    Guarded (step lastInstant) (Sound lastInstant) (Tracker.new config) calls ↔
      Guarded (step lastInstant) (Fits lastInstant) (Tracker.new config) calls :=
  guarded_congr (fun _ _ (_ : True) _ => trivial) (fun t call _ => sound_iff_fits t call) trivial

/-- The last instant of a clock with an `i64` of seconds. -/
def lastOfI64 : Nat := 2 ^ 63 * second - 1

/-- The longest ban that a configuration accepts panics, and a manual one of 2 ^ 61 seconds is over
at once. -/
theorem long_bans_unsound :
    (AutoQuarantineConfig.mk true 1 60 18446744073709551615).validate = .ok () ∧
    ¬ Guarded (step lastOfI64) (Sound lastOfI64)
      (Tracker.new ⟨true, 1, 60, 18446744073709551615⟩)
      [⟨⟨1, false⟩, "scan", 1, none, ⟨0, 0, 0⟩⟩] ∧
    ¬ Guarded (step lastOfI64) (Sound lastOfI64) (Tracker.new ⟨true, 1, 60, 3600⟩)
      [⟨⟨1, false⟩, "manual", 1, some 2305843009213693952, ⟨0, 0, 0⟩⟩] := by
  unfold Sound
  decide +kernel

end R3v3rs3.Security.Quarantine
