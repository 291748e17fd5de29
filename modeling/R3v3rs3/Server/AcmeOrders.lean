/-
# R3v3rs3.Server.AcmeOrders -- one order for each ACME target

`AcmeSchedule` holds the targets that have an order in progress.  A renewal orders the due targets,
and a target in progress is not due; an explicit request forgets its targets and orders them at
once; the end of an order takes its target out, and when no target is left the HTTP challenges are
stopped.  The orders run in tasks of their own and end in any order.

The schedule describes the orders as long as an explicit request only names targets without an
order (`one_order_iff`).  A second order of a target is not in the schedule any more once the first
one has ended, so the challenges are stopped while it runs (`ordered_twice`).
-/
import Mathlib.Data.Finset.Basic
import R3v3rs3.Theory.Run

namespace R3v3rs3.Server.AcmeOrders
open Theory.Run
set_option autoImplicit false

variable {Target : Type} [DecidableEq Target]

structure AcmeSchedule (Target : Type) where
  inProgress : Finset Target
  retryAfter : Target → Option Nat

def retryAfterFailure : Nat := 60 * 60

namespace AcmeSchedule

variable (schedule : AcmeSchedule Target)

/-- `now` is the time of the monotonic clock, `time` that of the system clock. -/
def isDue (target : Target) (nextRenewal : Option Nat) (now time : Nat) : Bool :=
  target ∉ schedule.inProgress && (schedule.retryAfter target).all (· ≤ now) &&
    nextRenewal.all (· ≤ time)

/-- `start` for each of the targets. -/
def start (targets : Finset Target) : AcmeSchedule Target :=
  { schedule with inProgress := schedule.inProgress ∪ targets }

def finish (target : Target) (succeeded : Bool) (now : Nat) : AcmeSchedule Target where
  inProgress := schedule.inProgress.erase target
  retryAfter := Function.update schedule.retryAfter target
    (if succeeded then none else some (now + retryAfterFailure))

def reset (targets : Finset Target) : AcmeSchedule Target where
  inProgress := schedule.inProgress \ targets
  retryAfter target := if target ∈ targets then none else schedule.retryAfter target

def isIdle : Bool := schedule.inProgress = ∅

end AcmeSchedule

structure State (Target : Type) where
  acmeSchedule : AcmeSchedule Target
  /-- The targets of the orders that were spawned and are not finished. -/
  orders : Multiset Target
  /-- The unfinished orders at each call of `stop_http_challenges`. -/
  stops : List (Multiset Target)

def initial : State Target := ⟨⟨∅, fun _ => none⟩, 0, []⟩

inductive Event (Target : Type) where
  /-- The leader looks at the renewals, which name no target twice. -/
  | startHttpChallenges (renewals : Finset Target) (nextRenewal : Target → Option Nat)
      (now time : Nat)
  /-- The targets of one entry. -/
  | requestAcmeNow (targets : Finset Target)
  | finishAcmeOrder (target : Target) (succeeded : Bool) (now : Nat)

def step (s : State Target) : Event Target → State Target
  | .startHttpChallenges renewals nextRenewal now time =>
    let targets := renewals.filter fun target =>
      s.acmeSchedule.isDue target (nextRenewal target) now time
    { s with acmeSchedule := s.acmeSchedule.start targets, orders := s.orders + targets.val }
  | .requestAcmeNow targets =>
    { s with
      acmeSchedule := (s.acmeSchedule.reset targets).start targets
      orders := s.orders + targets.val }
  | .finishAcmeOrder target succeeded now =>
    -- the command comes from an order
    if target ∈ s.orders then
      let acmeSchedule := s.acmeSchedule.finish target succeeded now
      let orders := s.orders.erase target
      ⟨acmeSchedule, orders, if acmeSchedule.isIdle then orders :: s.stops else s.stops⟩
    else s

/-- No target has two orders, the schedule is idle only where no order is unfinished, and the
challenges were never stopped while one was. -/
structure OneOrder (s : State Target) : Prop where
  single : ∀ target, s.orders.count target ≤ 1
  idle : s.acmeSchedule.isIdle = true → s.orders = 0
  stops : ∀ unfinished ∈ s.stops, unfinished = 0

/-- An explicit request names no target that has an order. -/
def Unordered (s : State Target) : Event Target → Prop
  | .requestAcmeNow targets => ∀ target ∈ targets, target ∉ s.orders
  | _ => True

/-- The targets of the schedule are those of the orders. -/
structure Described (s : State Target) : Prop where
  nodup : s.orders.Nodup
  mem : ∀ target, target ∈ s.acmeSchedule.inProgress ↔ target ∈ s.orders
  stops : ∀ unfinished ∈ s.stops, unfinished = 0

theorem eq_zero_of_isIdle {acmeSchedule : AcmeSchedule Target} {orders : Multiset Target}
    (mem : ∀ target, target ∈ acmeSchedule.inProgress ↔ target ∈ orders)
    (idle : acmeSchedule.isIdle = true) : orders = 0 := by
  have none : acmeSchedule.inProgress = ∅ := of_decide_eq_true idle
  refine Multiset.eq_zero_of_forall_notMem fun target member => ?_
  simpa [none] using (mem target).mpr member

section Described

variable {s : State Target} (described : Described s)
include described

theorem Described.oneOrder : OneOrder s :=
  ⟨Multiset.nodup_iff_count_le_one.mp described.nodup, eq_zero_of_isIdle described.mem,
    described.stops⟩

omit [DecidableEq Target] in
/-- New orders of targets that have none. -/
theorem Described.order {targets : Finset Target} {acmeSchedule : AcmeSchedule Target}
    (fresh : ∀ target ∈ targets, target ∉ s.orders)
    (starts : ∀ target, target ∈ acmeSchedule.inProgress ↔
      target ∈ s.acmeSchedule.inProgress ∨ target ∈ targets) :
    Described ⟨acmeSchedule, s.orders + targets.val, s.stops⟩ := by
  refine ⟨Multiset.nodup_add.mpr ⟨described.nodup, targets.nodup, ?_⟩, fun target => ?_,
    described.stops⟩
  · rw [Multiset.disjoint_right]
    exact fun named => fresh _ named
  · simp [starts, described.mem]

theorem Described.finish (target : Target) (succeeded : Bool) (now : Nat) :
    Described (step s (.finishAcmeOrder target succeeded now)) := by
  have mem : ∀ other, other ∈ (s.acmeSchedule.finish target succeeded now).inProgress ↔
      other ∈ s.orders.erase target := by
    intro other
    simp [AcmeSchedule.finish, described.nodup.mem_erase_iff, described.mem]
  dsimp only [step]
  split
  · refine ⟨described.nodup.erase _, mem, fun unfinished stopped => ?_⟩
    split at stopped
    · next idle =>
      rcases List.mem_cons.mp stopped with rfl | earlier
      · exact eq_zero_of_isIdle mem idle
      · exact described.stops _ earlier
    · exact described.stops _ stopped
  · exact described

theorem Described.step {event : Event Target} (unordered : Unordered s event) :
    Described (step s event) := by
  cases event with
  | startHttpChallenges renewals nextRenewal now time =>
    refine described.order (fun target due => ?_) (fun target => by simp [AcmeSchedule.start])
    rw [← described.mem]
    have isDue := (Finset.mem_filter.mp due).2
    simp only [AcmeSchedule.isDue, Bool.and_eq_true, decide_eq_true_eq] at isDue
    exact isDue.1.1
  | requestAcmeNow targets =>
    refine described.order unordered fun target => ?_
    by_cases named : target ∈ targets <;> simp [AcmeSchedule.start, AcmeSchedule.reset, named]
  | finishAcmeOrder target succeeded now => exact described.finish target succeeded now

end Described

/-- **Each target has one order at a time, and the challenges are stopped only when there is none, in
exactly the runs in which an explicit request names no target that has an order.** -/
theorem one_order_iff (events : List (Event Target)) :
    Throughout step OneOrder initial events ↔ Guarded step Unordered initial events := by
  have start : Described (initial : State Target) :=
    ⟨Multiset.nodup_zero, by simp [initial], fun _ => (by cases ·)⟩
  refine throughout_iff_guarded_while (fun s event described (_ : True) => described.step)
    (fun s => Described.oneOrder) (fun s event described _ one => ?_) start
    (Guarded.of_always (fun _ _ => trivial) _ _)
  cases event with
  | requestAcmeNow targets =>
    intro target named ordered
    have once := one.single target
    have here : 0 < targets.val.count target := Multiset.count_pos.mpr named
    have there : 0 < s.orders.count target := Multiset.count_pos.mpr ordered
    simp only [step, Multiset.count_add] at once
    omega
  | startHttpChallenges | finishAcmeOrder => trivial

/-- A target is requested twice; when the first order ends, the schedule is idle and the challenges
are stopped, while the second order runs. -/
theorem ordered_twice :
    let s := exec step (initial : State Nat)
      [.requestAcmeNow {0}, .requestAcmeNow {0}, .finishAcmeOrder 0 true 0]
    s.acmeSchedule.isIdle = true ∧ s.orders = {0} ∧ s.stops = [{0}] ∧ ¬ OneOrder s := by
  refine ⟨by decide, by decide, by decide, fun one => ?_⟩
  exact absurd (one.idle (by decide)) (by decide)

end R3v3rs3.Server.AcmeOrders
