/-
# R3v3rs3.Proxy.Http.StreamPermits -- the permits of the global stream controller

`apply_stream_priority` for a background request on a route with `adaptive_concurrency`: the
request loads `active_background_streams` and compares it with the limit, then `acquire_permit`
adds it to `active_streams` and to `active_background_streams`; the drop of the permit subtracts
it in the same order.  Each of these is one atomic step here, and the steps of all requests
interleave.

A request that passed the test counts against the limit only after the second addition, so
requests that test before that pass together (`background_permits_bounded_iff`).
-/
import R3v3rs3.Theory.Run

namespace R3v3rs3.Proxy.Http.StreamPermits
open Theory.Run
set_option autoImplicit false

def defaultMaxBackgroundConcurrency : Nat := 32

/-- The counters of the controller, and the requests by how far they are. -/
structure State where
  activeStreams : Nat
  activeBackgroundStreams : Nat
  throttledBackground : Nat
  /-- Background requests that passed the test and hold no permit. -/
  tested : Nat
  /-- Background permits counted in `active_streams` only. -/
  entered : Nat
  /-- Background permits counted in both. -/
  held : Nat
  /-- Dropped background permits, still counted as background streams. -/
  leaving : Nat
  /-- The other permits. -/
  others : Nat

def initial : State := ⟨0, 0, 0, 0, 0, 0, 0, 0⟩

inductive Event where
  /-- `should_throttle_background` for a background request. -/
  | test
  /-- The additions of `acquire_permit` for a request that passed. -/
  | enter
  | count
  /-- The subtractions of `drop`. -/
  | leave
  | uncount
  /-- `acquire_permit` and `drop` for a request that is not a background request. -/
  | acquireOther
  | dropOther
  deriving DecidableEq

variable (s : State)

def shouldThrottleBackground : Bool := defaultMaxBackgroundConcurrency ≤ s.activeBackgroundStreams

def step : Event → State
  | .test =>
    if shouldThrottleBackground s then { s with throttledBackground := s.throttledBackground + 1 }
    else { s with tested := s.tested + 1 }
  | .enter =>
    if s.tested = 0 then s
    else { s with
      activeStreams := s.activeStreams + 1, tested := s.tested - 1, entered := s.entered + 1 }
  | .count =>
    if s.entered = 0 then s
    else { s with
      activeBackgroundStreams := s.activeBackgroundStreams + 1
      entered := s.entered - 1, held := s.held + 1 }
  | .leave =>
    if s.held = 0 then s
    else { s with
      activeStreams := s.activeStreams - 1, held := s.held - 1, leaving := s.leaving + 1 }
  | .uncount =>
    if s.leaving = 0 then s
    else { s with
      activeBackgroundStreams := s.activeBackgroundStreams - 1, leaving := s.leaving - 1 }
  | .acquireOther => { s with activeStreams := s.activeStreams + 1, others := s.others + 1 }
  | .dropOther =>
    if s.others = 0 then s
    else { s with activeStreams := s.activeStreams - 1, others := s.others - 1 }

def liveBackground : Nat := s.entered + s.held

/-- `active_streams` is the number of live permits. -/
def Counted : Prop := s.activeStreams = liveBackground s + s.others

/-- The limit holds, and goes on to hold when the requests that passed take their permits; the
streams counted are the permits. -/
structure Settled (s : State) : Prop where
  bounded : ∀ n, liveBackground (exec step s (List.replicate n .enter)) ≤
    defaultMaxBackgroundConcurrency
  counted : Counted s

/-- A test that passes leaves room for the requests that passed before it. -/
def Admits (event : Event) : Prop :=
  event = .test → shouldThrottleBackground s = false →
    s.tested + liveBackground s < defaultMaxBackgroundConcurrency

variable {s}

theorem liveBackground_enters (n : Nat) :
    liveBackground (exec step s (List.replicate n .enter)) = liveBackground s + min n s.tested := by
  induction n generalizing s with
  | zero => simp
  | succ n ih =>
    rw [List.replicate_succ, exec_cons, ih]
    unfold step liveBackground
    split <;> grind

theorem counted_step (s : State) (event : Event) (counted : Counted s) :
    Counted (step s event) := by
  unfold Counted liveBackground at *
  cases event <;> simp only [step] <;> grind

theorem settled_iff_le (counted : Counted s) :
    Settled s ↔ s.tested + liveBackground s ≤ defaultMaxBackgroundConcurrency := by
  constructor
  · intro settled
    have all := settled.bounded s.tested
    rw [liveBackground_enters] at all
    omega
  · refine fun room => ⟨fun n => ?_, counted⟩
    rw [liveBackground_enters]
    omega

/-- **The background permits stay within the limit, however the requests interleave, in exactly
the runs in which a test passes only with room for every request that passed before.** -/
theorem background_permits_bounded_iff (events : List Event) :
    Throughout step Settled initial events ↔ Guarded step Admits initial events := by
  have counted : Counted initial := rfl
  have start : Settled initial := (settled_iff_le counted).mpr (by decide)
  refine throughout_iff_guarded counted_step (fun s event counted settled => ?_) counted start
  have room := (settled_iff_le counted).mp settled
  rw [settled_iff_le (counted_step s event counted)]
  unfold liveBackground Admits at *
  cases event <;> simp only [step] <;> grind [liveBackground]

/-- Thirty-three requests test before the first of them takes its permit. -/
theorem tested_together :
    ¬ Throughout step Settled initial (List.replicate 33 .test) ∧
    liveBackground (exec step initial (List.replicate 33 .test ++ List.replicate 33 .enter)) =
      33 := by
  refine ⟨fun settled => ?_, by decide +kernel⟩
  exact absurd (settled.last.bounded 33) (by decide +kernel)

end R3v3rs3.Proxy.Http.StreamPermits
