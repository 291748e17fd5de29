/-
# R3v3rs3.Server.Workers -- one worker after the other

What the loop of `supervise` does over the workers it starts and loses.  A step starts a worker
(`step_starts`), ends one (`step_ends`) or leaves it alone; `step_goes` is about every step.

* `waits_iff`: `start_worker` drops the last sender of `config_rx`, so the branch of an empty
  `config_rx` completes at once and the loop spins.
* `paced_iff`: a start that succeeds resets the backoff, and a worker that gives up is dropped
  without a pause.
* `own_iff`: the readers of all workers feed one channel, and no event carries its worker.
-/
import Mathlib.Algebra.Group.Nat.Defs
import R3v3rs3.Server.Supervisor

namespace R3v3rs3.Server.Supervisor
open Theory Theory.Run
set_option autoImplicit false

variable (s : State)

/-- Whether an event ends a worker: a start that fails, an exit that the heartbeat notices, or a
worker that gives up. -/
def ends : Event → Bool
  | .top false => s.loop = .running ∧ s.atTop = true ∧ s.worker = none
  | .heartbeat true | .worker .fatal => s.loop = .running ∧ s.atTop = false ∧ s.worker ≠ none
  | _ => false

def starts (event : Event) : Prop :=
  event = .top true ∧ s.loop = .running ∧ s.atTop = true ∧ s.worker = none

/-- Whether an event completes an iteration of the loop. -/
def iterates (event : Event) : Bool :=
  s.loop = .running ∧ s.atTop = false ∧ (select s event).isSome

/-- What arrives with an event: a message or a tick, and the snapshot the loop asks for. -/
def arrivals : Event → Nat
  | .server event reply => if (receives s (.server event reply)).isSome then 2 else 1
  | .worker _ | .heartbeat _ => 1
  | _ => 0

/-- With nothing queued the branch of `config_rx` waits; the other branches wait by themselves. -/
def Waits : Prop := s.loop = .running → s.loopChannel.buffer = [] → select s .config = none

/-- The snapshots queued for a loop that goes on. -/
def queued : Nat := if s.loop = .running then s.loopChannel.buffer.length else 0

/-- The first `config_tx` lives until a worker starts. -/
def Linked : Prop := s.loopChannel.sender = decide (s.started = 0)

variable {s} {event : Event}

/-- What every step does: the worker, the sender, the loop and the queue. -/
structure Goes (s : State) (event : Event) (next : State) : Prop where
  worker : ends s event = false → ¬ starts s event →
    next.worker = s.worker ∧ next.backoff = s.backoff
  linked : Linked s → Linked next
  loop : next.loop = .running → s.loop = .running
  queue : Waits s → queued next + (iterates s event).toNat ≤ queued s + arrivals s event

theorem step_goes (s : State) (event : Event) : Goes s event (step s event) := by
  have once := Bool.toNat_le (iterates s event)
  cases event with
  | top started =>
    cases started <;> constructor <;> grind [ends, starts, step, spawnWorker, startWorker,
      Option.isNone_iff_eq_none, Channel.dropSender, Linked, queued, iterates, select]
  | server event reply =>
    simp only [step, select]
    cases event <;> cases reply <;> constructor <;> grind [stopOrRefresh, sendConfig, receives,
      → Channel.send_eq_sent, Linked, queued, arrivals]
  | heartbeat exited =>
    simp only [step, select]
    cases exited <;> constructor <;> grind [ends, heartbeatTick, sendIpc, Linked, queued, arrivals]
  | worker event =>
    simp only [step, select]
    cases event <;> constructor <;> grind [ends, handleWorkerEvent, Linked, queued, arrivals]
  | config =>
    simp only [step, select]
    constructor <;> grind [forwardConfig, sendIpc, → Channel.recv_eq_got, Channel.recv_eq_ended,
      Linked, Waits, queued, iterates, select]
  | write =>
    constructor <;> grind [step, writeNext, Linked, queued, iterates, select]

theorem step_starts (begins : starts s event) :
    (step s event).worker ≠ none ∧ (step s event).backoff = 1 := by
  obtain ⟨rfl, running, top, free⟩ := begins
  simp [step, running, top, free, spawnWorker, startWorker, firstBackoff]

/-- How long a step sleeps. -/
def sleeps (s : State) : Event → Nat
  | .top false | .heartbeat true => s.backoff
  | _ => 0

theorem step_ends (lost : ends s event = true) :
    (step s event).worker = none ∧ (event = .worker .fatal ∨
      (event = .top false ∧ s.worker = none ∨ event = .heartbeat true ∧ s.worker ≠ none) ∧
        sleeps s event = s.backoff ∧ (step s event).backoff = doubled s.backoff) := by
  unfold ends at lost
  split at lost
  · have active : s.loop = .running ∧ s.atTop = true ∧ s.worker = none := by simpa using lost
    simp [step, active, spawnWorker, sleeps]
  · have active : s.loop = .running ∧ s.atTop = false ∧ s.worker ≠ none := by simpa using lost
    obtain ⟨worker, known⟩ := Option.ne_none_iff_exists'.mp active.2.2
    simp [step, active.1, active.2.1, select, heartbeatTick, known, sleeps]
  · have active : s.loop = .running ∧ s.atTop = false ∧ s.worker ≠ none := by simpa using lost
    simp [step, active.1, active.2.1, select, handleWorkerEvent]
  · cases lost

/-! ## Waiting -/

/-- The sum of a measure over the steps of a run. -/
def total (measure : State → Event → Nat) : State → List Event → Nat
  | _, [] => 0
  | s, event :: rest => measure s event + total measure (step s event) rest

/-- The loop waits, and from any point on it iterates at most once for each snapshot queued there
and for each message or tick that arrives. -/
def WaitsIdle (events : List Event) : Prop :=
  Throughout step Waits initial events ∧ ∀ front back, events = front ++ back →
    total (fun s event => (iterates s event).toNat) (exec step initial front) back ≤
      queued (exec step initial front) + total arrivals (exec step initial front) back

/-- Once a worker has started, the loop channel still holds a snapshot. -/
def Fed (s : State) : Prop := s.loop = .running → s.started ≠ 0 → s.loopChannel.buffer ≠ []

theorem waits_iff_fed (linked : Linked s) : Waits s ↔ Fed s := by
  have idle (empty : s.loopChannel.buffer = []) : select s .config = none ↔ s.started = 0 := by
    grind [select, forwardConfig, → Channel.recv_eq_got, Channel.recv_eq_ended, Linked]
  unfold Waits Fed
  grind

theorem iterations_le {events : List Event} (waits : Throughout step Waits s events) :
    total (fun s event => (iterates s event).toNat) s events ≤
      queued s + total arrivals s events := by
  induction events generalizing s with
  | nil => exact Nat.zero_le _
  | cons event rest ih =>
    have here := (step_goes s event).queue waits.1
    have later := ih waits.2
    simp only [total]
    omega

/-- **The loop waits in exactly the runs in which it has a snapshot queued at every step after its
first worker started.** -/
theorem waits_iff (events : List Event) :
    WaitsIdle events ↔ Guarded step (fun s event => Fed (step s event)) initial events := by
  have linked : Linked initial := rfl
  rw [← throughout_iff_guarded (fun s event => (step_goes s event).linked)
    (fun s event linked _ => waits_iff_fed ((step_goes s event).linked linked)) linked
    ((waits_iff_fed linked).mpr fun _ started => absurd rfl started)]
  refine ⟨And.left, fun waits => ⟨waits, fun front back split => ?_⟩⟩
  exact iterations_le (split ▸ waits).suffix

/-- A first worker starts, and the loop iterates with nothing arriving. -/
theorem first_worker_spins :
    ¬ WaitsIdle [.top true, .config, .top true, .config] ∧
      total (fun s event => (iterates s event).toNat) initial
        [.top true, .config, .top true, .config] = 2 ∧
      total arrivals initial [.top true, .config, .top true, .config] = 0 := by
  refine ⟨fun waits => ?_, by decide, by decide⟩
  exact absurd (waits.2 [] _ rfl) (by decide)

/-! ## How long the supervisor waits before the next worker -/

/-- The supervisor and the number of workers that ended. -/
def count (paced : State × Nat) (event : Event) : State × Nat :=
  (step paced.1 event, paced.2 + (ends paced.1 event).toNat)

/-- The pause after the end of a worker doubles with each one up to `MAX_BACKOFF`.  An exit may be
noticed at once, so only the sleep counts. -/
def Paced (paced : State × Nat) (event : Event) : Prop :=
  ends paced.1 event = true → min (2 ^ paced.2) 60 ≤ sleeps paced.1 event

/-- Only starts fail, after a first worker that may exit. -/
def FailsToStart (paced : State × Nat) (event : Event) : Prop :=
  ends paced.1 event = true → event = .top false ∨ event = .heartbeat true ∧ paced.2 = 0

/-- The backoff in the runs that keep the pace. -/
structure Backoff (paced : State × Nat) : Prop where
  free : paced.1.worker = none → paced.1.backoff = min (2 ^ paced.2) 60
  taken : paced.1.worker ≠ none → paced.1.backoff = 1

theorem failsToStart_iff (paced : State × Nat) (event : Event) (backoff : Backoff paced) :
    Paced paced event ↔ FailsToStart paced event := by
  refine imp_congr_right fun lost => ?_
  obtain ⟨-, rfl | ⟨⟨rfl, free⟩ | ⟨rfl, taken⟩, sleep, -⟩⟩ := step_ends lost
  · simp [sleeps]
  · simp [sleep, backoff.free free]
  · have first : min (2 ^ paced.2) 60 ≤ 1 ↔ paced.2 = 0 := by
      rcases paced.2 with _ | k
      · simp
      · have := Nat.one_le_two_pow (n := k)
        omega
    simp [sleep, backoff.taken taken, first]

theorem backoff_step (paced : State × Nat) (event : Event) (backoff : Backoff paced)
    (fails : FailsToStart paced event) : Backoff (count paced event) := by
  obtain ⟨s, k⟩ := paced
  obtain ⟨free, taken⟩ := backoff
  by_cases lost : ends s event = true
  · have doubles : doubled (min (2 ^ k) 60) = min (2 ^ (k + 1)) 60 := by
      unfold doubled maxBackoff
      omega
    have first := fails lost
    obtain ⟨none, last⟩ := step_ends lost
    constructor <;> grind [count]
  · by_cases begins : starts s event
    · obtain ⟨some, first⟩ := step_starts begins
      exact ⟨fun none => absurd none some, fun _ => first⟩
    · have kept := (step_goes s event).worker (Bool.eq_false_iff.mpr lost) begins
      constructor <;> grind [count]

/-- **The restarts are paced in exactly the runs in which workers end only by failing to start,
the first of them by an exit at most.** -/
theorem paced_iff (events : List Event) :
    Guarded count Paced (initial, 0) events ↔ Guarded count FailsToStart (initial, 0) events :=
  guarded_congr backoff_step failsToStart_iff ⟨fun _ => rfl, fun taken => absurd rfl taken⟩

/-- A worker that gives up is followed by the next one at once. -/
theorem fatal_not_paced :
    ¬ Guarded count Paced (initial, 0) [.top true, .worker .fatal, .top true] := by
  rintro ⟨-, paced, -⟩
  exact absurd (paced rfl) (by decide)

/-! ## Whose events arrive -/

/-- The supervisor and the events that its workers sent and it has not handled: a reader thread
may hold an event back for any time. -/
structure Delivery where
  supervisor : State
  underWay : List (Nat × WorkerEvent)

inductive Happening where
  /-- A step of the supervisor that handles no worker event. -/
  | supervisor (event : Event)
  /-- The current worker sends an event. -/
  | sends (event : WorkerEvent)
  /-- The first event under way from a worker reaches the select. -/
  | arrives (worker : Nat)

variable (d : Delivery)

/-- The step of the supervisor in a happening, and what is under way after it. -/
def handled : Happening → Option Event × List (Nat × WorkerEvent)
  | .supervisor (.worker _) => (none, d.underWay)
  | .supervisor event => (some event, d.underWay)
  | .sends event =>
    (none, d.underWay ++ d.supervisor.worker.toList.map fun worker => (worker, event))
  | .arrives worker =>
    if d.supervisor.loop = .running ∧ d.supervisor.atTop = false then
      match d.underWay.find? (·.1 = worker) with
      | some sent => (some (.worker sent.2), d.underWay.erase sent)
      | none => (none, d.underWay)
    else (none, d.underWay)

def deliver (happening : Happening) : Delivery :=
  let (event, underWay) := handled d happening
  { supervisor := (event.map (step d.supervisor)).getD d.supervisor, underWay := underWay }

/-- The events that act on a worker. -/
def acts : WorkerEvent → Bool
  | .fatal | .status => true
  | .serverEvent | .pong => false

/-- The events that act on a worker and may arrive now are those of the current worker. -/
def Own : Prop :=
  d.supervisor.loop = .running → ∀ sent ∈ d.underWay, acts sent.2 = true →
    d.supervisor.worker = some sent.1

/-- The end of a worker leaves none of its events under way that act on a worker. -/
def Drained (happening : Happening) : Prop :=
  ∀ event, (handled d happening).1 = some event → ends d.supervisor event = true →
    (deliver d happening).supervisor.loop = .running →
    ∀ sent ∈ (deliver d happening).underWay, acts sent.2 = false

variable {d} {happening : Happening}

theorem mem_deliver {sent : Nat × WorkerEvent} (member : sent ∈ (deliver d happening).underWay) :
    sent ∈ d.underWay ∨ ((handled d happening).1 = none ∧ d.supervisor.worker = some sent.1) := by
  simp only [deliver] at member
  cases happening with
  | supervisor event => cases event <;> exact Or.inl member
  | sends =>
    rcases List.mem_append.mp member with before | now
    · exact Or.inl before
    · obtain ⟨worker, known, rfl⟩ := List.mem_map.mp now
      exact Or.inr ⟨rfl, Option.mem_toList.mp known⟩
  | arrives =>
    left
    simp only [handled] at member
    split at member
    · split at member
      · exact List.mem_of_mem_erase member
      · exact member
    · exact member

theorem own_step (own : Own d) : Own (deliver d happening) ↔ Drained d happening := by
  cases known : (handled d happening).1 with
  | none =>
    have still : (deliver d happening).supervisor = d.supervisor := by simp [deliver, known]
    refine iff_of_true (fun running sent member acting => ?_) (by simp [Drained, known])
    rw [still] at running ⊢
    rcases mem_deliver member with before | ⟨-, current⟩
    · exact own running sent before acting
    · exact current
  | some event =>
    have moves : (deliver d happening).supervisor = step d.supervisor event := by
      simp [deliver, known]
    have before {sent} (member : sent ∈ (deliver d happening).underWay) : sent ∈ d.underWay := by
      simpa [known] using mem_deliver member
    by_cases lost : ends d.supervisor event = true
    · simp [Own, Drained, moves, known, lost, (step_ends lost).1]
    · refine iff_of_true (fun running sent member acting => ?_) (by simp [Drained, known, lost])
      rw [moves] at running ⊢
      by_cases begins : starts d.supervisor event
      · have taken := own begins.2.1 sent (before member) acting
        cases begins.2.2.2.symm.trans taken
      · have goes := step_goes d.supervisor event
        rw [(goes.worker (Bool.eq_false_iff.mpr lost) begins).1]
        exact own (goes.loop running) sent (before member) acting

/-- **Only events of the current worker can act on it in exactly the runs in which every worker
ends with none of its events under way.** -/
theorem own_iff (happenings : List Happening) :
    Throughout deliver Own ⟨initial, []⟩ happenings ↔
      Guarded deliver Drained ⟨initial, []⟩ happenings :=
  throughout_iff_guarded (fun _ _ (_ : True) => trivial) (fun _ _ _ own => own_step own) trivial
    (fun _ _ member => nomatch member)

/-- A worker says that it gives up and exits; the heartbeat notices the exit first, the next worker
starts, and what the first one said drops it. -/
theorem stale_fatal_drops_next :
    ¬ Throughout deliver Own ⟨initial, []⟩
      [.supervisor (.top true), .sends .fatal, .supervisor (.heartbeat true)] ∧
    (exec deliver ⟨initial, []⟩ [.supervisor (.top true), .sends .fatal,
      .supervisor (.heartbeat true), .supervisor (.top true)]).supervisor.worker = some 1 ∧
    (exec deliver ⟨initial, []⟩ [.supervisor (.top true), .sends .fatal,
      .supervisor (.heartbeat true), .supervisor (.top true),
      .arrives 0]).supervisor.worker = none := by
  refine ⟨fun own => ?_, by decide, by decide⟩
  have stale := own.last rfl (0, .fatal) (by decide) rfl
  cases stale

end R3v3rs3.Server.Supervisor
