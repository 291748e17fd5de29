/-
# R3v3rs3.Server.Supervisor -- the supervisor of the worker process

The select loop of `supervise`, one event a step: at the top of the loop a missing worker is
started, then one branch of the select runs.  The writer thread of the current worker, which
takes messages from the IPC channel and writes them to the worker, steps on its own.

A configuration snapshot is named by its number: snapshot 0 is the one `run` asked for, and each
state change takes the next.  The snapshot that a state change takes is sent on `config_tx`.
Before the first worker that is the sender of the channel the loop reads; `start_worker` replaces
it with the sender of a new channel whose receiver is dropped on return.  So a snapshot taken
while a worker runs is never written to any worker (`never_written`), and every worker is handed
snapshot 0.

`configReaches_iff` states the two promises of the supervisor over infinite runs and the runs
that keep them.
-/
import R3v3rs3.Theory.Channel
import R3v3rs3.Theory.Run

namespace R3v3rs3.Server.Supervisor
open Theory
open Theory.Run
set_option autoImplicit false

/-- A `WorkerConfig`, by the number of the snapshot it is. -/
abbrev Snapshot := Nat

inductive WorkerCommand where
  | ping
  | status
  deriving DecidableEq

inductive IpcMessage where
  | command (command : WorkerCommand)
  | config (snapshot : Snapshot)

inductive WorkerEvent where
  | fatal
  | serverEvent
  | status
  | pong
  deriving DecidableEq

/-- What the receiver of the server events returns; every event but `Shutdown` counts as a
change of the state. -/
inductive BusEvent where
  | shutdown
  | change
  | lagged
  | closed
  deriving DecidableEq

/-- How the server answers the request for a snapshot. -/
inductive Reply where
  | snapshot
  /-- The reply channel is dropped without a snapshot. -/
  | dropped
  /-- The server is gone, and the supervisor with it. -/
  | gone
  deriving DecidableEq

inductive Loop where
  | running
  /-- The supervisor returned. -/
  | stopped
  /-- The loop waits in a send that nothing can complete. -/
  | blocked
  deriving DecidableEq

def firstBackoff : Nat := 1

def maxBackoff : Nat := 60

structure State where
  worker : Option Nat
  started : Nat
  /-- The `config` argument of `supervise`. -/
  config : Snapshot
  /-- The number of the last snapshot taken. -/
  latest : Snapshot
  backoff : Nat
  awaitingStatus : Bool
  /-- The channel of `config_rx`; the first `config_tx` is its sender. -/
  loopChannel : Channel Snapshot
  /-- The channel of `config_tx` once a worker has started. -/
  sessionChannel : Option (Channel Snapshot)
  /-- The channel of `ipc_tx`. -/
  ipc : Channel IpcMessage
  /-- Whether the loop is at its top. -/
  atTop : Bool
  loop : Loop

def initial : State where
  worker := none
  started := 0
  config := 0
  latest := 0
  backoff := firstBackoff
  awaitingStatus := false
  loopChannel := Channel.new 1
  sessionChannel := none
  ipc := Channel.new 16
  atTop := true
  loop := .running

/-! ## The branches -/

variable (s : State) {done : State → Bool → State} {written : Snapshot} {n : Nat}

/-- `start_worker`: the receiver of the new configuration channel ends with the closure that
made it. -/
def startWorker : State :=
  { s with
    worker := some s.started
    started := s.started + 1
    backoff := firstBackoff
    loopChannel := s.loopChannel.dropSender
    sessionChannel := some (Channel.new 1).dropReceiver
    ipc := Channel.new 16 }

def doubled (backoff : Nat) : Nat := min (backoff * 2) maxBackoff

/-- `spawn_worker`, when no worker runs. -/
def spawnWorker (success : Bool) : State :=
  if success then startWorker s else { s with backoff := doubled s.backoff }

/-- `config_tx.send(config).await`. -/
def sendConfig (snapshot : Snapshot) : State :=
  match s.sessionChannel with
  | some channel =>
    match channel.send snapshot with
    | .sent next => { s with sessionChannel := some next }
    | .closed => s
    | .full => { s with loop := .blocked }
  | none =>
    match s.loopChannel.send snapshot with
    | .sent next => { s with loopChannel := next }
    | .closed => s
    -- Only this loop reads the channel.
    | .full => { s with loop := .blocked }

def stopOrRefresh (event : BusEvent) (reply : Reply) : State :=
  match event with
  | .shutdown | .closed => { s with loop := .stopped }
  | .lagged => s
  | .change =>
    match reply with
    | .gone => { s with loop := .stopped }
    | .dropped => s
    | .snapshot => sendConfig { s with latest := s.latest + 1 } (s.latest + 1)

/-- `ipc_tx.send(message).await`, then `done` with whether it was sent.  `none` waits: a full
channel of a session for its writer.  The first channel has no writer. -/
def sendIpc (message : IpcMessage) (done : State → Bool → State) : Option State :=
  match s.ipc.send message with
  | .sent next => some (done { s with ipc := next } true)
  | .closed => some (done s false)
  | .full => if s.sessionChannel.isSome then none else some { s with loop := .blocked }

/-- `heartbeat_tick` with `restart_dead_worker`. -/
def heartbeatTick (exited : Bool) : Option State :=
  match s.worker with
  | none => sendIpc s (.command .ping) (fun next _ => next)
  | some _ =>
    if exited then
      some { s with worker := none, awaitingStatus := false, backoff := doubled s.backoff }
    else sendIpc s (.command .status) (fun next ok => { next with awaitingStatus := ok })

def handleWorkerEvent : WorkerEvent → State
  | .fatal => { s with worker := none }
  | .status => { s with awaitingStatus := false }
  | .serverEvent | .pong => s

/-- The branch of `config_rx.recv()`. -/
def forwardConfig : Option State :=
  match s.loopChannel.recv with
  | .got snapshot next =>
    sendIpc s (.config snapshot) (fun after _ => { after with loopChannel := next })
  | .ended => some s
  | .pending => none

/-- The writer thread of the current session takes one message and writes it. -/
def writeNext (success : Bool) : State :=
  if s.sessionChannel.isSome then
    match s.ipc.recv with
    | .got _ next => { s with ipc := if success then next else next.dropReceiver }
    | .ended | .pending => s
  else s

/-! ## Steps -/

inductive Event where
  /-- The top of the loop; `started` says whether a start that is tried succeeds. -/
  | top (started : Bool)
  | server (event : BusEvent) (reply : Reply)
  | heartbeat (exited : Bool)
  | worker (event : WorkerEvent)
  | config
  | write (success : Bool)

/-- A branch of the select; `none` when it cannot complete yet. -/
def select : Event → Option State
  | .server event reply => some (stopOrRefresh s event reply)
  | .heartbeat exited => heartbeatTick s exited
  | .worker event => some (handleWorkerEvent s event)
  | .config => forwardConfig s
  | .top _ | .write _ => none

def step (event : Event) : State :=
  match event with
  | .write success => writeNext s success
  | .top started =>
    if s.loop = .running ∧ s.atTop then
      { (if s.worker.isNone then spawnWorker s started else s) with atTop := false }
    else s
  | other =>
    if s.loop = .running ∧ s.atTop = false then
      match select s other with
      | some next => { next with atTop := true }
      | none => s
    else s

/-! ## The promises -/

/-- The snapshot that an event takes for a change of the state. -/
def receives : Event → Option Snapshot
  | .server .change .snapshot =>
    if s.loop = .running ∧ s.atTop = false then some (s.latest + 1) else none
  | _ => none

/-- The snapshot that the writer writes to the current worker as `WorkerCommand::Config`. -/
def writes : Event → Option Snapshot
  | .write true =>
    if s.sessionChannel.isSome ∧ s.worker.isSome then
      match s.ipc.recv with
      | .got (.config snapshot) _ => some snapshot
      | _ => none
    else none
  | _ => none

/-- The snapshot that a worker is handed at its start. -/
def hands : Event → Option Snapshot
  | .top true =>
    if s.loop = .running ∧ s.atTop = true ∧ s.worker = none then some s.config else none
  | _ => none

/-- The state of a run before its `n`-th event. -/
def stateAt (events : Nat → Event) (n : Nat) : State := trajectory step initial events n

/-- **The configuration reaches the worker.** -/
structure ConfigReaches (events : Nat → Event) : Prop where
  /-- The snapshot taken for a change while a worker runs, or a later one, is written to the
  worker of the time. -/
  delivered : ∀ n snapshot, receives (stateAt events n) (events n) = some snapshot →
    (stateAt events n).worker.isSome → ∃ m ≥ n, ∃ written ≥ snapshot,
      writes (stateAt events m) (events m) = some written
  /-- A worker is handed the latest snapshot taken before its start. -/
  fresh : ∀ n snapshot, hands (stateAt events n) (events n) = some snapshot →
    snapshot = (stateAt events n).latest

/-- The condition on one step: no change arrives while a worker runs, and no worker starts after
a change. -/
def Quiet (event : Event) : Prop :=
  ((receives s event).isSome → s.worker = none) ∧ ((hands s event).isSome → s.latest = 0)

/-! ## What a step does to the snapshots under way -/

/-- Once a worker has started, `config_tx` has no receiver. -/
structure Detached (s : State) : Prop where
  session : s.worker.isSome → s.sessionChannel.isSome
  closed : ∀ channel, s.sessionChannel = some channel → channel.receiver = false

/-- Where the snapshots in the channels come from: the loop channel is written only before the
first worker, the IPC channel only from the loop channel. -/
structure Flow (s next : State) : Prop where
  loop : ∀ snapshot ∈ next.loopChannel.buffer, snapshot ∈ s.loopChannel.buffer ∨
    (s.sessionChannel = none ∧ snapshot = next.latest)
  ipc : ∀ snapshot, IpcMessage.config snapshot ∈ next.ipc.buffer →
    IpcMessage.config snapshot ∈ s.ipc.buffer ∨ snapshot ∈ s.loopChannel.buffer
  session : next.sessionChannel = s.sessionChannel ∨
    next.sessionChannel = some (Channel.new 1).dropReceiver
  worker : next.worker.isSome → s.worker.isSome ∨ next.sessionChannel.isSome
  latest : s.latest ≤ next.latest
  config : next.config = s.config

/-- A step that leaves the channels alone. -/
theorem Flow.of_kept {s next : State} (loop : next.loopChannel = s.loopChannel)
    (ipc : next.ipc = s.ipc) (session : next.sessionChannel = s.sessionChannel)
    (worker : next.worker.isSome → s.worker.isSome) (latest : s.latest ≤ next.latest)
    (config : next.config = s.config) : Flow s next :=
  ⟨fun _ member => Or.inl (loop ▸ member), fun _ member => Or.inl (ipc ▸ member),
    Or.inl session, fun running => Or.inl (worker running), latest, config⟩

theorem Detached.next {s next : State} (detached : Detached s) (flow : Flow s next) :
    Detached next := by
  constructor
  · intro running
    rcases flow.worker running with before | now
    · rcases flow.session with same | new
      · rw [same]
        exact detached.session before
      · simp [new]
    · exact now
  · intro channel known
    rcases flow.session with same | new
    · exact detached.closed channel (same ▸ known)
    · rw [new, Option.some.injEq] at known
      rw [← known]
      rfl

theorem sendIpc_cases {s next : State} {message : IpcMessage}
    (sent : sendIpc s message done = some next) : next = { s with loop := .blocked } ∨
      ∃ (ipc : Channel IpcMessage) (ok : Bool), next = done { s with ipc := ipc } ok ∧
        ∀ queued ∈ ipc.buffer, queued ∈ s.ipc.buffer ∨ queued = message := by
  unfold sendIpc at sent
  split at sent
  · rename_i channel accepted
    cases sent
    refine Or.inr ⟨channel, true, rfl, fun queued member => ?_⟩
    rwa [(Channel.send_eq_sent accepted).1, List.mem_append, List.mem_singleton] at member
  · cases sent
    exact Or.inr ⟨s.ipc, false, rfl, fun _ => Or.inl⟩
  · split at sent
    · cases sent
    · cases sent
      exact Or.inl rfl

/-- A command for the worker carries no snapshot. -/
theorem sendCommand_flow {s next : State} {command : WorkerCommand}
    (keeps : ∀ ipc ok, done { s with ipc := ipc } ok =
      { s with ipc := ipc, awaitingStatus := (done { s with ipc := ipc } ok).awaitingStatus })
    (sent : sendIpc s (.command command) done = some next) : Flow s next := by
  rcases sendIpc_cases sent with rfl | ⟨ipc, ok, rfl, queue⟩
  · exact .of_kept rfl rfl rfl id (Nat.le_refl _) rfl
  · rw [keeps]
    refine ⟨fun _ => Or.inl, fun snapshot member => ?_, Or.inl rfl, Or.inl, Nat.le_refl _, rfl⟩
    rcases queue _ member with queued | same
    · exact Or.inl queued
    · cases same

theorem sendConfig_flow {s : State} (detached : Detached s) :
    Flow s (sendConfig { s with latest := s.latest + 1 } (s.latest + 1)) := by
  unfold sendConfig
  have grows : s.latest ≤ s.latest + 1 := Nat.le_succ _
  split
  · rename_i channel known
    rw [Channel.send, if_pos (detached.closed channel known)]
    exact .of_kept rfl rfl rfl id grows rfl
  · rename_i first
    split
    · rename_i next accepted
      refine ⟨fun snapshot member => ?_, fun _ => Or.inl, Or.inl rfl, Or.inl, grows, rfl⟩
      rw [(Channel.send_eq_sent accepted).1, List.mem_append, List.mem_singleton] at member
      rcases member with queued | same
      · exact Or.inl queued
      · exact Or.inr ⟨first, same⟩
    · exact .of_kept rfl rfl rfl id grows rfl
    · exact .of_kept rfl rfl rfl id grows rfl

theorem stopOrRefresh_flow {s : State} (detached : Detached s) (event : BusEvent)
    (reply : Reply) : Flow s (stopOrRefresh s event reply) := by
  cases event with
  | shutdown | closed | lagged => exact .of_kept rfl rfl rfl id (Nat.le_refl _) rfl
  | change =>
    cases reply with
    | gone | dropped => exact .of_kept rfl rfl rfl id (Nat.le_refl _) rfl
    | snapshot => exact sendConfig_flow detached

theorem heartbeatTick_flow {s next : State} {exited : Bool}
    (ticked : heartbeatTick s exited = some next) : Flow s next := by
  unfold heartbeatTick at ticked
  split at ticked
  · exact sendCommand_flow (fun _ _ => rfl) ticked
  · split at ticked
    · cases ticked
      exact .of_kept rfl rfl rfl (fun running => by cases running) (Nat.le_refl _) rfl
    · exact sendCommand_flow (fun _ _ => rfl) ticked

theorem forwardConfig_flow {s next : State} (forwarded : forwardConfig s = some next) :
    Flow s next := by
  unfold forwardConfig at forwarded
  split at forwarded
  · rename_i snapshot channel received
    have head := (Channel.recv_eq_got received).1
    rcases sendIpc_cases forwarded with rfl | ⟨ipc, ok, rfl, queue⟩
    · exact .of_kept rfl rfl rfl id (Nat.le_refl _) rfl
    · refine ⟨fun other member => ?_, fun other member => ?_, Or.inl rfl, Or.inl,
        Nat.le_refl _, rfl⟩
      · exact Or.inl (head ▸ List.mem_cons_of_mem _ member)
      · rcases queue _ member with queued | same
        · exact Or.inl queued
        · cases same
          exact Or.inr (by simp [head])
  · cases forwarded
    exact .of_kept rfl rfl rfl id (Nat.le_refl _) rfl
  · cases forwarded

variable {event : Event} {snapshot : Snapshot} {events : Nat → Event}

theorem select_flow {s next : State} (detached : Detached s)
    (selected : select s event = some next) : Flow s next := by
  cases event with
  | server event reply =>
    cases selected
    exact stopOrRefresh_flow detached event reply
  | heartbeat => exact heartbeatTick_flow selected
  | worker event =>
    cases selected
    cases event with
    | fatal =>
      exact .of_kept rfl rfl rfl (fun running => by cases running) (Nat.le_refl _) rfl
    | serverEvent | status | pong => exact .of_kept rfl rfl rfl id (Nat.le_refl _) rfl
  | config => exact forwardConfig_flow selected
  | top | write => cases selected

theorem startWorker_flow : Flow s (startWorker s) :=
  ⟨fun _ => Or.inl, fun _ member => by simp [startWorker] at member, Or.inr rfl,
    fun _ => Or.inr rfl, Nat.le_refl _, rfl⟩

theorem writeNext_flow (success : Bool) : Flow s (writeNext s success) := by
  unfold writeNext
  split
  · split
    · rename_i message channel received
      have head := (Channel.recv_eq_got received).1
      refine ⟨fun _ => Or.inl, fun snapshot member => Or.inl ?_, Or.inl rfl, Or.inl,
        Nat.le_refl _, rfl⟩
      cases success with
      | true => exact head ▸ List.mem_cons_of_mem _ member
      | false => simp [Channel.dropReceiver] at member
    · exact .of_kept rfl rfl rfl id (Nat.le_refl _) rfl
    · exact .of_kept rfl rfl rfl id (Nat.le_refl _) rfl
  · exact .of_kept rfl rfl rfl id (Nat.le_refl _) rfl

/-- Returning to the top or leaving it does not matter to the channels. -/
theorem Flow.atTop {s next : State} (flow : Flow s next) (atTop : Bool) :
    Flow s { next with atTop := atTop } :=
  ⟨flow.loop, flow.ipc, flow.session, flow.worker, flow.latest, flow.config⟩

theorem step_flow {s : State} (detached : Detached s) (event : Event) :
    Flow s (step s event) := by
  have kept : Flow s s := .of_kept rfl rfl rfl id (Nat.le_refl _) rfl
  have branch : Flow s (if s.loop = .running ∧ s.atTop = false then
      match select s event with
      | some next => { next with atTop := true }
      | none => s
      else s) := by
    split
    · split
      · rename_i next selected
        exact (select_flow detached selected).atTop true
      · exact kept
    · exact kept
  cases event with
  | write success => exact writeNext_flow s success
  | top started =>
    simp only [step]
    split
    · refine Flow.atTop ?_ false
      split
      · cases started with
        | true => exact startWorker_flow s
        | false => exact .of_kept rfl rfl rfl id (Nat.le_refl _) rfl
      · exact kept
    · exact kept
  | server | heartbeat | worker | config => exact branch

/-! ## Whole runs -/

/-- What holds in every state: `config` is the first snapshot, the channels hold snapshots that
were taken. -/
structure Known (s : State) : Prop where
  detached : Detached s
  loop : ∀ snapshot ∈ s.loopChannel.buffer, snapshot ≤ s.latest
  ipc : ∀ snapshot, IpcMessage.config snapshot ∈ s.ipc.buffer → snapshot ≤ s.latest
  config : s.config = 0

theorem known_step (event : Event) (known : Known s) : Known (step s event) := by
  have flow := step_flow known.detached event
  refine ⟨known.detached.next flow, fun snapshot member => ?_, fun snapshot member => ?_,
    flow.config.trans known.config⟩
  · rcases flow.loop snapshot member with before | ⟨-, same⟩
    · exact Nat.le_trans (known.loop snapshot before) flow.latest
    · exact Nat.le_of_eq same
  · rcases flow.ipc snapshot member with before | moved
    · exact Nat.le_trans (known.ipc snapshot before) flow.latest
    · exact Nat.le_trans (known.loop snapshot moved) flow.latest

theorem known_initial : Known initial := by
  refine ⟨⟨?_, ?_⟩, ?_, ?_, rfl⟩ <;> simp [initial]

theorem known_at (events : Nat → Event) (n : Nat) : Known (stateAt events n) := by
  have start : Known (stateAt events 0) := known_initial
  exact trajectory_stays known_step start (Nat.zero_le n)

/-- A snapshot that is not under way once a worker has started never will be. -/
structure Lost (snapshot : Snapshot) (s : State) : Prop where
  detached : Detached s
  session : s.sessionChannel.isSome
  loop : ∀ other ∈ s.loopChannel.buffer, other < snapshot
  ipc : ∀ other, IpcMessage.config other ∈ s.ipc.buffer → other < snapshot

theorem lost_step (snapshot : Snapshot) (s : State) (event : Event) (lost : Lost snapshot s) :
    Lost snapshot (step s event) := by
  have flow := step_flow lost.detached event
  refine ⟨lost.detached.next flow, ?_, fun other member => ?_, fun other member => ?_⟩
  · rcases flow.session with same | new
    · exact same ▸ lost.session
    · simp [new]
  · rcases flow.loop other member with before | ⟨first, -⟩
    · exact lost.loop other before
    · exact absurd lost.session (by simp [first])
  · rcases flow.ipc other member with before | moved
    · exact lost.ipc other before
    · exact lost.loop other moved

theorem Lost.not_written {s : State} (lost : Lost snapshot s)
    (writing : writes s event = some written) : written < snapshot := by
  cases event with
  | write success =>
    cases success with
    | false => cases writing
    | true =>
      simp only [writes] at writing
      split at writing
      · split at writing
        · rename_i other channel received
          obtain rfl := Option.some.inj writing
          exact lost.ipc _ (by simp [(Channel.recv_eq_got received).1])
        · cases writing
      · cases writing
  | _ => cases writing

theorem receives_eq {s : State} (received : receives s event = some snapshot) :
    snapshot = s.latest + 1 := by
  unfold receives at received
  split at received
  · split at received
    · exact (Option.some.inj received).symm
    · cases received
  · cases received

/-- **A snapshot taken while a worker runs is never written**, and neither is any later one. -/
theorem never_written (received : receives (stateAt events n) (events n) = some snapshot)
    (running : (stateAt events n).worker.isSome) {m : Nat} (later : n ≤ m)
    (writing : writes (stateAt events m) (events m) = some written) : written < snapshot := by
  have known := known_at events n
  have lost : Lost snapshot (stateAt events n) := by
    rw [receives_eq received]
    exact ⟨known.detached, known.detached.session running,
      fun other member => Nat.lt_succ_of_le (known.loop other member),
      fun other member => Nat.lt_succ_of_le (known.ipc other member)⟩
  exact (trajectory_stays (lost_step snapshot) lost later).not_written writing

/-- Every worker is handed the first snapshot. -/
theorem hands_first (handed : hands (stateAt events n) (events n) = some snapshot) :
    snapshot = 0 := by
  unfold hands at handed
  split at handed
  · split at handed
    · rw [← Option.some.inj handed, (known_at events n).config]
    · cases handed
  · cases handed

/-- **The configuration reaches the worker in exactly the runs in which no change arrives while
a worker runs and no worker starts after a change.** -/
theorem configReaches_iff (events : Nat → Event) :
    ConfigReaches events ↔ ∀ n, Quiet (stateAt events n) (events n) := by
  constructor
  · intro reaches n
    constructor
    · intro received
      obtain ⟨snapshot, taken⟩ := Option.isSome_iff_exists.mp received
      by_contra running
      have live := Option.isSome_iff_ne_none.mpr running
      obtain ⟨m, later, written, newer, writing⟩ := reaches.delivered n snapshot taken live
      exact absurd (never_written taken live later writing) (Nat.not_lt.mpr newer)
    · intro handed
      obtain ⟨snapshot, given⟩ := Option.isSome_iff_exists.mp handed
      rw [← reaches.fresh n snapshot given, hands_first given]
  · intro quiet
    constructor
    · intro n snapshot taken running
      have absent := (quiet n).1 (Option.isSome_iff_exists.mpr ⟨snapshot, taken⟩)
      simp [absent] at running
    · intro n snapshot given
      rw [(quiet n).2 (Option.isSome_iff_exists.mpr ⟨snapshot, given⟩), hands_first given]

/-- A worker starts, a change arrives, and the loop goes on with heartbeats, its writer writing
whatever it gets. -/
def changedOnce : Nat → Event
  | 0 => .top true
  | 1 => .server .change .snapshot
  | n + 2 =>
    match n % 3 with
    | 0 => .top true
    | 1 => .heartbeat false
    | _ => .write true

/-- The snapshot of the change never reaches the worker. -/
theorem changedOnce_not_reached : ¬ ConfigReaches changedOnce := by
  intro reaches
  have taken : receives (stateAt changedOnce 1) (changedOnce 1) = some 1 := by decide
  have running : (stateAt changedOnce 1).worker.isSome := by decide
  obtain ⟨m, later, written, newer, writing⟩ := reaches.delivered 1 1 taken running
  exact absurd (never_written taken running later writing) (Nat.not_lt.mpr newer)

end R3v3rs3.Server.Supervisor
