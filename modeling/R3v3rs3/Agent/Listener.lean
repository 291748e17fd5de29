/-
# R3v3rs3.Agent.Listener -- whether a revoked agent is cut off

An agent connection looks its certificate up, pings the agent, looks the certificate up again and
then enters the registry.  An enrollment and the deletion of a target first change the stored
fingerprint and then close the session in the registry.  Each of these accesses is a step of its
own, on any number of threads; a deletion ends early when its client goes away.

`revoked_agents_are_cut_off` says when a revocation that returned keeps its promise.  A session
enters the registry with a certificate that is still stored, or before the first revocation that
returns has closed the session of the target.  A later revocation changes the row only while the
agent of the target is away: between its statement and its close the registry holds a session whose
fingerprint is no longer stored.
-/
import R3v3rs3.Agent.Registry
import R3v3rs3.Theory.Threads

namespace R3v3rs3.Agent.Listener
open Api Theory Theory.Threads
open Theory.Run (exec Guarded Throughout)
set_option autoImplicit false

structure Shared where
  targets : Targets
  /-- The targets of the stored apps. -/
  apps : List ShortId
  registry : AgentRegistry
  /-- The targets that a deletion, or an enrollment in place of another one, returned for.  No step
  looks at it. -/
  returned : List ShortId

inductive Task where
  /-- `session`, before the certificate is looked up. -/
  | connected (certificate : String)
  | pinging (certificate : String) (target : ShortId)
  /-- The agent answered; the certificate is looked up again. -/
  | checking (certificate : String) (target : ShortId) (version : String)
  /-- `insert`, before the generation is drawn. -/
  | inserting (certificate : String) (target : ShortId) (version : String)
  /-- `insert`, before the session is in the map. -/
  | numbered (certificate : String) (target : ShortId) (version : String) (generation : Nat)
  | recording (target : ShortId) (generation now : Nat)
  | greeting (target : ShortId) (generation now : Nat)
  | beating (target : ShortId) (generation : Nat)
  /-- The heartbeat ended; the session is still in the map. -/
  | leaving (target : ShortId) (generation : Nat)
  | parting (target : ShortId) (now : Nat)
  /-- `enroll`, before the token is looked up. -/
  | enrolling (tokenHash : String)
  | signing (target : ShortId) (tokenHash : String)
  /-- The fingerprint is stored in place of `replaced`; the session is not closed yet. -/
  | enrolled (target : ShortId) (replaced : Option String)
  | answering (target : ShortId) (replaced : Option String)
  /-- `delete_target`, before the target is read. -/
  | deleting (target : ShortId)
  | inUse (target : ShortId)
  | erasing (target : ShortId)
  /-- The row is deleted with its fingerprint `replaced`; the session is not closed yet. -/
  | erased (target : ShortId) (replaced : Option String)
  | closing (target : ShortId)

inductive Call where
  /-- A connection with a client certificate of the agent CA. -/
  | connect (certificate : String)
  /-- A connection without one. -/
  | enroll (tokenHash : String)
  | deleteTarget (target : ShortId)
  | addTarget (target : ShortId) (name tokenHash : String) (now : Nat)
  | newTargetToken (target : ShortId) (tokenHash : String)
  | addApp (target : ShortId)
  | deleteApp (target : ShortId)

inductive Input where
  | go (now : Nat)
  | ponged (version : String) (now : Nat)
  /-- The fingerprint of the certificate that was signed for the request. -/
  | signed (fingerprint : String)
  | failed
  /-- The client of the request went away. -/
  | dropped

variable (shared : Shared)

namespace Shared

def goto (task : Task) : Shared × Option Task := (shared, some task)

def finish : Shared × Option Task := (shared, none)

def abort (shared : Shared) (link : Nat) : Shared :=
  { shared with registry := shared.registry.abort link }

/-- The session of the target is closed. -/
def disconnect (shared : Shared) (target : ShortId) : Shared :=
  { shared with registry := shared.registry.disconnect target }

def report (target : ShortId) : Shared :=
  { shared with returned := target :: shared.returned }

/-- `AgentListener::session` up to the registry. -/
def connect (p : Nat) : Task → Input → Shared × Option Task
  | .connected certificate, .go _ =>
    match shared.targets.targetByFingerprint certificate with
    | some target => shared.goto (.pinging certificate target)
    | none => shared.finish
  | .connected _, .failed => shared.finish
  | .pinging certificate target, .ponged version _ =>
    shared.goto (.checking certificate target version)
  | .pinging _ _, .failed => (shared.abort p).finish
  | .checking certificate target version, .go _ =>
    if shared.targets.targetByFingerprint certificate = some target then
      shared.goto (.inserting certificate target version)
    else (shared.abort p).finish
  | .checking _ _ _, .failed => shared.finish
  | .inserting certificate target version, .go _ =>
    let next := shared.registry.nextGeneration
    { shared with registry := next.1 }.goto (.numbered certificate target version next.2)
  | .numbered certificate target version generation, .go now =>
    let next := shared.registry.put ⟨target, p, version, now, generation, certificate⟩
    { shared with registry := next.1 }.goto (.recording target generation now)
  | task, _ => shared.goto task

/-- The rest of `session`: the contact is recorded, then the agent is pinged until it stops
answering, then the session leaves the registry. -/
def serve : Task → Input → Shared × Option Task
  | .recording target generation now, .go _ =>
    { shared with registry := shared.registry.recordPing target generation now }.goto
      (.greeting target generation now)
  | .greeting target generation now, .go _ =>
    { shared with targets := shared.targets.targetSeen target now }.goto
      (.beating target generation)
  | .greeting target generation _, .failed => shared.goto (.beating target generation)
  | .beating target generation, .ponged _ now =>
    { shared with registry := shared.registry.recordPing target generation now }.goto
      (.beating target generation)
  | .beating target generation, .failed => shared.goto (.leaving target generation)
  | .leaving target generation, .go now =>
    { shared with registry := (shared.registry.remove target generation).1 }.goto
      (.parting target now)
  | .parting target now, .go _ =>
    { shared with targets := shared.targets.targetSeen target now }.finish
  | .parting _ _, .failed => shared.finish
  | task, _ => shared.goto task

/-- `Platform::enroll`. -/
def enroll : Task → Input → Shared × Option Task
  | .enrolling tokenHash, .go _ =>
    match shared.targets.targetByToken tokenHash with
    | some target => shared.goto (.signing target tokenHash)
    | none => shared.finish
  | .enrolling _, .failed => shared.finish
  | .signing target tokenHash, .signed fingerprint =>
    match shared.targets.enrollTarget target tokenHash fingerprint with
    | some targets =>
      { shared with targets }.goto (.enrolled target (shared.targets.fingerprintOf target))
    | none => shared.finish
  | .signing _ _, .failed => shared.finish
  | .enrolled target replaced, .go _ =>
    (shared.disconnect target).goto (.answering target replaced)
  -- the target is read for the audit log; the answer is an error when that fails
  | .answering target (some _), .go _ | .answering target (some _), .failed =>
    (shared.report target).finish
  -- the first enrollment of a target revokes nothing
  | .answering _ none, .go _ | .answering _ none, .failed => shared.finish
  | task, _ => shared.goto task

/-- `Platform::delete_target`. -/
def delete : Task → Input → Shared × Option Task
  | .deleting target, .go _ =>
    match shared.targets.find target with
    | some row =>
      if row.kind = .localTarget then shared.finish else shared.goto (.inUse target)
    | none => shared.finish
  | .inUse target, .go _ =>
    if target ∈ shared.apps then shared.finish else shared.goto (.erasing target)
  | .erasing target, .go _ =>
    -- an app that was stored meanwhile refers to the row
    if target ∈ shared.apps then shared.finish
    else
      match shared.targets.deleteTarget target with
      | some targets =>
        { shared with targets }.goto (.erased target (shared.targets.fingerprintOf target))
      | none => shared.finish
  | .deleting _, .failed | .inUse _, .failed | .erasing _, .failed => shared.finish
  | .deleting _, .dropped | .inUse _, .dropped | .erasing _, .dropped => shared.finish
  | .erased _ _, .dropped => shared.finish
  | .erased target _, .go _ => (shared.disconnect target).goto (.closing target)
  | .closing target, .go _ => (shared.report target).finish
  | task, _ => shared.goto task

def advance (p : Nat) (shared : Shared) (task : Task) (input : Input) : Shared × Option Task :=
  match task with
  | .connected .. | .pinging .. | .checking .. | .inserting .. | .numbered .. =>
    shared.connect p task input
  | .recording .. | .greeting .. | .beating .. | .leaving .. | .parting .. =>
    shared.serve task input
  | .enrolling .. | .signing .. | .enrolled .. | .answering .. => shared.enroll task input
  | .deleting .. | .inUse .. | .erasing .. | .erased .. | .closing .. => shared.delete task input

def begin (_ : Nat) (shared : Shared) : Call → Shared × Option Task
  | .connect certificate => shared.goto (.connected certificate)
  | .enroll tokenHash => shared.goto (.enrolling tokenHash)
  | .deleteTarget target => shared.goto (.deleting target)
  | .addTarget target name tokenHash now =>
    match shared.targets.addAgentTarget target name tokenHash now with
    | some targets => { shared with targets }.finish
    | none => shared.finish
  | .newTargetToken target tokenHash =>
    match shared.targets.setTargetToken target tokenHash with
    | some targets => { shared with targets }.finish
    | none => shared.finish
  | .addApp target =>
    if target ∈ shared.targets.keys then
      { shared with apps := target :: shared.apps }.finish
    else shared.finish
  | .deleteApp target => { shared with apps := shared.apps.erase target }.finish

end Shared

def program : Program Shared Task Call Input := ⟨Shared.begin, Shared.advance⟩

abbrev State := System Shared Task

/-! ## Cut off -/

/-- The task took the fingerprint out of the row of the target and has yet to close its
session. -/
def Task.Revokes (target : ShortId) (certificate : String) : Task → Prop
  | .enrolled other replaced | .erased other replaced =>
    other = target ∧ replaced = some certificate
  | _ => False

instance (target : ShortId) (certificate : String) : DecidablePred (Task.Revokes target certificate)
  | .enrolled _ _ | .erased _ _ => inferInstanceAs (Decidable (_ ∧ _))
  | .connected .. | .pinging .. | .checking .. | .inserting .. | .numbered .. | .recording ..
  | .greeting .. | .beating .. | .leaving .. | .parting .. | .enrolling .. | .signing ..
  | .answering .. | .deleting .. | .inUse .. | .erasing .. | .closing .. => .isFalse id

/-- A revocation of the certificate has yet to close the session of the target. -/
def Pending (state : State) (target : ShortId) (certificate : String) : Prop :=
  ∃ slot ∈ state.tasks.rows, slot.2.Revokes target certificate

instance (state : State) (target : ShortId) (certificate : String) :
    Decidable (Pending state target certificate) :=
  inferInstanceAs (Decidable (∃ _ ∈ _, _))

/-- The certificate is the stored one, or its revocation is not over and none returned before. -/
def Backed (state : State) (target : ShortId) (certificate : String) : Prop :=
  state.shared.targets.fingerprintOf target = some certificate ∨
    target ∉ state.shared.returned ∧ Pending state target certificate

instance (state : State) (target : ShortId) (certificate : String) :
    Decidable (Backed state target certificate) :=
  inferInstanceAs (Decidable (_ ∨ _))

/-- Once a revocation of a target returned, the registry holds a session of the target only with
the stored certificate. -/
def CutOff (state : State) : Prop :=
  ∀ target ∈ state.shared.returned, ∀ session ∈ state.shared.registry.sessions.rows,
    session.target = target →
      state.shared.targets.fingerprintOf target = some session.certificate

instance : DecidablePred CutOff := fun state =>
  inferInstanceAs (Decidable (∀ target ∈ state.shared.returned, _))

/-- The registry holds no session of the target. -/
def Away (shared : Shared) (target : ShortId) : Prop :=
  ∀ session ∈ shared.registry.sessions.rows, session.target ≠ target

instance (shared : Shared) (target : ShortId) : Decidable (Away shared target) :=
  inferInstanceAs (Decidable (∀ session ∈ _, _))

/-- No revocation of the target stands between its statement and the session it has to close. -/
def Closed (state : State) (target : ShortId) : Prop :=
  ∀ session ∈ state.shared.registry.sessions.rows, session.target = target →
    ¬ Pending state target session.certificate

instance (state : State) (target : ShortId) : Decidable (Closed state target) :=
  inferInstanceAs (Decidable (∀ session ∈ _, _))

/-- What the next step of a task has to find. -/
def Calm (state : State) : Task → Input → Prop
  -- the certificate was not revoked since it was looked up again
  | .numbered certificate target _ _, .go _ => Backed state target certificate
  -- a later revocation changes the row while the agent is away
  | .signing target tokenHash, .signed _ =>
    target ∈ state.shared.returned →
      (state.shared.targets.find target).bind Target.tokenHash = some tokenHash →
        Away state.shared target
  | .erasing target, .go _ =>
    target ∈ state.shared.returned → target ∉ state.shared.apps → Away state.shared target
  -- the deletion has no session to close
  | .erased target _, .dropped => Away state.shared target
  -- the revocation is not overtaken by the statement of another one
  | .answering target (some _), .go _ | .answering target (some _), .failed
  | .closing target, .go _ => Closed state target
  | _, _ => True

instance (state : State) (task : Task) (input : Input) : Decidable (Calm state task input) := by
  unfold Calm
  split <;> infer_instance

def Undisturbed (state : State) : Event Call Input → Prop
  | .advance p input => ∀ slot ∈ state.tasks.find p, Calm state slot.2 input
  | .begin _ _ => True

instance (state : State) (event : Event Call Input) : Decidable (Undisturbed state event) := by
  unfold Undisturbed
  split <;> infer_instance

/-! ## The invariant -/

/-- Every session in the registry is backed, whether or not a revocation returned. -/
def Inv (state : State) : Prop :=
  ∀ session ∈ state.shared.registry.sessions.rows,
    Backed state session.target session.certificate

theorem Inv.cutOff {state : State} (inv : Inv state) : CutOff state := by
  intro target revoked session member same
  subst same
  exact (inv session member).resolve_right fun pending => pending.1 revoked

/-- No session is new, no stored fingerprint is lost, and no revocation returns. -/
structure Quiet (old new : Shared) : Prop where
  sessions : ∀ session ∈ new.registry.sessions.rows, ∃ before ∈ old.registry.sessions.rows,
    before.target = session.target ∧ before.certificate = session.certificate
  fingerprints : ∀ target certificate, old.targets.fingerprintOf target = some certificate →
    new.targets.fingerprintOf target = some certificate
  returned : new.returned = old.returned

variable {old : Shared} {target : ShortId} {next : Option Task}

theorem Quiet.of_same {new : Shared} (registry : new.registry.sessions = old.registry.sessions)
    (targets : new.targets = old.targets) (returned : new.returned = old.returned) :
    Quiet old new := by
  refine ⟨fun session member => ⟨session, registry ▸ member, rfl, rfl⟩, ?_, returned⟩
  intro target certificate stored
  rwa [targets]

theorem Quiet.of_targets {targets : Targets}
    (kept : ∀ target certificate, old.targets.fingerprintOf target = some certificate →
      targets.fingerprintOf target = some certificate) : Quiet old { old with targets } :=
  ⟨fun session member => ⟨session, member, rfl, rfl⟩, kept, rfl⟩

theorem Quiet.of_registry {registry : AgentRegistry}
    (kept : ∀ session ∈ registry.sessions.rows, ∃ before ∈ old.registry.sessions.rows,
      before.target = session.target ∧ before.certificate = session.certificate) :
    Quiet old { old with registry } :=
  ⟨kept, fun _ _ stored => stored, rfl⟩

/-- Task `p` has no session to close. -/
def Idle (state : State) (p : Nat) : Prop :=
  ∀ task, (p, task) ∈ state.tasks.rows → ∀ target certificate, ¬ task.Revokes target certificate

section Settled

variable {state : State} {p : Nat} {outcome : Shared × Option Task}

theorem Pending.settle {certificate : String} (pending : Pending state target certificate)
    (away : ∀ task, (p, task) ∈ state.tasks.rows → ¬ task.Revokes target certificate) :
    Pending (state.settle p outcome) target certificate := by
  obtain ⟨⟨q, task⟩, member, revokes⟩ := pending
  refine ⟨(q, task), System.mem_settle.mpr (.inl ⟨member, ?_⟩), revokes⟩
  rintro rfl
  exact away task member revokes

/-- A step of an idle task that is quiet. -/
theorem Inv.settle (inv : Inv state) (idle : Idle state p) (quiet : Quiet state.shared outcome.1) :
    Inv (state.settle p outcome) := by
  intro session member
  obtain ⟨before, known, target, certificate⟩ := quiet.sessions session member
  rw [← target, ← certificate]
  rcases inv before known with stored | ⟨first, pending⟩
  · exact .inl (quiet.fingerprints _ _ stored)
  · refine .inr ⟨?_, pending.settle fun task here => idle task here _ _⟩
    rwa [System.settle_shared, quiet.returned]

/-- The fingerprint of a target is taken out of its row, and the task goes on to close the
session. -/
theorem Inv.revoke (inv : Inv state) (idle : Idle state p)
    (away : target ∈ state.shared.returned → Away state.shared target)
    (sessions : outcome.1.registry = state.shared.registry)
    (returned : outcome.1.returned = state.shared.returned)
    (others : ∀ other, other ≠ target → outcome.1.targets.fingerprintOf other =
      state.shared.targets.fingerprintOf other) (next : ∃ task ∈ outcome.2, ∀ certificate,
      state.shared.targets.fingerprintOf target = some certificate →
        task.Revokes target certificate) : Inv (state.settle p outcome) := by
  intro session member
  rw [System.settle_shared, sessions] at member
  rcases inv session member with stored | ⟨first, pending⟩
  · by_cases here : session.target = target
    · obtain ⟨task, found, revokes⟩ := next
      have first : target ∉ outcome.1.returned :=
        returned ▸ fun revoked => away revoked session member here
      rw [here] at stored ⊢
      exact .inr ⟨first, (p, task), System.mem_settle.mpr (.inr ⟨rfl, found⟩), revokes _ stored⟩
    · refine .inl ?_
      rw [System.settle_shared, others _ here]
      exact stored
  · refine .inr ⟨?_, pending.settle fun task here => idle task here _ _⟩
    rwa [System.settle_shared, returned]

/-- The task that revoked a certificate of the target leaves no session of the target. -/
theorem Inv.close (inv : Inv state) {task : Task} (here : (p, task) ∈ state.tasks.rows)
    (only : ∀ other certificate, task.Revokes other certificate → other = target)
    (targets : outcome.1.targets = state.shared.targets)
    (returned : outcome.1.returned = state.shared.returned)
    (left : ∀ session ∈ outcome.1.registry.sessions.rows,
      session ∈ state.shared.registry.sessions.rows ∧ session.target ≠ target) :
    Inv (state.settle p outcome) := by
  intro session member
  obtain ⟨known, away⟩ := left session member
  rcases inv session known with stored | ⟨first, pending⟩
  · refine .inl ?_
    rw [System.settle_shared, targets]
    exact stored
  · refine .inr ⟨?_, pending.settle fun other found revokes => away ?_⟩
    · rwa [System.settle_shared, returned]
    · cases state.tasks.row_of_key found here rfl
      exact only _ _ revokes

/-- A task that waits. -/
theorem Inv.stay (inv : Inv state) {task : Task} (here : (p, task) ∈ state.tasks.rows) :
    Inv (state.settle p (state.shared, some task)) := by
  intro session member
  rcases inv session member with stored | ⟨first, ⟨q, other⟩, found, revokes⟩
  · exact .inl stored
  · refine .inr ⟨first, (q, other), System.mem_settle.mpr ?_, revokes⟩
    by_cases same : q = p
    · subst same
      cases state.tasks.row_of_key found here rfl
      exact .inr ⟨rfl, rfl⟩
    · exact .inl ⟨found, same⟩

/-- A session enters the registry. -/
theorem Inv.put (inv : Inv state) (idle : Idle state p) {session : Session}
    (backed : Backed state session.target session.certificate) :
    Inv (state.settle p
      ({ state.shared with registry := (state.shared.registry.put session).1 }, next)) := by
  have keeps : ∀ target certificate, Backed state target certificate →
      Backed (state.settle p
        ({ state.shared with registry := (state.shared.registry.put session).1 }, next))
        target certificate := by
    intro target certificate held
    rcases held with stored | ⟨first, pending⟩
    · exact .inl stored
    · exact .inr ⟨first, pending.settle fun task here => idle task here _ _⟩
  intro other member
  rcases AgentRegistry.mem_put.mp member with ⟨known, -⟩ | rfl
  · exact keeps _ _ (inv other known)
  · exact keeps _ _ backed

/-- A revocation returns. -/
theorem Inv.report (inv : Inv state) (idle : Idle state p) (closed : Closed state target) :
    Inv (state.settle p (state.shared.report target, none)) := by
  intro session member
  rcases inv session member with stored | ⟨first, pending⟩
  · exact .inl stored
  · have other : session.target ≠ target := by
      rintro rfl
      exact closed session member rfl pending
    refine .inr ⟨?_, pending.settle fun task here => idle task here _ _⟩
    exact List.not_mem_cons_of_ne_of_not_mem other first

end Settled

/-! ## Every step -/

section Steps

variable {state : State} {p : Nat} {task : Task} {input : Input}

theorem idle_of (here : (p, task) ∈ state.tasks.rows)
    (none : ∀ target certificate, ¬ task.Revokes target certificate) : Idle state p := by
  intro other found
  cases state.tasks.row_of_key found here rfl
  exact none

section Inv

variable (inv : Inv state)
include inv

open Quiet

theorem Inv.same (idle : Idle state p) :
    Inv (state.settle p (state.shared, next)) :=
  inv.settle idle (of_same rfl rfl rfl)

theorem Inv.connect (idle : Idle state p) (calm : Calm state task input) :
    Inv (state.settle p (state.shared.connect p task input)) := by
  have aborted : ∀ next, Inv (state.settle p (state.shared.abort p, next)) :=
    fun _ => inv.settle idle (of_same rfl rfl rfl)
  unfold Shared.connect
  split
  -- connected
  · split <;> exact inv.same idle
  · exact inv.same idle
  -- pinging
  · exact inv.same idle
  · exact aborted _
  -- checking
  · split
    · exact inv.same idle
    · exact aborted _
  · exact inv.same idle
  -- inserting, numbered
  · exact inv.settle idle (of_same rfl rfl rfl)
  · exact inv.put idle calm
  · exact inv.same idle

theorem Inv.serve (idle : Idle state p) :
    Inv (state.settle p (state.shared.serve task input)) := by
  have pinged : ∀ target generation now next, Inv (state.settle p
      ({ state.shared with
        registry := state.shared.registry.recordPing target generation now }, next)) :=
    fun _ _ _ _ => inv.settle idle
      (of_registry fun _ member => AgentRegistry.mem_recordPing member)
  have seen : ∀ target now next, Inv (state.settle p
      ({ state.shared with targets := state.shared.targets.targetSeen target now }, next)) := by
    intro target now next
    refine inv.settle idle (of_targets fun other certificate stored => ?_)
    rw [Targets.targetSeen_spec]
    exact stored
  unfold Shared.serve
  split
  · exact pinged _ _ _ _
  · exact seen _ _ _
  · exact inv.same idle
  · exact pinged _ _ _ _
  · exact inv.same idle
  · exact inv.settle idle (of_registry fun session member =>
      ⟨session, AgentRegistry.mem_remove member, rfl, rfl⟩)
  · exact seen _ _ _
  · exact inv.same idle
  · exact inv.same idle

section Here

variable (here : (p, task) ∈ state.tasks.rows)
include here

theorem Inv.disconnect
    (only : ∀ other certificate, task.Revokes other certificate → other = target) :
    Inv (state.settle p (state.shared.disconnect target, next)) :=
  inv.close here only rfl rfl fun _ => AgentRegistry.mem_disconnect.mp

theorem Inv.enroll (calm : Calm state task input) :
    Inv (state.settle p (state.shared.enroll task input)) := by
  unfold Shared.enroll
  split
  -- enrolling
  · have idle : Idle state p := idle_of here fun _ _ => id
    split <;> exact inv.same idle
  · exact inv.same (idle_of here fun _ _ => id)
  -- signing
  · have idle : Idle state p := idle_of here fun _ _ => id
    split
    · rename_i enrolled
      have valid := Targets.tokenHash_of_enrollTarget enrolled
      exact inv.revoke idle (fun revoked => calm revoked valid) rfl rfl
        (fun other away => Targets.enrollTarget_spec enrolled away)
        ⟨_, rfl, fun certificate stored => ⟨rfl, stored⟩⟩
    · exact inv.same idle
  · exact inv.same (idle_of here fun _ _ => id)
  -- enrolled, answering
  · exact inv.disconnect here fun other certificate revokes => revokes.1.symm
  · exact inv.report (idle_of here fun _ _ => id) calm
  · exact inv.report (idle_of here fun _ _ => id) calm
  · exact inv.same (idle_of here fun _ _ => id)
  · exact inv.same (idle_of here fun _ _ => id)
  · exact inv.stay here

theorem Inv.delete (calm : Calm state task input) :
    Inv (state.settle p (state.shared.delete task input)) := by
  have ended : (∀ target certificate, ¬ task.Revokes target certificate) →
      Inv (state.settle p (state.shared, none)) := fun none => inv.same (idle_of here none)
  unfold Shared.delete
  split
  -- deleting
  · have idle : Idle state p := idle_of here fun _ _ => id
    split
    · split <;> exact inv.same idle
    · exact inv.same idle
  -- inUse
  · have idle : Idle state p := idle_of here fun _ _ => id
    split <;> exact inv.same idle
  -- erasing
  · have idle : Idle state p := idle_of here fun _ _ => id
    split
    · exact inv.same idle
    · rename_i unused
      split
      · rename_i deleted
        exact inv.revoke idle (fun revoked => calm revoked unused) rfl rfl
          (fun other away => Targets.deleteTarget_spec deleted away)
          ⟨_, rfl, fun certificate stored => ⟨rfl, stored⟩⟩
      · exact inv.same idle
  · exact ended fun _ _ => id
  · exact ended fun _ _ => id
  · exact ended fun _ _ => id
  · exact ended fun _ _ => id
  · exact ended fun _ _ => id
  · exact ended fun _ _ => id
  -- erased
  · exact inv.close here (fun other certificate revokes => revokes.1.symm) rfl rfl
      fun session member => ⟨member, calm session member⟩
  · exact inv.disconnect here fun other certificate revokes => revokes.1.symm
  -- closing
  · exact inv.report (idle_of here fun _ _ => id) calm
  · exact inv.stay here

theorem Inv.advance (calm : Calm state task input) :
    Inv (state.settle p (Shared.advance p state.shared task input)) := by
  unfold Shared.advance
  split
  all_goals first
    | exact inv.connect (idle_of here fun _ _ => id) calm
    | exact inv.serve (idle_of here fun _ _ => id)
    | exact inv.enroll here calm
    | exact inv.delete here calm

end Here

theorem Inv.begin (fresh : ∀ task, (p, task) ∉ state.tasks.rows) (call : Call) :
    Inv (state.settle p (Shared.begin p state.shared call)) := by
  have idle : Idle state p := fun task here => absurd here (fresh task)
  cases call with
  | connect | enroll | deleteTarget => exact inv.same idle
  | addTarget =>
    rw [Shared.begin]
    split
    · rename_i added
      exact inv.settle idle (of_targets fun other _ stored =>
        Targets.addAgentTarget_spec added other stored)
    · exact inv.same idle
  | newTargetToken =>
    rw [Shared.begin]
    split
    · rename_i set
      refine inv.settle idle (of_targets fun other certificate stored => ?_)
      rw [Targets.setTargetToken_spec set]
      exact stored
    · exact inv.same idle
  | addApp =>
    rw [Shared.begin]
    split
    · exact inv.settle idle (of_same rfl rfl rfl)
    · exact inv.same idle
  | deleteApp => exact inv.settle idle (of_same rfl rfl rfl)

theorem Inv.step {event : Event Call Input} (calm : Undisturbed state event) :
    Inv (program.step state event) := by
  rcases program.step_cases state event with
    same | ⟨p, call, rfl, fresh, same⟩ | ⟨p, input, task, rfl, member, same⟩
  · rwa [same]
  · rw [same]
    exact inv.begin fresh call
  · rw [same]
    exact inv.advance member (calm (p, task) (Table.find_eq_some.mpr ⟨member, rfl⟩))

end Inv

end Steps

/-! ## Every run -/

/-- The rows of `targets` and `apps` at the start of the server, which no agent is connected
to. -/
def start (targets : Targets) (apps : List ShortId) : State :=
  System.start ⟨targets, apps, ⟨Table.empty, 0, []⟩, []⟩

/-- **Revoked agents are cut off.**  In every run in which a session enters the registry only with
a certificate that is stored or whose revocation is the first of the target and has yet to close
the session, no deletion is dropped before it closed one, a later revocation finds the agent away
and none returns while another has a session to close, the registry never holds a session of a
target with another certificate than the stored one after a revocation returned. -/
theorem revoked_agents_are_cut_off {targets : Targets} {apps : List ShortId}
    {events : List (Event Call Input)}
    (undisturbed : Guarded program.step Undisturbed (start targets apps) events) :
    Throughout program.step CutOff (start targets apps) events := by
  have keeps : ∀ state event, Inv state → Undisturbed state event →
      Inv (program.step state event) := fun _ _ inv calm => inv.step calm
  have first : Inv (start targets apps) := by simp [Inv, start, System.start]
  exact Guarded.throughout keeps (fun _ inv => inv.cutOff) first undisturbed

/-! ## A revocation between the check and the registry -/

section Late

def edge : ShortId := ShortId.ofSeven [2, 3, 5, 7, 11, 13, 17] rfl

/-- The target is enrolled with a token and a certificate. -/
def enrolls (p : Nat) (tokenHash fingerprint : String) : List (Event Call Input) :=
  [.begin p (.enroll tokenHash), .advance p (.go 0), .advance p (.signed fingerprint),
    .advance p (.go 0), .advance p (.go 0)]

/-- A connection up to the second look-up of its certificate. -/
def checks (p : Nat) (certificate : String) : List (Event Call Input) :=
  [.begin p (.connect certificate), .advance p (.go 1), .advance p (.ponged "1.0" 1),
    .advance p (.go 2)]

def enters (p : Nat) : List (Event Call Input) := List.replicate 4 (.advance p (.go 3))

def deletes (p : Nat) : List (Event Call Input) :=
  .begin p (.deleteTarget edge) :: List.replicate 5 (.advance p (.go 4))

def added : List (Event Call Input) :=
  .begin 0 (.addTarget edge "edge" "hash-1" 0) :: enrolls 1 "hash-1" "cert-1"

/-- The heartbeat fails. -/
def leaves (p : Nat) : List (Event Call Input) :=
  .advance p .failed :: List.replicate 2 (.advance p (.go 3))

/-- The agent connects, another agent enrolls in its place, connects and leaves, and the target is
deleted. -/
def inTurn : List (Event Call Input) :=
  added ++ checks 2 "cert-1" ++ enters 2 ++ [.begin 3 (.newTargetToken edge "hash-2")] ++
    enrolls 4 "hash-2" "cert-2" ++ checks 5 "cert-2" ++ enters 5 ++ leaves 5 ++
      deletes 6

theorem inTurn_cutOff :
    Guarded program.step Undisturbed (start .empty []) inTurn ∧
      Throughout program.step CutOff (start .empty []) inTurn := by
  refine ⟨?undisturbed, revoked_agents_are_cut_off ?undisturbed⟩
  decide

/-- The target is deleted after the second look-up of the certificate. -/
def lateDeletion : List (Event Call Input) :=
  added ++ checks 2 "cert-1" ++ deletes 3 ++ enters 2

/-- Another agent enrolls after the second look-up of the certificate. -/
def lateEnrollment : List (Event Call Input) :=
  added ++ checks 2 "cert-1" ++ [.begin 3 (.newTargetToken edge "hash-2")] ++
    enrolls 4 "hash-2" "cert-2" ++ enters 2

/-- The second agent is connected when the target is deleted: the statement ran, and the session is
not closed yet. -/
def lateClose : List (Event Call Input) :=
  added ++ [.begin 2 (.newTargetToken edge "hash-2")] ++ enrolls 3 "hash-2" "cert-2" ++
    checks 4 "cert-2" ++ enters 4 ++ (deletes 5).take 4

/-- **A revoked agent is in the registry.**  After the deletion, or the enrollment, returned, a
session enters with the revoked certificate; and after an enrollment returned, its own agent is
still connected when the row is deleted. -/
theorem late_session_not_cutOff :
    ¬ CutOff (exec program.step (start .empty []) lateDeletion) ∧
      ¬ CutOff (exec program.step (start .empty []) lateEnrollment) ∧
        ¬ CutOff (exec program.step (start .empty []) lateClose) := by
  refine ⟨?_, ?_, ?_⟩ <;> decide

end Late

end R3v3rs3.Agent.Listener
