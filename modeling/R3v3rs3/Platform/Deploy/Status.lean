/-
# R3v3rs3.Platform.Deploy.Status -- the statuses of a deployment go one way

The statuses are written by single `UPDATE` statements, from the pipeline and from the calls, and
no statement of `set_status`, `fail_deployment` and `finish_deployment` looks at the status that it
replaces.  `Sound` says what a row owes to its history: a final status stays, a deployment that was
running is not cancelled, and one whose pipeline has ended is not under way.

`Calm` names what may not come between: a pipeline or a cancellation that writes has to find its
deployment unfinished still, a rollback that makes the checkout again has no row to write to, and
the write of `failed` goes through.  `statuses_go_one_way` is the result about every interleaving.
Its rows change along `Moves` alone: from an unfinished status, or from running to superseded.
-/
import R3v3rs3.Platform.Deploy.Calls

namespace R3v3rs3.Platform.Deploy.Status
open Theory Api Threads
open Theory.Run (Guarded Throughout exec)
set_option autoImplicit false

/-! ## What is asked for -/

/-- The statuses that a deployment keeps. -/
def isFinal : DeploymentStatus → Bool
  | .failed | .cancelled | .superseded => true
  | _ => false

/-- The statuses of a deployment whose pipeline has something to do. -/
def underWay : DeploymentStatus → Bool
  | .queued | .building | .deploying => true
  | _ => false

/-- What a row owes to its history. -/
structure Sound (history : History) (row : DeploymentEntry) : Prop where
  final : ∀ status, (row.id, status) ∈ history.reached → isFinal status = true →
    row.status = status
  running : (row.id, .running) ∈ history.reached → row.status ≠ .cancelled
  ended : row.id ∈ history.ended → underWay row.status = false

/-- Every row is sound, and no cancellation removed the container of a deployment that was
running. -/
structure Good (system : State) : Prop where
  sound : ∀ row ∈ system.shared.deployments.rows, Sound system.shared.history row
  kept : system.shared.history.removed = []

/-! ## What may not come between -/

/-- The deployment has had a status. -/
def Known (s : Shared) (id : ShortId) : Prop := id ∈ s.history.reached.map Prod.fst

/-- An id that is drawn is not the one of a deleted deployment. -/
def Unused (s : Shared) (id : ShortId) : Prop := Known s id → id ∈ s.deployments.keys

/-- The status of the deployment, if its row is there. -/
def Finds (s : Shared) (id : ShortId) (expected : DeploymentStatus → Prop) : Prop :=
  ∀ row ∈ s.deployments.rows, row.id = id → expected row.status

instance (s : Shared) (id : ShortId) : Decidable (Unused s id) :=
  inferInstanceAs (Decidable (_ ∈ _ → _))

instance (s : Shared) (id : ShortId) (expected : DeploymentStatus → Prop)
    [DecidablePred expected] : Decidable (Finds s id expected) :=
  inferInstanceAs (Decidable (∀ row ∈ _, _))

/-- What the next access of a task has to find. -/
def Calm (s : Shared) : Task → Input → Prop
  | .held _ (.insert id _) _, .ok => Unused s id
  | .insertPending pending _, .ok => Unused s pending.id
  -- since `cancel_deployment` read the row, the deployment was at most cancelled by another call,
  -- and one that is deleted was not running
  | .cancelWrite id _, .ok =>
    Finds s id (fun status => status.isUnfinished = true ∨ status = .cancelled) ∧
      (id ∉ s.deployments.keys → ∀ entry ∈ s.history.reached, entry ≠ (id, .running))
  -- the pipeline writes to a deployment that was not cancelled
  | .job job (.run (.status _ :: _) _ _), .ok | .job job (.run [] _ _), .ok
  | .job job .fail, .ok => Finds s job.deployment fun status => status.isUnfinished = true
  -- `failed` is not lost
  | .job job .fail, _ => Finds s job.deployment fun status => status.isUnfinished = false
  -- the deployment that is brought back is not marked as building
  | .job _ (.rollback id (_ + 1)), .rebuilt => id ∉ s.deployments.keys
  | _, _ => True

instance (s : Shared) (task : Task) (input : Input) : Decidable (Calm s task input) := by
  unfold Calm
  split <;> infer_instance

def Undisturbed (system : State) : Event Call Input → Prop
  | .advance p input => ∀ slot ∈ system.tasks.find p, Calm system.shared slot.2 input
  | .begin _ _ => True

instance (system : State) : ∀ event, Decidable (Undisturbed system event)
  | .advance _ _ => inferInstanceAs (Decidable (∀ slot ∈ _, _))
  | .begin _ _ => inferInstanceAs (Decidable True)

/-! ## The invariant -/

/-- The one way: from an unfinished status to any other, and from running to superseded. -/
def Moves (old new : DeploymentStatus) : Prop :=
  new = old ∨ old.isUnfinished = true ∨ old = .running ∧ new = .superseded

theorem Moves.trans {first second third : DeploymentStatus} (left : Moves first second)
    (right : Moves second third) : Moves first third := by
  rcases left with rfl | unfinished | ⟨rfl, rfl⟩
  · exact right
  · exact .inr (.inl unfinished)
  · exact right.elim (fun same => .inr (.inr ⟨rfl, same⟩)) fun other => other.elim nofun nofun

/-- What is known of a deployment. -/
inductive Mark where
  /-- It has had a status. -/
  | known
  /-- It is not unfinished again. -/
  | closed
  /-- It was cancelled before it was running. -/
  | dead

/-- The statuses that its row is in. -/
def Mark.now : Mark → DeploymentStatus → Prop
  | .known, _ => True
  | .closed, status => status.isUnfinished = false
  | .dead, status => status = .cancelled

structure Past (s : Shared) (id : ShortId) (mark : Mark) : Prop where
  known : Known s id
  now : Finds s id mark.now
  never : mark = .dead → (id, .running) ∉ s.history.reached

/-- The row came to its status from each that it had. -/
structure Settled (history : History) (row : DeploymentEntry) : Prop where
  moved : ∀ status, (row.id, status) ∈ history.reached → Moves status row.status
  known : (row.id, row.status) ∈ history.reached

structure Inv (s : Shared) : Prop where
  rows : ∀ row ∈ s.deployments.rows, Settled s.history row
  ended : ∀ id ∈ s.history.ended, Past s id .closed
  cancelled : ∀ id ∈ s.cancelled, Past s id .dead
  spawned : ∀ job ∈ s.spawned, Past s job.deployment .known
  kept : s.history.removed = []

/-- What a task relies on. -/
def Task.mark : Task → Option (ShortId × Mark)
  | .held _ (.spawn id _) _ | .cancelWrite id _ => some (id, .known)
  | .cancelToken id _ => some (id, .dead)
  | .job job .cleanup => some (job.deployment, .dead)
  | .job job .drain | .job job .close | .job job .unregister => some (job.deployment, .closed)
  | .job job _ => some (job.deployment, .known)
  | _ => none

def Own (s : Shared) (task : Task) : Prop :=
  match Task.mark task with
  | some (id, mark) => Past s id mark
  | none => True

def Keeps (s t : Shared) : Prop := ∀ id mark, Past s id mark → Past t id mark

variable {s t : Shared} {id : ShortId} {mark : Mark}

theorem Mark.now_moves {old new : DeploymentStatus} (now : mark.now old) (moves : Moves old new) :
    mark.now new := by
  rcases moves with rfl | unfinished | ⟨rfl, rfl⟩
  · exact now
  · cases mark with
    | known => trivial
    | closed => exact absurd unfinished (by rw [now]; nofun)
    | dead => cases now; cases unfinished
  · cases mark with
    | known => trivial
    | closed => rfl
    | dead => cases now

theorem Past.weaken (past : Past s id mark) : Past s id .known :=
  ⟨past.known, fun _ _ _ => trivial, nofun⟩

theorem Past.dead_closed (past : Past s id .dead) : Past s id .closed := by
  refine ⟨past.known, fun row member own => ?_, nofun⟩
  have cancelled : row.status = .cancelled := past.now row member own
  rw [Mark.now, cancelled]
  rfl

theorem known_of_reached {status : DeploymentStatus} (reached : (id, status) ∈ s.history.reached) :
    Past s id .known :=
  ⟨List.mem_map_of_mem (f := Prod.fst) reached, fun _ _ _ => trivial, nofun⟩

theorem Inv.known (inv : Inv s) (member : id ∈ s.deployments.keys) : Past s id .known := by
  obtain ⟨row, there, rfl⟩ := List.mem_map.mp member
  exact known_of_reached (inv.rows row there).known

theorem Own.known {job : Job} {stage : Stage} (own : Own s (.job job stage)) :
    Past s job.deployment .known := by
  cases stage <;> exact Past.weaken own

theorem Own.keeps {task : Task} (own : Own s task) (keeps : Keeps s t) : Own t task := by
  unfold Own at own ⊢
  split <;> simp_all only
  exact keeps _ _ own

/-! ## Accesses -/

/-- An access that sets the statuses along `Moves`, stores a new deployment, and ends a pipeline
that is over. -/
def Safe (s : Shared) : Effect → Prop
  | .insert entry => ¬ Known s entry.id
  | .setStatus id status => Finds s id (Moves · status)
  | .finishDeployment _ id => Finds s id fun status => status.isUnfinished = true
  | .spawn job => Past s job.deployment .known
  | .unregister id => Past s id .closed
  | .cancelToken id | .removeContainers id => Past s id .dead
  | _ => True

theorem Keeps.of_rows (rows : ∀ row ∈ t.deployments.rows, row ∈ s.deployments.rows)
    (reached : t.history.reached = s.history.reached) : Keeps s t := by
  intro id mark past
  refine ⟨?_, fun row member => past.now row (rows row member), reached ▸ past.never⟩
  rw [Known, reached]
  exact past.known

section Rewrite

variable {f : DeploymentEntry → DeploymentStatus}

theorem finds_rewrite {expected : DeploymentStatus → Prop}
    (written : ∀ row ∈ s.deployments.rows, row.id = id → expected (f row)) :
    Finds (s.rewrite f) id expected := by
  intro row member own
  obtain ⟨old, known, rfl⟩ := List.mem_map.mp member
  exact written old known own

theorem reached_rewrite {status : DeploymentStatus}
    (reached : (id, status) ∈ (s.rewrite f).history.reached) :
    (∃ row ∈ s.deployments.rows, row.id = id ∧ f row = status) ∨
      (id, status) ∈ s.history.reached := by
  refine (List.mem_append.mp reached).imp_left fun now => ?_
  obtain ⟨row, member, same⟩ := List.mem_map.mp now
  obtain ⟨old, known, rfl⟩ := List.mem_map.mp member
  rw [Prod.mk.injEq] at same
  exact ⟨old, known, same⟩

/-- What is said of the new statuses and was never denied before. -/
theorem Past.rewrite (known : Known s id)
    (written : ∀ row ∈ s.deployments.rows, row.id = id → mark.now (f row))
    (never : mark = .dead → (id, .running) ∉ s.history.reached) : Past (s.rewrite f) id mark := by
  refine ⟨?_, finds_rewrite written, ?_⟩
  · rw [Known, Shared.rewrite, List.map_append]
    exact List.mem_append_right _ known
  · rintro rfl reached
    rcases reached_rewrite reached with ⟨row, member, own, now⟩ | earlier
    · have cancelled : f row = .cancelled := written row member own
      rw [cancelled] at now
      cases now
    · exact never rfl earlier

variable (moves : ∀ row ∈ s.deployments.rows, Moves row.status (f row))
include moves

theorem Keeps.rewrite : Keeps s (s.rewrite f) := fun _ _ past =>
  .rewrite past.known
    (fun row member own => Mark.now_moves (past.now row member own) (moves row member)) past.never

theorem Settled.rewrite (settled : ∀ row ∈ s.deployments.rows, Settled s.history row) :
    ∀ row ∈ (s.rewrite f).deployments.rows, Settled (s.rewrite f).history row := by
  intro row written
  obtain ⟨old, member, rfl⟩ := List.mem_map.mp written
  refine ⟨fun status reached => ?_, List.mem_append_left _ (List.mem_map.mpr ⟨_, written, rfl⟩)⟩
  rcases reached_rewrite reached with ⟨other, known, own, now⟩ | earlier
  · rw [s.deployments.row_of_key known member own] at now
    exact .inl now
  · exact ((settled old member).moved status earlier).trans (moves old member)

end Rewrite

section Insert

variable {entry : DeploymentEntry} (new : ¬ Known s entry.id)
include new

theorem Keeps.insert : Keeps s (perform s (.insert entry)) := by
  intro id mark past
  refine ⟨List.mem_cons_of_mem _ past.known, fun row member own => ?_, fun dead reached => ?_⟩
  · rcases Table.mem_upsert.mp member with ⟨there, -⟩ | rfl
    · exact past.now row there own
    · exact absurd (own ▸ past.known) new
  · rcases List.mem_cons.mp reached with now | earlier
    · exact new ((Prod.mk.inj now).1 ▸ past.known)
    · exact past.never dead earlier

theorem Settled.insert (settled : ∀ row ∈ s.deployments.rows, Settled s.history row) :
    ∀ row ∈ (perform s (.insert entry)).deployments.rows,
      Settled (perform s (.insert entry)).history row := by
  intro row member
  rcases Table.mem_upsert.mp member with ⟨there, other⟩ | rfl
  · refine ⟨fun status reached => ?_, List.mem_cons_of_mem _ (settled row there).known⟩
    rcases List.mem_cons.mp reached with now | earlier
    · exact absurd (Prod.mk.inj now).1 other
    · exact (settled row there).moved status earlier
  · refine ⟨fun status reached => ?_, List.mem_cons_self⟩
    rcases List.mem_cons.mp reached with now | earlier
    · exact .inl (Prod.mk.inj now).2.symm
    · exact absurd (known_of_reached earlier).known new

end Insert

theorem moves_setStatus {status : DeploymentStatus} (finds : Finds s id (Moves · status)) :
    ∀ row ∈ s.deployments.rows, Moves row.status (if row.id = id then status else row.status) := by
  intro row member
  split
  · exact finds row member ‹_›
  · exact .inl rfl

theorem moves_finished {app : ShortId}
    (finds : Finds s id fun status => status.isUnfinished = true) :
    ∀ row ∈ s.deployments.rows, Moves row.status (finished app id row) := by
  intro row member
  rw [finished]
  split
  · exact .inr (.inl (finds row member ‹_›))
  · split
    · exact .inr (.inr ⟨And.right ‹_›, rfl⟩)
    · exact .inl rfl

section Perform

variable {effect : Effect} (safe : Safe s effect)
include safe

theorem keeps_perform : Keeps s (perform s effect) := by
  cases effect with
  | insert => exact .insert safe
  | setStatus => exact .rewrite (moves_setStatus safe)
  | finishDeployment => exact .rewrite (moves_finished safe)
  | none | lock | unlock | clear | queue | unqueue | spawn | pickUp | unregister | cancelToken
  | removeContainers => exact .of_rows (fun _ member => member) rfl
  | deleteApp => exact .of_rows (fun _ member => (List.mem_filter.mp member).1) rfl

theorem settled_perform (settled : ∀ row ∈ s.deployments.rows, Settled s.history row) :
    ∀ row ∈ (perform s effect).deployments.rows, Settled (perform s effect).history row := by
  cases effect with
  | insert => exact .insert safe settled
  | setStatus => exact .rewrite (moves_setStatus safe) settled
  | finishDeployment => exact .rewrite (moves_finished safe) settled
  | none | lock | unlock | clear | queue | unqueue | spawn | pickUp | cancelToken => exact settled
  | unregister | removeContainers =>
    exact fun row member => ⟨(settled row member).moved, (settled row member).known⟩
  | deleteApp => exact fun row member => settled row (List.mem_filter.mp member).1

/-- **A safe access keeps the invariant.** -/
theorem inv_perform (inv : Inv s) : Inv (perform s effect) := by
  have keeps := keeps_perform safe
  have rows := settled_perform safe inv.rows
  have ended := fun id ended => keeps id .closed (inv.ended id ended)
  have cancelled := fun id cancelled => keeps id .dead (inv.cancelled id cancelled)
  have spawned := fun job spawned => keeps _ .known (inv.spawned job spawned)
  cases effect with
  | unregister id =>
    exact ⟨rows, List.forall_mem_cons.mpr ⟨keeps id _ safe, ended⟩, cancelled, spawned, inv.kept⟩
  | cancelToken id =>
    exact ⟨rows, ended, List.forall_mem_cons.mpr ⟨keeps id _ safe, cancelled⟩, spawned, inv.kept⟩
  | spawn job =>
    exact ⟨rows, ended, cancelled, List.forall_mem_cons.mpr ⟨keeps _ _ safe, spawned⟩, inv.kept⟩
  | pickUp =>
    exact ⟨rows, ended, cancelled, fun job left => spawned job (List.mem_of_mem_erase left),
      inv.kept⟩
  | removeContainers =>
    refine ⟨rows, ended, cancelled, spawned, ?_⟩
    rw [perform, if_neg (safe.never rfl)]
    exact inv.kept
  | none | lock | unlock | clear | queue | unqueue | insert | setStatus | finishDeployment
  | deleteApp => exact ⟨rows, ended, cancelled, spawned, inv.kept⟩

end Perform

/-! ## Tasks -/

/-- What an access owes: it is safe, and its task may rely on what it left. -/
structure Sure (s : Shared) (outcome : Effect × Option Task) : Prop where
  safe : Safe s outcome.1
  next : ∀ task ∈ outcome.2, Own (perform s outcome.1) task

theorem Sure.one {effect : Effect} {task : Task} (safe : Safe s effect)
    (own : Own (perform s effect) task) : Sure s (effect, some task) := by
  refine ⟨safe, ?_⟩
  rintro _ ⟨⟩
  exact own

theorem own_resume (rest : List Pending) : ∀ task ∈ resume rest, Own t task := by
  cases rest with
  | nil => nofun
  | cons =>
    rintro _ ⟨⟩
    trivial

variable {input : Input}

theorem safe_of_unfinished (finds : Finds s id fun status => status.isUnfinished = true)
    (status : DeploymentStatus) : Safe s (.setStatus id status) :=
  fun row member own => .inr (.inl (finds row member own))

/-- A deployment that waits for approval is there and unfinished. -/
theorem finds_pending (found : s.status id = some .pendingApproval) :
    id ∈ s.deployments.keys ∧ Finds s id fun status => status.isUnfinished = true := by
  obtain ⟨row, there, waits⟩ := Option.map_eq_some_iff.mp found
  obtain ⟨member, rfl⟩ := Table.find_eq_some.mp there
  refine ⟨List.mem_map_of_mem member, fun other known own => ?_⟩
  rw [s.deployments.row_of_key known member own, waits]
  rfl

theorem sure_run {job : Job} {stage : Stage} (own : Own s (.job job stage))
    (calm : Calm s (.job job stage) input) :
    Sure s ((nextRun s job stage input).1, some (.job job (nextRun s job stage input).2)) := by
  have known := own.known
  unfold nextRun
  split
  -- previous
  · exact .one trivial known
  · exact .one trivial known
  -- run
  · rename_i status _ _ _
    have safe := safe_of_unfinished calm status
    exact .one safe (keeps_perform safe _ _ known)
  · exact .one trivial known
  · exact .one trivial known
  · refine .one trivial ?_
    unfold afterError
    split
    · split <;> exact known
    · exact known
  · have safe : Safe s (.finishDeployment job.app job.deployment) := calm
    refine .one safe (Past.rewrite known.known ?_ nofun)
    intro row _ own
    rw [finished, if_pos own]
    rfl
  · exact .one trivial known
  -- drain
  · exact .one trivial own
  -- rollback
  · have safe : Safe s (.setStatus _ .building) := fun row member own =>
      absurd own (Table.key_ne calm member)
    exact .one safe (keeps_perform safe _ _ known)
  · exact .one trivial known
  · exact .one trivial known
  -- fail
  · refine .one (safe_of_unfinished calm _) (Past.rewrite known.known ?_ nofun)
    intro row _ own
    rw [if_pos own]
    rfl
  · rename_i lost
    refine .one trivial ⟨known.known, ?_, nofun⟩
    cases input with
    | ok => exact absurd rfl lost
    | failed | dropped | drawn | loaded | previous | rebuilt | cancelled => exact calm
  -- close, and what is no part of `run_job`
  all_goals exact .one trivial own

variable (inv : Inv s)
include inv

theorem sure_job {job : Job} {stage : Stage} (own : Own s (.job job stage))
    (calm : Calm s (.job job stage) input) : Sure s (nextJob s job stage input) := by
  unfold nextJob
  split
  · have safe : Safe s (.removeContainers job.deployment) := own
    exact .one safe (keeps_perform safe _ _ (Past.dead_closed own))
  · have safe : Safe s (.unregister job.deployment) := own
    exact .one safe (keeps_perform safe _ _ own.known)
  · exact .one trivial trivial
  · split
    · exact .one trivial (inv.cancelled _ (And.right ‹_›))
    · exact sure_run own calm

theorem sure_held {app : ShortId} {work : Work} {rest : List Pending}
    (own : Own s (.held app work rest)) (calm : Calm s (.held app work rest) input) :
    Sure s (nextHeld s app work rest input) := by
  unfold nextHeld
  -- the branches that remain write, or look at the rows
  split <;> try exact .one trivial trivial
  · split
    · rename_i free
      exact .one (fun known => of_decide_eq_true (Bool.and_eq_true_iff.mp free).1 (calm known)) trivial
    · exact .one trivial trivial
  · split
    · exact .one trivial (inv.known ‹_›)
    · exact .one trivial trivial
  · exact ⟨own, own_resume rest⟩
  · split
    · rename_i waits
      obtain ⟨there, finds⟩ := finds_pending waits
      have safe := safe_of_unfinished finds .queued
      exact .one safe (keeps_perform safe _ _ (inv.known there))
    · exact .one trivial trivial
  · split
    · exact .one (safe_of_unfinished (finds_pending ‹_›).2 _) trivial
    · exact .one trivial trivial
  · split <;> exact .one trivial trivial
  · split <;> exact .one trivial trivial
  · exact ⟨trivial, own_resume rest⟩

/-- After the write of a cancellation the deployment is not running, and never was. -/
theorem sure_cancelWrite {app : ShortId} (own : Own s (.cancelWrite id app))
    (calm : Calm s (.cancelWrite id app) .ok) :
    Sure s (.setStatus id .cancelled, some (.cancelToken id app)) := by
  have known := Past.known own
  refine .one (fun row member own => ?_) (Past.rewrite known (fun _ _ own => if_pos own) ?_)
  · exact (calm.1 row member own).elim (fun unfinished => .inr (.inl unfinished))
      fun same => .inl same.symm
  · intro _ reached
    by_cases there : id ∈ s.deployments.keys
    · obtain ⟨row, member, rfl⟩ := List.mem_map.mp there
      have status := calm.1 row member rfl
      rcases (inv.rows row member).moved _ reached with same | unfinished | superseded
      · rw [same] at status
        exact status.elim nofun nofun
      · cases unfinished
      · rw [superseded.2] at status
        exact status.elim nofun nofun
    · exact calm.2 there _ reached rfl

theorem sure_free {task : Task} (own : Own s task) (calm : Calm s task input) :
    Sure s (nextFree s task input) := by
  have ends : Sure s (.none, none) := ⟨trivial, nofun⟩
  unfold nextFree
  cases task with
  | held | job => exact .one trivial own
  | findApp | runQueued =>
    dsimp only
    split
    · exact .one trivial trivial
    · exact ⟨trivial, own_resume _⟩
  | tryLock _ purpose =>
    dsimp only [tryLock]
    split
    · refine ⟨?_, own_resume _⟩
      dsimp only
      split <;> trivial
    · refine .one trivial ?_
      cases purpose <;> trivial
  | insertPending =>
    dsimp only
    split
    · rename_i free
      obtain ⟨free, rfl⟩ := free
      refine ⟨fun known => ?_, own_resume _⟩
      exact of_decide_eq_true (Bool.and_eq_true_iff.mp free).1 (calm known)
    · exact ⟨trivial, own_resume _⟩
  | rollbackSource =>
    dsimp only
    split
    · exact .one trivial trivial
    · exact ends
  | rollbackApp =>
    dsimp only
    split
    · split <;> first | exact .one trivial trivial | exact ends
    · exact ends
  | readPending =>
    dsimp only
    split
    · split <;> first | exact .one trivial trivial | exact ends
    · exact ends
  | cancelRead id =>
    dsimp only
    split
    · rename_i found
      split
      · exact ends
      · split
        · exact .one trivial trivial
        · obtain ⟨member, rfl⟩ := Table.find_eq_some.mp found
          exact .one trivial (inv.known (List.mem_map_of_mem member))
    · exact ends
  | cancelWrite =>
    dsimp only
    split
    · rename_i done
      subst done
      exact sure_cancelWrite inv own calm
    · exact ends
  | cancelToken =>
    dsimp only
    split
    · exact ⟨own, nofun⟩
    · exact .one trivial trivial
  | cancelClear => exact ⟨trivial, nofun⟩

theorem sure_next {task : Task} (own : Own s task) (calm : Calm s task input) :
    Sure s (next s task input) := by
  cases task with
  | job => exact sure_job inv own calm
  | held =>
    rw [next]
    split
    · exact ⟨trivial, nofun⟩
    · exact sure_held inv own calm
  | findApp | tryLock | runQueued | insertPending | rollbackSource | rollbackApp | readPending
  | cancelRead | cancelWrite | cancelToken | cancelClear =>
    unfold next
    dsimp only
    split
    · exact ⟨trivial, nofun⟩
    · exact sure_free inv own calm

theorem sure_begin (call : Call) : Sure s (begin s call) := by
  cases call with
  | run job =>
    rw [begin]
    split
    · have safe : Safe s (.pickUp job) := trivial
      have known := keeps_perform safe _ _ (inv.spawned job ‹_›)
      refine .one safe ?_
      unfold JobImage.stage
      split <;> exact known
    · exact ⟨trivial, nofun⟩
  | deploy | hook | rollback | approve | reject | cancel | update | delete | maintain =>
    exact .one trivial trivial

omit inv

/-! ## Runs -/

abbrev Holds : State → Prop := Threads.Holds Inv fun s _ task => Own s task

variable {system : State}

theorem Sure.settles {p : Nat} {outcome : Effect × Option Task} (holds : Holds system)
    (sure : Sure system.shared outcome) :
    Settles Inv (fun s _ task => Own s task) system p
      (perform system.shared outcome.1, outcome.2) where
  shared := inv_perform sure.safe holds.shared
  next := sure.next
  others q task member _ := (holds.tasks q task member).keeps (keeps_perform sure.safe)

theorem Holds.good (holds : Holds system) : Good system := by
  obtain ⟨inv, -⟩ := holds
  refine ⟨fun row member => ⟨?_, ?_, fun ended => ?_⟩, inv.kept⟩
  · intro status reached final
    rcases (inv.rows row member).moved status reached with same | unfinished | ⟨rfl, -⟩
    · exact same
    · cases status <;> simp [isFinal, DeploymentStatus.isUnfinished] at final unfinished
    · cases final
  · intro reached
    rcases (inv.rows row member).moved .running reached with same | unfinished | superseded
    · rw [same]
      nofun
    · cases unfinished
    · rw [superseded.2]
      nofun
  · have finished : row.status.isUnfinished = false := (inv.ended _ ended).now row member rfl
    cases status : row.status with
    | queued | building | deploying | pendingApproval =>
      rw [status] at finished
      cases finished
    | running | superseded | failed | cancelled => rfl

/-- At first every deployment has had one status. -/
theorem inv_initial (apps : List ShortId) (deployments : Table DeploymentEntry.id) :
    Inv (.initial apps deployments) := by
  have reached : ∀ row ∈ deployments.rows,
      (row.id, row.status) ∈ (Shared.initial apps deployments).history.reached :=
    fun row member => List.mem_map_of_mem (f := fun row => (row.id, row.status)) member
  refine ⟨fun row member => ⟨fun status earlier => ?_, reached row member⟩, fun id ended => ?_,
    nofun, nofun, rfl⟩
  · obtain ⟨other, known, same⟩ := List.mem_map.mp earlier
    obtain ⟨own, rfl⟩ := Prod.mk.inj same
    exact .inl (by rw [deployments.row_of_key known member own])
  · rw [Shared.initial] at ended
    obtain ⟨row, passed, rfl⟩ := List.mem_map.mp ended
    obtain ⟨member, finished⟩ := List.mem_filter.mp passed
    refine ⟨(known_of_reached (reached row member)).known, fun other there same => ?_, nofun⟩
    rw [deployments.row_of_key there member same]
    exact (Bool.not_eq_true' _).mp finished

/-- **Every interleaving of the calls and pipelines**, from any apps and deployments.  In every run
in which no cancellation and no pipeline writes to a deployment that was finished since it was
read, no rollback marks a deployment as building, the write of `failed` goes through and no id is
drawn twice: a final status stays, a deployment that was running is not cancelled and keeps its
container, and one whose pipeline has ended is not under way, in every state. -/
theorem statuses_go_one_way {apps : List ShortId} {deployments : Table DeploymentEntry.id}
    {events : List (Event Call Input)}
    (undisturbed : Guarded program.step Undisturbed (initial apps deployments) events) :
    Throughout program.step Good (initial apps deployments) events := by
  refine Threads.Holds.throughout ?_ ?_ (fun _ => Holds.good)
    (.start (inv_initial apps deployments)) undisturbed
  · intro system p call holds _ _
    exact (sure_begin holds.shared call).settles holds
  · intro system p task input holds member calm
    have here := calm (p, task) (Table.find_eq_some.mpr ⟨member, rfl⟩)
    exact (sure_next holds.shared (holds.tasks p task member) here).settles holds

/-! ## A cancellation that comes too late -/

section Late

def shop : ShortId := ShortId.new

def blue : ShortId := ShortId.ofSeven [3, 3, 3, 3, 3, 3, 3] rfl

/-- A deployment of an image, up to its pipeline: the status is `deploying`. -/
def deploys : List (Event Call Input) :=
  [.begin 0 (.deploy shop), .advance 0 .ok, .advance 0 .ok, .advance 0 (.drawn blue .pull false),
    .advance 0 .ok, .advance 0 .ok, .advance 0 .ok, .begin 1 (.run ⟨shop, blue, .pull⟩),
    .advance 1 .ok]

/-- Two cancellations read `deploying` and write, and the pipeline notices. -/
def cancelledInTime : List (Event Call Input) :=
  deploys ++ [.begin 2 (.cancel blue), .begin 3 (.cancel blue), .advance 2 .ok, .advance 3 .ok,
    .advance 2 .ok, .advance 3 .ok, .advance 2 .ok, .advance 1 .cancelled, .advance 1 .ok,
    .advance 1 .ok]

theorem cancelledInTime_one_way :
    Guarded program.step Undisturbed (initial [shop] .empty) cancelledInTime ∧
      Throughout program.step Good (initial [shop] .empty) cancelledInTime := by
  refine ⟨?undisturbed, statuses_go_one_way ?undisturbed⟩
  decide

/-- The cancellation reads `deploying`, the deployment goes live, and the cancellation goes on
during the drain period. -/
def cancelledLate : List (Event Call Input) :=
  deploys ++ [.begin 2 (.cancel blue), .advance 2 .ok, .advance 1 .ok, .advance 2 .ok,
    .advance 2 .ok, .advance 1 .cancelled, .advance 1 .ok]

/-- **A running deployment is cancelled** and its container removed. -/
theorem cancelled_late_removed :
    let live := exec program.step (initial [shop] .empty) (cancelledLate.take 12)
    let last := exec program.step (initial [shop] .empty) cancelledLate
    live.shared.status blue = some .running ∧ last.shared.status blue = some .cancelled ∧
      last.shared.history.removed = [blue] ∧ ¬ Good last := by
  intro live last
  refine ⟨by decide, by decide, by decide, ?_⟩
  intro good
  have removed : last.shared.history.removed = [blue] := by decide
  rw [good.kept] at removed
  cases removed

end Late

end R3v3rs3.Platform.Deploy.Status
