/-
# R3v3rs3.Platform.Deploy.Calls -- deployments and the calls that move them

The calls of the platform (deploy, webhook, rollback, approve, reject, cancel, update, delete) and
the pipelines they spawn are tasks over one shared state: the rows of the database, the set of busy
apps, the queue of pushes, the cancellation tokens and the jobs that the runtime has not picked up.
A task stands before one access: a statement of the database, a locked map, a drop of its `AppLock`.

What a task does next is said in two parts.  `next` decides from the state which access it is and
what is left to do, `perform` carries the access out.  What the environment decides is in the input:
whether a statement fails, which id is drawn, whether a request is dropped, whether a pipeline
notices that its token was cancelled.

The state keeps a history that no task reads: every status a deployment has had, the deployments
whose pipeline has ended, and those whose container a cancellation removed after they were running.
-/
import R3v3rs3.Api.Error
import R3v3rs3.Theory.Threads

namespace R3v3rs3.Platform.Deploy
open Theory Api
open Theory.Threads (Program System)
set_option autoImplicit false

/-! ## The state -/

inductive DeploymentStatus where
  | queued
  | pendingApproval
  | building
  | deploying
  | running
  | superseded
  | failed
  | cancelled
  deriving DecidableEq

def DeploymentStatus.isUnfinished : DeploymentStatus → Bool
  | .queued | .pendingApproval | .building | .deploying => true
  | _ => false

structure DeploymentEntry where
  id : ShortId
  app : ShortId
  status : DeploymentStatus
  deriving DecidableEq

/-- Where the image of a job comes from; a Compose job has a number of targets. -/
inductive JobImage where
  | pull
  | build
  | compose (targets : Nat)
  deriving DecidableEq

structure Job where
  app : ShortId
  deployment : ShortId
  image : JobImage
  deriving DecidableEq

structure History where
  /-- Every status that a deployment has had. -/
  reached : List (ShortId × DeploymentStatus)
  /-- The deployments whose pipeline has ended. -/
  ended : List ShortId
  /-- The deployments that were running when a cancellation removed their container. -/
  removed : List ShortId

structure Shared where
  apps : List ShortId
  deployments : Table DeploymentEntry.id
  busy : List ShortId
  /-- The apps for which a push is queued. -/
  queued : List ShortId
  /-- The deployments with a registered token. -/
  cancellations : List ShortId
  /-- The deployments whose token was cancelled. -/
  cancelled : List ShortId
  /-- The jobs that were spawned and not picked up; each holds its lock. -/
  spawned : List Job
  history : History

def Shared.initial (apps : List ShortId) (deployments : Table DeploymentEntry.id) : Shared where
  apps := apps
  deployments := deployments
  busy := []
  queued := []
  cancellations := []
  cancelled := []
  spawned := []
  history :=
    ⟨deployments.rows.map fun row => (row.id, row.status),
      -- what was finished before the server started has no pipeline any more
      (deployments.rows.filter fun row => !row.status.isUnfinished).map DeploymentEntry.id, []⟩

variable (s : Shared)

namespace Shared

def status (s : Shared) (id : ShortId) : Option DeploymentStatus :=
  (s.deployments.find id).map DeploymentEntry.status

/-- `running_deployment`. -/
def runningDeployment (app : ShortId) : Option ShortId :=
  (s.deployments.rows.find? fun row => row.app = app && row.status = .running).map
    DeploymentEntry.id

/-- An `INSERT` goes through when the id is free and the app is there. -/
def insertable (id app : ShortId) : Bool :=
  decide (id ∉ s.deployments.keys) && decide (app ∈ s.apps)

/-- The statuses of all rows are set at once. -/
def rewrite (f : DeploymentEntry → DeploymentStatus) : Shared :=
  let deployments := s.deployments.mapRows (fun row => { row with status := f row }) fun _ => rfl
  { s with
    deployments
    history.reached := deployments.rows.map (fun row => (row.id, row.status)) ++ s.history.reached }

end Shared

/-! ## Accesses -/

inductive Effect where
  | none
  /-- `AppLock` is made. -/
  | lock (app : ShortId)
  /-- `AppLock` is dropped. -/
  | unlock (app : ShortId)
  /-- `busy_apps().remove` of a cancellation. -/
  | clear (app : ShortId)
  | queue (app : ShortId)
  | unqueue (app : ShortId)
  /-- The token is registered and the job spawned. -/
  | spawn (job : Job)
  /-- The runtime starts a job. -/
  | pickUp (job : Job)
  /-- `remove_cancellation`, at the end of a pipeline. -/
  | unregister (id : ShortId)
  /-- `cancel_running_job`. -/
  | cancelToken (id : ShortId)
  | insert (entry : DeploymentEntry)
  | setStatus (id : ShortId) (status : DeploymentStatus)
  | finishDeployment (app id : ShortId)
  | deleteApp (app : ShortId)
  /-- `cleanup_cancelled_job`. -/
  | removeContainers (id : ShortId)
  deriving DecidableEq

/-- The status of a row after `finish_deployment`. -/
def finished (app id : ShortId) (row : DeploymentEntry) : DeploymentStatus :=
  if row.id = id then .running
  else if row.app = app ∧ row.status = .running then .superseded
  else row.status

def perform : Effect → Shared
  | .none => s
  | .lock app => { s with busy := app :: s.busy }
  | .unlock app => { s with busy := s.busy.filter (· ≠ app) }
  | .clear app => { s with busy := s.busy.filter (· ≠ app) }
  | .queue app => { s with queued := app :: s.queued }
  | .unqueue app => { s with queued := s.queued.filter (· ≠ app) }
  | .spawn job =>
    { s with cancellations := job.deployment :: s.cancellations, spawned := job :: s.spawned }
  | .pickUp job => { s with spawned := s.spawned.erase job }
  | .unregister id =>
    { s with
      cancellations := s.cancellations.filter (· ≠ id)
      history.ended := id :: s.history.ended }
  | .cancelToken id =>
    { s with cancellations := s.cancellations.filter (· ≠ id), cancelled := id :: s.cancelled }
  | .insert entry =>
    { s with
      deployments := s.deployments.upsert entry
      history.reached := (entry.id, entry.status) :: s.history.reached }
  | .setStatus id status => s.rewrite fun row => if row.id = id then status else row.status
  | .finishDeployment app id => s.rewrite (finished app id)
  | .deleteApp app =>
    { s with
      apps := s.apps.filter (· ≠ app)
      deployments := s.deployments.discard fun row => row.app = app }
  | .removeContainers id =>
    { s with
      history.removed :=
        if (id, .running) ∈ s.history.reached then id :: s.history.removed
        else s.history.removed }

/-! ## Tasks -/

/-- A deployment that waits for approval and is stored after the queued push was looked at. -/
structure Pending where
  id : ShortId
  app : ShortId
  deriving DecidableEq

/-- What an app is looked up and locked for. -/
inductive Purpose where
  | deploy
  | hook
  /-- `rollback`, with the deployment that was drawn. -/
  | start (id : ShortId) (image : JobImage)
  | approve (id : ShortId)
  | reject (id : ShortId)
  /-- `update_app` with another target. -/
  | update
  | delete
  /-- A backup or a restore. -/
  | maintain
  deriving DecidableEq

/-- What comes after the lock is dropped. -/
inductive After where
  | stop
  | runQueued
  | insertPending (pending : Pending)
  deriving DecidableEq

/-- What a call does next while it holds its lock. -/
inductive Work where
  /-- `deploy_app_locked`, up to the new deployment. -/
  | prepare
  | insert (id : ShortId) (image : JobImage)
  | readBack (id : ShortId) (image : JobImage)
  | spawn (id : ShortId) (image : JobImage)
  | loadSnapshot (id : ShortId)
  | approve (id : ShortId) (image : JobImage)
  | reject (id : ShortId)
  | checkTarget
  | update
  | delete
  | forgetQueued
  | maintain
  | release (after : After)
  deriving DecidableEq

/-- One await of a pipeline before `switch`. -/
inductive PipelineStep where
  | status (status : DeploymentStatus)
  /-- `docker compose up` of a target. -/
  | up
  | waitHealthy
  deriving DecidableEq

/-- The Compose deployment that was running before, with the number of its targets. -/
structure PreviousCompose where
  deployment : ShortId
  targets : Nat
  deriving DecidableEq

/-- Where a pipeline stands. -/
inductive Stage where
  | previous
  | run (todo : List PipelineStep) (started : Bool) (previous : Option PreviousCompose)
  | drain
  | rollback (deployment : ShortId) (targets : Nat)
  | fail
  | close
  | cleanup
  | unregister
  | release
  deriving DecidableEq

inductive Task where
  | findApp (app : ShortId) (purpose : Purpose) (rest : List Pending)
  | tryLock (app : ShortId) (purpose : Purpose) (rest : List Pending)
  | held (app : ShortId) (work : Work) (rest : List Pending)
  | job (job : Job) (stage : Stage)
  | runQueued (app : ShortId) (rest : List Pending)
  | insertPending (pending : Pending) (rest : List Pending)
  /-- `rollback`: the earlier deployment, then its app. -/
  | rollbackSource (id : ShortId)
  | rollbackApp (app : ShortId)
  | readPending (id : ShortId) (approve : Bool)
  /-- The four accesses of `cancel_deployment`. -/
  | cancelRead (id : ShortId)
  | cancelWrite (id app : ShortId)
  | cancelToken (id app : ShortId)
  | cancelClear (app : ShortId)
  deriving DecidableEq

/-- The app of the live `AppLock` of a task. -/
def Task.holds : Task → Option ShortId
  | .held app _ _ => some app
  | .job own _ => some own.app
  | _ => none

inductive Input where
  | ok
  | failed
  /-- The request is dropped with its future. -/
  | dropped
  /-- A new deployment is drawn; `approval` says that it has to wait. -/
  | drawn (id : ShortId) (image : JobImage) (approval : Bool)
  /-- The snapshot of a deployment. -/
  | loaded (image : JobImage)
  /-- The targets of the previous Compose deployment. -/
  | previous (targets : Nat)
  /-- The checkout of the previous deployment is gone and is made again. -/
  | rebuilt
  /-- The pipeline notices that its token was cancelled. -/
  | cancelled
  deriving DecidableEq

inductive Call where
  | deploy (app : ShortId)
  | hook (app : ShortId)
  | rollback (id : ShortId)
  | approve (id : ShortId)
  | reject (id : ShortId)
  | cancel (id : ShortId)
  | update (app : ShortId)
  | delete (app : ShortId)
  | maintain (app : ShortId)
  /-- The runtime starts a job that was spawned. -/
  | run (job : Job)

/-! ## What comes next -/

/-- A call that is done goes on with the deployments that still have to be stored. -/
def resume : List Pending → Option Task
  | [] => none
  | pending :: rest => some (.insertPending pending rest)

def Purpose.work : Purpose → Work
  | .deploy | .hook => .prepare
  | .start id image => .insert id image
  | .approve id => .loadSnapshot id
  | .reject id => .reject id
  | .update => .checkTarget
  | .delete => .delete
  | .maintain => .maintain

/-- `lock_app` and `lock_or_queue_hook`. -/
def tryLock (app : ShortId) (purpose : Purpose) (rest : List Pending) : Effect × Option Task :=
  if app ∈ s.busy then (if purpose = .hook then .queue app else .none, resume rest)
  else (.lock app, some (.held app purpose.work rest))

/-- The next access of a call that holds its lock. -/
def nextHeld (app : ShortId) (work : Work) (rest : List Pending) (input : Input) :
    Effect × Option Task :=
  let stop : Effect × Option Task := (.none, some (.held app (.release .stop) rest))
  match work, input with
  | .prepare, .drawn id _ true =>
    (.none, some (.held app (.release (.insertPending ⟨id, app⟩)) rest))
  | .prepare, .drawn id image false => (.none, some (.held app (.insert id image) rest))
  | .insert id image, .ok =>
    if s.insertable id app then
      (.insert ⟨id, app, .queued⟩, some (.held app (.readBack id image) rest))
    else stop
  | .readBack id image, .ok =>
    if id ∈ s.deployments.keys then (.none, some (.held app (.spawn id image) rest)) else stop
  | .spawn id image, _ => (.spawn ⟨app, id, image⟩, resume rest)
  | .loadSnapshot id, .loaded image => (.none, some (.held app (.approve id image) rest))
  | .approve id image, .ok =>
    if s.status id = some .pendingApproval then
      (.setStatus id .queued, some (.held app (.spawn id image) rest))
    else stop
  | .reject id, .ok =>
    if s.status id = some .pendingApproval then
      (.setStatus id .cancelled, some (.held app (.release .stop) rest))
    else stop
  | .checkTarget, .ok =>
    if s.deployments.rows.any (·.app = app) then stop
    else (.none, some (.held app .update rest))
  | .delete, .ok =>
    if app ∈ s.apps then (.deleteApp app, some (.held app .forgetQueued rest))
    else (.none, some (.held app (.release .runQueued) rest))
  | .delete, _ => (.none, some (.held app (.release .runQueued) rest))
  | .forgetQueued, _ => (.unqueue app, some (.held app (.release .stop) rest))
  | .release .stop, _ => (.unlock app, resume rest)
  | .release .runQueued, _ => (.unlock app, some (.runQueued app rest))
  | .release (.insertPending pending), _ => (.unlock app, some (.runQueued app (pending :: rest)))
  | _, _ => stop

/-- The awaits of a pipeline before `switch`. -/
def JobImage.steps : JobImage → List PipelineStep
  | .pull => [.status .deploying]
  | .build => [.status .building, .status .deploying]
  | .compose targets => (List.replicate targets
      [.status .building, .status .deploying, .up, .waitHealthy]).flatten

/-- A pipeline begins; a Compose job looks for the deployment it replaces. -/
def JobImage.stage : JobImage → Stage
  | .compose _ => .previous
  | image => .run image.steps false none

/-- An error before `switch`: once a target of a Compose job is up, the previous deployment is
brought back. -/
def afterError (started : Bool) : Option PreviousCompose → Stage
  | some previous => if started then .rollback previous.deployment previous.targets else .fail
  | none => .fail

/-- The next access of `run_job`. -/
def nextRun (job : Job) (stage : Stage) (input : Input) : Effect × Stage :=
  match stage, input with
  | .previous, .previous targets =>
    (.none, .run job.image.steps false
      ((s.runningDeployment job.app).map fun id => ⟨id, targets⟩))
  | .previous, _ => (.none, .run job.image.steps false none)
  | .run (.status status :: todo) started previous, .ok =>
    (.setStatus job.deployment status, .run todo started previous)
  | .run (.up :: todo) _ previous, .ok => (.none, .run todo true previous)
  | .run (.waitHealthy :: todo) started previous, .ok => (.none, .run todo started previous)
  | .run (_ :: _) started previous, _ => (.none, afterError started previous)
  | .run [] _ _, .ok => (.finishDeployment job.app job.deployment, .drain)
  | .run [] _ _, _ => (.none, .fail)
  | .drain, _ => (.none, .close)
  | .rollback deployment (targets + 1), .rebuilt =>
    (.setStatus deployment .building, .rollback deployment targets)
  | .rollback deployment (targets + 1), _ => (.none, .rollback deployment targets)
  | .rollback _ 0, _ => (.none, .fail)
  | .fail, .ok => (.setStatus job.deployment .failed, .close)
  | .fail, _ => (.none, .close)
  | .close, _ => (.none, .unregister)
  -- no part of `run_job`
  | .cleanup, _ | .unregister, _ | .release, _ => (.none, stage)

/-- The next access of a spawned job: `run_job`, which a cancelled token ends, and what follows. -/
def nextJob (job : Job) (stage : Stage) (input : Input) : Effect × Option Task :=
  match stage with
  | .cleanup => (.removeContainers job.deployment, some (.job job .unregister))
  | .unregister => (.unregister job.deployment, some (.job job .release))
  | .release => (.unlock job.app, some (.runQueued job.app []))
  | stage =>
    if input = .cancelled ∧ job.deployment ∈ s.cancelled then (.none, some (.job job .cleanup))
    else
      let (effect, stage) := nextRun s job stage input
      (effect, some (.job job stage))

/-- The next access of a call that holds no lock. -/
def nextFree (task : Task) (input : Input) : Effect × Option Task :=
  match task with
  | .findApp app purpose rest =>
    if app ∈ s.apps ∧ input = .ok then (.none, some (.tryLock app purpose rest))
    else (.none, resume rest)
  | .tryLock app purpose rest => tryLock s app purpose rest
  | .runQueued app rest =>
    -- a queued push is left alone during a shutdown
    if app ∈ s.queued ∧ input = .ok then (.unqueue app, some (.findApp app .hook rest))
    else (.none, resume rest)
  | .insertPending pending rest =>
    if s.insertable pending.id pending.app ∧ input = .ok then
      (.insert ⟨pending.id, pending.app, .pendingApproval⟩, resume rest)
    else (.none, resume rest)
  | .rollbackSource id =>
    match s.deployments.find id, input with
    | some source, .ok => (.none, some (.rollbackApp source.app))
    | _, _ => (.none, none)
  | .rollbackApp app =>
    if app ∈ s.apps then
      match input with
      | .drawn id _ true => (.none, some (.insertPending ⟨id, app⟩ []))
      | .drawn id image false => (.none, some (.tryLock app (.start id image) []))
      | _ => (.none, none)
    else (.none, none)
  | .readPending id approve =>
    match s.deployments.find id, input with
    | some entry, .ok =>
      if entry.status = .pendingApproval then
        (.none, some (.findApp entry.app (if approve then .approve id else .reject id) []))
      else (.none, none)
    | _, _ => (.none, none)
  | .cancelRead id =>
    match s.deployments.find id, input with
    | some entry, .ok =>
      if entry.status.isUnfinished = false then (.none, none)
      else if entry.status = .pendingApproval then (.none, some (.readPending id false))
      else (.none, some (.cancelWrite id entry.app))
    | _, _ => (.none, none)
  | .cancelWrite id app =>
    if input = .ok then (.setStatus id .cancelled, some (.cancelToken id app)) else (.none, none)
  | .cancelToken id app =>
    if id ∈ s.cancellations then (.cancelToken id, none) else (.none, some (.cancelClear app))
  | .cancelClear app => (.clear app, none)
  | .held _ _ _ | .job _ _ => (.none, some task)

/-- The next access of a task, and what is left to do.  A request that is dropped drops its lock. -/
def next (task : Task) (input : Input) : Effect × Option Task :=
  match task with
  | .job job stage => nextJob s job stage input
  | .held app work rest =>
    if input = .dropped then (.unlock app, none) else nextHeld s app work rest input
  | task => if input = .dropped then (.none, none) else nextFree s task input

def begin : Call → Effect × Option Task
  | .deploy app => (.none, some (.findApp app .deploy []))
  | .hook app => (.none, some (.findApp app .hook []))
  | .rollback id => (.none, some (.rollbackSource id))
  | .approve id => (.none, some (.readPending id true))
  | .reject id => (.none, some (.readPending id false))
  | .cancel id => (.none, some (.cancelRead id))
  | .update app => (.none, some (.findApp app .update []))
  | .delete app => (.none, some (.findApp app .delete []))
  | .maintain app => (.none, some (.findApp app .maintain []))
  | .run job =>
    if job ∈ s.spawned then (.pickUp job, some (.job job job.image.stage)) else (.none, none)

def program : Program Shared Task Call Input where
  begin _ s call :=
    let (effect, task) := begin s call
    (perform s effect, task)
  advance _ s task input :=
    let (effect, task) := next s task input
    (perform s effect, task)

abbrev State := System Shared Task

def initial (apps : List ShortId) (deployments : Table DeploymentEntry.id) : State :=
  .start (.initial apps deployments)

/-- The access that an event makes. -/
def effect (system : State) : Threads.Event Call Input → Effect
  | .begin p call =>
    match system.tasks.find p with
    | some _ => .none
    | none => (begin system.shared call).1
  | .advance p input =>
    match system.tasks.find p with
    | some (_, task) => (next system.shared task input).1
    | none => .none

/-- A step carries out its access. -/
theorem step_shared (system : State) (event : Threads.Event Call Input) :
    (program.step system event).shared = perform system.shared (effect system event) := by
  cases event with
  | begin p | advance p =>
    rw [Program.step, effect]
    cases system.tasks.find p <;> rfl

end R3v3rs3.Platform.Deploy
