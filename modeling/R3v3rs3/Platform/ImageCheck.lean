/-
# R3v3rs3.Platform.ImageCheck -- what an automatic image update writes over

A round reads all apps once and then takes them one by one: it reads the app again for its image,
asks the registry of that image, and when it finds an update it writes the specification of the
first reading back with another image, through the `update_app` that administrators call.  Between
two of these accesses any `update_app` may run.

`Kept` is what an automatic update owes to the app it finds: it changes the image reference alone,
the check found automatic deployment on, and the image it replaces is the one that was checked.
`updates_keep_edits` says when every update of a run pays that: the check finds the app with the
automatic deployment and the source that the round read, and the write finds it with the name, the
target and the specification that the round read.
-/
import Mathlib.Data.String.Basic
import R3v3rs3.Api.Text
import R3v3rs3.Api.Error
import R3v3rs3.Theory.StableSort
import R3v3rs3.Theory.Threads

namespace R3v3rs3.Platform.ImageCheck
open Api Api.Text Theory Theory.Threads
open Theory.Run (exec Guarded Throughout)
open Theory.StableSort (sortByKey)
set_option autoImplicit false

/-! ## Tags -/

structure ParsedTag where
  numbers : List Nat
  suffix : List Char

/-- `none` when a part is empty or no number. -/
def parseNumbers : List (List Char) → Option (List Nat)
  | [] => some []
  | part :: rest => do
    let number ← if part = [] then none else parseU64 part
    let numbers ← parseNumbers rest
    return number :: numbers

/-- A version and what follows its first `-`. -/
def parseTag (tag : List Char) : Option ParsedTag :=
  let plain :=
    match tag with
    | 'v' :: rest | 'V' :: rest => rest
    | _ => tag
  let version := plain.takeWhile (· ≠ '-')
  (parseNumbers (split '.' version)).bind fun numbers =>
    if numbers = [] then none else some ⟨numbers, plain.drop version.length⟩

/-- The highest version above the current one with the same suffix. -/
def findNewerTag (current : List Char) (tags : List (List Char)) : Option (List Char) :=
  (parseTag current).bind fun current =>
    let best := tags.foldl (fun best tag =>
      match parseTag tag with
      | none => best
      | some parsed =>
        if parsed.suffix ≠ current.suffix then best
        else if current.numbers < parsed.numbers ∧
            ∀ found ∈ best, (found : List Nat × List Char).1 < parsed.numbers then
          some (parsed.numbers, tag)
        else best) none
    best.map Prod.snd

def hashOfDigest (digest : List Char) : List Char :=
  match splitOnce '@' digest with
  | some (_, hash) => hash
  | none => digest

structure ImageUpdateStatus where
  updateAvailable : Bool
  currentTag : Option (List Char)
  latestTag : Option (List Char)
  currentDigest : Option (List Char)
  latestDigest : Option (List Char)
  checkedAt : Nat

/-- What the registry of an image answers: the tags, empty when they cannot be read, and the
digest of a tag. -/
structure Registry where
  tags : List (List Char)
  digest : List Char → Option (List Char)

/-- `none` when the digest of the current tag cannot be read. -/
def checkImageUpdate (registry : Registry) (image : ImageRef) (running : Option (List Char))
    (now : Nat) : Option ImageUpdateStatus :=
  let tag := image.tagOrDigest
  if (stripStart "sha256:".toList tag).isSome then
    some ⟨false, some tag, none, running, none, now⟩
  else
    match findNewerTag tag registry.tags with
    | some newer => some ⟨true, some tag, some newer, running, registry.digest newer, now⟩
    | none =>
      (registry.digest tag).map fun remote =>
        let available :=
          match running with
          | some deployed => hashOfDigest deployed ≠ remote
          | none => false
        ⟨available, some tag, none, running, some remote, now⟩

/-! ## Apps -/

section Apps

-- `Repo` is what a Git or a Compose source holds, `Settings` the other fields of a specification
variable (Repo Settings : Type)

inductive AppSource where
  | image (image : ImageRef)
  | repository (source : Repo)
  deriving DecidableEq

structure AppSpec where
  source : AppSource Repo
  autoDeploy : Bool
  previewOf : Option (ShortId × Nat)
  replicaOf : Option ShortId
  hostPort : Option Nat
  settings : Settings
  deriving DecidableEq

structure AppRequest where
  name : String
  target : ShortId
  spec : AppSpec Repo Settings

structure AppEntry where
  id : ShortId
  name : String
  target : ShortId
  spec : AppSpec Repo Settings
  createdAt : Nat
  updatedAt : Nat

end Apps

variable {Repo Settings : Type} {app row : AppEntry Repo Settings} {id : ShortId}

def AppEntry.isImage (app : AppEntry Repo Settings) : Bool :=
  match app.spec.source with
  | .image _ => true
  | .repository _ => false

abbrev Apps (Repo Settings : Type) := Table (AppEntry.id : AppEntry Repo Settings → ShortId)

/-- The name and the host port are unique among the apps. -/
def Apps.Free (apps : Apps Repo Settings) (app : AppEntry Repo Settings) : Prop :=
  ∀ other ∈ apps.rows, other.id ≠ app.id →
    other.name ≠ app.name ∧ (app.spec.hostPort = none ∨ other.spec.hostPort ≠ app.spec.hostPort)

instance (apps : Apps Repo Settings) (app : AppEntry Repo Settings) : Decidable (apps.Free app) :=
  inferInstanceAs (Decidable (∀ other ∈ apps.rows, _))

/-- `UPDATE apps SET name = ?, target_id = ?, spec = ?, updated_at = ? WHERE id = ?`; `none` when
no row has the id, or the name or the host port is taken. -/
def Apps.updateApp (apps : Apps Repo Settings) (app : AppEntry Repo Settings) :
    Option (AppEntry Repo Settings × Apps Repo Settings) :=
  match apps.find app.id with
  | some row => if apps.Free app then some (row, apps.upsert app) else none
  | none => none

/-! ## Tasks -/

/-- What follows an `update_app`: the answer to an administrator, or the deployment of the app that
a round updated, with the apps that the round has yet to take and the row that its check read. -/
inductive After (Repo Settings : Type) where
  | answer
  | auto (app : AppEntry Repo Settings) (rest : List (AppEntry Repo Settings))
      (checked : AppEntry Repo Settings)

inductive Task (Repo Settings : Type) where
  /-- `check_app`, before the app is read; the round read it as `app`. -/
  | checking (app : AppEntry Repo Settings) (rest : List (AppEntry Repo Settings))
  /-- The registry of the image is asked. -/
  | asking (app : AppEntry Repo Settings) (rest : List (AppEntry Repo Settings))
      (checked : AppEntry Repo Settings) (image : ImageRef)
  /-- Before the result is stored. -/
  | noting (app : AppEntry Repo Settings) (rest : List (AppEntry Repo Settings))
      (checked : AppEntry Repo Settings) (status : ImageUpdateStatus)
  /-- `update_app`, before the app is read. -/
  | updating (id : ShortId) (request : AppRequest Repo Settings) (after : After Repo Settings)
  | validating (current : AppEntry Repo Settings) (request : AppRequest Repo Settings)
      (after : After Repo Settings)
  /-- The target changes: the app is locked and its deployments are read. -/
  | locking (current : AppEntry Repo Settings) (request : AppRequest Repo Settings)
      (after : After Repo Settings)
  | writing (current : AppEntry Repo Settings) (request : AppRequest Repo Settings)
      (after : After Repo Settings)
  /-- The row is written; limits and webhook follow. -/
  | written (id : ShortId) (after : After Repo Settings)
  | deploying (app : AppEntry Repo Settings) (rest : List (AppEntry Repo Settings))
      (checked : AppEntry Repo Settings)

/-- An automatic update: the row it found, the row it wrote and the row that its check read. -/
structure AutoUpdate (Repo Settings : Type) where
  before : AppEntry Repo Settings
  after : AppEntry Repo Settings
  checked : AppEntry Repo Settings

/-- `updates` and `deployed` are the history; no step looks at them. -/
structure Shared (Repo Settings : Type) where
  apps : Apps Repo Settings
  statuses : Table (Prod.fst : ShortId × ImageUpdateStatus → ShortId)
  /-- The locked apps and the requests that hold them. -/
  busy : Table (Prod.fst : ShortId × Nat → ShortId)
  updates : List (AutoUpdate Repo Settings)
  /-- The rows that the checks before the automatic deployments read. -/
  deployed : List (AppEntry Repo Settings)

inductive Call (Repo Settings : Type) where
  | checkAllApps
  | updateApp (id : ShortId) (request : AppRequest Repo Settings)

inductive Input where
  | go (now : Nat)
  /-- The registry answered; `running` is the digest of the running deployment. -/
  | answered (registry : Registry) (running : Option (List Char)) (now : Nat)
  /-- Whether the app has a deployment. -/
  | deployments (exist : Bool)
  | failed

/-- The next app of a round that has an image. -/
def nextApp : List (AppEntry Repo Settings) → Option (Task Repo Settings)
  | [] => none
  | app :: rest => if app.isImage then some (.checking app rest) else nextApp rest

/-- What an update or a deployment is followed by. -/
def After.resume : After Repo Settings → Option (Task Repo Settings)
  | .answer => none
  | .auto _ rest _ => nextApp rest

/-- `auto_deploy_if_needed` up to its first access. -/
def autoDeployIfNeeded (app : AppEntry Repo Settings) (rest : List (AppEntry Repo Settings))
    (checked : AppEntry Repo Settings) (status : ImageUpdateStatus) :
    Option (Task Repo Settings) :=
  if !app.spec.autoDeploy || !status.updateAvailable then nextApp rest
  else
    match app.spec.source with
    | .repository _ => nextApp rest
    | .image image =>
      match status.latestTag.bind fun tag => ImageRef.parse (image.repository ++ ':' :: tag) with
      | some newer =>
        some (.updating app.id
          ⟨app.name, app.target, { app.spec with source := .image newer }⟩
          (.auto app rest checked))
      | none => some (.deploying app rest checked)

namespace Shared

variable (shared : Shared Repo Settings)

/-- The request releases its lock. -/
def unlock (p : Nat) : Shared Repo Settings :=
  { shared with busy := shared.busy.discard fun row => row.2 = p }

/-- `check_app` for the next app of a round. -/
def check : Task Repo Settings → Input → Shared Repo Settings × Option (Task Repo Settings)
  | .checking app rest, .go _ =>
    match shared.apps.find app.id with
    | some checked =>
      match checked.spec.source with
      | .image image => (shared, some (.asking app rest checked image))
      | .repository _ => (shared, nextApp rest)
    | none => (shared, nextApp rest)
  | .asking app rest checked image, .answered registry running now =>
    match checkImageUpdate registry image running now with
    | some status => (shared, some (.noting app rest checked status))
    | none => (shared, nextApp rest)
  | .noting app rest checked status, .go _ =>
    ({ shared with statuses := shared.statuses.upsert (app.id, status) },
      autoDeployIfNeeded app rest checked status)
  | .checking _ rest, .failed | .asking _ rest _ _, .failed | .noting _ rest _ _, .failed =>
    (shared, nextApp rest)
  -- the deployment is started; it leaves the row as it is
  | .deploying _ rest checked, .go _ =>
    ({ shared with deployed := checked :: shared.deployed }, nextApp rest)
  | .deploying _ rest _, .failed => (shared, nextApp rest)
  | task, _ => (shared, some task)

/-- The history of an update that wrote `app` over `row`. -/
def record (row app : AppEntry Repo Settings) : After Repo Settings → Shared Repo Settings
  | .answer => shared
  | .auto _ _ checked => { shared with updates := ⟨row, app, checked⟩ :: shared.updates }

/-- `update_app`. -/
def update (p : Nat) :
    Task Repo Settings → Input → Shared Repo Settings × Option (Task Repo Settings)
  | .updating id request after, .go _ =>
    match shared.apps.find id with
    | some current =>
      (shared, some (.validating current
        { request with
          spec := { request.spec with
            previewOf := current.spec.previewOf
            replicaOf := current.spec.replicaOf } } after))
    | none => (shared, after.resume)
  | .validating current request after, .go _ =>
    if request.target ≠ current.target then
      if current.id ∈ shared.busy.keys then (shared, after.resume)
      else
        ({ shared with busy := shared.busy.upsert (current.id, p) },
          some (.locking current request after))
    else (shared, some (.writing current request after))
  | .locking current request after, .deployments exist =>
    if exist then (shared.unlock p, after.resume)
    else (shared, some (.writing current request after))
  | .writing current request after, .go now =>
    let app : AppEntry Repo Settings :=
      ⟨current.id, request.name, request.target, request.spec, current.createdAt, now⟩
    match shared.apps.updateApp app with
    | some (row, apps) =>
      ({ shared.record row app after with apps }, some (.written current.id after))
    | none => (shared.unlock p, after.resume)
  | .written _ .answer, .go _ => (shared.unlock p, none)
  | .written _ (.auto app rest checked), .go _ =>
    (shared.unlock p, some (.deploying app rest checked))
  | .updating _ _ after, .failed | .validating _ _ after, .failed | .locking _ _ after, .failed
  | .writing _ _ after, .failed | .written _ after, .failed => (shared.unlock p, after.resume)
  | task, _ => (shared, some task)

def advance (p : Nat) (shared : Shared Repo Settings) (task : Task Repo Settings)
    (input : Input) : Shared Repo Settings × Option (Task Repo Settings) :=
  match task with
  | .checking .. | .asking .. | .noting .. | .deploying .. => shared.check task input
  | .updating .. | .validating .. | .locking .. | .writing .. | .written .. =>
    shared.update p task input

def begin (_ : Nat) (shared : Shared Repo Settings) :
    Call Repo Settings → Shared Repo Settings × Option (Task Repo Settings)
  | .checkAllApps => (shared, nextApp (sortByKey AppEntry.name shared.apps.rows))
  | .updateApp id request => (shared, some (.updating id request .answer))

end Shared

def program : Program (Shared Repo Settings) (Task Repo Settings) (Call Repo Settings) Input :=
  ⟨Shared.begin, Shared.advance⟩

abbrev State (Repo Settings : Type) := System (Shared Repo Settings) (Task Repo Settings)

/-! ## Edits are kept -/

/-- An automatic update changes the image reference of the app it finds and nothing else, the
check before it found automatic deployment on, and the image it replaces is the one that was
checked. -/
@[mk_iff]
structure AutoUpdate.KeepsEdits (update : AutoUpdate Repo Settings) : Prop where
  name : update.after.name = update.before.name
  target : update.after.target = update.before.target
  spec : update.after.spec = { update.before.spec with source := update.after.spec.source }
  switchedOn : update.checked.spec.autoDeploy = true
  image : update.before.spec.source = update.checked.spec.source

instance [DecidableEq Repo] [DecidableEq Settings] (update : AutoUpdate Repo Settings) :
    Decidable update.KeepsEdits :=
  decidable_of_iff' _ update.keepsEdits_iff

/-- Every automatic update kept the edits, and every automatic deployment followed a check that
found it switched on. -/
@[mk_iff]
structure Kept (state : State Repo Settings) : Prop where
  updates : ∀ update ∈ state.shared.updates, update.KeepsEdits
  deployed : ∀ checked ∈ state.shared.deployed, checked.spec.autoDeploy = true

instance [DecidableEq Repo] [DecidableEq Settings] :
    DecidablePred (Kept : State Repo Settings → Prop) := fun state =>
  decidable_of_iff' _ (kept_iff state)

/-- The app has the name, the target and the specification that the round read. -/
def Unedited (app row : AppEntry Repo Settings) : Prop :=
  row.name = app.name ∧ row.target = app.target ∧ row.spec = app.spec

/-- What the next step of a task has to find. -/
def Calm (state : State Repo Settings) : Task Repo Settings → Input → Prop
  -- automatic deployment is still on, and the source is still the one that the round read
  | .checking app _, .go _ =>
    app.spec.autoDeploy = true → ∀ row ∈ state.shared.apps.find app.id,
      row.spec.autoDeploy = true ∧ row.spec.source = app.spec.source
  | .writing current _ (.auto app _ _), .go _ =>
    ∀ row ∈ state.shared.apps.find current.id, Unedited app row
  | _, _ => True

instance [DecidableEq Repo] [DecidableEq Settings] (state : State Repo Settings)
    (task : Task Repo Settings) (input : Input) : Decidable (Calm state task input) := by
  unfold Calm Unedited
  split <;> infer_instance

def Undisturbed (state : State Repo Settings) : Event (Call Repo Settings) Input → Prop
  | .advance p input => ∀ slot ∈ state.tasks.find p, Calm state slot.2 input
  | .begin _ _ => True

instance [DecidableEq Repo] [DecidableEq Settings] (state : State Repo Settings)
    (event : Event (Call Repo Settings) Input) : Decidable (Undisturbed state event) := by
  unfold Undisturbed
  split <;> infer_instance

/-! ## What the tasks rely on -/

/-- The check found the app as the round read it, as far as its update depends on it. -/
def Found (app checked : AppEntry Repo Settings) : Prop :=
  app.spec.autoDeploy = true →
    checked.spec.autoDeploy = true ∧ checked.spec.source = app.spec.source

/-- An automatic update asks for the app that the round read, with another image. -/
def After.Asks (id : ShortId) (request : AppRequest Repo Settings) : After Repo Settings → Prop
  | .answer => True
  | .auto app _ checked =>
    id = app.id ∧ app.spec.autoDeploy = true ∧ Found app checked ∧
      request.name = app.name ∧ request.target = app.target ∧
      ∃ source previewOf replicaOf,
        request.spec = { app.spec with source, previewOf, replicaOf }

/-- The stored app has the origin that the specification names. -/
def Origin (apps : Apps Repo Settings) (id : ShortId) (spec : AppSpec Repo Settings) : Prop :=
  ∀ row ∈ apps.find id,
    row.spec.previewOf = spec.previewOf ∧ row.spec.replicaOf = spec.replicaOf

/-- The check before an automatic update found it switched on. -/
def After.SwitchedOn : After Repo Settings → Prop
  | .answer => True
  | .auto _ _ checked => checked.spec.autoDeploy = true

def Relies (apps : Apps Repo Settings) : Task Repo Settings → Prop
  | .checking _ _ => True
  | .asking app _ checked _ | .noting app _ checked _ => Found app checked
  | .updating id request after => after.Asks id request
  | .validating current request after | .locking current request after
  | .writing current request after =>
    after.Asks current.id request ∧ Origin apps current.id request.spec
  | .written _ after => after.SwitchedOn
  | .deploying _ _ checked => checked.spec.autoDeploy = true

def History (shared : Shared Repo Settings) : Prop :=
  (∀ update ∈ shared.updates, update.KeepsEdits) ∧
    ∀ checked ∈ shared.deployed, checked.spec.autoDeploy = true

abbrev Inv : State Repo Settings → Prop :=
  Holds History fun shared _ task => Relies shared.apps task

abbrev Owes : State Repo Settings → Nat →
    Shared Repo Settings × Option (Task Repo Settings) → Prop :=
  Settles History fun shared _ task => Relies shared.apps task

theorem relies_nextApp (apps : Apps Repo Settings) (rest : List (AppEntry Repo Settings)) :
    ∀ task ∈ nextApp rest, Relies apps task := by
  induction rest with
  | nil => simp [nextApp]
  | cons app rest ih =>
    intro task next
    rw [nextApp] at next
    split at next
    · cases next
      trivial
    · exact ih task next

theorem relies_resume (apps : Apps Repo Settings) (after : After Repo Settings) :
    ∀ task ∈ after.resume, Relies apps task := by
  cases after with
  | answer => simp [After.resume]
  | auto app rest checked => exact relies_nextApp apps rest

theorem relies_autoDeploy (apps : Apps Repo Settings) {checked : AppEntry Repo Settings}
    (found : Found app checked) (rest : List (AppEntry Repo Settings))
    (status : ImageUpdateStatus) :
    ∀ task ∈ autoDeployIfNeeded app rest checked status, Relies apps task := by
  intro task next
  rw [autoDeployIfNeeded] at next
  split at next
  · exact relies_nextApp apps rest task next
  · rename_i wanted
    have on : app.spec.autoDeploy = true := by
      by_contra off
      simp [off] at wanted
    split at next
    · exact relies_nextApp apps rest task next
    · split at next
      · rename_i newer _
        cases next
        exact ⟨rfl, on, found, rfl, rfl, .image newer, _, _, rfl⟩
      · cases next
        exact (found on).1

variable {apps next : Apps Repo Settings}

theorem updateApp_row (written : apps.updateApp app = some (row, next)) :
    apps.find app.id = some row ∧ next = apps.upsert app := by
  rw [Apps.updateApp] at written
  split at written
  · rename_i found
    split at written
    · cases written
      exact ⟨found, rfl⟩
    · cases written
  · cases written

/-- A write keeps the origin of every app. -/
theorem Origin.write (own : Origin apps app.id app.spec)
    (written : apps.updateApp app = some (row, next)) {spec : AppSpec Repo Settings}
    (origin : Origin apps id spec) : Origin next id spec := by
  obtain ⟨found, rfl⟩ := updateApp_row written
  intro other here
  rw [Table.find_upsert] at here
  split at here
  · rename_i same
    cases here
    obtain ⟨preview, replica⟩ := own row found
    obtain ⟨preview', replica'⟩ := origin row (same ▸ found)
    exact ⟨preview.symm.trans preview', replica.symm.trans replica'⟩
  · exact origin other here

theorem Relies.write (own : Origin apps app.id app.spec)
    (written : apps.updateApp app = some (row, next)) {task : Task Repo Settings}
    (relies : Relies apps task) : Relies next task := by
  cases task with
  | validating | locking | writing => exact ⟨relies.1, Origin.write own written relies.2⟩
  | _ => exact relies

/-! ## Every step -/

section Steps

variable {state : State Repo Settings} {p : Nat} {task : Task Repo Settings} {input : Input}
  {shared : Shared Repo Settings} {request : AppRequest Repo Settings}
  {after : After Repo Settings}

/-- A step that leaves the apps and the history as they are. -/
theorem settles_same (inv : Inv state) {next : Option (Task Repo Settings)}
    (apps : shared.apps = state.shared.apps) (history : History shared)
    (relies : ∀ task ∈ next, Relies state.shared.apps task) : Owes state p (shared, next) := by
  refine ⟨history, ?_, ?_⟩
  · intro task here
    rw [apps]
    exact relies task here
  · intro q task member _
    rw [apps]
    exact inv.tasks q task member

theorem settles_goto (inv : Inv state) {next : Task Repo Settings}
    (apps : shared.apps = state.shared.apps) (history : History shared)
    (relies : Relies state.shared.apps next) : Owes state p (shared, some next) := by
  refine settles_same inv apps history ?_
  rintro task ⟨⟩
  exact relies

theorem settles_check (inv : Inv state) (relies : Relies state.shared.apps task)
    (calm : Calm state task input) :
    Owes state p (state.shared.check task input) := by
  have on : ∀ rest, Owes state p (state.shared, nextApp rest) :=
    fun rest => settles_same inv rfl inv.shared (relies_nextApp _ rest)
  unfold Shared.check
  split
  -- checking
  · split
    · rename_i checked row
      split
      · exact settles_goto inv rfl inv.shared fun wanted => calm wanted checked row
      · exact on _
    · exact on _
  -- asking
  · split
    · exact settles_goto inv rfl inv.shared relies
    · exact on _
  -- noting
  · exact settles_same inv rfl inv.shared (relies_autoDeploy _ relies _ _)
  · exact on _
  · exact on _
  · exact on _
  -- deploying
  · refine settles_same inv rfl ⟨inv.shared.1, ?_⟩ (relies_nextApp _ _)
    intro checked member
    rcases List.mem_cons.mp member with rfl | older
    · exact relies
    · exact inv.shared.2 checked older
  · exact on _
  · exact settles_goto inv rfl inv.shared relies

/-- The write of an automatic update on an app that nobody edited. -/
theorem keepsEdits_of_unedited {checked : AppEntry Repo Settings}
    {rest : List (AppEntry Repo Settings)} (asks : (After.auto app rest checked).Asks id request)
    (origin : row.spec.previewOf = request.spec.previewOf ∧
      row.spec.replicaOf = request.spec.replicaOf) (unedited : Unedited app row)
    (createdAt now : Nat) :
    AutoUpdate.KeepsEdits
      ⟨row, ⟨id, request.name, request.target, request.spec, createdAt, now⟩, checked⟩ := by
  obtain ⟨-, on, found, name, target, source, previewOf, replicaOf, spec⟩ := asks
  obtain ⟨sameName, sameTarget, sameSpec⟩ := unedited
  obtain ⟨switchedOn, image⟩ := found on
  refine ⟨name.trans sameName.symm, target.trans sameTarget.symm, ?_, switchedOn, ?_⟩
  · rw [spec] at origin
    obtain ⟨preview, replica⟩ := origin
    subst preview replica
    show request.spec = { row.spec with source := request.spec.source }
    rw [spec, sameSpec]
  · show row.spec.source = checked.spec.source
    rw [sameSpec, image]

theorem history_record (history : History shared)
    (kept : ∀ app' rest checked, after = .auto app' rest checked →
      AutoUpdate.KeepsEdits ⟨row, app, checked⟩) : History (shared.record row app after) := by
  cases after with
  | answer => exact history
  | auto app' rest checked =>
    refine ⟨?_, history.2⟩
    intro update member
    rcases List.mem_cons.mp member with rfl | older
    · exact kept app' rest checked rfl
    · exact history.1 update older

theorem switchedOn_of_asks (asks : after.Asks id request) : after.SwitchedOn := by
  cases after with
  | answer => trivial
  | auto => exact (asks.2.2.1 asks.2.1).1

theorem asks_origin (asks : after.Asks id request) (previewOf : Option (ShortId × Nat))
    (replicaOf : Option ShortId) :
    after.Asks id { request with spec := { request.spec with previewOf, replicaOf } } := by
  cases after with
  | answer => trivial
  | auto =>
    obtain ⟨same, on, found, name, target, source, _, _, spec⟩ := asks
    refine ⟨same, on, found, name, target, source, previewOf, replicaOf, ?_⟩
    show { request.spec with previewOf, replicaOf } = _
    rw [spec]

theorem settles_update (inv : Inv state) (relies : Relies state.shared.apps task)
    (calm : Calm state task input) :
    Owes state p (state.shared.update p task input) := by
  have ended : ∀ after : After Repo Settings,
      Owes state p (state.shared.unlock p, after.resume) :=
    fun after => settles_same inv rfl inv.shared (relies_resume _ after)
  unfold Shared.update
  split
  -- updating
  · split
    · rename_i current found
      obtain rfl := (Table.mem_of_find found).2
      refine settles_goto inv rfl inv.shared ⟨asks_origin relies _ _, ?_⟩
      intro row here
      cases found.symm.trans here
      exact ⟨rfl, rfl⟩
    · exact settles_same inv rfl inv.shared (relies_resume _ _)
  -- validating
  · split
    · split
      · exact settles_same inv rfl inv.shared (relies_resume _ _)
      · exact settles_goto inv rfl inv.shared relies
    · exact settles_goto inv rfl inv.shared relies
  -- locking
  · split
    · exact ended _
    · exact settles_goto inv rfl inv.shared relies
  -- writing
  · dsimp only
    split
    · rename_i row apps written
      obtain ⟨asks, origin⟩ := relies
      have found := (updateApp_row written).1
      refine ⟨history_record inv.shared ?_, ?_, ?_⟩
      · rintro app rest checked rfl
        exact keepsEdits_of_unedited asks (origin row found) (calm row found) _ _
      · rintro task ⟨⟩
        exact switchedOn_of_asks asks
      · intro q task member _
        exact (inv.tasks q task member).write origin written
    · exact ended _
  -- written
  · exact settles_same inv rfl inv.shared (by simp)
  · exact settles_goto inv rfl inv.shared relies
  · exact ended _
  · exact ended _
  · exact ended _
  · exact ended _
  · exact ended _
  · exact settles_goto inv rfl inv.shared relies

theorem settles_begin (inv : Inv state) (call : Call Repo Settings) :
    Owes state p (Shared.begin p state.shared call) := by
  cases call with
  | checkAllApps => exact settles_same inv rfl inv.shared (relies_nextApp _ _)
  | updateApp =>
    exact settles_goto inv rfl inv.shared trivial

end Steps

/-! ## Every run -/

/-- The stored apps, with no request under way. -/
def start (apps : Apps Repo Settings) : State Repo Settings :=
  System.start ⟨apps, .empty, .empty, [], []⟩

/-- **Updates keep edits.**  In every run of rounds and `update_app` requests in which each check
finds automatic deployment and source as the round read them, and each automatic write finds the
name, the target and the specification as the round read them, every automatic update changes the
image reference alone, after a check that found it switched on, and replaces the image that was
checked. -/
theorem updates_keep_edits {apps : Apps Repo Settings}
    {events : List (Event (Call Repo Settings) Input)}
    (undisturbed : Guarded program.step Undisturbed (start apps) events) :
    Throughout program.step Kept (start apps) events := by
  have begun : ∀ (state : State Repo Settings) p call, Inv state →
      (∀ task, (p, task) ∉ state.tasks.rows) → Undisturbed state (.begin p call) →
        Owes state p (program.begin p state.shared call) :=
    fun _ _ call inv _ _ => settles_begin inv call
  have advanced : ∀ (state : State Repo Settings) p task input, Inv state →
      (p, task) ∈ state.tasks.rows → Undisturbed state (.advance p input) →
        Owes state p (program.advance p state.shared task input) :=
    fun _ p task _ inv member undisturbed => by
      have calm := undisturbed (p, task) (Table.find_eq_some.mpr ⟨member, rfl⟩)
      dsimp only [program, Shared.advance]
      split
      all_goals first
        | exact settles_check inv (inv.tasks p _ member) calm
        | exact settles_update inv (inv.tasks p _ member) calm
  have sound : ∀ state : State Repo Settings, Inv state → Kept state :=
    fun _ inv => ⟨inv.shared.1, inv.shared.2⟩
  exact Holds.throughout begun advanced sound (Holds.start ⟨by simp, by simp⟩) undisturbed

/-! ## Edits during a round -/

section Edits

def nginx : ImageRef := ⟨"nginx:1.26".toList, by decide⟩

def caddy : ImageRef := ⟨"caddy:2.8".toList, by decide⟩

/-- The registry knows a newer tag. -/
def newer : Registry := ⟨["1.27".toList], fun _ => none⟩

def request (image : ImageRef) (autoDeploy : Bool) (settings : String) :
    AppRequest Unit String :=
  ⟨"shop", ShortId.new, ⟨.image image, autoDeploy, none, none, none, settings⟩⟩

def stored : Apps Unit String :=
  ⟨[⟨ShortId.new, "shop", ShortId.new, (request nginx true "port 80").spec, 0, 0⟩], by decide⟩

/-- An `update_app` of an administrator. -/
def edit (p : Nat) (request : AppRequest Unit String) : List (Event (Call Unit String) Input) :=
  .begin p (.updateApp ShortId.new request) :: List.replicate 4 (.advance p (.go p))

/-- The rest of a round that asked the registry. -/
def answer (p : Nat) : List (Event (Call Unit String) Input) :=
  .advance p (.answered newer none 0) :: List.replicate 6 (.advance p (.go 9))

/-- An edit, a round, and another edit. -/
def inTurn : List (Event (Call Unit String) Input) :=
  edit 1 (request nginx true "port 81") ++ [.begin 2 .checkAllApps, .advance 2 (.go 0)] ++
    answer 2 ++ edit 3 (request caddy true "port 82")

theorem inTurn_kept :
    Guarded program.step Undisturbed (start stored) inTurn ∧
      Throughout program.step Kept (start stored) inTurn := by
  refine ⟨?undisturbed, updates_keep_edits ?undisturbed⟩
  decide

/-- An edit of another field between the reading of the round and its write. -/
def editedSettings : List (Event (Call Unit String) Input) :=
  [.begin 1 .checkAllApps, .advance 1 (.go 0)] ++ edit 2 (request nginx true "port 81") ++ answer 1

/-- Automatic deployment is switched off before the check. -/
def switchedOff : List (Event (Call Unit String) Input) :=
  [.begin 1 .checkAllApps] ++ edit 2 (request nginx false "port 80") ++ [.advance 1 (.go 0)] ++
    answer 1

/-- The image is changed while the registry of the old one is asked. -/
def editedImage : List (Event (Call Unit String) Input) :=
  [.begin 1 .checkAllApps, .advance 1 (.go 0)] ++ edit 2 (request caddy true "port 80") ++ answer 1

/-- **Rounds undo edits.**  A round writes an old field back, updates an app whose automatic
deployment is off, and replaces an image by a tag of the old one. -/
theorem rounds_undo_edits :
    ¬ Kept (exec program.step (start stored) editedSettings) ∧
      ¬ Kept (exec program.step (start stored) switchedOff) ∧
      ¬ Kept (exec program.step (start stored) editedImage) := by
  refine ⟨?_, ?_, ?_⟩ <;> decide

end Edits

end R3v3rs3.Platform.ImageCheck
