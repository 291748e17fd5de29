/-
# R3v3rs3.Platform.Backups -- whose backups a directory holds

The backups of a database lie in the directory that has the current name of its app.  Apps are
created, renamed and deleted while backups are taken, listed, read, verified and deleted, and a
directory outlives the app it was made for.  A step here is one access to the database or to the
file system, and `list_backups`, which looks the name up and reads the directory, is one step too;
between two steps any other request may run.

The ledger is what the directories are meant to hold: a backup enters it when its manifest is
written and leaves it when the database it was taken of deletes it or is itself deleted.
`backups_belong_to_one_database` says when the two agree: an app takes a name, new or in exchange
for another, only where neither directory holds a manifest, a manifest is written under the name
that the app still has, and a verification finds the manifest that it writes back.
-/
import R3v3rs3.Platform.Pitr
import R3v3rs3.Theory.Run
import R3v3rs3.Theory.Table

namespace R3v3rs3.Platform.Backups
open Api Theory Platform.Pitr Table
open Theory.StableSort (sortByKey sortByKey_perm maxByKey maxByKey_spec)
open Theory.Run (Guarded Throughout)
set_option autoImplicit false

/-! ## Apps -/

structure AppEntry where
  id : ShortId
  name : String
  /-- The engine of a managed database. -/
  database : Option String

/-- The rows of `apps`: the id is the primary key, and the name is unique. -/
structure Apps extends Table AppEntry.id where
  names_nodup : (rows.map AppEntry.name).Nodup

variable {apps : Apps}

namespace Apps

/-- No other app has the name. -/
def NameFree (apps : Apps) (app : AppEntry) : Prop :=
  ∀ other ∈ apps.rows, other.id ≠ app.id → other.name ≠ app.name

instance (apps : Apps) (app : AppEntry) : Decidable (apps.NameFree app) :=
  inferInstanceAs (Decidable (∀ other ∈ apps.rows, _))

def put (apps : Apps) (app : AppEntry) (free : apps.NameFree app) : Apps where
  toTable := apps.toTable.upsert app
  names_nodup := by
    rw [Table.upsert_rows, List.map_append, List.nodup_append']
    refine ⟨apps.names_nodup.sublist (List.filter_sublist.map _), by simp, ?_⟩
    intro name taken same
    obtain ⟨other, member, rfl⟩ := List.mem_map.mp taken
    obtain ⟨member, different⟩ := List.mem_filter.mp member
    exact free other member (by simpa using different) (by simpa using same)

theorem mem_put {app : AppEntry} {free : apps.NameFree app} {other : AppEntry} :
    other ∈ (apps.put app free).rows ↔ (other ∈ apps.rows ∧ other.id ≠ app.id) ∨ other = app := by
  simp [put]

def insertApp (apps : Apps) (app : AppEntry) : Option Apps :=
  if app.id ∈ apps.keys then none
  else if free : apps.NameFree app then some (apps.put app free) else none

def updateApp (apps : Apps) (app : AppEntry) : Option Apps :=
  if app.id ∉ apps.keys then none
  else if free : apps.NameFree app then some (apps.put app free) else none

def deleteApp (apps : Apps) (id : ShortId) : Apps where
  toTable := apps.toTable.erase id
  names_nodup := apps.names_nodup.sublist (List.filter_sublist.map _)

theorem mem_deleteApp {id : ShortId} {other : AppEntry} :
    other ∈ (apps.deleteApp id).rows ↔ other ∈ apps.rows ∧ other.id ≠ id := by
  simp [deleteApp]

end Apps

/-! ## Files -/

/-- A manifest `<id>.json`. -/
structure ManifestFile where
  dir : String
  entry : BackupEntry
  deriving DecidableEq

def ManifestFile.path (file : ManifestFile) : String × String := (file.dir, file.entry.id)

/-- A dump `<id>.dump.gz` and the database it was taken of. -/
structure DumpFile where
  dir : String
  id : String
  app : ShortId

def DumpFile.path (file : DumpFile) : String × String := (file.dir, file.id)

/-! ## Tasks -/

/-- What follows when a backup is deleted or verified: the answer, or the rest of the `run_backup`
that wrote the dump `dir/id`, with the backups that its retention still deletes. -/
inductive After where
  | answer
  | backup (dir id : String) (rest : Option (List String))

/-- What the entry of a backup is looked up for: `download_backup`, `delete_backup` or
`verify_backup`. -/
inductive Goal where
  | read
  | delete (after : After)
  | verify (after : After)

inductive Task where
  /-- `run_backup`: the directory is there, the dump is not. -/
  | dumping (db : ShortId) (dir id : String)
  /-- `store_backup`, before the directory is looked up again. -/
  | naming (db : ShortId) (dir : String) (entry : BackupEntry)
  /-- Before the manifest is written into `target`. -/
  | storing (db : ShortId) (dir : String) (entry : BackupEntry) (target : String)
  | stored (db : ShortId) (dir id : String)
  /-- `apply_retention`, before the backups are listed. -/
  | retaining (db : ShortId) (dir id : String)
  /-- Before `backup_entry`. -/
  | finding (db : ShortId) (id : String) (goal : Goal)
  /-- Before `backup_dir`. -/
  | found (db : ShortId) (entry : BackupEntry) (goal : Goal)
  | located (db : ShortId) (entry : BackupEntry) (dir : String) (goal : Goal)
  /-- `delete_backup`: the dump is removed, the manifest is not. -/
  | unlinked (db : ShortId) (entry : BackupEntry) (dir : String) (after : After)

/-- A backup that was begun, by which task, and its entry once the manifest was written. -/
structure Made where
  id : String
  app : ShortId
  task : Nat
  entry : Option BackupEntry

/-- A request for the backups of `user` read or removed a file of `owner`. -/
structure Use where
  user : ShortId
  owner : ShortId

/-- `made`, `ledger` and `uses` are the history; no step looks at the last two, and at `made` only
for an id that is new. -/
structure State where
  apps : Apps
  /-- The locked apps and the tasks that hold them. -/
  busy : Table (Prod.fst : ShortId × Nat → ShortId)
  dirs : List String
  manifests : Table ManifestFile.path
  dumps : Table DumpFile.path
  tasks : Table (Prod.fst : Nat × Task → Nat)
  made : Table Made.id
  ledger : List BackupEntry
  uses : List Use

namespace State

variable (state : State)

/-- The manifests of a directory, newest first. -/
def inDir (dir : String) : List BackupEntry :=
  sortByKey (fun entry => OrderDual.toDual entry.createdAt)
    ((state.manifests.rows.filter fun file => file.dir = dir).map ManifestFile.entry)

def listBackups (db : ShortId) : Except Error (List BackupEntry) :=
  match state.apps.find db with
  | none => .error (.idNotFound db.display)
  | some app => .ok (state.inDir app.name)

def goto (p : Nat) (task : Task) : State :=
  { state with tasks := state.tasks.upsert (p, task) }

/-- The task ends and releases its lock. -/
def finish (p : Nat) : State :=
  { state with
    tasks := state.tasks.erase p
    busy := state.busy.discard fun row => row.2 = p }

def use (user owner : ShortId) : State :=
  { state with uses := ⟨user, owner⟩ :: state.uses }

/-- Removes a dump; `none` without one. -/
def removeDump (db : ShortId) (dir id : String) : Option State :=
  (state.dumps.find (dir, id)).map fun dump =>
    { state with dumps := state.dumps.erase (dir, id) }.use db dump.app

def removeManifest (db : ShortId) (dir id : String) : Option State :=
  (state.manifests.find (dir, id)).map fun file =>
    { state with
      manifests := state.manifests.erase (dir, id)
      ledger := state.ledger.filter fun entry => entry.id ≠ id }.use db file.entry.app

/-- An error ends the request; a failed `run_backup` removes its dump. -/
def giveUp (p : Nat) (db : ShortId) : After → State
  | .answer => state.finish p
  | .backup dir id _ => ((state.removeDump db dir id).getD state).finish p

/-- What a deletion or a verification is followed by. -/
def resume (p : Nat) (db : ShortId) : After → State
  | .answer => state.finish p
  | .backup dir id none => state.goto p (.retaining db dir id)
  | .backup _ _ (some []) => state.finish p
  | .backup dir id (some (next :: rest)) =>
    state.goto p (.finding db next (.delete (.backup dir id (some rest))))

/-- The entry was not found, or the request failed.  `run_backup` goes on after a verification
that failed. -/
def miss (p : Nat) (db : ShortId) : Goal → State
  | .read => state.finish p
  | .delete after => state.giveUp p db after
  | .verify after => state.resume p db after

/-- The manifest is written into a directory; the backup is taken. -/
def store (p : Nat) (entry : BackupEntry) (target : String) : State :=
  { state with
    manifests := state.manifests.upsert ⟨target, entry⟩
    made := state.made.upsert ⟨entry.id, entry.app, p, some entry⟩
    ledger := entry :: state.ledger }

end State

inductive Input where
  | go
  | dumped (size : Nat) (sha256 : String) (now : Nat)
  /-- The settings are read. -/
  | config (keep : Nat) (restoreTest : Bool)
  | failed
  /-- The request is dropped where it waits. -/
  | dropped

namespace State

/-- `store_backup` after the manifest was written. -/
def testRestore (state : State) (p : Nat) (db : ShortId) (dir id : String) (restoreTest : Bool) :
    State :=
  if restoreTest then state.goto p (.finding db id (.verify (.backup dir id none)))
  else state.goto p (.retaining db dir id)

/-- `run_backup` up to its retention. -/
def advanceBackup (state : State) (p : Nat) : Task → Input → State
  | .dumping db dir id, .dumped size sha256 now =>
    match state.apps.find db with
    | some ⟨_, name, some engine⟩ =>
      { state with dumps := state.dumps.upsert ⟨dir, id, db⟩ }.goto p
        (.naming db dir ⟨id, db, name, engine, size, sha256, now⟩)
    | _ => state.giveUp p db (.backup dir id none)
  | .naming db dir entry, .go =>
    match state.apps.find db with
    | some app => state.goto p (.storing db dir entry app.name)
    | none => state.giveUp p db (.backup dir entry.id none)
  | .storing db dir entry target, .go =>
    if target ∈ state.dirs then
      (state.store p entry target).goto p (.stored db dir entry.id)
    else state.giveUp p db (.backup dir entry.id none)
  | .stored db dir id, .config _ restoreTest => state.testRestore p db dir id restoreTest
  | .retaining db dir id, .config keep _ =>
    match state.listBackups db with
    | .ok entries =>
      state.resume p db
        (.backup dir id (some ((entries.drop (max keep 1)).map BackupEntry.id)))
    | .error _ => state.giveUp p db (.backup dir id none)
  | _, _ => state

/-- A look-up and what it was made for. -/
def advanceLookup (state : State) (p : Nat) : Task → Input → State
  | .finding db id goal, .go =>
    match state.listBackups db with
    | .ok entries =>
      match entries.find? fun entry => entry.id = id with
      | some entry => state.goto p (.found db entry goal)
      | none => state.miss p db goal
    | .error _ => state.miss p db goal
  | .found db entry goal, .go =>
    match state.apps.find db with
    | some app => state.goto p (.located db entry app.name goal)
    | none => state.miss p db goal
  | .located db entry dir .read, .go =>
    match state.dumps.find (dir, entry.id) with
    | some dump => (state.use db dump.app).finish p
    | none => state.finish p
  | .located db entry dir (.delete after), .go =>
    match state.removeDump db dir entry.id with
    | some state => state.goto p (.unlinked db entry dir after)
    | none => state.giveUp p db after
  | .located db entry dir (.verify after), .go =>
    let state :=
      if dir ∈ state.dirs then
        { state with manifests := state.manifests.upsert ⟨dir, entry⟩ }
      else state
    state.resume p db after
  | .unlinked db entry dir after, .go =>
    match state.removeManifest db dir entry.id with
    | some state => state.resume p db after
    | none => state.giveUp p db after
  | _, _ => state

/-- An error in the middle of a task. -/
def fail (state : State) (p : Nat) : Task → State
  | .dumping db dir id | .retaining db dir id => state.giveUp p db (.backup dir id none)
  -- without the settings, the default is to test
  | .stored db dir id => state.testRestore p db dir id true
  | .naming db dir entry | .storing db dir entry _ =>
    state.giveUp p db (.backup dir entry.id none)
  | .finding db _ goal | .found db _ goal | .located db _ _ goal => state.miss p db goal
  | .unlinked db _ _ after => state.giveUp p db after

def advance (state : State) (p : Nat) (task : Task) (input : Input) : State :=
  match input with
  | .failed => state.fail p task
  | .dropped => state.finish p
  | input =>
    match task with
    | .finding .. | .found .. | .located .. | .unlinked .. => state.advanceLookup p task input
    | task => state.advanceBackup p task input

inductive Call where
  /-- The id of the backup is made of the time and random bytes. -/
  | runBackup (db : ShortId) (id : String)
  | downloadBackup (db : ShortId) (id : String)
  | deleteBackup (db : ShortId) (id : String)
  | verifyBackup (db : ShortId) (id : String)

/-- `run_backup` up to the dump: the app is locked and its directory is made. -/
def beginBackup (state : State) (p : Nat) (db : ShortId) (id : String) : State :=
  match state.apps.find db with
  | none => state
  | some app =>
    if db ∈ state.busy.keys ∨ id ∈ state.made.keys then state
    else
      { state with
        busy := state.busy.upsert (db, p)
        dirs := app.name :: state.dirs
        made := state.made.upsert ⟨id, db, p, none⟩ }.goto p (.dumping db app.name id)

def begin (state : State) (p : Nat) : Call → State
  | .runBackup db id => state.beginBackup p db id
  | .downloadBackup db id => state.goto p (.finding db id .read)
  | .deleteBackup db id => state.goto p (.finding db id (.delete .answer))
  | .verifyBackup db id => state.goto p (.finding db id (.verify .answer))

end State

inductive Event where
  | addApp (app : AppEntry)
  | updateApp (app : AppEntry)
  /-- `inUse` says that another app uses the database. -/
  | deleteApp (id : ShortId) (inUse : Bool)
  /-- `archive_wal` makes the directory of the database. -/
  | archiveWal (db : ShortId)
  /-- The file system lists the manifests in another order from now on. -/
  | reorder (files : List ManifestFile)
  | begin (p : Nat) (call : State.Call)
  | advance (p : Nat) (input : Input)

def step (state : State) : Event → State
  | .addApp app =>
    match state.apps.insertApp app with
    | some apps => { state with apps }
    | none => state
  | .updateApp app =>
    match state.apps.updateApp app with
    | some apps => { state with apps }
    | none => state
  | .deleteApp id inUse =>
    if inUse ∨ id ∈ state.busy.keys then state
    else
      { state with
        apps := state.apps.deleteApp id
        ledger := state.ledger.filter fun entry => entry.app ≠ id }
  | .archiveWal db =>
    match state.apps.find db with
    | some app => { state with dirs := app.name :: state.dirs }
    | none => state
  | .reorder files =>
    if same : files.Perm state.manifests.rows then
      { state with
        manifests := ⟨files, (same.map _).nodup_iff.mpr state.manifests.keys_nodup⟩ }
    else state
  | .begin p call =>
    match state.tasks.find p with
    | some _ => state
    | none => state.begin p call
  | .advance p input =>
    match state.tasks.find p with
    | some (_, task) => state.advance p task input
    | none => state

/-! ## Backups belong to one database -/

/-- Every app lists the backups in the ledger that were taken of it. -/
def ListsItsOwn (state : State) : Prop :=
  ∀ app ∈ state.apps.rows, ∃ entries ∈ (state.listBackups app.id).toOption,
    entries.Perm (state.ledger.filter fun entry => entry.app = app.id)

instance : DecidablePred ListsItsOwn := fun state =>
  inferInstanceAs (Decidable (∀ app ∈ state.apps.rows, ∃ entries ∈ _, _))

/-- What the requests for the backups of a database read or removed was its own. -/
def UsesItsOwn (state : State) : Prop := ∀ use ∈ state.uses, use.owner = use.user

instance : DecidablePred UsesItsOwn := fun _ => inferInstanceAs (Decidable (∀ _ ∈ _, _))

/-- The backups that a database lists are the ones in the ledger that were taken of it, what its
requests read or removed was its own, and so is the base of every recovery. -/
structure BelongsToOne (state : State) : Prop where
  listed : ListsItsOwn state
  used : UsesItsOwn state
  recovered : ∀ app ∈ state.apps.rows, ∀ entries time base,
    state.listBackups app.id = .ok entries → findBaseBackup entries app.name time = .ok base →
      base ∈ state.ledger ∧ base.app = app.id

/-- The directory holds no manifest. -/
def Empty (state : State) (dir : String) : Prop := ∀ file ∈ state.manifests.rows, file.dir ≠ dir

instance (state : State) (dir : String) : Decidable (Empty state dir) :=
  inferInstanceAs (Decidable (∀ file ∈ state.manifests.rows, _))

/-- What the next step of a task has to find. -/
def Calm (state : State) : Task → Input → Prop
  -- the app still has the name under which the directory was looked up
  | .storing db _ _ target, .go =>
    target ∈ state.dirs → ∀ app ∈ state.apps.find db, app.name = target
  -- the manifest was not deleted during the verification
  | .located _ entry dir (.verify _), .go => (state.manifests.find (dir, entry.id)).isSome
  | _, _ => True

instance (state : State) (task : Task) (input : Input) : Decidable (Calm state task input) := by
  unfold Calm
  split <;> infer_instance

def Undisturbed (state : State) : Event → Prop
  | .addApp app => Empty state app.name
  | .updateApp app => ∀ current ∈ state.apps.find app.id, current.name ≠ app.name →
      Empty state current.name ∧ Empty state app.name
  | .advance p input => ∀ slot ∈ state.tasks.find p, Calm state slot.2 input
  | _ => True

instance (state : State) (event : Event) : Decidable (Undisturbed state event) := by
  unfold Undisturbed
  split <;> infer_instance

/-! ## The invariant -/

/-- The backup `id` was begun for `db`. -/
def Owns (state : State) (id : String) (db : ShortId) : Prop :=
  ∃ made, state.made.find id = some made ∧ made.app = db

/-- The entry is the one that was stored under its id. -/
def Knows (state : State) (entry : BackupEntry) : Prop :=
  ∃ made, state.made.find entry.id = some made ∧ made.app = entry.app ∧ made.entry = some entry

/-- Task `p` holds the lock of `db` and has not stored the backup `id` yet. -/
def Begun (state : State) (p : Nat) (db : ShortId) (id : String) : Prop :=
  (db, p) ∈ state.busy.rows ∧ state.made.find id = some ⟨id, db, p, none⟩

variable {state : State}

theorem Owns.unique {id : String} {first second : ShortId} (left : Owns state id first)
    (right : Owns state id second) : first = second := by
  obtain ⟨made, found, rfl⟩ := left
  obtain ⟨other, again, rfl⟩ := right
  rw [found] at again
  cases again
  rfl

theorem Knows.owns {entry : BackupEntry} (knows : Knows state entry) :
    Owns state entry.id entry.app := by
  obtain ⟨made, found, app, -⟩ := knows
  exact ⟨made, found, app⟩

theorem Knows.unique {first second : BackupEntry} (left : Knows state first)
    (right : Knows state second) (same : first.id = second.id) : first = second := by
  obtain ⟨made, found, -, entry⟩ := left
  obtain ⟨other, again, -, entry'⟩ := right
  rw [same, again] at found
  cases found
  exact Option.some.inj (entry.symm.trans entry')

theorem Begun.owns {p : Nat} {db : ShortId} {id : String} (begun : Begun state p db id) :
    Owns state id db :=
  ⟨_, begun.2, rfl⟩

def AfterOk (state : State) (db : ShortId) : After → Prop
  | .answer => True
  | .backup _ id _ => Owns state id db

def GoalOk (state : State) (db : ShortId) : Goal → Prop
  | .read => True
  | .delete after | .verify after => AfterOk state db after

def TaskOk (state : State) (p : Nat) : Task → Prop
  | .dumping db _ id => Begun state p db id
  | .naming db _ entry | .storing db _ entry _ => entry.app = db ∧ Begun state p db entry.id
  | .stored db _ id | .retaining db _ id => Owns state id db
  | .finding db _ goal => GoalOk state db goal
  | .found db entry goal | .located db entry _ goal =>
    entry.app = db ∧ Knows state entry ∧ GoalOk state db goal
  | .unlinked db entry _ after => entry.app = db ∧ Knows state entry ∧ AfterOk state db after

/-- What is true of the apps, the files and the history. -/
structure Core (state : State) : Prop where
  /-- A manifest in the directory of an app is a backup of this app. -/
  listed : ∀ file ∈ state.manifests.rows, ∀ app ∈ state.apps.rows, app.name = file.dir →
    file.entry.app = app.id ∧ file.entry ∈ state.ledger
  /-- A backup in the ledger has its manifest in the directory of its app. -/
  kept : ∀ entry ∈ state.ledger, ∃ app ∈ state.apps.rows, app.id = entry.app ∧
    ⟨app.name, entry⟩ ∈ state.manifests.rows
  ledger_nodup : (state.ledger.map BackupEntry.id).Nodup
  once : ∀ file ∈ state.manifests.rows, ∀ other ∈ state.manifests.rows,
    file.entry.id = other.entry.id → file = other
  known : ∀ file ∈ state.manifests.rows, Knows state file.entry
  owned : ∀ dump ∈ state.dumps.rows, Owns state dump.id dump.app
  locked : ∀ lock ∈ state.busy.rows, lock.1 ∈ state.apps.keys
  used : ∀ use ∈ state.uses, use.owner = use.user

structure Inv (state : State) : Prop where
  core : Core state
  tasks : ∀ slot ∈ state.tasks.rows, TaskOk state slot.1 slot.2

/-- The invariant without the task `p`, which is in the middle of a step. -/
structure Mid (p : Nat) (state : State) : Prop where
  core : Core state
  others : ∀ slot ∈ state.tasks.rows, slot.1 ≠ p → TaskOk state slot.1 slot.2

theorem Inv.mid (inv : Inv state) (p : Nat) : Mid p state :=
  ⟨inv.core, fun slot member _ => inv.tasks slot member⟩

theorem Inv.task (inv : Inv state) {p q : Nat} {task : Task}
    (found : state.tasks.find p = some (q, task)) : TaskOk state p task := by
  obtain ⟨member, rfl⟩ := mem_of_find found
  exact inv.tasks _ member

/-! ### From the invariant to the statement -/

theorem findBaseBackup_mem {backups : List BackupEntry} {name : String} {time : Nat}
    {base : BackupEntry} (found : findBaseBackup backups name time = .ok base) :
    base ∈ backups := by
  unfold findBaseBackup at found
  split at found
  · cases found
  · split at found
    · cases found
    · split at found
      · rename_i best known
        cases found
        rcases maxByKey_spec BackupEntry.createdAt
          (backups.filter fun backup => backup.createdAt ≤ time) with
          ⟨none, -⟩ | ⟨best, same, member, -⟩
        · rw [none] at known
          cases known
        · rw [same] at known
          cases known
          exact List.mem_of_mem_filter member
      · cases found

namespace Core

variable {state : State} (core : Core state)

include core

theorem listBackups_perm {app : AppEntry} (member : app ∈ state.apps.rows) :
    (state.inDir app.name).Perm (state.ledger.filter fun entry => entry.app = app.id) := by
  refine (sortByKey_perm _ _).trans ((List.perm_ext_iff_of_nodup ?_ ?_).mpr ?_)
  · have files := List.Nodup.of_map _ state.manifests.keys_nodup
    refine List.Nodup.map_on ?_ (files.filter _)
    intro first inFirst second inSecond same
    refine core.once first (List.mem_of_mem_filter inFirst) second
      (List.mem_of_mem_filter inSecond) (congrArg BackupEntry.id same)
  · exact (List.Nodup.of_map _ core.ledger_nodup).filter _
  · intro entry
    simp only [List.mem_map, List.mem_filter, decide_eq_true_eq]
    constructor
    · rintro ⟨file, ⟨inManifests, dir⟩, rfl⟩
      have own := core.listed file inManifests app member dir.symm
      exact ⟨own.2, own.1⟩
    · rintro ⟨inLedger, own⟩
      obtain ⟨other, inApps, same, stored⟩ := core.kept entry inLedger
      have identical := state.apps.row_of_key inApps member (same.trans own)
      rw [identical] at stored
      exact ⟨_, ⟨stored, rfl⟩, rfl⟩

theorem belongsToOne : BelongsToOne state := by
  have lists : ∀ app ∈ state.apps.rows, state.listBackups app.id = .ok (state.inDir app.name) := by
    intro app member
    have found : state.apps.find app.id = some app := find_eq_some.mpr ⟨member, rfl⟩
    simp [State.listBackups, found]
  refine ⟨fun app member => ?_, core.used, ?_⟩
  · exact ⟨_, by rw [lists app member]; rfl, core.listBackups_perm member⟩
  · intro app member entries time base listed found
    rw [lists app member] at listed
    cases listed
    have inLedger := (core.listBackups_perm member).subset (findBaseBackup_mem found)
    simpa using inLedger

/-- Only which manifests there are matters, not their order. -/
theorem of_files {manifests : Table ManifestFile.path}
    (files : ∀ file, file ∈ manifests.rows ↔ file ∈ state.manifests.rows) :
    Core { state with manifests } := by
  refine { core with listed := ?_, kept := ?_, once := ?_, known := ?_ }
  · intro other inFiles
    exact core.listed other ((files other).mp inFiles)
  · intro stored inLedger
    obtain ⟨app, inApps, own, inFiles⟩ := core.kept stored inLedger
    exact ⟨app, inApps, own, (files _).mpr inFiles⟩
  · intro first inFirst second inSecond
    exact core.once first ((files _).mp inFirst) second ((files _).mp inSecond)
  · intro other inFiles
    exact core.known other ((files other).mp inFiles)

end Core

/-! ### What a step of one task leaves to the others -/

structure Keeps (p : Nat) (before after : State) : Prop where
  owns : ∀ {id : String} {db : ShortId}, Owns before id db → Owns after id db
  knows : ∀ {entry : BackupEntry}, Knows before entry → Knows after entry
  begun : ∀ {q : Nat} {db : ShortId} {id : String}, q ≠ p → Begun before q db id →
    Begun after q db id

namespace Keeps

variable {p : Nat} {before after : State}

theorem of_same (busy : after.busy = before.busy) (made : after.made = before.made) :
    Keeps p before after := by
  refine ⟨fun owns => ?_, fun knows => ?_, fun _ begun => ?_⟩
  · simpa [Owns, made] using owns
  · simpa [Knows, made] using knows
  · simpa [Begun, made, busy] using begun

variable (keeps : Keeps p before after)

include keeps

theorem afterOk {db : ShortId} {what : After} (ok : AfterOk before db what) :
    AfterOk after db what := by
  cases what with
  | answer => trivial
  | backup => exact keeps.owns ok

theorem goalOk {db : ShortId} {goal : Goal} (ok : GoalOk before db goal) :
    GoalOk after db goal := by
  cases goal with
  | read => trivial
  | delete | verify => exact keeps.afterOk ok

theorem taskOk {q : Nat} (different : q ≠ p) {task : Task} (ok : TaskOk before q task) :
    TaskOk after q task := by
  cases task with
  | dumping => exact keeps.begun different ok
  | naming | storing => exact ⟨ok.1, keeps.begun different ok.2⟩
  | stored | retaining => exact keeps.owns ok
  | finding => exact keeps.goalOk ok
  | found | located => exact ⟨ok.1, keeps.knows ok.2.1, keeps.goalOk ok.2.2⟩
  | unlinked => exact ⟨ok.1, keeps.knows ok.2.1, keeps.afterOk ok.2.2⟩

end Keeps

namespace Mid

variable {p : Nat} {state : State} (mid : Mid p state) {dir : String}

include mid

theorem change {after : State} (core : Core after) (tasks : after.tasks = state.tasks)
    (keeps : Keeps p state after) : Mid p after := by
  refine ⟨core, fun slot member different => ?_⟩
  rw [tasks] at member
  exact keeps.taskOk different (mid.others slot member different)

theorem goto {task : Task} (ok : TaskOk state p task) : Inv (state.goto p task) := by
  refine ⟨{ mid.core with }, ?_⟩
  have keeps : Keeps p state (state.goto p task) := .of_same rfl rfl
  intro slot member
  rcases mem_upsert.mp member with ⟨old, other⟩ | rfl
  · exact keeps.taskOk other (mid.others slot old other)
  · cases task <;> exact ok

theorem finish : Inv (state.finish p) := by
  have keeps : Keeps p state (state.finish p) := by
    refine ⟨fun owns => owns, fun knows => knows, fun different begun => ⟨?_, begun.2⟩⟩
    simp only [State.finish, discard_rows, List.mem_filter]
    exact ⟨begun.1, by simpa using different⟩
  refine ⟨{ mid.core with locked := ?_ }, ?_⟩
  · intro lock member
    exact mid.core.locked lock (List.mem_of_mem_filter member)
  · intro slot member
    obtain ⟨old, other⟩ := mem_erase.mp member
    exact keeps.taskOk other (mid.others slot old other)

/-! ### Changes of files -/

theorem use {user owner : ShortId} (own : owner = user) : Mid p (state.use user owner) := by
  refine mid.change { mid.core with used := ?_ } rfl (.of_same rfl rfl)
  intro other member
  rcases List.mem_cons.mp member with rfl | old
  · exact own
  · exact mid.core.used other old

variable {db : ShortId}

/-- The dump under an id that `db` owns is a dump of `db`. -/
theorem dump_app {id : String} {dump : DumpFile} (owns : Owns state id db)
    (found : state.dumps.find (dir, id) = some dump) : dump.app = db := by
  obtain ⟨member, path⟩ := mem_of_find found
  have same : dump.id = id := congrArg Prod.snd path
  have owned := mid.core.owned dump member
  rw [same] at owned
  exact owned.unique owns

theorem removeDump {id : String} (owns : Owns state id db) {after : State}
    (removed : state.removeDump db dir id = some after) : Mid p after ∧ Keeps p state after := by
  obtain ⟨dump, found, rfl⟩ := Option.map_eq_some_iff.mp removed
  have own := mid.dump_app owns found
  refine ⟨?_, .of_same rfl rfl⟩
  have erased : Mid p { state with dumps := state.dumps.erase (dir, id) } := by
    refine mid.change { mid.core with owned := ?_ } rfl (.of_same rfl rfl)
    intro other member
    exact mid.core.owned other (List.mem_of_mem_filter member)
  exact erased.use own

theorem writeDump {id : String} (owns : Owns state id db) :
    Mid p { state with dumps := state.dumps.upsert ⟨dir, id, db⟩ } := by
  refine mid.change { mid.core with owned := ?_ } rfl (.of_same rfl rfl)
  intro dump member
  rcases mem_upsert.mp member with ⟨old, -⟩ | rfl
  · exact mid.core.owned dump old
  · exact owns

/-- Writing a manifest back over itself changes nothing but the order of the files. -/
theorem writeBack {entry : BackupEntry} (knows : Knows state entry)
    (there : (state.manifests.find (dir, entry.id)).isSome) :
    Mid p { state with manifests := state.manifests.upsert ⟨dir, entry⟩ } := by
  obtain ⟨file, found⟩ := Option.isSome_iff_exists.mp there
  obtain ⟨member, path⟩ := mem_of_find found
  obtain ⟨sameDir, sameId⟩ := Prod.mk.inj path
  have same : file.entry = entry := (mid.core.known file member).unique knows sameId
  have present : ⟨dir, entry⟩ ∈ state.manifests.rows := by
    rw [← same, ← sameDir]
    exact member
  have files : ∀ other, other ∈ (state.manifests.upsert ⟨dir, entry⟩).rows ↔
      other ∈ state.manifests.rows := by
    intro other
    rw [mem_upsert]
    constructor
    · rintro (⟨old, -⟩ | rfl)
      · exact old
      · exact present
    · intro old
      by_cases again : other = ⟨dir, entry⟩
      · exact .inr again
      · exact .inl ⟨old, fun path => again (state.manifests.row_of_key old present path)⟩
  exact mid.change (mid.core.of_files files) rfl (.of_same rfl rfl)

/-- Removing the manifest of a backup of `db` takes the backup out of the ledger. -/
theorem removeManifest {entry : BackupEntry} (own : entry.app = db) (knows : Knows state entry)
    {after : State} (removed : state.removeManifest db dir entry.id = some after) :
    Mid p after ∧ Keeps p state after := by
  obtain ⟨file, found, rfl⟩ := Option.map_eq_some_iff.mp removed
  obtain ⟨inFiles, path⟩ := mem_of_find found
  have sameId : file.entry.id = entry.id := congrArg Prod.snd path
  have same : file.entry = entry := (mid.core.known file inFiles).unique knows sameId
  refine ⟨?_, .of_same rfl rfl⟩
  have erased : Mid p { state with
      manifests := state.manifests.erase (dir, entry.id)
      ledger := state.ledger.filter fun other => other.id ≠ entry.id } := by
    have left : ∀ other, other ∈ (state.manifests.erase (dir, entry.id)).rows ↔
        other ∈ state.manifests.rows ∧ other.entry.id ≠ entry.id := by
      intro other
      rw [mem_erase]
      refine and_congr_right fun member => not_congr ⟨congrArg Prod.snd, fun id => ?_⟩
      rw [mid.core.once other member file inFiles (id.trans sameId.symm)]
      exact path
    refine mid.change ⟨?_, ?_, ?_, ?_, ?_, mid.core.owned, mid.core.locked, mid.core.used⟩ rfl
      (.of_same rfl rfl)
    · intro other member app inApps name
      obtain ⟨old, different⟩ := (left other).mp member
      obtain ⟨owner, inLedger⟩ := mid.core.listed other old app inApps name
      exact ⟨owner, List.mem_filter.mpr ⟨inLedger, by simpa using different⟩⟩
    · intro stored member
      obtain ⟨inLedger, different⟩ := List.mem_filter.mp member
      obtain ⟨app, inApps, owner, present⟩ := mid.core.kept stored inLedger
      exact ⟨app, inApps, owner, (left _).mpr ⟨present, by simpa using different⟩⟩
    · exact mid.core.ledger_nodup.sublist (List.filter_sublist.map _)
    · intro first inFirst second inSecond
      exact mid.core.once first ((left _).mp inFirst).1 second ((left _).mp inSecond).1
    · intro other member
      exact mid.core.known other ((left other).mp member).1
  exact erased.use (by rw [same, own])

end Mid

/-! ### A new manifest -/

section Store

variable {p : Nat} {state : State} {entry : BackupEntry} {target : String}
  (begun : Begun state p entry.app entry.id)

include begun

/-- No manifest has the id of a backup that is not stored yet. -/
theorem Begun.no_manifest (core : Core state) {file : ManifestFile}
    (member : file ∈ state.manifests.rows) : file.entry.id ≠ entry.id := by
  intro same
  obtain ⟨made, found, -, stored⟩ := core.known file member
  rw [same, begun.2] at found
  cases found
  cases stored

theorem Begun.mem_store (core : Core state) {file : ManifestFile} :
    file ∈ (state.store p entry target).manifests.rows ↔
      file ∈ state.manifests.rows ∨ file = ⟨target, entry⟩ := by
  rw [State.store, mem_upsert]
  refine or_congr_left (and_iff_left_of_imp fun member path => ?_)
  exact begun.no_manifest core member (congrArg Prod.snd path)

omit begun in
theorem find_store (id : String) :
    (state.store p entry target).made.find id =
      if entry.id = id then some ⟨entry.id, entry.app, p, some entry⟩ else state.made.find id :=
  find_upsert _ _ _

omit begun in
theorem knows_store : Knows (state.store p entry target) entry :=
  ⟨_, by rw [find_store, if_pos rfl], rfl, rfl⟩

/-- The id was the task's own, so the other tasks find what they knew. -/
theorem Begun.keeps_store : Keeps p state (state.store p entry target) := by
  refine ⟨?_, ?_, ?_⟩
  · rintro id db ⟨made, found, app⟩
    by_cases same : entry.id = id
    · rw [← same, begun.2] at found
      cases found
      exact ⟨⟨entry.id, entry.app, p, some entry⟩, by rw [find_store, if_pos same], app⟩
    · exact ⟨made, by rw [find_store, if_neg same, found], app⟩
  · rintro other ⟨made, found, app, stored⟩
    by_cases same : entry.id = other.id
    · rw [← same, begun.2] at found
      cases found
      cases stored
    · exact ⟨made, by rw [find_store, if_neg same, found], app, stored⟩
  · rintro q db id different ⟨lock, found⟩
    by_cases same : entry.id = id
    · rw [← same, begun.2] at found
      cases found
      exact absurd rfl different
    · exact ⟨lock, by rw [find_store, if_neg same, found]⟩

/-- The manifest is written under the name of the app. -/
theorem Begun.core_store (core : Core state)
    (named : ∀ app ∈ state.apps.find entry.app, app.name = target) :
    Core (state.store p entry target) := by
  obtain ⟨app, inApps, sameApp⟩ : ∃ app ∈ state.apps.rows, app.id = entry.app :=
    List.mem_map.mp (core.locked _ begun.1)
  have name : app.name = target := named app (find_eq_some.mpr ⟨inApps, sameApp⟩)
  refine ⟨?_, ?_, ?_, ?_, ?_, ?_, core.locked, core.used⟩
  · intro file member other inOthers dir
    rcases (begun.mem_store core).mp member with old | rfl
    · obtain ⟨owner, inLedger⟩ := core.listed file old other inOthers dir
      exact ⟨owner, List.mem_cons_of_mem _ inLedger⟩
    · have identical := List.inj_on_of_nodup_map state.apps.names_nodup inOthers inApps
        (dir.trans name.symm)
      rw [identical]
      exact ⟨sameApp.symm, List.mem_cons_self⟩
  · intro stored member
    rcases List.mem_cons.mp member with rfl | old
    · exact ⟨app, inApps, sameApp, (begun.mem_store core).mpr (.inr (by rw [name]))⟩
    · obtain ⟨other, inOthers, owner, present⟩ := core.kept stored old
      exact ⟨other, inOthers, owner, (begun.mem_store core).mpr (.inl present)⟩
  · refine List.nodup_cons.mpr ⟨?_, core.ledger_nodup⟩
    intro taken
    obtain ⟨stored, inLedger, same⟩ := List.mem_map.mp taken
    obtain ⟨other, -, -, present⟩ := core.kept stored inLedger
    exact begun.no_manifest core present same
  · intro first inFirst second inSecond same
    rcases (begun.mem_store core).mp inFirst with old | rfl
    · rcases (begun.mem_store core).mp inSecond with older | rfl
      · exact core.once first old second older same
      · exact absurd same (begun.no_manifest core old)
    · rcases (begun.mem_store core).mp inSecond with older | rfl
      · exact absurd same.symm (begun.no_manifest core older)
      · rfl
  · intro file member
    rcases (begun.mem_store core).mp member with old | rfl
    · exact begun.keeps_store.knows (core.known file old)
    · exact knows_store
  · intro dump member
    exact begun.keeps_store.owns (core.owned dump member)

theorem Mid.store (mid : Mid p state)
    (named : ∀ app ∈ state.apps.find entry.app, app.name = target) :
    Mid p (state.store p entry target) :=
  mid.change (begun.core_store mid.core named) rfl begun.keeps_store

end Store

/-! ## Every step keeps the invariant -/

variable {input : Input}

namespace Mid

variable {p : Nat} {state : State} (mid : Mid p state) {db : ShortId}

include mid

theorem giveUp {after : After} (ok : AfterOk state db after) : Inv (state.giveUp p db after) := by
  cases after with
  | answer => exact mid.finish
  | backup dir id rest =>
    rw [State.giveUp]
    cases removed : state.removeDump db dir id with
    | none => exact mid.finish
    | some => exact (mid.removeDump ok removed).1.finish

theorem resume {after : After} (ok : AfterOk state db after) : Inv (state.resume p db after) := by
  rcases after with _ | ⟨dir, id, _ | _ | ⟨next, rest⟩⟩
  · exact mid.finish
  · exact mid.goto ok
  · exact mid.finish
  · exact mid.goto ok

theorem miss {goal : Goal} (ok : GoalOk state db goal) : Inv (state.miss p db goal) := by
  cases goal with
  | read => exact mid.finish
  | delete => exact mid.giveUp ok
  | verify => exact mid.resume ok

theorem fail {task : Task} (ok : TaskOk state p task) : Inv (state.fail p task) := by
  cases task <;> rw [State.fail]
  case dumping dir id => exact mid.giveUp (Begun.owns ok)
  case naming dir entry => exact mid.giveUp ok.2.owns
  case storing dir entry target => exact mid.giveUp ok.2.owns
  case stored dir id => exact mid.goto ok
  case retaining dir id => exact mid.giveUp ok
  case finding id goal => exact mid.miss ok
  case found entry goal => exact mid.miss ok.2.2
  case located entry dir goal => exact mid.miss ok.2.2
  case unlinked entry dir after => exact mid.giveUp ok.2.2

theorem advanceBackup {task : Task} (ok : TaskOk state p task) (unchanged : Inv state)
    (calm : Calm state task input) : Inv (state.advanceBackup p task input) := by
  unfold State.advanceBackup
  split
  · split
    · exact (mid.writeDump (Begun.owns ok)).goto ⟨rfl, ok⟩
    · exact mid.giveUp (Begun.owns ok)
  · split
    · exact mid.goto ok
    · exact mid.giveUp ok.2.owns
  · split
    · rename_i there
      obtain ⟨rfl, begun⟩ := ok
      exact (Mid.store begun mid (calm there)).goto knows_store.owns
    · exact mid.giveUp ok.2.owns
  · unfold State.testRestore
    split <;> exact mid.goto ok
  · split
    · exact mid.resume ok
    · exact mid.giveUp ok
  · exact unchanged

/-- A backup that is listed is a backup of the database, and the one stored under its id. -/
theorem listed {entries : List BackupEntry} {entry : BackupEntry}
    (lists : state.listBackups db = .ok entries) (member : entry ∈ entries) :
    entry.app = db ∧ Knows state entry := by
  unfold State.listBackups at lists
  split at lists
  · cases lists
  · rename_i app found
    cases lists
    obtain ⟨inApps, rfl⟩ := mem_of_find found
    obtain ⟨file, inFiles, rfl⟩ := List.mem_map.mp ((sortByKey_perm _ _).subset member)
    obtain ⟨inManifests, dir⟩ := List.mem_filter.mp inFiles
    have name : app.name = file.dir := by simpa using Eq.symm (of_decide_eq_true dir)
    exact ⟨(mid.core.listed file inManifests app inApps name).1, mid.core.known file inManifests⟩

theorem advanceLookup {task : Task} (ok : TaskOk state p task) (unchanged : Inv state)
    (calm : Calm state task input) : Inv (state.advanceLookup p task input) := by
  unfold State.advanceLookup
  split
  · split
    · rename_i entries lists
      split
      · rename_i entry found
        obtain ⟨own, knows⟩ := mid.listed lists (List.mem_of_find?_eq_some found)
        exact mid.goto ⟨own, knows, ok⟩
      · exact mid.miss ok
    · exact mid.miss ok
  · split
    · exact mid.goto ok
    · exact mid.miss ok.2.2
  · obtain ⟨own, knows, -⟩ := ok
    split
    · rename_i dump found
      exact (mid.use (mid.dump_app (own ▸ knows.owns) found)).finish
    · exact mid.finish
  · obtain ⟨own, knows, goalOk⟩ := ok
    split
    · rename_i next removed
      obtain ⟨left, keeps⟩ := mid.removeDump (own ▸ knows.owns) removed
      exact left.goto ⟨own, keeps.knows knows, keeps.afterOk goalOk⟩
    · exact mid.giveUp goalOk
  · obtain ⟨own, knows, goalOk⟩ := ok
    split
    · exact (mid.writeBack knows calm).resume goalOk
    · exact mid.resume goalOk
  · obtain ⟨own, knows, afterOk⟩ := ok
    split
    · rename_i next removed
      obtain ⟨left, keeps⟩ := mid.removeManifest own knows removed
      exact left.resume (keeps.afterOk afterOk)
    · exact mid.giveUp afterOk
  · exact unchanged

end Mid

namespace Inv

variable {state : State} (inv : Inv state)

include inv

theorem advance {p : Nat} {task : Task} (ok : TaskOk state p task) (calm : Calm state task input) :
    Inv (state.advance p task input) := by
  unfold State.advance
  split
  · exact (inv.mid p).fail ok
  · exact (inv.mid p).finish
  · split
    · exact (inv.mid p).advanceLookup ok inv calm
    · exact (inv.mid p).advanceLookup ok inv calm
    · exact (inv.mid p).advanceLookup ok inv calm
    · exact (inv.mid p).advanceLookup ok inv calm
    · exact (inv.mid p).advanceBackup ok inv calm

/-- A change that touches no task, no lock and no id. -/
theorem change {after : State} (core : Core after) (tasks : after.tasks = state.tasks)
    (busy : after.busy = state.busy) (made : after.made = state.made) : Inv after := by
  refine ⟨core, fun slot member => ?_⟩
  rw [tasks] at member
  have keeps : Keeps (slot.1 + 1) state after := .of_same busy made
  exact keeps.taskOk (by omega) (inv.tasks slot member)

/-! ### Apps -/

/-- A change of the apps that keeps the ids of the locked ones. -/
theorem withApps {ledger : List BackupEntry}
    (listed : ∀ file ∈ state.manifests.rows, ∀ app ∈ apps.rows, app.name = file.dir →
      file.entry.app = app.id ∧ file.entry ∈ ledger)
    (kept : ∀ entry ∈ ledger, ∃ app ∈ apps.rows, app.id = entry.app ∧
      ⟨app.name, entry⟩ ∈ state.manifests.rows) (sublist : ledger.Sublist state.ledger)
    (locked : ∀ lock ∈ state.busy.rows, lock.1 ∈ apps.keys) : Inv { state with apps, ledger } := by
  refine inv.change { inv.core with
    listed := listed
    kept := kept
    ledger_nodup := inv.core.ledger_nodup.sublist (sublist.map _)
    locked := locked } rfl rfl rfl

theorem putApp {app : AppEntry} {free : state.apps.NameFree app}
    (calm : ∀ current ∈ state.apps.rows, current.id = app.id → current.name ≠ app.name →
      Empty state current.name)
    (clean : (∃ current ∈ state.apps.rows, current.id = app.id ∧ current.name = app.name) ∨
      Empty state app.name) :
    Inv { state with apps := state.apps.put app free } := by
  refine inv.withApps ?_ ?_ (List.Sublist.refl _) ?_
  · intro file inFiles other inApps name
    rcases Apps.mem_put.mp inApps with ⟨old, -⟩ | rfl
    · exact inv.core.listed file inFiles other old name
    · rcases clean with ⟨current, inOld, sameId, sameName⟩ | empty
      · obtain ⟨own, inLedger⟩ := inv.core.listed file inFiles current inOld (sameName.trans name)
        exact ⟨own.trans sameId, inLedger⟩
      · exact absurd name.symm (empty file inFiles)
  · intro entry inLedger
    obtain ⟨current, inOld, own, present⟩ := inv.core.kept entry inLedger
    by_cases same : current.id = app.id
    · -- the app has a backup, so it keeps its name
      by_cases sameName : current.name = app.name
      · exact ⟨app, Apps.mem_put.mpr (.inr rfl), same.symm.trans own, sameName ▸ present⟩
      · exact absurd rfl (calm current inOld same sameName _ present)
    · exact ⟨current, Apps.mem_put.mpr (.inl ⟨inOld, same⟩), own, present⟩
  · intro lock member
    obtain ⟨current, inOld, same⟩ := List.mem_map.mp (inv.core.locked lock member)
    by_cases replaced : current.id = app.id
    · exact List.mem_map.mpr ⟨app, Apps.mem_put.mpr (.inr rfl), replaced.symm.trans same⟩
    · exact List.mem_map.mpr ⟨current, Apps.mem_put.mpr (.inl ⟨inOld, replaced⟩), same⟩

theorem addApp {app : AppEntry} (calm : Empty state app.name)
    (added : state.apps.insertApp app = some apps) : Inv { state with apps } := by
  unfold Apps.insertApp at added
  split at added
  · cases added
  · rename_i new
    split at added
    · cases added
      refine inv.putApp (fun current inOld same _ => ?_) (.inr calm)
      exact absurd (List.mem_map.mpr ⟨current, inOld, same⟩) new
    · cases added

theorem updateApp {app : AppEntry}
    (calm : ∀ current ∈ state.apps.find app.id, current.name ≠ app.name →
      Empty state current.name ∧ Empty state app.name)
    (updated : state.apps.updateApp app = some apps) : Inv { state with apps } := by
  unfold Apps.updateApp at updated
  split at updated
  · cases updated
  · rename_i known
    split at updated
    · cases updated
      obtain ⟨current, inOld, same⟩ := List.mem_map.mp (not_not.mp known)
      have found := find_eq_some.mpr ⟨inOld, same⟩
      refine inv.putApp ?_ ?_
      · intro other inOthers sameId renamed
        exact (calm other (find_eq_some.mpr ⟨inOthers, sameId⟩) renamed).1
      · by_cases sameName : current.name = app.name
        · exact .inl ⟨current, inOld, same, sameName⟩
        · exact .inr (calm current found sameName).2
    · cases updated

/-- The backups of an app that is deleted stay on disk, and no app lists them. -/
theorem deleteApp {id : ShortId} (free : id ∉ state.busy.keys) :
    Inv { state with
      apps := state.apps.deleteApp id
      ledger := state.ledger.filter fun entry => entry.app ≠ id } := by
  refine inv.withApps ?_ ?_ List.filter_sublist ?_
  · intro file inFiles app member name
    obtain ⟨inApps, other⟩ := Apps.mem_deleteApp.mp member
    obtain ⟨own, inLedger⟩ := inv.core.listed file inFiles app inApps name
    exact ⟨own, List.mem_filter.mpr ⟨inLedger, by simpa [own] using other⟩⟩
  · intro entry member
    obtain ⟨inLedger, other⟩ := List.mem_filter.mp member
    obtain ⟨app, inApps, own, present⟩ := inv.core.kept entry inLedger
    exact ⟨app, Apps.mem_deleteApp.mpr ⟨inApps, by simpa [own] using other⟩, own, present⟩
  · intro lock member
    obtain ⟨app, inApps, same⟩ := List.mem_map.mp (inv.core.locked lock member)
    refine List.mem_map.mpr ⟨app, Apps.mem_deleteApp.mpr ⟨inApps, ?_⟩, same⟩
    rintro rfl
    exact free (List.mem_map.mpr ⟨lock, member, same.symm⟩)

/-! ### Beginnings -/

theorem beginBackup {p : Nat} {db : ShortId} {id : String} :
    Inv (state.beginBackup p db id) := by
  unfold State.beginBackup
  split
  · exact inv
  · rename_i app found
    split
    · exact inv
    · rename_i new
      obtain ⟨unlocked, fresh⟩ := not_or.mp new
      have finds : ∀ other row, state.made.find other = some row →
          (state.made.upsert ⟨id, db, p, none⟩).find other = some row := by
        intro other row known
        rw [find_upsert, if_neg, known]
        rintro rfl
        rw [find_eq_none.mpr fresh] at known
        cases known
      have keeps : Keeps p state { state with
          busy := state.busy.upsert (db, p)
          dirs := app.name :: state.dirs
          made := state.made.upsert ⟨id, db, p, none⟩ } := by
        refine ⟨?_, ?_, ?_⟩
        · rintro other owner ⟨made, known, own⟩
          exact ⟨made, finds other made known, own⟩
        · rintro entry ⟨made, known, own⟩
          exact ⟨made, finds entry.id made known, own⟩
        · rintro q owner other - ⟨lock, known⟩
          exact ⟨(mem_upsert_fresh unlocked).mpr (.inl lock), finds other _ known⟩
      refine ((inv.mid p).change ?_ (by rfl) keeps).goto ⟨by simp, by simp [find_upsert]⟩
      refine { inv.core with known := ?_, owned := ?_, locked := ?_ }
      · intro file member
        exact keeps.knows (inv.core.known file member)
      · intro dump member
        exact keeps.owns (inv.core.owned dump member)
      · intro lock member
        rcases mem_upsert.mp member with ⟨old, -⟩ | rfl
        · exact inv.core.locked lock old
        · exact List.mem_map.mpr ⟨app, mem_of_find found⟩

theorem begin {p : Nat} (call : State.Call) : Inv (state.begin p call) := by
  cases call with
  | runBackup => exact inv.beginBackup
  | downloadBackup | deleteBackup | verifyBackup => exact (inv.mid p).goto trivial

/-! ### All events -/

theorem step {event : Event} (calm : Undisturbed state event) : Inv (step state event) := by
  cases event with
  | addApp =>
    rw [Backups.step]
    split
    · rename_i apps added
      exact inv.addApp calm added
    · exact inv
  | updateApp =>
    rw [Backups.step]
    split
    · rename_i apps updated
      exact inv.updateApp calm updated
    · exact inv
  | deleteApp =>
    rw [Backups.step]
    split
    · exact inv
    · rename_i free
      exact inv.deleteApp (not_or.mp free).2
  | archiveWal =>
    rw [Backups.step]
    split
    · exact inv.change { inv.core with } rfl rfl rfl
    · exact inv
  | reorder =>
    rw [Backups.step]
    split
    · rename_i same
      exact inv.change (inv.core.of_files fun file => same.mem_iff) rfl rfl rfl
    · exact inv
  | begin p call =>
    rw [Backups.step]
    split
    · exact inv
    · exact inv.begin call
  | advance =>
    rw [Backups.step]
    split
    · rename_i q task found
      exact inv.advance (inv.task found) (calm (q, task) found)
    · exact inv

end Inv

/-! ## Every run -/

/-- No app, no file and no task. -/
def start : State where
  apps := ⟨Table.empty, by simp⟩
  busy := Table.empty
  dirs := []
  manifests := Table.empty
  dumps := Table.empty
  tasks := Table.empty
  made := Table.empty
  ledger := []
  uses := []

theorem inv_start : Inv start := by
  refine ⟨⟨?_, ?_, ?_, ?_, ?_, ?_, ?_, ?_⟩, ?_⟩ <;> simp [start]

section Names

def shop : ShortId := ShortId.new

def blog : ShortId := ShortId.ofSeven [1, 2, 3, 4, 5, 6, 7] rfl

def app (id : ShortId) (name : String) : AppEntry := ⟨id, name, some "postgres"⟩

/-- A whole `run_backup` that keeps one backup. -/
def backup (p : Nat) (db : ShortId) (id : String) (now : Nat) : List Event :=
  [.begin p (.runBackup db id), .advance p (.dumped 100 "aa" now), .advance p .go,
    .advance p .go, .advance p (.config 1 false), .advance p (.config 1 false)]

/-- One whole deletion of a retention. -/
def retained (p : Nat) : List Event := List.replicate 4 (.advance p .go)

/-- Two databases are backed up; the second backup of the first one replaces the first, and an app
without backups is renamed. -/
def inTurn : List Event :=
  [.addApp (app shop "shop"), .addApp (app blog "draft"), .updateApp (app blog "blog")] ++
    backup 1 shop "a" 1000 ++ backup 2 blog "b" 1001 ++ backup 3 shop "c" 1002 ++ retained 3 ++
    [.begin 4 (.downloadBackup shop "c")] ++ List.replicate 3 (.advance 4 .go)

/-- A database is renamed after a backup. -/
def renamed : List Event :=
  [.addApp (app shop "shop")] ++ backup 1 shop "a" 1000 ++ [.updateApp (app shop "store")]

/-- A database is deleted after a backup, and another one takes its name. -/
def reused : List Event :=
  [.addApp (app shop "shop")] ++ backup 1 shop "a" 1000 ++
    [.deleteApp shop false, .addApp (app blog "shop")]

/-- The other database is backed up, and its retention deletes the oldest backup it lists. -/
def cleared : List Event := reused ++ backup 2 blog "b" 2000 ++ retained 2

end Names

end R3v3rs3.Platform.Backups
