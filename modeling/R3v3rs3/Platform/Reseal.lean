/-
# R3v3rs3.Platform.Reseal -- a key rotation and writes of secrets at once

`run_key_rotation` selects the rows of a table, seals their values again one by one and writes each
row back.  Other tasks seal values and write them in transactions of their own, at any moment in
between.  Both are tasks over the key ring and the database; a step is one access of one of them.

`written` is the database as the writers meant it: the same statements on plaintexts, without the
rotation.  `Good` says that every row opens to its last written plaintexts.  `secrets_kept_iff` says
that this holds in a run if and only if the rotation finds every row that it writes back with the
plaintexts it read.
-/
import Mathlib.Data.Option.Basic
import R3v3rs3.Platform.Rotate
import R3v3rs3.Theory.Threads

/-! ## Rows and their places -/

namespace R3v3rs3.Platform.Rotate
open Api Keys ClusterKeys
set_option autoImplicit false

/-- The table and the primary key of a row. -/
inductive Place where
  | appEnv (app : ShortId) (key : String)
  | appSecret (app : ShortId) (name : String)
  | gitConnection (id : ShortId)
  | githubApp (connection : ShortId)
  | envGroupVar (group : ShortId) (key : String)
  | projectEnvVar (environment : ShortId) (key : String)
  | setting (name : Setting)
  | registry (id : ShortId)
  | webhook (id : ShortId)
  | dnsCredential (id : ShortId)
  deriving DecidableEq

namespace Row

variable {Key Other Third : Type} {row : Row Key} (f : String → Sealed Key → Sealed Other)

/-- A deployment has no place: it is not written a second time. -/
def place : Row Key → Option Place
  | .appEnv app key _ => some (.appEnv app key)
  | .appSecret app name _ => some (.appSecret app name)
  | .gitConnection id _ _ _ => some (.gitConnection id)
  | .githubApp connection _ => some (.githubApp connection)
  | .envGroupVar group key _ => some (.envGroupVar group key)
  | .projectEnvVar environment key _ => some (.projectEnvVar environment key)
  | .setting name _ => some (.setting name)
  | .registry id _ => some (.registry id)
  | .webhook id _ => some (.webhook id)
  | .dnsCredential id _ => some (.dnsCredential id)
  | .deployment _ _ => none

@[simp] theorem place_mapSecrets (row : Row Key) : (row.mapSecrets f).place = row.place := by
  cases row <;> rfl

theorem mapSecrets_mapSecrets (g : String → Sealed Other → Sealed Third) (row : Row Key) :
    (row.mapSecrets f).mapSecrets g = row.mapSecrets fun aad value => g aad (f aad value) := by
  cases row with
  | gitConnection id clientSecret accessToken refreshToken =>
    cases accessToken <;> cases refreshToken <;> rfl
  | webhook id secret => cases secret <;> rfl
  | dnsCredential id value => cases value <;> rfl
  | deployment => simp [mapSecrets, Function.comp_def]
  | appEnv | appSecret | githubApp | envGroupVar | projectEnvVar | setting | registry => rfl

theorem mapSecrets_congr {f g : String → Sealed Key → Sealed Other}
    (same : ∀ secret ∈ row.secrets, f secret.1 secret.2 = g secret.1 secret.2) :
    row.mapSecrets f = row.mapSecrets g := by
  cases row with
  | gitConnection id clientSecret accessToken refreshToken =>
    cases accessToken <;> cases refreshToken <;> simp_all [mapSecrets, secrets]
  | webhook id secret => cases secret <;> simp_all [mapSecrets, secrets]
  | dnsCredential id value => cases value <;> simp_all [mapSecrets, secrets]
  | deployment app env =>
    simp only [mapSecrets, deployment.injEq, true_and]
    apply List.map_congr_left
    intro entry member
    rw [same (envAad app entry.1, entry.2) (List.mem_map_of_mem member)]
  | appEnv | appSecret | githubApp | envGroupVar | projectEnvVar | setting | registry =>
    simp_all [mapSecrets, secrets]

/-- The plaintexts. -/
def forget (row : Row Key) : Row Unit := row.mapSecrets fun aad value => ⟨(), aad, value.plaintext⟩

variable [DecidableEq Key] (ring : ClusterKeys Key)

omit [DecidableEq Key] in
theorem forget_sealed (row : Row Other) : (row.sealed ring).forget = row.forget :=
  mapSecrets_mapSecrets _ _ row

/-- Every value opens. -/
def Opens (row : Row Key) : Prop :=
  ∀ secret ∈ row.secrets, (ring.open? secret.1 secret.2).isSome

instance (ring : ClusterKeys Key) (row : Row Key) : Decidable (row.Opens ring) :=
  inferInstanceAs (Decidable (∀ secret ∈ row.secrets, _))

/-- The plaintexts that a reader gets, when every value opens. -/
def opened (row : Row Key) : Option (Row Unit) :=
  if row.Opens ring then
    some (row.mapSecrets fun aad value => ⟨(), aad, (ring.open? aad value).getD ""⟩)
  else none

theorem opens_sealed (row : Row Other) : (row.sealed ring).Opens ring := by
  intro secret known
  rw [sealed, secrets_mapSecrets] at known
  obtain ⟨own, -, rfl⟩ := List.mem_map.mp known
  exact isSome_open.mpr ⟨List.mem_cons_self, rfl⟩

theorem Opens.rotate {ring : ClusterKeys Key} (opens : row.Opens ring) (newKey : Key) :
    row.Opens (ring.rotate newKey) := by
  intro secret known
  exact isSome_open_rotate (opens secret known) newKey

theorem opened_of_opens {ring : ClusterKeys Key} (opens : row.Opens ring) :
    row.opened ring = some row.forget := by
  rw [opened, if_pos opens, forget]
  congr 1
  apply mapSecrets_congr
  intro secret known
  rw [ClusterKeys.open?, if_pos (isSome_open.mp (opens secret known))]
  rfl

end Row

section Updated

variable {Key : Type} [DecidableEq Key] {ring : ClusterKeys Key} {next : Row Key}

omit [DecidableEq Key] in
theorem update_eq_updated {row : Option (Row Key)} (done : update row = .updated next) :
    row = some next := by
  cases row with
  | none => cases done
  | some =>
    cases done
    rfl

/-- A row that is sealed again keeps its plaintexts. -/
theorem resealRow_updated {row : Row Key} (done : resealRow ring row = .updated next) :
    next = row.sealed ring := by
  cases row with
  | gitConnection =>
    obtain ⟨client, resealed, rest⟩ := Option.bind_eq_some_iff.mp (update_eq_updated done)
    obtain ⟨access, accessed, rest⟩ := Option.bind_eq_some_iff.mp rest
    obtain ⟨refresh, refreshed, rest⟩ := Option.bind_eq_some_iff.mp rest
    cases rest
    rw [(reseal_eq_some.mp resealed).2, (resealOptToken_eq_some.mp accessed).2,
      (resealOptToken_eq_some.mp refreshed).2]
    rfl
  | webhook id secret =>
    cases secret with
    | none => cases done
    | some =>
      obtain ⟨again, resealed, rfl⟩ := Option.map_eq_some_iff.mp (update_eq_updated done)
      rw [(reseal_eq_some.mp resealed).2]
      rfl
  | dnsCredential id value =>
    cases value with
    | none => cases done
    | some =>
      simp only [resealRow] at done
      split at done
      · rename_i again resealed
        cases done
        rw [(reseal_eq_some.mp resealed).2]
        rfl
      · cases done
  | deployment => cases done
  | appEnv | appSecret | githubApp | envGroupVar | projectEnvVar | setting | registry =>
    obtain ⟨again, resealed, rfl⟩ := Option.map_eq_some_iff.mp (update_eq_updated done)
    rw [(reseal_eq_some.mp resealed).2]
    rfl

end Updated

end R3v3rs3.Platform.Rotate

/-! ## The database -/

namespace R3v3rs3.Platform.Reseal
open Theory Api Keys
open Theory.Run (Guarded Throughout exec throughout_iff_guarded)
open Theory.Threads (Program System Holds Settles)
open Platform.Rotate (Row Place Selection rotationOrder resealRow connectionAad)
set_option autoImplicit false

abbrev Database (Key : Type) := Table (Prod.fst : Place × Row Key → Place)

/-- A statement of another task. -/
inductive Statement (Key : Type) where
  /-- `INSERT`, in the place of a row that is there. -/
  | put (row : Row Key)
  /-- `UPDATE` of a row that is there. -/
  | update (row : Row Key)
  /-- `UPDATE git_connections` of some columns. -/
  | setConnection (id : ShortId) (clientSecret : Option (Sealed Key))
      (accessToken refreshToken : Option (Option (Sealed Key)))
  | delete (place : Place)

variable {place : Place}

section Statements

variable {Key Other : Type} (db : Database Key)

namespace Database

def get (place : Place) : Option (Row Key) := (db.find place).map Prod.snd

/-- Changes the row of a place, when there is one. -/
def modify (place : Place) (f : Row Key → Row Key) : Database Key :=
  Table.mapRows db (fun entry => if entry.1 = place then (entry.1, f entry.2) else entry) (by
    intro entry
    split <;> rfl)

theorem get_upsert (place other : Place) (row : Row Key) :
    get (db.upsert (place, row)) other = if place = other then some row else db.get other := by
  rw [get, Table.find_upsert]
  by_cases same : place = other <;> simp [same, get]

theorem get_erase (place other : Place) :
    get (db.erase place) other = if place = other then none else db.get other := by
  rw [get, Table.find_erase]
  by_cases same : place = other <;> simp [same, get]

theorem get_modify (place other : Place) (f : Row Key → Row Key) :
    (db.modify place f).get other =
      if place = other then (db.get other).map f else db.get other := by
  rw [get, modify, Table.find_mapRows, get]
  cases found : db.find other with
  | none => simp
  | some entry =>
    have key : entry.1 = other := (Table.mem_of_find found).2
    by_cases same : place = other
    · simp [key, same]
    · simp [key, same, Ne.symm same]

/-- The plaintexts of all rows. -/
def forget (db : Database Key) : Database Unit where
  rows := db.rows.map fun entry => (entry.1, entry.2.forget)
  keys_nodup := by
    rw [List.map_map]
    exact db.keys_nodup

theorem get_forget (place : Place) : db.forget.get place = (db.get place).map Row.forget := by
  simp only [get, Table.find, forget, List.find?_map, Option.map_map]
  rfl

end Database

/-- The columns that are set take the place of those of the connection. -/
def setColumns (id : ShortId) (clientSecret : Option (Sealed Key))
    (accessToken refreshToken : Option (Option (Sealed Key))) : Row Key → Row Key
  | .gitConnection own oldSecret oldAccess oldRefresh =>
    if own = id then
      .gitConnection own (clientSecret.getD oldSecret) (accessToken.getD oldAccess)
        (refreshToken.getD oldRefresh)
    else .gitConnection own oldSecret oldAccess oldRefresh
  | row => row

namespace Statement

def execute : Statement Key → Database Key
  | .put row =>
    match row.place with
    | some place => db.upsert (place, row)
    | none => db
  | .update row =>
    match row.place with
    | some place => Database.modify db place fun _ => row
    | none => db
  | .setConnection id clientSecret accessToken refreshToken =>
    Database.modify db (.gitConnection id) (setColumns id clientSecret accessToken refreshToken)
  | .delete place => db.erase place

/-- The row of a place after the statement. -/
def effect (place : Place) (found : Option (Row Key)) : Statement Key → Option (Row Key)
  | .put row => if row.place = some place then some row else found
  | .update row => if row.place = some place then found.map fun _ => row else found
  | .setConnection id clientSecret accessToken refreshToken =>
    if .gitConnection id = place then
      found.map (setColumns id clientSecret accessToken refreshToken)
    else found
  | .delete gone => if gone = place then none else found

theorem get_execute (statement : Statement Key) (place : Place) :
    Database.get (statement.execute db) place = statement.effect place (Database.get db place) := by
  cases statement with
  | put row =>
    rw [execute, effect]
    cases row.place with
    | none => simp
    | some => simp [Database.get_upsert]
  | update row =>
    rw [execute, effect]
    cases row.place with
    | none => simp
    | some => simp [Database.get_modify]
  | setConnection =>
    rw [execute, effect, Database.get_modify]
  | delete => rw [execute, effect, Database.get_erase]

def mapSecrets (f : String → Sealed Key → Sealed Other) : Statement Key → Statement Other
  | .put row => .put (row.mapSecrets f)
  | .update row => .update (row.mapSecrets f)
  | .setConnection id clientSecret accessToken refreshToken =>
    .setConnection id (clientSecret.map (f (connectionAad id "client_secret")))
      (accessToken.map (Option.map (f (connectionAad id "access_token"))))
      (refreshToken.map (Option.map (f (connectionAad id "refresh_token"))))
  | .delete place => .delete place

/-- The statement on plaintexts. -/
def forget (statement : Statement Key) : Statement Unit :=
  statement.mapSecrets fun aad value => ⟨(), aad, value.plaintext⟩

/-- The statement as a task sends it that holds the ring. -/
def sealed (ring : ClusterKeys Key) (statement : Statement Other) : Statement Key :=
  statement.mapSecrets fun aad value => ring.sealValue aad value.plaintext

theorem setColumns_mapSecrets (f : String → Sealed Key → Sealed Other) (id : ShortId)
    (clientSecret : Option (Sealed Key)) (accessToken refreshToken : Option (Option (Sealed Key)))
    (row : Row Key) :
    (setColumns id clientSecret accessToken refreshToken row).mapSecrets f =
      setColumns id (clientSecret.map (f (connectionAad id "client_secret")))
        (accessToken.map (Option.map (f (connectionAad id "access_token"))))
        (refreshToken.map (Option.map (f (connectionAad id "refresh_token"))))
        (row.mapSecrets f) := by
  cases row with
  | gitConnection own oldSecret oldAccess oldRefresh =>
    by_cases same : own = id
    · subst same
      simp only [setColumns, Row.mapSecrets, if_true]
      cases clientSecret <;> cases accessToken <;> cases refreshToken <;> rfl
    · simp only [setColumns, Row.mapSecrets, if_neg same]
  | appEnv | appSecret | githubApp | envGroupVar | projectEnvVar | setting | registry | webhook
  | dnsCredential | deployment => rfl

/-- A statement does the same on replaced values. -/
theorem effect_mapSecrets (f : String → Sealed Key → Sealed Other) (place : Place)
    (found : Option (Row Key)) (statement : Statement Key) :
    (statement.effect place found).map (Row.mapSecrets f) =
      (statement.mapSecrets f).effect place (found.map (Row.mapSecrets f)) := by
  cases statement with
  | put =>
    simp only [effect, mapSecrets, Row.place_mapSecrets]
    split <;> rfl
  | update =>
    simp only [effect, mapSecrets, Row.place_mapSecrets]
    split
    · cases found <;> rfl
    · rfl
  | setConnection id clientSecret accessToken refreshToken =>
    simp only [effect, mapSecrets]
    split
    · cases found with
      | none => rfl
      | some row => exact congrArg some (setColumns_mapSecrets f id _ _ _ row)
    · rfl
  | delete =>
    simp only [effect, mapSecrets]
    split <;> rfl

/-- The values that a statement brings. -/
def secrets : Statement Key → List (String × Sealed Key)
  | .put row => row.secrets
  | .update row => row.secrets
  | .setConnection id clientSecret accessToken refreshToken =>
    clientSecret.toList.map (connectionAad id "client_secret", ·) ++
      (accessToken.join.toList.map (connectionAad id "access_token", ·) ++
        refreshToken.join.toList.map (connectionAad id "refresh_token", ·))
  | .delete _ => []

theorem secrets_mapSecrets (f : String → Sealed Key → Sealed Other) (statement : Statement Key) :
    (statement.mapSecrets f).secrets =
      statement.secrets.map fun secret => (secret.1, f secret.1 secret.2) := by
  cases statement with
  | put row | update row => exact Row.secrets_mapSecrets f row
  | setConnection id clientSecret accessToken refreshToken =>
    rcases accessToken with _ | _ | _ <;> rcases refreshToken with _ | _ | _ <;>
      cases clientSecret <;> rfl
  | delete => rfl

variable {secret : String × Sealed Key} {row : Row Key}

theorem mem_secrets_setColumns {id : ShortId} {clientSecret : Option (Sealed Key)}
    {accessToken refreshToken : Option (Option (Sealed Key))}
    (known : secret ∈ (setColumns id clientSecret accessToken refreshToken row).secrets) :
    secret ∈ (setConnection id clientSecret accessToken refreshToken).secrets ∨
      secret ∈ row.secrets := by
  cases row with
  | gitConnection own oldSecret oldAccess oldRefresh =>
    by_cases same : own = id
    · subst same
      simp only [setColumns, if_true, Row.secrets, List.mem_cons, List.mem_append] at known
      simp only [secrets, Row.secrets, List.mem_cons, List.mem_append]
      -- each column was set or is as before
      rcases known with rfl | access | refresh
      · cases clientSecret <;> simp
      · cases accessToken with
        | none => exact .inr (.inr (.inl access))
        | some => exact .inl (.inr (.inl access))
      · cases refreshToken with
        | none => exact .inr (.inr (.inr refresh))
        | some => exact .inl (.inr (.inr refresh))
    · rw [setColumns, if_neg same] at known
      exact .inr known
  | appEnv | appSecret | githubApp | envGroupVar | projectEnvVar | setting | registry | webhook
  | dnsCredential | deployment => exact .inr known

/-- A value of a row is one that the statement brings, or was there before. -/
theorem mem_secrets_effect {found : Option (Row Key)} {statement : Statement Key}
    (after : statement.effect place found = some row) (known : secret ∈ row.secrets) :
    secret ∈ statement.secrets ∨ ∃ old, found = some old ∧ secret ∈ old.secrets := by
  cases statement with
  | put =>
    simp only [effect] at after
    split at after
    · cases after
      exact .inl known
    · exact .inr ⟨row, after, known⟩
  | update =>
    simp only [effect] at after
    split at after
    · obtain ⟨old, -, rfl⟩ := Option.map_eq_some_iff.mp after
      exact .inl known
    · exact .inr ⟨row, after, known⟩
  | setConnection =>
    simp only [effect] at after
    split at after
    · obtain ⟨old, rfl, rfl⟩ := Option.map_eq_some_iff.mp after
      exact (mem_secrets_setColumns known).imp_right fun older => ⟨old, rfl, older⟩
    · exact .inr ⟨row, after, known⟩
  | delete =>
    simp only [effect] at after
    split at after
    · cases after
    · exact .inr ⟨row, after, known⟩

end Statement

end Statements

/-! ## The tasks -/

/-- What all tasks share, and beside it the database as it was written. -/
structure Shared (Key : Type) where
  ring : ClusterKeys Key
  db : Database Key
  written : Database Unit

inductive Call (Key : Type) where
  /-- `rotate_platform_key`, with the key that is drawn. -/
  | rotate (newKey : Key)
  /-- The statements of a transaction, on plaintexts. -/
  | write (statements : List (Statement Unit))

inductive Task (Key : Type) where
  | write (statements : List (Statement Key))
  | select (todo : List Selection)
  | writeBack (rows : List (Place × Row Key)) (todo : List Selection)

section Tasks

variable {Key : Type} [DecidableEq Key] {s : Shared Key} {system : System (Shared Key) (Task Key)}
  {task : Task Key} {statements : List (Statement Key)} {db : Database Key}

def begin (s : Shared Key) : Call Key → Shared Key × Option (Task Key)
  | .rotate newKey => ({ s with ring := s.ring.rotate newKey }, some (.select rotationOrder))
  | .write statements => (s, some (.write (statements.map (Statement.sealed s.ring))))

/-- The next access of a task; `ok` says whether the database carries it out.  The rotation goes on
to the key files when nothing is left. -/
def advance (s : Shared Key) (task : Task Key) (ok : Bool) : Shared Key × Option (Task Key) :=
  match task with
  | .write statements =>
    if ok then
      ({ s with
          db := statements.foldl Statement.execute s.db
          written := (statements.map Statement.forget).foldl Statement.execute s.written }, none)
    else (s, none)
  | .select [] => (s, none)
  | .select (selection :: todo) =>
    if ok then
      (s, some (.writeBack (s.db.rows.filter fun entry => entry.2.selection = some selection) todo))
    else (s, none)
  | .writeBack [] todo => (s, some (.select todo))
  | .writeBack ((place, row) :: rest) todo =>
    match resealRow s.ring row with
    | .failed => (s, none)
    | .skipped => (s, some (.writeBack rest todo))
    | .updated next =>
      if ok then
        ({ s with db := Database.modify s.db place fun _ => next }, some (.writeBack rest todo))
      else (s, none)

def program : Program (Shared Key) (Task Key) (Call Key) Bool where
  begin _ := begin
  advance _ := advance

/-! ## What is asked for -/

/-- Every row opens to the plaintexts that were last written. -/
def Good (system : System (Shared Key) (Task Key)) : Prop :=
  ∀ place, (Database.get system.shared.db place).map (Row.opened system.shared.ring) =
    (Database.get system.shared.written place).map some

/-- A row that is written back next still has the plaintexts that were read. -/
def Intact (s : Shared Key) : Task Key → Prop
  | .writeBack ((place, row) :: _) _ =>
    match resealRow s.ring row with
    | .updated _ => ∀ current ∈ Database.get s.db place, current.forget = row.forget
    | _ => True
  | _ => True

instance (s : Shared Key) (task : Task Key) : Decidable (Intact s task) := by
  unfold Intact
  repeat' split
  all_goals infer_instance

def Undisturbed (system : System (Shared Key) (Task Key)) :
    Threads.Event (Call Key) Bool → Prop
  | .advance p true => ∀ slot ∈ system.tasks.find p, Intact system.shared slot.2
  | _ => True

instance (system : System (Shared Key) (Task Key)) (event : Threads.Event (Call Key) Bool) :
    Decidable (Undisturbed system event) := by
  unfold Undisturbed
  split <;> infer_instance

/-- A server that starts; what it finds counts as written. -/
def initial (ring : ClusterKeys Key) (db : Database Key) : System (Shared Key) (Task Key) :=
  .start ⟨ring, db, db.forget⟩

/-! ## What an access can do -/

/-- The next access of the task is one of a rotation. -/
def Task.rotates : Task Key → Bool
  | .write _ => false
  | _ => true

/-- **Everything that an access can do**: it changes nothing, it is a transaction, or it writes a
row back. -/
theorem advance_cases (s : Shared Key) (task : Task Key) (ok : Bool) :
    (∃ next, advance s task ok = (s, next) ∧ (∀ other ∈ next, other.rotates = true) ∧
      (ok = true → Intact s task)) ∨
    (∃ statements, task = .write statements ∧ ok = true ∧
      advance s task ok = ({ s with
        db := statements.foldl Statement.execute s.db
        written := (statements.map Statement.forget).foldl Statement.execute s.written }, none)) ∨
    ∃ place row rest todo next, task = .writeBack ((place, row) :: rest) todo ∧ ok = true ∧
      resealRow s.ring row = .updated next ∧
      advance s task ok = ({ s with db := Database.modify s.db place fun _ => next },
        some (.writeBack rest todo)) := by
  cases task with
  | write statements =>
    cases ok with
    | true => exact .inr (.inl ⟨statements, rfl, rfl, rfl⟩)
    | false => exact .inl ⟨none, rfl, nofun, nofun⟩
  | select todo =>
    cases todo with
    | nil => exact .inl ⟨none, rfl, nofun, fun _ => trivial⟩
    | cons =>
      cases ok with
      | true =>
        refine .inl ⟨_, rfl, ?_, fun _ => trivial⟩
        rintro other ⟨⟩
        rfl
      | false => exact .inl ⟨none, rfl, nofun, nofun⟩
  | writeBack rows todo =>
    rcases rows with _ | ⟨⟨place, row⟩, rest⟩
    · refine .inl ⟨some (.select todo), rfl, ?_, fun _ => trivial⟩
      rintro other ⟨⟩
      rfl
    · cases resealed : resealRow s.ring row with
      | failed =>
        refine .inl ⟨none, by simp only [advance, resealed], nofun, fun _ => ?_⟩
        simp only [Intact, resealed]
      | skipped =>
        refine .inl ⟨some (.writeBack rest todo), by simp only [advance, resealed], ?_,
          fun _ => ?_⟩
        · rintro other ⟨⟩
          rfl
        · simp only [Intact, resealed]
      | updated next =>
        cases ok with
        | true =>
          refine .inr (.inr ⟨place, row, rest, todo, next, rfl, rfl, resealed, ?_⟩)
          simp only [advance, resealed, if_true]
        | false =>
          refine .inl ⟨none, ?_, nofun, nofun⟩
          simp only [advance, resealed]
          rfl

/-! ## The invariant -/

def Stored (s : Shared Key) : Prop :=
  ∀ place row, Database.get s.db place = some row → row.Opens s.ring

/-- What a task brings opens. -/
def Brings (s : Shared Key) (_ : Nat) : Task Key → Prop
  | .write statements => ∀ statement ∈ statements, ∀ secret ∈ statement.secrets,
      (s.ring.open? secret.1 secret.2).isSome
  | _ => True

theorem brings_of_rotates {p : Nat} (rotates : task.rotates = true) : Brings s p task := by
  cases task with
  | write => cases rotates
  | select | writeBack => trivial

theorem stored_execute {ring : ClusterKeys Key}
    (stored : ∀ place row, Database.get db place = some row → row.Opens ring)
    (brings : ∀ statement ∈ statements, ∀ secret ∈ statement.secrets,
      (ring.open? secret.1 secret.2).isSome) :
    ∀ place row, Database.get (statements.foldl Statement.execute db) place = some row →
      row.Opens ring := by
  induction statements generalizing db with
  | nil => exact stored
  | cons statement rest ih =>
    refine ih ?_ fun later member => brings later (List.mem_cons_of_mem _ member)
    intro place row after secret known
    rw [Statement.get_execute] at after
    rcases Statement.mem_secrets_effect after known with new | ⟨old, found, older⟩
    · exact brings statement List.mem_cons_self secret new
    · exact stored place old found secret older

theorem begun (system : System (Shared Key) (Task Key)) (p : Nat) (call : Call Key)
    (holds : Holds Stored Brings system) :
    Settles Stored Brings system p (begin system.shared call) := by
  cases call with
  | rotate newKey =>
    refine ⟨?_, ?_, ?_⟩
    · intro place row found
      exact (holds.shared place row found).rotate newKey
    · rintro task ⟨⟩
      trivial
    · intro q task member _
      have brings := holds.tasks q task member
      cases task with
      | write =>
        intro statement known secret own
        exact ClusterKeys.isSome_open_rotate (brings statement known secret own) newKey
      | select | writeBack => trivial
  | write =>
    refine ⟨holds.shared, ?_, fun q task member _ => holds.tasks q task member⟩
    rintro task ⟨⟩ statement known secret own
    obtain ⟨plain, -, rfl⟩ := List.mem_map.mp known
    rw [Statement.sealed, Statement.secrets_mapSecrets] at own
    obtain ⟨bare, -, rfl⟩ := List.mem_map.mp own
    exact ClusterKeys.isSome_open.mpr ⟨List.mem_cons_self, rfl⟩

theorem advanced (system : System (Shared Key) (Task Key)) (p : Nat) (task : Task Key) (ok : Bool)
    (holds : Holds Stored Brings system) (member : (p, task) ∈ system.tasks.rows) :
    Settles Stored Brings system p (advance system.shared task ok) := by
  have others : ∀ q other, (q, other) ∈ system.tasks.rows → q ≠ p →
      Brings system.shared q other := fun q other known _ => holds.tasks q other known
  rcases advance_cases system.shared task ok with ⟨next, same, rotates, -⟩ |
    ⟨statements, rfl, -, same⟩ | ⟨place, row, rest, todo, next, rfl, -, resealed, same⟩
  · rw [same]
    exact ⟨holds.shared, fun other known => brings_of_rotates (rotates other known), others⟩
  · rw [same]
    exact ⟨stored_execute holds.shared (holds.tasks p _ member), nofun, others⟩
  · rw [same]
    refine ⟨?_, ?_, others⟩
    · intro other found stored
      rw [Database.get_modify] at stored
      split at stored
      · obtain ⟨old, -, rfl⟩ := Option.map_eq_some_iff.mp stored
        rw [Rotate.resealRow_updated resealed]
        exact Row.opens_sealed system.shared.ring row
      · exact holds.shared other found stored
    · rintro later ⟨⟩
      trivial

/-! ## Plaintexts -/

/-- Every row has the plaintexts that were last written. -/
def Matches (s : Shared Key) : Prop :=
  ∀ place, (Database.get s.db place).map Row.forget = Database.get s.written place

theorem good_iff (stored : Stored system.shared) : Good system ↔ Matches system.shared := by
  have opened : ∀ place, (Database.get system.shared.db place).map (Row.opened system.shared.ring) =
      ((Database.get system.shared.db place).map Row.forget).map some := by
    intro place
    cases found : Database.get system.shared.db place with
    | none => rfl
    | some row => exact congrArg some (Row.opened_of_opens (stored place row found))
  constructor
  · intro good place
    exact Option.map_injective (Option.some_injective _) ((opened place).symm.trans (good place))
  · intro same place
    rw [opened, same]

omit [DecidableEq Key] in
theorem matches_write {written : Database Unit}
    (same : ∀ place, (Database.get db place).map Row.forget = Database.get written place) :
    ∀ place, (Database.get (statements.foldl Statement.execute db) place).map Row.forget =
      Database.get ((statements.map Statement.forget).foldl Statement.execute written) place := by
  induction statements generalizing db written with
  | nil => exact same
  | cons statement rest ih =>
    refine ih ?_
    intro place
    rw [Statement.get_execute, Statement.get_execute, ← same place]
    exact Statement.effect_mapSecrets _ place _ statement

/-- A row that is written back has the plaintexts that were last written just when they were read. -/
theorem matches_writeBack_iff {row next : Row Key} (same : Matches s)
    (resealed : resealRow s.ring row = .updated next) :
    Matches { s with db := Database.modify s.db place fun _ => next } ↔
      ∀ current ∈ Database.get s.db place, current.forget = row.forget := by
  have plain : next.forget = row.forget := by
    rw [Rotate.resealRow_updated resealed, Row.forget_sealed]
  constructor
  · intro after current found
    have here := after place
    rw [Database.get_modify, if_pos rfl, found, ← same place, found] at here
    exact (Option.some.inj here).symm.trans plain
  · intro intact other
    rw [Database.get_modify]
    split
    · rename_i own
      subst own
      rw [← same place]
      cases found : Database.get s.db place with
      | none => rfl
      | some current => exact congrArg some (plain.trans (intact current found).symm)
    · exact same other

theorem matches_advance_iff {ok : Bool} (same : Matches s) :
    Matches (advance s task ok).1 ↔ (ok = true → Intact s task) := by
  rcases advance_cases s task ok with ⟨next, done, -, intact⟩ | ⟨statements, rfl, -, done⟩ |
    ⟨place, row, rest, todo, next, rfl, rfl, resealed, done⟩
  · rw [done]
    exact iff_of_true same intact
  · rw [done]
    exact iff_of_true (matches_write same) fun _ => trivial
  · rw [done, matches_writeBack_iff same resealed]
    simp only [Intact, resealed, forall_const]

theorem holds_step (event : Threads.Event (Call Key) Bool) (holds : Holds Stored Brings system) :
    Holds Stored Brings (program.step system event) :=
  @Holds.step _ _ _ _ Stored Brings program (fun _ _ => True)
    (fun system p call holds _ _ => begun system p call holds)
    (fun system p task ok holds member _ => advanced system p task ok holds member)
    system event holds trivial

theorem good_step_iff {event : Threads.Event (Call Key) Bool} (holds : Holds Stored Brings system)
    (good : Good system) : Good (program.step system event) ↔ Undisturbed system event := by
  have same := (good_iff holds.shared).mp good
  rw [good_iff (holds_step event holds).shared]
  cases event with
  | begin p call =>
    refine iff_of_true ?_ trivial
    rw [Program.step]
    cases system.tasks.find p with
    | some => exact same
    | none =>
      cases call with
      | rotate | write => exact same
  | advance p ok =>
    have calm : Undisturbed system (.advance p ok) ↔
        ∀ slot ∈ system.tasks.find p, ok = true → Intact system.shared slot.2 := by
      cases ok with
      | true | false => simp [Undisturbed]
    rw [calm, Program.step]
    cases found : system.tasks.find p with
    | none => exact iff_of_true same fun _ none => by cases none
    | some slot =>
      refine (matches_advance_iff same).trans ⟨?_, fun all => all slot rfl⟩
      rintro intact _ ⟨⟩
      exact intact

/-- **Every interleaving of rotations and writes**, from any rows that open: each row opens to the
plaintexts that were last written, in every state, if and only if every row that is written back
still has the plaintexts that were read. -/
theorem secrets_kept_iff (ring : ClusterKeys Key) (db : Database Key)
    (opens : ∀ place row, Database.get db place = some row → row.Opens ring)
    (events : List (Threads.Event (Call Key) Bool)) :
    Throughout program.step Good (initial ring db) events ↔
      Guarded program.step Undisturbed (initial ring db) events := by
  have start : Holds Stored Brings (initial ring db) := Holds.start opens
  have first : Good (initial ring db) :=
    (good_iff start.shared).mpr fun place => (Database.get_forget db place).symm
  exact throughout_iff_guarded (fun _ event holds => holds_step event holds)
    (fun _ _ holds good => good_step_iff holds good) start first

end Tasks

/-! ## A write during a rotation -/

section Lost

def app : ShortId := ShortId.new

/-- One environment variable, sealed with the first key. -/
def oneVariable : Database Nat :=
  Table.empty.upsert (.appEnv app "TOKEN", (Row.appEnv app "TOKEN" ⟨(), "", "old"⟩).sealed ⟨1, []⟩)

theorem oneVariable_opens (place : Place) (row : Row Nat)
    (found : Database.get oneVariable place = some row) : row.Opens ⟨1, []⟩ := by
  rw [oneVariable, Database.get_upsert] at found
  split at found
  · cases found
    exact Row.opens_sealed ⟨1, []⟩ _
  · cases found

def setVariable (value : String) : Call Nat := .write [.put (.appEnv app "TOKEN" ⟨(), "", value⟩)]

/-- A rotation that runs to its end, and a write before it. -/
def writtenBefore : List (Threads.Event (Call Nat) Bool) :=
  [.begin 0 (setVariable "new"), .begin 1 (.rotate 2), .advance 0 true] ++
    List.replicate 27 (.advance 1 true)

theorem write_before_kept :
    Throughout program.step Good (initial ⟨1, []⟩ oneVariable) writtenBefore :=
  (secrets_kept_iff ⟨1, []⟩ oneVariable oneVariable_opens writtenBefore).mpr (by decide)

/-- The write falls between the selection and the write-back. -/
def writtenBetween : List (Threads.Event (Call Nat) Bool) :=
  [.begin 1 (.rotate 2), .advance 1 true, .begin 0 (setVariable "new"), .advance 0 true] ++
    List.replicate 26 (.advance 1 true)

/-- **A write is lost.**  Both tasks are done, and the variable opens to what it was before. -/
theorem write_between_lost :
    let last := exec program.step (initial ⟨1, []⟩ oneVariable) writtenBetween
    last.tasks.rows = [] ∧
      (Database.get last.shared.db (.appEnv app "TOKEN")).map (Row.opened last.shared.ring) =
        some (some (.appEnv app "TOKEN" ⟨(), Rotate.envAad app "TOKEN", "old"⟩)) ∧
      Database.get last.shared.written (.appEnv app "TOKEN") =
        some (.appEnv app "TOKEN" ⟨(), Rotate.envAad app "TOKEN", "new"⟩) ∧
      ¬ Good last := by
  intro last
  refine ⟨by decide, by decide, by decide, ?_⟩
  intro good
  exact absurd (good (.appEnv app "TOKEN")) (by decide)

end Lost

end R3v3rs3.Platform.Reseal
