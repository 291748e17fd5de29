/-
# R3v3rs3.Platform.Rotate -- rotation of the platform key

`runKeyRotation` makes a new key, seals every secret of ten tables again row by row, and then
writes the key files: the old key to `r3v3rs3.key.old`, the new one to `r3v3rs3.key`.  The new key
is on no disk until the last write.  What is on disk at each moment is a list of writes; a process
that stops has made the first `n` of them, and an error ends the list early.

A server that starts on a disk reads the two key files and has to open every sealed value of the
database.  `recoverable_iff` says at which of these moments it can.
-/
import R3v3rs3.Api.Error
import R3v3rs3.Keys.Crypto
import R3v3rs3.Theory.Run

namespace R3v3rs3.Platform.Rotate
open Api Keys ClusterKeys
open Theory.Run (exec exec_append)
set_option autoImplicit false

/-! ## The rows that hold sealed values -/

def envAad (app : ShortId) (key : String) : String := "app/" ++ app.display ++ "/env/" ++ key

def gitTokenAad (app : ShortId) : String := "app/" ++ app.display ++ "/secret/git_token"

def webhookSecretAad (app : ShortId) : String := "app/" ++ app.display ++ "/secret/webhook_secret"

def connectionAad (id : ShortId) (field : String) : String :=
  "git_connection/" ++ id.display ++ "/" ++ field

def registryAad (id : ShortId) : String := "registry/" ++ id.display ++ "/secret"

def webhookAad (id : ShortId) : String := "outbound_webhook:" ++ id.display

def dnsCredentialAad (id : ShortId) : String := "dns-credential/" ++ id.display

inductive Setting where
  | s3
  | sftp
  | rsync
  deriving DecidableEq

def Setting.aad : Setting → String
  | .s3 => "backup/s3/secret_key"
  | .sftp => "backup/sftp/secret"
  | .rsync => "backup/rsync/secret"

inductive Row (Key : Type) where
  | appEnv (app : ShortId) (key : String) (value : Sealed Key)
  | appSecret (app : ShortId) (name : String) (value : Sealed Key)
  | gitConnection (id : ShortId) (clientSecret : Sealed Key)
      (accessToken refreshToken : Option (Sealed Key))
  | githubApp (connection : ShortId) (privateKey : Sealed Key)
  | envGroupVar (group : ShortId) (key : String) (value : Sealed Key)
  | projectEnvVar (environment : ShortId) (key : String) (value : Sealed Key)
  | setting (name : Setting) (value : Sealed Key)
  | registry (id : ShortId) (secret : Sealed Key)
  | webhook (id : ShortId) (secret : Option (Sealed Key))
  /-- `none` when the stored text is not base64. -/
  | dnsCredential (id : ShortId) (value : Option (Sealed Key))
  /-- A deployment keeps the environment it was started with. -/
  | deployment (app : ShortId) (env : List (String × Sealed Key))
  deriving DecidableEq

/-- The selections of the rotation, in their order. -/
inductive Selection where
  | appEnv
  | appSecrets
  | gitConnections
  | githubApps
  | envGroups
  | projectEnvVars
  | settings (name : Setting)
  | registries
  | webhooks
  | dnsCredentials
  deriving DecidableEq

def rotationOrder : List Selection :=
  [.appEnv, .appSecrets, .gitConnections, .githubApps, .envGroups, .projectEnvVars,
    .settings .s3, .settings .sftp, .settings .rsync, .registries, .webhooks, .dnsCredentials]

namespace Row

variable {Key : Type}

/-- The selection a row is in.  A webhook without a secret and a deployment are in none. -/
def selection : Row Key → Option Selection
  | .appEnv _ _ _ => some .appEnv
  | .appSecret _ _ _ => some .appSecrets
  | .gitConnection _ _ _ _ => some .gitConnections
  | .githubApp _ _ => some .githubApps
  | .envGroupVar _ _ _ => some .envGroups
  | .projectEnvVar _ _ _ => some .projectEnvVars
  | .setting name _ => some (.settings name)
  | .registry _ _ => some .registries
  | .webhook _ (some _) => some .webhooks
  | .webhook _ none => none
  | .dnsCredential _ _ => some .dnsCredentials
  | .deployment _ _ => none

def appSecretAad (app : ShortId) (name : String) : String :=
  if name = "git_token" then gitTokenAad app else webhookSecretAad app

/-- The sealed values of a row, each with the text it is opened under. -/
def secrets : Row Key → List (String × Sealed Key)
  | .appEnv app key value => [(envAad app key, value)]
  | .appSecret app name value => [(appSecretAad app name, value)]
  | .gitConnection id clientSecret accessToken refreshToken =>
    (connectionAad id "client_secret", clientSecret) ::
      (accessToken.toList.map (connectionAad id "access_token", ·) ++
        refreshToken.toList.map (connectionAad id "refresh_token", ·))
  | .githubApp connection privateKey => [(connectionAad connection "private_key", privateKey)]
  | .envGroupVar group key value => [(envAad group key, value)]
  | .projectEnvVar environment key value => [(envAad environment key, value)]
  | .setting name value => [(name.aad, value)]
  | .registry id secret => [(registryAad id, secret)]
  | .webhook id secret => secret.toList.map (webhookAad id, ·)
  | .dnsCredential id value => value.toList.map (dnsCredentialAad id, ·)
  | .deployment app env => env.map fun entry => (envAad app entry.1, entry.2)

variable {Other : Type} (f : String → Sealed Key → Sealed Other)

/-- The row with every value replaced, given the text that the value is bound to. -/
def mapSecrets : Row Key → Row Other
  | .appEnv app key value => .appEnv app key (f (envAad app key) value)
  | .appSecret app name value => .appSecret app name (f (appSecretAad app name) value)
  | .gitConnection id clientSecret accessToken refreshToken =>
    .gitConnection id (f (connectionAad id "client_secret") clientSecret)
      (accessToken.map (f (connectionAad id "access_token")))
      (refreshToken.map (f (connectionAad id "refresh_token")))
  | .githubApp connection privateKey =>
    .githubApp connection (f (connectionAad connection "private_key") privateKey)
  | .envGroupVar group key value => .envGroupVar group key (f (envAad group key) value)
  | .projectEnvVar environment key value =>
    .projectEnvVar environment key (f (envAad environment key) value)
  | .setting name value => .setting name (f name.aad value)
  | .registry id secret => .registry id (f (registryAad id) secret)
  | .webhook id secret => .webhook id (secret.map (f (webhookAad id)))
  | .dnsCredential id value => .dnsCredential id (value.map (f (dnsCredentialAad id)))
  | .deployment app env => .deployment app (env.map fun entry => (entry.1, f (envAad app entry.1) entry.2))

theorem secrets_mapSecrets (row : Row Key) :
    (row.mapSecrets f).secrets = row.secrets.map fun secret => (secret.1, f secret.1 secret.2) := by
  cases row with
  | gitConnection id clientSecret accessToken refreshToken =>
    cases accessToken <;> cases refreshToken <;> rfl
  | webhook id secret => cases secret <;> rfl
  | dnsCredential id value => cases value <;> rfl
  | deployment => simp [mapSecrets, secrets, Function.comp_def]
  | appEnv | appSecret | githubApp | envGroupVar | projectEnvVar | setting | registry => rfl

/-- The row with its values sealed with the first key of the ring. -/
def sealed (ring : ClusterKeys Key) (row : Row Other) : Row Key :=
  row.mapSecrets fun aad value => ring.sealValue aad value.plaintext

end Row

/-! ## Sealing again -/

/-- What the rotation does with a selected row. -/
inductive Resealed (Key : Type) where
  /-- An error, which ends the rotation. -/
  | failed
  /-- The row stays as it is. -/
  | skipped
  | updated (row : Row Key)

section Rotation

variable {Key : Type} [DecidableEq Key] {row : Row Key}

/-- An optional value; an absent one stays absent. -/
def resealOptToken (ring : ClusterKeys Key) (aad : String) :
    Option (Sealed Key) → Option (Option (Sealed Key))
  | none => some none
  | some value => (ring.reseal aad value).map some

def update (row : Option (Row Key)) : Resealed Key :=
  match row with
  | some row => .updated row
  | none => .failed

/-- The row with its values sealed again.  A DNS credential that does not open is passed over;
any other value that does not open is an error. -/
def resealRow (ring : ClusterKeys Key) : Row Key → Resealed Key
  | .appEnv app key value =>
    update ((ring.reseal (envAad app key) value).map (.appEnv app key))
  | .appSecret app name value =>
    update ((ring.reseal (Row.appSecretAad app name) value).map (.appSecret app name))
  | .gitConnection id clientSecret accessToken refreshToken => update do
      let clientSecret ← ring.reseal (connectionAad id "client_secret") clientSecret
      let accessToken ← resealOptToken ring (connectionAad id "access_token") accessToken
      let refreshToken ← resealOptToken ring (connectionAad id "refresh_token") refreshToken
      return .gitConnection id clientSecret accessToken refreshToken
  | .githubApp connection privateKey =>
    update ((ring.reseal (connectionAad connection "private_key") privateKey).map
      (.githubApp connection))
  | .envGroupVar group key value =>
    update ((ring.reseal (envAad group key) value).map (.envGroupVar group key))
  | .projectEnvVar environment key value =>
    update ((ring.reseal (envAad environment key) value).map (.projectEnvVar environment key))
  | .setting name value => update ((ring.reseal name.aad value).map (.setting name))
  | .registry id secret => update ((ring.reseal (registryAad id) secret).map (.registry id))
  | .webhook id (some secret) =>
    update ((ring.reseal (webhookAad id) secret).map fun value => .webhook id (some value))
  | .webhook _ none => .skipped
  | .dnsCredential id (some value) =>
    match ring.reseal (dnsCredentialAad id) value with
    | some value => .updated (.dnsCredential id (some value))
    | none => .skipped
  | .dnsCredential _ none => .skipped
  | .deployment _ _ => .skipped

/-! ## The writes of a rotation -/

structure Disk (Key : Type) where
  db : List (Row Key)
  keyFile : KeyFile Key
  oldFile : KeyFile Key

/-- One write.  A file is written in two: it is emptied, then filled. -/
inductive Write (Key : Type) where
  | update (index : Nat) (row : Row Key)
  | truncateOld
  | fillOld (content : KeyFile Key)
  | truncateKey
  | fillKey (content : KeyFile Key)

def perform (disk : Disk Key) : Write Key → Disk Key
  | .update index row => { disk with db := disk.db.set index row }
  | .truncateOld => { disk with oldFile := .torn }
  | .fillOld content => { disk with oldFile := content }
  | .truncateKey => { disk with keyFile := .torn }
  | .fillKey content => { disk with keyFile := content }

/-- The selected rows with their places, in the order of the rotation. -/
def visits (db : List (Row Key)) : List (Row Key × Nat) :=
  rotationOrder.flatMap fun selection =>
    db.zipIdx.filter fun entry => entry.1.selection = some selection

/-- The row updates up to the first error, and whether there was none. -/
def rowUpdates (ring : ClusterKeys Key) : List (Row Key × Nat) → List (Write Key) × Bool
  | [] => ([], true)
  | (row, index) :: rest =>
    match resealRow ring row with
    | .failed => ([], false)
    | .skipped => rowUpdates ring rest
    | .updated row =>
      let (updates, complete) := rowUpdates ring rest
      (.update index row :: updates, complete)

def writeKeyFiles (keyFile : KeyFile Key) (newKey : Key) : List (Write Key) :=
  (if keyFile = .absent then [] else [.truncateOld, .fillOld keyFile]) ++
    [.truncateKey, .fillKey (.key newKey)]

/-- The writes of a rotation to `newKey` by a server that holds `ring`. -/
def runKeyRotation (ring : ClusterKeys Key) (newKey : Key) (disk : Disk Key) :
    List (Write Key) :=
  let (updates, complete) := rowUpdates (ring.rotate newKey) (visits disk.db)
  if complete then updates ++ writeKeyFiles disk.keyFile newKey else updates

/-- The disk after the first `n` writes. -/
def stoppedAfter (ring : ClusterKeys Key) (newKey : Key) (disk : Disk Key) (n : Nat) : Disk Key :=
  exec perform disk ((runKeyRotation ring newKey disk).take n)

/-! ## Starting again -/

/-- The ring opens every sealed value of the database. -/
def OpensAll (ring : ClusterKeys Key) (db : List (Row Key)) : Prop :=
  ∀ row ∈ db, ∀ secret ∈ row.secrets, (ring.open? secret.1 secret.2).isSome

/-- A server that starts on the disk reads its key files and opens every sealed value. -/
def Recoverable (disk : Disk Key) : Prop :=
  ∃ ring, openKeys disk.keyFile disk.oldFile = some ring ∧ OpensAll ring disk.db

instance OpensAll.decidable (ring : ClusterKeys Key) (db : List (Row Key)) :
    Decidable (OpensAll ring db) :=
  inferInstanceAs (Decidable (∀ row ∈ db, ∀ secret ∈ row.secrets, _))

instance Recoverable.decidable (disk : Disk Key) : Decidable (Recoverable disk) :=
  match opened : openKeys disk.keyFile disk.oldFile with
  | none => .isFalse fun ⟨_, absurd, _⟩ => nomatch opened.symm.trans absurd
  | some ring =>
    if all : OpensAll ring disk.db then .isTrue ⟨ring, opened, all⟩
    else .isFalse fun ⟨_, same, others⟩ =>
      all (Option.some.inj (opened.symm.trans same) ▸ others)

/-! ## One row -/

variable {ring : ClusterKeys Key}

theorem resealOptToken_eq_some {aad : String} {value again : Option (Sealed Key)} :
    resealOptToken ring aad value = some again ↔ (∀ s ∈ value, (ring.open? aad s).isSome) ∧
      again = value.map fun s => ring.sealValue aad s.plaintext := by
  cases value with
  | none => simpa [resealOptToken] using eq_comm
  | some =>
    simp only [resealOptToken, Option.map_eq_some_iff, reseal_eq_some, Option.mem_def,
      Option.some.injEq, forall_eq', and_assoc, exists_and_left, exists_eq_left, Option.map_some]
    exact and_congr_right fun _ => eq_comm

/-- A selected row whose secrets all open is sealed again as a whole, under the first key of the
ring; only a row without a secret is passed over. -/
theorem resealRow_of_opens (selected : row.selection.isSome)
    (opens : ∀ secret ∈ row.secrets, (ring.open? secret.1 secret.2).isSome) :
    (resealRow ring row = .skipped ∧ row.secrets = []) ∨
      (resealRow ring row = .updated (row.sealed ring) ∧ row.secrets ≠ []) := by
  have again : ∀ {aad value}, (aad, value) ∈ row.secrets →
      ring.reseal aad value = some (ring.sealValue aad value.plaintext) :=
    fun own => reseal_eq_some.mpr ⟨opens _ own, rfl⟩
  cases row with
  | appEnv _ _ _ | appSecret _ _ _ | githubApp _ _ | envGroupVar _ _ _ | projectEnvVar _ _ _
  | setting | registry =>
    refine .inr ⟨?_, List.cons_ne_nil _ _⟩
    rw [resealRow, again List.mem_cons_self]
    rfl
  | gitConnection id clientSecret accessToken refreshToken =>
    have access : ∀ s ∈ accessToken, (ring.open? (connectionAad id "access_token") s).isSome := by
      rintro s ⟨⟩
      exact opens (connectionAad id "access_token", s) (by simp [Row.secrets])
    have refresh :
        ∀ s ∈ refreshToken, (ring.open? (connectionAad id "refresh_token") s).isSome := by
      rintro s ⟨⟩
      exact opens (connectionAad id "refresh_token", s) (by simp [Row.secrets])
    refine .inr ⟨?_, List.cons_ne_nil _ _⟩
    rw [resealRow, again List.mem_cons_self, resealOptToken_eq_some.mpr ⟨access, rfl⟩,
      resealOptToken_eq_some.mpr ⟨refresh, rfl⟩]
    rfl
  | webhook id secret =>
    cases secret with
    | none => cases selected
    | some =>
      refine .inr ⟨?_, List.cons_ne_nil _ _⟩
      rw [resealRow, again List.mem_cons_self]
      rfl
  | dnsCredential id stored =>
    cases stored with
    | none => exact .inl ⟨rfl, rfl⟩
    | some =>
      refine .inr ⟨?_, List.cons_ne_nil _ _⟩
      rw [resealRow, again List.mem_cons_self]
      rfl
  | deployment => cases selected

/-! ## The row updates -/

omit [DecidableEq Key] in
/-- The selected rows are the rows of some selection, each at its place. -/
theorem mem_visits {db : List (Row Key)} {index : Nat} :
    (row, index) ∈ visits db ↔ db[index]? = some row ∧ row.selection.isSome := by
  simp only [visits, List.mem_flatMap, List.mem_filter, List.mk_mem_zipIdx_iff_getElem?,
    decide_eq_true_eq]
  constructor
  · rintro ⟨selection, -, here, selected⟩
    exact ⟨here, by rw [selected]; rfl⟩
  · rintro ⟨here, selected⟩
    obtain ⟨selection, known⟩ := Option.isSome_iff_exists.mp selected
    refine ⟨selection, ?_, here, known⟩
    cases selection with
    | settings name => cases name <;> decide
    | appEnv | appSecrets | gitConnections | githubApps | envGroups | projectEnvVars | registries
    | webhooks | dnsCredentials => decide

/-- What becomes of the row at a place. -/
def resealedAt (ring : ClusterKeys Key) (db : List (Row Key)) (index : Nat) : Option (Row Key) :=
  (db[index]?).bind fun row =>
    match resealRow ring row with
    | .updated next => some next
    | _ => none

/-- Every write is the update of a selected row of `db`. -/
def RowWrites (ring : ClusterKeys Key) (db : List (Row Key)) (writes : List (Write Key)) : Prop :=
  ∀ write ∈ writes, ∃ index row next, write = .update index next ∧ db[index]? = some row ∧
    row.selection.isSome ∧ resealRow ring row = .updated next

/-- The update that a visited row gets. -/
def updateOf (ring : ClusterKeys Key) (entry : Row Key × Nat) : Option (Write Key) :=
  match resealRow ring entry.1 with
  | .updated next => some (.update entry.2 next)
  | _ => none

theorem updateOf_eq_some {entry : Row Key × Nat} {write : Write Key} :
    updateOf ring entry = some write ↔
      ∃ next, resealRow ring entry.1 = .updated next ∧ write = .update entry.2 next := by
  unfold updateOf
  split
  · rename_i next updated
    simp [updated, eq_comm]
  · rename_i other
    exact ⟨nofun, fun ⟨next, updated, _⟩ => absurd updated (other next)⟩

/-- Where every visited row opens, no update fails, and the updates are those of the visited
rows. -/
theorem rowUpdates_of_opens {entries : List (Row Key × Nat)}
    (opens : ∀ row index, (row, index) ∈ entries → row.selection.isSome ∧
      ∀ secret ∈ row.secrets, (ring.open? secret.1 secret.2).isSome) :
    rowUpdates ring entries = (entries.filterMap (updateOf ring), true) := by
  induction entries with
  | nil => rfl
  | cons entry rest ih =>
    obtain ⟨row, index⟩ := entry
    have tail := ih fun row index member => opens row index (List.mem_cons_of_mem _ member)
    obtain ⟨selected, rowOpens⟩ := opens row index List.mem_cons_self
    rcases resealRow_of_opens selected rowOpens with ⟨skipped, -⟩ | ⟨updated, -⟩
    · simp [rowUpdates, updateOf, skipped, tail]
    · simp [rowUpdates, updateOf, updated, tail]

/-- Row updates leave the files alone, bring every updated row to its resealed form and leave the
others as they are. -/
theorem exec_rowWrites {db : List (Row Key)} {writes : List (Write Key)}
    (rows : RowWrites ring db writes) (disk : Disk Key) (sized : disk.db.length = db.length) :
    (exec perform disk writes).keyFile = disk.keyFile ∧
      (exec perform disk writes).oldFile = disk.oldFile ∧
      (∀ index, (∃ next, .update index next ∈ writes) →
        (exec perform disk writes).db[index]? = resealedAt ring db index) ∧
      ∀ index, (∀ next, .update index next ∉ writes) →
        (exec perform disk writes).db[index]? = disk.db[index]? := by
  induction writes generalizing disk with
  | nil =>
    refine ⟨rfl, rfl, ?_, fun _ _ => rfl⟩
    rintro index ⟨next, absent⟩
    cases absent
  | cons write rest ih =>
    obtain ⟨place, row, next, rfl, here, -, updated⟩ := rows write List.mem_cons_self
    have restRows : RowWrites ring db rest := fun write member =>
      rows write (List.mem_cons_of_mem _ member)
    obtain ⟨keyFile, oldFile, done, kept⟩ := ih restRows (perform disk (.update place next))
      ((List.length_set ..).trans sized)
    refine ⟨keyFile, oldFile, ?_, ?_⟩
    · rintro index ⟨after, member⟩
      by_cases later : ∃ after, .update index after ∈ rest
      · exact done index later
      · -- This write is the last one at `index`.
        rcases List.mem_cons.mp member with same | tail
        · cases same
          have room : place < disk.db.length := by
            rw [sized]
            exact (List.getElem?_eq_some_iff.mp here).1
          rw [Theory.Run.exec_cons, kept place fun after there => later ⟨after, there⟩]
          show (disk.db.set place next)[place]? = _
          rw [List.getElem?_set_self room, resealedAt, here, Option.bind_some, updated]
        · exact absurd ⟨after, tail⟩ later
    · intro index never
      have apart : place ≠ index := fun same =>
        never next (by rw [same]; exact List.mem_cons_self)
      rw [Theory.Run.exec_cons,
        kept index fun after member => never after (List.mem_cons_of_mem _ member)]
      show (disk.db.set place next)[index]? = _
      rw [List.getElem?_set_ne apart]

/-! ## The stops -/

/-- The values the rotation does not reach are sealed with the key of the key file. -/
def SnapshotsCurrent (disk : Disk Key) : Prop :=
  ∀ row ∈ disk.db, row.selection = none → ∀ secret ∈ row.secrets, disk.keyFile = .key secret.2.key

/-- What is given: the server holds the keys of the files, the new key is none of its keys, and
the disk is in order before the rotation. -/
structure Ready (ring : ClusterKeys Key) (newKey : Key) (disk : Disk Key) : Prop where
  loaded : ∀ key, disk.keyFile = .key key ∨ disk.oldFile = .key key → key ∈ ring.keys
  fresh : newKey ∉ ring.keys
  before : Recoverable disk

namespace Ready

variable {ring : ClusterKeys Key} {newKey : Key} {disk : Disk Key}

section Ready

variable (ready : Ready ring newKey disk)
include ready

/-- A ring of the files before the last write holds no key but those of the server. -/
theorem keys_of_files {started : ClusterKeys Key}
    (opened : openKeys disk.keyFile disk.oldFile = some started) :
    ∀ key ∈ started.keys, key ∈ ring.keys := by
  obtain ⟨primary, keyFile, cases⟩ := openKeys_eq_some opened
  intro key member
  rcases cases with ⟨-, keys⟩ | ⟨old, oldFile, -, keys⟩
  · rw [keys, List.mem_singleton] at member
    exact ready.loaded key (.inl (by rw [keyFile, member]))
  · rw [keys, List.mem_cons, List.mem_singleton] at member
    rcases member with rfl | rfl
    · exact ready.loaded _ (.inl keyFile)
    · exact ready.loaded _ (.inr oldFile)

/-- Before the rotation every secret is bound to its row and sealed with a key of the server. -/
theorem secret_known (member : row ∈ disk.db) {secret : String × Sealed Key}
    (own : secret ∈ row.secrets) :
    secret.2.key ∈ ring.keys ∧ secret.2.aad = secret.1 := by
  obtain ⟨started, opened, opens⟩ := ready.before
  obtain ⟨known, bound⟩ := isSome_open.mp (opens row member secret own)
  exact ⟨ready.keys_of_files opened _ known, bound⟩

theorem visited_opens :
    ∀ row index, (row, index) ∈ visits disk.db → row.selection.isSome ∧
      ∀ secret ∈ row.secrets, ((ring.rotate newKey).open? secret.1 secret.2).isSome := by
  intro row index visited
  obtain ⟨here, selected⟩ := mem_visits.mp visited
  refine ⟨selected, fun secret own => isSome_open.mpr ?_⟩
  obtain ⟨known, bound⟩ := ready.secret_known (List.mem_of_getElem? here) own
  exact ⟨List.mem_cons_of_mem _ known, bound⟩

/-- The row updates of the rotation. -/
def updates (ring : ClusterKeys Key) (newKey : Key) (disk : Disk Key) : List (Write Key) :=
  (rowUpdates (ring.rotate newKey) (visits disk.db)).1

theorem mem_updates {write : Write Key} :
    write ∈ updates ring newKey disk ↔ ∃ row index, (row, index) ∈ visits disk.db ∧
      ∃ next, resealRow (ring.rotate newKey) row = .updated next ∧ write = .update index next := by
  rw [updates, rowUpdates_of_opens ready.visited_opens]
  simp only [List.mem_filterMap, Prod.exists, updateOf_eq_some]

/-- An updated row held secrets, and they are sealed again with the new key. -/
theorem resealed_eq {index : Nat} {next : Row Key} (here : disk.db[index]? = some row)
    (selected : row.selection.isSome)
    (resealed : resealRow (ring.rotate newKey) row = .updated next) :
    next = row.sealed (ring.rotate newKey) ∧ row.secrets ≠ [] := by
  have opens := (ready.visited_opens row index (mem_visits.mpr ⟨here, selected⟩)).2
  rcases resealRow_of_opens selected opens with ⟨skipped, -⟩ | ⟨updated, full⟩
  · cases resealed.symm.trans skipped
  · cases resealed.symm.trans updated
    exact ⟨rfl, full⟩

theorem rowWrites :
    RowWrites (ring.rotate newKey) disk.db (updates ring newKey disk) := by
  intro write member
  obtain ⟨row, index, visited, next, resealed, rfl⟩ := ready.mem_updates.mp member
  obtain ⟨here, selected⟩ := mem_visits.mp visited
  exact ⟨index, row, next, rfl, here, selected, resealed⟩

/-- No update fails: the rotation is its row updates and then the four writes of the files. -/
theorem rotation_eq :
    runKeyRotation ring newKey disk = updates ring newKey disk ++
      [.truncateOld, .fillOld disk.keyFile, .truncateKey, .fillKey (.key newKey)] := by
  obtain ⟨started, opened, -⟩ := ready.before
  obtain ⟨primary, keyFile, -⟩ := openKeys_eq_some opened
  rw [runKeyRotation, updates, rowUpdates_of_opens ready.visited_opens]
  dsimp only
  rw [if_pos rfl, writeKeyFiles, if_neg (by simp [keyFile])]
  rfl

/-- After the first update some row is sealed with the new key, which no file holds yet. -/
theorem not_recoverable_updating {n : Nat} (some : 0 < n)
    (within : n ≤ (updates ring newKey disk).length) :
    ¬ Recoverable (exec perform disk ((updates ring newKey disk).take n)) := by
  rintro ⟨started, opened, opens⟩
  have rows : RowWrites (ring.rotate newKey) disk.db ((updates ring newKey disk).take n) :=
    fun write member => ready.rowWrites write (List.mem_of_mem_take member)
  obtain ⟨keyFile, oldFile, done, -⟩ := exec_rowWrites rows disk rfl
  rw [keyFile, oldFile] at opened
  -- The first update of the run.
  obtain ⟨write, first⟩ : ∃ write, write ∈ (updates ring newKey disk).take n := by
    apply List.exists_mem_of_length_pos
    rw [List.length_take]
    omega
  obtain ⟨index, row, next, rfl, here, selected, resealed⟩ := rows write first
  have after := done index ⟨next, first⟩
  rw [resealedAt, here, Option.bind_some, resealed] at after
  obtain ⟨rfl, full⟩ := ready.resealed_eq here selected resealed
  obtain ⟨secret, own⟩ := List.exists_mem_of_ne_nil _ full
  have sealedAll := opens _ (List.mem_of_getElem? after)
  rw [Row.sealed, Row.secrets_mapSecrets] at sealedAll
  have known := isSome_open.mp (sealedAll _ (List.mem_map_of_mem own))
  exact ready.fresh (ready.keys_of_files opened _ known.1)

/-- The database after the row updates: a row is new or was there, and it is new exactly when it
held a secret and was selected. -/
theorem mem_updated (member : row ∈ (exec perform disk (updates ring newKey disk)).db) :
    (∃ old ∈ disk.db, row = old.sealed (ring.rotate newKey)) ∨
      (row ∈ disk.db ∧ (row.selection = none ∨ row.secrets = [])) := by
  obtain ⟨-, -, done, kept⟩ := exec_rowWrites ready.rowWrites disk rfl
  obtain ⟨index, atIndex⟩ := List.mem_iff_getElem?.mp member
  by_cases updated : ∃ next, .update index next ∈ updates ring newKey disk
  · rw [done index updated] at atIndex
    obtain ⟨next, there⟩ := updated
    obtain ⟨place, old, after, same, here, selected, resealed⟩ := ready.rowWrites _ there
    cases same
    rw [resealedAt, here, Option.bind_some, resealed] at atIndex
    cases atIndex
    exact .inl ⟨old, List.mem_of_getElem? here, (ready.resealed_eq here selected resealed).1⟩
  · rw [kept index fun next there => updated ⟨next, there⟩] at atIndex
    refine .inr ⟨List.mem_of_getElem? atIndex, ?_⟩
    by_cases selected : row.selection.isSome
    · have visited := mem_visits.mpr ⟨atIndex, selected⟩
      rcases resealRow_of_opens selected (ready.visited_opens row index visited).2 with
        ⟨-, empty⟩ | ⟨moved, -⟩
      · exact .inr empty
      · have there := ready.mem_updates.mpr ⟨row, index, visited, _, moved, rfl⟩
        exact absurd ⟨_, there⟩ updated
    · exact .inl (by simpa using selected)

/-- A row that no selection holds stays. -/
theorem kept_of_unselected (member : row ∈ disk.db) (unselected : row.selection = none) :
    row ∈ (exec perform disk (updates ring newKey disk)).db := by
  obtain ⟨-, -, -, kept⟩ := exec_rowWrites ready.rowWrites disk rfl
  obtain ⟨index, atIndex⟩ := List.mem_iff_getElem?.mp member
  refine List.mem_of_getElem? ((kept index fun next there => ?_).trans atIndex)
  obtain ⟨place, other, after, same, here, selected, -⟩ := ready.rowWrites _ there
  cases same
  rw [atIndex] at here
  cases here
  rw [unselected] at selected
  cases selected

/-- The keys of the last two rotations open everything exactly when the values the rotation does
not reach are sealed with the key it replaces. -/
theorem opensAll_updated_iff {current : Key} (keyFile : disk.keyFile = .key current) :
    OpensAll ⟨newKey, [current]⟩ (exec perform disk (updates ring newKey disk)).db ↔
      SnapshotsCurrent disk := by
  constructor
  · intro opens row member unselected secret own
    obtain ⟨known, -⟩ := ready.secret_known member own
    obtain ⟨opening, -⟩ := isSome_open.mp
      (opens row (ready.kept_of_unselected member unselected) secret own)
    rcases List.mem_cons.mp opening with new | older
    · have sealedNew : secret.2.key = newKey := new
      rw [sealedNew] at known
      exact absurd known ready.fresh
    · rw [List.mem_singleton.mp older]
      exact keyFile
  · intro snapshots row member secret own
    rw [isSome_open]
    rcases ready.mem_updated member with ⟨old, -, rfl⟩ | ⟨same, unselected | empty⟩
    · rw [Row.sealed, Row.secrets_mapSecrets] at own
      obtain ⟨before, -, rfl⟩ := List.mem_map.mp own
      exact ⟨List.mem_cons_self, rfl⟩
    · have current := snapshots row same unselected secret own
      rw [keyFile] at current
      cases current
      exact ⟨List.mem_cons_of_mem _ List.mem_cons_self, (ready.secret_known same own).2⟩
    · rw [empty] at own
      cases own

end Ready

end Ready

/-- **A rotation that stops can be recovered from** exactly before its first write and after its
last one, and after the last one only when the deployments hold no value of an older key. -/
theorem recoverable_iff {ring : ClusterKeys Key} {newKey : Key} {disk : Disk Key}
    (ready : Ready ring newKey disk) {n : Nat}
    (within : n ≤ (runKeyRotation ring newKey disk).length) :
    Recoverable (stoppedAfter ring newKey disk n) ↔
      n = 0 ∨ (n = (runKeyRotation ring newKey disk).length ∧ SnapshotsCurrent disk) := by
  obtain ⟨started, opened, -⟩ := ready.before
  obtain ⟨current, keyFile, -⟩ := openKeys_eq_some opened
  rw [stoppedAfter]
  rw [ready.rotation_eq, List.length_append] at within ⊢
  rcases Nat.eq_zero_or_pos n with rfl | positive
  · simpa using ready.before
  by_cases updating : n ≤ (Ready.updates ring newKey disk).length
  · -- Among the row updates.
    rw [List.take_append_of_le_length updating]
    refine iff_of_false (ready.not_recoverable_updating positive updating) ?_
    simp only [List.length_cons, List.length_nil]
    omega
  · obtain ⟨m, rfl⟩ : ∃ m, n = (Ready.updates ring newKey disk).length + m := 
      ⟨n - (Ready.updates ring newKey disk).length, by omega⟩
    have few : m ≤ 4 := by simpa using within
    have different : newKey ≠ current := fun same =>
      ready.fresh (same ▸ ready.loaded current (.inl keyFile))
    rw [List.take_length_add_append, exec_append]
    obtain ⟨sameKey, sameOld, -, -⟩ := exec_rowWrites ready.rowWrites disk rfl
    have opensAll := ready.opensAll_updated_iff keyFile
    generalize exec perform disk (Ready.updates ring newKey disk) = updated at *
    obtain ⟨db, updatedKey, updatedOld⟩ := updated
    subst sameKey sameOld
    -- One, two or three of the file writes are made, or all four.
    have cases : m = 0 ∨ m = 1 ∨ m = 2 ∨ m = 3 ∨ m = 4 := by omega
    rcases cases with rfl | rfl | rfl | rfl | rfl
    · omega
    · refine iff_of_false ?_ (by simp)
      rintro ⟨ring, absurd, -⟩
      simp [perform, openKeys, parseKeyFile, keyFile] at absurd
    · refine iff_of_false ?_ (by simp)
      rintro ⟨ring, absurd, -⟩
      simp [perform, keyFile, openKeys_twice] at absurd
    · refine iff_of_false ?_ (by simp)
      rintro ⟨ring, absurd, -⟩
      simp [perform, openKeys, parseKeyFile] at absurd
    · have complete : Recoverable (⟨db, .key newKey, .key current⟩ : Disk Key) ↔
          SnapshotsCurrent disk := by
        rw [Recoverable, openKeys_pair different]
        simp only [Option.some.injEq, exists_eq_left']
        exact opensAll
      simpa [perform, keyFile] using complete

/-! ## Two small disks -/

section Small

/-- A value of an application that is sealed with a key. -/
def appValue (key : Nat) : Sealed Nat := ⟨key, envAad .new "TOKEN", "secret"⟩

/-- One variable of one application, sealed with the key of the key file. -/
def oneVariable : Disk Nat := ⟨[.appEnv .new "TOKEN" (appValue 1)], .key 1, .absent⟩

/-- The variable, and a deployment that was started with it. -/
def oneDeployment : Disk Nat :=
  ⟨[.appEnv .new "TOKEN" (appValue 1), .deployment .new [("TOKEN", appValue 1)]], .key 1, .absent⟩

/-- The same disk after a rotation from key `0`: the deployment is older. -/
def olderDeployment : Disk Nat :=
  ⟨[.appEnv .new "TOKEN" (appValue 1), .deployment .new [("TOKEN", appValue 0)]], .key 1, .key 0⟩

theorem ready_oneDeployment : Ready ⟨1, []⟩ 2 oneDeployment where
  loaded key known := by
    rcases known with known | known <;> cases known
    exact List.mem_cons_self
  fresh := by decide
  before := by decide

theorem recoverable_complete :
    Recoverable (stoppedAfter ⟨1, []⟩ 2 oneDeployment 5) :=
  (recoverable_iff ready_oneDeployment (by decide)).mpr
    (.inr ⟨by decide, by unfold SnapshotsCurrent; decide⟩)

/-- A rotation of one variable is five writes.  A stop after any of the first four leaves a disk
that no server opens, and so does a complete rotation when a deployment holds an older value. -/
theorem rotation_not_crash_safe :
    (Recoverable oneVariable ∧ (runKeyRotation ⟨1, []⟩ 2 oneVariable).length = 5 ∧
      ∀ n < 5, 0 < n → ¬ Recoverable (stoppedAfter ⟨1, []⟩ 2 oneVariable n)) ∧
    Recoverable olderDeployment ∧
      ¬ Recoverable (stoppedAfter ⟨1, [0]⟩ 2 olderDeployment 5) := by
  decide

end Small

end Rotation

end R3v3rs3.Platform.Rotate
