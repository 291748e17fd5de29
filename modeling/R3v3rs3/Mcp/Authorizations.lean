/-
# R3v3rs3.Mcp.Authorizations -- the codes and tokens of MCP clients

`McpAuthorizations` keeps the access tokens by their hash and finds them by the hash of the refresh
token and by the id of the session; the database has a row for each.  The maps are written one by
one, so what ties them together is an invariant (`Linked`), and so is what a restart will find:
every row that has not run out is a token in memory (`Backed`).

Most operations only take grants away.  `Trims` says what they have in common; the one that adds a
grant is `issueTokensWithSession`.  Every operation reads the clock once; times are seconds.
-/
import R3v3rs3.Theory.Table

namespace R3v3rs3.Mcp
open Theory Table
set_option autoImplicit false

/-- A map with text keys. -/
abbrev StringMap (Value : Type) := Table (Prod.fst : String × Value → String)

structure AuthorizationCode where
  expiresAt : Nat
  clientId : String
  redirectUri : String
  codeChallenge : String
  scope : String
  username : String

structure AccessToken where
  id : String
  expiresAt : Nat
  refreshExpiresAt : Nat
  clientId : String
  username : String
  scope : String
  refreshToken : String
  createdAt : Nat

structure McpClientConfig where
  id : String
  name : String
  redirectUris : List String

structure DynamicClientEntry where
  config : McpClientConfig
  createdAt : Nat
  seq : Nat

structure McpAuthorizations where
  codes : StringMap AuthorizationCode
  tokens : StringMap AccessToken
  refresh : StringMap String
  byId : StringMap String
  rotatedRefresh : StringMap (String × Nat)
  clients : StringMap DynamicClientEntry
  clientSeq : Nat

/-- The rows of `mcp_tokens`, with the hash of the access token, and those of `mcp_clients`, with
the time of their creation. -/
structure Database where
  tokens : StringMap AccessToken
  clients : StringMap (McpClientConfig × Nat)

structure Store where
  auth : McpAuthorizations
  db : Database
  /-- The purges of the database that were spawned and did not run yet, with their time. -/
  spawned : List Nat

def codeLifetime : Nat := 600
def accessTokenLifetime : Nat := 3600
def refreshTokenLifetime : Nat := 30 * 24 * 3600
def maxGrants : Nat := 1024
def dynamicClientTtl : Nat := 7 * 86400
def unauthClientTtl : Nat := 86400
def maxClients : Nat := 256

/-- The digests of the SHA-256 library. -/
structure Digests where
  /-- `hex::encode(Sha256::digest(text))`. -/
  hex : String → String
  /-- The S256 challenge of a PKCE verifier. -/
  challengeOf : String → String

namespace Digests

variable (lib : Digests)

def hashToken (token : String) : String := "sha256:" ++ lib.hex token

/-- The id of the session that an access token starts. -/
def sessionId (accessToken : String) : String :=
  "mcp-" ++ String.ofList ((lib.hex accessToken).toList.take 16)

end Digests

structure IssuedTokens where
  accessToken : String
  expiresIn : Nat
  refreshToken : String
  scope : String

inductive RefreshError where
  | invalid
  | reused
  deriving DecidableEq

/-! ## The database -/

namespace Database

/-- `INSERT INTO mcp_tokens`; a row that shares its id or one of its tokens is an error, which is
only logged. -/
def saveToken (db : Database) (access : String) (grant : AccessToken) : Database :=
  if db.tokens.rows.any fun row => row.2.id = grant.id || row.1 = access ||
      row.2.refreshToken = grant.refreshToken then db
  else { db with tokens := db.tokens.upsert (access, grant) }

def deleteToken (db : Database) (accessOrRefresh : String) : Database :=
  { db with
    tokens := db.tokens.discard fun row =>
      row.1 = accessOrRefresh || row.2.refreshToken = accessOrRefresh }

def deleteSession (db : Database) (id : String) : Database :=
  { db with tokens := db.tokens.discard fun row => row.2.id = id }

def saveClient (db : Database) (client : McpClientConfig) (now : Nat) : Database :=
  { db with
    clients := db.clients.upsert
      (client.id, client, ((db.clients.find client.id).map fun row => row.2.2).getD now) }

def deleteClient (db : Database) (id : String) : Database :=
  { db with clients := db.clients.erase id }

/-- Some token belongs to the client. -/
def hasTokens (db : Database) (clientId : String) : Bool :=
  db.tokens.rows.any fun row => row.2.clientId = clientId

def purgeExpiredClients (db : Database) (cutoff : Nat) : Database :=
  { db with clients := db.clients.discard fun row => row.2.2 ≤ cutoff && !db.hasTokens row.1 }

def purgeExpired (db : Database) (now : Nat) : Database :=
  { db with tokens := db.tokens.discard fun row => row.2.refreshExpiresAt ≤ now }

def loadClients (db : Database) (now : Nat) : StringMap DynamicClientEntry :=
  (db.clients.rows.filter fun row =>
      decide (now - unauthClientTtl < row.2.2) || db.hasTokens row.1).foldl
    (fun clients row => clients.upsert (row.1, ⟨row.2.1, row.2.2, 0⟩)) .empty

end Database

/-! ## Grants -/

namespace McpAuthorizations

def empty : McpAuthorizations := ⟨.empty, .empty, .empty, .empty, .empty, .empty, 0⟩

/-- Takes a token out of all maps. -/
def removeGrant (auth : McpAuthorizations) (hash : String) : McpAuthorizations :=
  match auth.tokens.find hash with
  | some (_, grant) =>
    { auth with
      tokens := auth.tokens.erase hash
      refresh := auth.refresh.erase grant.refreshToken
      byId := auth.byId.erase grant.id }
  | none => auth

def addGrant (auth : McpAuthorizations) (hash : String) (grant : AccessToken) :
    McpAuthorizations :=
  { auth with
    tokens := auth.tokens.upsert (hash, grant)
    refresh := auth.refresh.upsert (grant.refreshToken, hash)
    byId := auth.byId.upsert (grant.id, hash) }

/-- The client has a code or a token that did not run out. -/
def isActiveClient (auth : McpAuthorizations) (now : Nat) (id : String) : Bool :=
  (auth.codes.rows.any fun row => decide (now < row.2.expiresAt) && row.2.clientId = id) ||
    auth.tokens.rows.any fun row => decide (now < row.2.refreshExpiresAt) && row.2.clientId = id

/-- The first of the clients that are oldest by time and number. -/
def oldest : List (String × DynamicClientEntry) → Option (String × DynamicClientEntry)
  | [] => none
  | row :: rest =>
    match oldest rest with
    | none => some row
    | some other =>
      if other.2.createdAt < row.2.createdAt ∨
          other.2.createdAt = row.2.createdAt ∧ other.2.seq < row.2.seq then some other
      else some row

/-- The oldest idle client, or the oldest one when none is idle. -/
def findEvictionCandidate (auth : McpAuthorizations) (now : Nat) : Option String :=
  ((oldest (auth.clients.rows.filter fun row => !auth.isActiveClient now row.1)).or
    (oldest auth.clients.rows)).map Prod.fst

def verify (lib : Digests) (auth : McpAuthorizations) (now : Nat) (token : String) :
    Option AccessToken :=
  ((auth.tokens.find (lib.hashToken token)).map Prod.snd).filter fun grant => now < grant.expiresAt

end McpAuthorizations

namespace Store

def empty : Store := ⟨.empty, ⟨.empty, .empty⟩, []⟩

def revokeSession (store : Store) (id : String) : Store × Bool :=
  match store.auth.byId.find id with
  | none => (store, false)
  | some (_, access) =>
    let auth := { store.auth with byId := store.auth.byId.erase id }
    let auth :=
      match auth.tokens.find access with
      | some (_, grant) =>
        { auth with
          tokens := auth.tokens.erase access
          refresh := auth.refresh.erase grant.refreshToken }
      | none => auth
    ({ store with auth, db := store.db.deleteSession id }, true)

/-! ## Clients -/

/-- One turn of the loop of `revoke_client_grants`. -/
def revokeGrant (store : Store) (hash : String) : Store :=
  { store with auth := store.auth.removeGrant hash, db := store.db.deleteToken hash }

def revokeClientGrants (store : Store) (clientId : String) : Store :=
  let store := { store with
    auth := { store.auth with codes := store.auth.codes.discard fun row => row.2.clientId = clientId } }
  ((store.auth.tokens.rows.filter fun row => row.2.clientId = clientId).map Prod.fst).foldl
    revokeGrant store

def evictClient (store : Store) (id : String) : Store :=
  let store := { store with auth := { store.auth with clients := store.auth.clients.erase id } }
  let store := store.revokeClientGrants id
  { store with db := store.db.deleteClient id }

/-- Too old, for a client with or without grants. -/
def clientExpired (active : Bool) (now createdAt : Nat) : Bool :=
  (!active && decide (createdAt ≤ now - unauthClientTtl)) ||
    decide (createdAt ≤ now - dynamicClientTtl)

def cleanupClients (store : Store) (now : Nat) : Store :=
  ((store.auth.clients.rows.filter fun row =>
      clientExpired (store.auth.isActiveClient now row.1) now row.2.createdAt).map Prod.fst).foldl
    evictClient store

/-- `register_client`, which gives the client the id. -/
def registerClient (store : Store) (now : Nat) (client : McpClientConfig) (id : String) :
    Store × Option String :=
  let store := store.cleanupClients now
  let add (store : Store) : Store × Option String :=
    let client := { client with id }
    ({ store with
        db := store.db.saveClient client now
        auth := { store.auth with
          clients := store.auth.clients.upsert (id, ⟨client, now, store.auth.clientSeq⟩)
          clientSeq := (store.auth.clientSeq + 1) % 18446744073709551616 } }, some id)
  if maxClients ≤ store.auth.clients.rows.length then
    match store.auth.findEvictionCandidate now with
    | none => (store, none)
    | some evicted => add (store.evictClient evicted)
  else add store

/-! ## Codes and tokens -/

def cleanup (store : Store) (now : Nat) : Store :=
  let auth := { store.auth with
    rotatedRefresh := store.auth.rotatedRefresh.discard fun row => row.2.2 ≤ now
    clients := store.auth.clients.discard fun row =>
      let active := store.auth.isActiveClient now row.1
      !((active && decide (now - dynamicClientTtl < row.2.createdAt)) ||
        (!active && decide (now - unauthClientTtl < row.2.createdAt))) }
  if auth.codes.rows.length + auth.tokens.rows.length < maxGrants then { store with auth }
  else
    let auth := { auth with codes := auth.codes.discard fun row => row.2.expiresAt ≤ now }
    let expired := (auth.tokens.rows.filter fun row => row.2.refreshExpiresAt ≤ now).map Prod.fst
    { store with
      auth := expired.foldl McpAuthorizations.removeGrant auth
      spawned := store.spawned ++ [now] }

/-- The purge that `cleanup` spawned at a time. -/
def purge (store : Store) (n : Nat) : Store :=
  match store.spawned[n]? with
  | some time =>
    { store with
      db := (store.db.purgeExpired time).purgeExpiredClients (time - unauthClientTtl)
      spawned := store.spawned.eraseIdx n }
  | none => store

def issueCode (store : Store) (now : Nat) (grant : AuthorizationCode) (code : String) : Store :=
  let store := store.cleanup now
  { store with auth := { store.auth with codes := store.auth.codes.upsert (code, grant) } }

/-- `from_pool`: what a restart reads. -/
def fromPool (store : Store) (now : Nat) : Store :=
  let db := (store.db.purgeExpired now).purgeExpiredClients (now - unauthClientTtl)
  let clients := db.loadClients now
  let auth : McpAuthorizations :=
    { McpAuthorizations.empty with clients, clientSeq := clients.rows.length }
  { auth := (db.tokens.rows.filter fun row => now < row.2.refreshExpiresAt).foldl
      (fun auth row => auth.addGrant row.1 row.2) auth
    db
    spawned := [] }

section Issue

variable (lib : Digests)

/-- The grant of a new pair of tokens. -/
def newGrant (now : Nat) (session : Option String) (clientId scope username : String)
    (accessToken refreshToken : String) : AccessToken where
  id := session.getD (lib.sessionId accessToken)
  expiresAt := now + accessTokenLifetime
  refreshExpiresAt := now + refreshTokenLifetime
  clientId := clientId
  username := username
  scope := scope
  refreshToken := lib.hashToken refreshToken
  createdAt := now

/-- The new tokens are the last two arguments. -/
def issueTokensWithSession (store : Store) (now : Nat) (session : Option String)
    (clientId scope username : String) (accessToken refreshToken : String) :
    Store × IssuedTokens :=
  let grant := newGrant lib now session clientId scope username accessToken refreshToken
  let accessHash := lib.hashToken accessToken
  ({ store with
      auth := store.auth.addGrant accessHash grant
      db := store.db.saveToken accessHash grant },
    ⟨accessToken, accessTokenLifetime, refreshToken, scope⟩)

/-- The code is used up whatever comes of it. -/
def exchangeCode (store : Store) (now : Nat) (code clientId redirectUri codeVerifier : String)
    (accessToken refreshToken : String) : Store × Option IssuedTokens :=
  let found := ((store.auth.codes.find code).map Prod.snd).filter fun grant =>
    decide (now < grant.expiresAt) && grant.clientId = clientId && grant.redirectUri = redirectUri
  let store := { store with auth := { store.auth with codes := store.auth.codes.erase code } }
  match found with
  | none => (store, none)
  | some grant =>
    if lib.challengeOf codeVerifier = grant.codeChallenge then
      let (store, issued) := store.issueTokensWithSession lib now none grant.clientId grant.scope
        grant.username accessToken refreshToken
      (store, some issued)
    else (store, none)

/-- The session of a refresh token that was rotated and has not run out. -/
def reusedSession (store : Store) (now : Nat) (refHash : String) : Option String :=
  match store.auth.rotatedRefresh.find refHash with
  | some (_, session, expires) => if now < expires then some session else none
  | none => none

/-- Notes that a refresh token was rotated. -/
def noteRotation (auth : McpAuthorizations) (now : Nat) (refHash session : String)
    (expires : Nat) : McpAuthorizations :=
  let rotated := auth.rotatedRefresh.upsert (refHash, session, expires)
  { auth with
    rotatedRefresh :=
      if 1000 < rotated.rows.length then rotated.discard fun row => row.2.2 ≤ now else rotated }

def refreshTokens (store : Store) (now : Nat) (token : String)
    (accessToken refreshToken : String) : Store × Except RefreshError IssuedTokens :=
  let refHash := lib.hashToken token
  match store.reusedSession now refHash with
  | some session => ((store.revokeSession session).1, .error .reused)
  | none =>
    match store.auth.refresh.find refHash with
    | none => (store, .error .invalid)
    | some (_, access) =>
      let auth := { store.auth with refresh := store.auth.refresh.erase refHash }
      match auth.tokens.find access with
      | none => ({ store with auth }, .error .invalid)
      | some (_, grant) =>
        let auth := { auth with
          tokens := auth.tokens.erase access
          byId := auth.byId.erase grant.id }
        let db := store.db.deleteToken refHash
        if grant.refreshExpiresAt ≤ now then ({ store with auth, db }, .error .invalid)
        else
          let auth := noteRotation auth now refHash grant.id grant.refreshExpiresAt
          let (store, issued) := { store with auth, db }.issueTokensWithSession lib now
            (some grant.id) grant.clientId grant.scope grant.username accessToken refreshToken
          (store, .ok issued)

end Issue

end Store

/-! ## What the maps have in common -/

/-- The tokens are found by their refresh token and by their session. -/
structure Linked (auth : McpAuthorizations) : Prop where
  refresh : Indexes AccessToken.refreshToken auth.tokens auth.refresh
  byId : Indexes AccessToken.id auth.tokens auth.byId

/-- Everything that a restart would load is in memory. -/
def Backed (now : Nat) (store : Store) : Prop :=
  ∀ row ∈ store.db.tokens.rows, now < row.2.refreshExpiresAt → row ∈ store.auth.tokens.rows

structure Consistent (now : Nat) (store : Store) : Prop where
  linked : Linked store.auth
  backed : Backed now store
  spawned : ∀ time ∈ store.spawned, time ≤ now

/-- The later state has no more codes, tokens and rotations than the earlier one, and still has all
rotations that did not run out. -/
structure Trims (now : Nat) (before after : Store) : Prop where
  codes : ∀ row ∈ after.auth.codes.rows, row ∈ before.auth.codes.rows
  tokens : ∀ row ∈ after.auth.tokens.rows, row ∈ before.auth.tokens.rows
  rotated : ∀ row ∈ after.auth.rotatedRefresh.rows, row ∈ before.auth.rotatedRefresh.rows
  kept : ∀ row ∈ before.auth.rotatedRefresh.rows, now < row.2.2 →
    row ∈ after.auth.rotatedRefresh.rows
  consistent : Consistent now before → Consistent now after

namespace Trims

variable {now : Nat} {before middle after : Store}

theorem refl (store : Store) : Trims now store store :=
  ⟨fun _ h => h, fun _ h => h, fun _ h => h, fun _ h _ => h, fun h => h⟩

theorem trans (first : Trims now before middle) (second : Trims now middle after) :
    Trims now before after where
  codes row member := first.codes row (second.codes row member)
  tokens row member := first.tokens row (second.tokens row member)
  rotated row member := first.rotated row (second.rotated row member)
  kept row member unexpired := second.kept row (first.kept row member unexpired) unexpired
  consistent := second.consistent ∘ first.consistent

/-- A loop of operations that trim. -/
theorem foldl {Item : Type} {f : Store → Item → Store} (trims : ∀ store item, Trims now store (f store item))
    (items : List Item) (store : Store) : Trims now store (items.foldl f store) := by
  induction items generalizing store with
  | nil => exact refl store
  | cons item rest ih => exact (trims store item).trans (ih (f store item))

end Trims

/-! ## Grants that are taken away -/

variable {auth : McpAuthorizations} {hash access : String} {grant : AccessToken}

section Removal

variable {now : Nat} {store : Store}

theorem Linked.removeGrant (linked : Linked auth) (hash : String) :
    Linked (auth.removeGrant hash) := by
  unfold McpAuthorizations.removeGrant
  split
  · rename_i row grant found
    obtain ⟨member, rfl⟩ := mem_of_find found
    exact ⟨linked.refresh.erase member, linked.byId.erase member⟩
  · exact linked

open McpAuthorizations

/-- The token is gone, all others stay. -/
theorem mem_removeGrant {row : String × AccessToken} :
    row ∈ (auth.removeGrant hash).tokens.rows ↔ row ∈ auth.tokens.rows ∧ row.1 ≠ hash := by
  unfold removeGrant
  split
  · exact mem_erase
  · rename_i missing
    refine ⟨fun member => ⟨member, ?_⟩, And.left⟩
    exact key_ne (find_eq_none.mp missing) member

theorem removeGrant_frame (auth : McpAuthorizations) (hash : String) :
    (auth.removeGrant hash).codes = auth.codes ∧
      (auth.removeGrant hash).rotatedRefresh = auth.rotatedRefresh := by
  unfold removeGrant
  split <;> exact ⟨rfl, rfl⟩

/-- The database forgets a token that memory forgets, unless it ran out. -/
theorem trims_removeGrant {db : Database}
    (fewer : ∀ row ∈ db.tokens.rows, row ∈ store.db.tokens.rows ∧
      (now < row.2.refreshExpiresAt → row ∈ store.auth.tokens.rows → row.1 ≠ hash)) :
    Trims now store { store with auth := store.auth.removeGrant hash, db } := by
  have frame := removeGrant_frame store.auth hash
  refine ⟨?_, fun row known => (mem_removeGrant.mp known).1, ?_, ?_, ?_⟩
  · intro row known
    rwa [frame.1] at known
  · intro row known
    rwa [frame.2] at known
  · intro row known _
    rwa [frame.2]
  · intro consistent
    refine ⟨consistent.linked.removeGrant hash, ?_, consistent.spawned⟩
    intro row stored unexpired
    obtain ⟨kept, other⟩ := fewer row stored
    have known := consistent.backed row kept unexpired
    exact mem_removeGrant.mpr ⟨known, other unexpired known⟩

theorem trims_revokeGrant (store : Store) (hash : String) :
    Trims now store (store.revokeGrant hash) := by
  refine trims_removeGrant fun row stored => ?_
  obtain ⟨kept, other⟩ := List.mem_filter.mp stored
  refine ⟨kept, fun _ _ => ?_⟩
  rintro rfl
  simp at other

/-- Clients and codes are none of the tokens' business. -/
theorem trims_of_tokens_same {before after : Store}
    (codes : ∀ row ∈ after.auth.codes.rows, row ∈ before.auth.codes.rows)
    (tokens : after.auth.tokens = before.auth.tokens)
    (refresh : after.auth.refresh = before.auth.refresh)
    (byId : after.auth.byId = before.auth.byId)
    (rotated : after.auth.rotatedRefresh = before.auth.rotatedRefresh)
    (rows : ∀ row ∈ after.db.tokens.rows, row ∈ before.db.tokens.rows)
    (spawned : ∀ time ∈ after.spawned, time ∈ before.spawned) : Trims now before after where
  codes := codes
  tokens row member := tokens ▸ member
  rotated row member := rotated ▸ member
  kept row member _ := rotated ▸ member
  consistent consistent := by
    refine ⟨⟨?_, ?_⟩, ?_, fun time member => consistent.spawned time (spawned time member)⟩
    · rw [tokens, refresh]
      exact consistent.linked.refresh
    · rw [tokens, byId]
      exact consistent.linked.byId
    · intro row member unexpired
      rw [tokens]
      exact consistent.backed row (rows row member) unexpired

theorem trims_revokeClientGrants (store : Store) (clientId : String) :
    Trims now store (store.revokeClientGrants clientId) := by
  refine Trims.trans ?_ (Trims.foldl trims_revokeGrant _ _)
  exact trims_of_tokens_same (fun row member => (List.mem_filter.mp member).1) rfl rfl rfl rfl
    (fun _ h => h) fun _ h => h

theorem trims_evictClient (store : Store) (id : String) : Trims now store (store.evictClient id) := by
  have first : Trims now store
      { store with auth := { store.auth with clients := store.auth.clients.erase id } } :=
    trims_of_tokens_same (fun _ h => h) rfl rfl rfl rfl (fun _ h => h) fun _ h => h
  refine (first.trans (trims_revokeClientGrants _ id)).trans ?_
  exact trims_of_tokens_same (fun _ h => h) rfl rfl rfl rfl (fun _ h => h) fun _ h => h

theorem trims_registerClient (store : Store) (client : McpClientConfig) (id : String) :
    Trims now store (store.registerClient now client id).1 := by
  have cleaned : Trims now store (store.cleanupClients now) := Trims.foldl trims_evictClient _ _
  unfold Store.registerClient
  dsimp only
  split
  · split
    · exact cleaned
    · rename_i evicted _
      refine (cleaned.trans (trims_evictClient _ evicted)).trans ?_
      exact trims_of_tokens_same (fun _ h => h) rfl rfl rfl rfl (fun _ h => h) fun _ h => h
  · refine cleaned.trans ?_
    exact trims_of_tokens_same (fun _ h => h) rfl rfl rfl rfl (fun _ h => h) fun _ h => h

/-- Only tokens that ran out are taken out of memory; their rows stay until the purge. -/
theorem trims_removeExpired (hashes : List String)
    (expired : ∀ row ∈ auth.tokens.rows, row.1 ∈ hashes → row.2.refreshExpiresAt ≤ now) :
    Trims now { store with auth } { store with
      auth := hashes.foldl removeGrant auth } := by
  induction hashes generalizing auth with
  | nil => exact Trims.refl _
  | cons hash rest ih =>
    have first : Trims now { store with auth } { store with auth := auth.removeGrant hash } := by
      refine trims_removeGrant fun row stored => ⟨stored, fun unexpired known => ?_⟩
      rintro rfl
      have late := expired row known List.mem_cons_self
      omega
    refine first.trans (ih ?_)
    intro row member listed
    exact expired row (mem_removeGrant.mp member).1 (List.mem_cons_of_mem _ listed)

/-- The second half of `cleanup`. -/
theorem trims_dropExpired (auth : McpAuthorizations) :
    Trims now { store with auth } { store with
      auth := ((auth.tokens.rows.filter fun row => row.2.refreshExpiresAt ≤ now).map Prod.fst).foldl
        removeGrant
        { auth with codes := auth.codes.discard fun row => row.2.expiresAt ≤ now }
      spawned := store.spawned ++ [now] } := by
  have codes : Trims now { store with auth } { store with
      auth := { auth with codes := auth.codes.discard fun row => row.2.expiresAt ≤ now } } :=
    trims_of_tokens_same (fun row member => (List.mem_filter.mp member).1) rfl rfl rfl rfl
      (fun _ h => h) fun _ h => h
  refine codes.trans (Trims.trans (trims_removeExpired
    ((auth.tokens.rows.filter fun row => row.2.refreshExpiresAt ≤ now).map Prod.fst) ?_) ?_)
  · intro row member listed
    obtain ⟨other, chosen, same⟩ := List.mem_map.mp listed
    obtain ⟨known, late⟩ := List.mem_filter.mp chosen
    have equal := row_of_key _ known member same
    subst equal
    simpa using late
  · refine ⟨fun _ h => h, fun _ h => h, fun _ h => h, fun _ h _ => h, ?_⟩
    intro consistent
    refine ⟨consistent.linked, consistent.backed, ?_⟩
    intro time member
    rcases List.mem_append.mp member with earlier | last
    · exact consistent.spawned time earlier
    · exact Nat.le_of_eq (List.mem_singleton.mp last)

theorem trims_cleanup (store : Store) : Trims now store (store.cleanup now) := by
  unfold Store.cleanup
  dsimp only
  have first : ∀ clients, Trims now store { store with
      auth := { store.auth with
        rotatedRefresh := store.auth.rotatedRefresh.discard fun row => row.2.2 ≤ now
        clients := clients } } := by
    intro clients
    refine ⟨fun _ h => h, fun _ h => h, fun row member => (List.mem_filter.mp member).1, ?_, ?_⟩
    · intro row member unexpired
      exact List.mem_filter.mpr ⟨member, by simpa using unexpired⟩
    · intro consistent
      exact ⟨⟨consistent.linked.refresh, consistent.linked.byId⟩, consistent.backed,
        consistent.spawned⟩
  split
  · exact first _
  · exact (first _).trans (trims_dropExpired _)

theorem trims_purge (store : Store) (n : Nat) : Trims now store (store.purge n) := by
  unfold Store.purge
  split
  · refine trims_of_tokens_same (fun _ h => h) rfl rfl rfl rfl ?_ ?_
    · intro row member
      exact (List.mem_filter.mp member).1
    · intro time member
      exact List.mem_of_mem_eraseIdx member
  · exact Trims.refl store

/-- The session's token is found by its id; without it nothing happens. -/
theorem revokeSession_cases (linked : Linked store.auth) (id : String) :
    (store.revokeSession id = (store, false) ∧ ∀ row ∈ store.auth.tokens.rows, row.2.id ≠ id) ∨
      ∃ access grant, (access, grant) ∈ store.auth.tokens.rows ∧ grant.id = id ∧
        store.revokeSession id = ({ store with
          auth := store.auth.removeGrant access, db := store.db.deleteSession id }, true) := by
  unfold Store.revokeSession
  cases found : store.auth.byId.find id with
  | none =>
    exact .inl ⟨rfl, linked.byId.absent_iff.mp (find_eq_none.mp found)⟩
  | some entry =>
    obtain ⟨grant, member, rfl⟩ := linked.byId.lookup found
    obtain ⟨session, access⟩ := entry
    have token : store.auth.tokens.find access = some (access, grant) :=
      find_eq_some.mpr ⟨member, rfl⟩
    refine .inr ⟨access, grant, member, rfl, ?_⟩
    simp only [removeGrant, token]

/-- The rows that share something with the token are deleted. -/
theorem trims_deleteGrant {gone : String × AccessToken → Bool}
    (member : (access, grant) ∈ store.auth.tokens.rows) (own : gone (access, grant) = true) :
    Trims now store { store with
      auth := store.auth.removeGrant access
      db := { store.db with tokens := store.db.tokens.discard gone } } := by
  refine trims_removeGrant fun row stored => ?_
  obtain ⟨kept, other⟩ := List.mem_filter.mp stored
  refine ⟨kept, fun _ known same => ?_⟩
  rw [row_of_key _ known member same, own] at other
  cases other

theorem trims_revokeSession (consistent : Consistent now store) (id : String) :
    Trims now store (store.revokeSession id).1 ∧
      ∀ row ∈ (store.revokeSession id).1.auth.tokens.rows, row.2.id ≠ id := by
  rcases revokeSession_cases consistent.linked id with
    ⟨same, absent⟩ | ⟨access, grant, member, rfl, same⟩
  · rw [same]
    exact ⟨Trims.refl store, absent⟩
  · rw [same]
    constructor
    · exact trims_deleteGrant member (by simp)
    · intro row known shared
      obtain ⟨known, other⟩ := mem_removeGrant.mp known
      have equal := consistent.linked.byId.unique known member shared
      exact other (congrArg Prod.fst equal)

end Removal

/-! ## Grants that are added -/

section Addition

variable {now : Nat} {store : Store}

theorem Linked.addGrant (linked : Linked auth) (newHash : hash ∉ auth.tokens.keys)
    (newRefresh : grant.refreshToken ∉ auth.refresh.keys) (newId : grant.id ∉ auth.byId.keys) :
    Linked (auth.addGrant hash grant) :=
  ⟨linked.refresh.upsert newHash newRefresh, linked.byId.upsert newHash newId⟩

theorem mem_saveToken {db : Database} {row : String × AccessToken}
    (member : row ∈ (db.saveToken access grant).tokens.rows) :
    row ∈ db.tokens.rows ∨ row = (access, grant) := by
  unfold Database.saveToken at member
  split at member
  · exact .inl member
  · rcases mem_upsert.mp member with ⟨known, -⟩ | same
    · exact .inl known
    · exact .inr same

/-- A new pair of tokens. -/
theorem Consistent.addGrant (consistent : Consistent now store)
    (newHash : hash ∉ store.auth.tokens.keys)
    (newRefresh : ∀ row ∈ store.auth.tokens.rows, row.2.refreshToken ≠ grant.refreshToken)
    (newId : ∀ row ∈ store.auth.tokens.rows, row.2.id ≠ grant.id) :
    Consistent now { store with
      auth := store.auth.addGrant hash grant, db := store.db.saveToken hash grant } := by
  refine ⟨consistent.linked.addGrant newHash (consistent.linked.refresh.absent_iff.mpr newRefresh)
    (consistent.linked.byId.absent_iff.mpr newId), ?_, consistent.spawned⟩
  intro row stored unexpired
  rcases mem_saveToken stored with known | rfl
  · exact (mem_upsert_fresh newHash).mpr (.inl (consistent.backed row known unexpired))
  · exact mem_upsert.mpr (.inr rfl)

/-- Rows of a linked map are loaded as they are. -/
theorem load_grants {whole : McpAuthorizations} (linked : Linked whole)
    (rows : List (String × AccessToken)) (first : Linked auth)
    (inside : ∀ row ∈ auth.tokens.rows, row ∈ whole.tokens.rows)
    (known : ∀ row ∈ rows, row ∈ whole.tokens.rows) (distinct : (rows.map Prod.fst).Nodup)
    (apart : ∀ row ∈ rows, row.1 ∉ auth.tokens.keys) :
    Linked (rows.foldl (fun auth row => auth.addGrant row.1 row.2) auth) ∧
      (∀ row ∈ (rows.foldl (fun auth row => auth.addGrant row.1 row.2) auth).tokens.rows,
        row ∈ whole.tokens.rows) ∧
      ∀ row, row ∈ auth.tokens.rows ∨ row ∈ rows →
        row ∈ (rows.foldl (fun auth row => auth.addGrant row.1 row.2) auth).tokens.rows := by
  induction rows generalizing auth with
  | nil => exact ⟨first, inside, fun row => Or.rec id (fun h => absurd h List.not_mem_nil)⟩
  | cons row rest ih =>
    obtain ⟨lonely, distinct⟩ := List.nodup_cons.mp distinct
    have here := known row List.mem_cons_self
    have newHash := apart row List.mem_cons_self
    have absent : ∀ other ∈ auth.tokens.rows, other ≠ row := by
      rintro other member rfl
      exact newHash (List.mem_map_of_mem member)
    have newRefresh : row.2.refreshToken ∉ auth.refresh.keys :=
      first.refresh.absent_iff.mpr fun other member shared =>
        absent other member (linked.refresh.unique (inside other member) here shared)
    have newId : row.2.id ∉ auth.byId.keys :=
      first.byId.absent_iff.mpr fun other member shared =>
        absent other member (linked.byId.unique (inside other member) here shared)
    have added : ∀ other, other ∈ (auth.addGrant row.1 row.2).tokens.rows ↔
        other ∈ auth.tokens.rows ∨ other = row :=
      fun other => mem_upsert_fresh newHash
    have insideNext : ∀ other ∈ (auth.addGrant row.1 row.2).tokens.rows,
        other ∈ whole.tokens.rows := by
      intro other member
      rcases (added other).mp member with older | rfl
      · exact inside other older
      · exact here
    have apartNext : ∀ other ∈ rest, other.1 ∉ (auth.addGrant row.1 row.2).tokens.keys := by
      intro other member present
      rcases mem_keys_upsert.mp present with older | same
      · exact apart other (List.mem_cons_of_mem _ member) older
      · exact lonely (same ▸ List.mem_map_of_mem member)
    obtain ⟨linkedAll, insideAll, all⟩ := ih (first.addGrant newHash newRefresh newId) insideNext
      (fun other member => known other (List.mem_cons_of_mem _ member)) distinct apartNext
    refine ⟨linkedAll, insideAll, ?_⟩
    rintro other (member | member)
    · exact all other (.inl ((added other).mpr (.inl member)))
    · rcases List.mem_cons.mp member with rfl | later
      · exact all other (.inl ((added other).mpr (.inr rfl)))
      · exact all other (.inr later)

theorem load_frame (rows : List (String × AccessToken)) (auth : McpAuthorizations) :
    (rows.foldl (fun auth row => auth.addGrant row.1 row.2) auth).codes = auth.codes ∧
      (rows.foldl (fun auth row => auth.addGrant row.1 row.2) auth).rotatedRefresh =
        auth.rotatedRefresh := by
  induction rows generalizing auth with
  | nil => exact ⟨rfl, rfl⟩
  | cons row rest ih => exact ih (auth.addGrant row.1 row.2)

/-- **A restart** forgets the codes and the rotations, and has no token that memory did not have. -/
theorem restart_spec (consistent : Consistent now store) :
    Consistent now (store.fromPool now) ∧
      (∀ row ∈ (store.fromPool now).auth.tokens.rows, row ∈ store.auth.tokens.rows) ∧
      (store.fromPool now).auth.codes = .empty ∧
      (store.fromPool now).auth.rotatedRefresh = .empty := by
  have purged : ∀ row ∈ ((store.db.purgeExpired now).purgeExpiredClients
      (now - unauthClientTtl)).tokens.rows, row ∈ store.db.tokens.rows :=
    fun row member => (List.mem_filter.mp member).1
  generalize shape : (store.db.purgeExpired now).purgeExpiredClients (now - unauthClientTtl) = db
    at purged
  have first : Linked { McpAuthorizations.empty with
      clients := db.loadClients now, clientSeq := (db.loadClients now).rows.length } :=
    ⟨Indexes.empty, Indexes.empty⟩
  obtain ⟨linked, inside, all⟩ := load_grants consistent.linked
    (db.tokens.rows.filter fun row => now < row.2.refreshExpiresAt) first
    (fun _ none => absurd none List.not_mem_nil)
    (fun row member => by
      obtain ⟨stored, unexpired⟩ := List.mem_filter.mp member
      exact consistent.backed row (purged row stored) (by simpa using unexpired))
    (db.tokens.keys_nodup.sublist (List.filter_sublist.map Prod.fst))
    (fun _ _ none => absurd none List.not_mem_nil)
  have frame := load_frame (db.tokens.rows.filter fun row => now < row.2.refreshExpiresAt)
    { McpAuthorizations.empty with
      clients := db.loadClients now, clientSeq := (db.loadClients now).rows.length }
  unfold Store.fromPool
  rw [shape]
  refine ⟨⟨linked, ?_, fun _ none => absurd none List.not_mem_nil⟩, inside, frame.1, frame.2⟩
  intro row stored unexpired
  exact all row (.inr (List.mem_filter.mpr ⟨stored, by simpa using unexpired⟩))

end Addition

/-! ## An exchange -/

section Exchange

variable {now : Nat} {store : Store} {lib : Digests}

/-- The store without a code. -/
def withoutCode (store : Store) (code : String) : Store :=
  { store with auth := { store.auth with codes := store.auth.codes.erase code } }

theorem trims_withoutCode (store : Store) (code : String) :
    Trims now store (withoutCode store code) :=
  trims_of_tokens_same (fun _ member => (mem_erase.mp member).1) rfl rfl rfl rfl
    (fun _ h => h) fun _ h => h

/-- **Everything that an exchange can do.** -/
theorem exchangeCode_cases
    (code clientId redirectUri codeVerifier accessToken refreshToken : String) :
    store.exchangeCode lib now code clientId redirectUri codeVerifier accessToken refreshToken =
        (withoutCode store code, none) ∨
      ∃ grant, (code, grant) ∈ store.auth.codes.rows ∧
        store.exchangeCode lib now code clientId redirectUri codeVerifier accessToken refreshToken =
          (((withoutCode store code).issueTokensWithSession lib now none grant.clientId grant.scope
              grant.username accessToken refreshToken).1,
            some ⟨accessToken, accessTokenLifetime, refreshToken, grant.scope⟩) := by
  unfold Store.exchangeCode
  dsimp only
  split
  · exact .inl rfl
  · rename_i grant found
    obtain ⟨known, -⟩ := Option.filter_eq_some_iff.mp found
    obtain ⟨row, here, rfl⟩ := Option.map_eq_some_iff.mp known
    obtain ⟨member, rfl⟩ := mem_of_find here
    split
    · exact .inr ⟨row.2, member, rfl⟩
    · exact .inl rfl

end Exchange

/-! ## A refresh -/

section Refresh

variable {now : Nat} {store : Store} {lib : Digests}

/-- The store without a token that is refreshed. -/
def taken (store : Store) (access refHash : String) : Store :=
  { store with auth := store.auth.removeGrant access, db := store.db.deleteToken refHash }

theorem trims_taken (member : (access, grant) ∈ store.auth.tokens.rows) :
    Trims now store (taken store access grant.refreshToken) :=
  trims_deleteGrant member (by simp)

/-- The rotation is noted, and no other that did not run out is lost. -/
theorem mem_noteRotation {refHash session : String} {expires : Nat} {row : String × String × Nat} :
    (row ∈ (Store.noteRotation auth now refHash session expires).rotatedRefresh.rows →
      (row ∈ auth.rotatedRefresh.rows ∧ row.1 ≠ refHash) ∨ row = (refHash, session, expires)) ∧
    (now < row.2.2 →
      (row ∈ auth.rotatedRefresh.rows ∧ row.1 ≠ refHash) ∨ row = (refHash, session, expires) →
      row ∈ (Store.noteRotation auth now refHash session expires).rotatedRefresh.rows) := by
  unfold Store.noteRotation
  dsimp only
  split
  · constructor
    · intro member
      exact mem_upsert.mp (List.mem_filter.mp member).1
    · intro unexpired known
      exact List.mem_filter.mpr ⟨mem_upsert.mpr known, by simpa using unexpired⟩
  · exact ⟨fun member => mem_upsert.mp member, fun _ known => mem_upsert.mpr known⟩

/-- **Everything that a refresh can do.** -/
theorem refreshTokens_cases (linked : Linked store.auth) (token accessToken refreshToken : String) :
    (∃ session, store.reusedSession now (lib.hashToken token) = some session ∧
      store.refreshTokens lib now token accessToken refreshToken =
        ((store.revokeSession session).1, .error .reused)) ∨
    (store.reusedSession now (lib.hashToken token) = none ∧
      (∀ row ∈ store.auth.tokens.rows, row.2.refreshToken ≠ lib.hashToken token) ∧
      store.refreshTokens lib now token accessToken refreshToken = (store, .error .invalid)) ∨
    (store.reusedSession now (lib.hashToken token) = none ∧
      ∃ access grant, (access, grant) ∈ store.auth.tokens.rows ∧
        grant.refreshToken = lib.hashToken token ∧
        ((grant.refreshExpiresAt ≤ now ∧
            store.refreshTokens lib now token accessToken refreshToken =
              (taken store access grant.refreshToken, .error .invalid)) ∨
          (now < grant.refreshExpiresAt ∧
            store.refreshTokens lib now token accessToken refreshToken =
              (({ taken store access grant.refreshToken with
                  auth := Store.noteRotation (taken store access grant.refreshToken).auth now
                    grant.refreshToken grant.id grant.refreshExpiresAt }.issueTokensWithSession lib
                  now (some grant.id) grant.clientId grant.scope grant.username accessToken
                  refreshToken).1,
                .ok ⟨accessToken, accessTokenLifetime, refreshToken, grant.scope⟩)))) := by
  unfold Store.refreshTokens
  dsimp only
  cases reused : store.reusedSession now (lib.hashToken token) with
  | some session => exact .inl ⟨session, rfl, rfl⟩
  | none =>
    refine .inr ?_
    cases found : store.auth.refresh.find (lib.hashToken token) with
    | none =>
      exact .inl ⟨rfl, linked.refresh.absent_iff.mp (find_eq_none.mp found), rfl⟩
    | some entry =>
      obtain ⟨grant, member, same⟩ := linked.refresh.lookup found
      obtain ⟨own, access⟩ := entry
      have here : store.auth.tokens.find access = some (access, grant) :=
        find_eq_some.mpr ⟨member, rfl⟩
      have removed : store.auth.removeGrant access = { store.auth with
          tokens := store.auth.tokens.erase access
          refresh := store.auth.refresh.erase grant.refreshToken
          byId := store.auth.byId.erase grant.id } := by
        simp only [McpAuthorizations.removeGrant, here]
      refine .inr ⟨rfl, access, grant, member, same, ?_⟩
      dsimp only
      rw [here]
      dsimp only
      by_cases late : grant.refreshExpiresAt ≤ now
      · refine .inl ⟨late, ?_⟩
        rw [if_pos late, taken, removed, same]
      · refine .inr ⟨Nat.lt_of_not_le late, ?_⟩
        rw [if_neg late, taken, removed, same]
        rfl

end Refresh

end R3v3rs3.Mcp
