/-
# R3v3rs3.Mcp.TokenFamilies -- which consent a token comes from

A family is a first pair of tokens and all pairs that are got from it by refreshing.  The state
keeps, beside the store, a history that no operation reads: which consent a code was issued for,
the family and the consent of every token, the refresh tokens that were rotated and when, and the
families of which a rotated token was presented again.

`Good` is what the rotation is for: a code and a refresh token are exchanged once at most, the tokens
of a family have the client, the user and the scope of their consent, and a family of which a
rotated refresh token was presented before it ran out has no token left.  The first two always hold
(`Inv`).  The rotations are kept in memory only: `families_good_iff` says that the third holds in a
run if and only if no rotated token of a family that is alive is presented after a restart.
-/
import R3v3rs3.Mcp.Authorizations
import R3v3rs3.Theory.Run

namespace R3v3rs3.Mcp.TokenFamilies
open Theory Table
open Theory.Run (exec Guarded Throughout throughout_iff_guarded_of)
set_option autoImplicit false

/-! ## The history -/

/-- What an account approved, and when (in milliseconds). -/
structure Consent where
  clientId : String
  username : String
  scope : String
  time : Nat
  deriving DecidableEq

/-- Where a token comes from. -/
structure Origin where
  /-- The hash of the first access token of the family. -/
  root : String
  session : String
  consent : Consent
  deriving DecidableEq

/-- A refresh token that was exchanged. -/
structure Rotation where
  token : String
  root : String
  expires : Nat
  /-- How often the server had been restarted. -/
  restarts : Nat

structure State where
  /-- Milliseconds. -/
  now : Nat
  store : Store
  restarts : Nat
  consents : StringMap Consent
  origins : StringMap Origin
  /-- The hashes of all tokens. -/
  used : List String
  exchanged : List String
  rotations : List Rotation
  /-- The families of which a rotated token was presented. -/
  reused : List String

namespace State

def initial (now : Nat) : State := ⟨now, .empty, 0, .empty, .empty, [], [], [], []⟩

/-- `unix_now`. -/
def unixNow (s : State) : Nat := s.now / 1000

end State

inductive Event where
  | wait (duration : Nat)
  /-- The account approves the client, and the code is drawn. -/
  | consent (username clientId redirectUri codeChallenge scope code : String)
  /-- The tokens are the pair that is drawn. -/
  | exchange (code clientId redirectUri codeVerifier accessToken refreshToken : String)
  | refresh (token accessToken refreshToken : String)
  | revoke (id : String)
  | register (client : McpClientConfig) (id : String)
  | cleanup
  | purge (n : Nat)
  | restart

section Machine

variable (lib : Digests)

/-- A pair of tokens that comes from a consent. -/
def State.derive (s : State) (accessToken refreshToken : String) (origin : Origin) : State :=
  { s with
    origins := s.origins.upsert (lib.hashToken accessToken, origin)
    used := lib.hashToken accessToken :: lib.hashToken refreshToken :: s.used }

def State.exchange (s : State) (code clientId redirectUri codeVerifier accessToken refreshToken : String) :
    State :=
  let (store, issued) := s.store.exchangeCode lib s.unixNow code clientId redirectUri codeVerifier
    accessToken refreshToken
  let after := { s with store }
  match issued, s.consents.find code with
  | some _, some (_, consent) =>
    { after with exchanged := code :: s.exchanged }.derive lib accessToken refreshToken
      ⟨lib.hashToken accessToken, lib.sessionId accessToken, consent⟩
  | _, _ => after

/-- The families of which the token was rotated and has not run out. -/
def State.presented (s : State) (hash : String) : List String :=
  (s.rotations.filter fun rotation => rotation.token = hash && s.unixNow < rotation.expires).map
    Rotation.root

/-- The token of a refresh token, and where it comes from. -/
def State.refreshed (s : State) (hash : String) : Option (AccessToken × Origin) := do
  let row ← s.store.auth.tokens.rows.find? fun row => row.2.refreshToken = hash
  let (_, origin) ← s.origins.find row.1
  return (row.2, origin)

def State.refresh (s : State) (token accessToken refreshToken : String) : State :=
  let hash := lib.hashToken token
  let (store, result) := s.store.refreshTokens lib s.unixNow token accessToken refreshToken
  let after := { s with store, reused := s.presented hash ++ s.reused }
  match result, s.refreshed hash with
  | .ok _, some (grant, origin) =>
    { after with
      rotations := ⟨hash, origin.root, grant.refreshExpiresAt, s.restarts⟩ :: s.rotations }.derive
        lib accessToken refreshToken origin
  | _, _ => after

def step (s : State) : Event → State
  | .wait duration => { s with now := s.now + duration }
  | .consent username clientId redirectUri codeChallenge scope code =>
    { s with
      store := s.store.issueCode s.unixNow
        ⟨s.unixNow + codeLifetime, clientId, redirectUri, codeChallenge, scope, username⟩ code
      consents := s.consents.upsert (code, ⟨clientId, username, scope, s.now⟩) }
  | .exchange code clientId redirectUri codeVerifier accessToken refreshToken =>
    s.exchange lib code clientId redirectUri codeVerifier accessToken refreshToken
  | .refresh token accessToken refreshToken => s.refresh lib token accessToken refreshToken
  | .revoke id => { s with store := (s.store.revokeSession id).1 }
  | .register client id => { s with store := (s.store.registerClient s.unixNow client id).1 }
  | .cleanup => { s with store := s.store.cleanup s.unixNow }
  | .purge n => { s with store := s.store.purge n }
  | .restart => { s with store := s.store.fromPool s.unixNow, restarts := s.restarts + 1 }

/-! ## What is asked for -/

/-- Every token in memory has the client, the user and the scope of its consent. -/
def Carries (s : State) : Prop :=
  ∀ row ∈ s.store.auth.tokens.rows, ∃ origin, (row.1, origin) ∈ s.origins.rows ∧
    row.2.clientId = origin.consent.clientId ∧ row.2.username = origin.consent.username ∧
    row.2.scope = origin.consent.scope

/-- The family has a token in memory. -/
def Alive (s : State) (root : String) : Prop :=
  ∃ row ∈ s.store.auth.tokens.rows, ∃ origin, (row.1, origin) ∈ s.origins.rows ∧ origin.root = root

instance (s : State) (root : String) : Decidable (Alive s root) :=
  decidable_of_iff (∃ row ∈ s.store.auth.tokens.rows, ∃ known ∈ s.origins.rows,
    known.1 = row.1 ∧ known.2.root = root) (by
      constructor
      · rintro ⟨row, member, ⟨_, origin⟩, known, rfl, same⟩
        exact ⟨row, member, origin, known, same⟩
      · rintro ⟨row, member, origin, known, same⟩
        exact ⟨row, member, (row.1, origin), known, rfl, same⟩)

structure Good (s : State) : Prop where
  codes : s.exchanged.Nodup
  refreshTokens : (s.rotations.map Rotation.token).Nodup
  carries : Carries s
  revoked : ∀ root ∈ s.reused, ¬ Alive s root

/-- The tokens that are drawn are new, and so is the id of a session. -/
def Fresh (s : State) : Event → Prop
  | .consent _ _ _ _ _ code => code ∉ s.consents.keys
  | .exchange _ _ _ _ accessToken refreshToken =>
    lib.hashToken accessToken ∉ s.used ∧ lib.hashToken refreshToken ∉ s.used ∧
      ∀ row ∈ s.origins.rows, row.2.session ≠ lib.sessionId accessToken
  | .refresh _ accessToken refreshToken =>
    lib.hashToken accessToken ∉ s.used ∧ lib.hashToken refreshToken ∉ s.used
  | _ => True

instance (s : State) (event : Event) : Decidable (Fresh lib s event) := by
  unfold Fresh
  split <;> infer_instance

/-- A rotated token of a family that is alive is presented before the next restart. -/
def Remembered (s : State) : Event → Prop
  | .refresh token _ _ => ∀ rotation ∈ s.rotations, rotation.token = lib.hashToken token →
      s.unixNow < rotation.expires → rotation.restarts = s.restarts ∨ ¬ Alive s rotation.root
  | _ => True

instance (s : State) (event : Event) : Decidable (Remembered lib s event) := by
  unfold Remembered
  split <;> infer_instance

/-! ## The invariant -/

structure Inv (s : State) : Prop where
  consistent : Consistent s.unixNow s.store
  /-- A code stands for its consent and was not exchanged yet. -/
  codes : ∀ row ∈ s.store.auth.codes.rows, row.1 ∉ s.exchanged ∧
    ∃ consent, (row.1, consent) ∈ s.consents.rows ∧ row.2.clientId = consent.clientId ∧
      row.2.username = consent.username ∧ row.2.scope = consent.scope
  exchanged : ∀ code ∈ s.exchanged, code ∈ s.consents.keys
  codesOnce : s.exchanged.Nodup
  /-- A token comes from a consent, under the session of its family. -/
  tokens : ∀ row ∈ s.store.auth.tokens.rows, row.2.refreshToken ∈ s.used ∧
    ∃ origin, (row.1, origin) ∈ s.origins.rows ∧ row.2.id = origin.session ∧
      row.2.clientId = origin.consent.clientId ∧ row.2.username = origin.consent.username ∧
      row.2.scope = origin.consent.scope
  origins : ∀ row ∈ s.origins.rows, row.1 ∈ s.used ∧ row.2.root ∈ s.used
  sessions : ∀ first ∈ s.origins.rows, ∀ second ∈ s.origins.rows,
    first.2.session = second.2.session ↔ first.2.root = second.2.root
  reused : ∀ root ∈ s.reused, root ∈ s.used
  rotated : ∀ rotation ∈ s.rotations, rotation.token ∈ s.used ∧ rotation.root ∈ s.used ∧
    ∀ row ∈ s.store.auth.tokens.rows, row.2.refreshToken ≠ rotation.token
  rotatedOnce : (s.rotations.map Rotation.token).Nodup
  restarts : ∀ rotation ∈ s.rotations, rotation.restarts ≤ s.restarts
  /-- Memory has the rotations since the last restart that did not run out. -/
  remembered : ∀ rotation ∈ s.rotations, rotation.restarts = s.restarts →
    s.unixNow < rotation.expires → ∃ session,
      (rotation.token, session, rotation.expires) ∈ s.store.auth.rotatedRefresh.rows ∧
        ∀ row ∈ s.origins.rows, row.2.root = rotation.root → row.2.session = session
  recent : ∀ row ∈ s.store.auth.rotatedRefresh.rows, ∃ rotation ∈ s.rotations,
    rotation.token = row.1 ∧ rotation.restarts = s.restarts

/-! ## Steps that take away -/

section Steps

variable {lib} {s : State}
  {clientId redirectUri username scope code hash refreshToken accessToken root access token : String}
  {origin : Origin} {grant : AccessToken}

theorem Inv.trims {after : Store} (inv : Inv s) (trims : Trims s.unixNow s.store after) :
    Inv { s with store := after } where
  consistent := trims.consistent inv.consistent
  codes row member := inv.codes row (trims.codes row member)
  exchanged := inv.exchanged
  codesOnce := inv.codesOnce
  tokens row member := inv.tokens row (trims.tokens row member)
  origins := inv.origins
  sessions := inv.sessions
  reused := inv.reused
  rotated rotation member := by
    obtain ⟨token, root, gone⟩ := inv.rotated rotation member
    exact ⟨token, root, fun row known => gone row (trims.tokens row known)⟩
  rotatedOnce := inv.rotatedOnce
  restarts := inv.restarts
  remembered rotation member recent unexpired := by
    obtain ⟨session, entry, family⟩ := inv.remembered rotation member recent unexpired
    exact ⟨session, trims.kept _ entry unexpired, family⟩
  recent row member := inv.recent row (trims.rotated row member)

theorem Inv.wait (inv : Inv s) (duration : Nat) : Inv { s with now := s.now + duration } := by
  have later : s.unixNow ≤ (s.now + duration) / 1000 := Nat.div_le_div_right (Nat.le_add_right _ _)
  have unexpired : ∀ {expires}, (s.now + duration) / 1000 < expires → s.unixNow < expires :=
    fun before => Nat.lt_of_le_of_lt later before
  exact { inv with
    consistent := ⟨inv.consistent.linked,
      fun row stored before => inv.consistent.backed row stored (unexpired before),
      fun time member => Nat.le_trans (inv.consistent.spawned time member) later⟩
    remembered := fun rotation member recent before =>
      inv.remembered rotation member recent (unexpired before) }

theorem Inv.consent (inv : Inv s) {codeChallenge : String} (fresh : code ∉ s.consents.keys) :
    Inv (step lib s (.consent username clientId redirectUri codeChallenge scope code)) := by
  have cleaned := inv.trims (trims_cleanup s.store)
  have kept : ∀ row ∈ s.consents.rows,
      row ∈ (s.consents.upsert (code, ⟨clientId, username, scope, s.now⟩)).rows := by
    intro row member
    exact (mem_upsert_fresh fresh).mpr (.inl member)
  exact { cleaned with
    consistent := ⟨⟨cleaned.consistent.linked.refresh, cleaned.consistent.linked.byId⟩,
      cleaned.consistent.backed, cleaned.consistent.spawned⟩
    codes := by
      intro row member
      rcases mem_upsert.mp member with ⟨older, -⟩ | rfl
      · obtain ⟨unused, consent, known, same⟩ := cleaned.codes row older
        exact ⟨unused, consent, kept _ known, same⟩
      · refine ⟨fun used => fresh (inv.exchanged code used), ?_⟩
        exact ⟨_, mem_upsert.mpr (.inr rfl), rfl, rfl, rfl⟩
    exchanged := fun used member => mem_keys_upsert.mpr (.inl (inv.exchanged used member)) }

theorem Inv.restart (inv : Inv s) : Inv (step lib s .restart) := by
  obtain ⟨consistent, inside, codes, rotated⟩ := restart_spec inv.consistent
  exact { inv with
    consistent := consistent
    codes := by
      intro row member
      rw [step, codes] at member
      cases member
    tokens := fun row member => inv.tokens row (inside row member)
    rotated := by
      intro rotation member
      obtain ⟨token, root, gone⟩ := inv.rotated rotation member
      exact ⟨token, root, fun row known => gone row (inside row known)⟩
    restarts := fun rotation member => Nat.le_succ_of_le (inv.restarts rotation member)
    remembered := by
      -- no rotation was made since
      intro rotation member now _
      have earlier := inv.restarts rotation member
      have same : rotation.restarts = s.restarts + 1 := now
      omega
    recent := by
      intro row member
      rw [step, rotated] at member
      cases member }

/-! ## A new pair of tokens -/

/-- The origin is that of a token before, or starts a family with the new access token. -/
def Continues (s : State) (hash : String) (origin : Origin) : Prop :=
  (∃ row ∈ s.origins.rows, row.2 = origin) ∨
    (origin.root = hash ∧ ∀ row ∈ s.origins.rows, row.2.session ≠ origin.session)

/-- A token with the new origin belongs to the family just when it has its session. -/
theorem Inv.continues (inv : Inv s) (unused : hash ∉ s.used) (continues : Continues s hash origin)
    {row : String × Origin} (member : row ∈ s.origins.rows) :
    row.2.session = origin.session ↔ row.2.root = origin.root := by
  rcases continues with ⟨known, here, rfl⟩ | ⟨isNew, apart⟩
  · exact inv.sessions row member known here
  · refine iff_of_false (apart row member) ?_
    intro same
    exact unused (isNew ▸ same ▸ (inv.origins row member).2)

/-- **A new pair of tokens** of a family that has no other token. -/
theorem Inv.issue (inv : Inv s) (session : Option String) (origin : Origin)
    (newAccess : lib.hashToken accessToken ∉ s.used)
    (newRefresh : lib.hashToken refreshToken ∉ s.used)
    (continues : Continues s (lib.hashToken accessToken) origin)
    (data : session.getD (lib.sessionId accessToken) = origin.session ∧
      clientId = origin.consent.clientId ∧ username = origin.consent.username ∧
      scope = origin.consent.scope)
    (alone : ∀ row ∈ s.store.auth.tokens.rows, row.2.id ≠ origin.session) :
    Inv ({ s with store := (s.store.issueTokensWithSession lib s.unixNow session clientId scope
      username accessToken refreshToken).1 }.derive lib accessToken refreshToken origin) := by
  have newHash : lib.hashToken accessToken ∉ s.store.auth.tokens.keys := by
    intro member
    obtain ⟨row, known, same⟩ := List.mem_map.mp member
    obtain ⟨-, found, origins, -⟩ := inv.tokens row known
    exact newAccess (same ▸ (inv.origins _ origins).1)
  have newRow : lib.hashToken accessToken ∉ s.origins.keys := by
    intro member
    obtain ⟨row, known, same⟩ := List.mem_map.mp member
    exact newAccess (same ▸ (inv.origins row known).1)
  have older : ∀ {hash}, hash ∈ s.used →
      hash ∈ lib.hashToken accessToken :: lib.hashToken refreshToken :: s.used :=
    fun member => List.mem_cons_of_mem _ (List.mem_cons_of_mem _ member)
  have kept : ∀ row ∈ s.origins.rows,
      row ∈ (s.origins.upsert (lib.hashToken accessToken, origin)).rows := by
    intro row member
    exact (mem_upsert_fresh newRow).mpr (.inl member)
  have family : ∀ {row}, row ∈ s.origins.rows →
      (row.2.session = origin.session ↔ row.2.root = origin.root) :=
    fun member => inv.continues newAccess continues member
  refine { inv with
    consistent := ?_, tokens := ?_, origins := ?_, sessions := ?_, reused := ?_, rotated := ?_,
    remembered := ?_ }
  · refine inv.consistent.addGrant newHash ?_ ?_
    · intro row member same
      have shared : row.2.refreshToken = lib.hashToken refreshToken := same
      exact newRefresh (shared ▸ (inv.tokens row member).1)
    · intro row member same
      exact alone row member (same.trans data.1)
  · intro row member
    rcases mem_upsert.mp member with ⟨known, -⟩ | rfl
    · obtain ⟨token, found, origins, same⟩ := inv.tokens row known
      exact ⟨older token, found, kept _ origins, same⟩
    · refine ⟨List.mem_cons_of_mem _ List.mem_cons_self, origin, ?_, data⟩
      exact mem_upsert.mpr (.inr rfl)
  · intro row member
    rcases mem_upsert.mp member with ⟨known, -⟩ | rfl
    · exact ⟨older (inv.origins row known).1, older (inv.origins row known).2⟩
    · refine ⟨List.mem_cons_self, ?_⟩
      rcases continues with ⟨row, known, rfl⟩ | ⟨isNew, -⟩
      · exact older (inv.origins row known).2
      · rw [isNew]
        exact List.mem_cons_self
  · intro first here second there
    rcases mem_upsert.mp here with ⟨here, -⟩ | rfl
    · rcases mem_upsert.mp there with ⟨there, -⟩ | rfl
      · exact inv.sessions first here second there
      · exact family here
    · rcases mem_upsert.mp there with ⟨there, -⟩ | rfl
      · rw [eq_comm, family there, eq_comm]
      · exact iff_of_true rfl rfl
  · exact fun root member => older (inv.reused root member)
  · intro rotation member
    obtain ⟨token, root, gone⟩ := inv.rotated rotation member
    refine ⟨older token, older root, ?_⟩
    intro row known
    rcases mem_upsert.mp known with ⟨known, -⟩ | rfl
    · exact gone row known
    · intro same
      have shared : lib.hashToken refreshToken = rotation.token := same
      exact newRefresh (shared ▸ token)
  · intro rotation member recent unexpired
    obtain ⟨session, entry, same⟩ := inv.remembered rotation member recent unexpired
    refine ⟨session, entry, ?_⟩
    intro row known
    rcases mem_upsert.mp known with ⟨known, -⟩ | rfl
    · exact same row known
    · intro root
      rcases continues with ⟨older, there, rfl⟩ | ⟨isNew, -⟩
      · exact same older there root
      · exact absurd (inv.rotated rotation member).2.1 (root ▸ isNew ▸ newAccess)

theorem Inv.exchange (inv : Inv s) {codeVerifier : String} (fresh : Fresh lib s
      (.exchange code clientId redirectUri codeVerifier accessToken refreshToken)) :
    Inv (s.exchange lib code clientId redirectUri codeVerifier accessToken refreshToken) := by
  obtain ⟨newAccess, newRefresh, newSession⟩ := fresh
  have dropped := inv.trims (trims_withoutCode s.store code)
  rcases exchangeCode_cases code clientId redirectUri codeVerifier accessToken refreshToken with
    failed | ⟨grant, member, ok⟩
  · rw [State.exchange, failed]
    exact dropped
  · obtain ⟨unused, consent, known, data⟩ := inv.codes _ member
    have found : s.consents.find code = some (code, consent) :=
      find_eq_some.mpr ⟨known, rfl⟩
    have marked : Inv { s with
        store := withoutCode s.store code, exchanged := code :: s.exchanged } :=
      { dropped with
        codes := by
          intro row here
          obtain ⟨unusedRow, rest⟩ := dropped.codes row here
          refine ⟨?_, rest⟩
          intro used
          rcases List.mem_cons.mp used with same | older
          · exact (mem_erase.mp here).2 same
          · exact unusedRow older
        exchanged := by
          intro used here
          rcases List.mem_cons.mp here with rfl | older
          · exact List.mem_map_of_mem known
          · exact inv.exchanged used older
        codesOnce := List.nodup_cons.mpr ⟨unused, inv.codesOnce⟩ }
    rw [State.exchange, ok, found]
    refine marked.issue none ⟨lib.hashToken accessToken, lib.sessionId accessToken, consent⟩
      newAccess newRefresh (.inr ⟨rfl, newSession⟩) ⟨rfl, data⟩ ?_
    intro row here same
    obtain ⟨-, origin, origins, session, -⟩ := inv.tokens row here
    exact newSession _ origins (session.symm.trans same)

/-! ## A refresh -/

theorem mem_presented :
    root ∈ s.presented hash ↔ ∃ rotation ∈ s.rotations,
      rotation.token = hash ∧ s.unixNow < rotation.expires ∧ rotation.root = root := by
  simp [State.presented, List.mem_map, and_assoc]

/-- A refresh token that is good was never rotated. -/
theorem Inv.presented_nil (inv : Inv s) {row : String × AccessToken}
    (member : row ∈ s.store.auth.tokens.rows) : s.presented row.2.refreshToken = [] := by
  apply List.eq_nil_iff_forall_not_mem.mpr
  intro root presented
  obtain ⟨rotation, known, same, -⟩ := mem_presented.mp presented
  exact (inv.rotated rotation known).2.2 row member same.symm

/-- The families of which a token is presented are noted. -/
theorem Inv.present (inv : Inv s) (hash : String) :
    Inv { s with reused := s.presented hash ++ s.reused } :=
  { inv with
    reused := by
      intro root member
      rcases List.mem_append.mp member with presented | older
      · obtain ⟨rotation, known, -, -, rfl⟩ := mem_presented.mp presented
        exact (inv.rotated rotation known).2.1
      · exact inv.reused root older }

theorem Inv.refreshed (inv : Inv s) (member : (access, grant) ∈ s.store.auth.tokens.rows) :
    ∃ origin, (access, origin) ∈ s.origins.rows ∧ grant.id = origin.session ∧
      (grant.clientId = origin.consent.clientId ∧ grant.username = origin.consent.username ∧
        grant.scope = origin.consent.scope) ∧
      s.refreshed grant.refreshToken = some (grant, origin) := by
  obtain ⟨-, origin, origins, session, data⟩ := inv.tokens _ member
  refine ⟨origin, origins, session, data, ?_⟩
  have first : s.store.auth.tokens.rows.find?
      (fun row => row.2.refreshToken = grant.refreshToken) = some (access, grant) := by
    cases found : s.store.auth.tokens.rows.find?
        (fun row => row.2.refreshToken = grant.refreshToken) with
    | none =>
      have absent := List.find?_eq_none.mp found _ member
      simp at absent
    | some row =>
      have same : row.2.refreshToken = grant.refreshToken := by
        simpa using List.find?_some found
      rw [inv.consistent.linked.refresh.unique (List.mem_of_find?_eq_some found) member same]
  have second : s.origins.find access = some (access, origin) :=
    find_eq_some.mpr ⟨origins, rfl⟩
  simp [State.refreshed, first, second]

/-- The token is taken and its rotation noted. -/
def State.rotate (s : State) (access : String) (grant : AccessToken) (origin : Origin) : State :=
  { s with
    store := { taken s.store access grant.refreshToken with
      auth := Store.noteRotation (taken s.store access grant.refreshToken).auth s.unixNow
        grant.refreshToken grant.id grant.refreshExpiresAt }
    rotations := ⟨grant.refreshToken, origin.root, grant.refreshExpiresAt, s.restarts⟩ ::
      s.rotations }

theorem Inv.rotate (inv : Inv s) (member : (access, grant) ∈ s.store.auth.tokens.rows)
    (origins : (access, origin) ∈ s.origins.rows) (session : grant.id = origin.session) :
    Inv (s.rotate access grant origin) := by
  have trims : Trims s.unixNow s.store (taken s.store access grant.refreshToken) :=
    trims_taken member
  have before := inv.trims trims
  have unrotated : ∀ rotation ∈ s.rotations, rotation.token ≠ grant.refreshToken :=
    fun rotation known same => (inv.rotated rotation known).2.2 _ member same.symm
  refine { before with
    consistent := ⟨⟨before.consistent.linked.refresh, before.consistent.linked.byId⟩,
      before.consistent.backed, before.consistent.spawned⟩
    rotated := ?_, rotatedOnce := ?_, restarts := ?_, remembered := ?_, recent := ?_ }
  · intro rotation known
    rcases List.mem_cons.mp known with rfl | older
    · refine ⟨(inv.tokens _ member).1, (inv.origins _ origins).2, ?_⟩
      intro row here same
      obtain ⟨here, other⟩ := mem_removeGrant.mp here
      exact other (congrArg Prod.fst (inv.consistent.linked.refresh.unique here member same))
    · exact before.rotated rotation older
  · refine List.nodup_cons.mpr ⟨?_, inv.rotatedOnce⟩
    intro listed
    obtain ⟨rotation, known, same⟩ := List.mem_map.mp listed
    exact unrotated rotation known same
  · intro rotation known
    rcases List.mem_cons.mp known with rfl | older
    · exact Nat.le_refl _
    · exact inv.restarts rotation older
  · intro rotation known recent before
    rcases List.mem_cons.mp known with rfl | older
    · refine ⟨grant.id, mem_noteRotation.2 before (.inr rfl), ?_⟩
      intro row here root
      exact ((inv.sessions row here _ origins).mpr root).trans session.symm
    · obtain ⟨noted, entry, family⟩ := inv.remembered rotation older recent before
      refine ⟨noted, mem_noteRotation.2 before (.inl ⟨trims.kept _ entry before, ?_⟩), family⟩
      exact unrotated rotation older
  · intro row here
    rcases mem_noteRotation.1 here with ⟨older, -⟩ | rfl
    · obtain ⟨rotation, known, same⟩ := before.recent row older
      exact ⟨rotation, List.mem_cons_of_mem _ known, same⟩
    · exact ⟨_, List.mem_cons_self, rfl, rfl⟩

theorem Inv.refresh (inv : Inv s) (newAccess : lib.hashToken accessToken ∉ s.used)
    (newRefresh : lib.hashToken refreshToken ∉ s.used) :
    Inv (s.refresh lib token accessToken refreshToken) := by
  have noted := inv.present (lib.hashToken token)
  rcases refreshTokens_cases inv.consistent.linked token accessToken refreshToken with
    ⟨session, -, result⟩ | ⟨-, -, result⟩ |
      ⟨-, access, grant, member, hash, ⟨-, result⟩ | ⟨-, result⟩⟩
  · rw [State.refresh, result]
    exact noted.trims (trims_revokeSession inv.consistent session).1
  · rw [State.refresh, result]
    exact noted
  · rw [State.refresh, result]
    exact noted.trims (trims_taken member)
  · obtain ⟨origin, origins, session, data, found⟩ := inv.refreshed member
    rw [State.refresh, result, ← hash, found]
    have rotated := noted.rotate member origins session
    rw [← hash] at rotated
    refine rotated.issue (some grant.id) origin newAccess newRefresh ?_ ?_ ?_
    · exact .inl ⟨(access, origin), origins, rfl⟩
    · exact ⟨session, data⟩
    · intro row here same
      obtain ⟨here, other⟩ := mem_removeGrant.mp here
      have shared := inv.consistent.linked.byId.unique here member (same.trans session.symm)
      exact other (congrArg Prod.fst shared)

theorem Inv.step {event : Event} (inv : Inv s) (fresh : Fresh lib s event) :
    Inv (step lib s event) := by
  cases event with
  | wait duration => exact inv.wait duration
  | consent => exact inv.consent fresh
  | exchange => exact inv.exchange fresh
  | refresh => exact inv.refresh fresh.1 fresh.2
  | revoke id => exact inv.trims (trims_revokeSession inv.consistent id).1
  | register client id => exact inv.trims (trims_registerClient s.store client id)
  | cleanup => exact inv.trims (trims_cleanup s.store)
  | purge n => exact inv.trims (trims_purge s.store n)
  | restart => exact inv.restart

theorem inv_initial (now : Nat) : Inv (.initial now) where
  consistent := ⟨⟨Indexes.empty, Indexes.empty⟩, nofun, nofun⟩
  codes := nofun
  exchanged := nofun
  codesOnce := List.nodup_nil
  tokens := nofun
  origins := nofun
  sessions := nofun
  reused := nofun
  rotated := nofun
  rotatedOnce := List.nodup_nil
  restarts := nofun
  remembered := nofun
  recent := nofun

/-! ## Families that are alive -/

theorem Alive.of_fewer {after : State} (alive : Alive after root)
    (tokens : ∀ row ∈ after.store.auth.tokens.rows, row ∈ s.store.auth.tokens.rows)
    (origins : after.origins = s.origins) : Alive s root := by
  obtain ⟨row, member, origin, known, same⟩ := alive
  exact ⟨row, tokens row member, origin, origins ▸ known, same⟩

/-- A new pair of tokens brings its own family to life, and no other. -/
theorem alive_issue {session : Option String}
    (alive : Alive ({ s with store := (s.store.issueTokensWithSession lib s.unixNow session clientId
      scope username accessToken refreshToken).1 }.derive lib accessToken refreshToken origin) root) :
    root = origin.root ∨ Alive s root := by
  obtain ⟨row, member, other, known, rfl⟩ := alive
  rcases mem_upsert.mp member with ⟨older, apart⟩ | rfl
  · rcases mem_upsert.mp known with ⟨there, -⟩ | same
    · exact .inr ⟨row, older, other, there, rfl⟩
    · exact absurd (congrArg Prod.fst same) apart
  · rcases mem_upsert.mp known with ⟨-, apart⟩ | same
    · exact absurd rfl apart
    · exact .inl (congrArg (fun pair => pair.2.root) same)

/-- A presented token that memory knows revokes its family. -/
theorem Inv.revokes (inv : Inv s) {session : String}
    (known : s.store.reusedSession s.unixNow hash = some session) {rotation : Rotation}
    (member : rotation ∈ s.rotations) (token : rotation.token = hash)
    (unexpired : s.unixNow < rotation.expires) :
    rotation.restarts = s.restarts ∧
      ∀ row ∈ (s.store.revokeSession session).1.auth.tokens.rows, ∀ origin,
        (row.1, origin) ∈ s.origins.rows → origin.root ≠ rotation.root := by
  unfold Store.reusedSession at known
  split at known
  · rename_i own noted expires found
    split at known
    · cases known
      obtain ⟨entry, same⟩ := mem_of_find found
      obtain ⟨other, listed, shared, recent⟩ := inv.recent _ entry
      -- no two rotations share their token
      have one : other = rotation :=
        List.inj_on_of_nodup_map inv.rotatedOnce listed member
          (shared.trans (same.trans token.symm))
      subst one
      refine ⟨recent, ?_⟩
      obtain ⟨stored, there, family⟩ := inv.remembered other listed recent unexpired
      have equal := row_of_key _ there entry shared
      have named : stored = session := congrArg (fun row => row.2.1) equal
      subst named
      obtain ⟨trims, gone⟩ := trims_revokeSession inv.consistent stored
      intro row here origin origins root
      obtain ⟨-, known, knownOrigins, id, -⟩ := inv.tokens row (trims.tokens row here)
      have same := row_of_key _ knownOrigins origins rfl
      cases same
      exact gone row here (id.trans (family _ origins root))
    · cases known
  · cases known

/-- No rotated token is presented with a refresh token that is good. -/
theorem Inv.good_remembered (inv : Inv s) (member : (access, grant) ∈ s.store.auth.tokens.rows)
    (hash : grant.refreshToken = lib.hashToken token) :
    Remembered lib s (.refresh token accessToken refreshToken) := by
  intro rotation known same _
  exact absurd (hash.trans same.symm) ((inv.rotated rotation known).2.2 _ member)

/-- **The families of presented tokens, after a refresh.** -/
theorem refresh_revoked_iff (inv : Inv s) (good : Good s) :
    (∀ root ∈ (s.refresh lib token accessToken refreshToken).reused,
        ¬ Alive (s.refresh lib token accessToken refreshToken) root) ↔
      Remembered lib s (.refresh token accessToken refreshToken) := by
  rcases refreshTokens_cases inv.consistent.linked token accessToken refreshToken with
    ⟨session, known, result⟩ | ⟨unknown, -, result⟩ |
      ⟨-, access, grant, member, hash, ⟨-, result⟩ | ⟨-, result⟩⟩
  · -- the session is revoked
    refine iff_of_true ?_ ?_
    · rw [State.refresh, result]
      intro root listed alive
      obtain ⟨trims, -⟩ := trims_revokeSession inv.consistent session
      rcases List.mem_append.mp listed with presented | older
      · obtain ⟨rotation, here, token, unexpired, rfl⟩ := mem_presented.mp presented
        obtain ⟨row, there, origin, origins, root⟩ := alive
        exact (inv.revokes known here token unexpired).2 row there origin origins root
      · exact good.revoked root older (alive.of_fewer trims.tokens rfl)
    · intro rotation here token unexpired
      exact .inl (inv.revokes known here token unexpired).1
  · -- nothing happens
    rw [State.refresh, result]
    constructor
    · intro revoked rotation here token unexpired
      refine .inr fun alive => ?_
      refine revoked rotation.root (List.mem_append_left _ ?_) alive
      exact mem_presented.mpr ⟨rotation, here, token, unexpired, rfl⟩
    · intro remembered root listed alive
      rcases List.mem_append.mp listed with presented | older
      · obtain ⟨rotation, here, token, unexpired, rfl⟩ := mem_presented.mp presented
        rcases remembered rotation here token unexpired with recent | dead
        · -- memory would know the rotation
          obtain ⟨noted, entry, -⟩ := inv.remembered rotation here recent unexpired
          have found := find_eq_some.mpr ⟨entry, token⟩
          simp [Store.reusedSession, found, unexpired] at unknown
        · exact dead alive
      · exact good.revoked root older alive
  · -- the token ran out, and is taken
    refine iff_of_true ?_ (inv.good_remembered member hash)
    rw [State.refresh, result, ← hash, inv.presented_nil member]
    intro root listed alive
    have trims : Trims s.unixNow s.store (taken s.store access grant.refreshToken) :=
      trims_taken member
    exact good.revoked root listed (alive.of_fewer trims.tokens rfl)
  · -- the new pair is of the family of the token that is taken
    refine iff_of_true ?_ (inv.good_remembered member hash)
    obtain ⟨origin, origins, -, -, found⟩ := inv.refreshed member
    rw [State.refresh, result, ← hash, inv.presented_nil member, found]
    intro root listed alive
    have trims : Trims s.unixNow s.store (taken s.store access grant.refreshToken) :=
      trims_taken member
    rcases alive_issue (s := s.rotate access grant origin) alive with rfl | older
    · exact good.revoked _ listed ⟨_, member, origin, origins, rfl⟩
    · exact good.revoked root listed (older.of_fewer trims.tokens rfl)

theorem exchange_revoked (inv : Inv s) (good : Good s) {codeVerifier : String}
    (newAccess : lib.hashToken accessToken ∉ s.used) :
    ∀ root ∈ (s.exchange lib code clientId redirectUri codeVerifier accessToken
      refreshToken).reused,
        ¬ Alive (s.exchange lib code clientId redirectUri codeVerifier accessToken refreshToken)
          root := by
  rcases exchangeCode_cases code clientId redirectUri codeVerifier accessToken refreshToken with
    failed | ⟨grant, member, ok⟩
  · rw [State.exchange, failed]
    exact good.revoked
  · obtain ⟨-, consent, known, -⟩ := inv.codes _ member
    have found : s.consents.find code = some (code, consent) :=
      find_eq_some.mpr ⟨known, rfl⟩
    rw [State.exchange, ok, found]
    intro root listed alive
    rcases alive_issue alive with rfl | older
    · exact newAccess (inv.reused _ listed)
    · exact good.revoked root listed older

/-- A step keeps its promises just when what it needs was not forgotten. -/
theorem good_step_iff {event : Event} (inv : Inv s) (good : Good s) (fresh : Fresh lib s event) :
    Good (step lib s event) ↔ Remembered lib s event := by
  have after := inv.step fresh
  have carries : Carries (step lib s event) := by
    intro row member
    obtain ⟨-, origin, known, -, data⟩ := after.tokens row member
    exact ⟨origin, known, data⟩
  have revoked : Good (step lib s event) ↔
      ∀ root ∈ (step lib s event).reused, ¬ Alive (step lib s event) root :=
    ⟨Good.revoked, fun revoked => ⟨after.codesOnce, after.rotatedOnce, carries, revoked⟩⟩
  rw [revoked]
  have fewer : ∀ {store : Store}, (∀ row ∈ store.auth.tokens.rows, row ∈ s.store.auth.tokens.rows) →
      ∀ root ∈ s.reused, ¬ Alive { s with store } root :=
    fun tokens root listed alive => good.revoked root listed (alive.of_fewer tokens rfl)
  have purges : ∀ n, Trims s.unixNow s.store (s.store.purge n) := trims_purge s.store
  have cleans : Trims s.unixNow s.store (s.store.cleanup s.unixNow) := trims_cleanup s.store
  cases event with
  | refresh => exact refresh_revoked_iff inv good
  | exchange => exact iff_of_true (exchange_revoked inv good fresh.1) trivial
  | wait => exact iff_of_true good.revoked trivial
  | consent | cleanup => exact iff_of_true (fewer cleans.tokens) trivial
  | revoke id => exact iff_of_true (fewer (trims_revokeSession inv.consistent id).1.tokens) trivial
  | register client id =>
    exact iff_of_true (fewer (trims_registerClient s.store client id).tokens) trivial
  | purge n => exact iff_of_true (fewer (purges n).tokens) trivial
  | restart => exact iff_of_true (fewer (restart_spec inv.consistent).2.1) trivial

theorem good_initial (now : Nat) : Good (.initial now) :=
  ⟨List.nodup_nil, List.nodup_nil, nofun, nofun⟩

end Steps

/-- **Every run of the authorizations** in which the tokens are drawn anew: codes and refresh
tokens are exchanged once, tokens have the data of their consent, and families of which a rotated
token was presented have no token, in every state, if and only if no rotated token of a family that
is alive is presented after a restart. -/
theorem families_good_iff (now : Nat) (events : List Event)
    (fresh : Guarded (step lib) (Fresh lib) (.initial now) events) :
    Throughout (step lib) Good (.initial now) events ↔
      Guarded (step lib) (Remembered lib) (.initial now) events := by
  refine throughout_iff_guarded_of ?_ ?_ (inv_initial now) (good_initial now) fresh
  · intro s event inv drawn
    exact inv.step drawn
  · intro s event inv good drawn
    exact good_step_iff inv good drawn

end Machine

/-! ## A token that is presented again -/

section Presented

/-- Digests that are the text itself. -/
def plain : Digests := ⟨id, id⟩

/-- Alice approves a client, which exchanges the code and refreshes its tokens once. -/
def rotatedOnce : List Event :=
  [.consent "alice" "app" "app.example/callback" "verifier" "read" "code",
    .exchange "code" "app" "app.example/callback" "verifier" "a1" "r1",
    .refresh "r1" "a2" "r2"]

def presentedAgain : List Event := rotatedOnce ++ [.refresh "r1" "a3" "r3"]

theorem presented_again_revokes :
    Guarded (step plain) (Fresh plain) (.initial 1000000) presentedAgain ∧
      Throughout (step plain) Good (.initial 1000000) presentedAgain := by
  refine ⟨?fresh, (families_good_iff plain 1000000 presentedAgain ?fresh).mpr ?remembered⟩
  · decide
  · decide

/-- The same, with a restart before the token is presented again. -/
def presentedAfterRestart : List Event := rotatedOnce ++ [.restart, .refresh "r1" "a3" "r3"]

/-- **A restart forgets the rotations.**  The rotated token is refused, and the tokens of its
family stay good. -/
theorem restart_forgets_rotations :
    let last := exec (step plain) (.initial 1000000) presentedAfterRestart
    Guarded (step plain) (Fresh plain) (.initial 1000000) presentedAfterRestart ∧
      last.reused = ["sha256:a1"] ∧ (last.store.auth.verify plain last.unixNow "a2").isSome ∧
      ¬ Good last := by
  intro last
  refine ⟨by decide, by decide, by decide, ?_⟩
  intro good
  exact good.revoked "sha256:a1" (by decide) (by decide)

end Presented

end R3v3rs3.Mcp.TokenFamilies
