/-
# R3v3rs3.Mcp.Bearer -- access tokens and changes of credentials

`verify_bearer` takes an access token when the credentials of its account did not change after the
token was made.  A token is made anew by every exchange and every refresh, so what counts for an
account that changes its password is an older event: the consent its token comes from.  The machine
is that of `TokenFamilies`, with the directory of accounts beside it and a history of the changes.

`Good` says that no token is taken whose consent is older than a change of the account.
`access_ends_iff` says in which runs it holds throughout: neither an exchange nor a refresh makes a
token of such a consent that the directory accepts, and a change leaves none that counts as newer.
-/
import R3v3rs3.Api.Text
import R3v3rs3.Auth.AccountStore
import R3v3rs3.Auth.Sessions
import R3v3rs3.Mcp.TokenFamilies
import R3v3rs3.Theory.NetAddr

namespace R3v3rs3.Mcp.Bearer
open Theory Table TokenFamilies.State
open Theory.Run (exec Guarded Throughout throughout_iff_guarded_of)
open Auth (Account Accounts CredentialLibrary Role accountCaller toMillis)
open Auth.AccountStore (Call applyUpdate)
open Mcp.TokenFamilies (Consent Origin)
set_option autoImplicit false

/-! ## The machine -/

/-- The credentials of an account changed, at a time in milliseconds. -/
structure Change where
  username : String
  time : Nat
  deriving DecidableEq

structure State where
  access : TokenFamilies.State
  directory : Accounts
  /-- All changes; no operation reads them. -/
  changes : List Change

def State.initial (now : Nat) : State := ⟨.initial now, .empty, []⟩

inductive Event where
  | access (event : TokenFamilies.Event)
  /-- A sign-in or a change of the accounts, which is saved and published.  `add_account` is a command
  with a process of its own: it is run while the server is down, which reads the accounts when it
  starts. -/
  | account (call : Call)

/-- The call as it is made at a time. -/
def stamped (now : Nat) : Call → Call
  | .addAccount name account saved =>
    .addAccount name { account with credentialsChangedAt := now } saved
  | .edit (.add name account) saved =>
    .edit (.add name { account with credentialsChangedAt := now }) saved
  | .edit (.update name role proxies password _) saved =>
    .edit (.update name role proxies password now) saved
  | call => call

/-- The account whose credentials a call changes. -/
def changes (accounts : Accounts) : Call → Option String
  | .addAccount name _ _ => some name
  | .edit (.add name _) _ => some name
  | .edit (.update name role proxies password _) _ =>
    match accounts.get name with
    | some account =>
      if account.role ≠ role ∨ account.proxies ≠ proxies ∨ password.isSome then some name
      else none
    | none => none
  | _ => none

section Machine

variable (lib : Digests) (credentials : CredentialLibrary) {token : String} {grant : AccessToken}

/-- The accounts that a call saves. -/
def saves (s : State) (call : Call) : Option Accounts :=
  (Auth.AccountStore.run credentials (stamped s.access.now call) s.directory).2

def step (s : State) : Event → State
  | .access event => { s with access := TokenFamilies.step lib s.access event }
  | .account call =>
    match saves credentials s call with
    | none => s
    | some directory =>
      { s with
        directory
        changes := ((changes s.directory call).map fun name => ⟨name, s.access.now⟩).toList ++
          s.changes }

/-! ## Requests -/

inductive Denied where
  | accessDenied
  | unauthorized
  deriving DecidableEq

structure Caller where
  username : String
  role : Role
  proxies : Option (List Api.ShortId)
  client : NetAddr.IpAddr
  deriving DecidableEq

/-- The token of the `Authorization` header. -/
def bearerToken (authorization : Option String) : Option String :=
  authorization.bind fun text =>
    (Api.Text.stripStart "Bearer ".toList text.toList).map String.ofList

/-- The caller and the scope of a request; `enabled` is what the configuration says. -/
def verifyBearer (s : State) (enabled : Bool) (client : NetAddr.IpAddr)
    (authorization : Option String) : Except Denied (Caller × String) :=
  if enabled = false then .error .accessDenied
  else
    match bearerToken authorization with
    | none => .error .unauthorized
    | some token =>
      match s.access.store.auth.verify lib s.access.unixNow token with
      | none => .error .unauthorized
      | some grant =>
        match accountCaller s.directory grant.username grant.createdAt with
        | none => .error .unauthorized
        | some account =>
          .ok (⟨grant.username, account.role, account.proxies, client⟩, grant.scope)

/-! ## What is asked for -/

/-- The account changed its credentials after the consent. -/
def Stale (s : State) (consent : Consent) : Prop :=
  ∃ change ∈ s.changes, change.username = consent.username ∧ consent.time < change.time

instance (s : State) (consent : Consent) : Decidable (Stale s consent) :=
  inferInstanceAs (Decidable (∃ change ∈ s.changes, _ ∧ _))

/-- No request is let in by a token that comes from a consent before a change. -/
def Good (s : State) : Prop :=
  ∀ enabled client authorization token answer origin, bearerToken authorization = some token →
    verifyBearer lib s enabled client authorization = .ok answer →
    (lib.hashToken token, origin) ∈ s.access.origins.rows → ¬ Stale s origin.consent

/-- The consent of the pair of tokens that an event issues. -/
def issuedFrom (s : TokenFamilies.State) : TokenFamilies.Event → Option Consent
  | .exchange code clientId redirectUri codeVerifier accessToken refreshToken =>
    match (s.store.exchangeCode lib s.unixNow code clientId redirectUri codeVerifier accessToken
        refreshToken).2, s.consents.find code with
    | some _, some (_, consent) => some consent
    | _, _ => none
  | .refresh token accessToken refreshToken =>
    match (s.store.refreshTokens lib s.unixNow token accessToken refreshToken).2,
        s.refreshed (lib.hashToken token) with
    | .ok _, some (_, origin) => some origin.consent
    | _, _ => none
  | _ => none

/-- A pair of tokens of a stale consent is of no use when it is issued, and at a change no token of
an earlier consent counts as newer than the change. -/
def Current (s : State) : Event → Prop
  | .access event => ∀ consent ∈ issuedFrom lib s.access event, Stale s consent →
      accountCaller s.directory consent.username s.access.unixNow = none
  | .account call => (saves credentials s call).isSome → ∀ name ∈ changes s.directory call,
      ∀ row ∈ s.access.store.auth.tokens.rows, row.2.username = name →
      s.access.unixNow < row.2.expiresAt → ∀ origin, (row.1, origin) ∈ s.access.origins.rows →
      origin.consent.time < s.access.now → toMillis row.2.createdAt < toMillis s.access.now

/-- A property of the origins of a token. -/
instance {rows : List (String × Origin)} {hash : String} {good : Origin → Prop}
    [DecidablePred good] : Decidable (∀ origin, (hash, origin) ∈ rows → good origin) :=
  decidable_of_iff (∀ row ∈ rows, row.1 = hash → good row.2)
    ⟨fun all origin member => all (hash, origin) member rfl,
      fun all row member same => all row.2 (same ▸ member)⟩

instance (s : State) (event : Event) : Decidable (Current lib credentials s event) :=
  match event with
  | .access _ => inferInstanceAs (Decidable (∀ _ ∈ _, _))
  | .account _ => inferInstanceAs (Decidable (_ → _))

/-- The assumption of `TokenFamilies`. -/
def Fresh (s : State) : Event → Prop
  | .access event => TokenFamilies.Fresh lib s.access event
  | .account _ => True

instance (s : State) (event : Event) : Decidable (Fresh lib s event) :=
  match event with
  | .access event => inferInstanceAs (Decidable (TokenFamilies.Fresh lib s.access event))
  | .account _ => .isTrue trivial

/-! ## What a request says about the token -/

/-- The token is good for a request. -/
def Accepted (s : State) (grant : AccessToken) : Prop :=
  s.access.unixNow < grant.expiresAt ∧
    (accountCaller s.directory grant.username grant.createdAt).isSome

section Requests

variable {lib} {credentials} {s : State}

theorem verifyBearer_ok {enabled : Bool} {client : NetAddr.IpAddr} {authorization : Option String}
    {answer : Caller × String} (bearer : bearerToken authorization = some token)
    (ok : verifyBearer lib s enabled client authorization = .ok answer) :
    ∃ grant, (lib.hashToken token, grant) ∈ s.access.store.auth.tokens.rows ∧
      Accepted s grant := by
  unfold verifyBearer at ok
  rw [bearer] at ok
  dsimp only at ok
  split at ok
  · cases ok
  · split at ok
    · cases ok
    · rename_i grant found
      split at ok
      · cases ok
      · rename_i account known
        obtain ⟨stored, unexpired⟩ := Option.filter_eq_some_iff.mp found
        obtain ⟨row, here, rfl⟩ := Option.map_eq_some_iff.mp stored
        obtain ⟨member, same⟩ := mem_of_find here
        have hash : row.1 = lib.hashToken token := same
        refine ⟨row.2, hash ▸ member, of_decide_eq_true unexpired, ?_⟩
        rw [known]
        rfl

theorem verifyBearer_accepted (client : NetAddr.IpAddr)
    (member : (lib.hashToken token, grant) ∈ s.access.store.auth.tokens.rows)
    (accepted : Accepted s grant) :
    ∃ authorization answer, bearerToken authorization = some token ∧
      verifyBearer lib s true client authorization = .ok answer := by
  obtain ⟨unexpired, known⟩ := accepted
  obtain ⟨account, known⟩ := Option.isSome_iff_exists.mp known
  have found : s.access.store.auth.tokens.find (lib.hashToken token) =
      some (lib.hashToken token, grant) := find_eq_some.mpr ⟨member, rfl⟩
  have verified : s.access.store.auth.verify lib s.access.unixNow token = some grant := by
    simp [McpAuthorizations.verify, found, unexpired]
  obtain ⟨authorization, bearer⟩ : ∃ authorization, bearerToken authorization = some token :=
    ⟨some (String.ofList ("Bearer ".toList ++ token.toList)), by
      simp [bearerToken, Api.Text.stripStart]⟩
  refine ⟨authorization, (⟨grant.username, account.role, account.proxies, client⟩, grant.scope),
    bearer, ?_⟩
  simp [verifyBearer, bearer, verified, known]

/-- The promise, in terms of the tokens in memory. -/
theorem good_iff
    (hashes : ∀ row ∈ s.access.store.auth.tokens.rows, ∃ token, lib.hashToken token = row.1) :
    Good lib s ↔ ∀ row ∈ s.access.store.auth.tokens.rows, ∀ origin,
      (row.1, origin) ∈ s.access.origins.rows → Accepted s row.2 → ¬ Stale s origin.consent := by
  constructor
  · intro good row member origin known accepted
    obtain ⟨token, hash⟩ := hashes row member
    have here : (lib.hashToken token, row.2) ∈ s.access.store.auth.tokens.rows := hash ▸ member
    obtain ⟨authorization, answer, bearer, ok⟩ :=
      verifyBearer_accepted (.v4 ⟨127, 0, 0, 1⟩) here accepted
    exact good _ _ authorization token answer origin bearer ok (hash ▸ known)
  · intro good enabled client authorization token answer origin bearer ok known
    obtain ⟨grant, member, accepted⟩ := verifyBearer_ok bearer ok
    exact good _ member origin known accepted

end Requests

/-! ## What an event does to the tokens -/

section Tokens

variable {lib} {s : TokenFamilies.State} {event : TokenFamilies.Event}

variable (lib s event) in
/-- The tokens after an event: none is new, or the one that comes from a consent. -/
inductive Turn : Prop
  | none (issued : issuedFrom lib s event = none)
      (tokens : ∀ row ∈ (TokenFamilies.step lib s event).store.auth.tokens.rows,
        row ∈ s.store.auth.tokens.rows)
      (origins : (TokenFamilies.step lib s event).origins = s.origins)
  | issued (accessToken : String) (grant : AccessToken) (origin : Origin)
      (issued : issuedFrom lib s event = some origin.consent)
      (unused : lib.hashToken accessToken ∉ s.used)
      (username : grant.username = origin.consent.username)
      (createdAt : grant.createdAt = s.unixNow) (expiresAt : s.unixNow < grant.expiresAt)
      (tokens : ∀ row ∈ (TokenFamilies.step lib s event).store.auth.tokens.rows,
        row ∈ s.store.auth.tokens.rows ∨ row = (lib.hashToken accessToken, grant))
      (present : (lib.hashToken accessToken, grant) ∈
        (TokenFamilies.step lib s event).store.auth.tokens.rows)
      (origins : (TokenFamilies.step lib s event).origins =
        s.origins.upsert (lib.hashToken accessToken, origin))
      (now : (TokenFamilies.step lib s event).now = s.now)
      (known : (∃ row ∈ s.consents.rows, row.2 = origin.consent) ∨
        ∃ row ∈ s.origins.rows, row.2 = origin)

theorem turn_exchange (inv : TokenFamilies.Inv s)
    {code clientId redirectUri codeVerifier accessToken refreshToken : String}
    (newAccess : lib.hashToken accessToken ∉ s.used) :
    Turn lib s (.exchange code clientId redirectUri codeVerifier accessToken refreshToken) := by
  rcases exchangeCode_cases code clientId redirectUri codeVerifier accessToken refreshToken with
    failed | ⟨grant, member, ok⟩
  · refine .none ?_ ?_ ?_
    · rw [issuedFrom, failed]
    · rw [TokenFamilies.step, exchange, failed]
      exact fun row here => here
    · rw [TokenFamilies.step, exchange, failed]
  · obtain ⟨-, consent, known, -, username, -⟩ := inv.codes _ member
    have found : s.consents.find code = some (code, consent) :=
      find_eq_some.mpr ⟨known, rfl⟩
    refine .issued accessToken (Store.newGrant lib s.unixNow none grant.clientId grant.scope
      grant.username accessToken refreshToken)
      ⟨lib.hashToken accessToken, lib.sessionId accessToken, consent⟩
      ?_ newAccess username rfl (Nat.lt_add_of_pos_right (by decide)) ?_ ?_ ?_ ?_
      (.inl ⟨_, known, rfl⟩)
    · rw [issuedFrom, ok, found]
    all_goals rw [TokenFamilies.step, exchange, ok, found]
    · intro row here
      exact (mem_upsert.mp here).imp_left And.left
    · exact mem_upsert.mpr (.inr rfl)
    · rfl
    · rfl

theorem turn_refresh (inv : TokenFamilies.Inv s) {accessToken refreshToken : String}
    (newAccess : lib.hashToken accessToken ∉ s.used) :
    Turn lib s (.refresh token accessToken refreshToken) := by
  rcases refreshTokens_cases inv.consistent.linked token accessToken refreshToken with
    ⟨session, -, result⟩ | ⟨-, -, result⟩ |
      ⟨-, access, grant, member, hash, ⟨-, result⟩ | ⟨-, result⟩⟩
  · refine .none (by rw [issuedFrom, result]) ?_ ?_
    all_goals rw [TokenFamilies.step, refresh, result]
    exact (trims_revokeSession inv.consistent session).1.tokens
  · refine .none (by rw [issuedFrom, result]) ?_ ?_
    all_goals rw [TokenFamilies.step, refresh, result]
    exact fun row here => here
  · refine .none (by rw [issuedFrom, result]) ?_ ?_
    all_goals rw [TokenFamilies.step, refresh, result]
    have trims : Trims s.unixNow s.store (taken s.store access grant.refreshToken) :=
      trims_taken member
    exact trims.tokens
  · obtain ⟨origin, origins, -, ⟨-, username, -⟩, found⟩ := inv.refreshed member
    have trims : Trims s.unixNow s.store (taken s.store access grant.refreshToken) :=
      trims_taken member
    refine .issued accessToken (Store.newGrant lib s.unixNow (some grant.id) grant.clientId
      grant.scope grant.username accessToken refreshToken) origin ?_ newAccess username rfl
      (Nat.lt_add_of_pos_right (by decide)) ?_ ?_ ?_ ?_ (.inr ⟨_, origins, rfl⟩)
    · rw [issuedFrom, result, ← hash, found]
    all_goals rw [TokenFamilies.step, refresh, result, ← hash, found]
    · intro row here
      rcases mem_upsert.mp here with ⟨here, -⟩ | same
      · exact .inl (trims.tokens row here)
      · exact .inr same
    · exact mem_upsert.mpr (.inr rfl)
    · rfl
    · rfl

/-- **Everything that an event can do to the tokens.** -/
theorem turn (inv : TokenFamilies.Inv s) (fresh : TokenFamilies.Fresh lib s event) :
    Turn lib s event := by
  have cleans : Trims s.unixNow s.store (s.store.cleanup s.unixNow) := trims_cleanup s.store
  have purges : ∀ n, Trims s.unixNow s.store (s.store.purge n) := trims_purge s.store
  cases event with
  | exchange => exact turn_exchange inv fresh.1
  | refresh => exact turn_refresh inv fresh.1
  | wait => exact .none rfl (fun row here => here) rfl
  | consent | cleanup => exact .none rfl cleans.tokens rfl
  | revoke id => exact .none rfl (trims_revokeSession inv.consistent id).1.tokens rfl
  | register client id => exact .none rfl (trims_registerClient s.store client id).tokens rfl
  | purge n => exact .none rfl (purges n).tokens rfl
  | restart => exact .none rfl (restart_spec inv.consistent).2.1 rfl

variable (lib s event) in
/-- Time does not go back, and a consent is given now. -/
theorem step_consents :
    s.now ≤ (TokenFamilies.step lib s event).now ∧
      ∀ row ∈ (TokenFamilies.step lib s event).consents.rows,
        row ∈ s.consents.rows ∨ row.2.time = s.now := by
  cases event with
  | exchange =>
    dsimp only [TokenFamilies.step, exchange]
    split <;> exact ⟨Nat.le_refl _, fun row known => .inl known⟩
  | refresh =>
    dsimp only [TokenFamilies.step, refresh]
    split <;> exact ⟨Nat.le_refl _, fun row known => .inl known⟩
  | wait => exact ⟨Nat.le_add_right _ _, fun row known => .inl known⟩
  | consent =>
    refine ⟨Nat.le_refl _, ?_⟩
    intro row known
    rcases mem_upsert.mp known with ⟨older, -⟩ | rfl
    · exact .inl older
    · exact .inr rfl
  | revoke | register | cleanup | purge | restart =>
    exact ⟨Nat.le_refl _, fun row known => .inl known⟩

end Tokens

/-! ## The invariant -/

/-- Nothing is later than now, and tokens are kept by their hash. -/
structure Inv (s : State) : Prop where
  families : TokenFamilies.Inv s.access
  hashes : ∀ row ∈ s.access.store.auth.tokens.rows, ∃ token, lib.hashToken token = row.1
  consents : ∀ row ∈ s.access.consents.rows, row.2.time ≤ s.access.now
  origins : ∀ row ∈ s.access.origins.rows, row.2.consent.time ≤ s.access.now
  changes : ∀ change ∈ s.changes, change.time ≤ s.access.now
  directory : ∀ username account, s.directory.get username = some account →
    account.credentialsChangedAt ≤ s.access.now

section Steps

variable {lib} {credentials} {s : State} {event : TokenFamilies.Event} {next : Accounts}

theorem inv_initial (now : Nat) : Inv lib (.initial now) where
  families := TokenFamilies.inv_initial now
  hashes := nofun
  consents := nofun
  origins := nofun
  changes := nofun
  directory := nofun

theorem Inv.access (inv : Inv lib s) (fresh : TokenFamilies.Fresh lib s.access event) :
    Inv lib (step lib credentials s (.access event)) := by
  obtain ⟨later, given⟩ := step_consents lib s.access event
  refine ⟨inv.families.step fresh, ?_, ?_, ?_, ?_, ?_⟩
  · intro row member
    cases turn inv.families fresh with
    | none _ tokens _ => exact inv.hashes row (tokens row member)
    | issued accessToken _ _ _ _ _ _ _ tokens _ _ _ _ =>
      rcases tokens row member with older | rfl
      · exact inv.hashes row older
      · exact ⟨accessToken, rfl⟩
  · intro row known
    rcases given row known with older | now
    · exact Nat.le_trans (inv.consents row older) later
    · exact Nat.le_trans (Nat.le_of_eq now) later
  · intro row member
    refine Nat.le_trans ?_ later
    cases turn inv.families fresh with
    | none _ _ origins =>
      rw [step, origins] at member
      exact inv.origins row member
    | issued accessToken grant origin _ _ _ _ _ _ _ origins _ known =>
      rw [step, origins] at member
      rcases mem_upsert.mp member with ⟨older, -⟩ | rfl
      · exact inv.origins row older
      · rcases known with ⟨consent, here, same⟩ | ⟨before, here, rfl⟩
        · exact same ▸ inv.consents consent here
        · exact inv.origins before here
  · intro change known
    exact Nat.le_trans (inv.changes change known) later
  · intro username account known
    exact Nat.le_trans (inv.directory username account known) later

/-! ## Changes of accounts -/

section Stamped

variable {now : Nat} {call other : Call} {username : String} {accounts : Accounts}

theorem stamped_self (called : stamped now call = other) : stamped now other = other := by
  rw [← called]
  cases call with
  | edit change saved => cases change <;> rfl
  | _ => rfl

theorem changes_stamped (now : Nat) (call : Call) :
    changes accounts (stamped now call) = changes accounts call := by
  cases call with
  | edit change saved => cases change <;> rfl
  | _ => rfl

theorem target_of_changes (own : changes accounts call = some username) :
    Auth.AccountStore.target call = some username := by
  unfold changes at own
  split at own
  · exact own
  · exact own
  · split at own
    · split at own
      · exact own
      · cases own
    · cases own
  · cases own

end Stamped

section Inv

variable (inv : Inv lib s)
include inv

/-- The accounts that a call saves: the one whose credentials it changes, and the others. -/
theorem saves_entry {call : Call} {username : String} {after : Account}
    (stored : saves credentials s call = some next) (known : next.get username = some after) :
    (changes s.directory call = some username ∧ after.credentialsChangedAt = s.access.now) ∨
      (changes s.directory call ≠ some username ∧ ∃ before, s.directory.get username = some before ∧
        after.credentialsChangedAt = before.credentialsChangedAt) := by
  rw [← changes_stamped s.access.now]
  cases Auth.AccountStore.run_entry stored known with
  | kept other before here keeps =>
    exact .inr ⟨fun own => other (target_of_changes own), before, here, keeps.changed⟩
  | updated before role proxies password now saved called here result =>
    cases stamped_self called
    rw [result, called]
    by_cases changed : before.role ≠ role ∨ before.proxies ≠ proxies ∨ password.isSome
    · refine .inl ⟨?_, if_pos changed⟩
      simp only [changes, here, if_pos changed]
    · refine .inr ⟨?_, before, here, if_neg changed⟩
      simp only [changes, here, if_neg changed]
      exact nofun
  | added saved called =>
    have now := Auth.AccountStore.Edit.add.inj (Call.edit.inj (stamped_self called)).1
    rw [called]
    exact .inl ⟨rfl, (congrArg Account.credentialsChangedAt now.2).symm⟩
  | renewed account saved called result =>
    have now : s.access.now = account.credentialsChangedAt :=
      congrArg Account.credentialsChangedAt (Call.addAccount.inj (stamped_self called)).2.1
    rw [called]
    refine .inl ⟨rfl, ?_⟩
    rw [result, Auth.AccountStore.renewed]
    split
    · rename_i previous here
      have earlier := inv.directory username previous here
      dsimp only
      omega
    · exact now.symm

omit inv in
/-- The account whose credentials a call changes is there afterwards. -/
theorem saves_changed {call : Call} {username : String}
    (stored : saves credentials s call = some next)
    (own : changes s.directory call = some username) : (next.get username).isSome := by
  unfold changes at own
  split at own
  · cases own
    rw [Auth.AccountStore.save_some stored, Accounts.get_set, if_pos rfl]
    rfl
  · cases own
    rw [Auth.AccountStore.add_ok (Auth.AccountStore.edit_stored stored), Accounts.get_set,
      if_pos rfl]
    rfl
  · obtain ⟨before, -, rfl⟩ := Auth.AccountStore.update_ok (Auth.AccountStore.edit_stored stored)
    split at own
    · split at own
      · cases own
        rw [Accounts.get_set, if_pos rfl]
        rfl
      · cases own
    · cases own
  · cases own

theorem Inv.account (call : Call) :
    Inv lib (step lib credentials s (.account call)) := by
  rw [step]
  cases stored : saves credentials s call with
  | none => exact inv
  | some =>
    refine { inv with changes := ?_, directory := ?_ }
    · intro change known
      rcases List.mem_append.mp known with new | older
      · obtain ⟨name, -, rfl⟩ := Option.map_eq_some_iff.mp (Option.mem_toList.mp new)
        exact Nat.le_refl _
      · exact inv.changes change older
    · intro username account known
      rcases saves_entry inv stored known with ⟨-, now⟩ | ⟨-, before, here, same⟩
      · exact Nat.le_of_eq now
      · rw [same]
        exact inv.directory username before here

theorem Inv.step {event : Event} (fresh : Fresh lib s event) :
    Inv lib (step lib credentials s event) := by
  cases event with
  | access => exact inv.access fresh
  | account call => exact inv.account call

/-! ## When a step keeps the promise -/

omit inv in
/-- A token that is good after an event of the authorizations was good before. -/
theorem Accepted.earlier
    (accepted : Accepted (Bearer.step lib credentials s (.access event)) grant) :
    Accepted s grant := by
  obtain ⟨unexpired, known⟩ := accepted
  refine ⟨Nat.lt_of_le_of_lt ?_ unexpired, known⟩
  exact Nat.div_le_div_right (step_consents lib s.access event).1

theorem good_access_iff (good : Good lib s) (fresh : TokenFamilies.Fresh lib s.access event) :
    Good lib (step lib credentials s (.access event)) ↔
      Current lib credentials s (.access event) := by
  have after : Inv lib (step lib credentials s (.access event)) := inv.access fresh
  have before := (good_iff inv.hashes).mp good
  rw [good_iff after.hashes]
  cases turn inv.families fresh with
  | none issued tokens origins =>
    refine iff_of_true ?_ ?_
    · intro row member origin known accepted stale
      rw [step, origins] at known
      exact before row (tokens row member) origin known accepted.earlier stale
    · intro consent found
      rw [issued] at found
      cases found
  | issued accessToken grant origin issued unused username createdAt expiresAt tokens present
      origins now known =>
      constructor
      · intro still consent found stale
        rw [issued] at found
        cases found
        cases caller : accountCaller s.directory origin.consent.username s.access.unixNow with
        | none => rfl
        | some =>
          have own : (lib.hashToken accessToken, origin) ∈
              (TokenFamilies.step lib s.access event).origins.rows := by
            rw [origins]
            exact mem_upsert.mpr (.inr rfl)
          refine absurd stale (still _ present origin own ⟨?_, ?_⟩)
          · rw [step, unixNow, now]
            exact expiresAt
          · rw [step, username, createdAt, caller]
            rfl
      · intro current row member other there accepted stale
        rw [step, origins] at there
        rcases tokens row member with older | rfl
        · rcases mem_upsert.mp there with ⟨there, -⟩ | same
          · exact before row older other there accepted.earlier stale
          · -- a token from before has another hash
            obtain ⟨-, found, there, -⟩ := inv.families.tokens row older
            have hash : row.1 = lib.hashToken accessToken := congrArg Prod.fst same
            exact unused (hash ▸ (inv.families.origins _ there).1)
        · rcases mem_upsert.mp there with ⟨-, apart⟩ | same
          · exact apart rfl
          · cases same
            have refused := current origin.consent issued stale
            obtain ⟨-, caller⟩ := accepted.earlier
            rw [username, createdAt, refused] at caller
            cases caller

/-- A consent is stale for the account whose credentials change just when it is earlier. -/
theorem stale_changed_iff {consent : Consent} {directory : Accounts} :
    Stale { s with directory, changes := ⟨consent.username, s.access.now⟩ :: s.changes } consent ↔
      consent.time < s.access.now := by
  constructor
  · rintro ⟨change, known, -, earlier⟩
    rcases List.mem_cons.mp known with rfl | older
    · exact earlier
    · exact Nat.lt_of_lt_of_le earlier (inv.changes change older)
  · intro earlier
    exact ⟨_, List.mem_cons_self, rfl, earlier⟩

omit inv in
theorem accountCaller_isSome {directory : Accounts} {username : String} {startedAt : Nat} :
    (accountCaller directory username startedAt).isSome ↔ ∃ entry,
      directory.get username = some entry ∧
        toMillis entry.credentialsChangedAt ≤ toMillis startedAt := by
  simp [accountCaller, Option.isSome_filter, Option.any_eq_true]

/-- A call that is no change of an account's credentials brings no token of it back. -/
theorem Accepted.unchanged {call : Call} (stored : saves credentials s call = some next)
    {changes : List Change} (other : Bearer.changes s.directory call ≠ some grant.username)
    (accepted : Accepted { s with directory := next, changes } grant) : Accepted s grant := by
  obtain ⟨unexpired, caller⟩ := accepted
  obtain ⟨entry, known, newer⟩ := accountCaller_isSome.mp caller
  rcases saves_entry inv stored known with ⟨own, -⟩ | ⟨-, before, here, same⟩
  · exact absurd own other
  · exact ⟨unexpired, accountCaller_isSome.mpr ⟨before, here, same ▸ newer⟩⟩

/-- After a change of its credentials, an account has the tokens that count as newer. -/
theorem accepted_changed_iff {call : Call} (stored : saves credentials s call = some next)
    {changes : List Change} (own : Bearer.changes s.directory call = some grant.username) :
    Accepted { s with directory := next, changes } grant ↔
      s.access.unixNow < grant.expiresAt ∧ toMillis s.access.now ≤ toMillis grant.createdAt := by
  have entryNow : ∀ entry, next.get grant.username = some entry →
      entry.credentialsChangedAt = s.access.now := by
    intro entry known
    rcases saves_entry inv stored known with ⟨-, now⟩ | ⟨other, -⟩
    · exact now
    · exact absurd own other
  refine and_congr_right fun _ => accountCaller_isSome.trans ?_
  constructor
  · rintro ⟨entry, known, newer⟩
    rwa [entryNow entry known] at newer
  · intro newer
    obtain ⟨entry, known⟩ := Option.isSome_iff_exists.mp (saves_changed stored own)
    exact ⟨entry, known, entryNow entry known ▸ newer⟩

theorem Inv.username {row : String × AccessToken} {origin : Origin}
    (member : row ∈ s.access.store.auth.tokens.rows)
    (known : (row.1, origin) ∈ s.access.origins.rows) :
    row.2.username = origin.consent.username := by
  obtain ⟨-, found, there, -, -, username, -⟩ := inv.families.tokens row member
  have same := row_of_key _ known there rfl
  cases same
  exact username

theorem good_account_iff (good : Good lib s) {call : Call} :
    Good lib (step lib credentials s (.account call)) ↔
      Current lib credentials s (.account call) := by
  have after : Inv lib (step lib credentials s (.account call)) := inv.account call
  have before := (good_iff inv.hashes).mp good
  cases stored : saves credentials s call with
  | none =>
    rw [step, stored, Current, stored]
    exact iff_of_true good nofun
  | some =>
    rw [good_iff after.hashes, step, stored, Current, stored]
    cases own : changes s.directory call with
    | none =>
      refine iff_of_true ?_ ?_
      · intro row member origin known accepted stale
        have accepted := accepted.unchanged inv stored (by rw [own]; exact nofun)
        exact before row member origin known accepted stale
      · intro _ name found
        cases found
    | some name =>
      constructor
      · intro still _ found changed row member user unexpired origin known earlier
        cases changed
        subst user
        refine Nat.lt_of_not_le fun newer => ?_
        refine still row member origin known
          ((accepted_changed_iff inv stored own).mpr ⟨unexpired, newer⟩) ?_
        rw [inv.username member known]
        exact (stale_changed_iff inv).mpr earlier
      · intro current row member origin known accepted stale
        have user := inv.username member known
        by_cases changed : name = row.2.username
        · subst changed
          obtain ⟨unexpired, newer⟩ := (accepted_changed_iff inv stored own).mp accepted
          rw [user] at stale
          have earlier := (stale_changed_iff inv).mp stale
          have older := current rfl _ rfl row member rfl unexpired origin known earlier
          exact Nat.not_le_of_lt older newer
        · have accepted := accepted.unchanged inv stored (by
            rw [own]
            exact fun same => changed (Option.some.inj same))
          refine before row member origin known accepted ?_
          obtain ⟨change, listed, same, earlier⟩ := stale
          rcases List.mem_cons.mp listed with rfl | older
          · exact absurd (same.trans user.symm) changed
          · exact ⟨change, older, same, earlier⟩

end Inv

end Steps

end Machine

/-! ## A password is changed -/

section Changed

open Mcp.TokenFamilies (plain)
open Auth (plainLibrary withTotp)

/-- Alice approves a client, which exchanges the code; a second later Alice sets a new password. -/
def passwordChanged : List Event :=
  [.account (.addAccount "alice" (withTotp "old" "secret") true),
    .access (.consent "alice" "app" "app.example/callback" "verifier" "edit" "code"),
    .access (.exchange "code" "app" "app.example/callback" "verifier" "a1" "r1"),
    .access (.wait 1000),
    .account (.edit (.update "alice" .admin none (some "new") 0) true)]

/-- The client refreshes its tokens a second after the change. -/
def refreshedAfterwards : List Event :=
  passwordChanged ++ [.access (.wait 1000), .access (.refresh "r1" "a2" "r2")]

end Changed

end R3v3rs3.Mcp.Bearer
