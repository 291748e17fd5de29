/-
# R3v3rs3.Platform.GitConnections -- Git provider connections and their tokens

The row of a connection, the statements of the store that change it, and the pure parts of the
OAuth code: the checks of an update, the forms that are sent to a provider, the sealing of what it
grants and the waiting authorizations.

A provider is asked by an `Exchange`: where the request goes and what it carries.  A token keeps
the exchange that it was granted for, so that it can be said who issued it and to whom.  The
program only sees the text.  Sealing takes a new nonce every time, and the store compares sealed
values; so a sealed token carries the number of its sealing and is compared by it.
-/
import Mathlib.Algebra.Group.Nat.Defs
import R3v3rs3.Api.Error
import R3v3rs3.Theory.Table

namespace R3v3rs3.Platform.GitConnections
open Api Theory
set_option autoImplicit false

inductive GitProvider where
  | github
  | gitlab
  | gitea
  deriving DecidableEq

inductive ConnectionStatus where
  | notConnected
  | connected
  | expired
  deriving DecidableEq

/-- A Git provider at its address. -/
structure Site where
  provider : GitProvider
  url : String
  deriving DecidableEq

/-- A client that is registered at a provider. -/
structure Application where
  site : Site
  clientId : String
  deriving DecidableEq

structure GitConnectionEntry where
  id : ShortId
  name : String
  provider : GitProvider
  url : String
  clientId : String
  status : ConnectionStatus
  account : Option String
  appUrl : Option String
  createdAt : Nat
  updatedAt : Nat
  deriving DecidableEq

variable (entry : GitConnectionEntry)

def GitConnectionEntry.site : Site := ⟨entry.provider, entry.url⟩

def GitConnectionEntry.application : Application :=
  ⟨entry.site, entry.clientId⟩

/-! ## The checks of an update -/

structure GitConnectionRequest where
  name : String
  provider : GitProvider
  url : Option String
  clientId : String
  clientSecret : Option String

/-- `char::is_ascii_graphic`. -/
def isAsciiGraphic (c : Char) : Bool := 0x21 ≤ c.toNat && c.toNat ≤ 0x7E

/-- The length is counted in bytes; a text that passes is ASCII, so it has as many characters. -/
def checkClientValue (field value : String) : Except Error Unit :=
  if value ≠ "" ∧ value.toList.length ≤ 512 ∧ value.toList.all isAsciiGraphic then .ok ()
  else .error (.invalidGitConnection s!"the {field} is empty or invalid")

variable {request : GitConnectionRequest} {url : String} (current : GitConnectionEntry)

namespace GitConnectionRequest

def providerUrl (request : GitConnectionRequest) : Except Error String :=
  match request.provider, request.url with
  | .github, _ => .error (.invalidGitConnection "a GitHub connection is created as a GitHub App")
  | .gitlab, none => .ok "https://gitlab.com"
  | .gitea, none =>
    .error (.invalidGitConnection "a Gitea connection needs the address of its server")
  | _, some url => .ok url

def validate (request : GitConnectionRequest) : Except Error String := do
  checkClientValue "client id" request.clientId
  match request.clientSecret with
  | some secret => checkClientValue "client secret" secret
  | none => pure ()
  request.providerUrl

theorem provider_of_providerUrl (ok : request.providerUrl = .ok url) :
    request.provider ≠ .github := by
  intro github
  simp [providerUrl, github] at ok

theorem provider_of_validate (ok : request.validate = .ok url) : request.provider ≠ .github := by
  obtain ⟨-, -, rest⟩ := bind_eq_ok.mp ok
  dsimp only at rest
  split at rest
  · obtain ⟨-, -, named⟩ := bind_eq_ok.mp rest
    exact provider_of_providerUrl named
  · exact provider_of_providerUrl rest

end GitConnectionRequest

/-- The address of a GitHub App connection when the request changes nothing but its name. -/
def renamedGithubApp (request : GitConnectionRequest) : Except Error String :=
  if request.provider = .github ∧ request.clientId = current.clientId ∧
      (∀ url ∈ request.url, url = current.url) ∧ request.clientSecret = none then
    .ok current.url
  else .error (.invalidGitConnection "a GitHub App connection changes only its name")

/-- `inUse` is the name of an app that uses the connection. -/
def ensureAddressChangeAllowed (provider : GitProvider) (url : String) (inUse : Option String) :
    Except Error Unit :=
  if current.provider = provider ∧ current.url = url then .ok ()
  else
    match inUse with
    | some app => .error (.gitConnectionInUse app)
    | none => .ok ()

/-- The address that an update gives to the connection. -/
def updatedUrl (request : GitConnectionRequest) : Except Error String :=
  if current.provider = .github then renamedGithubApp current request else request.validate

/-- The entry that `update_git_connection` writes over the one it read. -/
def updatedEntry (request : GitConnectionRequest) (inUse : Option String) (now : Nat) :
    Except Error GitConnectionEntry := do
  let url ← updatedUrl current request
  ensureAddressChangeAllowed current request.provider url inUse
  pure { current with
    name := request.name
    provider := request.provider
    url
    clientId := request.clientId
    updatedAt := now }

/-- A GitHub App connection keeps its application, and no other connection becomes one. -/
structure Kin (first second : GitConnectionEntry) : Prop where
  github : first.provider = .github ↔ second.provider = .github
  application : second.provider = .github → first.application = second.application

theorem Kin.refl : Kin entry entry := ⟨Iff.rfl, fun _ => rfl⟩

theorem Kin.trans {first second third : GitConnectionEntry} (left : Kin first second)
    (right : Kin second third) : Kin first third :=
  ⟨left.github.trans right.github, fun github =>
    (left.application (right.github.mpr github)).trans (right.application github)⟩

theorem Kin.of_application {first second : GitConnectionEntry}
    (same : first.application = second.application) : Kin first second := by
  refine ⟨?_, fun _ => same⟩
  have provider : first.provider = second.provider :=
    congrArg (fun application => application.site.provider) same
  rw [provider]

theorem updatedUrl_ok {current : GitConnectionEntry} (ok : updatedUrl current request = .ok url) :
    (request.provider = .github ↔ current.provider = .github) ∧
      (current.provider = .github → url = current.url ∧ request.clientId = current.clientId) := by
  unfold updatedUrl at ok
  split at ok
  · rename_i github
    unfold renamedGithubApp at ok
    split at ok
    · rename_i same
      cases ok
      exact ⟨by simp [github, same.1], fun _ => ⟨rfl, same.2.1⟩⟩
    · cases ok
  · rename_i other
    have kept := GitConnectionRequest.provider_of_validate ok
    exact ⟨by simp [kept, other], fun github => absurd github other⟩

theorem updatedEntry_kin {current entry : GitConnectionEntry} {inUse : Option String} {now : Nat}
    (ok : updatedEntry current request inUse now = .ok entry) : Kin entry current := by
  obtain ⟨url, checked, rest⟩ := bind_eq_ok.mp ok
  obtain ⟨-, -, same⟩ := bind_eq_ok.mp rest
  cases same
  obtain ⟨provider, address⟩ := updatedUrl_ok checked
  refine ⟨provider, fun github => ?_⟩
  obtain ⟨url, clientId⟩ := address github
  simp [GitConnectionEntry.application, GitConnectionEntry.site, url, clientId,
    provider.mpr github, github]

/-! ## Requests to a provider -/

/-- The JWT of a GitHub App, signed with its private key. -/
structure AppJwt where
  iat : Nat
  exp : Nat
  iss : String
  pem : String
  deriving DecidableEq

def appJwt (clientId pem : String) (nowSecs : Nat) : AppJwt :=
  ⟨nowSecs - 60, nowSecs + 540, clientId, pem⟩

inductive Exchange where
  /-- A form that is posted to the token endpoint. -/
  | grant (site : Site) (form : List (String × String))
  /-- A GitHub App asks for a token of its installation. -/
  | installation (site : Site) (jwt : AppJwt) (installation : Nat)
  deriving DecidableEq

namespace Exchange

def site : Exchange → Site
  | .grant site _ => site
  | .installation site _ _ => site

def clientId : Exchange → Option String
  | .grant _ form => form.lookup "client_id"
  | .installation _ jwt _ => some jwt.iss

/-- What the exchange grants is issued at this site to this client. -/
def IssuedTo (exchange : Exchange) (application : Application) : Prop :=
  exchange.site = application.site ∧ exchange.clientId = some application.clientId

instance (exchange : Exchange) (application : Application) :
    Decidable (exchange.IssuedTo application) :=
  inferInstanceAs (Decidable (_ ∧ _))

end Exchange

/-- The request of `trade_code`. -/
def codeExchange (secret redirectUri verifier code : String) : Exchange :=
  .grant entry.site
    [("client_id", entry.clientId), ("client_secret", secret), ("code", code),
      ("grant_type", "authorization_code"), ("redirect_uri", redirectUri),
      ("code_verifier", verifier)]

/-- The request of `perform_git_token_renewal`. -/
def refreshExchange (secret refresh redirectUri : String) : Exchange :=
  .grant entry.site
    [("client_id", entry.clientId), ("client_secret", secret), ("grant_type", "refresh_token"),
      ("refresh_token", refresh), ("redirect_uri", redirectUri)]

/-- The request of `renew_installation_token`. -/
def installationExchange (pem : String) (installation now : Nat) : Exchange :=
  .installation entry.site (appJwt entry.clientId pem (now / 1000)) installation

/-! ## Tokens -/

/-- The program sees the text; `issued` says where it came from. -/
structure Token where
  text : String
  issued : Exchange
  deriving DecidableEq

structure SealedToken where
  serial : Nat
  token : Token
  deriving DecidableEq

/-- What a token endpoint grants. -/
structure TokenGrant where
  accessToken : String
  refreshToken : Option String
  expiresIn : Option Nat

structure SealedTokens where
  access : SealedToken
  refresh : Option SealedToken
  expiresAt : Option Nat

def saturatingAdd (a b : Nat) : Nat := min (a + b) (2 ^ 64 - 1)

def saturatingMul (a b : Nat) : Nat := min (a * b) (2 ^ 64 - 1)

/-- The `i64` that SQLite stores. -/
def sqlInt (value : Nat) : Nat := min value (2 ^ 63 - 1)

/-- Seals what `exchange` granted, with the numbers `serial` and `serial + 1`.  A renewal without
a new refresh token keeps the old one. -/
def sealGrant (serial : Nat) (exchange : Exchange) (grant : TokenGrant)
    (oldRefresh : Option SealedToken) (now : Nat) : SealedTokens where
  access := ⟨serial + 1, ⟨grant.accessToken, exchange⟩⟩
  refresh :=
    match grant.refreshToken with
    | some text => some ⟨serial, ⟨text, exchange⟩⟩
    | none => oldRefresh
  expiresAt := grant.expiresIn.map fun seconds => saturatingAdd now (saturatingMul seconds 1000)

def SealedTokens.all (tokens : SealedTokens) : List SealedToken :=
  tokens.access :: tokens.refresh.toList

theorem SealedTokens.refresh_mem {tokens : SealedTokens} {refresh : SealedToken}
    (member : refresh ∈ tokens.refresh) : refresh ∈ tokens.all :=
  List.mem_cons_of_mem _ (Option.mem_toList.mpr member)

/-- A sealed token comes from the exchange under a new number, or is the refresh token that was
kept. -/
theorem mem_sealGrant {serial : Nat} {exchange : Exchange} {grant : TokenGrant}
    {oldRefresh : Option SealedToken} (now : Nat) {token : SealedToken}
    (member : token ∈ (sealGrant serial exchange grant oldRefresh now).all) :
    (token.token.issued = exchange ∧ serial ≤ token.serial ∧ token.serial < serial + 2) ∨
      oldRefresh = some token := by
  rcases List.mem_cons.mp member with rfl | refresh
  · exact .inl ⟨rfl, by simp [sealGrant], by simp [sealGrant]⟩
  · rw [Option.mem_toList] at refresh
    cases granted : grant.refreshToken with
    | none =>
      simp only [sealGrant, granted] at refresh
      exact .inr refresh
    | some =>
      simp only [sealGrant, granted] at refresh
      cases refresh
      exact .inl ⟨rfl, Nat.le_refl _, by simp⟩

/-! ## The row of a connection -/

structure StoredConnection where
  clientSecret : String
  accessToken : Option SealedToken
  refreshToken : Option SealedToken
  expiresAt : Option Nat
  redirectUri : Option String
  deriving DecidableEq

structure StoredGithubApp where
  privateKey : String
  installationId : Option Nat
  deriving DecidableEq

/-- The row of a connection and the row of its GitHub App. -/
structure Connection where
  entry : GitConnectionEntry
  stored : StoredConnection
  app : Option StoredGithubApp
  deriving DecidableEq

variable (stored : StoredConnection)

namespace StoredConnection

def tokens : List SealedToken :=
  stored.accessToken.toList ++ stored.refreshToken.toList

/-- The values without the tokens. -/
def dropTokens : StoredConnection :=
  { stored with accessToken := none, refreshToken := none, expiresAt := none }

end StoredConnection

def needsRenewal (expiresAt : Option Nat) (now : Nat) : Bool :=
  expiresAt.any fun time => time ≤ saturatingAdd now 60000

/-- The sealed access token of a connection while it does not expire soon. -/
def currentToken (now : Nat) : Option SealedToken :=
  stored.accessToken.filter fun _ => !needsRenewal stored.expiresAt now

theorem currentToken_mem {stored : StoredConnection} {now : Nat} {sealed : SealedToken}
    (current : currentToken stored now = some sealed) : sealed ∈ stored.tokens := by
  have known : stored.accessToken = some sealed := (Option.filter_eq_some_iff.mp current).1
  simp [StoredConnection.tokens, known]

/-! ## New connections -/

/-- The row that an insertion makes: not connected, without tokens. -/
def insertedRow (id : ShortId) (name : String) (provider : GitProvider)
    (url clientId clientSecret : String) (appUrl : Option String) (app : Option StoredGithubApp)
    (now : Nat) : Connection where
  entry := ⟨id, name, provider, url, clientId, .notConnected, none, appUrl, sqlInt now, sqlInt now⟩
  stored := ⟨clientSecret, none, none, none, none⟩
  app := app

def addGitConnection (id : ShortId) (request : GitConnectionRequest) (now : Nat) :
    Except Error Connection := do
  let url ← request.validate
  match request.clientSecret with
  | none => .error (.invalidGitConnection "a new connection needs the client secret")
  | some secret =>
    pure (insertedRow id request.name request.provider url request.clientId secret none none now)

/-- The connection of a new GitHub App. -/
def storeGithubApp (id : ShortId) (name url clientId clientSecret htmlUrl pem : String)
    (now : Nat) : Connection :=
  insertedRow id name .github url clientId clientSecret (some htmlUrl) (some ⟨pem, none⟩) now

/-- The two ways a connection is made. -/
inductive Inserted : Connection → Prop where
  | oauth {id : ShortId} {request : GitConnectionRequest} {now : Nat} {row : Connection}
      (added : addGitConnection id request now = .ok row) : Inserted row
  | githubApp (id : ShortId) (name url clientId clientSecret htmlUrl pem : String) (now : Nat) :
      Inserted (storeGithubApp id name url clientId clientSecret htmlUrl pem now)

variable {row : Connection}

/-- A new connection has no tokens, and a GitHub App only at GitHub. -/
theorem Inserted.spec (new : Inserted row) :
    row.stored.accessToken = none ∧ row.stored.refreshToken = none ∧
      (row.app.isSome → row.entry.provider = .github) := by
  cases new with
  | githubApp => exact ⟨rfl, rfl, fun _ => rfl⟩
  | @oauth id request now row added =>
    obtain ⟨url, -, rest⟩ := bind_eq_ok.mp added
    split at rest
    · cases rest
    · cases rest
      exact ⟨rfl, rfl, by simp [insertedRow]⟩

/-! ## Statements of the store

A statement that changes no row answers `none`. -/

namespace Connection

def tokens (row : Connection) : List SealedToken := row.stored.tokens

/-- `status = 'connected' AND refresh_token = ?`, or `IS NULL` without a value. -/
def HoldsRefresh (row : Connection) (current : Option SealedToken) : Prop :=
  row.entry.status = .connected ∧
    row.stored.refreshToken.map SealedToken.serial = current.map SealedToken.serial

instance (row : Connection) (current : Option SealedToken) :
    Decidable (row.HoldsRefresh current) :=
  inferInstanceAs (Decidable (_ ∧ _))

/-- `status = 'connected'` and the installation of the GitHub App is the one given. -/
def HoldsInstallation (row : Connection) (installation : Nat) : Prop :=
  row.entry.status = .connected ∧
    row.app.bind StoredGithubApp.installationId = some (sqlInt installation)

instance (row : Connection) (installation : Nat) : Decidable (row.HoldsInstallation installation) :=
  inferInstanceAs (Decidable (_ ∧ _))

/-- A new provider, address or client id clears the tokens. -/
def updateGitConnection (row : Connection) (entry : GitConnectionEntry)
    (clientSecret : Option String) : Connection :=
  let same := row.entry.application = entry.application
  { row with
    entry := { row.entry with
      status := if same then row.entry.status else .notConnected
      account := if same then row.entry.account else none
      provider := entry.provider
      url := entry.url
      clientId := entry.clientId
      name := entry.name
      updatedAt := sqlInt entry.updatedAt }
    stored :=
      { (if same then row.stored
          else { row.stored.dropTokens with redirectUri := none }) with
        clientSecret := clientSecret.getD row.stored.clientSecret } }

/-- The tokens of a new authorization. -/
def connectGitConnection (row : Connection) (account redirectUri : String)
    (tokens : SealedTokens) : Connection :=
  { row with
    entry := { row.entry with status := .connected, account := some account }
    stored := { row.stored with
      redirectUri := some redirectUri
      accessToken := some tokens.access
      refreshToken := tokens.refresh
      expiresAt := tokens.expiresAt.map sqlInt } }

def renewGitTokens (row : Connection) (tokens : SealedTokens)
    (currentRefresh : Option SealedToken) : Option Connection :=
  if row.HoldsRefresh currentRefresh then
    some { row with stored := { row.stored with
      accessToken := some tokens.access
      refreshToken := tokens.refresh
      expiresAt := tokens.expiresAt.map sqlInt } }
  else none

def renewGithubInstallationTokens (row : Connection) (installation : Nat) (access : SealedToken)
    (expiresAt : Nat) : Option Connection :=
  if row.HoldsInstallation installation then
    some { row with stored := { row.stored with
      accessToken := some access, expiresAt := some (sqlInt expiresAt) } }
  else none

/-- A renewal matched the refresh token that it started from and replaced the tokens only. -/
theorem renewGitTokens_spec {next : Connection} {tokens : SealedTokens}
    {current : Option SealedToken} (written : row.renewGitTokens tokens current = some next) :
    row.HoldsRefresh current ∧ next.entry = row.entry ∧ next.app = row.app ∧
      next.tokens = tokens.all ∧ next.stored.refreshToken = tokens.refresh := by
  unfold renewGitTokens at written
  split at written
  · rename_i holds
    cases written
    exact ⟨holds, rfl, rfl, rfl, rfl⟩
  · cases written

theorem renewGithubInstallationTokens_spec {next : Connection} {installation expiresAt : Nat}
    {access : SealedToken}
    (written : row.renewGithubInstallationTokens installation access expiresAt = some next) :
    row.HoldsInstallation installation ∧ next.entry = row.entry ∧ next.app = row.app ∧
      next.tokens = access :: row.stored.refreshToken.toList ∧
      next.stored.refreshToken = row.stored.refreshToken := by
  unfold renewGithubInstallationTokens at written
  split at written
  · rename_i holds
    cases written
    exact ⟨holds, rfl, rfl, rfl, rfl⟩
  · cases written

/-- The row of a connection that needs a new authorization. -/
def expired (row : Connection) : Connection :=
  { row with entry := { row.entry with status := .expired }, stored := row.stored.dropTokens }

def expireGitConnection (row : Connection) (currentRefresh : Option SealedToken) :
    Option Connection :=
  if row.HoldsRefresh currentRefresh then some row.expired else none

def expireGithubInstallation (row : Connection) (installation : Nat) : Option Connection :=
  if row.HoldsInstallation installation then some row.expired else none

/-- The token of an earlier installation is dropped. -/
def installGithubApp (row : Connection) (installation : Nat) (account : String) : Connection :=
  { row with
    entry := { row.entry with status := .connected, account := some account }
    stored := row.stored.dropTokens
    app := row.app.map fun app => { app with installationId := some (sqlInt installation) } }

end Connection

/-! ## Waiting authorizations -/

inductive Purpose where
  | authorize (verifier : String)
  | createApp (name url : String)

structure Pending where
  connection : ShortId
  redirectUri : String
  purpose : Purpose
  username : String
  created : Nat

/-- The waiting authorizations by their `state`. -/
abbrev PendingAuthorizations := Table (Prod.fst : String × Pending → String)

variable (map : PendingAuthorizations)

namespace PendingAuthorizations

/-- `AUTHORIZATION_LIFETIME`, in milliseconds. -/
def lifetime : Nat := 600000

def expired (now : Nat) (pending : Pending) : Bool := lifetime ≤ now - pending.created

/-- The key of the oldest one, the first of several. -/
def oldest : Option String :=
  (map.rows.find? fun row => map.rows.all fun other =>
    row.2.created ≤ other.2.created).map Prod.fst

def insert (state : String) (pending : Pending) (now : Nat) : PendingAuthorizations :=
  let live := map.discard fun row => expired now row.2
  let room :=
    if 64 ≤ live.rows.length then
      match oldest live with
      | some state => live.erase state
      | none => live
    else live
  room.upsert (state, pending)

/-- Removes the authorization of `state`.  An expired authorization is not returned. -/
def take (state : String) (now : Nat) : Option Pending × PendingAuthorizations :=
  (((map.find state).map Prod.snd).filter fun pending => !expired now pending, map.erase state)

def dropUser (username : String) : PendingAuthorizations :=
  map.discard fun row => row.2.username = username

end PendingAuthorizations

end R3v3rs3.Platform.GitConnections
