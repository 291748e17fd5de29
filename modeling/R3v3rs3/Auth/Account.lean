/-
# R3v3rs3.Auth.Account -- accounts and the check of a sign-in

`verifyAndUpdate` checks a sign-in against the stored accounts.  A password is only compared; a
TOTP code also moves the last accepted step of the account forward, and a passkey its counter.
The hash, the code and the signature belong to other libraries and are fields of
`CredentialLibrary`.
-/
import R3v3rs3.Api.Error
import R3v3rs3.Theory.Table

namespace R3v3rs3.Auth
open Theory Api
set_option autoImplicit false

inductive Role where
  | admin
  | editor
  | viewer
  deriving DecidableEq

inductive TokenScope where
  | read
  | edit
  deriving DecidableEq

structure Passkey where
  id : String
  publicKey : String
  counter : Nat
  deriving DecidableEq

structure ApiToken where
  id : String
  name : String
  tokenHash : String
  scope : TokenScope
  createdAt : Nat

structure Account where
  password : String
  totp : Option String
  /-- The last accepted TOTP step. -/
  totpStep : Nat
  role : Role
  /-- The proxies the account sees, `none` for all of them. -/
  proxies : Option (List ShortId)
  credentialsChangedAt : Nat
  passkeys : List Passkey
  tokens : List ApiToken

/-- The accounts by name. -/
abbrev Accounts := Table (Prod.fst : String × Account → String)

namespace Accounts

def get (accounts : Accounts) (name : String) : Option Account :=
  (Table.find accounts name).map Prod.snd

def set (accounts : Accounts) (name : String) (account : Account) : Accounts :=
  Table.upsert accounts (name, account)

theorem get_set (accounts : Accounts) (name other : String) (account : Account) :
    (accounts.set name account).get other =
      if name = other then some account else accounts.get other := by
  rw [get, set, Table.find_upsert]
  by_cases same : name = other <;> simp [same, get]

theorem get_erase (accounts : Accounts) (name other : String) :
    Accounts.get (accounts.erase name) other =
      if name = other then none else accounts.get other := by
  rw [get, Table.find_erase]
  by_cases same : name = other <;> simp [same, get]

end Accounts

/-! ## Sign-in requests -/

/-- What a browser signs for a passkey, as it is sent. -/
structure Assertion where
  authenticatorData : String
  clientDataJson : String
  signature : String

inductive LoginMethod where
  | password (password : String)
  | totp (token : String)
  | passkey (credentialId : String) (assertion : Assertion)

structure LoginRequest where
  username : String
  method : LoginMethod

inductive LoginResponse where
  | success
  | totpRequired
  deriving DecidableEq

/-- The checks of the credential libraries. -/
structure CredentialLibrary where
  /-- The password has the hash. -/
  verifyPassword : (password hash : String) → Bool
  /-- The time step of the code, when it is a current code of the secret. -/
  totpStep : (secret token : String) → (now : Nat) → Option Nat
  /-- The counter of a well-formed assertion that the key signed. -/
  assertionCounter : (publicKey : String) → Assertion → Option Nat

section Verify

variable (lib : CredentialLibrary) {response : LoginResponse} {account : Account} {now : Nat}
  {token username : String} {accounts : Accounts} {saved : Option Accounts}

def verifyPassword (account : Account) (password : String) : Except Error LoginResponse :=
  if lib.verifyPassword password account.password = false then .error .invalidLoginCredentials
  else if account.totp.isSome then .ok .totpRequired
  else .ok .success

/-- The account after an accepted code; a step that is not newer than the last one is a replay. -/
def verifyTotp (account : Account) (token : String) (now : Nat) : Except Error Account :=
  match account.totp.bind fun secret => lib.totpStep secret token now with
  | none => .error .invalidLoginCredentials
  | some step =>
    if step ≤ account.totpStep then .error .invalidLoginCredentials
    else .ok { account with totpStep := step }

/-- A counter that does not grow is a replay, unless an authenticator keeps none. -/
def replayedCounter (stored counter : Nat) : Bool :=
  0 < stored && 0 < counter && counter ≤ stored

/-- The account with the counter of the credential moved forward, or `none` when it stays. -/
def verifyPasskeyCredential (account : Account) (credentialId : String) (assertion : Assertion) :
    Except Error (Option Account) :=
  match account.passkeys.find? (·.id = credentialId) with
  | none => .error .invalidLoginCredentials
  | some credential =>
    match lib.assertionCounter credential.publicKey assertion with
    | none => .error .invalidLoginCredentials
    | some counter =>
      if replayedCounter credential.counter counter then .error .invalidLoginCredentials
      else if credential.counter < counter then
        .ok (some { account with
          passkeys := account.passkeys.replace credential { credential with counter } })
      else .ok none

/-- The named account, or for an empty name the account that has the credential. -/
def findAccountForPasskey (accounts : Accounts) (username credentialId : String) :
    Option (String × Account) :=
  if username ≠ "" then (accounts.get username).map fun account => (username, account)
  else accounts.rows.find? fun row => row.2.passkeys.any (·.id = credentialId)

/-- The answer, and the accounts to save when the check changed one. -/
def verifyAndUpdate (now : Nat) (accounts : Accounts) (request : LoginRequest) :
    Except Error (LoginResponse × Option Accounts) :=
  match request.method with
  | .password password =>
    match accounts.get request.username with
    | none => .error .invalidLoginCredentials
    | some account => (verifyPassword lib account password).map (·, none)
  | .totp token =>
    match accounts.get request.username with
    | none => .error .invalidLoginCredentials
    | some account => (verifyTotp lib account token now).map fun updated =>
      (.success, some (accounts.set request.username updated))
  | .passkey credentialId assertion =>
    match findAccountForPasskey accounts request.username credentialId with
    | none => .error .invalidLoginCredentials
    | some (name, account) =>
      (verifyPasskeyCredential lib account credentialId assertion).map fun updated =>
        (.success, updated.map (accounts.set name))

/-- `verify_account`: the accounts afterwards, and the answer.  `ok` is false when no permit is free,
the check does not run to its end or the save fails. -/
def verifyAccount (now : Nat) (accounts : Accounts) (request : LoginRequest) (ok : Bool) :
    Accounts × Except Error LoginResponse :=
  if ok then
    match verifyAndUpdate lib now accounts request with
    | .ok (response, saved) => (saved.getD accounts, .ok response)
    | .error err => (accounts, .error err)
  else (accounts, .error .invalidLoginCredentials)

/-! ## What an accepted check says -/

/-- For the right password of the account, whether the account has TOTP too. -/
def rightPassword (accounts : Accounts) (username password : String) : Option Bool :=
  (accounts.get username).bind fun account =>
    if lib.verifyPassword password account.password then some account.totp.isSome else none

/-- The step of a current code of the account, when it is newer than the last accepted one. -/
def codeStep (now : Nat) (accounts : Accounts) (username token : String) : Option Nat :=
  (accounts.get username).bind fun account =>
    account.totp.bind fun secret =>
      (lib.totpStep secret token now).filter (account.totpStep < ·)

variable {lib}

theorem verifyPassword_ok {password : String}
    (ok : verifyPassword lib account password = .ok response) :
    lib.verifyPassword password account.password = true ∧
      account.totp.isSome = (response == .totpRequired) := by
  unfold verifyPassword at ok
  split at ok
  · cases ok
  · rename_i same
    rw [Bool.not_eq_false] at same
    split at ok <;> rename_i second <;> cases ok
    · exact ⟨same, second⟩
    · rw [Bool.not_eq_true] at second
      exact ⟨same, second⟩

theorem verifyTotp_ok {updated : Account} (ok : verifyTotp lib account token now = .ok updated) :
    ∃ secret step, account.totp = some secret ∧ lib.totpStep secret token now = some step ∧
      account.totpStep < step ∧ updated = { account with totpStep := step } := by
  unfold verifyTotp at ok
  split at ok
  · cases ok
  · rename_i step current
    obtain ⟨secret, known, atStep⟩ := Option.bind_eq_some_iff.mp current
    split at ok
    · cases ok
    · rename_i newer
      cases ok
      exact ⟨secret, step, known, atStep, Nat.lt_of_not_le newer, rfl⟩

theorem verify_password_ok {password : String}
    (ok : verifyAndUpdate lib now accounts ⟨username, .password password⟩ = .ok (response, saved)) :
    rightPassword lib accounts username password = some (response == .totpRequired) ∧
      saved = none := by
  simp only [verifyAndUpdate] at ok
  split at ok
  · cases ok
  · rename_i account known
    obtain ⟨answer, checked, same⟩ := map_eq_ok ok
    cases same
    obtain ⟨right, second⟩ := verifyPassword_ok checked
    exact ⟨by simp [rightPassword, known, right, second], rfl⟩

theorem verify_totp_ok
    (ok : verifyAndUpdate lib now accounts ⟨username, .totp token⟩ = .ok (response, saved)) :
    ∃ account step, accounts.get username = some account ∧
      codeStep lib now accounts username token = some step ∧ response = .success ∧
        saved = some (accounts.set username { account with totpStep := step }) := by
  simp only [verifyAndUpdate] at ok
  split at ok
  · cases ok
  · rename_i account known
    obtain ⟨updated, checked, same⟩ := map_eq_ok ok
    cases same
    obtain ⟨secret, step, hasSecret, atStep, newer, rfl⟩ := verifyTotp_ok checked
    refine ⟨account, step, known, ?_, rfl, rfl⟩
    simp [codeStep, known, hasSecret, atStep, newer]

theorem codeStep_newer {step : Nat}
    (current : codeStep lib now accounts username token = some step)
    (known : accounts.get username = some account) : account.totpStep < step := by
  rw [codeStep, known, Option.bind_some] at current
  obtain ⟨secret, -, filtered⟩ := Option.bind_eq_some_iff.mp current
  simpa using (Option.filter_eq_some_iff.mp filtered).2

/-- A passkey needs no second factor. -/
theorem verify_passkey_ok {credentialId : String} {assertion : Assertion}
    (ok : verifyAndUpdate lib now accounts ⟨username, .passkey credentialId assertion⟩ =
      .ok (response, saved)) : response = .success := by
  simp only [verifyAndUpdate] at ok
  split at ok
  · cases ok
  · obtain ⟨updated, -, same⟩ := map_eq_ok ok
    cases same
    rfl

end Verify

/-! ## A library for small runs -/

/-- Passwords are stored as they are, and the code of a secret is the secret, at step one. -/
def plainLibrary : CredentialLibrary where
  verifyPassword password hash := password = hash
  totpStep secret token _ := if token = secret then some 1 else none
  assertionCounter _ _ := none

def withTotp (password secret : String) : Account where
  password := password
  totp := some secret
  totpStep := 0
  role := .admin
  proxies := none
  credentialsChangedAt := 0
  passkeys := []
  tokens := []

/-- Two administrators with TOTP. -/
def twoAccounts : Accounts :=
  ⟨[("alice", withTotp "alice-password" "alice-code"),
    ("mallory", withTotp "mallory-password" "mallory-code")], by decide⟩

end R3v3rs3.Auth
