/-
# R3v3rs3.Auth.Sessions -- sessions in memory and the directory of accounts

One store holds the sessions of three scopes under random tokens: sign-ins that wait for a TOTP
code, sessions of the admin API and sessions of the proxies.  A record says who it belongs to in
two ways: the admin API writes the user name into `subject`, a proxy writes its host there and the
account into `account`.  The lifetime of a session is not part of its record.

The directory is the copy of the accounts that the sign-ins read.
-/
import R3v3rs3.Auth.Account

namespace R3v3rs3.Auth
open Theory Api
set_option autoImplicit false

inductive SessionScope where
  | login
  | admin
  | proxy
  deriving DecidableEq

structure SessionRecord where
  /-- The user name of an admin session, the host of a proxy session. -/
  subject : String
  startedAt : Nat
  account : Option String
  deriving DecidableEq

/-- `MINIMUM_SESSION_EXPIRY`, in milliseconds. -/
def minimumSessionExpiry : Nat := 5 * 60 * 1000

/-- The lifetime of the admin and proxy sessions. -/
def expiry (sessionExpiry : Nat) : Nat := max sessionExpiry minimumSessionExpiry

namespace SessionRecord

def new (subject : String) (now : Nat) : SessionRecord := ⟨subject, now, none⟩

def proxy (host account : String) (now : Nat) : SessionRecord :=
  { new host now with account := some account }

/-- Older records count in seconds. -/
def isActive (record : SessionRecord) (expiry now : Nat) : Bool :=
  let started :=
    if record.startedAt < 10000000000 then record.startedAt * 1000 else record.startedAt
  now - started < expiry

end SessionRecord

/-! ## The store -/

/-- The sessions by scope and token. -/
abbrev LocalSessions := Table (Prod.fst : (SessionScope × String) × SessionRecord →
  SessionScope × String)

namespace LocalSessions

def get (sessions : LocalSessions) (scope : SessionScope) (token : String) :
    Option SessionRecord :=
  (Table.find sessions (scope, token)).map Prod.snd

/-- `remove_expired`. -/
def removeExpired (sessions : LocalSessions) (expiry now : Nat) : LocalSessions :=
  Table.discard sessions fun row => !row.2.isActive expiry now

/-- Drops what is older than the lifetime of the new session, then stores it under its token. -/
def create (sessions : LocalSessions) (scope : SessionScope) (token : String)
    (record : SessionRecord) (expiry now : Nat) : LocalSessions :=
  Table.upsert (sessions.removeExpired expiry now) ((scope, token), record)

def remove (sessions : LocalSessions) (scope : SessionScope) (token : String) : LocalSessions :=
  Table.erase sessions (scope, token)

variable {sessions : LocalSessions} {record : SessionRecord} {scope : SessionScope}
  {token : String} {expiry now : Nat}

theorem get_eq_some :
    sessions.get scope token = some record ↔ ((scope, token), record) ∈ sessions.rows := by
  rw [get, Option.map_eq_some_iff]
  constructor
  · rintro ⟨row, found, rfl⟩
    obtain ⟨member, same⟩ := Table.mem_of_find found
    rw [← same]
    exact member
  · intro member
    exact ⟨_, Table.find_eq_some.mpr ⟨member, rfl⟩, rfl⟩

theorem get_of_removeExpired
    (found : (sessions.removeExpired expiry now).get scope token = some record) :
    sessions.get scope token = some record := by
  rw [get_eq_some] at found ⊢
  exact List.mem_of_mem_filter found

theorem get_of_remove {gone : SessionScope} {goneToken : String}
    (found : (sessions.remove gone goneToken).get scope token = some record) :
    sessions.get scope token = some record := by
  rw [get_eq_some] at found ⊢
  exact List.mem_of_mem_filter found

/-- What is found after a creation is the new session or was there before. -/
theorem get_of_create {other : SessionScope} {otherToken : String} {found : SessionRecord}
    (known : (sessions.create scope token record expiry now).get other otherToken = some found) :
    (scope = other ∧ token = otherToken ∧ record = found) ∨
      ((scope, token) ≠ (other, otherToken) ∧ sessions.get other otherToken = some found) := by
  rw [get, create, Table.find_upsert] at known
  by_cases same : (scope, token) = (other, otherToken)
  · rw [if_pos same] at known
    cases known
    cases same
    exact .inl ⟨rfl, rfl, rfl⟩
  · rw [if_neg same] at known
    exact .inr ⟨same, get_of_removeExpired known⟩

theorem get_of_create_other {other : SessionScope} (different : scope ≠ other)
    {otherToken : String} {found : SessionRecord}
    (known : (sessions.create scope token record expiry now).get other otherToken = some found) :
    sessions.get other otherToken = some found := by
  rcases get_of_create known with ⟨same, -, -⟩ | ⟨-, before⟩
  · exact absurd same different
  · exact before

end LocalSessions

/-! ## The directory -/

def toMillis (timestamp : Nat) : Nat :=
  if 0 < timestamp ∧ timestamp < 10000000000 then timestamp * 1000 else timestamp

/-- The account of a session that started at `startedAt`: none for an account that is gone or
whose credentials changed after the start. -/
def accountCaller (directory : Accounts) (username : String) (startedAt : Nat) : Option Account :=
  (directory.get username).filter fun entry =>
    toMillis entry.credentialsChangedAt ≤ toMillis startedAt

/-- The caller of an admin session. -/
def caller (directory : Accounts) (session : SessionRecord) : Option Account :=
  accountCaller directory session.subject session.startedAt

def canSee (account : Account) (proxy : ShortId) : Bool := account.proxies.all (proxy ∈ ·)

def canOpen (directory : Accounts) (record : SessionRecord) (proxy : ShortId) : Bool :=
  record.account.any fun account =>
    (accountCaller directory account record.startedAt).any (canSee · proxy)

end R3v3rs3.Auth
