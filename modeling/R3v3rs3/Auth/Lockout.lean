/-
# R3v3rs3.Auth.Lockout -- when a key that nobody uses is refused

The admin API and the sign-in page of a proxy each have a `LoginAttempts`.  Their handlers take a
slot, wait for the check of the credentials, and give the slot back on each way out.  A request
whose client goes away ends at the point where it waits, and its slot stays taken: an entry with a
slot never runs out.

* `Access` lists what one step of a handler can do to the counter and to its own slot;
* `Handler` is a program all of whose steps are such accesses; `adminLogin` and `proxyLogin` are the
  two that exist;
* `lockout_iff`: once the reset time has passed since the last failure of a key with no sign-in under
  way, the key is let in exactly when the slots left behind, with the failures of their window,
  leave room for one more.
-/
import Mathlib.Data.List.MinMax
import R3v3rs3.Auth.CodeGuesses
import R3v3rs3.Auth.LoginSlots

namespace R3v3rs3.Auth.Lockout
open Theory Theory.Threads Api Table
open Theory.Run (exec)
open Auth.SignIn (LoginForm Verification)
open Auth.CodeGuesses (AdminConfig)
set_option autoImplicit false

/-! ## The sign-in page of a proxy -/

namespace ProxyLogin

/-- Sign-ins per address: how many, and since when. -/
abbrev RateLimits := Table (Prod.fst : ClientIp × (Nat × Nat) → ClientIp)

def checkRateLimit (limits : RateLimits) (ip : ClientIp) (now : Nat) : RateLimits × Bool :=
  let limits := limits.discard fun row => decide (2000 ≤ now - row.2.2)
  let limits :=
    if 1024 ≤ limits.rows.length then
      match limits.rows.argmin fun row => row.2.2 with
      | some oldest => limits.erase oldest.1
      | none => limits
    else limits
  let entry := ((limits.find ip).map Prod.snd).getD (0, now)
  if 1000 ≤ now - entry.2 then (limits.upsert (ip, (1, now)), true)
  else if entry.1 < 10 then (limits.upsert (ip, (entry.1 + 1, entry.2)), true)
  else (limits.upsert (ip, entry), false)

inductive Page where
  | badRequest
  | tooManyAttempts
  | invalidCredentials
  | totpRequired (token : Option String)
  | serviceUnavailable
  | signedIn (token : String)

structure Shared where
  now : Nat
  accounts : Accounts
  directory : Accounts
  sessions : LocalSessions
  attempts : LoginAttempts
  banTracker : IpBanTracker
  rateLimits : RateLimits
  answers : List (Nat × Page)
  /-- The failures that were recorded, with their times, and the slots that were left behind.  No
  step looks at them. -/
  failed : List (LoginAttemptKey × Nat)
  dropped : List LoginAttemptKey

/-- Where a sign-in stands. -/
inductive Task where
  /-- The form is read next. -/
  | opened (ip : ClientIp) (host : String) (proxy : ShortId) (form : LoginForm) (login : Bool)
  /-- It holds a slot, and the first credential is checked next. -/
  | verifying (key : LoginAttemptKey) (form : LoginForm) (record : SessionRecord) (proxy : ShortId)
      (login : Bool)
  /-- The password was right, and the code is checked next. -/
  | codeDue (key : LoginAttemptKey) (form : LoginForm) (record : SessionRecord) (proxy : ShortId)
  | completing (record : SessionRecord)
  | challenging (record : SessionRecord)

inductive Call where
  | login (ip : ClientIp) (host : String) (proxy : ShortId) (form : LoginForm)
      (cookie : Option String)
  /-- Time passes. -/
  | wait (duration : Nat)
  | saveAccounts (accounts : Accounts)
  | publish (directory : Accounts)
  | removeSession (scope : SessionScope) (token : String)
  /-- The task that prunes the attempts. -/
  | prune

inductive Input where
  /-- `ok` is what others answer: the form could be read, the check of the credentials runs to its
  end, the session was stored.  A new session takes `token`. -/
  | go (ok : Bool) (token : String)
  /-- The client went away; a check of credentials that was `sent` still runs. -/
  | dropped (sent : Bool)

namespace Shared

def goto (shared : Shared) (task : Task) : Shared × Option Task := (shared, some task)

def finish (shared : Shared) : Shared × Option Task := (shared, none)

def answer (shared : Shared) (p : Nat) (page : Page) : Shared × Option Task :=
  ({ shared with answers := shared.answers ++ [(p, page)] }, none)

section Steps

variable (lib : CredentialLibrary) (config : AdminConfig)

/-- `check_blocked`; a name that cannot be cut ends the request. -/
def checkBlocked (shared : Shared) (p : Nat) (key : LoginAttemptKey) (task : Task) :
    Shared × Option Task :=
  let (rateLimits, allowed) := checkRateLimit shared.rateLimits key.1 shared.now
  let shared := { shared with rateLimits }
  if !allowed then shared.answer p .tooManyAttempts
  else
    let (banTracker, checked) := shared.banTracker.checkBanned key.1 shared.now
    let shared := { shared with banTracker }
    match checked with
    | .error _ => shared.answer p .tooManyAttempts
    | .ok () =>
      match shared.attempts.acquire key config.maxLoginAttempts config.loginAttemptsReset
          shared.now with
      | none => shared.finish
      | some (attempts, false) => { shared with attempts }.answer p .tooManyAttempts
      | some (attempts, true) => { shared with attempts }.goto task

/-- The check of a credential; it changes the accounts alone. -/
def check (shared : Shared) (username : String) (method : LoginMethod) (ok : Bool) :
    Shared × Except Error LoginResponse :=
  let checked := verifyAccount lib shared.now shared.accounts ⟨username, method⟩ ok
  ({ shared with accounts := checked.1 }, checked.2)

def recordFailure (shared : Shared) (p : Nat) (key : LoginAttemptKey) : Shared × Option Task :=
  match shared.attempts.recordFailure key config.maxLoginAttempts config.loginAttemptsReset
      shared.now with
  | none => shared.finish
  | some attempts =>
    let banTracker := shared.banTracker.recordFailure key.1 (max (config.maxLoginAttempts * 2) 5)
      config.loginAttemptsReset (max config.loginAttemptsReset (300 * 1000)) shared.now
    { shared with
      attempts
      banTracker
      failed := (key, shared.now) :: shared.failed }.answer p .invalidCredentials

def clearFailures (shared : Shared) (key : LoginAttemptKey) (record : SessionRecord) :
    Shared × Option Task :=
  match shared.attempts.clear key with
  | none => shared.finish
  | some attempts =>
    { shared with attempts, banTracker := shared.banTracker.clear key.1 }.goto
      (.completing record)

def releaseAttempt (shared : Shared) (key : LoginAttemptKey) (record : SessionRecord) :
    Shared × Option Task :=
  match shared.attempts.release key with
  | none => shared.finish
  | some attempts => { shared with attempts }.goto (.challenging record)

/-- What follows the check, up to the next wait.  An account that does not see the proxy gets the
answer of a wrong password. -/
def conclude (shared : Shared) (p : Nat) (key : LoginAttemptKey) (record : SessionRecord)
    (proxy : ShortId) (verification : Verification) : Shared × Option Task :=
  if canOpen shared.directory record proxy then
    match verification with
    | .success => shared.clearFailures key record
    | .totpRequired => shared.releaseAttempt key record
    | .failed => shared.recordFailure config p key
  else shared.recordFailure config p key

def verifyCode (shared : Shared) (p : Nat) (key : LoginAttemptKey) (form : LoginForm)
    (record : SessionRecord) (proxy : ShortId) (ok : Bool) : Shared × Option Task :=
  match shared.check lib form.username (.totp form.totp) ok with
  | (shared, .ok .success) => shared.conclude config p key record proxy .success
  | (shared, _) => shared.conclude config p key record proxy .failed

/-- `verify`, up to its next wait. -/
def verify (shared : Shared) (p : Nat) (key : LoginAttemptKey) (form : LoginForm)
    (record : SessionRecord) (proxy : ShortId) (login ok : Bool) : Shared × Option Task :=
  if login ∧ form.totp ≠ "" then shared.verifyCode lib config p key form record proxy ok
  else
    match shared.check lib form.username (.password form.password) ok with
    | (shared, .ok .success) => shared.conclude config p key record proxy .success
    | (shared, .ok .totpRequired) =>
      if form.totp = "" then shared.conclude config p key record proxy .totpRequired
      else shared.goto (.codeDue key form record proxy)
    | (shared, .error _) => shared.conclude config p key record proxy .failed

/-- `login`, from one wait to the next. -/
def next (shared : Shared) (p : Nat) (ok : Bool) (token : String) : Task → Shared × Option Task
  | .opened ip host proxy form login =>
    if ok then
      let key := (ip, form.username)
      shared.checkBlocked config p key
        (.verifying key form (.proxy host form.username shared.now) proxy login)
    else shared.answer p .badRequest
  | .verifying key form record proxy login =>
    shared.verify lib config p key form record proxy login ok
  | .codeDue key form record proxy => shared.verifyCode lib config p key form record proxy ok
  | .completing record =>
    if ok then
      { shared with
        sessions := shared.sessions.create .proxy token record (expiry config.sessionExpiry)
          shared.now }.answer p (.signedIn token)
    else shared.answer p .serviceUnavailable
  | .challenging record =>
    if ok then
      { shared with
        sessions := shared.sessions.create .login token record (300 * 1000)
          shared.now }.answer p (.totpRequired (some token))
    else shared.answer p (.totpRequired none)

/-- The credential that a task has checked. -/
def credential (login : Bool) (form : LoginForm) : LoginMethod :=
  if login ∧ form.totp ≠ "" then .totp form.totp else .password form.password

/-- The slot is not given back. -/
def leave (shared : Shared) (key : LoginAttemptKey) : Shared × Option Task :=
  ({ shared with dropped := key :: shared.dropped }, none)

/-- The request ends where it stands; a check that was sent still changes the account. -/
def drop (shared : Shared) (sent : Bool) : Task → Shared × Option Task
  | .verifying key form _ _ login =>
    (shared.check lib form.username (credential login form) sent).1.leave key
  | .codeDue key form _ _ =>
    (shared.check lib form.username (.totp form.totp) sent).1.leave key
  | _ => shared.finish

def advance (p : Nat) (shared : Shared) (task : Task) : Input → Shared × Option Task
  | .go ok token => shared.next lib config p ok token task
  | .dropped sent => shared.drop lib sent task

def begin (shared : Shared) : Call → Shared × Option Task
  | .login ip host proxy form cookie =>
    let login := (cookie.bind fun token => shared.sessions.get .login token).isSome
    shared.goto (.opened ip host proxy form login)
  | .wait duration => { shared with now := shared.now + duration }.finish
  | .saveAccounts accounts => { shared with accounts }.finish
  | .publish directory => { shared with directory }.finish
  | .removeSession scope token =>
    { shared with sessions := shared.sessions.remove scope token }.finish
  | .prune =>
    { shared with
      attempts := shared.attempts.pruneExpired config.loginAttemptsReset shared.now }.finish

end Steps

end Shared

def program (lib : CredentialLibrary) (config : AdminConfig) : Program Shared Task Call Input :=
  ⟨fun _ => Shared.begin config, Shared.advance lib config⟩

/-- The key whose slot a sign-in holds. -/
def Task.slot : Task → Option LoginAttemptKey
  | .opened _ _ _ _ _ => none
  | .verifying key _ _ _ _ => some key
  | .codeDue key _ _ _ => some key
  | .completing _ => none
  | .challenging _ => none

end ProxyLogin

/-- The key whose slot a sign-in of the admin API holds. -/
def adminSlot : CodeGuesses.Task → Option LoginAttemptKey
  | .admitted key _ _ _ => some key
  | .recognized key _ _ _ _ => some key
  | .permitted key _ _ _ _ _ => some key
  | .rejected key _ _ => some key
  | .exhausted key _ _ => some key
  | .failing key _ => some key
  | .succeeded key _ _ _ => some key
  | .cleared key _ _ _ => some key
  | .accepted key _ _ => some key
  | .challenged key _ => some key
  | .opening _ _ _ => none

/-! ## Accesses -/

/-- A counter at a time, with the failures that were recorded and the slots that were left
behind. -/
structure Counter where
  attempts : LoginAttempts
  now : Nat
  failed : List (LoginAttemptKey × Nat)
  dropped : List LoginAttemptKey

/-- What one access does to the counter and to the slot of its task. -/
inductive Access (maxAttempts reset : Nat) (counter : Counter) :
    Option LoginAttemptKey → Counter → Option LoginAttemptKey → Prop where
  | aside {slot : Option LoginAttemptKey} (duration : Nat) :
      Access maxAttempts reset counter slot { counter with now := counter.now + duration } slot
  | acquire {key : LoginAttemptKey} {attempts : LoginAttempts} {granted : Bool}
      (taken : counter.attempts.acquire key maxAttempts reset counter.now =
        some (attempts, granted)) :
      Access maxAttempts reset counter none { counter with attempts }
        (if granted then some key else none)
  | release {key : LoginAttemptKey} {attempts : LoginAttempts}
      (given : counter.attempts.release key = some attempts) :
      Access maxAttempts reset counter (some key) { counter with attempts } none
  | fail {key : LoginAttemptKey} {attempts : LoginAttempts}
      (recorded : counter.attempts.recordFailure key maxAttempts reset counter.now =
        some attempts) :
      Access maxAttempts reset counter (some key)
        { counter with attempts, failed := (key, counter.now) :: counter.failed } none
  | clear {key : LoginAttemptKey} {attempts : LoginAttempts}
      (cleared : counter.attempts.clear key = some attempts) :
      Access maxAttempts reset counter (some key) { counter with attempts } none
  | prune :
      Access maxAttempts reset counter none
        { counter with attempts := counter.attempts.pruneExpired reset counter.now } none
  | drop {key : LoginAttemptKey} :
      Access maxAttempts reset counter (some key)
        { counter with dropped := key :: counter.dropped } none
  /-- A key that cannot be cut has no slot. -/
  | uncut {key : LoginAttemptKey} (long : boundedKey key = none) :
      Access maxAttempts reset counter (some key) counter none

/-- A program whose tasks use one counter, by accesses only. -/
structure Handler where
  Shared : Type
  Task : Type
  Call : Type
  Input : Type
  program : Program Shared Task Call Input
  maxAttempts : Nat
  reset : Nat
  counter : Shared → Counter
  slot : Task → Option LoginAttemptKey
  begins : ∀ p shared call,
    Access maxAttempts reset (counter shared) none (counter (program.begin p shared call).1)
      ((program.begin p shared call).2.bind slot)
  advances : ∀ p shared task input,
    Access maxAttempts reset (counter shared) (slot task)
      (counter (program.advance p shared task input).1)
      ((program.advance p shared task input).2.bind slot)

/-! ## The two handlers -/

section ProxyAccesses

open ProxyLogin

variable (lib : CredentialLibrary) (config : AdminConfig)

def proxyCounter (shared : Shared) : Counter :=
  ⟨shared.attempts, shared.now, shared.failed, shared.dropped⟩

/-- The accesses of the sign-in page, from a state with a task that holds the slot. -/
abbrev ProxyAccess (shared : Shared) (slot : Option LoginAttemptKey)
    (outcome : Shared × Option Task) : Prop :=
  Access config.maxLoginAttempts config.loginAttemptsReset (proxyCounter shared) slot
    (proxyCounter outcome.1) (outcome.2.bind Task.slot)

variable (shared : Shared) (p : Nat) (key : LoginAttemptKey) (form : LoginForm)
  (record : SessionRecord) (proxy : ShortId)

open Shared

theorem access_checkBlocked {task : Task} (holds : task.slot = some key) :
    ProxyAccess config shared none (shared.checkBlocked config p key task) := by
  unfold checkBlocked
  dsimp only
  split
  · exact .aside 0
  · split
    · exact .aside 0
    · split
      · exact .aside 0
      · next taken => exact @Access.acquire _ _ (proxyCounter shared) key _ false taken
      · next taken =>
          have access := @Access.acquire _ _ (proxyCounter shared) key _ true taken
          rw [if_pos rfl, ← holds] at access
          exact access

theorem access_recordFailure :
    ProxyAccess config shared (some key) (shared.recordFailure config p key) := by
  unfold recordFailure
  split
  · next long => exact .uncut (Option.map_eq_none_iff.mp long)
  · next recorded => exact .fail recorded

theorem access_conclude (verification : Verification) :
    ProxyAccess config shared (some key)
      (shared.conclude config p key record proxy verification) := by
  unfold conclude
  split
  · cases verification with
    | success =>
      dsimp only [clearFailures]
      split
      · next long => exact .uncut (Option.map_eq_none_iff.mp long)
      · next cleared => exact .clear cleared
    | totpRequired =>
      dsimp only [releaseAttempt]
      split
      · next long => exact .uncut (Option.map_eq_none_iff.mp long)
      · next given => exact .release given
    | failed => exact access_recordFailure config shared p key
  · exact access_recordFailure config shared p key

theorem access_verifyCode (ok : Bool) :
    ProxyAccess config shared (some key)
      (shared.verifyCode lib config p key form record proxy ok) := by
  unfold verifyCode
  change ProxyAccess config (shared.check lib form.username (.totp form.totp) ok).1 (some key) _
  split <;> rename_i checked <;> rw [checked] <;> exact access_conclude config _ p key record proxy _

theorem access_verify (login ok : Bool) :
    ProxyAccess config shared (some key)
      (shared.verify lib config p key form record proxy login ok) := by
  unfold verify
  split
  · exact access_verifyCode lib config shared p key form record proxy ok
  · change ProxyAccess config (shared.check lib form.username (.password form.password) ok).1
      (some key) _
    split <;> rename_i checked <;> rw [checked]
    · exact access_conclude config _ p key record proxy .success
    · split
      · exact access_conclude config _ p key record proxy .totpRequired
      · exact .aside 0
    · exact access_conclude config _ p key record proxy .failed

theorem access_proxy_advance (p : Nat) (shared : Shared) (task : Task) (input : Input) :
    ProxyAccess config shared task.slot ((program lib config).advance p shared task input) := by
  show ProxyAccess config shared task.slot (shared.advance lib config p task input)
  cases input with
  | go ok token =>
    cases task with
    | opened =>
      dsimp only [advance, next]
      split
      · exact access_checkBlocked config shared p _ rfl
      · exact .aside 0
    | verifying key form record proxy login =>
      exact access_verify lib config shared p key form record proxy login ok
    | codeDue key form record proxy =>
      exact access_verifyCode lib config shared p key form record proxy ok
    | completing | challenging =>
      dsimp only [advance, next]
      split <;> exact .aside 0
  | dropped sent =>
    cases task with
    | verifying | codeDue => exact .drop
    | opened | completing | challenging => exact .aside 0

theorem access_proxy_begin (p : Nat) (shared : Shared) (call : Call) :
    ProxyAccess config shared none ((program lib config).begin p shared call) := by
  show ProxyAccess config shared none (shared.begin config call)
  cases call with
  | wait duration => exact .aside duration
  | prune => exact .prune
  | login | saveAccounts | publish | removeSession => exact .aside 0

def proxyLogin : Handler where
  Shared := Shared
  Task := Task
  Call := Call
  Input := Input
  program := program lib config
  maxAttempts := config.maxLoginAttempts
  reset := config.loginAttemptsReset
  counter := proxyCounter
  slot := Task.slot
  begins := access_proxy_begin lib config
  advances := access_proxy_advance lib config

end ProxyAccesses

section AdminAccesses

open CodeGuesses

variable (lib : CredentialLibrary) (config : AdminConfig)

/-- The admin API with a record of failures and of slots left behind. -/
structure Watched where
  shared : Shared
  failed : List (LoginAttemptKey × Nat)
  dropped : List LoginAttemptKey

def adminCounter (watched : Watched) : Counter :=
  ⟨watched.shared.loginAttempts, watched.shared.now, watched.failed, watched.dropped⟩

/-- The failures after a step of the task: one is recorded by the step after `failing`. -/
def failedAfter (watched : Watched) : Task → List (LoginAttemptKey × Nat)
  | .failing key _ =>
    if (boundedKey key).isSome then (key, watched.shared.now) :: watched.failed
    else watched.failed
  | _ => watched.failed

def watchedProgram : Program Watched Task Call Input where
  begin p watched call :=
    let (shared, next) := (program lib config).begin p watched.shared call
    ({ watched with shared }, next)
  advance p watched task input :=
    let (shared, next) := (program lib config).advance p watched.shared task input
    match input with
    | .go _ _ => ({ watched with shared, failed := failedAfter watched task }, next)
    | .dropped _ =>
      ({ watched with shared, dropped := (adminSlot task).toList ++ watched.dropped }, next)

/-- The accesses of the admin API, with what the record says after them. -/
abbrev AdminAccess (watched : Watched) (slot : Option LoginAttemptKey)
    (outcome : Shared × Option Task)
    (failed : List (LoginAttemptKey × Nat)) (dropped : List LoginAttemptKey) : Prop :=
  Access config.maxLoginAttempts config.loginAttemptsReset (adminCounter watched) slot
    (adminCounter ⟨outcome.1, failed, dropped⟩) (outcome.2.bind adminSlot)

theorem access_admin_begin (p : Nat) (watched : Watched) (call : Call) :
    AdminAccess config watched none ((program lib config).begin p watched.shared call)
      watched.failed watched.dropped := by
  show AdminAccess config watched none (watched.shared.begin config p call) _ _
  cases call with
  | login =>
    dsimp only [Shared.begin, Shared.ensureLoginAllowed]
    split
    · exact .aside 0
    · split
      · exact .aside 0
      · next taken => exact @Access.acquire _ _ (adminCounter watched) _ _ false taken
      · next taken => exact @Access.acquire _ _ (adminCounter watched) _ _ true taken
  | wait duration => exact .aside duration
  | prune => exact .prune
  | saveAccounts | publish | removeSession | removeExpired | unban => exact .aside 0

theorem access_admin_next (p : Nat) (watched : Watched) (task : Task) (ok : Bool)
    (token : String) :
    AdminAccess config watched (adminSlot task) (watched.shared.next lib config p ok token task)
      (failedAfter watched task) watched.dropped := by
  cases task with
  | admitted =>
    dsimp only [Shared.next, Shared.preLogin]
    split
    · split
      · exact .aside 0
      · split <;> exact .aside 0
    · split <;> exact .aside 0
    · exact .aside 0
  | recognized =>
    dsimp only [Shared.next, Shared.accountBlocked]
    split <;> exact .aside 0
  | permitted =>
    dsimp only [Shared.next, Shared.decided]
    split
    · split <;> exact .aside 0
    · split <;> exact .aside 0
    · exact .aside 0
  | rejected =>
    dsimp only [Shared.next, Shared.recordTotpFailure]
    split <;> exact .aside 0
  | exhausted | succeeded | cleared | opening => exact .aside 0
  | failing key err =>
    dsimp only [Shared.next, Shared.recordLoginFailure, failedAfter]
    split
    · next long =>
        have uncut : boundedKey key = none := Option.map_eq_none_iff.mp long
        rw [if_neg (by simp [uncut])]
        exact .uncut uncut
    · next recorded =>
        obtain ⟨cut, known, -⟩ := Option.map_eq_some_iff.mp recorded
        rw [if_pos (by simp [known])]
        exact .fail recorded
  | accepted =>
    dsimp only [Shared.next, Shared.recordSuccessfulLogin]
    split
    · next long => exact .uncut (Option.map_eq_none_iff.mp long)
    · next cleared => exact .clear cleared
  | challenged =>
    dsimp only [Shared.next, Shared.releaseLoginAttempt]
    split
    · next long => exact .uncut (Option.map_eq_none_iff.mp long)
    · next given => exact .release given

theorem drop_counter (shared : Shared) (sent : Bool) (task : Task) :
    (shared.drop lib config sent task).1.loginAttempts = shared.loginAttempts ∧
      (shared.drop lib config sent task).1.now = shared.now ∧
        (shared.drop lib config sent task).2 = none := by
  unfold Shared.drop
  split
  · next key request _ _ _ =>
      split
      · dsimp only
        split <;> exact ⟨rfl, rfl, rfl⟩
      · exact ⟨rfl, rfl, rfl⟩
  · exact ⟨rfl, rfl, rfl⟩
  · exact ⟨rfl, rfl, rfl⟩

/-- A request that ends leaves its slot behind. -/
theorem access_admin_drop (watched : Watched) (sent : Bool) (task : Task) :
    AdminAccess config watched (adminSlot task) (watched.shared.drop lib config sent task)
      watched.failed ((adminSlot task).toList ++ watched.dropped) := by
  obtain ⟨attempts, now, ended⟩ := drop_counter lib config watched.shared sent task
  unfold AdminAccess adminCounter
  rw [attempts, now, ended]
  cases adminSlot task with
  | none => exact .aside 0
  | some => exact .drop

def adminLogin : Handler where
  Shared := Watched
  Task := Task
  Call := Call
  Input := Input
  program := watchedProgram lib config
  maxAttempts := config.maxLoginAttempts
  reset := config.loginAttemptsReset
  counter := adminCounter
  slot := adminSlot
  begins := access_admin_begin lib config
  advances := by
    intro p watched task input
    cases input with
    | dropped sent => exact access_admin_drop lib config watched sent task
    | go ok token => exact access_admin_next lib config p watched task ok token

end AdminAccesses

/-! ## Entries and what explains them -/

section Entries

variable {maxAttempts reset : Nat} {counter after : Counter} {slot next : Option LoginAttemptKey}
  {key cut : LoginAttemptKey}

/-- Whatever an entry holds comes from failures that were recorded. -/
structure Explained (reset : Nat) (counter : Counter) (row : LoginAttemptKey × LoginAttempt) :
    Prop where
  opened : row.2.windowStart ≤ counter.now
  blocked : ∀ deadline ∈ row.2.blockedUntil, ∃ failure ∈ counter.failed,
    boundedKey failure.1 = some row.1 ∧ deadline ≤ failure.2 + reset
  counted : 0 < row.2.failures → ∃ failure ∈ counter.failed,
    boundedKey failure.1 = some row.1 ∧ row.2.windowStart ≤ failure.2

/-- Every entry is explained. -/
def Sound (reset : Nat) (counter : Counter) : Prop :=
  ∀ row ∈ counter.attempts.rows, Explained reset counter row

variable {row : LoginAttemptKey × LoginAttempt}

/-- What was explained stays so while time passes and failures are added. -/
theorem Explained.mono (explained : Explained reset counter row) (later : counter.now ≤ after.now)
    (more : counter.failed ⊆ after.failed) :
    Explained reset after row where
  opened := Nat.le_trans explained.opened later
  blocked deadline here :=
    have ⟨failure, listed, rest⟩ := explained.blocked deadline here
    ⟨failure, more listed, rest⟩
  counted some :=
    have ⟨failure, listed, rest⟩ := explained.counted some
    ⟨failure, more listed, rest⟩

theorem mem_makeRoom {attempts : LoginAttempts} {now : Nat}
    (member : row ∈ (attempts.makeRoom reset now).rows) : row ∈ attempts.rows := by
  unfold LoginAttempts.makeRoom at member
  dsimp only at member
  split at member
  · have pruned : row ∈ (attempts.pruneExpired reset now).rows := by
      split at member
      · unfold LoginAttempts.pruneOldest at member
        split at member
        · exact (mem_erase.mp member).1
        · exact member
      · exact member
    exact (List.mem_filter.mp pruned).1
  · exact member

variable {change : LoginAttempt → LoginAttempt}

/-- The rows after one entry was changed, wherever room had to be made. -/
theorem mem_modifyAttempt {attempts : LoginAttempts} {now : Nat}
    (member : row ∈ (attempts.modifyAttempt key reset now change).rows) :
    row = (key, change (attempts.current key reset now)) ∨ (row ∈ attempts.rows ∧ row.1 ≠ key) := by
  unfold LoginAttempts.modifyAttempt at member
  unfold LoginAttempts.current
  split at member
  · rcases mem_upsert.mp member with old | rfl
    · exact .inr old
    · exact .inl rfl
  · rcases mem_upsert.mp member with ⟨old, other⟩ | rfl
    · exact .inr ⟨mem_makeRoom old, other⟩
    · exact .inl rfl

/-- A change of one entry keeps the others explained. -/
theorem Sound.modify {failed : List (LoginAttemptKey × Nat)} (sound : Sound reset counter)
    (more : counter.failed ⊆ failed)
    (changed : ∀ attempt, Explained reset counter (key, attempt) →
      Explained reset { counter with failed } (key, change attempt)) :
    Sound reset
      { counter with
        attempts := counter.attempts.modifyAttempt key reset counter.now change
        failed } := by
  intro row member
  rcases mem_modifyAttempt member with rfl | ⟨old, -⟩
  · have current : Explained reset counter (key, counter.attempts.current key reset counter.now) := by
      refine LoginSlots.current_induct (P := fun attempt => Explained reset counter (key, attempt))
        ⟨Nat.le_refl _, by simp [LoginAttempt.new], by simp [LoginAttempt.new]⟩ ?_
      rintro row known rfl
      exact sound row known
    obtain ⟨opened, blocked, counted⟩ := changed _ current
    exact ⟨opened, blocked, counted⟩
  · exact (sound row old).mono (Nat.le_refl _) more

/-- Every access keeps the entries explained. -/
theorem Access.sound (access : Access maxAttempts reset counter slot after next)
    (sound : Sound reset counter) : Sound reset after := by
  cases access with
  | aside =>
    exact fun row member => (sound row member).mono (Nat.le_add_right _ _) (List.Subset.refl _)
  | @acquire key attempts granted taken =>
    obtain ⟨cut, -, result⟩ := Option.map_eq_some_iff.mp taken
    dsimp only at result
    split at result <;> cases result
    · exact sound.modify (List.Subset.refl _) fun _ explained => explained
    · exact sound.modify (List.Subset.refl _) fun _ explained =>
        ⟨explained.opened, explained.blocked, explained.counted⟩
  | @release key attempts given =>
    obtain ⟨cut, -, result⟩ := Option.map_eq_some_iff.mp given
    cases found : Table.find counter.attempts cut with
    | none =>
      rw [found] at result
      cases result
      exact sound
    | some entry =>
      rw [found] at result
      cases result
      obtain ⟨known, rfl⟩ := mem_of_find found
      intro row member
      rcases mem_upsert.mp member with ⟨old, -⟩ | rfl
      · exact (sound row old).mono (Nat.le_refl _) (List.Subset.refl _)
      · obtain ⟨opened, blocked, counted⟩ := sound entry known
        exact ⟨opened, blocked, counted⟩
  | @fail key attempts recorded =>
    obtain ⟨cut, known, result⟩ := Option.map_eq_some_iff.mp recorded
    cases result
    refine sound.modify (List.subset_cons_self _ _) ?_
    intro attempt explained
    refine ⟨explained.opened, fun deadline here => ?_, fun _ => ?_⟩
    · dsimp only [LoginAttempt.fail] at here
      split at here
      · cases here
        exact ⟨_, List.mem_cons_self, known, Nat.le_refl _⟩
      · obtain ⟨failure, listed, rest⟩ := explained.blocked deadline here
        exact ⟨failure, List.mem_cons_of_mem _ listed, rest⟩
    · exact ⟨_, List.mem_cons_self, known, explained.opened⟩
  | @clear key attempts cleared =>
    obtain ⟨cut, -, result⟩ := Option.map_eq_some_iff.mp cleared
    cases result
    exact fun row member => (sound row (mem_erase.mp member).1).mono (Nat.le_refl _)
      (List.Subset.refl _)
  | prune =>
    exact fun row member => (sound row (List.mem_filter.mp member).1).mono (Nat.le_refl _)
      (List.Subset.refl _)
  | drop =>
    exact fun row member => (sound row member).mono (Nat.le_refl _) (List.Subset.refl _)
  | uncut => exact sound

section Passed

variable {row : LoginAttemptKey × LoginAttempt} (explained : Explained reset counter row)
  (passed : ∀ failure ∈ counter.failed, boundedKey failure.1 = some row.1 →
    failure.2 + reset ≤ counter.now)
include explained passed

theorem Explained.not_blocked : row.2.isBlocked counter.now = false := by
  unfold LoginAttempt.isBlocked
  cases limit : row.2.blockedUntil with
  | none => rfl
  | some deadline =>
    obtain ⟨failure, listed, same, early⟩ := explained.blocked deadline limit
    have before := passed failure listed same
    simp only [Option.any_some, decide_eq_false_iff_not]
    omega

/-- An entry without slots that still counts is in a window without failures. -/
theorem Explained.failures_eq_zero (idle : row.2.inFlight = 0)
    (active : row.2.isActive reset counter.now = true) : row.2.failures = 0 := by
  have unblocked := explained.not_blocked passed
  unfold LoginAttempt.isActive at active
  rw [if_neg (by omega)] at active
  cases limit : row.2.blockedUntil with
  | some =>
    rw [LoginAttempt.isBlocked, limit] at unblocked
    simp_all
  | none =>
    rw [limit] at active
    have inside : counter.now - row.2.windowStart < reset := by simpa using active
    by_contra some
    obtain ⟨failure, listed, same, started⟩ := explained.counted (Nat.pos_of_ne_zero some)
    have before := passed failure listed same
    omega

end Passed

/-- The answer of `acquire`, for an entry that is not blocked. -/
theorem acquire_granted_iff (known : boundedKey key = some cut)
    (unblocked : (counter.attempts.current cut reset counter.now).isBlocked counter.now = false) :
    (counter.attempts.acquire key maxAttempts reset counter.now).map Prod.snd = some true ↔
      (counter.attempts.current cut reset counter.now).failures +
        (counter.attempts.current cut reset counter.now).inFlight < max 1 maxAttempts := by
  rw [LoginAttempts.acquire, known, Option.map_some, Option.map_some, Option.some.injEq]
  dsimp only
  split
  · next refused =>
      rcases refused with blocked | full
      · rw [unblocked] at blocked
        cases blocked
      · exact ⟨fun none => absurd none Bool.false_ne_true, fun room => by omega⟩
  · next free => exact ⟨fun _ => Nat.not_le.mp fun full => free (.inr full), fun _ => rfl⟩

/-- Once the reset time has passed since the last failure of the key, only slots count. -/
theorem Sound.granted_iff (sound : Sound reset counter) (known : boundedKey key = some cut)
    (passed : ∀ failure ∈ counter.failed, boundedKey failure.1 = some cut →
      failure.2 + reset ≤ counter.now) :
    (counter.attempts.acquire key maxAttempts reset counter.now).map Prod.snd = some true ↔
      ∀ row, Table.find counter.attempts cut = some row →
        row.2.inFlight = 0 ∨ row.2.failures + row.2.inFlight < max 1 maxAttempts := by
  have fresh : (LoginAttempt.new counter.now).isBlocked counter.now = false := rfl
  have least : 0 < max 1 maxAttempts := Nat.lt_of_lt_of_le Nat.zero_lt_one (Nat.le_max_left _ _)
  cases found : Table.find counter.attempts cut with
  | none =>
    have here : counter.attempts.current cut reset counter.now = .new counter.now := by
      rw [LoginAttempts.current, found]
    rw [acquire_granted_iff known (by rw [here]; exact fresh), here]
    exact ⟨fun _ row none => (by cases none), fun _ => least⟩
  | some row =>
    obtain ⟨member, rfl⟩ := mem_of_find found
    have explained := sound row member
    have here : counter.attempts.current row.1 reset counter.now =
        if row.2.isActive reset counter.now then row.2 else .new counter.now := by
      rw [LoginAttempts.current, found]
    have unblocked :
        (counter.attempts.current row.1 reset counter.now).isBlocked counter.now = false := by
      rw [here]
      split
      · exact explained.not_blocked passed
      · exact fresh
    have only : (∀ other, some row = some other → other.2.inFlight = 0 ∨
          other.2.failures + other.2.inFlight < max 1 maxAttempts) ↔
        (row.2.inFlight = 0 ∨ row.2.failures + row.2.inFlight < max 1 maxAttempts) :=
      ⟨fun all => all row rfl, fun this other same => Option.some.inj same ▸ this⟩
    rw [acquire_granted_iff known unblocked, here, only]
    by_cases idle : row.2.inFlight = 0
    · refine ⟨fun _ => .inl idle, fun _ => ?_⟩
      split
      · next active => rw [explained.failures_eq_zero passed idle active, idle]; exact least
      · exact least
    · have active : row.2.isActive reset counter.now = true := by
        rw [LoginAttempt.isActive, if_pos (Nat.pos_of_ne_zero idle)]
      rw [if_pos active]
      exact ⟨.inr, fun this => this.resolve_left idle⟩

/-! ## Slots -/

/-- The slots that the entry of a key counts. -/
def counted (attempts : LoginAttempts) (key : LoginAttemptKey) : Nat :=
  (Table.find attempts key).elim 0 fun row => row.2.inFlight

/-- The slot of a key, if the task holds it. -/
def slotAt (slot : Option LoginAttemptKey) (cut : LoginAttemptKey) : Bool :=
  slot.any fun key => boundedKey key = some cut

/-- The slots of a key in a list. -/
def taken (held : List LoginAttemptKey) (cut : LoginAttemptKey) : Nat :=
  held.countP fun key => slotAt (some key) cut

variable {attempts left : LoginAttempts} {key name : LoginAttemptKey} {now : Nat}

theorem toNat_slotAt (known : boundedKey key = some name) (cut : LoginAttemptKey) :
    (slotAt (some key) cut).toNat = if name = cut then 1 else 0 := by
  by_cases same : name = cut <;> simp [slotAt, known, same]

theorem taken_cons (key : LoginAttemptKey) (held : List LoginAttemptKey) (cut : LoginAttemptKey) :
    taken (key :: held) cut = taken held cut + (slotAt (some key) cut).toNat := by
  rw [taken, List.countP_cons, taken]
  cases slotAt (some key) cut <;> rfl

/-- An entry starts anew only when it counts no slots. -/
theorem inFlight_current (attempts : LoginAttempts) (key : LoginAttemptKey) (reset now : Nat) :
    (attempts.current key reset now).inFlight = counted attempts key := by
  unfold LoginAttempts.current counted
  cases Table.find attempts key with
  | none => rfl
  | some row =>
    show (if row.2.isActive reset now then row.2 else .new now).inFlight = row.2.inFlight
    split
    · rfl
    · next inactive =>
        unfold LoginAttempt.isActive at inactive
        split at inactive
        · exact absurd rfl inactive
        · next idle => exact (Nat.eq_zero_of_not_pos idle).symm

theorem counted_modify_le (attempts : LoginAttempts) (key : LoginAttemptKey) (reset now : Nat)
    (change : LoginAttempt → LoginAttempt) (cut : LoginAttemptKey) :
    counted (attempts.modifyAttempt key reset now change) cut ≤
      if key = cut then (change (attempts.current key reset now)).inFlight
      else counted attempts cut := by
  unfold counted
  cases found : Table.find (attempts.modifyAttempt key reset now change) cut with
  | none => exact Nat.zero_le _
  | some =>
    obtain ⟨member, rfl⟩ := mem_of_find found
    rcases mem_modifyAttempt member with rfl | ⟨old, other⟩
    · rw [if_pos rfl, Option.elim_some]
    · rw [if_neg (Ne.symm other), find_eq_some.mpr ⟨old, rfl⟩]

theorem counted_acquire_le {granted : Bool}
    (got : attempts.acquire key maxAttempts reset now = some (left, granted))
    (cut : LoginAttemptKey) :
    counted left cut ≤
      counted attempts cut + (slotAt (if granted then some key else none) cut).toNat := by
  obtain ⟨name, known, result⟩ := Option.map_eq_some_iff.mp got
  have current := inFlight_current attempts name reset now
  dsimp only at result
  split at result <;> cases result
  · refine Nat.le_trans (counted_modify_le attempts name reset now id cut)
      (Nat.le_trans ?_ (Nat.le_add_right _ _))
    split
    · next same => rw [id, current, same]
    · exact Nat.le_refl _
  · refine Nat.le_trans (counted_modify_le attempts name reset now _ cut) ?_
    rw [if_pos rfl, toNat_slotAt known]
    split
    · next same =>
        rw [current, same]
    · exact Nat.le_refl _

theorem counted_recordFailure_le
    (recorded : attempts.recordFailure key maxAttempts reset now = some left)
    (cut : LoginAttemptKey) :
    counted left cut ≤ counted attempts cut - (slotAt (some key) cut).toNat := by
  obtain ⟨name, known, result⟩ := Option.map_eq_some_iff.mp recorded
  cases result
  refine Nat.le_trans (counted_modify_le attempts name reset now _ cut) ?_
  rw [toNat_slotAt known]
  split
  · next same =>
      dsimp only [LoginAttempt.fail]
      rw [inFlight_current, same]
  · exact Nat.le_refl _

theorem counted_release_le (given : attempts.release key = some left) (cut : LoginAttemptKey) :
    counted left cut ≤ counted attempts cut - (slotAt (some key) cut).toNat := by
  obtain ⟨name, known, result⟩ := Option.map_eq_some_iff.mp given
  rw [toNat_slotAt known]
  cases found : Table.find attempts name with
  | none =>
    rw [found] at result
    cases result
    dsimp only
    split
    · next same => simp [counted, ← same, found]
    · exact Nat.le_refl _
  | some =>
    rw [found] at result
    cases result
    rw [counted, find_upsert]
    split
    · next same => simp [counted, ← same, found]
    · exact Nat.le_refl _

theorem counted_clear_le (cleared : attempts.clear key = some left) (cut : LoginAttemptKey) :
    counted left cut ≤ counted attempts cut - (slotAt (some key) cut).toNat := by
  obtain ⟨name, known, result⟩ := Option.map_eq_some_iff.mp cleared
  cases result
  rw [toNat_slotAt known, counted, find_erase]
  split
  · exact Nat.zero_le _
  · exact Nat.le_refl _

theorem counted_pruneExpired_le (attempts : LoginAttempts) (reset now : Nat)
    (cut : LoginAttemptKey) :
    counted (attempts.pruneExpired reset now) cut ≤ counted attempts cut := by
  rw [counted, LoginAttempts.pruneExpired, find_discard, counted]
  cases Table.find attempts cut with
  | none => exact Nat.le_refl _
  | some =>
    rw [Option.filter_some]
    split
    · exact Nat.le_refl _
    · exact Nat.zero_le _

/-- The slots that the entry of a key counts are held or were left behind: an access counts no more
than it takes. -/
theorem Access.counted_le (access : Access maxAttempts reset counter slot after next)
    (cut : LoginAttemptKey) {others : Nat}
    (bound : counted counter.attempts cut ≤
      others + (slotAt slot cut).toNat + taken counter.dropped cut) :
    counted after.attempts cut ≤ others + (slotAt next cut).toNat + taken after.dropped cut := by
  have free : (slotAt none cut).toNat = 0 := rfl
  cases access with
  | aside => exact bound
  | acquire got =>
    have fewer := counted_acquire_le got cut
    dsimp only
    omega
  | release given =>
    have fewer := counted_release_le given cut
    dsimp only
    omega
  | fail recorded =>
    have fewer := counted_recordFailure_le recorded cut
    dsimp only
    omega
  | clear cleared =>
    have fewer := counted_clear_le cleared cut
    dsimp only
    omega
  | prune => exact Nat.le_trans (counted_pruneExpired_le _ _ _ _) bound
  | @drop key =>
    have more := taken_cons key counter.dropped cut
    dsimp only
    omega
  | @uncut key long =>
    have nothing : (slotAt (some key) cut).toNat = 0 := by simp [slotAt, long]
    omega

end Entries

/-! ## Runs of a handler -/

namespace Handler

variable (handler : Handler)

abbrev State := System handler.Shared handler.Task

/-- The sign-in holds a slot of the key. -/
def holds (cut : LoginAttemptKey) (task : handler.Task) : Bool := slotAt (handler.slot task) cut

/-- The entries are explained, and count slots that are held or were left behind. -/
structure Inv (state : handler.State) : Prop where
  sound : Sound handler.reset (handler.counter state.shared)
  slots : ∀ cut, counted (handler.counter state.shared).attempts cut ≤
    state.tally (handler.holds cut) + taken (handler.counter state.shared).dropped cut

variable {handler}

theorem any_holds (task : Option handler.Task) (cut : LoginAttemptKey) :
    task.any (handler.holds cut) = slotAt (task.bind handler.slot) cut := by
  cases task <;> rfl

theorem Inv.step {state : handler.State} (inv : handler.Inv state)
    (event : Event handler.Call handler.Input) : handler.Inv (handler.program.step state event) := by
  rcases handler.program.step_cases state event with
    same | ⟨p, call, rfl, fresh, same⟩ | ⟨p, input, task, rfl, member, same⟩
  · rwa [same]
  · have access := handler.begins p state.shared call
    rw [same]
    refine ⟨access.sound inv.sound, fun cut => ?_⟩
    rw [System.tally_settle_fresh fresh, any_holds]
    exact access.counted_le cut (inv.slots cut)
  · have access := handler.advances p state.shared task input
    rw [same]
    refine ⟨access.sound inv.sound, fun cut => ?_⟩
    -- the other tasks hold what they held
    have after := System.tally_settle state p (handler.program.advance p state.shared task input)
      (handler.holds cut)
    have balance := System.tally_settle_mem member
      (handler.program.advance p state.shared task input) (handler.holds cut)
    have before := inv.slots cut
    have own : (handler.holds cut task).toNat = (slotAt (handler.slot task) cut).toNat := rfl
    rw [after, any_holds]
    exact access.counted_le cut (by omega)

theorem Inv.exec {state : handler.State} (inv : handler.Inv state)
    (events : List (Event handler.Call handler.Input)) :
    handler.Inv (exec handler.program.step state events) := by
  induction events generalizing state with
  | nil => exact inv
  | cons event rest ih => exact ih (inv.step event)

variable (handler)

/-- No sign-in holds a slot of the key. -/
def Idle (state : handler.State) (key : LoginAttemptKey) : Prop :=
  ∀ row ∈ state.tasks.rows, ∀ other ∈ handler.slot row.2, boundedKey other ≠ boundedKey key

/-- The reset time has passed since the last failure of the key. -/
def Passed (state : handler.State) (key : LoginAttemptKey) : Prop :=
  ∀ failure ∈ (handler.counter state.shared).failed, boundedKey failure.1 = boundedKey key →
    failure.2 + handler.reset ≤ (handler.counter state.shared).now

/-- `acquire` returns true. -/
def LetsIn (state : handler.State) (key : LoginAttemptKey) : Prop :=
  ((handler.counter state.shared).attempts.acquire key handler.maxAttempts handler.reset
    (handler.counter state.shared).now).map Prod.snd = some true

/-- The slots that the entry of the key still counts, with the failures of its window, leave room
for one more. -/
def HasRoom (state : handler.State) (key : LoginAttemptKey) : Prop :=
  ∃ cut, boundedKey key = some cut ∧
    ∀ row, Table.find (handler.counter state.shared).attempts cut = some row →
      row.2.inFlight = 0 ∨ row.2.failures + row.2.inFlight < max 1 handler.maxAttempts

/-- No sign-in of the key was dropped while it held a slot. -/
def Undropped (state : handler.State) (key : LoginAttemptKey) : Prop :=
  ∀ other ∈ (handler.counter state.shared).dropped, boundedKey other ≠ boundedKey key

variable {handler} {state : handler.State} {key : LoginAttemptKey}

theorem Inv.letsIn_iff (inv : handler.Inv state) (passed : handler.Passed state key) :
    handler.LetsIn state key ↔ handler.HasRoom state key := by
  unfold LetsIn HasRoom
  cases known : boundedKey key with
  | none => simp [LoginAttempts.acquire, known]
  | some cut =>
    unfold Passed at passed
    rw [known] at passed
    rw [inv.sound.granted_iff known passed]
    constructor
    · exact fun room => ⟨cut, rfl, room⟩
    · rintro ⟨name, same, room⟩
      cases same
      exact room

/-- An entry of a key that nobody uses counts slots that were left behind. -/
theorem Inv.hasRoom_of_undropped (inv : handler.Inv state) (idle : handler.Idle state key)
    (undropped : handler.Undropped state key) (known : (boundedKey key).isSome) :
    handler.HasRoom state key := by
  obtain ⟨cut, same⟩ := Option.isSome_iff_exists.mp known
  unfold Idle at idle
  unfold Undropped at undropped
  rw [same] at idle undropped
  have held : state.tally (handler.holds cut) = 0 := by
    rw [System.tally, List.countP_eq_zero]
    intro row member
    cases slot : handler.slot row.2 with
    | none => simp [holds, slotAt, slot]
    | some other => simpa [holds, slotAt, slot] using idle row member other slot
  have left : taken (handler.counter state.shared).dropped cut = 0 := by
    rw [taken, List.countP_eq_zero]
    exact fun other member => by simpa [slotAt] using undropped other member
  have slots := inv.slots cut
  rw [held, left] at slots
  refine ⟨cut, same, fun row found => .inl ?_⟩
  rw [counted, found] at slots
  exact Nat.le_zero.mp slots

end Handler

/-- In every run of either handler: a key that nobody uses, and whose last failure is past, is let in
exactly when the slots left behind leave room; and where no sign-in of the key was dropped while it
held a slot it is always let in, unless its name cannot be cut. -/
theorem lockout_iff (lib : CredentialLibrary) (admin proxy : AdminConfig) :
    ∀ handler ∈ [adminLogin lib admin, proxyLogin lib proxy], ∀ (start : handler.Shared)
      (events : List (Event handler.Call handler.Input)) (key : LoginAttemptKey),
      (handler.counter start).attempts = .empty →
      handler.Idle (exec handler.program.step (.start start) events) key →
      handler.Passed (exec handler.program.step (.start start) events) key →
        (handler.LetsIn (exec handler.program.step (.start start) events) key ↔
          handler.HasRoom (exec handler.program.step (.start start) events) key) ∧
        (handler.Undropped (exec handler.program.step (.start start) events) key →
          (handler.LetsIn (exec handler.program.step (.start start) events) key ↔
            (boundedKey key).isSome)) := by
  intro handler _ start events key empty idle passed
  have first : handler.Inv (.start start) := by
    refine ⟨fun row member => ?_, fun cut => ?_⟩
    · have none : row ∈ (Table.empty : LoginAttempts).rows := empty ▸ member
      cases none
    · show counted (handler.counter start).attempts cut ≤ _
      rw [empty]
      exact Nat.zero_le _
  have inv := first.exec events
  have exact' := inv.letsIn_iff passed
  refine ⟨exact', fun undropped => ⟨fun letIn => ?_, fun known => ?_⟩⟩
  · obtain ⟨cut, known, -⟩ := exact'.mp letIn
    rw [known]
    rfl
  · exact exact'.mpr (inv.hasRoom_of_undropped idle undropped known)

/-! ## A client that goes away -/

section Leaks

open CodeGuesses (client oneAttempt startTime)

/-- The admin API with no sign-in yet. -/
def quietStart : Watched :=
  ⟨⟨startTime, twoAccounts, twoAccounts, .empty, .empty, .empty, .empty, [], .empty⟩, [], []⟩

/-- A client sends a password and goes away; a day passes. -/
def goesAway : List (Event CodeGuesses.Call CodeGuesses.Input) :=
  [.begin 0 (.login (client 0) (client 0) ⟨"alice", .password "alice-password"⟩ none),
    .advance 0 (.dropped false), .begin 1 (.wait 86400000)]

def afterwards (config : AdminConfig) : (adminLogin plainLibrary config).State :=
  exec (adminLogin plainLibrary config).program.step (.start quietStart) goesAway

/-- With two attempts allowed the slot leaves room. -/
theorem second_attempt_let_in :
    (adminLogin plainLibrary ⟨2, 60000, 0⟩).LetsIn (afterwards ⟨2, 60000, 0⟩)
      (client 0, "alice") := by
  have all := lockout_iff plainLibrary ⟨2, 60000, 0⟩ oneAttempt
    (adminLogin plainLibrary ⟨2, 60000, 0⟩) List.mem_cons_self quietStart goesAway
    (client 0, "alice") rfl
  refine (all ?idle ?passed).1.mpr ⟨(client 0, "alice"), rfl, fun row found => .inr ?_⟩
  · intro row member
    have none : row ∈ ([] : List (Nat × CodeGuesses.Task)) := member
    cases none
  · intro failure member
    have none : failure ∈ ([] : List (LoginAttemptKey × Nat)) := member
    cases none
  · have entry : row = ((client 0, "alice"), ⟨0, 1, startTime, none⟩) := (Option.some.inj found).symm
    rw [entry]
    decide

/-- With one attempt allowed the key is refused, a day after the client went away, though no sign-in
is under way and no failure was recorded. -/
theorem gone_client_locked_out :
    (afterwards oneAttempt).tasks.rows = [] ∧ (afterwards oneAttempt).shared.failed = [] ∧
      ¬ (adminLogin plainLibrary oneAttempt).LetsIn (afterwards oneAttempt) (client 0, "alice") := by
  refine ⟨rfl, rfl, fun letIn => ?_⟩
  have refused : some false = some true := letIn
  cases refused

end Leaks

end R3v3rs3.Auth.Lockout
