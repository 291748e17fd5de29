/-
# R3v3rs3.Auth.CodeGuesses -- how many TOTP codes of an account are rejected

A sign-in with a TOTP code asks whether the account is blocked, has the code checked, and counts
the code when it was rejected.  These are accesses of their own, and any number of sign-ins, from
any addresses and with any `login` sessions, may stand between them.

The state also keeps, for each account, the window in which codes were rejected and how many were:
a window starts with the first rejected code after the last window ended, and a sign-in that
succeeds ends it.  `Bounded` says that no window holds more than `max_login_attempts` codes, and
`rejected_codes_are_bounded` when it is true: a code is let through while the failures that count
and the codes of the account that are under way leave room for it, a rejected code is counted into
an entry that has not run out, and no sign-in is dropped before it counts its code.
-/
import R3v3rs3.Auth.Attempts
import R3v3rs3.Auth.SignIn
import R3v3rs3.Theory.Threads

namespace R3v3rs3.Auth.CodeGuesses
open Theory Theory.Threads Api TotpAttempts
open Auth.SignIn (resolveLoginUsername)
open Theory.Run (exec Guarded Throughout)
set_option autoImplicit false

/-- The settings of the admin API; durations are milliseconds. -/
structure AdminConfig where
  maxLoginAttempts : Nat
  loginAttemptsReset : Nat
  sessionExpiry : Nat

/-! ## Windows of rejected codes -/

structure Window where
  start : Nat
  count : Nat

def Window.isOpen (window : Window) (reset now : Nat) : Bool := now < window.start + reset

/-- The last window of each account. -/
abbrev Windows := Table (Prod.fst : String × Window → String)

namespace Windows

def window (windows : Windows) (username : String) : Option Window :=
  (Table.find windows username).map Prod.snd

/-- The window after one more rejected code. -/
def following (windows : Windows) (username : String) (reset now : Nat) : Window :=
  match windows.window username with
  | some window => if window.isOpen reset now then { window with count := window.count + 1 }
      else ⟨now, 1⟩
  | none => ⟨now, 1⟩

def log (windows : Windows) (username : String) (reset now : Nat) : Windows :=
  Table.upsert windows (username, windows.following username reset now)

/-- The codes of the account that were rejected in the window that is open now. -/
def count (windows : Windows) (username : String) (reset now : Nat) : Nat :=
  ((windows.window username).filter (·.isOpen reset now)).elim 0 Window.count

theorem window_log (windows : Windows) (username other : String) (reset now : Nat) :
    (windows.log username reset now).window other =
      if username = other then some (windows.following username reset now)
      else windows.window other := by
  rw [window, log, Table.find_upsert, apply_ite (Option.map Prod.snd)]
  rfl

theorem window_erase (windows : Windows) (username other : String) :
    Windows.window (windows.erase username) other =
      if username = other then none else windows.window other := by
  rw [window, Table.find_erase, apply_ite (Option.map Prod.snd)]
  rfl

end Windows

/-! ## Sign-ins -/

structure Shared where
  now : Nat
  accounts : Accounts
  directory : Accounts
  sessions : LocalSessions
  loginAttempts : LoginAttempts
  banTracker : IpBanTracker
  totpAttempts : TotpAttempts
  answers : List (Nat × Except Error LoginResponse)
  /-- The rejected codes.  No step looks at it. -/
  windows : Windows

/-- Where a sign-in stands.  The key holds its canonical address and its user name; `ip` is the
address as it was resolved. -/
inductive Task where
  /-- It holds a slot of `login_attempts`. -/
  | admitted (key : LoginAttemptKey) (ip : ClientIp) (request : LoginRequest)
      (cookie : Option String)
  /-- The cookie names a `login` session of the account. -/
  | recognized (key : LoginAttemptKey) (ip : ClientIp) (request : LoginRequest) (token : String)
      (record : SessionRecord)
  /-- The credentials are checked next. -/
  | permitted (key : LoginAttemptKey) (ip : ClientIp) (request : LoginRequest)
      (cookie : Option String) (loginRecord : Option SessionRecord) (start : SessionRecord)
  /-- The code was rejected, and is not counted yet. -/
  | rejected (key : LoginAttemptKey) (token : String) (err : Error)
  /-- The `login` session has no attempt left. -/
  | exhausted (key : LoginAttemptKey) (token : String) (err : Error)
  | failing (key : LoginAttemptKey) (err : Error)
  | succeeded (key : LoginAttemptKey) (ip : ClientIp) (token : String) (record : SessionRecord)
  | cleared (key : LoginAttemptKey) (ip : ClientIp) (token : String) (record : SessionRecord)
  | accepted (key : LoginAttemptKey) (ip : ClientIp) (record : SessionRecord)
  | challenged (key : LoginAttemptKey) (start : SessionRecord)
  | opening (scope : SessionScope) (record : SessionRecord) (response : LoginResponse)

inductive Call where
  /-- `canonical` is the canonical form of `ip`. -/
  | login (ip canonical : ClientIp) (request : LoginRequest) (cookie : Option String)
  /-- Time passes. -/
  | wait (duration : Nat)
  | saveAccounts (accounts : Accounts)
  | publish (directory : Accounts)
  | removeSession (scope : SessionScope) (token : String)
  | removeExpired
  /-- The task that prunes `login_attempts`. -/
  | prune
  | unban (ip : ClientIp)

inductive Input where
  /-- `ok` is what others answer: the challenge of the passkey is known, the check of the
  credentials runs to its end.  A new session takes `token`. -/
  | go (ok : Bool) (token : String)
  /-- The client went away; a check of credentials that was `sent` still runs. -/
  | dropped (sent : Bool)

def isTotp : LoginMethod → Bool
  | .totp _ => true
  | _ => false

namespace Shared

def goto (shared : Shared) (task : Task) : Shared × Option Task := (shared, some task)

def answer (shared : Shared) (p : Nat) (result : Except Error LoginResponse) :
    Shared × Option Task :=
  ({ shared with answers := shared.answers ++ [(p, result)] }, none)

def finish (shared : Shared) : Shared × Option Task := (shared, none)

section Steps

variable (lib : CredentialLibrary) (config : AdminConfig)

/-- `ensure_login_allowed`; a name that cannot be cut ends the request. -/
def ensureLoginAllowed (shared : Shared) (p : Nat) (request : LoginRequest) (key : LoginAttemptKey)
    (ip : ClientIp) (cookie : Option String) : Shared × Option Task :=
  let (banTracker, checked) := shared.banTracker.checkBanned key.1 shared.now
  let shared := { shared with banTracker }
  match checked with
  | .error err => shared.answer p (.error err)
  | .ok () =>
    match shared.loginAttempts.acquire key config.maxLoginAttempts config.loginAttemptsReset
        shared.now with
    | none => shared.finish
    | some (loginAttempts, false) =>
      { shared with loginAttempts }.answer p (.error .tooManyLoginAttempts)
    | some (loginAttempts, true) =>
      { shared with loginAttempts }.goto (.admitted key ip request cookie)

def verifyLoginSession (shared : Shared) (token username : String) : Option SessionRecord :=
  (shared.sessions.get .login token).filter fun record =>
    record.isActive (expiry config.sessionExpiry) shared.now && record.subject = username &&
      (caller shared.directory record).isSome

/-- `verify_pre_login_conditions` up to the question whether the account is blocked. -/
def preLogin (shared : Shared) (key : LoginAttemptKey) (ip : ClientIp) (request : LoginRequest)
    (cookie : Option String) (ok : Bool) : Shared × Option Task :=
  match request.method with
  | .totp _ =>
    match cookie with
    | none => shared.goto (.failing key .invalidLoginCredentials)
    | some token =>
      match shared.verifyLoginSession config token key.2 with
      | none => shared.goto (.failing key .invalidLoginCredentials)
      | some record => shared.goto (.recognized key ip request token record)
  | .passkey _ _ =>
    if ok then shared.goto (.permitted key ip request cookie none (.new key.2 shared.now))
    else shared.goto (.failing key .invalidLoginCredentials)
  | .password _ => shared.goto (.permitted key ip request cookie none (.new key.2 shared.now))

def accountBlocked (shared : Shared) (key : LoginAttemptKey) (ip : ClientIp)
    (request : LoginRequest) (token : String) (record : SessionRecord) : Shared × Option Task :=
  let (totpAttempts, blocked) :=
    shared.totpAttempts.isAccountBlocked key.2 config.loginAttemptsReset shared.now
  let shared := { shared with totpAttempts }
  if blocked then shared.goto (.failing key .tooManyLoginAttempts)
  else shared.goto (.permitted key ip request (some token) (some record) (.new key.2 shared.now))

def decided (shared : Shared) (key : LoginAttemptKey) (ip : ClientIp) (request : LoginRequest)
    (cookie : Option String) (loginRecord : Option SessionRecord) (start : SessionRecord) :
    Except Error LoginResponse → Shared × Option Task
  | .error err =>
    match isTotp request.method, cookie with
    | true, some token => shared.goto (.rejected key token err)
    | _, _ => shared.goto (.failing key err)
  | .ok .success =>
    match cookie with
    | some token => shared.goto (.succeeded key ip token (loginRecord.getD start))
    | none => shared.goto (.accepted key ip (loginRecord.getD start))
  | .ok .totpRequired => shared.goto (.challenged key start)

/-- A rejected code enters its window. -/
def logRejection (shared : Shared) (username : String) : Shared :=
  { shared with windows := shared.windows.log username config.loginAttemptsReset shared.now }

def recordTotpFailure (shared : Shared) (key : LoginAttemptKey) (token : String) (err : Error) :
    Shared × Option Task :=
  let (totpAttempts, exhausted) :=
    shared.totpAttempts.recordFailure token key.2 config.maxLoginAttempts
      config.loginAttemptsReset shared.now
  let shared := { shared.logRejection config key.2 with totpAttempts }
  if exhausted then shared.goto (.exhausted key token err) else shared.goto (.failing key err)

def recordLoginFailure (shared : Shared) (p : Nat) (key : LoginAttemptKey) (err : Error) :
    Shared × Option Task :=
  match shared.loginAttempts.recordFailure key config.maxLoginAttempts config.loginAttemptsReset
      shared.now with
  | none => shared.finish
  | some loginAttempts =>
    let banTracker := shared.banTracker.recordFailure key.1 (max (config.maxLoginAttempts * 2) 5)
      config.loginAttemptsReset (max config.loginAttemptsReset (300 * 1000)) shared.now
    { shared with loginAttempts, banTracker }.answer p (.error err)

/-- `record_successful_login`.  The failures of an address are counted under its canonical form, and
cleared under the form that was resolved. -/
def recordSuccessfulLogin (shared : Shared) (key : LoginAttemptKey) (ip : ClientIp)
    (record : SessionRecord) : Shared × Option Task :=
  match shared.loginAttempts.clear key with
  | none => shared.finish
  | some loginAttempts =>
    { shared with loginAttempts, banTracker := shared.banTracker.clear ip }.goto
      (.opening .admin record .success)

def releaseLoginAttempt (shared : Shared) (key : LoginAttemptKey) (start : SessionRecord) :
    Shared × Option Task :=
  match shared.loginAttempts.release key with
  | none => shared.finish
  | some loginAttempts =>
    { shared with loginAttempts }.goto (.opening .login start .totpRequired)

/-- `login`, from one access to the next. -/
def next (shared : Shared) (p : Nat) (ok : Bool) (token : String) : Task → Shared × Option Task
  | .admitted key ip request cookie => shared.preLogin config key ip request cookie ok
  | .recognized key ip request login record =>
    shared.accountBlocked config key ip request login record
  | .permitted key ip request cookie loginRecord start =>
    let checked := verifyAccount lib shared.now shared.accounts request ok
    { shared with accounts := checked.1 }.decided key ip request cookie loginRecord start checked.2
  | .rejected key login err => shared.recordTotpFailure config key login err
  | .exhausted key login err =>
    { shared with sessions := shared.sessions.remove .login login }.goto (.failing key err)
  | .failing key err => shared.recordLoginFailure config p key err
  | .succeeded key ip login record =>
    { shared with
      totpAttempts := shared.totpAttempts.clear login key.2
      windows := shared.windows.erase key.2 }.goto (.cleared key ip login record)
  | .cleared key ip login record =>
    { shared with sessions := shared.sessions.remove .login login }.goto (.accepted key ip record)
  | .accepted key ip record => shared.recordSuccessfulLogin key ip record
  | .challenged key start => shared.releaseLoginAttempt key start
  | .opening scope record response =>
    { shared with
      sessions := shared.sessions.create scope token record (expiry config.sessionExpiry)
        shared.now }.answer p (.ok response)

/-- The request ends where it stands.  A code that was rejected, or is rejected after all, is not
counted. -/
def drop (shared : Shared) (sent : Bool) : Task → Shared × Option Task
  | .permitted key _ request _ _ _ =>
    if sent then
      let checked := verifyAccount lib shared.now shared.accounts request true
      let shared := { shared with accounts := checked.1 }
      match isTotp request.method, checked.2 with
      | true, .error _ => (shared.logRejection config key.2).finish
      | _, _ => shared.finish
    else shared.finish
  | .rejected key _ _ => (shared.logRejection config key.2).finish
  | _ => shared.finish

def advance (p : Nat) (shared : Shared) (task : Task) : Input → Shared × Option Task
  | .go ok token => shared.next lib config p ok token task
  | .dropped sent => shared.drop lib config sent task

def begin (p : Nat) (shared : Shared) : Call → Shared × Option Task
  | .login ip canonical request cookie =>
    let request := resolveLoginUsername shared.directory request
    shared.ensureLoginAllowed config p request (canonical, request.username) ip cookie
  | .wait duration => { shared with now := shared.now + duration }.finish
  | .saveAccounts accounts => { shared with accounts }.finish
  | .publish directory => { shared with directory }.finish
  | .removeSession scope token =>
    { shared with sessions := shared.sessions.remove scope token }.finish
  | .removeExpired =>
    { shared with
      sessions := shared.sessions.removeExpired (expiry config.sessionExpiry) shared.now }.finish
  | .prune =>
    { shared with
      loginAttempts := shared.loginAttempts.pruneExpired config.loginAttemptsReset
        shared.now }.finish
  | .unban ip => { shared with banTracker := shared.banTracker.clear ip }.finish

end Steps

end Shared

def program (lib : CredentialLibrary) (config : AdminConfig) : Program Shared Task Call Input :=
  ⟨Shared.begin config, Shared.advance lib config⟩

abbrev State := System Shared Task

/-! ## The bound, and when it holds -/

/-- The code of the account was rejected and is not counted yet. -/
def Task.isRejected (username : String) : Task → Bool
  | .rejected key _ _ => key.2 = username
  | _ => false

/-- A code of the account was let through and is not counted yet. -/
def Task.isUnderWay (username : String) : Task → Bool
  | .permitted key _ request _ _ _ => isTotp request.method && key.2 = username
  | .rejected key _ _ => key.2 = username
  | _ => false

def AdminConfig.limit (config : AdminConfig) : Nat := max 1 config.maxLoginAttempts

section Bound

variable (config : AdminConfig)

/-- In no account the codes that were rejected in the open window, those not counted yet included,
are more than `max(1, max_login_attempts)`. -/
def Bounded (state : State) : Prop :=
  ∀ username, state.shared.windows.count username config.loginAttemptsReset state.shared.now +
    state.tally (Task.isRejected username) ≤ config.limit

/-- What the next step of a sign-in has to find. -/
def Calm (state : State) : Task → Input → Prop
  -- there is room for one more code, or the account is blocked
  | .recognized key _ _ _ _, .go _ _ =>
    (state.shared.totpAttempts.isAccountBlocked key.2 config.loginAttemptsReset
        state.shared.now).2 = true ∨
      state.shared.totpAttempts.failures key.2 config.loginAttemptsReset state.shared.now +
        state.tally (Task.isUnderWay key.2) < config.limit
  -- the entry that counts the code has not run out
  | .rejected key _ _, .go _ _ =>
    ∀ attempt ∈ state.shared.totpAttempts.entry key.2,
      attempt.isActive config.loginAttemptsReset state.shared.now = true
  | .permitted _ _ request _ _ _, .dropped sent => sent = true → isTotp request.method = false
  | .rejected _ _ _, .dropped _ => False
  | _, _ => True

instance (state : State) (task : Task) (input : Input) :
    Decidable (Calm config state task input) := by
  unfold Calm
  split <;> infer_instance

def Undisturbed (state : State) : Event Call Input → Prop
  | .advance p input => ∀ slot ∈ state.tasks.find p, Calm config state slot.2 input
  | .begin _ _ => True

instance (state : State) (event : Event Call Input) : Decidable (Undisturbed config state event) := by
  unfold Undisturbed
  split <;> infer_instance

/-! ## The invariant -/

/-- How the entry of an account and its window belong together. -/
structure Recorded (attempts : TotpAttempts) (windows : Windows) (now : Nat) (username : String) :
    Prop where
  idle : ∀ attempt ∈ attempts.entry username, attempt.inFlight = 0 ∧ attempt.windowStart ≤ now
  blocked : ∀ attempt ∈ attempts.entry username, attempt.blockedUntil ≠ none →
    config.limit ≤ attempt.failures
  unblocked : ∀ attempt ∈ attempts.entry username, attempt.blockedUntil = none →
    ∃ window ∈ windows.window username, window.start = attempt.windowStart
  started : ∀ window ∈ windows.window username, window.start ≤ now
  covered : ∀ window ∈ windows.window username,
    window.isOpen config.loginAttemptsReset now = true →
      ∃ attempt ∈ attempts.entry username, window.count ≤ attempt.failures ∧
        window.start + config.loginAttemptsReset ≤ attempt.deadline config.loginAttemptsReset

structure Inv (state : State) : Prop where
  recorded : ∀ username, Recorded config state.shared.totpAttempts state.shared.windows
    state.shared.now username
  room : ∀ username,
    state.shared.totpAttempts.failures username config.loginAttemptsReset state.shared.now +
      state.tally (Task.isUnderWay username) ≤ config.limit

end Bound

section Entries

variable {config : AdminConfig} {attempts : TotpAttempts} {windows : Windows} {now : Nat}
  {username : String}

section Recorded

variable (recorded : Recorded config attempts windows now username)
include recorded

/-- The entry that covers an open window is active. -/
theorem Recorded.active {window : Window} (known : window ∈ windows.window username)
    (isOpen : window.isOpen config.loginAttemptsReset now = true) :
    ∃ attempt ∈ attempts.entry username, window.count ≤ attempt.failures ∧
      window.start + config.loginAttemptsReset ≤ attempt.deadline config.loginAttemptsReset ∧
        attempt.isActive config.loginAttemptsReset now = true := by
  obtain ⟨attempt, here, counted, lasts⟩ := recorded.covered window known isOpen
  obtain ⟨idle, opened⟩ := recorded.idle attempt here
  refine ⟨attempt, here, counted, lasts, ?_⟩
  rw [LoginAttempt.isActive_iff idle opened]
  have early : now < window.start + config.loginAttemptsReset := by
    simpa [Window.isOpen] using isOpen
  omega

theorem Recorded.count_le :
    windows.count username config.loginAttemptsReset now ≤
      attempts.failures username config.loginAttemptsReset now := by
  rw [Windows.count]
  cases known : windows.window username with
  | none => simp
  | some window =>
    by_cases isOpen : window.isOpen config.loginAttemptsReset now = true
    · obtain ⟨attempt, here, counted, -, active⟩ := recorded.active known isOpen
      rw [Option.mem_def] at here
      simpa [isOpen, TotpAttempts.failures, here, active, Option.filter_some] using counted
    · simp [isOpen, Option.filter_some]

theorem Recorded.of_same {after : TotpAttempts} {others : Windows}
    (entry : after.entry username = attempts.entry username)
    (window : others.window username = windows.window username) :
    Recorded config after others now username := by
  obtain ⟨idle, blocked, unblocked, started, covered⟩ := recorded
  constructor <;> simp only [entry, window] <;> assumption

/-! ### Time, and entries that run out -/

theorem Recorded.later {after : Nat} (later : now ≤ after) :
    Recorded config attempts windows after username where
  idle attempt here :=
    have ⟨idle, opened⟩ := recorded.idle attempt here
    ⟨idle, Nat.le_trans opened later⟩
  blocked := recorded.blocked
  unblocked := recorded.unblocked
  started window known := Nat.le_trans (recorded.started window known) later
  covered window known isOpen := by
    apply recorded.covered window known
    simp only [Window.isOpen, decide_eq_true_eq] at isOpen ⊢
    omega

theorem Recorded.failures_later {after : Nat} (later : now ≤ after) :
    attempts.failures username config.loginAttemptsReset after ≤
      attempts.failures username config.loginAttemptsReset now := by
  rw [TotpAttempts.failures, TotpAttempts.failures]
  cases here : attempts.entry username with
  | none => simp
  | some attempt =>
    obtain ⟨idle, opened⟩ := recorded.idle attempt here
    by_cases active : attempt.isActive config.loginAttemptsReset after = true
    · have before : attempt.isActive config.loginAttemptsReset now = true := by
        rw [LoginAttempt.isActive_iff idle (Nat.le_trans opened later)] at active
        rw [LoginAttempt.isActive_iff idle opened]
        omega
      simp [Option.filter_some, active, before]
    · simp [Option.filter_some, active]

theorem Recorded.retainActive :
    Recorded config (attempts.retainActive config.loginAttemptsReset now) windows now username := by
  have kept : ∀ attempt, attempt ∈
      (attempts.retainActive config.loginAttemptsReset now).entry username ↔
        attempt ∈ attempts.entry username ∧
          attempt.isActive config.loginAttemptsReset now = true := by
    intro attempt
    rw [entry_retainActive, Option.mem_def, Option.filter_eq_some_iff, Option.mem_def]
  refine ⟨?_, ?_, ?_, recorded.started, ?_⟩
  · exact fun attempt here => recorded.idle attempt ((kept attempt).mp here).1
  · exact fun attempt here => recorded.blocked attempt ((kept attempt).mp here).1
  · exact fun attempt here => recorded.unblocked attempt ((kept attempt).mp here).1
  · intro window known isOpen
    obtain ⟨attempt, here, counted, lasts, active⟩ := recorded.active known isOpen
    exact ⟨attempt, (kept attempt).mpr ⟨here, active⟩, counted, lasts⟩

omit recorded in
theorem failures_retainActive (attempts : TotpAttempts) (username : String) (reset now : Nat) :
    (attempts.retainActive reset now).failures username reset now =
      attempts.failures username reset now := by
  rw [TotpAttempts.failures, TotpAttempts.failures, entry_retainActive]
  simp

/-! ### A rejected code is counted -/

theorem Recorded.idle_getD :
    ((attempts.entry username).getD (.new now)).inFlight = 0 ∧
      ((attempts.entry username).getD (.new now)).windowStart ≤ now := by
  cases here : attempts.entry username with
  | none => simp [LoginAttempt.new]
  | some entry => exact recorded.idle entry here

/-- An entry below the limit is not blocked. -/
theorem Recorded.unblocked_getD
    (below : ((attempts.entry username).getD (.new now)).failures < config.limit) :
    ((attempts.entry username).getD (.new now)).blockedUntil = none := by
  cases here : attempts.entry username with
  | none => rfl
  | some entry =>
    by_contra blocked
    have filled := recorded.blocked entry here blocked
    simp only [here, Option.getD_some] at below
    omega

variable (active : ∀ attempt ∈ attempts.entry username,
  attempt.isActive config.loginAttemptsReset now = true)
include active

/-- The window of the next rejected code, against the entry that counts it. -/
theorem Recorded.following :
    let window := windows.following username config.loginAttemptsReset now
    let attempt := (attempts.entry username).getD (.new now)
    window.start ≤ now ∧ window.count ≤ attempt.failures + 1 ∧
      (attempt.blockedUntil = none → window.start = attempt.windowStart) := by
  intro window attempt
  cases here : attempts.entry username with
  | none =>
    -- no window is open without an entry
    have fresh : window = ⟨now, 1⟩ := by
      simp only [window, Windows.following]
      cases known : windows.window username with
      | none => rfl
      | some old =>
        dsimp only
        rw [if_neg]
        intro isOpen
        obtain ⟨entry, impossible, -⟩ := recorded.covered old known isOpen
        simp [here] at impossible
    simp [fresh, attempt, here, LoginAttempt.new]
  | some entry =>
    have same : attempt = entry := by simp [attempt, here]
    rw [same]
    obtain ⟨idle, opened⟩ := recorded.idle entry here
    have lasts := (LoginAttempt.isActive_iff idle opened).mp (active entry here)
    cases known : windows.window username with
    | none =>
      have fresh : window = ⟨now, 1⟩ := by simp [window, Windows.following, known]
      refine ⟨by simp [fresh], by simp [fresh], fun unblocked => ?_⟩
      obtain ⟨old, impossible, -⟩ := recorded.unblocked entry here unblocked
      simp [known] at impossible
    | some old =>
      have before := recorded.started old known
      by_cases isOpen : old.isOpen config.loginAttemptsReset now = true
      · have grown : window = { old with count := old.count + 1 } := by
          simp [window, Windows.following, known, isOpen]
        obtain ⟨other, there, counted, -⟩ := recorded.covered old known isOpen
        cases here.symm.trans there
        refine ⟨by simpa [grown] using before, by simpa [grown] using counted, ?_⟩
        intro unblocked
        obtain ⟨other, there, start⟩ := recorded.unblocked entry here unblocked
        cases known.symm.trans there
        simpa [grown] using start
      · have fresh : window = ⟨now, 1⟩ := by simp [window, Windows.following, known, isOpen]
        refine ⟨by simp [fresh], by simp [fresh], fun unblocked => ?_⟩
        -- an entry that is not blocked ends with its window
        obtain ⟨other, there, start⟩ := recorded.unblocked entry here unblocked
        cases known.symm.trans there
        simp only [Window.isOpen, decide_eq_true_eq, start] at isOpen
        simp only [LoginAttempt.deadline, unblocked, Option.getD_none] at lasts
        omega

theorem Recorded.fail (token : String) :
    Recorded config
      (attempts.recordFailure token username config.maxLoginAttempts config.loginAttemptsReset
        now).1
      (windows.log username config.loginAttemptsReset now) now username := by
  obtain ⟨before, counted, start⟩ := recorded.following active
  have idle := recorded.idle_getD
  have unblocked := recorded.unblocked_getD
  have entry := entry_recordFailure attempts token username username
    config.maxLoginAttempts config.loginAttemptsReset now
  have window := Windows.window_log windows username username config.loginAttemptsReset now
  rw [if_pos rfl] at entry window
  generalize had : (attempts.entry username).getD (.new now) = attempt at *
  have limit : config.limit = max 1 config.maxLoginAttempts := rfl
  by_cases filled : config.limit ≤ attempt.failures + 1
  · -- the failure blocks the account for a whole window from now
    rw [LoginAttempt.fail, if_pos (limit ▸ filled)] at entry
    constructor <;> simp only [entry, window, Option.mem_some_iff, forall_eq', exists_eq_left']
    · exact idle
    · exact fun _ => filled
    · simp
    · exact before
    · intro _
      simp only [LoginAttempt.deadline, Option.getD_some]
      omega
  · have still := unblocked (by omega)
    rw [LoginAttempt.fail, if_neg (limit ▸ filled), still] at entry
    constructor <;> simp only [entry, window, Option.mem_some_iff, forall_eq', exists_eq_left']
    · exact idle
    · simp
    · exact fun _ => start still
    · exact before
    · intro _
      simp only [LoginAttempt.deadline, Option.getD_none]
      exact ⟨counted, Nat.le_of_eq (by rw [start still])⟩

omit recorded in
theorem failures_fail (token : String) :
    (attempts.recordFailure token username config.maxLoginAttempts config.loginAttemptsReset
        now).1.failures username config.loginAttemptsReset now ≤
      attempts.failures username config.loginAttemptsReset now + 1 := by
  rw [TotpAttempts.failures, entry_recordFailure, if_pos rfl, TotpAttempts.failures]
  cases here : attempts.entry username with
  | none =>
    rw [Option.filter_some]
    split <;> simp [LoginAttempt.fail, LoginAttempt.new]
  | some attempt =>
    rw [Option.filter_some, Option.filter_some, if_pos (active attempt here)]
    split <;> simp [LoginAttempt.fail]

end Recorded

/-! ### A success ends the window -/

theorem Recorded.clear (config : AdminConfig) (attempts : TotpAttempts) (windows : Windows)
    (now : Nat) (token username : String) :
    Recorded config (attempts.clear token username) (windows.erase username) now username := by
  constructor <;> simp [entry_clear, Windows.window_erase]

theorem failures_of_same {attempts after : TotpAttempts} {username : String}
    (entry : after.entry username = attempts.entry username) (reset now : Nat) :
    after.failures username reset now = attempts.failures username reset now := by
  rw [TotpAttempts.failures, entry, TotpAttempts.failures]

end Entries

/-! ## Preservation -/

section Preservation

variable {lib : CredentialLibrary} {config : AdminConfig} {state : State} {p : Nat} {task : Task}
  {outcome : Shared × Option Task} {key : LoginAttemptKey} {ip : ClientIp} {token : String}

variable (inv : Inv config state)
include inv

theorem Inv.bounded : Bounded config state := by
  intro username
  have counted := (inv.recorded username).count_le
  have fewer : state.tally (Task.isRejected username) ≤ state.tally (Task.isUnderWay username) := by
    apply System.tally_le
    intro task rejected
    cases task with
    | rejected => exact rejected
    | admitted | recognized | permitted | exhausted | failing | succeeded | cleared | accepted
    | challenged | opening => cases rejected
  have room := inv.room username
  omega

/-- The access leaves the time, the counters of the codes and the windows alone. -/
structure Quiet (old new : Shared) : Prop where
  now : new.now = old.now
  totpAttempts : new.totpAttempts = old.totpAttempts
  windows : new.windows = old.windows

omit inv in
/-- What an access owes: entries and windows that belong together, and room for the codes that are
under way when the task has moved on. -/
theorem Inv.settle (member : (p, task) ∈ state.tasks.rows)
    (recorded : ∀ username, Recorded config outcome.1.totpAttempts outcome.1.windows outcome.1.now
      username) (room : ∀ username,
      outcome.1.totpAttempts.failures username config.loginAttemptsReset outcome.1.now +
          state.tally (Task.isUnderWay username) +
          (outcome.2.any (Task.isUnderWay username)).toNat ≤
        config.limit + (task.isUnderWay username).toNat) : Inv config (state.settle p outcome) := by
  refine ⟨recorded, fun username => ?_⟩
  have moved := System.tally_settle_mem member outcome (Task.isUnderWay username)
  have fits := room username
  rw [System.settle_shared]
  omega

theorem Inv.quiet (member : (p, task) ∈ state.tasks.rows) (quiet : Quiet state.shared outcome.1)
    (fewer : ∀ username, (outcome.2.any (Task.isUnderWay username)).toNat ≤
      (task.isUnderWay username).toNat) : Inv config (state.settle p outcome) := by
  apply Inv.settle member <;> intro username <;> rw [quiet.now, quiet.totpAttempts]
  · rw [quiet.windows]
    exact inv.recorded username
  · have less := fewer username
    have room := inv.room username
    omega

/-- The next task carries no code. -/
theorem Inv.aside (member : (p, task) ∈ state.tasks.rows) (quiet : Quiet state.shared outcome.1)
    (none : ∀ username, outcome.2.any (Task.isUnderWay username) = false) :
    Inv config (state.settle p outcome) :=
  inv.quiet member quiet fun username => by simp [none username]

open Shared

theorem inv_preLogin {request : LoginRequest} {cookie : Option String}
    (member : (p, .admitted key ip request cookie) ∈ state.tasks.rows) (ok : Bool) :
    Inv config (state.settle p (state.shared.preLogin config key ip request cookie ok)) := by
  unfold preLogin
  split
  · split
    · exact inv.aside member ⟨rfl, rfl, rfl⟩ fun username => rfl
    · split <;> exact inv.aside member ⟨rfl, rfl, rfl⟩ fun username => rfl
  · rename_i method
    split <;> exact inv.aside member ⟨rfl, rfl, rfl⟩ fun username => by
      simp [goto, Task.isUnderWay, method, isTotp]
  · rename_i method
    exact inv.aside member ⟨rfl, rfl, rfl⟩ fun username => by
      simp [goto, Task.isUnderWay, method, isTotp]

theorem inv_accountBlocked {request : LoginRequest} {record : SessionRecord} {ok : Bool}
    {fresh : String} (member : (p, .recognized key ip request token record) ∈ state.tasks.rows)
    (calm : Calm config state (.recognized key ip request token record) (.go ok fresh)) :
    Inv config (state.settle p (state.shared.accountBlocked config key ip request token record)) := by
  unfold accountBlocked
  dsimp only [Calm, TotpAttempts.isAccountBlocked] at calm ⊢
  have recorded := fun username => (inv.recorded username).retainActive
  split
  · refine Inv.settle member recorded fun username => ?_
    have room := inv.room username
    simpa [goto, failures_retainActive, Task.isUnderWay] using room
  · rename_i unblocked
    have free := calm.resolve_left unblocked
    refine Inv.settle member recorded fun username => ?_
    have room := inv.room username
    simp only [goto, failures_retainActive, Option.any_some, Task.isUnderWay,
      Bool.toNat_false]
    by_cases same : key.2 = username
    · subst same
      have one := Bool.toNat_le (isTotp request.method && decide (key.2 = key.2))
      omega
    · simpa [same] using room

/-- An access that touches the entry and the window of one account only, and leaves no code under
way. -/
theorem Inv.touch {username : String} (member : (p, task) ∈ state.tasks.rows)
    (now : outcome.1.now = state.shared.now)
    (entries : ∀ other ≠ username,
      outcome.1.totpAttempts.entry other = state.shared.totpAttempts.entry other ∧
        outcome.1.windows.window other = state.shared.windows.window other)
    (recorded : Recorded config outcome.1.totpAttempts outcome.1.windows state.shared.now username)
    (fewer : outcome.1.totpAttempts.failures username config.loginAttemptsReset state.shared.now ≤
      state.shared.totpAttempts.failures username config.loginAttemptsReset state.shared.now +
        (task.isUnderWay username).toNat)
    (none : ∀ username, outcome.2.any (Task.isUnderWay username) = false) :
    Inv config (state.settle p outcome) := by
  apply Inv.settle member <;> intro other <;> rw [now] <;> by_cases same : other = username
  · exact same ▸ recorded
  · exact (inv.recorded other).of_same (entries other same).1 (entries other same).2
  · have room := inv.room username
    rw [same, none, Bool.toNat_false]
    omega
  · have room := inv.room other
    rw [none, failures_of_same (entries other same).1, Bool.toNat_false]
    omega

theorem inv_recordTotpFailure {err : Error}
    (member : (p, .rejected key token err) ∈ state.tasks.rows)
    (active : ∀ attempt ∈ state.shared.totpAttempts.entry key.2,
      attempt.isActive config.loginAttemptsReset state.shared.now = true) :
    Inv config (state.settle p (state.shared.recordTotpFailure config key token err)) := by
  have recorded := (inv.recorded key.2).fail active token
  -- the code leaves the way when it is counted
  have leaves : ((Task.rejected key token err).isUnderWay key.2).toNat = 1 := by
    simp [Task.isUnderWay]
  have once := failures_fail active token
  rw [← leaves] at once
  unfold recordTotpFailure
  dsimp only
  split <;> refine inv.touch member rfl (fun other away => ?_) recorded once fun _ => rfl
  all_goals exact ⟨(entry_recordFailure ..).trans (if_neg away.symm),
    (Windows.window_log ..).trans (if_neg away.symm)⟩

theorem inv_succeeded {record : SessionRecord}
    (member : (p, .succeeded key ip token record) ∈ state.tasks.rows) :
    Inv config (state.settle p (goto { state.shared with
      totpAttempts := state.shared.totpAttempts.clear token key.2
      windows := state.shared.windows.erase key.2 } (.cleared key ip token record))) := by
  refine inv.touch member rfl (fun other away => ?_) (Recorded.clear config _ _ _ token key.2) ?_
    fun _ => rfl
  · exact ⟨(entry_clear ..).trans (if_neg away.symm),
      (Windows.window_erase ..).trans (if_neg away.symm)⟩
  · simp [goto, TotpAttempts.failures, entry_clear]

/-- Every access of a sign-in keeps the invariant. -/
theorem Inv.advance (member : (p, task) ∈ state.tasks.rows) {input : Input}
    (calm : Calm config state task input) :
    Inv config (state.settle p (state.shared.advance lib config p task input)) := by
  cases input with
  | go ok token =>
    simp only [Shared.advance]
    cases task with
    | admitted => exact inv_preLogin inv member ok
    | recognized => exact inv_accountBlocked inv member calm
    | permitted key ip request cookie loginRecord start =>
      -- a code is still under way when it was rejected, and is not when it was accepted
      simp only [Shared.next, Shared.decided]
      split
      · split
        · rename_i second
          exact inv.quiet member ⟨rfl, rfl, rfl⟩ fun username => by
            simp [Shared.goto, Task.isUnderWay, second]
        · exact inv.quiet member ⟨rfl, rfl, rfl⟩ fun username => by
            simp [Shared.goto, Task.isUnderWay]
      · split <;> exact inv.quiet member ⟨rfl, rfl, rfl⟩ fun username => by
          simp [Shared.goto, Task.isUnderWay]
      · exact inv.quiet member ⟨rfl, rfl, rfl⟩ fun username => by
          simp [Shared.goto, Task.isUnderWay]
    | rejected => exact inv_recordTotpFailure inv member calm
    | exhausted | cleared | opening =>
      exact inv.aside member ⟨rfl, rfl, rfl⟩ fun username => rfl
    | succeeded => exact inv_succeeded inv member
    | failing | accepted | challenged =>
      simp only [Shared.next, Shared.recordLoginFailure, Shared.recordSuccessfulLogin,
        Shared.releaseLoginAttempt]
      split <;> exact inv.aside member ⟨rfl, rfl, rfl⟩ fun username => rfl
  | dropped =>
    simp only [Shared.advance]
    cases task with
    | permitted key ip request cookie loginRecord start =>
      simp only [Shared.drop]
      split
      · rename_i still
        have other := calm still
        simp only [other]
        exact inv.aside member ⟨rfl, rfl, rfl⟩ fun username => rfl
      · exact inv.aside member ⟨rfl, rfl, rfl⟩ fun username => rfl
    | rejected => exact calm.elim
    | admitted | recognized | exhausted | failing | succeeded | cleared | accepted | challenged
    | opening => exact inv.aside member ⟨rfl, rfl, rfl⟩ fun username => rfl

theorem Inv.fresh (fresh : ∀ task, (p, task) ∉ state.tasks.rows)
    (quiet : Quiet state.shared outcome.1)
    (none : ∀ username, outcome.2.any (Task.isUnderWay username) = false) :
    Inv config (state.settle p outcome) := by
  refine ⟨?_, ?_⟩ <;> intro username <;> rw [System.settle_shared, quiet.now, quiet.totpAttempts]
  · rw [quiet.windows]
    exact inv.recorded username
  · rw [System.tally_settle_fresh fresh, none username]
    exact inv.room username

theorem Inv.begin (fresh : ∀ task, (p, task) ∉ state.tasks.rows) (call : Call) :
    Inv config (state.settle p (state.shared.begin config p call)) := by
  cases call with
  | login =>
    simp only [Shared.begin, Shared.ensureLoginAllowed]
    split
    · exact inv.fresh fresh ⟨rfl, rfl, rfl⟩ fun username => rfl
    · split <;> exact inv.fresh fresh ⟨rfl, rfl, rfl⟩ fun username => rfl
  | wait duration =>
    have later : state.shared.now ≤ state.shared.now + duration := Nat.le_add_right _ _
    refine ⟨fun username => (inv.recorded username).later later, fun username => ?_⟩
    rw [System.tally_settle_fresh fresh]
    exact Nat.le_trans (Nat.add_le_add_right ((inv.recorded username).failures_later later) _)
      (inv.room username)
  | saveAccounts | publish | removeSession | removeExpired | prune | unban =>
    exact inv.fresh fresh ⟨rfl, rfl, rfl⟩ fun username => rfl

theorem Inv.step {event : Event Call Input} (calm : Undisturbed config state event) :
    Inv config ((program lib config).step state event) := by
  rcases (program lib config).step_cases state event with
    same | ⟨p, call, rfl, fresh, same⟩ | ⟨p, input, task, rfl, member, same⟩
  · rwa [same]
  · rw [same]
    exact inv.begin fresh call
  · rw [same]
    exact inv.advance member (calm (p, task) (Table.find_eq_some.mpr ⟨member, rfl⟩))

end Preservation

/-! ## Every run -/

/-- No sign-in was made yet. -/
def start (accounts : Accounts) (now : Nat) : State :=
  System.start ⟨now, accounts, accounts, .empty, .empty, .empty, .empty, [], .empty⟩

theorem inv_start (config : AdminConfig) (accounts : Accounts) (now : Nat) :
    Inv config (start accounts now) := by
  refine ⟨fun username => ?_, fun username => ?_⟩
  · constructor <;> intro attempt here <;> cases here
  · exact Nat.zero_le _

/-- **Rejected codes are bounded.**  In every run in which a code is let through only while there
is room for it, a rejected code is counted into an entry that has not run out, and no sign-in is
dropped between the check of its code and the count, no window of an account holds more rejected
codes than `max(1, max_login_attempts)`. -/
theorem rejected_codes_are_bounded {lib : CredentialLibrary} {config : AdminConfig}
    {accounts : Accounts} {now : Nat} {events : List (Event Call Input)}
    (undisturbed : Guarded (program lib config).step (Undisturbed config) (start accounts now)
      events) :
    Throughout (program lib config).step (Bounded config) (start accounts now) events :=
  Guarded.throughout (fun _ _ inv calm => inv.step calm) (fun _ inv => inv.bounded)
    (inv_start config accounts now) undisturbed

/-! ## Codes that are checked at once -/

section AtOnce

def oneAttempt : AdminConfig := ⟨1, 60000, 0⟩

def startTime : Nat := 20000000000

def client (n : Nat) : ClientIp := ⟨n, false⟩

/-- Alice's password from an address; the `login` session gets the token. -/
def password (p : Nat) (token : String) : List (Event Call Input) :=
  .begin p (.login (client p) (client p) ⟨"alice", .password "alice-password"⟩ none) ::
    List.replicate 4 (.advance p (.go true token))

/-- A code of alice is sent, up to the check. -/
def sends (p : Nat) (token code : String) : List (Event Call Input) :=
  .begin p (.login (client p) (client p) ⟨"alice", .totp code⟩ (some token)) ::
    List.replicate 2 (.advance p (.go true ""))

def go (p steps : Nat) : List (Event Call Input) :=
  List.replicate steps (.advance p (.go true ""))

/-- A wrong code is counted before the next one is sent, which is refused. -/
def inTurn : List (Event Call Input) :=
  password 0 "first" ++ password 1 "second" ++ sends 2 "first" "000000" ++ go 2 3 ++
    sends 3 "second" "000001" ++ go 3 3

theorem inTurn_bounded :
    Guarded (program plainLibrary oneAttempt).step (Undisturbed oneAttempt)
        (start twoAccounts startTime) inTurn ∧
      Throughout (program plainLibrary oneAttempt).step (Bounded oneAttempt)
        (start twoAccounts startTime) inTurn := by
  refine ⟨?undisturbed, rejected_codes_are_bounded ?undisturbed⟩
  decide

/-- Two wrong codes pass the question whether the account is blocked, then both are checked. -/
def atOnce : List (Event Call Input) :=
  password 0 "first" ++ password 1 "second" ++ sends 2 "first" "000000" ++
    sends 3 "second" "000001" ++ go 2 3 ++ go 3 3

/-- **More codes than the limit.**  With one attempt allowed, two codes are rejected in one
window. -/
theorem atOnce_exceeds :
    ¬ Bounded oneAttempt
      (exec (program plainLibrary oneAttempt).step (start twoAccounts startTime) atOnce) := by
  intro bounded
  have two := bounded "alice"
  revert two
  decide

end AtOnce

end R3v3rs3.Auth.CodeGuesses
