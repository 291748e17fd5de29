/-
# R3v3rs3.Auth.Attempts -- the counters of failed sign-ins

Three counters stand in front of a sign-in.  `LoginAttempts` counts by client address and user
name, and counts a sign-in that is under way as if it had failed.  `IpBanTracker` counts by client
address.  `TotpAttempts` counts rejected TOTP codes by account and by `login` session; it only
learns of a code after the code was rejected.

Times are milliseconds.  The first and the last counter share the entry `LoginAttempt`: a window
that starts with the entry, and a block that starts with the failure that fills it.
-/
import R3v3rs3.Api.Error
import R3v3rs3.Theory.Table

namespace R3v3rs3.Auth
open Theory Api
set_option autoImplicit false

/-- The canonical address of a client. -/
structure ClientIp where
  bits : Nat
  isLoopback : Bool
  deriving DecidableEq

/-! ## Entries -/

structure LoginAttempt where
  failures : Nat
  inFlight : Nat
  windowStart : Nat
  blockedUntil : Option Nat

variable (attempt : LoginAttempt)

namespace LoginAttempt

def new (now : Nat) : LoginAttempt := ⟨0, 0, now, none⟩

def isActive (reset now : Nat) : Bool :=
  if 0 < attempt.inFlight then true
  else
    match attempt.blockedUntil with
    | some deadline => now < deadline
    | none => now - attempt.windowStart < reset

def isBlocked (now : Nat) : Bool :=
  attempt.blockedUntil.any fun deadline => now < deadline

/-- One more failure; the one that reaches the limit blocks. -/
def fail (maxAttempts reset now : Nat) : LoginAttempt :=
  { attempt with
    failures := attempt.failures + 1
    blockedUntil :=
      if max 1 maxAttempts ≤ attempt.failures + 1 then some (now + reset)
      else attempt.blockedUntil }

/-- The time from which an entry without a sign-in under way counts no more. -/
def deadline (reset : Nat) : Nat :=
  attempt.blockedUntil.getD (attempt.windowStart + reset)

theorem isActive_iff {attempt : LoginAttempt} {reset now : Nat} (idle : attempt.inFlight = 0)
    (opened : attempt.windowStart ≤ now) :
    attempt.isActive reset now = true ↔ now < attempt.deadline reset := by
  rw [isActive, if_neg (by omega)]
  cases blocked : attempt.blockedUntil with
  | some => simp [deadline, blocked]
  | none =>
    simp only [deadline, blocked, Option.getD_none, decide_eq_true_eq]
    omega

end LoginAttempt

/-! ## By address and name -/

abbrev LoginAttemptKey := ClientIp × String

def maxLoginUsernameLen : Nat := 128
def maxLoginAttemptsEntries : Nat := 10000

/-- The first `bytes` bytes of a text, or `none` where they end inside a character. -/
def sliceBytes : Nat → List Char → Option (List Char)
  | 0, _ => some []
  | _ + 1, [] => some []
  | bytes + 1, c :: rest =>
    if c.utf8Size ≤ bytes + 1 then (sliceBytes (bytes + 1 - c.utf8Size) rest).map (c :: ·)
    else none

/-- Long names are cut; `none` is the panic of a cut inside a character. -/
def boundedKey (key : LoginAttemptKey) : Option LoginAttemptKey :=
  if key.2.utf8ByteSize ≤ maxLoginUsernameLen then some key
  else (sliceBytes maxLoginUsernameLen key.2.toList).map fun name => (key.1, String.ofList name)

/-- Failed sign-ins by client address and user name. -/
abbrev LoginAttempts := Table (Prod.fst : LoginAttemptKey × LoginAttempt → LoginAttemptKey)

variable (attempts : LoginAttempts)

namespace LoginAttempts

def pruneExpired (reset now : Nat) : LoginAttempts :=
  Table.discard attempts fun row => !row.2.isActive reset now

def oldest : List (LoginAttemptKey × LoginAttempt) → Option (LoginAttemptKey × LoginAttempt)
  | [] => none
  | row :: rest =>
    match oldest rest with
    | none => some row
    | some other => if other.2.windowStart < row.2.windowStart then some other else some row

def pruneOldest : LoginAttempts :=
  match oldest attempts.rows with
  | some row => Table.erase attempts row.1
  | none => attempts

/-- Room for one more entry. -/
def makeRoom (reset now : Nat) : LoginAttempts :=
  if maxLoginAttemptsEntries ≤ attempts.rows.length then
    let pruned := attempts.pruneExpired reset now
    if maxLoginAttemptsEntries ≤ pruned.rows.length then pruned.pruneOldest else pruned
  else attempts

/-- Changes the entry of a key, which starts anew when it is not active. -/
def modifyAttempt (key : LoginAttemptKey) (reset now : Nat) (change : LoginAttempt → LoginAttempt) :
    LoginAttempts :=
  match Table.find attempts key with
  | some row =>
    Table.upsert attempts
      (key, change (if row.2.isActive reset now then row.2 else .new now))
  | none => Table.upsert (attempts.makeRoom reset now) (key, change (.new now))

/-- The entry that `modifyAttempt` changes. -/
def current (key : LoginAttemptKey) (reset now : Nat) : LoginAttempt :=
  match Table.find attempts key with
  | some row => if row.2.isActive reset now then row.2 else .new now
  | none => .new now

/-- Whether the sign-in may go on; it then holds a slot. -/
def acquire (key : LoginAttemptKey) (maxAttempts reset now : Nat) : Option (LoginAttempts × Bool) :=
  (boundedKey key).map fun key =>
    let attempt := attempts.current key reset now
    if attempt.isBlocked now ∨ max 1 maxAttempts ≤ attempt.failures + attempt.inFlight then
      (attempts.modifyAttempt key reset now id, false)
    else
      (attempts.modifyAttempt key reset now
        fun attempt => { attempt with inFlight := attempt.inFlight + 1 }, true)

/-- Gives the slot back without a failure. -/
def release (key : LoginAttemptKey) : Option LoginAttempts :=
  (boundedKey key).map fun key =>
    match Table.find attempts key with
    | some row => Table.upsert attempts (key, { row.2 with inFlight := row.2.inFlight - 1 })
    | none => attempts

def recordFailure (key : LoginAttemptKey) (maxAttempts reset now : Nat) : Option LoginAttempts :=
  (boundedKey key).map fun key =>
    attempts.modifyAttempt key reset now fun attempt =>
      { attempt with inFlight := attempt.inFlight - 1 }.fail maxAttempts reset now

def clear (key : LoginAttemptKey) : Option LoginAttempts :=
  (boundedKey key).map fun key => Table.erase attempts key

end LoginAttempts

/-! ## By address -/

structure IpAttempt where
  failures : Nat
  windowStart : Nat
  bannedUntil : Option Nat

abbrev IpBanTracker := Table (Prod.fst : ClientIp × IpAttempt → ClientIp)

variable (bans : IpBanTracker)

namespace IpBanTracker

def cleanup (now : Nat) : IpBanTracker :=
  Table.discard bans fun row =>
    match row.2.bannedUntil with
    | some deadline => decide (deadline ≤ now)
    | none => decide (3600 * 1000 ≤ now - row.2.windowStart)

def checkBanned (ip : ClientIp) (now : Nat) : IpBanTracker × Except Error Unit :=
  if ip.isLoopback then (bans, .ok ())
  else
    let bans := bans.cleanup now
    match (Table.find bans ip).bind fun row => row.2.bannedUntil with
    | some deadline =>
      if now < deadline then (bans, .error (.ipBanned (max ((deadline - now) / 1000) 1)))
      else (bans, .ok ())
    | none => (bans, .ok ())

def recordFailure (ip : ClientIp) (maxAttempts reset banDuration now : Nat) : IpBanTracker :=
  if ip.isLoopback then bans
  else
    let attempt := ((Table.find bans ip).map Prod.snd).getD ⟨0, now, none⟩
    let attempt :=
      if reset ≤ now - attempt.windowStart ∧ attempt.bannedUntil = none then
        { attempt with failures := 0, windowStart := now }
      else attempt
    Table.upsert bans (ip, { attempt with
      failures := attempt.failures + 1
      bannedUntil :=
        if max 1 maxAttempts ≤ attempt.failures + 1 then some (now + banDuration)
        else attempt.bannedUntil })

/-- `clear`, and `unban` without its answer. -/
def clear (ip : ClientIp) : IpBanTracker := Table.erase bans ip

end IpBanTracker

/-! ## Rejected codes -/

def maxSessionTotpAttempts : Nat := 3

structure TotpAttempts where
  sessions : Table (Prod.fst : String × Nat → String)
  accounts : Table (Prod.fst : String × LoginAttempt → String)

namespace TotpAttempts

def empty : TotpAttempts := ⟨.empty, .empty⟩

/-- The entry of an account. -/
def entry (attempts : TotpAttempts) (username : String) : Option LoginAttempt :=
  (attempts.accounts.find username).map Prod.snd

/-- Counts a rejected code, and says whether the session has no more attempts. -/
def recordFailure (attempts : TotpAttempts) (sessionToken username : String)
    (maxAccountAttempts reset now : Nat) : TotpAttempts × Bool :=
  let sessionFails := ((attempts.sessions.find sessionToken).map Prod.snd).getD 0 + 1
  let exhausted := decide (maxSessionTotpAttempts ≤ sessionFails)
  let attempt := (attempts.entry username).getD (.new now)
  ({ sessions :=
      if exhausted then attempts.sessions.erase sessionToken
      else attempts.sessions.upsert (sessionToken, sessionFails)
     accounts :=
      attempts.accounts.upsert (username, attempt.fail maxAccountAttempts reset now) },
    exhausted)

/-- Drops the entries of all accounts that are not active. -/
def retainActive (attempts : TotpAttempts) (reset now : Nat) : TotpAttempts :=
  { attempts with accounts := attempts.accounts.discard fun row => !row.2.isActive reset now }

def isAccountBlocked (attempts : TotpAttempts) (username : String) (reset now : Nat) :
    TotpAttempts × Bool :=
  let attempts := attempts.retainActive reset now
  (attempts, (attempts.entry username).any (·.isBlocked now))

def clear (attempts : TotpAttempts) (sessionToken username : String) : TotpAttempts where
  sessions := attempts.sessions.erase sessionToken
  accounts := attempts.accounts.erase username

theorem entry_recordFailure (attempts : TotpAttempts) (sessionToken username other : String)
    (maxAccountAttempts reset now : Nat) :
    (attempts.recordFailure sessionToken username maxAccountAttempts reset now).1.entry other =
      if username = other then
        some (((attempts.entry username).getD (.new now)).fail maxAccountAttempts reset now)
      else attempts.entry other := by
  simp only [entry, recordFailure]
  rw [Table.find_upsert]
  by_cases same : username = other
  · rw [if_pos same, if_pos same]
    rfl
  · rw [if_neg same, if_neg same]

theorem entry_retainActive (attempts : TotpAttempts) (reset now : Nat) (username : String) :
    (attempts.retainActive reset now).entry username =
      (attempts.entry username).filter (·.isActive reset now) := by
  simp only [entry, retainActive, Table.find_discard, Bool.not_not]
  cases attempts.accounts.find username with
  | none => rfl
  | some row =>
    rw [Option.map_some, Option.filter_some, Option.filter_some]
    by_cases active : row.2.isActive reset now <;> simp [active]

theorem entry_clear (attempts : TotpAttempts) (sessionToken username other : String) :
    (attempts.clear sessionToken username).entry other =
      if username = other then none else attempts.entry other := by
  simp only [entry, clear, Table.find_erase]
  by_cases same : username = other
  · rw [if_pos same, if_pos same]
    rfl
  · rw [if_neg same, if_neg same]

/-- The failures of an account that still count. -/
def failures (attempts : TotpAttempts) (username : String) (reset now : Nat) : Nat :=
  ((attempts.entry username).filter (·.isActive reset now)).elim 0 LoginAttempt.failures

end TotpAttempts

end R3v3rs3.Auth
