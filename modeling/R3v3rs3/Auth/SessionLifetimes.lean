/-
# R3v3rs3.Auth.SessionLifetimes -- what starting a session does to the others

A record does not say how long its session lasts: the sessions of the admin API and of the proxies
last as long as the configuration says when they are checked, a sign-in that waits for its TOTP
code as long as it was given when it started.  `LocalSessions.create` drops all that is older than
the lifetime of the session it starts, whatever the scope of the others.

`live` is what a purge by each session's own lifetime would have kept.  `live_kept_iff` says which
starts keep it: those whose lifetime is over for no session that is still live.  The TOTP challenge
of a proxy lasts five minutes and is not one of them.
-/
import R3v3rs3.Auth.Sessions
import R3v3rs3.Theory.Run

namespace R3v3rs3.Auth.SessionLifetimes
open Theory Theory.Run
set_option autoImplicit false

/-- A session that was started, with the lifetime it was given. -/
structure Started where
  scope : SessionScope
  token : String
  record : SessionRecord
  given : Nat

/-- A call of `create`: when it is made, and the session expiry that is configured then. -/
structure Creation where
  started : Started
  sessionExpiry : Nat
  now : Nat

namespace Started

/-- The lifetime that a check of the session uses. -/
def lifetime (session : Started) (sessionExpiry : Nat) : Nat :=
  match session.scope with
  | .login => session.given
  | .admin => expiry sessionExpiry
  | .proxy => expiry sessionExpiry

def isLive (session : Started) (creation : Creation) : Bool :=
  session.record.isActive (session.lifetime creation.sessionExpiry) creation.now

end Started

/-! ## Who starts sessions -/

/-- `create_session` of a proxy. -/
def createSession (token : String) (record : SessionRecord) (sessionExpiry now : Nat) : Creation :=
  ⟨⟨.proxy, token, record, expiry sessionExpiry⟩, sessionExpiry, now⟩

/-- `issue_totp_challenge` of a proxy. -/
def issueTotpChallenge (token : String) (record : SessionRecord) (sessionExpiry now : Nat) :
    Creation :=
  ⟨⟨.login, token, record, 300 * 1000⟩, sessionExpiry, now⟩

/-- The session of a `login` to the admin API, which waits for a TOTP code or is complete. -/
def login (totpRequired : Bool) (token : String) (record : SessionRecord)
    (sessionExpiry now : Nat) : Creation :=
  ⟨⟨if totpRequired then .login else .admin, token, record, expiry sessionExpiry⟩, sessionExpiry,
    now⟩

/-! ## Runs of starts -/

structure State where
  sessions : LocalSessions
  /-- The sessions whose own lifetime was over at no start since. -/
  live : List Started

def State.empty : State := ⟨.empty, []⟩

def step (s : State) (creation : Creation) : State where
  sessions := s.sessions.create creation.started.scope creation.started.token
    creation.started.record creation.started.given creation.now
  live := s.live.filter (·.isLive creation) ++ [creation.started]

/-- Every live session is found. -/
def LiveKept (s : State) : Prop :=
  ∀ session ∈ s.live, s.sessions.get session.scope session.token = some session.record

/-- A start leaves a session: the new one is stored elsewhere, or is the same, and the lifetime of
the new one is not over for the record. -/
def Spares (creation : Creation) (session : Started) : Prop :=
  if (creation.started.scope, creation.started.token) = (session.scope, session.token) then
    creation.started.record = session.record
  else session.record.isActive creation.started.given creation.now

instance (s : State) : Decidable (LiveKept s) :=
  inferInstanceAs (Decidable (∀ session ∈ s.live, _ = _))

variable {session : Started}

/-- **What one start keeps.** -/
theorem get_create {sessions : LocalSessions} {creation : Creation}
    (found : sessions.get session.scope session.token = some session.record) :
    (sessions.create creation.started.scope creation.started.token creation.started.record
        creation.started.given creation.now).get session.scope session.token =
      some session.record ↔ Spares creation session := by
  rw [LocalSessions.get, LocalSessions.create, Table.find_upsert, Spares]
  split
  · rw [Option.map_some, Option.some.injEq]
  · rw [LocalSessions.removeExpired, Table.find_discard]
    rw [LocalSessions.get, Option.map_eq_some_iff] at found
    obtain ⟨row, isRow, same⟩ := found
    rw [isRow, ← same]
    cases active : row.2.isActive creation.started.given creation.now <;>
      simp [Option.filter, active]

theorem liveKept_step_iff {s : State} (kept : LiveKept s) (creation : Creation) :
    LiveKept (step s creation) ↔
      ∀ session ∈ s.live, session.isLive creation → Spares creation session := by
  have added : (step s creation).sessions.get creation.started.scope creation.started.token =
      some creation.started.record := by
    rw [step, LocalSessions.get, LocalSessions.create, Table.find_upsert, if_pos rfl,
      Option.map_some]
  constructor
  · intro after session member live
    refine (get_create (kept session member)).mp (after session ?_)
    exact List.mem_append_left _ (List.mem_filter.mpr ⟨member, live⟩)
  · intro spares session member
    rcases List.mem_append.mp member with old | new
    · obtain ⟨before, live⟩ := List.mem_filter.mp old
      exact (get_create (kept session before)).mpr (spares session before live)
    · rw [List.mem_singleton.mp new]
      exact added

/-- **Starting sessions ends no other session** in just the runs in which every start spares each
session that is still live. -/
theorem live_kept_iff (creations : List Creation) :
    Throughout step LiveKept .empty creations ↔
      Guarded step (fun s creation => ∀ session ∈ s.live, session.isLive creation →
        Spares creation session) .empty creations := by
  refine throughout_iff_guarded (fun _ _ (_ : True) => trivial) ?_ trivial ?_
  · intro s creation _ kept
    exact liveKept_step_iff kept creation
  · intro session member
    cases member

/-! ## Lifetimes -/

/-- A start with the longest lifetime in use, under a token of its own, spares every live
session. -/
theorem spares_of_longer {creation : Creation}
    (elsewhere : (creation.started.scope, creation.started.token) ≠ (session.scope, session.token))
    (longer : session.lifetime creation.sessionExpiry ≤ creation.started.given)
    (live : session.isLive creation) : Spares creation session := by
  rw [Spares, if_neg elsewhere]
  simp only [Started.isLive, SessionRecord.isActive, decide_eq_true_eq] at live ⊢
  omega

/-- So a session of a proxy or of the admin API ends none of them, and no challenge that was given
no more than the configured expiry. -/
theorem createSession_spares {token : String} {record : SessionRecord} {sessionExpiry now : Nat}
    (elsewhere : (SessionScope.proxy, token) ≠ (session.scope, session.token))
    (short : session.scope = .login → session.given ≤ expiry sessionExpiry)
    (live : session.isLive (createSession token record sessionExpiry now)) :
    Spares (createSession token record sessionExpiry now) session := by
  refine spares_of_longer elsewhere ?_ live
  cases scope : session.scope with
  | login =>
    simp only [Started.lifetime, scope]
    exact short scope
  | admin | proxy => simp [Started.lifetime, scope, createSession]

/-- An administrator signs in; six minutes later somebody gives a proxy a password. -/
def challengeAfterLogin : List Creation :=
  [login false "admin-token" (.new "admin" 1700000000000) 3600000 1700000000000,
    issueTotpChallenge "challenge" (.proxy "shop.example" "alice" 1700000360000) 3600000
      1700000360000]

/-- **The challenge signs the administrator out**, within the hour that a session lasts. -/
theorem challenge_ends_admin_session :
    ¬ Throughout step LiveKept .empty challengeAfterLogin ∧
      (exec step .empty challengeAfterLogin).sessions.get .admin "admin-token" = none := by
  decide

end R3v3rs3.Auth.SessionLifetimes
