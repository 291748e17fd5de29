/-
# R3v3rs3.Platform.GitTokens -- whom the tokens of a Git connection belong to

One connection, and the tasks that work on it at the same time: authorizations and their callbacks,
reads of an access token with the renewals they start, updates of the settings, and installations
of a GitHub App.  A task reads the row, talks to a provider and writes the row, and any other task
may step in between; a step here is one statement on the row together with the answer of the
provider that led to it.

`tokens_stay_with_application` says when the tokens stay with the application they were issued to:
a callback finds the application that it asked for still in the row, a read of a token finds the
address of the entry that it goes out with, and no authorization lands that the statements of a
renewal under way cannot tell from the one it started with.
-/
import R3v3rs3.Platform.GitConnections
import R3v3rs3.Theory.Run

namespace R3v3rs3.Platform.GitTokens
open Api Theory Platform.GitConnections Connection
open Theory.Run (Guarded Throughout)
set_option autoImplicit false

/-! ## Tasks -/

/-- Where a task stands.  `started` is the number of authorizations that had been stored when a
renewal read the tokens; no step looks at it. -/
inductive Task where
  /-- `finish_authorization`, before the entry is read. -/
  | taken (pending : Pending) (verifier code : String)
  /-- `trade_code`, before the client secret is read. -/
  | trading (entry : GitConnectionEntry) (pending : Pending) (verifier code : String)
  /-- The code is at the provider. -/
  | traded (entry : GitConnectionEntry) (exchange : Exchange) (redirectUri : String)
  /-- `git_access_token`, before the sealed values are read. -/
  | loading (entry : GitConnectionEntry)
  /-- `renew_git_token`, before the lock. -/
  | waiting (entry : GitConnectionEntry)
  /-- `perform_git_token_renewal`, before the client secret is read. -/
  | renewing (entry : GitConnectionEntry) (refresh : SealedToken) (redirectUri : Option String)
      (started : Nat)
  /-- The refresh token is at the provider. -/
  | exchanging (entry : GitConnectionEntry) (refresh : SealedToken) (exchange : Exchange)
      (started : Nat)
  /-- `expire` of a connection without a refresh token. -/
  | expiring (entry : GitConnectionEntry) (started : Nat)
  /-- `renew_installation_token`, before the GitHub App is read. -/
  | installation (entry : GitConnectionEntry)
  /-- GitHub is asked for a token of the installation. -/
  | installing (entry : GitConnectionEntry) (installation : Nat) (exchange : Exchange)
      (asked started : Nat)
  /-- `current_stored_token`. -/
  | rereading (entry : GitConnectionEntry)
  /-- `update_git_connection`, before the write. -/
  | updating (entry : GitConnectionEntry) (clientSecret : Option String)
  /-- `install_github_app`: GitHub is asked for the installations. -/
  | finding

inductive Reply where
  | token (entry : GitConnectionEntry) (token : Token)
  /-- The row is changed. -/
  | changed

abbrev Answer := Except Error Reply

/-- A renewal that changed the row: the number of authorizations stored when it read the tokens,
and when it wrote. -/
structure RenewalWrite where
  started : Nat
  current : Nat

/-- What all tasks share.  `serial` numbers the sealed values and `authorizations` counts the
authorizations stored so far. -/
structure Shared where
  row : Connection
  serial : Nat
  authorizations : Nat

structure State extends Shared where
  pending : PendingAuthorizations
  tasks : Table (Prod.fst : Nat × Task → Nat)
  /-- The holder of the renewal lock. -/
  renewing : Option Nat
  answers : List Answer
  writes : List RenewalWrite

namespace State

variable (state : State)

/-- The task is at another place. -/
def goto (p : Nat) (task : Task) : State :=
  { state with tasks := state.tasks.upsert (p, task) }

def lock (p : Nat) : State := { state with renewing := some p }

/-- The task answers; it releases the lock if it holds it. -/
def finish (p : Nat) (answer : Answer) : State :=
  { state with
    tasks := state.tasks.erase p
    renewing := if state.renewing = some p then none else state.renewing
    answers := answer :: state.answers }

def put (shared : Shared) : State := { state with toShared := shared }

def record (started : Nat) : State :=
  { state with writes := ⟨started, state.authorizations⟩ :: state.writes }

/-! ## Steps of a task -/

def notConnected : Answer := .error (.gitConnectionNotConnected state.row.entry.id)

/-- A sealed access token that does not expire soon is the answer; else the task goes on. -/
def answerCurrent (p : Nat) (entry : GitConnectionEntry) (now : Nat) (otherwise : State) : State :=
  match currentToken state.row.stored now with
  | some sealed => state.finish p (.ok (.token entry sealed.token))
  | none => otherwise

/-- `renew_git_token` once it has the lock, up to the next statement. -/
def renewGitToken (p : Nat) (entry : GitConnectionEntry) (now : Nat) : State :=
  state.answerCurrent p entry now <|
    if entry.provider = .github then (state.lock p).goto p (.installation entry)
    else
      match state.row.stored.refreshToken with
      | none => (state.lock p).goto p (.expiring entry state.authorizations)
      | some refresh =>
        (state.lock p).goto p
          (.renewing entry refresh state.row.stored.redirectUri state.authorizations)

/-- Ends a renewal whose statement changed the row, or reads the token that another task stored. -/
def applied (p : Nat) (entry : GitConnectionEntry) (started serial : Nat)
    (written : Option Connection) (answer : Answer) : State :=
  match written with
  | some row =>
    ((state.record started).put ⟨row, serial, state.authorizations⟩).finish p answer
  | none =>
    (state.put ⟨state.row, serial, state.authorizations⟩).goto p (.rereading entry)

end State

/-- What the outside gives to the next step of a task: the time, the answer of a provider, or an
error of the database, of the cipher or of the network. -/
inductive Input where
  | read (now : Nat)
  | granted (grant : TokenGrant) (account : String) (now : Nat)
  | refused (reason : String)
  | installed (installation : Nat) (account : String)
  | failed (error : Error)

namespace State

/-- The steps of a callback. -/
def advanceCallback (state : State) (p : Nat) : Task → Input → State
  | .taken pending verifier code, .read _ =>
    state.goto p (.trading state.row.entry pending verifier code)
  | .trading entry pending verifier code, .read _ =>
    -- a GitHub App has no token endpoint
    if entry.provider = .github then
      state.finish p
        (.error (.gitProviderFailed "a GitHub App connection has no OAuth authorization"))
    else
      state.goto p (.traded entry
        (codeExchange entry state.row.stored.clientSecret pending.redirectUri verifier code)
        pending.redirectUri)
  | .traded _ exchange redirectUri, .granted grant account now =>
    let tokens := sealGrant state.serial exchange grant none now
    let row := state.row.connectGitConnection account redirectUri tokens
    (state.put ⟨row, state.serial + 2, state.authorizations + 1⟩).finish p (.ok .changed)
  | .traded _ _ _, .refused reason =>
    state.finish p (.error (.gitProviderFailed s!"the provider refused the grant: {reason}"))
  | _, _ => state

/-- The steps of a read of an access token. -/
def advanceAccess (state : State) (p : Nat) : Task → Input → State
  | .loading entry, .read now => state.answerCurrent p entry now (state.goto p (.waiting entry))
  | .waiting entry, .read now =>
    if state.renewing = none then state.renewGitToken p entry now else state
  | .renewing entry refresh redirectUri started, .read _ =>
    state.goto p (.exchanging entry refresh
      (refreshExchange entry state.row.stored.clientSecret refresh.token.text
        (redirectUri.getD "")) started)
  | .exchanging entry refresh exchange started, .granted grant _ now =>
    let tokens := sealGrant state.serial exchange grant (some refresh) now
    state.applied p entry started (state.serial + 2)
      (state.row.renewGitTokens tokens (some refresh))
      (.ok (.token entry ⟨grant.accessToken, exchange⟩))
  | .exchanging entry refresh _ started, .refused _ =>
    state.applied p entry started state.serial (state.row.expireGitConnection (some refresh))
      state.notConnected
  | .expiring entry started, .read _ =>
    state.applied p entry started state.serial (state.row.expireGitConnection none)
      state.notConnected
  | .installation entry, .read now =>
    match state.row.app with
    | none => state.finish p state.notConnected
    | some app =>
      match app.installationId with
      | none => state.finish p state.notConnected
      | some installation =>
        state.goto p (.installing entry installation
          (installationExchange entry app.privateKey installation now) now
          state.authorizations)
  | .installing entry installation exchange asked started, .granted grant _ _ =>
    -- the token lives one hour from the time it was asked for
    state.applied p entry started (state.serial + 1)
      (state.row.renewGithubInstallationTokens installation
        ⟨state.serial, ⟨grant.accessToken, exchange⟩⟩ (saturatingAdd asked 3600000))
      (.ok (.token entry ⟨grant.accessToken, exchange⟩))
  | .installing entry installation _ _ started, .refused _ =>
    state.applied p entry started state.serial (state.row.expireGithubInstallation installation)
      state.notConnected
  | .rereading entry, .read now =>
    state.answerCurrent p entry now (state.finish p state.notConnected)
  | _, _ => state

/-- The write of an update and of an installation. -/
def advanceChange (state : State) (p : Nat) : Task → Input → State
  | .updating entry clientSecret, .read _ =>
    let row := state.row.updateGitConnection entry clientSecret
    (state.put ⟨row, state.serial, state.authorizations⟩).finish p (.ok .changed)
  | .finding, .installed installation account =>
    let row := state.row.installGithubApp installation account
    (state.put ⟨row, state.serial, state.authorizations + 1⟩).finish p (.ok .changed)
  | _, _ => state

def advance (state : State) (p : Nat) (task : Task) (input : Input) : State :=
  match input with
  | .failed error => state.finish p (.error error)
  | input =>
    match task with
    | .taken .. | .trading .. | .traded .. => state.advanceCallback p task input
    | .updating .. | .finding => state.advanceChange p task input
    | _ => state.advanceAccess p task input

/-! ## Beginnings -/

inductive Call where
  | callback (key code : String) (now : Nat)
  | access
  | update (request : GitConnectionRequest) (inUse : Option String) (now : Nat)
  | install

/-- `finish_git_authorization` up to the first read of the row.  What another connection waits
for does not touch this one. -/
def beginCallback (state : State) (p : Nat) (key code : String) (now : Nat) : State :=
  let (found, pending) := PendingAuthorizations.take state.pending key now
  let state := { state with pending }
  match found with
  | none => state.finish p (.error .oauthStateInvalid)
  | some waiting =>
    match waiting.purpose with
    | .authorize verifier =>
      if waiting.connection = state.row.entry.id then
        state.goto p (.taken waiting verifier code)
      else state
    | .createApp _ _ => state

def begin (state : State) (p : Nat) : Call → State
  | .callback key code now => state.beginCallback p key code now
  | .access =>
    if state.row.entry.status = .connected then state.goto p (.loading state.row.entry)
    else state.finish p state.notConnected
  | .update request inUse now =>
    match updatedEntry state.row.entry request inUse now with
    | .error refused => state.finish p (.error refused)
    | .ok entry => state.goto p (.updating entry request.clientSecret)
  | .install =>
    if state.row.app.isSome then state.goto p .finding else state.finish p state.notConnected

/-- `authorize_git_connection` of any connection; a GitHub App is sent to its installation page. -/
def authorizeGitConnection (state : State) (connection : ShortId)
    (key verifier redirectUri username : String) (now : Nat) : State :=
  if connection = state.row.entry.id ∧ state.row.entry.provider = .github then state
  else
    { state with
      pending := PendingAuthorizations.insert state.pending key
        ⟨connection, redirectUri, .authorize verifier, username, now⟩ now }

end State

inductive Event where
  | authorize (connection : ShortId) (key verifier redirectUri username : String) (now : Nat)
  /-- A GitHub App is created for a new connection. -/
  | createApp (connection : ShortId) (key redirectUri username name url : String) (now : Nat)
  /-- The provider reported an error for `key`. -/
  | cancel (key : String) (now : Nat)
  | dropUser (username : String)
  | begin (p : Nat) (call : State.Call)
  | advance (p : Nat) (input : Input)

def step (state : State) : Event → State
  | .authorize connection key verifier redirectUri username now =>
    state.authorizeGitConnection connection key verifier redirectUri username now
  | .createApp connection key redirectUri username name url now =>
    { state with
      pending := PendingAuthorizations.insert state.pending key
        ⟨connection, redirectUri, .createApp name url, username, now⟩ now }
  | .cancel key now =>
    { state with pending := (PendingAuthorizations.take state.pending key now).2 }
  | .dropUser username =>
    { state with pending := PendingAuthorizations.dropUser state.pending username }
  | .begin p call =>
    match state.tasks.find p with
    | some _ => state
    | none => state.begin p call
  | .advance p input =>
    match state.tasks.find p with
    | some (_, task) => state.advance p task input
    | none => state

/-! ## Tokens stay with their application -/

/-- A token that is returned goes with the address it was issued by. -/
def Fits : Answer → Prop
  | .ok (.token entry token) => token.issued.site = entry.site
  | _ => True

instance : DecidablePred Fits
  | .ok (.token entry token) => inferInstanceAs (Decidable (token.issued.site = entry.site))
  | .ok .changed => .isTrue trivial
  | .error _ => .isTrue trivial

/-- The tokens of a connected row were issued to its application. -/
def StoredFit (state : State) : Prop :=
  state.row.entry.status = .connected → ∀ sealed ∈ state.row.tokens,
    sealed.token.issued.IssuedTo state.row.entry.application

def AnswersFit (state : State) : Prop := ∀ answer ∈ state.answers, Fits answer

/-- No renewal wrote over an authorization that is newer than the tokens it started from. -/
def NewerKept (state : State) : Prop := ∀ write ∈ state.writes, write.started = write.current

instance : DecidablePred StoredFit := fun _ => inferInstanceAs (Decidable (_ → _))

instance : DecidablePred AnswersFit := fun _ => inferInstanceAs (Decidable (∀ _ ∈ _, _))

instance : DecidablePred NewerKept := fun _ => inferInstanceAs (Decidable (∀ _ ∈ _, _))

structure Kept (state : State) : Prop where
  stored : StoredFit state
  answered : AnswersFit state
  renewed : NewerKept state

/-- The task is about to expire a connection in which it found no refresh token. -/
def Task.expires : Task → Bool
  | .expiring _ _ => true
  | _ => false

/-- The task waits for a token of the installation. -/
def Task.asksFor (installation : Nat) : Task → Bool
  | .installing _ asked _ _ _ => sqlInt asked = sqlInt installation
  | _ => false

/-- What the next step of a task has to find. -/
def Calm (state : State) : Task → Input → Prop
  -- the callback finds the application that it traded the code for, and an authorization without
  -- a refresh token finds no renewal that takes it for the one it read
  | .traded entry _ _, .granted grant _ _ =>
    entry.application = state.row.entry.application ∧
      (grant.refreshToken = none → ∀ slot ∈ state.tasks.rows, !slot.2.expires)
  -- a token that is returned is read under the address of the entry
  | .loading entry, .read now | .rereading entry, .read now =>
    (currentToken state.row.stored now).isSome → entry.site = state.row.entry.site
  | .waiting entry, .read now =>
    state.renewing = none →
      if (currentToken state.row.stored now).isSome then entry.site = state.row.entry.site
      else entry.application = state.row.entry.application
  -- an installation finds no renewal that waits for a token of the same installation
  | .finding, .installed installation _ =>
    ∀ slot ∈ state.tasks.rows, !slot.2.asksFor installation
  | _, _ => True

instance (state : State) (task : Task) (input : Input) : Decidable (Calm state task input) := by
  unfold Calm
  split <;> infer_instance

def Undisturbed (state : State) : Event → Prop
  | .advance p input => ∀ slot ∈ state.tasks.find p, Calm state slot.2 input
  | _ => True

instance (state : State) (event : Event) : Decidable (Undisturbed state event) := by
  unfold Undisturbed
  split <;> infer_instance

/-! ## The invariant -/

/-- The refresh token that a renewal works with: while the row holds it, the row still has the
application that the renewal asks for and the authorization it started with. -/
structure StartedWith (shared : Shared) (entry : GitConnectionEntry) (refresh : SealedToken)
    (started : Nat) : Prop where
  sealed_before : refresh.serial < shared.serial
  issued : refresh.token.issued.IssuedTo entry.application
  current : shared.row.HoldsRefresh (some refresh) →
    entry.application = shared.row.entry.application ∧ started = shared.authorizations

def TaskOk (shared : Shared) : Task → Prop
  | .taken _ _ _ => True
  | .finding => shared.row.app.isSome
  | .trading entry _ _ _ | .loading entry | .waiting entry | .rereading entry
  | .updating entry _ => Kin entry shared.row.entry
  | .traded entry exchange _ =>
    Kin entry shared.row.entry ∧ entry.provider ≠ .github ∧ exchange.IssuedTo entry.application
  | .renewing entry refresh _ started =>
    Kin entry shared.row.entry ∧ StartedWith shared entry refresh started
  | .exchanging entry refresh exchange started =>
    Kin entry shared.row.entry ∧ StartedWith shared entry refresh started ∧
      exchange.IssuedTo entry.application
  | .expiring entry started =>
    Kin entry shared.row.entry ∧ entry.provider ≠ .github ∧
      (shared.row.HoldsRefresh none → started = shared.authorizations)
  | .installation entry => Kin entry shared.row.entry ∧ entry.provider = .github
  | .installing entry installation exchange _ started =>
    Kin entry shared.row.entry ∧ entry.provider = .github ∧
      exchange.IssuedTo entry.application ∧
      (shared.row.HoldsInstallation installation → started = shared.authorizations)

/-- What is true of the row at any time. -/
structure RowOk (shared : Shared) : Prop where
  issued : ∀ sealed ∈ shared.row.tokens,
    sealed.token.issued.IssuedTo shared.row.entry.application
  github : shared.row.app.isSome → shared.row.entry.provider = .github
  sealed_before : ∀ refresh ∈ shared.row.stored.refreshToken, refresh.serial < shared.serial

structure Inv (state : State) : Prop where
  row : RowOk state.toShared
  tasks : ∀ slot ∈ state.tasks.rows, TaskOk state.toShared slot.2
  answered : ∀ answer ∈ state.answers, Fits answer
  renewed : ∀ write ∈ state.writes, write.started = write.current

theorem Inv.kept {state : State} (inv : Inv state) : Kept state :=
  ⟨fun _ => inv.row.issued, inv.answered, inv.renewed⟩

namespace Inv

variable {state : State} (inv : Inv state) {p : Nat}

include inv

theorem task {slot : Nat × Task} (found : state.tasks.find p = some slot) :
    TaskOk state.toShared slot.2 :=
  inv.tasks slot (Table.mem_of_find found).1

theorem goto {task : Task} (ok : TaskOk state.toShared task) : Inv (state.goto p task) := by
  refine ⟨inv.row, ?_, inv.answered, inv.renewed⟩
  intro slot member
  rcases Table.mem_upsert.mp member with ⟨old, -⟩ | rfl
  · exact inv.tasks slot old
  · exact ok

theorem lock : Inv (state.lock p) := ⟨inv.row, inv.tasks, inv.answered, inv.renewed⟩

theorem pending (pending : PendingAuthorizations) : Inv { state with pending } :=
  ⟨inv.row, inv.tasks, inv.answered, inv.renewed⟩

theorem finish {answer : Answer} (fits : Fits answer) : Inv (state.finish p answer) := by
  refine ⟨inv.row, ?_, ?_, inv.renewed⟩
  · intro slot member
    exact inv.tasks slot (Table.mem_erase.mp member).1
  · intro other member
    rcases List.mem_cons.mp member with rfl | old
    · exact fits
    · exact inv.answered other old

theorem record {started : Nat} (newest : started = state.authorizations) :
    Inv (state.record started) := by
  refine ⟨inv.row, inv.tasks, inv.answered, ?_⟩
  intro write member
  rcases List.mem_cons.mp member with rfl | old
  · exact newest
  · exact inv.renewed write old

end Inv

/-! ## What a write leaves to the other tasks -/

/-- A write of the row, seen by the tasks that are under way: what their statements will match
was there before the write, under the same authorization. -/
structure Evolves (tasks : List (Nat × Task)) (before after : Shared) : Prop where
  kin : Kin before.row.entry after.row.entry
  app : after.row.app.isSome = before.row.app.isSome
  serial_le : before.serial ≤ after.serial
  refresh : ∀ refresh : SealedToken, refresh.serial < before.serial →
    after.row.HoldsRefresh (some refresh) → before.row.HoldsRefresh (some refresh) ∧
      before.row.entry.application = after.row.entry.application ∧
      before.authorizations = after.authorizations
  unnamed : before.row.entry.provider ≠ .github → (∃ slot ∈ tasks, slot.2.expires) →
    after.row.HoldsRefresh none →
      before.row.HoldsRefresh none ∧ before.authorizations = after.authorizations
  installation : ∀ installation, before.row.entry.provider = .github →
    (∃ slot ∈ tasks, slot.2.asksFor installation) → after.row.HoldsInstallation installation →
      before.row.HoldsInstallation installation ∧ before.authorizations = after.authorizations

namespace Evolves

variable {tasks : List (Nat × Task)} {before after : Shared} (evolves : Evolves tasks before after)

include evolves

theorem startedWith {entry : GitConnectionEntry} {refresh : SealedToken} {started : Nat}
    (ok : StartedWith before entry refresh started) : StartedWith after entry refresh started := by
  refine ⟨Nat.lt_of_lt_of_le ok.sealed_before evolves.serial_le, ok.issued, fun holds => ?_⟩
  obtain ⟨held, application, newest⟩ := evolves.refresh refresh ok.sealed_before holds
  obtain ⟨sameApplication, sameStart⟩ := ok.current held
  exact ⟨sameApplication.trans application, sameStart.trans newest⟩

theorem taskOk {slot : Nat × Task} (member : slot ∈ tasks) (ok : TaskOk before slot.2) :
    TaskOk after slot.2 := by
  obtain ⟨p, task⟩ := slot
  cases task with
  | taken => trivial
  | finding => exact evolves.app.trans ok
  | trading | loading | waiting | rereading | updating => exact Kin.trans ok evolves.kin
  | traded | installation => exact ⟨ok.1.trans evolves.kin, ok.2⟩
  | renewing =>
    exact ⟨ok.1.trans evolves.kin, evolves.startedWith ok.2⟩
  | exchanging =>
    exact ⟨ok.1.trans evolves.kin, evolves.startedWith ok.2.1, ok.2.2⟩
  | expiring =>
    obtain ⟨kin, other, newest⟩ := ok
    refine ⟨kin.trans evolves.kin, other, fun holds => ?_⟩
    obtain ⟨held, same⟩ := evolves.unnamed (fun github => other (kin.github.mpr github))
      ⟨_, member, rfl⟩ holds
    exact (newest held).trans same
  | installing entry installation exchange asked started =>
    obtain ⟨kin, github, issued, newest⟩ := ok
    refine ⟨kin.trans evolves.kin, github, issued, fun holds => ?_⟩
    obtain ⟨held, same⟩ := evolves.installation installation (kin.github.mp github)
      ⟨_, member, by simp [Task.asksFor]⟩ holds
    exact (newest held).trans same

end Evolves

/-- A write that keeps what is true of the row and of the tasks under way. -/
def Keeps (tasks : List (Nat × Task)) (before after : Shared) : Prop :=
  Evolves tasks before after ∧ RowOk after

theorem Inv.put {state : State} (inv : Inv state) {after : Shared}
    (keeps : Keeps state.tasks.rows state.toShared after) : Inv (state.put after) :=
  ⟨keeps.2, fun slot member => keeps.1.taskOk member (inv.tasks slot member), inv.answered,
    inv.renewed⟩

section Writes

variable {tasks : List (Nat × Task)} {shared : Shared}

/-- A write that leaves the application, the status, the GitHub App and the refresh token. -/
theorem Evolves.of_same {row : Connection} {serial : Nat} (le : shared.serial ≤ serial)
    (application : row.entry.application = shared.row.entry.application)
    (status : row.entry.status = shared.row.entry.status) (app : row.app = shared.row.app)
    (refresh : row.stored.refreshToken = shared.row.stored.refreshToken) :
    Evolves tasks shared ⟨row, serial, shared.authorizations⟩ := by
  have holds : ∀ current, row.HoldsRefresh current ↔ shared.row.HoldsRefresh current := by
    simp [Connection.HoldsRefresh, status, refresh]
  have installed : ∀ installation,
      row.HoldsInstallation installation ↔ shared.row.HoldsInstallation installation := by
    simp [Connection.HoldsInstallation, status, app]
  refine ⟨Kin.of_application application.symm, by simp [app], le, ?_, ?_, ?_⟩
  · intro current _ held
    exact ⟨(holds _).mp held, application.symm, rfl⟩
  · intro _ _ held
    exact ⟨(holds _).mp held, rfl⟩
  · intro installation _ _ held
    exact ⟨(installed _).mp held, rfl⟩

/-- A write after which the row is not connected. -/
theorem Evolves.of_disconnected {after : Shared} (kin : Kin shared.row.entry after.row.entry)
    (app : after.row.app = shared.row.app) (le : shared.serial ≤ after.serial)
    (disconnected : after.row.entry.status ≠ .connected) : Evolves tasks shared after :=
  ⟨kin, by rw [app], le, fun _ _ held => absurd held.1 disconnected,
    fun _ _ held => absurd held.1 disconnected, fun _ _ _ held => absurd held.1 disconnected⟩

variable (ok : RowOk shared)
include ok

theorem keeps_expired :
    Keeps tasks shared ⟨shared.row.expired, shared.serial, shared.authorizations⟩ := by
  constructor
  · refine .of_disconnected (Kin.of_application rfl) rfl (Nat.le_refl _) ?_
    simp [expired]
  · refine ⟨?_, ok.github, ?_⟩
    · simp [expired, tokens, StoredConnection.tokens, StoredConnection.dropTokens]
    · simp [expired, StoredConnection.dropTokens]

/-! ### Updates -/

section Update

variable {entry : GitConnectionEntry} {clientSecret : Option String}

omit ok in
theorem application_update :
    (shared.row.updateGitConnection entry clientSecret).entry.application = entry.application :=
  rfl

theorem keeps_update (kin : Kin entry shared.row.entry) :
    Keeps tasks shared
      ⟨shared.row.updateGitConnection entry clientSecret, shared.serial,
        shared.authorizations⟩ := by
  have github : shared.row.app.isSome → entry.provider = .github :=
    fun some => kin.github.mpr (ok.github some)
  by_cases same : shared.row.entry.application = entry.application
  · refine ⟨.of_same (Nat.le_refl _) (application_update.trans same.symm) ?_ rfl ?_,
      ?_, github, ?_⟩
    · simp [updateGitConnection, same]
    · simp [updateGitConnection, same]
    · intro sealed member
      rw [application_update, ← same]
      refine ok.issued sealed ?_
      simpa [updateGitConnection, same, tokens,
        StoredConnection.tokens] using member
    · intro refresh member
      refine ok.sealed_before refresh ?_
      simpa [updateGitConnection, same] using member
  · refine ⟨.of_disconnected ?_ rfl (Nat.le_refl _) ?_, ?_, github, ?_⟩
    · refine ⟨kin.github.symm, fun github => ?_⟩
      exact (kin.application (kin.github.mp github)).symm
    · simp [updateGitConnection, same]
    · simp [updateGitConnection, same, tokens, StoredConnection.tokens,
        StoredConnection.dropTokens]
    · simp [updateGitConnection, same, StoredConnection.dropTokens]

end Update

/-! ### Authorizations -/

section Connect

variable {exchange : Exchange} {grant : TokenGrant} {account redirectUri : String} {now : Nat}

theorem keeps_connect (oauth : shared.row.entry.provider ≠ .github)
    (alone : grant.refreshToken = none → ∀ slot ∈ tasks, !slot.2.expires)
    (issued : exchange.IssuedTo shared.row.entry.application) :
    Keeps tasks shared
      ⟨shared.row.connectGitConnection account redirectUri
        (sealGrant shared.serial exchange grant none now), shared.serial + 2,
        shared.authorizations + 1⟩ := by
  refine ⟨⟨Kin.of_application rfl, rfl, by simp, ?_, ?_, fun _ github => absurd github oauth⟩,
    ?_, ok.github, ?_⟩
  · rintro refresh before ⟨-, held⟩
    -- the new refresh token has a number that no earlier one has
    obtain ⟨stored, granted, same⟩ := Option.map_eq_some_iff.mp held
    rcases mem_sealGrant now (SealedTokens.refresh_mem granted) with ⟨-, new, -⟩ | kept
    · omega
    · cases kept
  · rintro - ⟨slot, member, expires⟩ ⟨-, held⟩
    cases granted : grant.refreshToken with
    | none =>
      have quiet := alone granted slot member
      simp [expires] at quiet
    | some => simp [connectGitConnection, sealGrant, granted] at held
  · intro sealed member
    rcases mem_sealGrant now member with ⟨granted, -, -⟩ | kept
    · rw [granted]
      exact issued
    · cases kept
  · intro refresh member
    rcases mem_sealGrant now (SealedTokens.refresh_mem member) with ⟨-, -, bound⟩ | kept
    · exact bound
    · cases kept

end Connect

/-! ### Renewals -/

section Renew

variable {entry : GitConnectionEntry} {refresh : SealedToken} {exchange : Exchange}
  {grant : TokenGrant} {now started : Nat} {row : Connection}

theorem keeps_renew (start : StartedWith shared entry refresh started)
    (issued : exchange.IssuedTo entry.application)
    (written : shared.row.renewGitTokens
      (sealGrant shared.serial exchange grant (some refresh) now) (some refresh) = some row) :
    Keeps tasks shared ⟨row, shared.serial + 2, shared.authorizations⟩ := by
  obtain ⟨holds, sameEntry, app, tokens, stored⟩ := renewGitTokens_spec written
  have application : shared.row.entry.application = row.entry.application := by rw [sameEntry]
  refine ⟨⟨Kin.of_application application, by rw [app], Nat.le_add_right _ _, ?_, ?_, ?_⟩,
    ?_, ?_, ?_⟩
  · rintro other before ⟨connected, held⟩
    obtain ⟨token, granted, same⟩ := Option.map_eq_some_iff.mp held
    rw [stored] at granted
    rcases mem_sealGrant now (SealedTokens.refresh_mem granted) with ⟨-, new, -⟩ | kept
    · omega
    · cases kept
      refine ⟨⟨sameEntry ▸ connected, ?_⟩, application, rfl⟩
      rw [holds.2, Option.map_some, Option.map_some, same]
  · rintro - - ⟨-, held⟩
    rw [stored] at held
    cases granted : grant.refreshToken <;> simp [sealGrant, granted] at held
  · rintro installation - - ⟨connected, installed⟩
    exact ⟨⟨sameEntry ▸ connected, app ▸ installed⟩, rfl⟩
  · intro sealed member
    rw [tokens] at member
    rw [← application, ← (start.current holds).1]
    rcases mem_sealGrant now member with ⟨granted, -, -⟩ | kept
    · rw [granted]
      exact issued
    · cases kept
      exact start.issued
  · rw [app, sameEntry]
    exact ok.github
  · intro other member
    rw [stored] at member
    have bound := start.sealed_before
    rcases mem_sealGrant now (SealedTokens.refresh_mem member) with ⟨-, -, new⟩ | kept
    · exact new
    · cases kept
      show refresh.serial < shared.serial + 2
      omega

end Renew

/-! ### GitHub Apps -/

section Github

variable {installation expiresAt : Nat} {account : String} {access : SealedToken}
  {row : Connection}

theorem keeps_renewInstallation
    (issued : access.token.issued.IssuedTo shared.row.entry.application)
    (written : shared.row.renewGithubInstallationTokens installation access expiresAt =
      some row) :
    Keeps tasks shared ⟨row, shared.serial + 1, shared.authorizations⟩ := by
  obtain ⟨-, sameEntry, app, tokens, stored⟩ :=
    renewGithubInstallationTokens_spec written
  refine ⟨.of_same (Nat.le_succ _) (by rw [sameEntry]) (by rw [sameEntry]) app stored, ?_, ?_, ?_⟩
  · intro sealed member
    rw [sameEntry]
    rw [tokens] at member
    rcases List.mem_cons.mp member with rfl | refresh
    · exact issued
    · exact ok.issued sealed (List.mem_append_right _ refresh)
  · rw [app, sameEntry]
    exact ok.github
  · intro refresh member
    rw [stored] at member
    exact Nat.lt_succ_of_lt (ok.sealed_before refresh member)

theorem keeps_install (github : shared.row.entry.provider = .github)
    (alone : ∀ slot ∈ tasks, !slot.2.asksFor installation) :
    Keeps tasks shared
      ⟨shared.row.installGithubApp installation account, shared.serial,
        shared.authorizations + 1⟩ := by
  refine ⟨⟨Kin.of_application rfl, ?_, Nat.le_refl _, ?_, fun other => absurd github other, ?_⟩,
    ?_, ?_, ?_⟩
  · simp [installGithubApp]
  · rintro refresh - ⟨-, held⟩
    simp [installGithubApp, StoredConnection.dropTokens] at held
  · rintro asked - ⟨⟨p, task⟩, member, asks⟩ ⟨-, held⟩
    -- the renewal would wait for the installation that is stored now
    exfalso
    have quiet := alone _ member
    obtain ⟨app, known, same⟩ := Option.bind_eq_some_iff.mp held
    obtain ⟨before, -, rfl⟩ := Option.map_eq_some_iff.mp known
    have number : sqlInt installation = sqlInt asked := Option.some.inj same
    cases task <;> simp [Task.asksFor] at asks quiet
    exact quiet (asks.trans number.symm)
  · simp [installGithubApp, tokens, StoredConnection.tokens, StoredConnection.dropTokens]
  · intro some
    refine ok.github ?_
    simpa [installGithubApp] using some
  · simp [installGithubApp, StoredConnection.dropTokens]

end Github

end Writes

/-! ## Every step keeps the invariant -/

namespace Inv

variable {state : State} (inv : Inv state) {p : Nat} {now : Nat} {input : Input}

include inv

theorem answerCurrent {entry : GitConnectionEntry} {otherwise : State}
    (site : (currentToken state.row.stored now).isSome → entry.site = state.row.entry.site)
    (goesOn : currentToken state.row.stored now = none → Inv otherwise) :
    Inv (state.answerCurrent p entry now otherwise) := by
  unfold State.answerCurrent
  split
  · rename_i sealed current
    have issued := inv.row.issued sealed (currentToken_mem current)
    exact inv.finish (issued.1.trans (site (by simp [current])).symm)
  · rename_i none
    exact goesOn none

theorem renewGitToken {entry : GitConnectionEntry} (kin : Kin entry state.row.entry)
    (calm : if (currentToken state.row.stored now).isSome then
      entry.site = state.row.entry.site
      else entry.application = state.row.entry.application) :
    Inv (state.renewGitToken p entry now) := by
  refine inv.answerCurrent (fun current => by rwa [if_pos current] at calm) fun none => ?_
  have application : entry.application = state.row.entry.application := by
    rwa [none, Option.isSome_none, if_neg Bool.false_ne_true] at calm
  split
  · rename_i github
    exact inv.lock.goto ⟨kin, github⟩
  · rename_i oauth
    split
    · exact inv.lock.goto ⟨kin, oauth, fun _ => rfl⟩
    · rename_i refresh stored
      refine inv.lock.goto ⟨kin, inv.row.sealed_before refresh stored, ?_, ?_⟩
      · rw [application]
        refine inv.row.issued refresh ?_
        simp [tokens, StoredConnection.tokens, stored]
      · exact fun _ => ⟨application, rfl⟩

/-- A renewal whose statement matched started with the newest authorization. -/
theorem applied {entry : GitConnectionEntry} {started serial : Nat} {written : Option Connection}
    {answer : Answer} (kin : Kin entry state.row.entry) (le : state.serial ≤ serial)
    (wrote : ∀ row, written = some row → started = state.authorizations ∧ Fits answer ∧
      Keeps state.tasks.rows state.toShared ⟨row, serial, state.authorizations⟩) :
    Inv (state.applied p entry started serial written answer) := by
  cases written with
  | some row =>
    obtain ⟨newest, fits, keeps⟩ := wrote row rfl
    exact ((inv.record newest).put keeps).finish fits
  | none =>
    have ok : RowOk ⟨state.row, serial, state.authorizations⟩ :=
      ⟨inv.row.issued, inv.row.github, fun refresh member =>
        Nat.lt_of_lt_of_le (inv.row.sealed_before refresh member) le⟩
    exact (inv.put ⟨.of_same le rfl rfl rfl rfl, ok⟩).goto kin

variable {task : Task}

/-- The two statements that expire a connection. -/
theorem expiry {entry : GitConnectionEntry} {started : Nat} {holds : Prop} [Decidable holds]
    (kin : Kin entry state.row.entry) (newest : holds → started = state.authorizations) :
    Inv (state.applied p entry started state.serial
      (if holds then some state.row.expired else none) state.notConnected) := by
  refine inv.applied kin (Nat.le_refl _) fun row written => ?_
  split at written
  · rename_i held
    cases written
    exact ⟨newest held, trivial, keeps_expired inv.row⟩
  · cases written

/-! ### The steps of the tasks -/

section Advance

variable (ok : TaskOk state.toShared task) (calm : Calm state task input)
include ok calm

theorem advanceCallback : Inv (state.advanceCallback p task input) := by
  unfold State.advanceCallback
  split
  · exact inv.goto (Kin.refl _)
  · split
    · exact inv.finish trivial
    · rename_i oauth
      refine inv.goto ⟨ok, oauth, rfl, ?_⟩
      simp [codeExchange, Exchange.clientId, GitConnectionEntry.application]
  · obtain ⟨kin, oauth, issued⟩ := ok
    obtain ⟨application, alone⟩ := calm
    have other : state.row.entry.provider ≠ .github :=
      fun github => oauth (kin.github.mpr github)
    exact (inv.put (keeps_connect inv.row other alone (application ▸ issued))).finish trivial
  · exact inv.finish trivial
  · exact inv

theorem advanceAccess : Inv (state.advanceAccess p task input) := by
  unfold State.advanceAccess
  split
  · exact inv.answerCurrent calm fun _ => inv.goto ok
  · split
    · rename_i free
      exact inv.renewGitToken ok (calm free)
    · exact inv
  · refine inv.goto ⟨ok.1, ok.2, rfl, ?_⟩
    simp [refreshExchange, Exchange.clientId, GitConnectionEntry.application]
  · obtain ⟨kin, start, issued⟩ := ok
    refine inv.applied kin (Nat.le_add_right _ _) fun row written => ?_
    have holds := (renewGitTokens_spec written).1
    exact ⟨(start.current holds).2, issued.1, keeps_renew inv.row start issued written⟩
  · exact inv.expiry ok.1 fun holds => (ok.2.1.current holds).2
  · exact inv.expiry ok.1 ok.2.2
  · split
    · exact inv.finish trivial
    · split
      · exact inv.finish trivial
      · exact inv.goto ⟨ok.1, ok.2, ⟨rfl, rfl⟩, fun _ => rfl⟩
  · obtain ⟨kin, github, issued, newest⟩ := ok
    have application := kin.application (kin.github.mp github)
    refine inv.applied kin (Nat.le_add_right _ _) fun row written => ?_
    have holds := (renewGithubInstallationTokens_spec written).1
    exact ⟨newest holds, issued.1,
      keeps_renewInstallation inv.row (application ▸ issued) written⟩
  · exact inv.expiry ok.1 ok.2.2.2
  · exact inv.answerCurrent calm fun _ => inv.finish trivial
  · exact inv

theorem advanceChange : Inv (state.advanceChange p task input) := by
  unfold State.advanceChange
  split
  · exact (inv.put (keeps_update inv.row ok)).finish trivial
  · exact (inv.put (keeps_install inv.row (inv.row.github ok) calm)).finish trivial
  · exact inv

theorem advance : Inv (state.advance p task input) := by
  unfold State.advance
  split
  · exact inv.finish trivial
  · split
    · exact inv.advanceCallback ok calm
    · exact inv.advanceCallback ok calm
    · exact inv.advanceCallback ok calm
    · exact inv.advanceChange ok calm
    · exact inv.advanceChange ok calm
    · exact inv.advanceAccess ok calm

end Advance

theorem begin (call : State.Call) : Inv (state.begin p call) := by
  cases call with
  | callback key code now =>
    have kept := inv.pending (PendingAuthorizations.take state.pending key now).2
    simp only [State.begin, State.beginCallback]
    split
    · exact kept.finish trivial
    · split
      · split
        · exact kept.goto trivial
        · exact kept
      · exact kept
  | access =>
    simp only [State.begin]
    split
    · exact inv.goto (Kin.refl _)
    · exact inv.finish trivial
  | update =>
    simp only [State.begin]
    split
    · exact inv.finish trivial
    · rename_i entry checked
      exact inv.goto (updatedEntry_kin checked)
  | install =>
    simp only [State.begin]
    split
    · rename_i app
      exact inv.goto app
    · exact inv.finish trivial

theorem step {event : Event} (calm : Undisturbed state event) : Inv (step state event) := by
  cases event with
  | authorize =>
    rw [GitTokens.step, State.authorizeGitConnection]
    split
    · exact inv
    · exact inv.pending _
  | createApp | cancel | dropUser => exact inv.pending _
  | begin p call =>
    rw [GitTokens.step]
    split
    · exact inv
    · exact inv.begin call
  | advance =>
    rw [GitTokens.step]
    split
    · rename_i q task found
      exact inv.advance (inv.task found) (calm (q, task) found)
    · exact inv

end Inv

/-! ## Every run -/

/-- Nothing waits and nothing is under way. -/
def start (row : Connection) : State where
  row := row
  serial := 0
  authorizations := 0
  pending := Table.empty
  tasks := Table.empty
  renewing := none
  answers := []
  writes := []

theorem inv_start {row : Connection} (new : Inserted row) : Inv (start row) := by
  obtain ⟨access, refresh, github⟩ := new.spec
  refine ⟨⟨?_, github, ?_⟩, by simp [start], by simp [start], by simp [start]⟩
  · simp [start, tokens, StoredConnection.tokens, access, refresh]
  · simp [start, refresh]

/-- **Tokens stay with their application.**  In every run in which the steps find what `Calm` asks
for, every state has the tokens of a connected row issued to the application of the row, every
token that was returned with the address that it was issued by, and no newer authorization that a
renewal wrote over. -/
theorem tokens_stay_with_application {row : Connection} (new : Inserted row)
    {events : List Event} (undisturbed : Guarded step Undisturbed (start row) events) :
    Throughout step Kept (start row) events := by
  have keeps : ∀ state event, Inv state → Undisturbed state event → Inv (step state event) :=
    fun _ _ inv calm => inv.step calm
  have sound : ∀ state, Inv state → Kept state := fun _ => Inv.kept
  exact Guarded.throughout keeps sound (inv_start new) undisturbed

/-! ## A connection that moves from one provider to another -/

section Moves

def request (url clientId : String) : GitConnectionRequest :=
  ⟨"team", .gitea, some url, clientId, some "secret"⟩

def firstRow : Connection :=
  insertedRow ShortId.new "team" .gitea "https://one.example" "client-1" "secret" none none 0

theorem firstRow_inserted : Inserted firstRow := by
  refine @Inserted.oauth ShortId.new (request "https://one.example" "client-1") 0 _ ?_
  decide

/-- An authorization that task `p` finishes up to the exchange of its code. -/
def trade (p : Nat) (key : String) (now : Nat) : List Event :=
  [.authorize ShortId.new key "verifier" "https://admin.example" "admin" now,
    .begin p (.callback key "code" now), .advance p (.read now), .advance p (.read now)]

def grant (access : String) (refresh : Option String) (lifetime : Nat) : Input :=
  .granted ⟨access, refresh, some lifetime⟩ "alice" 0

def connect (p : Nat) (key access : String) (refresh : Option String) (lifetime : Nat) :
    List Event :=
  trade p key 0 ++ [.advance p (grant access refresh lifetime)]

/-- The connection moves to another provider. -/
def move (p : Nat) : List Event :=
  [.begin p (.update (request "https://two.example" "client-2") none 5), .advance p (.read 5)]

/-- The connection is authorized, a token is renewed, the connection moves and is authorized
again. -/
def inOrder : List Event :=
  connect 1 "state-1" "access-1" (some "refresh-1") 30 ++
    [.begin 2 .access, .advance 2 (.read 0), .advance 2 (.read 0), .advance 2 (.read 0),
      .advance 2 (grant "access-2" none 3600)] ++
    move 3 ++ connect 4 "state-2" "access-3" (some "refresh-3") 3600 ++
    [.begin 5 .access, .advance 5 (.read 0)]

theorem inOrder_stays :
    Guarded step Undisturbed (start firstRow) inOrder ∧
      Throughout step Kept (start firstRow) inOrder := by
  refine ⟨?undisturbed, tokens_stay_with_application firstRow_inserted ?undisturbed⟩
  decide

/-- The connection moves while the callback waits for the first provider. -/
def lateCallback : List Event :=
  trade 1 "state-1" 0 ++ move 2 ++ [.advance 1 (grant "access-1" (some "refresh-1") 3600)]

/-- The connection moves and is authorized again after a reader read the entry. -/
def lateReader : List Event :=
  connect 1 "state-1" "access-1" (some "refresh-1") 3600 ++ [.begin 2 .access] ++ move 3 ++
    connect 4 "state-2" "access-2" (some "refresh-2") 3600 ++ [.advance 2 (.read 0)]

/-- A renewal finds no refresh token, and a new authorization without one lands before it expires
the connection. -/
def lateExpiry : List Event :=
  connect 1 "state-1" "access-1" none 30 ++
    [.begin 2 .access, .advance 2 (.read 0), .advance 2 (.read 0)] ++
    connect 3 "state-2" "access-2" none 3600 ++ [.advance 2 (.read 0)]

/-- **Each part fails in some run.**  Tokens of the first provider are stored under the second
one, a token of the second provider is returned with the address of the first, and a renewal
expires an authorization that is newer than the tokens it started from. -/
theorem late_steps_break_tokens :
    Inserted firstRow ∧
      ¬ Throughout step StoredFit (start firstRow) lateCallback ∧
      ¬ Throughout step AnswersFit (start firstRow) lateReader ∧
      ¬ Throughout step NewerKept (start firstRow) lateExpiry := by
  refine ⟨firstRow_inserted, ?_, ?_, ?_⟩ <;> decide

end Moves

end R3v3rs3.Platform.GitTokens
