/-
# R3v3rs3.Auth.SignIn -- signing in to the admin API and to the proxies

Two sign-ins share one session store.  A sign-in of an account with TOTP takes two requests: the
first checks the password and stores a `login` session, the second brings the code and the token
of that session.  The admin API looks at the `subject` of the stored record; the sign-in page of a
proxy only looks whether there is a record.

Requests interleave.  A request is a sequence of steps, each of which reads the state as it finds
it; the clock, the accounts, the directory and the settings change at any time between them (the
save of a check is such a change), and user names, hosts, cookies, forms and tokens are whatever
the events say.

The state also remembers what was really checked: `vouched` holds the account whose password the
request checked that stored a `login` session, and every session that is started carries its
`Evidence`.  `proven_throughout` is the result: where every presented `login` record belongs to
the account that signs in and is still alive, every session that is started is proven.
-/
import R3v3rs3.Auth.Sessions
import R3v3rs3.Theory.Run

namespace R3v3rs3.Auth.SignIn
open Theory Api LocalSessions
open Theory.Run (Guarded Throughout)
set_option autoImplicit false

/-! ## Requests on their way -/

/-- The form of a sign-in page; the user name and the code come trimmed. -/
structure LoginForm where
  username : String
  password : String
  totp : String

inductive Verification where
  | success
  | totpRequired
  | failed
  deriving DecidableEq

/-- A stored `login` session at the moment a request presents its token. -/
structure Presented where
  record : SessionRecord
  /-- The account whose password was checked when the session was stored. -/
  voucher : Option String
  /-- The session was not expired. -/
  alive : Bool

/-- What was checked for a request. -/
structure Evidence where
  /-- The account whose password the request brought, and whether the account had TOTP. -/
  password : Option (String × Bool)
  /-- The account whose code the request brought. -/
  code : Option String
  login : Option Presented

inductive Request where
  /-- A proxy read the session cookie. -/
  | opened (login : Option Presented)
  | formRead (form : LoginForm) (proxy : ShortId) (record : SessionRecord)
      (login : Option Presented)
  /-- The password is right, the code of the form is checked next. -/
  | codeDue (form : LoginForm) (proxy : ShortId) (record : SessionRecord) (evidence : Evidence)
  | decided (proxy : ShortId) (record : SessionRecord) (verification : Verification)
      (evidence : Evidence)
  /-- The admin API checked what has to hold before the credentials are checked. -/
  | checked (request : LoginRequest) (cookie : Option String) (loginRecord : Option SessionRecord)
      (login : Option Presented)
  | recorded (request : LoginRequest) (cookie : Option String)
      (loginRecord : Option SessionRecord) (start : SessionRecord) (login : Option Presented)
  | answered (request : LoginRequest) (cookie : Option String)
      (loginRecord : Option SessionRecord) (start : SessionRecord) (response : LoginResponse)
      (evidence : Evidence)

/-- A session that was started after a password or a code. -/
structure Started where
  scope : SessionScope
  account : String
  evidence : Evidence

structure State where
  now : Nat
  /-- `session_expiry` of the settings, and the copy the proxies work with. -/
  sessionExpiry : Nat
  proxySessionExpiry : Nat
  accounts : Accounts
  directory : Accounts
  sessions : LocalSessions
  requests : Nat → Option Request
  vouched : String → Option String
  started : List Started

def initial (accounts : Accounts) (sessionExpiry now : Nat) : State where
  now := now
  sessionExpiry := sessionExpiry
  proxySessionExpiry := sessionExpiry
  accounts := accounts
  directory := accounts
  sessions := Table.empty
  requests := fun _ => none
  vouched := fun _ => none
  started := []

namespace State

def request (s : State) (id : Nat) (phase : Option Request) : State :=
  { s with requests := Function.update s.requests id phase }

/-- Stores a `login` session for an account whose password was checked. -/
def challenge (s : State) (token : String) (record : SessionRecord) (expiry : Nat)
    (voucher : Option String) : State :=
  { s with
    sessions := s.sessions.create .login token record expiry s.now
    vouched := Function.update s.vouched token voucher }

/-- The lifetime of a `login` session: five minutes when a proxy stored it. -/
def lifetime (s : State) (record : SessionRecord) : Nat :=
  if record.account.isSome then 300 * 1000 else expiry s.sessionExpiry

/-- Looks a `login` session up. -/
def present (s : State) (token : String) : Option Presented :=
  (s.sessions.get .login token).map fun record =>
    ⟨record, s.vouched token, record.isActive (s.lifetime record) s.now⟩

end State

section Steps

variable (lib : CredentialLibrary) (s : State)

def passwordEvidence (username password : String) : Option (String × Bool) :=
  (rightPassword lib s.accounts username password).map fun hasTotp => (username, hasTotp)

def codeEvidence (username token : String) : Option String :=
  (codeStep lib s.now s.accounts username token).map fun _ => username

/-! ## The sign-in page of a proxy -/

def checkCode (available : Bool) (form : LoginForm) : Verification :=
  match (verifyAccount lib s.now s.accounts ⟨form.username, .totp form.totp⟩ available).2 with
  | .ok .success => .success
  | _ => .failed

/-- `verify`, one credential at a time. -/
def proxyVerify (available : Bool) : Request → Option Request
  | .formRead form proxy record login =>
    if login.isSome ∧ form.totp ≠ "" then
      some (.decided proxy record (checkCode lib s available form)
        ⟨none, codeEvidence lib s form.username form.totp, login⟩)
    else
      let evidence : Evidence :=
        ⟨passwordEvidence lib s form.username form.password, none, login⟩
      match (verifyAccount lib s.now s.accounts ⟨form.username, .password form.password⟩
          available).2 with
      | .ok .success => some (.decided proxy record .success evidence)
      | .ok .totpRequired =>
        if form.totp = "" then some (.decided proxy record .totpRequired evidence)
        else some (.codeDue form proxy record evidence)
      | .error _ => some (.decided proxy record .failed evidence)
  | .codeDue form proxy record evidence =>
    some (.decided proxy record (checkCode lib s available form)
      { evidence with code := codeEvidence lib s form.username form.totp })
  | other => some other

/-- An account that does not see the proxy gets the answer of a wrong password. -/
def proxyFinish (id : Nat) (token : String) : State :=
  match s.requests id with
  | some (.decided proxy record verification evidence) =>
    let s := s.request id none
    if canOpen s.directory record proxy = false then s
    else
      match verification with
      | .success =>
        { s with
          sessions := s.sessions.create .proxy token record (expiry s.proxySessionExpiry) s.now
          started := s.started ++ [⟨.proxy, record.account.getD "", evidence⟩] }
      | .totpRequired =>
        s.challenge token record (300 * 1000) (evidence.password.map Prod.fst)
      | .failed => s
  | _ => s

/-! ## The sign-in of the admin API -/

/-- A passkey may come without a user name. -/
def resolveLoginUsername (directory : Accounts) (request : LoginRequest) : LoginRequest :=
  match request.method with
  | .passkey credentialId _ =>
    if request.username = "" then
      { request with
        username := ((directory.rows.find? fun row =>
          row.2.passkeys.any (·.id = credentialId)).map Prod.fst).getD request.username }
    else request
  | _ => request

def verifyLoginSession (token username : String) : Option SessionRecord :=
  (s.sessions.get .login token).filter fun record =>
    record.isActive (expiry s.sessionExpiry) s.now && record.subject = username &&
      (caller s.directory record).isSome

/-- The phase after the checks before the credentials; `none` when one fails.  `permitted` is
false when codes of the account are blocked, or when the challenge of the passkey is not known. -/
def adminCheck (request : LoginRequest) (cookie : Option String) (permitted : Bool) :
    Option Request :=
  match request.method with
  | .totp _ =>
    match cookie with
    | none => none
    | some token =>
      match verifyLoginSession s token request.username with
      | some record =>
        if permitted then some (.checked request cookie (some record) (s.present token))
        else none
      | none => none
  | .passkey _ _ => if permitted then some (.checked request cookie none none) else none
  | .password _ => some (.checked request cookie none none)

def adminEvidence (request : LoginRequest) (login : Option Presented) : Evidence :=
  match request.method with
  | .password password => ⟨passwordEvidence lib s request.username password, none, login⟩
  | .totp token => ⟨none, codeEvidence lib s request.username token, login⟩
  | .passkey _ _ => ⟨none, none, login⟩

/-- The credentials are checked; an error ends the request. -/
def adminVerify (available : Bool) : Request → Option Request
  | .recorded request cookie loginRecord start login =>
    match (verifyAccount lib s.now s.accounts request available).2 with
    | .ok response => some (.answered request cookie loginRecord start response
        (adminEvidence lib s request login))
    | .error _ => none
  | other => some other

def isPasskey : LoginMethod → Bool
  | .passkey _ _ => true
  | _ => false

def adminFinish (id : Nat) (token : String) : State :=
  match s.requests id with
  | some (.answered request cookie loginRecord start response evidence) =>
    let s := s.request id none
    match response with
    | .success =>
      let record := loginRecord.getD start
      let sessions := cookie.elim s.sessions (s.sessions.remove .login ·)
      { s with
        sessions := sessions.create .admin token record (expiry s.sessionExpiry) s.now
        started :=
          if isPasskey request.method then s.started
          else s.started ++ [⟨.admin, record.subject, evidence⟩] }
    | .totpRequired =>
      s.challenge token start (expiry s.sessionExpiry) (evidence.password.map Prod.fst)
  | _ => s

/-! ## Runs -/

inductive Event where
  | clock (now : Nat)
  | configure (sessionExpiry proxySessionExpiry : Nat)
  | saveAccounts (accounts : Accounts)
  | publish (directory : Accounts)
  | removeExpired (expiry : Nat)
  | removeSession (scope : SessionScope) (token : String)
  /-- A session of the admin API or of a proxy that another part of the server starts. -/
  | startOther (scope : SessionScope) (token : String) (record : SessionRecord) (expiry : Nat)
  | proxyOpen (id : Nat) (cookie : Option String)
  /-- The form is read; `allowed` is the answer of the rate limits. -/
  | proxyForm (id : Nat) (form : LoginForm) (host : String) (proxy : ShortId) (allowed : Bool)
  | proxyVerify (id : Nat) (available : Bool)
  | proxyFinish (id : Nat) (token : String)
  | adminOpen (id : Nat) (request : LoginRequest) (cookie : Option String) (permitted : Bool)
  | adminRecord (id : Nat)
  | adminVerify (id : Nat) (available : Bool)
  | adminFinish (id : Nat) (token : String)

/-- Continues a request that is under way. -/
def advance (id : Nat) (next : Request → Option Request) : State :=
  match s.requests id with
  | some phase => s.request id (next phase)
  | none => s

def step : Event → State
  | .clock now => { s with now }
  | .configure sessionExpiry proxySessionExpiry => { s with sessionExpiry, proxySessionExpiry }
  | .saveAccounts accounts => { s with accounts }
  | .publish directory => { s with directory }
  | .removeExpired expiry => { s with sessions := s.sessions.removeExpired expiry s.now }
  | .removeSession scope token => { s with sessions := s.sessions.remove scope token }
  | .startOther scope token record expiry =>
    if scope = .login then s
    else { s with sessions := s.sessions.create scope token record expiry s.now }
  | .proxyOpen id cookie =>
    if (s.requests id).isSome then s
    else s.request id (some (.opened (cookie.bind s.present)))
  | .proxyForm id form host proxy allowed => advance s id fun phase =>
    match phase with
    | .opened login =>
      if allowed then
        some (.formRead form proxy (.proxy host form.username s.now) login)
      else none
    | other => some other
  | .proxyVerify id available => advance s id (proxyVerify lib s available)
  | .proxyFinish id token => proxyFinish s id token
  | .adminOpen id request cookie permitted =>
    if (s.requests id).isSome then s
    else s.request id (adminCheck s (resolveLoginUsername s.directory request) cookie permitted)
  | .adminRecord id => advance s id fun phase =>
    match phase with
    | .checked request cookie loginRecord login =>
      some (.recorded request cookie loginRecord (.new request.username s.now) login)
    | other => some other
  | .adminVerify id available => advance s id (adminVerify lib s available)
  | .adminFinish id token => adminFinish s id token

end Steps

/-! ## What a started session has to rest on -/

/-- The password of the account was checked in the request that started the session and the
account has no TOTP; or a code of the account was checked, and its password in the same request
or in the one that stored the presented `login` session, which was not expired. -/
def Started.Proven (session : Started) : Prop :=
  session.evidence.password = some (session.account, false) ∨
    session.evidence.code = some session.account ∧
      (session.evidence.password = some (session.account, true) ∨
        ∃ login ∈ session.evidence.login,
          login.voucher = some session.account ∧ login.alive = true)

instance (session : Started) : Decidable session.Proven :=
  inferInstanceAs (Decidable (_ ∨ _ ∧ (_ ∨ ∃ _ ∈ _, _)))

def Proven (s : State) : Prop := ∀ session ∈ s.started, session.Proven

instance : DecidablePred Proven := fun _ => inferInstanceAs (Decidable (∀ _ ∈ _, _))

/-- The account that a record of either sign-in belongs to. -/
def owner (record : SessionRecord) : String := record.account.getD record.subject

/-- A step that relies on a presented `login` record relies on one that belongs to the account
that signs in and is alive. -/
def genuine (s : State) : Event → Bool
  | .proxyForm id form _ _ _ =>
    match s.requests id with
    | some (.opened (some login)) =>
      form.totp = "" || (owner login.record = form.username && login.alive)
    | _ => true
  | .adminOpen _ ⟨username, .totp _⟩ (some token) _ =>
    match verifyLoginSession s token username with
    | some record =>
      owner record = username && record.isActive (s.lifetime record) s.now
    | none => true
  | _ => true

/-! ## The invariant -/

/-- The voucher of a presented session is the owner of its record. -/
def Presented.Ok (login : Presented) : Prop := login.voucher = some (owner login.record)

/-- A presented session that stands for the password of the account. -/
def Presented.StandsFor (login : Presented) (username : String) : Prop :=
  login.voucher = some username ∧ login.alive = true

def Request.Ok : Request → Prop
  | .opened login => ∀ presented ∈ login, presented.Ok
  | .formRead form _ record login =>
    record.account = some form.username ∧
      ∀ presented ∈ login, form.totp ≠ "" → presented.StandsFor form.username
  | .codeDue form _ record evidence =>
    record.account = some form.username ∧ evidence.password = some (form.username, true)
  | .decided _ record verification evidence =>
    ∃ username, record.account = some username ∧
      (verification = .success → Started.Proven ⟨.proxy, username, evidence⟩) ∧
      (verification = .totpRequired → evidence.password = some (username, true))
  | .checked request _ loginRecord login =>
    (∀ record ∈ loginRecord, record.subject = request.username) ∧
      ∀ token, request.method = .totp token →
        ∃ presented, login = some presented ∧ presented.StandsFor request.username
  | .recorded request _ loginRecord start login =>
    (∀ record ∈ loginRecord, record.subject = request.username) ∧
      start.subject = request.username ∧ start.account = none ∧
      ∀ token, request.method = .totp token →
        ∃ presented, login = some presented ∧ presented.StandsFor request.username
  | .answered request _ loginRecord start response evidence =>
    (∀ record ∈ loginRecord, record.subject = request.username) ∧
      start.subject = request.username ∧ start.account = none ∧
      (response = .success → isPasskey request.method = false →
        Started.Proven ⟨.admin, request.username, evidence⟩) ∧
      (response = .totpRequired → evidence.password = some (request.username, true))

/-- What is so of every request under way. -/
def Phases (ok : Request → Prop) (s : State) : Prop :=
  ∀ id phase, s.requests id = some phase → ok phase

variable {next : Option Request}

section Phases

variable {s : State} {ok : Request → Prop}

theorem Phases.request (phases : Phases ok s) {id : Nat}
    (after : ∀ phase, next = some phase → ok phase) : Phases ok (s.request id next) := by
  intro other phase known
  by_cases same : other = id
  · subst same
    have here : next = some phase := by simpa [State.request] using known
    exact after phase here
  · exact phases other phase (by simpa [State.request, same] using known)

theorem Phases.ended (phases : Phases ok s) (id : Nat) : Phases ok (s.request id none) :=
  phases.request fun _ absent => by cases absent

theorem Phases.advance (phases : Phases ok s) {id : Nat} {next : Request → Option Request}
    (after : ∀ phase moved, ok phase → next phase = some moved → ok moved) :
    Phases ok (advance s id next) := by
  unfold SignIn.advance
  split
  · rename_i phase known
    exact phases.request fun moved isNext => after phase moved (phases id phase known) isNext
  · exact phases

end Phases

structure Inv (s : State) : Prop where
  vouched : ∀ token record, s.sessions.get .login token = some record →
    s.vouched token = some (owner record)
  phases : ∀ id phase, s.requests id = some phase → phase.Ok
  started : Proven s

theorem inv_initial (accounts : Accounts) (sessionExpiry now : Nat) :
    Inv (initial accounts sessionExpiry now) where
  vouched _ _ found := by cases found
  phases _ _ known := by cases known
  started session member := by cases member

section Preservation

variable {lib : CredentialLibrary} {s : State} {token : String} {available : Bool}
  {response : LoginResponse} {username : String} {form : LoginForm} {after : Request}
  {cookie : Option String} {permitted : Bool} {directory : Accounts}

theorem Inv.request (inv : Inv s) {id : Nat} (ok : ∀ phase, next = some phase → phase.Ok) :
    Inv (s.request id next) where
  vouched := inv.vouched
  phases := Phases.request inv.phases ok
  started := inv.started

theorem Inv.ended (inv : Inv s) (id : Nat) : Inv (s.request id none) := by
  apply inv.request
  intro phase absent
  cases absent

theorem Inv.advance (inv : Inv s) {id : Nat} {next : Request → Option Request}
    (ok : ∀ phase after, phase.Ok → next phase = some after → after.Ok) :
    Inv (advance s id next) := by
  unfold SignIn.advance
  split
  · rename_i phase known
    exact inv.request fun after moved => ok phase after (inv.phases id phase known) moved
  · exact inv

variable {request : LoginRequest}

/-- A step that changes neither requests nor started sessions, and only takes sessions away or
adds ones of another scope. -/
theorem Inv.sessions (inv : Inv s) {next : LocalSessions}
    (fewer : ∀ token record, next.get .login token = some record →
      s.sessions.get .login token = some record) : Inv { s with sessions := next } where
  vouched token record found := inv.vouched token record (fewer token record found)
  phases := inv.phases
  started := inv.started

theorem Inv.challenge (inv : Inv s) {record : SessionRecord} {expiry : Nat}
    {voucher : Option String} (honest : voucher = some (owner record)) :
    Inv (s.challenge token record expiry voucher) where
  vouched other found known := by
    show Function.update s.vouched token voucher other = _
    rcases get_of_create known with ⟨-, rfl, rfl⟩ | ⟨different, before⟩
    · rw [Function.update_self, honest]
    · have apart : other ≠ token := fun same => different (by rw [same])
      rw [Function.update_of_ne apart]
      exact inv.vouched other found before
  phases := inv.phases
  started := inv.started

theorem Inv.start (inv : Inv s) {next : LocalSessions} {session : Started}
    (fewer : ∀ token record, next.get .login token = some record →
      s.sessions.get .login token = some record) (proven : session.Proven) :
    Inv { s with sessions := next, started := s.started ++ [session] } where
  vouched token record found := inv.vouched token record (fewer token record found)
  phases := inv.phases
  started other member := by
    rcases List.mem_append.mp member with before | new
    · exact inv.started other before
    · rw [List.mem_singleton] at new
      subst new
      exact proven

theorem Inv.present (inv : Inv s) {login : Presented} (known : s.present token = some login) :
    ∃ record, s.sessions.get .login token = some record ∧
      login = ⟨record, some (owner record), record.isActive (s.lifetime record) s.now⟩ := by
  obtain ⟨record, found, rfl⟩ := Option.map_eq_some_iff.mp known
  exact ⟨record, found, by rw [inv.vouched token record found]⟩

/-! ## The credentials -/

theorem verifyAccount_ok
    (ok : (verifyAccount lib s.now s.accounts request available).2 = .ok response) :
    ∃ saved, verifyAndUpdate lib s.now s.accounts request = .ok (response, saved) := by
  unfold verifyAccount at ok
  split at ok
  · split at ok <;> rename_i checked <;> cases ok
    exact ⟨_, checked⟩
  · cases ok

theorem passwordEvidence_of_ok {password : String}
    (ok : (verifyAccount lib s.now s.accounts ⟨username, .password password⟩ available).2 =
      .ok response) :
    passwordEvidence lib s username password = some (username, response == .totpRequired) := by
  obtain ⟨saved, checked⟩ := verifyAccount_ok ok
  rw [passwordEvidence, (verify_password_ok checked).1, Option.map_some]

theorem codeEvidence_of_ok
    (ok : (verifyAccount lib s.now s.accounts ⟨username, .totp token⟩ available).2 =
      .ok response) :
    codeEvidence lib s username token = some username ∧ response = .success := by
  obtain ⟨saved, checked⟩ := verifyAccount_ok ok
  obtain ⟨account, step, -, current, rfl, -⟩ := verify_totp_ok checked
  exact ⟨by rw [codeEvidence, current, Option.map_some], rfl⟩

theorem checkCode_success (accepted : checkCode lib s available form = .success) :
    codeEvidence lib s form.username form.totp = some form.username := by
  unfold checkCode at accepted
  split at accepted
  · rename_i ok
    exact (codeEvidence_of_ok ok).1
  · cases accepted

theorem checkCode_ne_totpRequired : checkCode lib s available form ≠ .totpRequired := by
  unfold checkCode
  split <;> simp

/-! ## The steps of a request -/

theorem proxyVerify_ok {phase : Request} (ok : phase.Ok)
    (moved : proxyVerify lib s available phase = some after) : after.Ok := by
  cases phase with
  | formRead form proxy record login =>
    obtain ⟨account, standing⟩ := ok
    simp only [proxyVerify] at moved
    split at moved
    · -- The presented session takes the place of the password.
      rename_i second
      cases moved
      obtain ⟨presented, rfl⟩ := Option.isSome_iff_exists.mp second.1
      obtain ⟨voucher, alive⟩ := standing presented rfl second.2
      refine ⟨form.username, account, fun accepted => ?_, fun required => ?_⟩
      · exact .inr ⟨checkCode_success accepted, .inr ⟨presented, rfl, voucher, alive⟩⟩
      · exact absurd required checkCode_ne_totpRequired
    · split at moved
      · rename_i accepted
        cases moved
        refine ⟨form.username, account, fun _ => .inl ?_, nofun⟩
        exact passwordEvidence_of_ok accepted
      · rename_i required
        have password := passwordEvidence_of_ok required
        split at moved
        · cases moved
          exact ⟨form.username, account, nofun, fun _ => password⟩
        · cases moved
          exact ⟨account, password⟩
      · cases moved
        exact ⟨form.username, account, nofun, nofun⟩
  | codeDue form proxy record evidence =>
    obtain ⟨account, password⟩ := ok
    cases moved
    refine ⟨form.username, account, fun accepted => ?_, fun required => ?_⟩
    · exact .inr ⟨checkCode_success accepted, .inl password⟩
    · exact absurd required checkCode_ne_totpRequired
  | opened | decided | checked | recorded | answered =>
    cases moved
    exact ok

theorem adminVerify_ok {phase : Request} (ok : phase.Ok)
    (moved : adminVerify lib s available phase = some after) : after.Ok := by
  cases phase with
  | recorded request cookie loginRecord start login =>
    obtain ⟨subjects, subject, noAccount, standing⟩ := ok
    simp only [adminVerify] at moved
    split at moved
    · rename_i response accepted
      cases moved
      refine ⟨subjects, subject, noAccount, ?_, ?_⟩
      · rintro rfl notPasskey
        obtain ⟨username, method⟩ := request
        cases method with
        | password => exact .inl (passwordEvidence_of_ok accepted)
        | totp token =>
          obtain ⟨presented, rfl, stands⟩ := standing token rfl
          exact .inr ⟨(codeEvidence_of_ok accepted).1, .inr ⟨presented, rfl, stands⟩⟩
        | passkey => cases notPasskey
      · rintro rfl
        obtain ⟨username, method⟩ := request
        cases method with
        | password => exact passwordEvidence_of_ok accepted
        | totp => cases (codeEvidence_of_ok accepted).2
        | passkey =>
          obtain ⟨saved, checked⟩ := verifyAccount_ok accepted
          cases verify_passkey_ok checked
    · cases moved
  | opened _ | formRead _ _ _ _ | codeDue _ _ _ _ | decided _ _ _ _ | checked _ _ _ _
  | answered =>
    cases moved
    exact ok

theorem adminCheck_ok (inv : Inv s) {id : Nat}
    (trusted : genuine s (.adminOpen id request cookie permitted)) {phase : Request}
    (moved : adminCheck s request cookie permitted = some phase) : phase.Ok := by
  obtain ⟨username, method⟩ := request
  cases method with
  | password =>
    cases moved
    exact ⟨nofun, nofun⟩
  | totp =>
    cases cookie with
    | none => cases moved
    | some token =>
      simp only [adminCheck] at moved
      simp only [genuine] at trusted
      cases verified : verifyLoginSession s token username with
      | none =>
        rw [verified] at moved
        cases moved
      | some record =>
        rw [verified] at moved trusted
        simp only [Bool.and_eq_true, decide_eq_true_eq] at trusted
        dsimp only at moved
        split at moved
        · cases moved
          obtain ⟨found, accepted⟩ := Option.filter_eq_some_iff.mp verified
          simp only [Bool.and_eq_true, decide_eq_true_eq] at accepted
          refine ⟨?_, fun _ _ => ⟨_, by rw [State.present, found, Option.map_some], ?_, ?_⟩⟩
          · rintro other ⟨⟩
            exact accepted.1.2
          · exact (inv.vouched token record found).trans (by rw [trusted.1])
          · exact trusted.2
        · cases moved
  | passkey =>
    simp only [adminCheck] at moved
    split at moved
    · cases moved
      exact ⟨nofun, nofun⟩
    · cases moved

theorem resolveLoginUsername_totp
    (code : (resolveLoginUsername directory request).method = .totp token) :
    resolveLoginUsername directory request = request := by
  obtain ⟨username, method⟩ := request
  cases method with
  | password | totp => rfl
  | passkey =>
    unfold resolveLoginUsername at code
    dsimp only at code
    split at code <;> cases code

/-- The condition on an opened request is the same for the resolved user name. -/
theorem genuine_resolve {id : Nat} (trusted : genuine s (.adminOpen id request cookie permitted)) :
    genuine s (.adminOpen id (resolveLoginUsername directory request) cookie permitted) := by
  cases code : (resolveLoginUsername directory request).method with
  | totp =>
    rw [resolveLoginUsername_totp code]
    exact trusted
  | password | passkey =>
    generalize resolveLoginUsername directory request = resolved at code
    obtain ⟨username, method⟩ := resolved
    cases code
    rfl

/-- A session that is there once the admin API has replaced the one of the cookie. -/
theorem get_of_replaced {sessions : LocalSessions} {record found : SessionRecord}
    {expiry now : Nat} {scope : SessionScope} {other : String} (elsewhere : .admin ≠ scope)
    (there : ((cookie.elim sessions (sessions.remove .login ·)).create .admin token record expiry
      now).get scope other = some found) : sessions.get scope other = some found := by
  have before := get_of_create_other elsewhere there
  cases cookie with
  | none => exact before
  | some => exact get_of_remove before

theorem inv_proxyFinish (inv : Inv s) (id : Nat) (token : String) :
    Inv (proxyFinish s id token) := by
  unfold proxyFinish
  split
  · rename_i proxy record verification evidence known
    obtain ⟨username, account, proven, password⟩ := inv.phases id _ known
    have ended := inv.ended id
    dsimp only
    split
    · exact ended
    · cases verification with
      | success =>
        have named : record.account.getD "" = username := by rw [account, Option.getD_some]
        rw [named]
        exact ended.start (fun _ _ => get_of_create_other (by decide)) (proven rfl)
      | totpRequired =>
        apply ended.challenge
        rw [password rfl, Option.map_some, owner, account, Option.getD_some]
      | failed => exact ended
  · exact inv

theorem inv_adminFinish (inv : Inv s) (id : Nat) (token : String) :
    Inv (adminFinish s id token) := by
  unfold adminFinish
  split
  · rename_i request cookie loginRecord start response evidence known
    obtain ⟨subjects, subject, noAccount, proven, password⟩ := inv.phases id _ known
    have ended := inv.ended id
    cases response with
    | success =>
      have named : (loginRecord.getD start).subject = request.username := by
        cases loginRecord with
        | none => exact subject
        | some record => exact subjects record rfl
      dsimp only
      split
      · exact ended.sessions fun _ _ => get_of_replaced (by decide)
      · rename_i other
        rw [named]
        exact ended.start (fun _ _ => get_of_replaced (by decide))
          (proven rfl (by simpa using other))
    | totpRequired =>
      apply ended.challenge
      rw [password rfl, Option.map_some, owner, noAccount, Option.getD_none, subject]
  · exact inv

theorem inv_step (inv : Inv s) (event : Event) (trusted : genuine s event = true) :
    Inv (step lib s event) := by
  cases event with
  | clock | configure | saveAccounts | publish =>
    exact ⟨inv.vouched, inv.phases, inv.started⟩
  | removeExpired => exact inv.sessions fun _ _ => get_of_removeExpired
  | removeSession => exact inv.sessions fun _ _ => get_of_remove
  | startOther =>
    unfold step
    dsimp only
    split
    · exact inv
    · rename_i other
      exact inv.sessions fun _ _ => get_of_create_other other
  | proxyOpen =>
    unfold step
    dsimp only
    split
    · exact inv
    · apply inv.request
      rintro phase ⟨⟩ presented shown
      obtain ⟨token, -, known⟩ := Option.bind_eq_some_iff.mp shown
      obtain ⟨record, -, rfl⟩ := inv.present known
      rfl
  | proxyForm id form host proxy allowed =>
    unfold step SignIn.advance
    dsimp only
    split
    · rename_i phase known
      apply inv.request
      intro after moved
      have ok := inv.phases id phase known
      cases phase with
      | opened =>
        dsimp only at moved
        split at moved
        · cases moved
          refine ⟨rfl, fun presented shown second => ?_⟩
          cases shown
          rw [genuine, known] at trusted
          have trust : owner presented.record = form.username ∧ presented.alive = true := by
            simpa [second] using trusted
          exact ⟨(ok presented rfl).trans (by rw [trust.1]), trust.2⟩
        · cases moved
      | formRead _ _ _ _ | codeDue _ _ _ _ | decided _ _ _ _ | checked _ _ _ _
      | recorded | answered =>
        cases moved
        exact ok
    · exact inv
  | proxyVerify => exact inv.advance fun _ _ => proxyVerify_ok
  | proxyFinish id token => exact inv_proxyFinish inv id token
  | adminOpen =>
    unfold step
    dsimp only
    split
    · exact inv
    · exact inv.request fun phase moved => adminCheck_ok inv (genuine_resolve trusted) moved
  | adminRecord =>
    apply inv.advance
    intro phase after ok moved
    cases phase with
    | checked =>
      cases moved
      exact ⟨ok.1, rfl, rfl, ok.2⟩
    | opened _ | formRead _ _ _ _ | codeDue _ _ _ _ | decided _ _ _ _ | recorded _ _ _ _ _
    | answered =>
      cases moved
      exact ok
  | adminVerify => exact inv.advance fun _ _ => adminVerify_ok
  | adminFinish id token => exact inv_adminFinish inv id token

end Preservation

/-! ## Main result -/

/-- **Password and second factor belong to one account**, in every state of every run in which a
presented `login` record is only relied on for its own account and while it is alive. -/
theorem proven_throughout (lib : CredentialLibrary) (accounts : Accounts) (sessionExpiry now : Nat)
    (events : List Event)
    (trusted : Guarded (step lib) (fun s event => genuine s event = true)
      (initial accounts sessionExpiry now) events) :
    Throughout (step lib) Proven (initial accounts sessionExpiry now) events :=
  Guarded.throughout (fun _ event inv trust => inv_step inv event trust)
    (fun _ inv => inv.started) (inv_initial accounts sessionExpiry now) trusted

/-! ## Two accounts with TOTP -/

section Small

def startTime : Nat := 20000000000

def start : State := initial twoAccounts 0 startTime

/-- A sign-in page is sent a form, and its answer is made under `token`. -/
def visit (id : Nat) (cookie : Option String) (form : LoginForm) (host token : String) :
    List Event :=
  [.proxyOpen id cookie, .proxyForm id form host .new true, .proxyVerify id true,
    .proxyFinish id token]

/-- The two requests of an honest sign-in. -/
def honest : List Event :=
  visit 0 none ⟨"alice", "alice-password", ""⟩ "app.example" "first" ++
    visit 1 (some "first") ⟨"alice", "", "alice-code"⟩ "app.example" "second"

theorem honest_proven : Throughout (step plainLibrary) Proven start honest :=
  proven_throughout plainLibrary twoAccounts 0 startTime honest (by decide)

/-- Mallory brings the own password, and the session it gives to the sign-in of alice. -/
def otherAccount : List Event :=
  visit 0 none ⟨"mallory", "mallory-password", ""⟩ "app.example" "first" ++
    visit 1 (some "first") ⟨"alice", "", "alice-code"⟩ "app.example" "second"

/-- Mallory signs in to a proxy under the host name `alice`, and brings the session to the admin
API. -/
def otherHost : List Event :=
  visit 0 none ⟨"mallory", "mallory-password", ""⟩ "alice" "first" ++
    [.adminOpen 1 ⟨"alice", .totp "alice-code"⟩ (some "first") true, .adminRecord 1,
      .adminVerify 1 true, .adminFinish 1 "second"]

/-- The session waits for an hour. -/
def expired : List Event :=
  visit 0 none ⟨"alice", "alice-password", ""⟩ "app.example" "first" ++
    .clock (startTime + 3600000) ::
      visit 1 (some "first") ⟨"alice", "", "alice-code"⟩ "app.example" "second"

/-- Each of the three runs starts a session that is not proven: the password was another
account's, or the session that stands for it was expired. -/
theorem unproven_sessions :
    ¬ Proven (Run.exec (step plainLibrary) start otherAccount) ∧
      ¬ Proven (Run.exec (step plainLibrary) start otherHost) ∧
        ¬ Proven (Run.exec (step plainLibrary) start expired) := by
  decide

end Small

end R3v3rs3.Auth.SignIn
