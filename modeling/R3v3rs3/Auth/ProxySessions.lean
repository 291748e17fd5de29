/-
# R3v3rs3.Auth.ProxySessions -- who made the session that a proxy accepts

A proxy asks for a session in one of two ways.  The session policy wants a sign-in with a panel
account; an OIDC policy wants a user of its identity provider.  Both keep their sessions in the
`proxy` scope of one store, as records of a host and an account name, and a record does not say
which of the two wrote it.  The tokens come in two cookies, but a client may send any value under
either name.

The machine is that of `SignIn` with the callbacks of the OIDC policies and with the checks of both
authenticators.  It remembers for every token who made its session, and for every accepted request
the maker of the accepted token.

`provenance_throughout`: where an authenticator checks a request only while every stored session of
the host was made by its own kind of sign-in, each accepted token was made by it.  That is so when
every host has one policy (`separate_of_one_policy`).
-/
import R3v3rs3.Auth.SignIn
import R3v3rs3.Proxy.Http.Headers

namespace R3v3rs3.Auth.ProxySessions
open Theory Api Auth LocalSessions SignIn
open Proxy.Http (eqIgnoreAsciiCase)
open Theory.Run (exec Guarded Throughout)
set_option autoImplicit false

/-! ## Requests -/

structure OidcAuth where
  issuerUrl : String
  authorizationUrl : String
  tokenUrl : String
  userinfoUrl : String
  clientId : String
  clientSecret : String
  clientSecretSet : Bool
  scopes : List String
  allowedEmails : List String
  deriving DecidableEq

/-- The cookies of a request in header order. -/
abbrev Cookies := List (String × String)

def cookieValues (cookies : Cookies) (name : String) : List String :=
  (cookies.filter (·.1 = name)).map Prod.snd

def sessionToken (cookies : Cookies) : Option String :=
  (cookieValues cookies "r3v3rs3_session").head?

def oidcToken (cookies : Cookies) : Option String := (cookieValues cookies "r3v3rs3_oidc").head?

def readStateCookie (cookies : Cookies) : Option (String × String) :=
  (cookieValues cookies "r3v3rs3_oidc_state").head?.bind fun value =>
    (Text.splitOnce ':' value.toList).map fun parts =>
      (String.ofList parts.1, String.ofList parts.2)

/-- A request to the callback of an OIDC policy. -/
structure Callback where
  /-- The pairs of the query; the last one of a name counts. -/
  query : List (String × String)
  cookies : Cookies
  /-- What the identity provider says to a code. -/
  exchangeCodeForUser : String → Except String String

def parseCallbackParams (query : List (String × String)) : Option (String × String) :=
  match (query.filter (·.1 = "code")).getLast?, (query.filter (·.1 = "state")).getLast? with
  | some code, some state => some (code.2, state.2)
  | _, _ => none

inductive Rejection where
  | text (status : Nat) (body : String)
  | forbidden (user : String)

/-! ## The authenticators -/

inductive Gate where
  /-- The session policy of a proxy. -/
  | session (proxy : ShortId)
  | oidc (config : OidcAuth)

section Gates

-- `str::to_lowercase`
variable (lower : List Char → List Char)

def isEmailAllowed (email : String) (allowed : List String) : Bool :=
  allowed.isEmpty || allowed.any fun pattern =>
    match lower (Text.trimChars pattern.toList) with
    | ['*'] => true
    | '*' :: '@' :: suffix | '@' :: suffix => ('@' :: suffix).isSuffixOf (lower email.toList)
    | pattern => lower email.toList = pattern

/-- The user that may have a session, and where the client goes next. -/
def handleCallback (config : OidcAuth) (request : Callback) :
    Except Rejection (String × String) :=
  match parseCallbackParams request.query with
  | none => .error (.text 400 "Missing code or state parameter\n")
  | some (code, state) =>
    match readStateCookie request.cookies with
    | none => .error (.text 400 "Missing or expired authentication state\n")
    | some (expected, target) =>
      if state ≠ expected then .error (.text 400 "Invalid OIDC state\n")
      else
        match request.exchangeCodeForUser code with
        | .error _ => .error (.text 502 "OIDC authentication failed\n")
        | .ok user =>
          if isEmailAllowed lower user config.allowedEmails then .ok (user, target)
          else .error (.forbidden user)

/-- The record is active and one of the host. -/
def isFor (s : SignIn.State) (host : String) (record : SessionRecord) : Bool :=
  record.isActive (expiry s.proxySessionExpiry) s.now &&
    eqIgnoreAsciiCase record.subject.toList host.toList

/-- `SessionService::is_valid`. -/
def isValid (s : SignIn.State) (token host : String) (proxy : ShortId) : Bool :=
  (s.sessions.get .proxy token).any fun record =>
    isFor s host record && canOpen s.directory record proxy

def getProxySession (s : SignIn.State) (token host : String) : Option String :=
  ((s.sessions.get .proxy token).filter (isFor s host)).bind (·.account)

/-- The token that lets a request through, and the account of its record. -/
def Gate.authorize (s : SignIn.State) (host : String) (cookies : Cookies) :
    Gate → Option (String × String)
  | .session proxy =>
    ((sessionToken cookies).filter (isValid s · host proxy)).bind fun token =>
      ((s.sessions.get .proxy token).bind (·.account)).map (token, ·)
  | .oidc config =>
    (oidcToken cookies).bind fun token =>
      ((getProxySession s token host).filter
        (isEmailAllowed lower · config.allowedEmails)).map (token, ·)

end Gates

/-! ## The machine -/

/-- Who made a session. -/
inductive Maker where
  | signIn (session : SignIn.Started)
  /-- A code exchange of the policy gave the user. -/
  | exchange (config : OidcAuth) (user : String)

structure Accepted where
  gate : Gate
  account : String
  maker : Option Maker

structure State where
  panel : SignIn.State
  makers : String → Option Maker
  accepted : List Accepted

def initial (accounts : Accounts) (sessionExpiry now : Nat) : State :=
  ⟨SignIn.initial accounts sessionExpiry now, fun _ => none, []⟩

inductive Event where
  | panel (event : SignIn.Event)
  /-- A callback; `token` is what the store gives the session, or nothing when it fails. -/
  | callback (config : OidcAuth) (host : Option String) (request : Callback)
      (token : Option String)
  /-- A request that a gate checks; `available` is false when the store fails. -/
  | authorize (gate : Gate) (host : Option String) (cookies : Cookies) (available : Bool)

/-- The step of `SignIn` that stands for what is written out here. -/
def isStandIn : SignIn.Event → Bool
  | .startOther .proxy _ _ _ => true
  | _ => false

/-- The session that a sign-in page starts. -/
def opens (s : SignIn.State) : SignIn.Event → Option (String × SignIn.Started)
  | .proxyFinish id token =>
    match s.requests id with
    | some (.decided proxy record .success evidence) =>
      if canOpen s.directory record proxy then
        some (token, ⟨.proxy, record.account.getD "", evidence⟩)
      else none
    | _ => none
  | _ => none

section Steps

variable (lib : CredentialLibrary) (lower : List Char → List Char)

namespace State

def mark (s : State) (token : String) (maker : Maker) : State :=
  { s with makers := Function.update s.makers token (some maker) }

/-- `create_proxy_session` after a code exchange. -/
def createProxySession (s : State) (config : OidcAuth) (host user token : String) : State :=
  { s with
    panel := { s.panel with
      sessions := s.panel.sessions.create .proxy token (.proxy host user s.panel.now)
        (expiry s.panel.proxySessionExpiry) s.panel.now } }.mark token (.exchange config user)

end State

def step (s : State) : Event → State
  | .panel event =>
    if isStandIn event then s
    else
      let next := { s with panel := SignIn.step lib s.panel event }
      match opens s.panel event with
      | some (token, session) => next.mark token (.signIn session)
      | none => next
  | .callback config host request token =>
    match handleCallback lower config request, token with
    | .ok (user, _), some token =>
      s.createProxySession config (host.getD "localhost") user token
    | _, _ => s
  | .authorize gate host cookies available =>
    match gate.authorize lower s.panel (host.getD "") cookies with
    | some (token, account) =>
      if available then
        { s with accepted := s.accepted ++ [⟨gate, account, s.makers token⟩] }
      else s
    | none => s

end Steps

/-! ## Where a session comes from -/

/-- The account's password was right and is all it has, or its code was right. -/
def Checked (session : SignIn.Started) : Prop :=
  session.evidence.password = some (session.account, false) ∨
    session.evidence.code = some session.account

instance (session : SignIn.Started) : Decidable (Checked session) :=
  inferInstanceAs (Decidable (_ ∨ _))

/-- The token was made by a sign-in of the account with the panel, or by a code exchange of the
same policy that gave the account. -/
def Accepted.Genuine (entry : Accepted) : Prop :=
  match entry.gate, entry.maker with
  | .session _, some (.signIn session) => session.account = entry.account ∧ Checked session
  | .oidc config, some (.exchange own user) => own = config ∧ user = entry.account
  | _, _ => False

instance (entry : Accepted) : Decidable entry.Genuine := by
  unfold Accepted.Genuine
  split <;> infer_instance

def Genuine (s : State) : Prop := ∀ entry ∈ s.accepted, entry.Genuine

instance : DecidablePred Genuine := fun _ => inferInstanceAs (Decidable (∀ _ ∈ _, _))

/-- The kind of sign-in that the gate asks for. -/
def Gate.isMaker : Gate → Maker → Bool
  | .session _, .signIn _ => true
  | .oidc config, .exchange own _ => own = config
  | _, _ => false

/-- A gate checks a request only while every stored session of the host is of its own making. -/
def Separate (s : State) : Event → Prop
  | .authorize gate host _ _ =>
    ∀ row ∈ s.panel.sessions.rows, row.1.1 = .proxy →
      eqIgnoreAsciiCase row.2.subject.toList (host.getD "").toList = true →
        (s.makers row.1.2).any gate.isMaker = true
  | _ => True

instance (s : State) (event : Event) : Decidable (Separate s event) := by
  unfold Separate
  cases event <;> infer_instance

/-! ## The invariant -/

def Maker.Vouches (account : String) : Maker → Prop
  | .signIn session => session.account = account ∧ Checked session
  | .exchange _ user => user = account

/-- What a sign-in page has checked on its way; it is one of a host that is `served`. -/
def PhaseOk (served : String → Prop) : SignIn.Request → Prop
  | .formRead form _ record _ | .codeDue form _ record _ =>
    served record.subject ∧ record.account = some form.username
  | .decided _ record .success evidence =>
    served record.subject ∧
      ∃ username, record.account = some username ∧ Checked ⟨.proxy, username, evidence⟩
  | _ => True

/-- A form that is read comes to a host that is served. -/
def ServedForm (served : String → Prop) : SignIn.Event → Prop
  | .proxyForm _ _ host _ _ => served host
  | _ => True

structure Inv (s : State) : Prop where
  phases : SignIn.Phases (PhaseOk fun _ => True) s.panel
  made : ∀ token record, s.panel.sessions.get .proxy token = some record →
    ∃ account maker, record.account = some account ∧ s.makers token = some maker ∧
      maker.Vouches account
  genuine : Genuine s

theorem inv_initial (accounts : Accounts) (sessionExpiry now : Nat) :
    Inv (initial accounts sessionExpiry now) where
  phases _ _ known := by cases known
  made _ _ found := by cases found
  genuine entry member := by cases member

section Phases

variable {lib : CredentialLibrary} {s : SignIn.State} {served : String → Prop} {available : Bool}
  {phase : SignIn.Request}

theorem phaseOk_checkCode {form : SignIn.LoginForm} {proxy : ShortId} {record : SessionRecord}
    (evidence : SignIn.Evidence)
    (ok : served record.subject ∧ record.account = some form.username) :
    PhaseOk served (.decided proxy record (checkCode lib s available form)
      { evidence with code := codeEvidence lib s form.username form.totp }) := by
  cases accepted : checkCode lib s available form with
  | success => exact ⟨ok.1, form.username, ok.2, .inr (checkCode_success accepted)⟩
  | totpRequired | failed => trivial

theorem phaseOk_proxyVerify {after : SignIn.Request} (ok : PhaseOk served phase)
    (moved : proxyVerify lib s available phase = some after) : PhaseOk served after := by
  cases phase with
  | formRead form proxy record login =>
    simp only [proxyVerify] at moved
    split at moved
    · cases moved
      exact phaseOk_checkCode ⟨none, none, login⟩ ok
    · split at moved
      · rename_i accepted
        cases moved
        exact ⟨ok.1, form.username, ok.2, .inl (passwordEvidence_of_ok accepted)⟩
      · split at moved
        · cases moved
          trivial
        · cases moved
          exact ok
      · cases moved
        trivial
  | codeDue form proxy record evidence =>
    cases moved
    exact phaseOk_checkCode evidence ok
  | opened | decided | checked | recorded | answered =>
    cases moved
    exact ok

theorem phasesOk_step (ok : SignIn.Phases (PhaseOk served) s) {event : SignIn.Event}
    (onHost : ServedForm served event) :
    SignIn.Phases (PhaseOk served) (SignIn.step lib s event) := by
  cases event with
  | clock | configure | saveAccounts | publish | removeExpired | removeSession =>
    exact ok
  | startOther =>
    unfold SignIn.step
    dsimp only
    split <;> exact ok
  | proxyOpen =>
    unfold SignIn.step
    dsimp only
    split
    · exact ok
    · exact ok.request fun phase isNext => by
        cases isNext
        trivial
  | proxyForm =>
    refine ok.advance fun phase moved here isNext => ?_
    cases phase with
    | opened =>
      dsimp only at isNext
      split at isNext
      · cases isNext
        exact ⟨onHost, rfl⟩
      · cases isNext
    | _ =>
      cases isNext
      exact here
  | proxyVerify => exact ok.advance fun _ _ => phaseOk_proxyVerify
  | proxyFinish id token =>
    unfold SignIn.step SignIn.proxyFinish
    dsimp only
    have ended := ok.ended id
    split
    · split
      · exact ended
      · split <;> exact ended
    · exact ok
  | adminOpen =>
    unfold SignIn.step
    dsimp only
    split
    · exact ok
    · refine ok.request fun phase isNext => ?_
      unfold SignIn.adminCheck at isNext
      split at isNext
      · split at isNext
        · cases isNext
        · split at isNext
          · split at isNext
            · cases isNext
              trivial
            · cases isNext
          · cases isNext
      · split at isNext
        · cases isNext
          trivial
        · cases isNext
      · cases isNext
        trivial
  | adminRecord =>
    refine ok.advance fun phase moved here isNext => ?_
    cases phase with
    | checked =>
      cases isNext
      trivial
    | _ =>
      cases isNext
      exact here
  | adminVerify =>
    refine ok.advance fun phase moved here isNext => ?_
    unfold SignIn.adminVerify at isNext
    split at isNext
    · split at isNext
      · cases isNext
        trivial
      · cases isNext
    · cases isNext
      exact here
  | adminFinish id token =>
    unfold SignIn.step SignIn.adminFinish
    dsimp only
    have ended := ok.ended id
    split
    · split <;> exact ended
    · exact ok

end Phases

/-! ## Steps -/

variable {event : Event} {gate : Gate}

section Preservation

variable {lib : CredentialLibrary} {lower : List Char → List Char} {started : String} {id : Nat}

variable {token : String} {s : SignIn.State} {record : SessionRecord}

theorem get_adminFinish
    (found : (adminFinish s id started).sessions.get .proxy token = some record) :
    s.sessions.get .proxy token = some record := by
  unfold adminFinish at found
  split at found
  · split at found
    · exact get_of_replaced (by decide) found
    · exact get_of_create_other (by decide) found
  · exact found

theorem opens_eq_some {session : SignIn.Started} :
    opens s (.proxyFinish id started) = some (token, session) ↔
      ∃ proxy record evidence, s.requests id = some (.decided proxy record .success evidence) ∧
        canOpen s.directory record proxy = true ∧ token = started ∧
          session = ⟨.proxy, record.account.getD "", evidence⟩ := by
  unfold opens
  dsimp only
  split
  · rename_i proxy record evidence known
    constructor
    · intro opened
      split at opened
      · rename_i allowed
        cases opened
        exact ⟨proxy, record, evidence, known, allowed, rfl, rfl⟩
      · cases opened
    · rintro ⟨_, _, _, again, allowed, rfl, rfl⟩
      cases known.symm.trans again
      rw [if_pos allowed]
  · rename_i other
    constructor
    · rintro ⟨⟩
    · rintro ⟨_, _, _, known, -⟩
      exact absurd known (other _ _ _)

theorem get_proxyFinish
    (found : (proxyFinish s id started).sessions.get .proxy token = some record) :
    (s.sessions.get .proxy token = some record ∧
        ∀ session, opens s (.proxyFinish id started) ≠ some (token, session)) ∨
      ∃ id' proxy evidence, s.requests id' = some (.decided proxy record .success evidence) ∧
        opens s (.proxyFinish id started) =
          some (token, ⟨.proxy, record.account.getD "", evidence⟩) := by
  unfold proxyFinish at found
  split at found
  · rename_i proxy own verification evidence known
    dsimp only at found
    split at found
    · rename_i closed
      refine .inl ⟨found, fun session opened => ?_⟩
      obtain ⟨_, _, _, again, allowed, -⟩ := opens_eq_some.mp opened
      cases known.symm.trans again
      exact Bool.false_ne_true (closed.symm.trans allowed)
    · rename_i open'
      cases verification with
      | success =>
        rcases get_of_create found with ⟨-, rfl, rfl⟩ | ⟨different, before⟩
        · exact .inr ⟨id, proxy, evidence, known, opens_eq_some.mpr
            ⟨proxy, own, evidence, known, Bool.not_eq_false _ ▸ open', rfl, rfl⟩⟩
        · refine .inl ⟨before, fun session opened => different ?_⟩
          obtain ⟨_, _, _, -, -, rfl, -⟩ := opens_eq_some.mp opened
          rfl
      | totpRequired =>
        refine .inl ⟨get_of_create_other (by decide) found, fun session opened => ?_⟩
        obtain ⟨_, _, _, again, -⟩ := opens_eq_some.mp opened
        cases known.symm.trans again
      | failed =>
        refine .inl ⟨found, fun session opened => ?_⟩
        obtain ⟨_, _, _, again, -⟩ := opens_eq_some.mp opened
        cases known.symm.trans again
  · rename_i other
    refine .inl ⟨found, fun session opened => ?_⟩
    obtain ⟨_, _, _, known, -⟩ := opens_eq_some.mp opened
    exact other _ _ _ _ known

theorem opens_ne {event : SignIn.Event} (idle : opens s event = none) (session : SignIn.Started) :
    opens s event ≠ some (token, session) := by
  simp [idle]

/-- A session of a proxy that is there after a step was there before, or a sign-in page has just
started it. -/
theorem get_step {event : SignIn.Event} (own : isStandIn event = false)
    (found : (SignIn.step lib s event).sessions.get .proxy token = some record) :
    (s.sessions.get .proxy token = some record ∧ ∀ session, opens s event ≠ some (token, session)) ∨
      ∃ id proxy evidence, s.requests id = some (.decided proxy record .success evidence) ∧
        opens s event = some (token, ⟨.proxy, record.account.getD "", evidence⟩) := by
  cases event with
  | clock | configure | saveAccounts | publish => exact .inl ⟨found, opens_ne rfl⟩
  | removeExpired => exact .inl ⟨get_of_removeExpired found, opens_ne rfl⟩
  | removeSession => exact .inl ⟨get_of_remove found, opens_ne rfl⟩
  | startOther scope token record expiry =>
    unfold SignIn.step at found
    dsimp only at found
    split at found
    · exact .inl ⟨found, opens_ne rfl⟩
    · cases scope with
      | proxy => cases own
      | login | admin =>
        exact .inl ⟨get_of_create_other (by decide) found, opens_ne rfl⟩
  | proxyOpen | adminOpen =>
    unfold SignIn.step at found
    dsimp only at found
    split at found <;> exact .inl ⟨found, opens_ne rfl⟩
  | proxyForm | proxyVerify | adminRecord | adminVerify =>
    simp only [SignIn.step, SignIn.advance] at found
    split at found <;> exact .inl ⟨found, opens_ne rfl⟩
  | proxyFinish => exact get_proxyFinish found
  | adminFinish => exact .inl ⟨get_adminFinish found, opens_ne rfl⟩

variable {s : State}

variable (lib lower s) in
/-- A check only writes down what it accepts. -/
theorem authorize_frame (gate : Gate) (host : Option String) (cookies : Cookies)
    (available : Bool) :
    (step lib lower s (.authorize gate host cookies available)).panel = s.panel ∧
      (step lib lower s (.authorize gate host cookies available)).makers = s.makers := by
  unfold step
  dsimp only
  split
  · split <;> exact ⟨rfl, rfl⟩
  · exact ⟨rfl, rfl⟩

/-- Where a session comes from that is stored after a step: it was there, or a sign-in page or a
callback has just made it. -/
inductive Made (s : State) (event : Event) (token : String) (record : SessionRecord)
    (maker : Option Maker) : Prop where
  | kept (before : s.panel.sessions.get .proxy token = some record)
      (same : maker = s.makers token)
  | signedIn {id : Nat} {proxy : ShortId} {evidence : SignIn.Evidence}
      (known : s.panel.requests id = some (.decided proxy record .success evidence))
      (isMaker : maker = some (.signIn ⟨.proxy, record.account.getD "", evidence⟩))
  | exchanged {config : OidcAuth} {host : Option String} {request : Callback}
      {given : Option String} {user : String} (isEvent : event = .callback config host request given)
      (isRecord : record = .proxy (host.getD "localhost") user s.panel.now)
      (isMaker : maker = some (.exchange config user))

section Made

variable {token : String} {record : SessionRecord}

theorem made_panel {event : SignIn.Event}
    (found : (step lib lower s (.panel event)).panel.sessions.get .proxy token = some record) :
    Made s (.panel event) token record ((step lib lower s (.panel event)).makers token) := by
  unfold step at found ⊢
  dsimp only at found ⊢
  split at found
  · rename_i standIn
    rw [if_pos standIn]
    exact .kept found rfl
  · rename_i own
    rw [if_neg own]
    cases opened : opens s.panel event with
    | none =>
      rw [opened] at found
      rcases get_step (eq_false_of_ne_true own) found with ⟨before, -⟩ | ⟨_, _, _, _, also⟩
      · exact .kept before rfl
      · cases opened.symm.trans also
    | some pair =>
      rw [opened] at found
      rcases get_step (eq_false_of_ne_true own) found with
        ⟨before, other⟩ | ⟨id, proxy, evidence, known, also⟩
      · have different : token ≠ pair.1 := by
          rintro rfl
          exact other pair.2 opened
        exact .kept before (Function.update_of_ne different _ _)
      · cases opened.symm.trans also
        exact .signedIn known (Function.update_self _ _ _)

/-- **Where a stored session comes from.** -/
theorem made_step (found : (step lib lower s event).panel.sessions.get .proxy token = some record) :
    Made s event token record ((step lib lower s event).makers token) := by
  cases event with
  | panel => exact made_panel found
  | callback =>
    unfold step at found ⊢
    dsimp only at found ⊢
    split at found
    · rename_i user target new accepted
      rcases get_of_create found with ⟨-, rfl, rfl⟩ | ⟨other, before⟩
      · exact .exchanged rfl rfl (Function.update_self _ _ _)
      · have different : token ≠ new := by
          rintro rfl
          exact other rfl
        exact .kept before (Function.update_of_ne different _ _)
    · exact .kept found rfl
  | authorize gate host cookies available =>
    obtain ⟨panel, makers⟩ := authorize_frame lib lower s gate host cookies available
    exact .kept (panel ▸ found) (congrFun makers token)

end Made

/-- The forms of the run come to hosts that are served. -/
def Serves (served : String → Prop) : Event → Prop
  | .panel event => ServedForm served event
  | _ => True

theorem serves_all (event : Event) : Serves (fun _ => True) event := by
  cases event with
  | panel event => cases event <;> trivial
  | callback | authorize => trivial

theorem phases_step {served : String → Prop} (ok : SignIn.Phases (PhaseOk served) s.panel)
    (serves : Serves served event) :
    SignIn.Phases (PhaseOk served) (step lib lower s event).panel := by
  cases event with
  | panel =>
    unfold step
    dsimp only
    split
    · exact ok
    · split <;> exact phasesOk_step ok serves
  | callback =>
    unfold step
    dsimp only
    split <;> exact ok
  | authorize gate host cookies available =>
    rwa [(authorize_frame lib lower s gate host cookies available).1]

/-- What a gate lets through has a record of the host, and its account. -/
theorem authorize_some {panel : SignIn.State} {host : String} {cookies : Cookies} {account : String}
    (passed : gate.authorize lower panel host cookies = some (token, account)) :
    ∃ record, panel.sessions.get .proxy token = some record ∧ record.account = some account ∧
      eqIgnoreAsciiCase record.subject.toList host.toList = true := by
  cases gate with
  | session =>
    obtain ⟨own, shown, named⟩ := Option.bind_eq_some_iff.mp passed
    obtain ⟨user, isUser, same⟩ := Option.map_eq_some_iff.mp named
    cases same
    obtain ⟨record, found, isAccount⟩ := Option.bind_eq_some_iff.mp isUser
    have valid := (Option.filter_eq_some_iff.mp shown).2
    rw [isValid, found, Option.any_some, isFor] at valid
    simp only [Bool.and_eq_true] at valid
    exact ⟨record, found, isAccount, valid.1.2⟩
  | oidc =>
    obtain ⟨own, -, named⟩ := Option.bind_eq_some_iff.mp passed
    obtain ⟨user, isUser, same⟩ := Option.map_eq_some_iff.mp named
    cases same
    obtain ⟨known, -⟩ := Option.filter_eq_some_iff.mp isUser
    obtain ⟨record, shown, isAccount⟩ := Option.bind_eq_some_iff.mp known
    obtain ⟨found, forHost⟩ := Option.filter_eq_some_iff.mp shown
    rw [isFor, Bool.and_eq_true] at forHost
    exact ⟨record, found, isAccount, forHost.2⟩

theorem genuine_of_isMaker {maker : Maker} {account : String} (own : gate.isMaker maker = true)
    (vouches : maker.Vouches account) : Accepted.Genuine ⟨gate, account, some maker⟩ := by
  cases gate with
  | session =>
    cases maker with
    | signIn => exact vouches
    | exchange => cases own
  | oidc =>
    cases maker with
    | signIn => cases own
    | exchange => exact ⟨of_decide_eq_true own, vouches⟩

theorem Inv.genuine_step (inv : Inv s) (separate : Separate s event) :
    Genuine (step lib lower s event) := by
  cases event with
  | panel =>
    unfold step
    dsimp only
    split
    · exact inv.genuine
    · split <;> exact inv.genuine
  | callback =>
    unfold step
    dsimp only
    split <;> exact inv.genuine
  | authorize =>
    unfold step
    dsimp only
    split
    · rename_i token account passed
      split
      · intro entry member
        rcases List.mem_append.mp member with before | new
        · exact inv.genuine entry before
        · rw [List.mem_singleton] at new
          subst new
          obtain ⟨record, found, isAccount, forHost⟩ := authorize_some passed
          obtain ⟨_, maker, also, isMaker, vouches⟩ := inv.made token record found
          cases isAccount.symm.trans also
          have own := separate _ (get_eq_some.mp found) rfl forHost
          rw [isMaker] at own ⊢
          exact genuine_of_isMaker own vouches
      · exact inv.genuine
    · exact inv.genuine

theorem Inv.step (inv : Inv s) (separate : Separate s event) : Inv (step lib lower s event) := by
  refine ⟨phases_step inv.phases (serves_all event), fun token record found => ?_,
    inv.genuine_step separate⟩
  cases made_step found with
  | kept before same =>
    rw [same]
    exact inv.made token record before
  | signedIn known isMaker =>
    obtain ⟨-, username, account, checked⟩ := inv.phases _ _ known
    refine ⟨username, _, account, isMaker, ?_⟩
    rw [account, Option.getD_some]
    exact ⟨rfl, checked⟩
  | exchanged isEvent isRecord isMaker =>
    subst isRecord
    exact ⟨_, _, rfl, isMaker, rfl⟩

end Preservation

/-! ## Main result -/

/-- **A token is accepted only for the sign-in that made it**, in every state of every run in which
a gate checks a request only while all stored sessions of the host are of its own making. -/
theorem provenance_throughout (lib : CredentialLibrary) (lower : List Char → List Char)
    (accounts : Accounts) (sessionExpiry now : Nat) (events : List Event)
    (separate : Guarded (step lib lower) Separate (initial accounts sessionExpiry now) events) :
    Throughout (step lib lower) Genuine (initial accounts sessionExpiry now) events :=
  separate.throughout (fun _ _ inv calm => inv.step calm) (fun _ inv => inv.genuine)
    (inv_initial accounts sessionExpiry now)

section Runs

def asciiLower (text : List Char) : List Char := text.map Char.toLower

def start : State := initial twoAccounts 0 SignIn.startTime

/-- A policy that lets every user of its identity provider in. -/
def openPolicy (issuer : String) : OidcAuth := ⟨issuer, "", "", "", "r3v3rs3", "", false, [], []⟩

/-- The identity provider knows the client as `alice`. -/
def asAlice : Callback :=
  ⟨[("code", "1"), ("state", "2")], [("r3v3rs3_oidc_state", "2:/")], fun _ => .ok "alice"⟩

def exchanges (issuer host token : String) : List Event :=
  [.callback (openPolicy issuer) (some host) asAlice (some token)]

def sends (gate : Gate) (host : String) (cookies : Cookies) : List Event :=
  [.authorize gate (some host) cookies true]

/-- The panel signs alice in for one host, and an identity provider for another one. -/
def apart : List Event :=
  SignIn.honest.map .panel ++ exchanges "id.example" "team.example" "third" ++
    sends (.session .new) "app.example" [("r3v3rs3_session", "second")] ++
    sends (.oidc (openPolicy "id.example")) "team.example" [("r3v3rs3_oidc", "third")]

theorem apart_genuine :
    (exec (step plainLibrary asciiLower) start apart).accepted.length = 2 ∧
      Throughout (step plainLibrary asciiLower) Genuine start apart :=
  ⟨by decide, provenance_throughout plainLibrary asciiLower twoAccounts 0 SignIn.startTime apart
    (by decide)⟩

/-- A user of an identity provider who has the name of a panel account. -/
def movedToSession : List Event :=
  exchanges "id.example" "app.example" "first" ++
    sends (.session .new) "app.example" [("r3v3rs3_session", "first")]

/-- A panel account that the identity provider does not know. -/
def movedToOidc : List Event :=
  SignIn.honest.map .panel ++
    sends (.oidc (openPolicy "id.example")) "app.example" [("r3v3rs3_oidc", "second")]

/-- A user of another identity provider. -/
def movedToOther : List Event :=
  exchanges "other.example" "app.example" "first" ++
    sends (.oidc (openPolicy "id.example")) "app.example" [("r3v3rs3_oidc", "first")]

/-- In each of the three runs a gate accepts a session that another kind of sign-in made. -/
theorem moved_cookies_are_accepted :
    ¬ Genuine (exec (step plainLibrary asciiLower) start movedToSession) ∧
      ¬ Genuine (exec (step plainLibrary asciiLower) start movedToOidc) ∧
        ¬ Genuine (exec (step plainLibrary asciiLower) start movedToOther) := by
  decide

end Runs

/-! ## One policy for each host -/

section OnePolicy

/-- The policy, or nothing for the session policy. -/
def Gate.policy : Gate → Option OidcAuth
  | .session _ => none
  | .oidc config => some config

def Maker.policy : Maker → Option OidcAuth
  | .signIn _ => none
  | .exchange config _ => some config

theorem isMaker_of_policy {maker : Maker} (same : maker.policy = gate.policy) :
    gate.isMaker maker = true := by
  cases gate with
  | session =>
    cases maker with
    | signIn => rfl
    | exchange => cases same
  | oidc =>
    cases maker with
    | signIn => cases same
    | exchange =>
      cases same
      exact decide_eq_true rfl

-- which policy a host has, by its name in lower case
variable (policyOf : List Char → Option OidcAuth)

def policyAt (host : String) : Option OidcAuth := policyOf (host.toList.map Char.toLower)

/-- Sign-ins, callbacks and checks at a host are those of its policy. -/
def Obeys : Event → Prop
  | .panel event => ServedForm (fun host => policyAt policyOf host = none) event
  | .callback config host _ _ => policyAt policyOf (host.getD "localhost") = some config
  | .authorize gate host _ _ => policyAt policyOf (host.getD "") = gate.policy

/-- Every stored session was made under the policy of its host. -/
structure Assigned (s : State) : Prop where
  phases : SignIn.Phases (PhaseOk fun host => policyAt policyOf host = none) s.panel
  made : ∀ token record, s.panel.sessions.get .proxy token = some record →
    ∃ maker, s.makers token = some maker ∧ maker.policy = policyAt policyOf record.subject

variable {policyOf} {lib : CredentialLibrary} {lower : List Char → List Char} {s : State}

theorem Assigned.step (assigned : Assigned policyOf s) (obeys : Obeys policyOf event) :
    Assigned policyOf (step lib lower s event) := by
  have serves : Serves (fun host => policyAt policyOf host = none) event := by
    cases event with
    | panel => exact obeys
    | callback | authorize => trivial
  refine ⟨phases_step assigned.phases serves, fun token record found => ?_⟩
  cases made_step found with
  | kept before same =>
    rw [same]
    exact assigned.made token record before
  | signedIn known isMaker => exact ⟨_, isMaker, (assigned.phases _ _ known).1.symm⟩
  | exchanged isEvent isRecord isMaker =>
    subst isEvent isRecord
    exact ⟨_, isMaker, obeys.symm⟩

theorem Assigned.separate (assigned : Assigned policyOf s) (obeys : Obeys policyOf event) :
    Separate s event := by
  cases event with
  | panel | callback => trivial
  | authorize gate host cookies available =>
    intro row member scope sameHost
    obtain ⟨⟨_, token⟩, record⟩ := row
    cases scope
    obtain ⟨maker, isMaker, policy⟩ :=
      assigned.made token record (get_eq_some.mpr member)
    have sameName : policyAt policyOf record.subject = policyAt policyOf (host.getD "") :=
      congrArg policyOf (of_decide_eq_true sameHost)
    rw [isMaker, Option.any_some]
    exact isMaker_of_policy (policy.trans (sameName.trans obeys))

/-- **Where every host has one policy, its gates only meet sessions of their own making.** -/
theorem separate_of_one_policy {accounts : Accounts} {sessionExpiry now : Nat}
    {events : List Event} (obey : ∀ event ∈ events, Obeys policyOf event) :
    Guarded (step lib lower) Separate (initial accounts sessionExpiry now) events := by
  have start : Assigned policyOf (initial accounts sessionExpiry now) := by
    constructor <;> intro _ _ known <;> cases known
  exact (Guarded.of_forall_mem obey _).imp (fun _ _ assigned obeys => assigned.step obeys)
    (fun _ _ assigned obeys => assigned.separate obeys) start

theorem moved_cookie_separate : Guarded (step plainLibrary asciiLower) Separate start
    (exchanges "id.example" "team.example" "first" ++
      sends (.session .new) "app.example" [("r3v3rs3_session", "first")]) := by
  refine @separate_of_one_policy (fun host =>
    if host = "team.example".toList then some (openPolicy "id.example") else none) _ _ _ _ _ _ ?_
  rintro event (_ | ⟨_, _ | ⟨_, ⟨⟩⟩⟩) <;> rfl

end OnePolicy

end R3v3rs3.Auth.ProxySessions
