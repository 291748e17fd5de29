/-
# R3v3rs3.Auth.AccountStore -- sign-ins and account changes over one table

`verify_account`, `add_account` and every change of the admin API load all accounts, compute, and
save all accounts in one transaction.  The sign-ins of the proxies run on their own threads, so
these operations interleave with each other and with the changes.  Each of them is an operation of
`Theory.ReadModifyWrite`, and `accounts_linearizable` is its result there, together with the fact
about TOTP codes: in a serial order the accepted steps of an account grow, until the account is
made anew.
-/
import R3v3rs3.Auth.Account
import R3v3rs3.Theory.ReadModifyWrite

namespace R3v3rs3.Auth.AccountStore
open Theory Api
open Theory.Run (Guarded Throughout exec)
open Theory.ReadModifyWrite (serial Linearizes Linearizable Undisturbed Event initial)
set_option autoImplicit false

/-! ## Changes of the admin API -/

inductive Edit where
  /-- The account comes with its hashed password. -/
  | add (username : String) (account : Account)
  | update (username : String) (role : Role) (proxies : Option (List ShortId))
      (password : Option String) (now : Nat)
  | delete (username : String)
  | registerPasskey (username : String) (credential : Passkey)
  | deletePasskey (username credentialId : String)
  | createApiToken (username : String) (token : ApiToken)
  | deleteApiToken (username tokenId : String)
  | grantProxy (username : String) (proxy : ShortId)
  | revokeProxy (proxy : ShortId)

def applyUpdate (account : Account) (role : Role) (proxies : Option (List ShortId))
    (password : Option String) (now : Nat) : Account :=
  let changed := account.role ≠ role ∨ account.proxies ≠ proxies ∨ password.isSome
  { account with
    role
    proxies
    password := password.getD account.password
    credentialsChangedAt := if changed then now else account.credentialsChangedAt }

def ensureAdminRemains (accounts : Accounts) : Except Error Accounts :=
  if accounts.rows.any (·.2.role = .admin) then .ok accounts else .error .lastAdmin

/-- Changes the account of a name; an unknown name is an error. -/
def editAccount (accounts : Accounts) (username : String)
    (edit : Account → Except Error Account) : Except Error Accounts :=
  match accounts.get username with
  | none => .error (.accountNotFound username)
  | some account => (edit account).map (accounts.set username)

def registerPasskey (credential : Passkey) (account : Account) : Except Error Account :=
  .ok { account with
    passkeys := account.passkeys.filter (·.id ≠ credential.id) ++ [credential] }

def deletePasskey (credentialId : String) (account : Account) : Except Error Account :=
  if account.passkeys.any (·.id = credentialId) then
    .ok { account with passkeys := account.passkeys.filter (·.id ≠ credentialId) }
  else .error (.idNotFound credentialId)

def createApiToken (token : ApiToken) (account : Account) : Except Error Account :=
  if token.scope = .edit ∧ account.role = .viewer then .error .forbidden
  else .ok { account with tokens := account.tokens.filter (·.id ≠ token.id) ++ [token] }

def deleteApiToken (tokenId : String) (account : Account) : Except Error Account :=
  if account.tokens.any (·.id = tokenId) then
    .ok { account with tokens := account.tokens.filter (·.id ≠ tokenId) }
  else .error (.idNotFound tokenId)

def withoutProxy (proxy : ShortId) (row : String × Account) : String × Account :=
  (row.1, { row.2 with proxies := row.2.proxies.map (·.filter (· ≠ proxy)) })

theorem withoutProxy_key (proxy : ShortId) (row : String × Account) :
    (withoutProxy proxy row).1 = row.1 := rfl

/-- The accounts to save; `none` when nothing changes. -/
def applyEdit (edit : Edit) (accounts : Accounts) : Except Error (Option Accounts) :=
  match edit with
  | .add username account =>
    if (accounts.get username).isSome then .error (.accountExists username)
    else .ok (some (accounts.set username account))
  | .update username role proxies password now =>
    ((editAccount accounts username fun account =>
      .ok (applyUpdate account role proxies password now)).bind ensureAdminRemains).map some
  | .delete username =>
    if (accounts.get username).isSome then
      (ensureAdminRemains (accounts.erase username)).map some
    else .error (.accountNotFound username)
  | .registerPasskey username credential =>
    (editAccount accounts username (registerPasskey credential)).map some
  | .deletePasskey username credentialId =>
    (editAccount accounts username (deletePasskey credentialId)).map some
  | .createApiToken username token =>
    (editAccount accounts username (createApiToken token)).map some
  | .deleteApiToken username tokenId =>
    (editAccount accounts username (deleteApiToken tokenId)).map some
  | .grantProxy username proxy =>
    match accounts.get username with
    | some account =>
      match account.proxies with
      | some proxies =>
        if proxy ∈ proxies then .ok none
        else .ok (some (accounts.set username
          { account with proxies := some (proxies ++ [proxy]) }))
      | none => .ok none
    | none => .ok none
  | .revokeProxy proxy =>
    if accounts.rows.any fun row => row.2.proxies.any (proxy ∈ ·) then
      .ok (some (Table.mapRows accounts (withoutProxy proxy) (withoutProxy_key proxy)))
    else .ok none

/-! ## The operations -/

/-- An operation with what it reads from outside: the time when a code is checked, and whether the
transaction of its save succeeds. -/
inductive Call where
  | verify (request : LoginRequest) (now : Nat) (saved : Bool)
  /-- `add_account`; the account comes with its hashed password and its role. -/
  | addAccount (name : String) (account : Account) (saved : Bool)
  | edit (edit : Edit) (saved : Bool)

inductive Answer where
  | signedIn (response : LoginResponse)
  | done
  | failed (error : Error)
  deriving DecidableEq

/-- `save_accounts`: all or nothing. -/
def save (saved : Bool) (answer : Answer) (accounts : Accounts) : Answer × Option Accounts :=
  if saved then (answer, some accounts) else (.failed .failedToSaveConfig, none)

/-- A renewed account keeps the later of the two times. -/
def renewed (accounts : Accounts) (name : String) (account : Account) : Account :=
  match accounts.get name with
  | some previous =>
    { account with
      credentialsChangedAt := max account.credentialsChangedAt previous.credentialsChangedAt }
  | none => account

def run (lib : CredentialLibrary) : Call → Accounts → Answer × Option Accounts
  | .verify request now saved, accounts =>
    match verifyAndUpdate lib now accounts request with
    | .error error => (.failed error, none)
    | .ok (response, none) => (.signedIn response, none)
    | .ok (response, some next) => save saved (.signedIn response) next
  | .addAccount name account saved, accounts =>
    save saved .done (accounts.set name (renewed accounts name account))
  | .edit edit saved, accounts =>
    match applyEdit edit accounts with
    | .error error => (.failed error, none)
    | .ok none => (.done, none)
    | .ok (some next) => save saved .done next

/-- The TOTP step that a call of the account uses up. -/
def acceptedStep (lib : CredentialLibrary) (username : String) (call : Call)
    (accounts : Accounts) : Option Nat :=
  match call with
  | .verify ⟨name, .totp token⟩ now _ =>
    if name = username ∧ (run lib call accounts).1 = .signedIn .success then
      codeStep lib now accounts name token
    else none
  | _ => none

/-- The call makes the account anew. -/
def renews (username : String) : Call → Bool
  | .addAccount name _ _ => name = username
  | .edit (.add name _) _ => name = username
  | _ => false

/-- In the order, the accepted steps of an account grow until it is made anew. -/
def StepsGrow (lib : CredentialLibrary) (start : Accounts) (order : List (Nat × Call)) : Prop :=
  ∀ username before first between second after earlier later,
    order = before ++ first :: between ++ second :: after →
    (∀ entry ∈ between, renews username entry.2 = false) →
    acceptedStep lib username first.2 (serial (run lib) start before) = some earlier →
    acceptedStep lib username second.2
      (serial (run lib) start (before ++ first :: between)) = some later →
    earlier < later

/-- One serial order accounts for the answers and the stored accounts, and uses every step of an
account at most once. -/
def AccountsLinearizable (lib : CredentialLibrary) (start : Accounts)
    (s : ReadModifyWrite.State Accounts Call Answer) : Prop :=
  ∃ order, Linearizes (run lib) start s order ∧ StepsGrow lib start order

/-! ## What a call does to an account -/

/-- The account after a change that is no change of its credentials. -/
structure Keeps (before after : Account) : Prop where
  step : before.totpStep ≤ after.totpStep
  changed : after.credentialsChangedAt = before.credentialsChangedAt

/-- The account that a call makes, or whose role, proxies or password it sets. -/
def target : Call → Option String
  | .addAccount name _ _ => some name
  | .edit (.add name _) _ => some name
  | .edit (.update name _ _ _ _) _ => some name
  | _ => none

/-- Where the account of a name comes from after a call. -/
inductive Entry (accounts : Accounts) (call : Call) (username : String) (after : Account) : Prop
  | kept (other : target call ≠ some username) (before : Account)
      (known : accounts.get username = some before) (keeps : Keeps before after)
  | updated (before : Account) (role : Role) (proxies : Option (List ShortId))
      (password : Option String) (now : Nat) (saved : Bool)
      (called : call = .edit (.update username role proxies password now) saved)
      (known : accounts.get username = some before)
      (result : after = applyUpdate before role proxies password now)
  | added (saved : Bool) (called : call = .edit (.add username after) saved)
  | renewed (account : Account) (saved : Bool) (called : call = .addAccount username account saved)
      (result : after = renewed accounts username account)

section Entries

variable {lib : CredentialLibrary} {username : String} {accounts next : Accounts} {call : Call}
  {after : Account} {name credentialId : String} {account : Account} {saved : Bool}

theorem Keeps.refl (account : Account) : Keeps account account := ⟨Nat.le_refl _, rfl⟩

theorem Entry.same (other : target call ≠ some username)
    (known : accounts.get username = some after) : Entry accounts call username after :=
  .kept other after known (.refl after)

theorem entry_set (own : name = username → Entry accounts call username account)
    (other : name ≠ username → target call ≠ some username)
    (known : (accounts.set name account).get username = some after) :
    Entry accounts call username after := by
  rw [Accounts.get_set] at known
  by_cases same : name = username
  · rw [if_pos same] at known
    cases known
    exact own same
  · rw [if_neg same] at known
    exact .same (other same) known

/-- An account that is made from the one before. -/
theorem entry_set_of_get {before : Account} (other : target call ≠ some username)
    (here : accounts.get name = some before)
    (known : (accounts.set name account).get username = some after) (keeps : Keeps before account) :
    Entry accounts call username after := by
  refine entry_set ?_ (fun _ => other) known
  rintro rfl
  exact .kept other before here keeps

variable {edit : Account → Except Error Account}

theorem editAccount_ok (edited : editAccount accounts name edit = .ok next) :
    ∃ before account, accounts.get name = some before ∧ edit before = .ok account ∧
      next = accounts.set name account := by
  unfold editAccount at edited
  split at edited
  · cases edited
  · rename_i before known
    obtain ⟨account, done, same⟩ := map_eq_ok edited
    exact ⟨before, account, known, done, same.symm⟩

theorem entry_editAccount (other : target call ≠ some username)
    (keeps : ∀ before account, edit before = .ok account → Keeps before account)
    (edited : editAccount accounts name edit = .ok next) (known : next.get username = some after) :
    Entry accounts call username after := by
  obtain ⟨before, account, here, done, rfl⟩ := editAccount_ok edited
  exact entry_set_of_get other here known (keeps before account done)

theorem ensureAdminRemains_ok (ok : ensureAdminRemains accounts = .ok next) :
    next = accounts := by
  unfold ensureAdminRemains at ok
  split at ok
  · cases ok
    rfl
  · cases ok

theorem map_some_ok {edited : Except Error Accounts}
    (ok : edited.map some = .ok (some next)) : edited = .ok next := by
  obtain ⟨after, done, same⟩ := map_eq_ok ok
  cases same
  exact done

theorem update_ok {role : Role} {proxies : Option (List ShortId)} {password : Option String}
    {now : Nat}
    (edited : applyEdit (.update name role proxies password now) accounts = .ok (some next)) :
    ∃ before, accounts.get name = some before ∧
      next = accounts.set name (applyUpdate before role proxies password now) := by
  have done := map_some_ok edited
  cases updated : editAccount accounts name fun account =>
      .ok (applyUpdate account role proxies password now) with
  | error err =>
    rw [updated] at done
    cases done
  | ok changed =>
    rw [updated] at done
    rw [ensureAdminRemains_ok done]
    obtain ⟨before, account, here, same, rfl⟩ := editAccount_ok updated
    cases same
    exact ⟨before, here, rfl⟩

theorem add_ok (edited : applyEdit (.add name account) accounts = .ok (some next)) :
    next = accounts.set name account := by
  simp only [applyEdit] at edited
  split at edited
  · cases edited
  · cases edited
    rfl

theorem entry_applyEdit {edit : Edit} (edited : applyEdit edit accounts = .ok (some next))
    (known : next.get username = some after) :
    Entry accounts (.edit edit saved) username after := by
  cases edit with
  | add =>
    rw [add_ok edited] at known
    refine entry_set ?_ (fun different same => different (Option.some.inj same)) known
    rintro rfl
    exact .added saved rfl
  | update name role proxies password now =>
    obtain ⟨before, here, rfl⟩ := update_ok edited
    refine entry_set ?_ (fun different same => different (Option.some.inj same)) known
    rintro rfl
    exact .updated before role proxies password now saved rfl here rfl
  | delete =>
    simp only [applyEdit] at edited
    split at edited
    · rw [ensureAdminRemains_ok (map_some_ok edited), Accounts.get_erase] at known
      split at known
      · cases known
      · exact .same (fun none => by cases none) known
    · cases edited
  | registerPasskey =>
    refine entry_editAccount (fun none => by cases none) ?_ (map_some_ok edited) known
    rintro before account ⟨⟩
    exact ⟨Nat.le_refl _, rfl⟩
  | deletePasskey | createApiToken | deleteApiToken =>
    refine entry_editAccount (fun none => by cases none) ?_ (map_some_ok edited) known
    intro before account done
    dsimp only [deletePasskey, createApiToken, deleteApiToken] at done
    split at done <;> cases done
    exact ⟨Nat.le_refl _, rfl⟩
  | grantProxy =>
    simp only [applyEdit] at edited
    split at edited
    · rename_i account here
      split at edited
      · split at edited
        · cases edited
        · cases edited
          exact entry_set_of_get (fun none => by cases none) here known ⟨Nat.le_refl _, rfl⟩
      · cases edited
    · cases edited
  | revokeProxy =>
    simp only [applyEdit] at edited
    split at edited
    · cases edited
      rw [Accounts.get, Table.find_mapRows, Option.map_map] at known
      obtain ⟨row, there, rfl⟩ := Option.map_eq_some_iff.mp known
      refine .kept (fun none => by cases none) row.2 ?_ ⟨Nat.le_refl _, rfl⟩
      rw [Accounts.get, there, Option.map_some]
    · cases edited

theorem findAccountForPasskey_get {found : String}
    (known : findAccountForPasskey accounts name credentialId = some (found, account)) :
    accounts.get found = some account := by
  unfold findAccountForPasskey at known
  split at known
  · obtain ⟨row, there, same⟩ := Option.map_eq_some_iff.mp known
    cases same
    exact there
  · have member := List.mem_of_find?_eq_some known
    rw [Accounts.get, Table.find_eq_some.mpr ⟨member, rfl⟩, Option.map_some]

theorem verifyPasskeyCredential_keeps {before : Account} {assertion : Assertion}
    (done : verifyPasskeyCredential lib before credentialId assertion = .ok (some account)) :
    Keeps before account := by
  unfold verifyPasskeyCredential at done
  split at done
  · cases done
  · split at done
    · cases done
    · split at done
      · cases done
      · split at done
        · cases done
          exact ⟨Nat.le_refl _, rfl⟩
        · cases done

theorem entry_verify {now : Nat} {request : LoginRequest} {response : LoginResponse}
    (other : target call ≠ some username)
    (verified : verifyAndUpdate lib now accounts request = .ok (response, some next))
    (known : next.get username = some after) : Entry accounts call username after := by
  obtain ⟨name, method⟩ := request
  cases method with
  | password =>
    cases (verify_password_ok verified).2
  | totp =>
    obtain ⟨account, step, here, current, -, saved⟩ := verify_totp_ok verified
    cases saved
    exact entry_set_of_get other here known ⟨Nat.le_of_lt (codeStep_newer current here), rfl⟩
  | passkey =>
    simp only [verifyAndUpdate] at verified
    split at verified
    · cases verified
    · rename_i found account here
      obtain ⟨updated, checked, same⟩ := map_eq_ok verified
      cases updated with
      | none => cases same
      | some =>
        cases same
        exact entry_set_of_get other (findAccountForPasskey_get here) known
          (verifyPasskeyCredential_keeps checked)

theorem save_some {answer : Answer} {whole : Accounts}
    (stored : (save saved answer whole).2 = some next) : next = whole := by
  unfold save at stored
  split at stored
  · cases stored
    rfl
  · cases stored

theorem edit_stored {edit : Edit} (stored : (run lib (.edit edit saved) accounts).2 = some next) :
    applyEdit edit accounts = .ok (some next) := by
  simp only [run] at stored
  split at stored
  · cases stored
  · cases stored
  · rename_i edited
    rw [save_some stored]
    exact edited

/-- **The accounts that a call saves**, one by one. -/
theorem run_entry (stored : (run lib call accounts).2 = some next)
    (known : next.get username = some after) : Entry accounts call username after := by
  cases call with
  | verify =>
    simp only [run] at stored
    split at stored
    · cases stored
    · cases stored
    · rename_i verified
      rw [save_some stored] at known
      exact entry_verify nofun verified known
  | addAccount name account saved =>
    rw [save_some stored] at known
    refine entry_set ?_ (fun different same => different (Option.some.inj same)) known
    rintro rfl
    exact .renewed account saved rfl rfl
  | edit => exact entry_applyEdit (edit_stored stored) known

end Entries

/-! ## Steps grow -/

/-- No code of a step up to `n` is accepted for the account any more. -/
def Above (n : Nat) (username : String) (accounts : Accounts) : Prop :=
  ∀ account, accounts.get username = some account → n ≤ account.totpStep

section Above

variable {lib : CredentialLibrary} {n : Nat} {username : String} {accounts : Accounts}

/-- A call that does not make the account anew takes no step of it back. -/
theorem above_run (above : Above n username accounts) {call : Call}
    (other : renews username call = false) :
    Above n username ((run lib call accounts).2.getD accounts) := by
  cases stored : (run lib call accounts).2 with
  | none => exact above
  | some =>
    intro account known
    cases run_entry stored known with
    | kept other before here keeps => exact Nat.le_trans (above before here) keeps.step
    | updated before role proxies password now saved called here result =>
      rw [result]
      exact above before here
    | added _ called | renewed _ _ called => simp [called, renews] at other

theorem above_serial (above : Above n username accounts) {order : List (Nat × Call)}
    (others : ∀ entry ∈ order, renews username entry.2 = false) :
    Above n username (serial (run lib) accounts order) := by
  induction order generalizing accounts with
  | nil => exact above
  | cons entry rest ih =>
    apply ih (above_run above (others entry List.mem_cons_self))
    intro later member
    exact others later (List.mem_cons_of_mem _ member)

/-- An accepted code is newer than every step that is used up, and is used up then. -/
theorem acceptedStep_spec {call : Call} {step : Nat}
    (accepted : acceptedStep lib username call accounts = some step) :
    (∀ n, Above n username accounts → n < step) ∧
      Above step username ((run lib call accounts).2.getD accounts) := by
  unfold acceptedStep at accepted
  split at accepted
  · rename_i name token now saved
    split at accepted
    · rename_i ok
      obtain ⟨rfl, answered⟩ := ok
      simp only [run] at answered ⊢
      split at answered
      · cases answered
      · rename_i verified
        obtain ⟨_, _, _, _, _, absurd⟩ := verify_totp_ok verified
        cases absurd
      · rename_i verified
        obtain ⟨account, current, known, atStep, -, next⟩ := verify_totp_ok verified
        cases next
        rw [atStep] at accepted
        cases accepted
        refine ⟨fun n above => ?_, ?_⟩
        · have newer := codeStep_newer atStep known
          have before := above account known
          omega
        · unfold save at answered ⊢
          split at answered
          · rename_i stored
            rw [if_pos stored, Option.getD_some]
            intro found there
            rw [Accounts.get_set, if_pos rfl] at there
            cases there
            exact Nat.le_refl _
          · cases answered
    · cases accepted
  · cases accepted

/-- **Every step of an account is accepted at most once** in a serial order. -/
theorem steps_grow (lib : CredentialLibrary) (start : Accounts) (order : List (Nat × Call)) :
    StepsGrow lib start order := by
  rintro username before ⟨id, call⟩ between second after earlier later - others first last
  have used := (acceptedStep_spec first).2
  apply (acceptedStep_spec last).1
  rw [ReadModifyWrite.serial_append]
  exact above_serial used others

end Above

/-! ## Main result -/

/-- **Account storage is linearizable with sign-ins** in every run in which an operation that saves
finds the accounts as it loaded them. -/
theorem accounts_linearizable (lib : CredentialLibrary) (start : Accounts)
    (events : List (Event Call))
    (guarded : Guarded (ReadModifyWrite.step (run lib)) (Undisturbed (run lib)) (initial start)
      events) :
    Throughout (ReadModifyWrite.step (run lib)) (AccountsLinearizable lib start) (initial start)
      events := by
  apply (ReadModifyWrite.linearizable_of_guarded guarded).mono
  rintro s ⟨order, linearizes⟩
  exact ⟨order, linearizes, steps_grow lib start order⟩

/-! ## Two operations -/

section Small

abbrev Stored := ReadModifyWrite.State Accounts Call Answer

def runFrom (events : List (Event Call)) : Stored :=
  exec (ReadModifyWrite.step (run plainLibrary)) (initial twoAccounts) events

def signIn : Call := .verify ⟨"alice", .totp "alice-code"⟩ 0 true

def delete : Call := .edit (.delete "alice") true

/-- One operation after the other. -/
def inTurn : List (Event Call) := [.load 0 signIn, .finish 0, .load 1 delete, .finish 1]

/-- The first operation ends last. -/
def overlapping (first second : Call) : List (Event Call) :=
  [.load 0 first, .load 1 second, .finish 1, .finish 0]

theorem inTurn_linearizable :
    Throughout (ReadModifyWrite.step (run plainLibrary))
      (AccountsLinearizable plainLibrary twoAccounts) (initial twoAccounts) inTurn := by
  apply accounts_linearizable
  refine ⟨trivial, ?_, trivial, ?_, trivial⟩ <;>
    · rintro call seen ⟨⟩ -
      rfl

/-- Both operations compute from the accounts before either of them. -/
theorem overlapping_returned (first second : Call) :
    .returned 0 (run plainLibrary first twoAccounts).1 ∈
        (runFrom (overlapping first second)).history ∧
      .returned 1 (run plainLibrary second twoAccounts).1 ∈
        (runFrom (overlapping first second)).history := by
  constructor <;> simp [runFrom, overlapping, initial, ReadModifyWrite.step,
    ReadModifyWrite.Moment.invokes]

/-- The orders of two operations that both returned. -/
theorem order_of_two {first second : Call} {order : List (Nat × Call)}
    (linearizes : Linearizes (run plainLibrary) twoAccounts
      (runFrom (overlapping first second)) order) :
    order = [(0, first), (1, second)] ∨ order = [(1, second), (0, first)] := by
  have entries : ∀ entry ∈ order, entry = (0, first) ∨ entry = (1, second) := by
    rintro ⟨id, call⟩ member
    have there := linearizes.invoked _ member
    simpa [runFrom, overlapping, initial, ReadModifyWrite.step, ReadModifyWrite.Moment.invokes]
      using there
  have returned : ∀ id, id = 0 ∨ id = 1 → id ∈ order.map Prod.fst := by
    intro id known
    obtain ⟨answer, there⟩ : ∃ answer, .returned id answer ∈
        (runFrom (overlapping first second)).history := by
      rcases known with rfl | rfl
      · exact ⟨_, (overlapping_returned first second).1⟩
      · exact ⟨_, (overlapping_returned first second).2⟩
    obtain ⟨before, call, after, rfl, -⟩ := linearizes.answers id answer there
    simp
  have zero := returned 0 (.inl rfl)
  have one := returned 1 (.inr rfl)
  have nodup := linearizes.ids
  rcases order with _ | ⟨x, _ | ⟨y, _ | ⟨z, rest⟩⟩⟩
  · cases zero
  · rcases entries x List.mem_cons_self with rfl | rfl
    · simp at one
    · simp at zero
  · rcases entries x (by simp) with rfl | rfl <;> rcases entries y (by simp) with rfl | rfl
    · simp at nodup
    · exact .inl rfl
    · exact .inr rfl
    · simp at nodup
  · rcases entries x (by simp) with rfl | rfl <;> rcases entries y (by simp) with rfl | rfl <;>
      rcases entries z (by simp) with rfl | rfl <;> simp at nodup

/-- The answer of the second of two operations. -/
theorem second_answer {s : Stored} {first second : Nat} {call later : Call} {answer : Answer}
    (different : first ≠ second)
    (linearizes : Linearizes (run plainLibrary) twoAccounts s [(first, call), (second, later)])
    (returned : .returned second answer ∈ s.history) :
    answer =
      (run plainLibrary later (serial (run plainLibrary) twoAccounts [(first, call)])).1 := by
  obtain ⟨before, found, after, split, same⟩ := linearizes.answers second answer returned
  match before with
  | [] =>
    simp only [List.nil_append, List.cons.injEq, Prod.mk.injEq] at split
    exact absurd split.1.1 different
  | [entry] =>
    simp only [List.singleton_append, List.cons.injEq, Prod.mk.injEq] at split
    rw [same, ← split.1, ← split.2.1.2]
  | _ :: _ :: _ => simp at split

/-- The deleted account is back after a sign-in that loaded the accounts before the deletion, and
a code that two sign-ins bring at the same time is accepted twice. -/
theorem overlapping_not_linearizable :
    ¬ Linearizable (run plainLibrary) twoAccounts (runFrom (overlapping signIn delete)) ∧
      ¬ Linearizable (run plainLibrary) twoAccounts (runFrom (overlapping signIn signIn)) := by
  constructor
  · rintro ⟨order, linearizes⟩
    have stored := congrArg (fun accounts : Accounts => (accounts.get "alice").isSome)
      linearizes.store
    rcases order_of_two linearizes with rfl | rfl <;> exact absurd stored (by decide)
  · rintro ⟨order, linearizes⟩
    rcases order_of_two linearizes with rfl | rfl
    · exact absurd (second_answer (by decide) linearizes (overlapping_returned _ _).2) (by decide)
    · exact absurd (second_answer (by decide) linearizes (overlapping_returned _ _).1) (by decide)

end Small

end R3v3rs3.Auth.AccountStore
