/-
# R3v3rs3.Auth.ClientAddress -- the address that sign-ins of the admin API are counted by

Behind a trusted proxy `resolve_client_ip` takes the first entry of the first `x-forwarded-for`
line, else `x-real-ip`, else the peer.  A proxy adds the address that it saw at the end
(`R3v3rs3.Proxy.Http.ClientIp.received`), so the first entry is the client's as soon as the client
sends the header at all.

`seen_address_iff` says, for any two requests that differ in what the client sent, when both are
given the address that the proxy saw: the entry that the client put first is that address, or it is
no address and `x-real-ip` leads there.  The counters of the sign-in machine
(`R3v3rs3.Auth.CodeGuesses`) are then those of this address; `charges_only_seen` follows them
through whole runs.  `forged_entry_bans_another` is the run in which a client has another one
banned and is not counted itself.
-/
import R3v3rs3.Auth.CodeGuesses
import R3v3rs3.Proxy.Http.ClientIp

namespace R3v3rs3.Auth.ClientAddress
open Theory Theory.NetAddr Theory.Threads
open Proxy.Http (HeaderMap HeaderName HeaderValue bytes)
open Proxy.Http.ClientIp (ClientSent ProxySent addedLine canonicalClientIp received getAll_received
  toStr_comma toStr_eq_none v4)
open Theory.Run (exec Guarded Throughout)
open MultiMap (getAll_remove getAll_appendAll)
set_option autoImplicit false

/-! ## The address of a request -/

/-- The address that a header value starts with. -/
def firstEntry (value : HeaderValue) : Option IpAddr := do
  let text ← HeaderValue.toStr value
  let entry ← (Api.Text.split ',' text).head?
  IpAddr.parse (Api.Text.trimChars entry)

def headerIp (headers : HeaderMap) (name : HeaderName) : Option IpAddr :=
  (headers.get name).bind firstEntry

section Resolve

variable {Net : Type} (contains : Net → IpAddr → Bool) (trustedProxies : List Net)

def resolveClientIp (peer : IpAddr) (headers : HeaderMap) : IpAddr :=
  if trustedProxies.any fun range => contains range peer then
    ((headerIp headers "x-forwarded-for").or (headerIp headers "x-real-ip")).getD peer
  else peer

end Resolve

def isLoopback : IpAddr → Bool
  | .v4 addr => addr.a = 127
  | .v6 addr => addr.segments = [0, 0, 0, 0, 0, 0, 0, 1]

/-- The number of an address; the IPv6 addresses come after all others. -/
def addressBits : IpAddr → Nat
  | .v4 addr => ((addr.a.val * 256 + addr.b.val) * 256 + addr.c.val) * 256 + addr.d.val
  | .v6 addr => 4294967296 + addr.segments.foldl (fun high group => high * 65536 + group.val) 0

def clientIp (ip : IpAddr) : ClientIp := ⟨addressBits ip, isLoopback ip⟩

/-- What the counters of sign-ins are kept by. -/
def clientKey (ip : IpAddr) : ClientIp := clientIp (canonicalClientIp ip)

/-! ## What the proxy adds -/

/-- The proxy adds one entry, the address that it saw, and nothing after it. -/
structure AddsSeen (added : ProxySent) (seen : IpAddr) : Prop where
  last : added.later = []
  entry : ∃ text, HeaderValue.toStr added.line = some text ∧ ',' ∉ text ∧
    IpAddr.parse (Api.Text.trimChars text) = some seen

/-- The value of the client that comes first in `x-forwarded-for`. -/
def clientFirst (sent : ClientSent) : Option HeaderValue := sent.earlier.head?.or sent.part

/-- The client sent no `x-forwarded-for`, or named the seen address first, or put no address first
and `x-real-ip`, or else the peer, is the seen address. -/
def Unforged (peer seen : IpAddr) (sent : ClientSent) : Prop :=
  ∀ value ∈ clientFirst sent, firstEntry value = some seen ∨
    firstEntry value = none ∧ (headerIp sent.others "x-real-ip").getD peer = seen

instance (peer seen : IpAddr) (sent : ClientSent) : Decidable (Unforged peer seen sent) :=
  inferInstanceAs (Decidable (∀ _ ∈ _, _))

theorem split_ne_nil (text : List Char) : Api.Text.split ',' text ≠ [] :=
  List.splitOn_ne_nil _ _

/-- A line that the proxy added to starts with the client's entry. -/
theorem firstEntry_added {part line : HeaderValue} {text : List Char}
    (readable : HeaderValue.toStr line = some text) :
    firstEntry (part ++ 44 :: line) = firstEntry part := by
  unfold firstEntry
  cases front : HeaderValue.toStr part with
  | none =>
    have hidden : HeaderValue.toStr (part ++ 44 :: line) = none := by
      rw [toStr_eq_none] at front ⊢
      simp [front]
    rw [hidden]
  | some before =>
    rw [toStr_comma front readable]
    obtain ⟨first, rest, entries⟩ := List.exists_cons_of_ne_nil (split_ne_nil before)
    simp [Api.Text.split_append, entries]

theorem AddsSeen.firstEntry {added : ProxySent} {seen : IpAddr} (adds : AddsSeen added seen) :
    firstEntry added.line = some seen := by
  obtain ⟨text, readable, noComma, parsed⟩ := adds.entry
  have single : Api.Text.split ',' text = [text] := List.splitOn_eq_singleton noComma
  simp [ClientAddress.firstEntry, readable, single, parsed]

section Seen

variable {Net : Type} {contains : Net → IpAddr → Bool} {trustedProxies : List Net}
  {peer seen : IpAddr} {added : ProxySent} {lib : CredentialLibrary}

/-- The first entry decides where it is an address; `x-real-ip`, or else the peer, where it is
not. -/
theorem resolved_eq_iff (entry real : Option IpAddr) :
    (entry.or real).getD peer = seen ↔
      entry = some seen ∨ entry = none ∧ real.getD peer = seen := by
  cases entry <;> simp

theorem resolve_received_iff
    (trusted : (trustedProxies.any fun range => contains range peer) = true)
    (adds : AddsSeen added seen) (sent : ClientSent) :
    resolveClientIp contains trustedProxies peer (received sent added) = seen ↔
      Unforged peer seen sent := by
  have forwardedFor : (received sent added).get "x-forwarded-for" =
      sent.earlier.head?.or (some (addedLine sent.part added.line)) := by
    rw [MultiMap.get, (getAll_received sent added).1, List.head?_append]
    rfl
  have realIp : (received sent added).get "x-real-ip" = sent.others.get "x-real-ip" := by
    simp [MultiMap.get, received, getAll_appendAll, getAll_remove]
  obtain ⟨text, readable, -⟩ := adds.entry
  rw [resolveClientIp, if_pos trusted, headerIp, headerIp, forwardedFor, realIp]
  unfold Unforged clientFirst
  cases sent.earlier with
  | cons =>
    simp only [List.head?_cons, Option.some_or, Option.bind_some, Option.mem_def,
      Option.some.injEq, forall_eq']
    exact resolved_eq_iff _ _
  | nil =>
    cases sent.part with
    | none => simp [addedLine, adds.firstEntry]
    | some =>
      simp only [List.head?_nil, Option.none_or, Option.bind_some, Option.mem_def, addedLine,
        Option.some.injEq, forall_eq', firstEntry_added readable]
      exact resolved_eq_iff _ _

/-! ## The sign-ins that are counted -/

open CodeGuesses (AdminConfig Call Input Shared State Task program)

variable (contains trustedProxies peer)

/-- A sign-in with the headers that the proxy passed on. -/
def loginCall (headers : HeaderMap) (request : LoginRequest) (cookie : Option String) : Call :=
  let ip := resolveClientIp contains trustedProxies peer headers
  .login (clientIp ip) (clientKey ip) request cookie

variable {contains trustedProxies peer}

/-- **Two requests that differ in what the client sent.**  Both are given the address that the
proxy saw if and only if neither is forged; they are then checked against, and counted into, the
entries of that address. -/
theorem seen_address_iff
    (trusted : (trustedProxies.any fun range => contains range peer) = true)
    (adds : AddsSeen added seen) (first second : ClientSent) :
    ((resolveClientIp contains trustedProxies peer (received first added) = seen ∧
        resolveClientIp contains trustedProxies peer (received second added) = seen) ↔
      Unforged peer seen first ∧ Unforged peer seen second) ∧
      (Unforged peer seen first → Unforged peer seen second →
        ∀ request cookie,
          loginCall contains trustedProxies peer (received first added) request cookie =
              .login (clientIp seen) (clientKey seen) request cookie ∧
            loginCall contains trustedProxies peer (received second added) request cookie =
              .login (clientIp seen) (clientKey seen) request cookie) := by
  constructor
  · rw [resolve_received_iff trusted adds, resolve_received_iff trusted adds]
  · intro firstFair secondFair request cookie
    rw [loginCall, (resolve_received_iff trusted adds first).mpr firstFair, loginCall,
      (resolve_received_iff trusted adds second).mpr secondFair]
    exact ⟨rfl, rfl⟩

/-! ## Whole runs -/

/-- The address that a sign-in is counted by. -/
def ipOf : Task → Option ClientIp
  | .admitted key _ _ _ => some key.1
  | .recognized key _ _ _ _ => some key.1
  | .permitted key _ _ _ _ _ => some key.1
  | .rejected key _ _ => some key.1
  | .exhausted key _ _ => some key.1
  | .failing key _ => some key.1
  | .succeeded key _ _ _ => some key.1
  | .cleared key _ _ _ => some key.1
  | .accepted key _ _ => some key.1
  | .challenged key _ => some key.1
  | .opening _ _ _ => none

/-- Every ban entry of another address is one of `before`. -/
def Spares (key : ClientIp) (before bans : IpBanTracker) : Prop :=
  ∀ row ∈ bans.rows, row.1 ≠ key → row ∈ before.rows

/-- An access charges no other address, and its sign-in goes on under the same one. -/
structure Charges (key : ClientIp) (bans : IpBanTracker) (outcome : Shared × Option Task) :
    Prop where
  spares : Spares key bans outcome.1.banTracker
  own : ∀ task ∈ outcome.2, ∀ ip ∈ ipOf task, ip = key

theorem spares_checkBanned (key ip : ClientIp) (bans : IpBanTracker) (now : Nat) :
    Spares key bans (bans.checkBanned ip now).1 := by
  intro row member _
  unfold IpBanTracker.checkBanned at member
  have kept : ∀ row ∈ (bans.cleanup now).rows, row ∈ bans.rows :=
    fun row here => (List.mem_filter.mp here).1
  split at member
  · exact member
  · dsimp only at member
    split at member
    · split at member <;> exact kept row member
    · exact kept row member

theorem spares_recordFailure (key : ClientIp) (bans : IpBanTracker)
    (maxAttempts reset banDuration now : Nat) :
    Spares key bans (bans.recordFailure key maxAttempts reset banDuration now) := by
  intro row member other
  unfold IpBanTracker.recordFailure at member
  split at member
  · exact member
  · rcases Table.mem_upsert.mp member with ⟨known, -⟩ | rfl
    · exact known
    · exact absurd rfl other

theorem spares_clear (key ip : ClientIp) (bans : IpBanTracker) : Spares key bans (bans.clear ip) :=
  fun _ member _ => (Table.mem_erase.mp member).1

theorem spares_refl (key : ClientIp) (bans : IpBanTracker) : Spares key bans bans :=
  fun _ member _ => member

section Ends

variable {key : ClientIp} {bans : IpBanTracker} {shared : Shared}

theorem charges_goto {task : Task} (spares : Spares key bans shared.banTracker)
    (own : ∀ ip ∈ ipOf task, ip = key) : Charges key bans (shared.goto task) := by
  refine ⟨spares, fun next same => ?_⟩
  cases same
  exact own

theorem charges_answer (spares : Spares key bans shared.banTracker) (p : Nat)
    (result : Except Api.Error LoginResponse) : Charges key bans (shared.answer p result) :=
  ⟨spares, fun _ none => by cases none⟩

theorem charges_finish (spares : Spares key bans shared.banTracker) :
    Charges key bans shared.finish :=
  ⟨spares, fun _ none => by cases none⟩

end Ends

variable {shared : Shared} {config : AdminConfig} {key : ClientIp}

theorem charges_begin {p : Nat} {call : Call}
    (counted : ∀ ip canonical request cookie, call = .login ip canonical request cookie →
      canonical = key) :
    Charges key shared.banTracker (shared.begin config p call) := by
  cases call with
  | login ip canonical request cookie =>
    obtain rfl := counted ip canonical request cookie rfl
    have checked := spares_checkBanned canonical canonical shared.banTracker shared.now
    rw [Shared.begin, Shared.ensureLoginAllowed]
    generalize shared.banTracker.checkBanned canonical shared.now = check at checked ⊢
    obtain ⟨bans, err | _⟩ := check
    · exact charges_answer checked p _
    · dsimp only
      split
      · exact charges_finish checked
      · exact charges_answer checked p _
      · exact charges_goto checked fun _ same => (Option.some.inj same).symm
  | unban ip =>
    exact charges_finish (spares_clear key ip _)
  | wait | saveAccounts | publish | removeSession | removeExpired | prune =>
    exact charges_finish (spares_refl key _)

theorem charges_next {p : Nat} {ok : Bool} {token : String} {task : Task}
    (own : ∀ ip ∈ ipOf task, ip = key) :
    Charges key shared.banTracker (shared.next lib config p ok token task) := by
  have same := spares_refl key shared.banTracker
  cases task with
  | admitted =>
    rw [Shared.next]
    unfold Shared.preLogin
    split
    · split
      · exact charges_goto same own
      · split <;> exact charges_goto same own
    · split <;> exact charges_goto same own
    · exact charges_goto same own
  | recognized =>
    rw [Shared.next, Shared.accountBlocked]
    dsimp only
    split <;> exact charges_goto same own
  | permitted =>
    simp only [Shared.next, Shared.decided]
    split
    · split <;> exact charges_goto same own
    · split <;> exact charges_goto same own
    · exact charges_goto same own
  | rejected =>
    rw [Shared.next, Shared.recordTotpFailure]
    dsimp only
    split <;> exact charges_goto same own
  | exhausted | succeeded | cleared =>
    exact charges_goto same own
  | failing =>
    obtain rfl := own _ rfl
    rw [Shared.next, Shared.recordLoginFailure]
    split
    · exact charges_finish same
    · exact charges_answer (spares_recordFailure _ _ _ _ _ _) p _
  | accepted =>
    rw [Shared.next, Shared.recordSuccessfulLogin]
    split
    · exact charges_finish same
    · exact charges_goto (spares_clear key _ _) fun _ none => by cases none
  | challenged =>
    rw [Shared.next, Shared.releaseLoginAttempt]
    split
    · exact charges_finish same
    · exact charges_goto same fun _ none => by cases none
  | opening =>
    rw [Shared.next]
    refine charges_answer ?_ p _
    exact same

theorem charges_drop {sent : Bool} {task : Task} :
    Charges key shared.banTracker (shared.drop lib config sent task) := by
  have same := spares_refl key shared.banTracker
  unfold Shared.drop
  split
  · split
    · dsimp only
      split <;> exact charges_finish same
    · exact charges_finish same
  · exact charges_finish same
  · exact charges_finish same

/-- What an access owes to the run. -/
theorem Charges.settles {before : IpBanTracker} {system : State} {outcome : Shared × Option Task}
    (holds : Holds (fun s => Spares key before s.banTracker)
      (fun _ _ task => ∀ ip ∈ ipOf task, ip = key) system)
    (charges : Charges key system.shared.banTracker outcome) (p : Nat) :
    Settles (fun s => Spares key before s.banTracker)
      (fun _ _ task => ∀ ip ∈ ipOf task, ip = key) system p outcome := by
  refine ⟨?_, charges.own, fun q task known _ => holds.tasks q task known⟩
  intro row member other
  exact holds.shared row (charges.spares row member other) other

variable (contains trustedProxies peer seen added)

/-- A sign-in comes through the proxy from the seen address, and is not forged. -/
def FromSeen : Event Call Input → Prop
  | .begin _ (.login _ canonical _ _) => ∃ sent, Unforged peer seen sent ∧
      canonical = clientKey (resolveClientIp contains trustedProxies peer (received sent added))
  | _ => True

variable {contains trustedProxies peer seen added}

/-- **No other address is charged.**  In every run in which all sign-ins come from the seen address
and none is forged, the bans and counts of all other addresses are, in every state, among those
that were there at the start. -/
theorem charges_only_seen {events : List (Event Call Input)}
    (trusted : (trustedProxies.any fun range => contains range peer) = true)
    (adds : AddsSeen added seen)
    (guarded : Guarded (program lib config).step
      (fun _ event => FromSeen contains trustedProxies peer seen added event)
      (System.start shared) events) :
    Throughout (program lib config).step
      (fun state => Spares (clientKey seen) shared.banTracker state.shared.banTracker)
      (System.start shared) events := by
  have first : Holds (fun s => Spares (clientKey seen) shared.banTracker s.banTracker)
      (fun _ _ task => ∀ ip ∈ ipOf task, ip = clientKey seen) (System.start shared : State) :=
    Holds.start (spares_refl _ _)
  refine Holds.throughout ?_ ?_ (fun _ holds => holds.shared) first guarded
  · intro system p call holds _ fair
    refine Charges.settles holds (charges_begin ?_) p
    rintro ip canonical request cookie rfl
    obtain ⟨sent, unforged, rfl⟩ := fair
    rw [(resolve_received_iff trusted adds sent).mpr unforged]
  · intro system p task input holds member _
    have own := holds.tasks p task member
    cases input with
    | go => exact Charges.settles holds (charges_next own) p
    | dropped => exact Charges.settles holds charges_drop p

end Seen

/-! ## A client that names another address -/

section Forged

open CodeGuesses (AdminConfig Call Input State program)

/-- The proxy 10.0.0.5 is trusted, and passes on a request of `seen`. -/
def throughProxy (seen : String) (sent : ClientSent) : HeaderMap := received sent ⟨bytes seen, []⟩

def resolved (seen : String) (sent : ClientSent) : IpAddr :=
  resolveClientIp (fun range ip => decide (range = ip)) [v4 10 0 0 5] (v4 10 0 0 5)
    (throughProxy seen sent)

def silent : ClientSent := ⟨[], none, [], ⟨[]⟩⟩

/-- The client names 198.51.100.7. -/
def forged : ClientSent := ⟨[], some (bytes "198.51.100.7"), [], ⟨[]⟩⟩

theorem adds_seen : AddsSeen ⟨bytes "203.0.113.9", []⟩ (v4 203 0 113 9) := by
  refine ⟨rfl, "203.0.113.9".toList, ?_⟩
  decide

/-- Two requests without a made-up address; one sends `unknown` in its place. -/
theorem unreadable_entry_is_passed :
    let unknown : ClientSent :=
      ⟨[], some (bytes "unknown"), [], ⟨[("x-real-ip", bytes "203.0.113.9")]⟩⟩
    resolved "203.0.113.9" silent = v4 203 0 113 9 ∧
      resolved "203.0.113.9" unknown = v4 203 0 113 9 := by
  intro unknown
  refine (seen_address_iff ?_ adds_seen silent unknown).1.mpr ⟨?_, ?_⟩
  · decide
  · decide
  · decide

def twoAttempts : AdminConfig := ⟨2, 60000, 0⟩

/-- A sign-in with a code and no session, which fails. -/
def fails (p : Nat) (seen : String) (sent : ClientSent) (username : String) :
    List (Event Call Input) :=
  .begin p (.login (clientIp (resolved seen sent)) (clientKey (resolved seen sent)) ⟨username, .totp "000000"⟩ none) ::
    List.replicate 2 (.advance p (.go true ""))

theorem silent_failure_charges_own :
    let start := CodeGuesses.start twoAccounts CodeGuesses.startTime
    Throughout (program plainLibrary twoAttempts).step
      (fun state => Spares (clientKey (v4 203 0 113 9)) start.shared.banTracker
        state.shared.banTracker) start (fails 0 "203.0.113.9" silent "alice") :=
  @charges_only_seen _ (fun range ip => decide (range = ip)) [v4 10 0 0 5] (v4 10 0 0 5) _ _ _ _ _ _
    (by decide) adds_seen ⟨⟨silent, by decide, rfl⟩, trivial, trivial, trivial⟩

/-- Five sign-ins of 203.0.113.9 that name 198.51.100.7, and one each of the two addresses that
name none. -/
def forgedSignIns : List (Event Call Input) :=
  fails 0 "203.0.113.9" forged "a" ++ fails 1 "203.0.113.9" forged "b" ++
    fails 2 "203.0.113.9" forged "c" ++ fails 3 "203.0.113.9" forged "d" ++
    fails 4 "203.0.113.9" forged "e" ++ fails 5 "198.51.100.7" silent "alice" ++
    fails 6 "203.0.113.9" silent "alice"

/-- **The client chooses its address.**  The requests differ in what the client sent only.  After
five of them 198.51.100.7 is banned, though it made none; 203.0.113.9, which made them all, may
still sign in. -/
theorem forged_entry_bans_another :
    resolved "203.0.113.9" silent = v4 203 0 113 9 ∧
      resolved "203.0.113.9" forged = v4 198 51 100 7 ∧
      (exec (program plainLibrary twoAttempts).step
          (CodeGuesses.start twoAccounts CodeGuesses.startTime) forgedSignIns).shared.answers.drop 5 =
        [(5, .error (.ipBanned 300)), (6, .error .invalidLoginCredentials)] := by
  refine ⟨?_, ?_, ?_⟩
  · decide
  · decide
  · decide

end Forged

end R3v3rs3.Auth.ClientAddress
