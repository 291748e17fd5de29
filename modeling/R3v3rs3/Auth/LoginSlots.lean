/-
# R3v3rs3.Auth.LoginSlots -- the sign-ins of a key and its failures

`LoginAttempts` has one entry per client address and (cut) user name.  A sign-in takes a slot with
`acquire` and gives it back with `release`, `record_failure` or `clear`.  Here the calls come in any
order, as long as each slot is given back once.

What the counter is for:

* no call panics;
* failures and slots together stay within the limit;
* the failure that reaches the limit blocks the key until `reset` has passed;
* the number of entries stays within its bound.

`clear` removes the whole entry, the slots of other sign-ins of the key with it.  Such a sign-in is
not counted any more and can still fail, or clear, after the key was blocked: `login_slots_iff` says
that this, a name that cannot be cut and a deadline past the last `Instant` are all that goes wrong.
-/
import Mathlib.Data.List.Count
import Mathlib.Data.List.Perm.Subperm
import R3v3rs3.Auth.Attempts
import R3v3rs3.Theory.Run

namespace R3v3rs3.Auth.LoginSlots
open Theory Table LoginAttempts
open Theory.Run (exec Guarded Throughout)
set_option autoImplicit false

/-! ## Entries -/

section Entries

variable {attempts : LoginAttempts} {key : LoginAttemptKey} {reset now : Nat}

/-- With room in the map only the entry of the key changes. -/
theorem find_modifyAttempt (room : attempts.rows.length < maxLoginAttemptsEntries)
    (key : LoginAttemptKey) (reset now : Nat) (change : LoginAttempt → LoginAttempt)
    (other : LoginAttemptKey) :
    Table.find (attempts.modifyAttempt key reset now change) other =
      if key = other then some (key, change (attempts.current key reset now))
      else Table.find attempts other := by
  unfold modifyAttempt current
  cases Table.find attempts key with
  | some =>
    rw [find_upsert]
  | none =>
    rw [makeRoom, if_neg (Nat.not_le.mpr room), find_upsert]

/-- A block that has not passed keeps the entry. -/
theorem isActive_of_blocked {attempt : LoginAttempt} {deadline : Nat}
    (blocked : attempt.blockedUntil = some deadline) (before : now < deadline) :
    attempt.isActive reset now = true := by
  unfold LoginAttempt.isActive
  split
  · rfl
  · rw [blocked]
    simpa using before

theorem current_of_blocked {attempt : LoginAttempt} {deadline : Nat}
    (found : Table.find attempts key = some (key, attempt))
    (blocked : attempt.blockedUntil = some deadline) (before : now < deadline) :
    attempts.current key reset now = attempt := by
  rw [current, found]
  exact if_pos (isActive_of_blocked blocked before)

/-- What holds of the entry, if any, and of a new one holds of the one that is changed. -/
theorem current_induct {P : LoginAttempt → Prop} (new : P (.new now))
    (own : ∀ row ∈ attempts.rows, row.1 = key → P row.2) :
    P (attempts.current key reset now) := by
  unfold current
  cases found : Table.find attempts key with
  | none => exact new
  | some row =>
    obtain ⟨member, same⟩ := mem_of_find found
    dsimp only
    split
    · exact own row member same
    · exact new

end Entries

/-! ## Calls -/

inductive Op where
  | acquire (key : LoginAttemptKey)
  | release (key : LoginAttemptKey)
  | recordFailure (key : LoginAttemptKey)
  | clear (key : LoginAttemptKey)
  | pruneExpired

def Op.key : Op → Option LoginAttemptKey
  | .acquire key => some key
  | .release key => some key
  | .recordFailure key => some key
  | .clear key => some key
  | .pruneExpired => none

/-- The key whose slot a call gives back. -/
def Op.finished : Op → Option LoginAttemptKey
  | .acquire _ => none
  | .release key => some key
  | .recordFailure key => some key
  | .clear key => some key
  | .pruneExpired => none

structure Call where
  op : Op
  now : Nat

/-- The counter, the keys of the slots that are taken, and the failures that reached the limit with
their times. -/
structure Machine where
  attempts : LoginAttempts
  held : List LoginAttemptKey
  blocks : List (LoginAttemptKey × Nat)
  clock : Nat
  panicked : Bool

def Machine.start : Machine := ⟨.empty, [], [], 0, false⟩

/-- The entry that a call for the key works on. -/
def entry (attempts : LoginAttempts) (key : LoginAttemptKey) (reset now : Nat) : LoginAttempt :=
  (boundedKey key).elim (.new now) fun key => attempts.current key reset now

variable {next : LoginAttempts}

section Calls

variable (maxAttempts reset lastInstant : Nat)

/-- `Instant + Duration` panics past the last instant; nothing is said about the calls after a
panic. -/
def step (machine : Machine) (call : Call) : Machine :=
  match call.op with
  | .acquire key =>
    match machine.attempts.acquire key maxAttempts reset call.now with
    | none => { machine with panicked := true }
    | some (attempts, granted) =>
      { machine with
        attempts
        held := if granted then key :: machine.held else machine.held
        clock := call.now }
  | .release key =>
    match machine.attempts.release key with
    | none => { machine with panicked := true }
    | some attempts =>
      { machine with attempts, held := machine.held.erase key, clock := call.now }
  | .recordFailure key =>
    match machine.attempts.recordFailure key maxAttempts reset call.now with
    | none => { machine with panicked := true }
    | some attempts =>
      let failures := (entry machine.attempts key reset call.now).failures + 1
      if max 1 maxAttempts ≤ failures ∧ lastInstant < call.now + reset then
        { machine with panicked := true }
      else
        { machine with
          attempts
          held := machine.held.erase key
          blocks :=
            if failures = max 1 maxAttempts then (key, call.now) :: machine.blocks
            else machine.blocks
          clock := call.now }
  | .clear key =>
    match machine.attempts.clear key with
    | none => { machine with panicked := true }
    | some attempts =>
      { machine with attempts, held := machine.held.erase key, clock := call.now }
  | .pruneExpired =>
    { machine with
      attempts := machine.attempts.pruneExpired reset call.now
      clock := call.now }

/-- Time does not run backwards, a slot that is given back was taken, and all keys are known. -/
@[mk_iff]
structure Allowed (known : List LoginAttemptKey) (machine : Machine) (call : Call) : Prop where
  ordered : machine.clock ≤ call.now
  paired : ∀ key ∈ call.op.finished, key ∈ machine.held
  listed : ∀ key ∈ call.op.key, key ∈ known

instance (known : List LoginAttemptKey) (machine : Machine) (call : Call) :
    Decidable (Allowed known machine call) :=
  decidable_of_iff' _ (allowed_iff known machine call)

/-- What the counter is for. -/
structure Good (machine : Machine) : Prop where
  calm : machine.panicked = false
  counted : ∀ row ∈ machine.attempts.rows, row.2.failures + row.2.inFlight ≤ max 1 maxAttempts
  blocked : ∀ block ∈ machine.blocks, ∀ now, machine.clock ≤ now → now < block.2 + reset →
    (machine.attempts.acquire block.1 maxAttempts reset now).map Prod.snd = some false
  small : machine.attempts.rows.length ≤ maxLoginAttemptsEntries

/-- The name can be cut; a failure has a slot or is below the limit, and its deadline exists; and no
sign-in succeeds while its key is blocked. -/
def Fine (machine : Machine) (call : Call) : Prop :=
  match call.op with
  | .acquire key => (boundedKey key).isSome
  | .recordFailure key =>
    let attempt := entry machine.attempts key reset call.now
    (0 < attempt.inFlight ∨ attempt.failures < max 1 maxAttempts) ∧
      (max 1 maxAttempts ≤ attempt.failures + 1 → call.now + reset ≤ lastInstant)
  | .clear key =>
    ∀ block ∈ machine.blocks, boundedKey block.1 = boundedKey key → block.2 + reset ≤ call.now
  | .release _ => True
  | .pruneExpired => True

instance (machine : Machine) (call : Call) :
    Decidable (Fine maxAttempts reset lastInstant machine call) := by
  unfold Fine
  split <;> infer_instance

/-! ## The invariant of the map -/

/-- An entry within the limit, which is reached when there is a block. -/
def Within (attempt : LoginAttempt) : Prop :=
  attempt.failures + attempt.inFlight ≤ max 1 maxAttempts ∧
    (attempt.blockedUntil ≠ none → max 1 maxAttempts ≤ attempt.failures)

/-- The map at a time, with the failures that reached the limit. -/
structure Kept (known : List LoginAttemptKey) (attempts : LoginAttempts)
    (blocks : List (LoginAttemptKey × Nat)) (clock : Nat) : Prop where
  keys : ∀ row ∈ attempts.rows, some row.1 ∈ known.map boundedKey
  within : ∀ row ∈ attempts.rows, Within maxAttempts row.2
  past : ∀ block ∈ blocks, block.2 ≤ clock
  stands : ∀ block ∈ blocks, clock < block.2 + reset →
    ∃ key attempt deadline, boundedKey block.1 = some key ∧
      Table.find attempts key = some (key, attempt) ∧
        attempt.blockedUntil = some deadline ∧ block.2 + reset ≤ deadline

variable {maxAttempts reset lastInstant}
variable {known : List LoginAttemptKey} {attempts : LoginAttempts}
  {blocks : List (LoginAttemptKey × Nat)} {clock now : Nat} {key : LoginAttemptKey}

section Kept

variable (kept : Kept maxAttempts reset known attempts blocks clock)
include kept

/-- The entries have different keys, each the cut form of a known one. -/
theorem Kept.length_le :
    attempts.rows.length ≤ known.length := by
  have distinct : (attempts.rows.map fun row => some row.1).Nodup := by
    have keys := attempts.keys_nodup.map fun _ _ => Option.some.inj
    rwa [List.map_map] at keys
  have within : attempts.rows.map (fun row => some row.1) ⊆ known.map boundedKey := by
    intro name listed
    obtain ⟨row, member, rfl⟩ := List.mem_map.mp listed
    exact kept.keys row member
  have short := (List.subperm_of_subset distinct within).length_le
  simpa using short

theorem Kept.room (few : known.length < maxLoginAttemptsEntries) :
    attempts.rows.length < maxLoginAttemptsEntries :=
  Nat.lt_of_le_of_lt kept.length_le few

theorem Kept.current_within (key : LoginAttemptKey) (now : Nat) :
    Within maxAttempts (attempts.current key reset now) :=
  current_induct ⟨Nat.zero_le _, fun blocked => absurd rfl blocked⟩
    fun row member _ => kept.within row member

/-- A change of one entry that keeps the limit and the block. -/
theorem Kept.change (ordered : clock ≤ now) (listed : some key ∈ known.map boundedKey)
    {changed : LoginAttempt}
    (find : ∀ other, Table.find next other =
      if key = other then some (key, changed) else Table.find attempts other)
    (within : Within maxAttempts changed)
    (blocked : ∀ attempt deadline, Table.find attempts key = some (key, attempt) →
      attempt.blockedUntil = some deadline → now < deadline →
        ∃ later, changed.blockedUntil = some later ∧ min deadline (now + reset) ≤ later) :
    Kept maxAttempts reset known next blocks now := by
  have rows : ∀ row ∈ next.rows, row = (key, changed) ∨ row ∈ attempts.rows := by
    intro row member
    have found := find_eq_some.mpr ⟨member, rfl⟩
    rw [find] at found
    split at found
    · exact .inl (Option.some.inj found).symm
    · exact .inr (mem_of_find found).1
  refine ⟨fun row member => ?_, fun row member => ?_, fun block member => ?_, ?_⟩
  · rcases rows row member with rfl | old
    · exact listed
    · exact kept.keys row old
  · rcases rows row member with rfl | old
    · exact within
    · exact kept.within row old
  · exact Nat.le_trans (kept.past block member) ordered
  · intro block member before
    obtain ⟨name, attempt, deadline, cut, found, limit, late⟩ :=
      kept.stands block member (by omega)
    have past := kept.past block member
    by_cases same : key = name
    · subst same
      obtain ⟨later, blockedUntil, reaches⟩ := blocked attempt deadline found limit (by omega)
      refine ⟨key, changed, later, cut, ?_, blockedUntil, by omega⟩
      rw [find, if_pos rfl]
    · refine ⟨name, attempt, deadline, cut, ?_, limit, late⟩
      rw [find, if_neg same, found]

/-- Entries that go, if none of them has a block that has not passed. -/
theorem Kept.discard (ordered : clock ≤ now) (rows : ∀ row ∈ next.rows, row ∈ attempts.rows)
    (blocked : ∀ block ∈ blocks, now < block.2 + reset → ∀ row ∈ attempts.rows,
      boundedKey block.1 = some row.1 →
        (∃ deadline, row.2.blockedUntil = some deadline ∧ now < deadline) → row ∈ next.rows) :
    Kept maxAttempts reset known next blocks now := by
  refine ⟨fun row member => kept.keys row (rows row member),
    fun row member => kept.within row (rows row member),
    fun block member => Nat.le_trans (kept.past block member) ordered,
    fun block member before => ?_⟩
  obtain ⟨name, attempt, deadline, cut, found, limit, late⟩ := kept.stands block member (by omega)
  refine ⟨name, attempt, deadline, cut, ?_, limit, late⟩
  have stays := blocked block member before _ (mem_of_find found).1 cut
    ⟨deadline, limit, by omega⟩
  exact find_eq_some.mpr ⟨stays, rfl⟩

/-! ## What one call keeps -/

section Steps

variable (few : known.length < maxLoginAttemptsEntries) (ordered : clock ≤ now)
  {name : LoginAttemptKey}
include few ordered

theorem Kept.acquire {granted : Bool} (listed : name ∈ known)
    (taken : attempts.acquire name maxAttempts reset now = some (next, granted)) :
    Kept maxAttempts reset known next blocks now := by
  obtain ⟨key, cut, result⟩ := Option.map_eq_some_iff.mp taken
  have member : some key ∈ known.map boundedKey := cut ▸ List.mem_map_of_mem listed
  have find := find_modifyAttempt (kept.room few) key reset now
  have within := kept.current_within key now
  dsimp only at result
  split at result
  · cases result
    refine kept.change ordered member (find id) within ?_
    intro attempt deadline found limit before
    refine ⟨deadline, ?_, Nat.min_le_left _ _⟩
    rw [current_of_blocked found limit before]
    exact limit
  · next free =>
      cases result
      refine kept.change ordered member (find _) ?_ ?_
      · refine ⟨?_, within.2⟩
        dsimp only
        omega
      · intro attempt deadline found limit before
        refine ⟨deadline, ?_, Nat.min_le_left _ _⟩
        rw [current_of_blocked found limit before]
        exact limit

omit ordered in
/-- The entry that a failure leaves. -/
theorem find_recordFailure
    (failed : attempts.recordFailure name maxAttempts reset now = some next) :
    ∃ key changed, boundedKey name = some key ∧
      changed = LoginAttempt.fail
        { entry attempts name reset now with
          inFlight := (entry attempts name reset now).inFlight - 1 } maxAttempts reset now ∧
      ∀ other, Table.find next other =
        if key = other then some (key, changed) else Table.find attempts other := by
  obtain ⟨key, cut, result⟩ := Option.map_eq_some_iff.mp failed
  cases result
  refine ⟨key, _, cut, ?_, find_modifyAttempt (kept.room few) key reset now _⟩
  rw [entry, cut]
  rfl

theorem Kept.recordFailure (listed : name ∈ known)
    (slot : 0 < (entry attempts name reset now).inFlight ∨
      (entry attempts name reset now).failures < max 1 maxAttempts)
    (failed : attempts.recordFailure name maxAttempts reset now = some next) :
    Kept maxAttempts reset known next
      (if (entry attempts name reset now).failures + 1 = max 1 maxAttempts then
        (name, now) :: blocks else blocks) now := by
  obtain ⟨key, changed, cut, leaves, find⟩ := find_recordFailure kept few failed
  have member : some key ∈ known.map boundedKey := cut ▸ List.mem_map_of_mem listed
  have here : entry attempts name reset now = attempts.current key reset now := by
    rw [entry, cut]
    rfl
  have within := kept.current_within key now
  rw [← here] at within
  have old : Kept maxAttempts reset known next blocks now := by
    refine kept.change ordered member find ?_ ?_
    · rw [leaves]
      obtain ⟨counted, full⟩ := within
      constructor
      · dsimp only [LoginAttempt.fail]
        omega
      · dsimp only [LoginAttempt.fail]
        intro blocked
        split at blocked
        · assumption
        · exact Nat.le_succ_of_le (full blocked)
    · intro attempt deadline found limit before
      rw [leaves, here, current_of_blocked found limit before]
      dsimp only [LoginAttempt.fail]
      split
      · exact ⟨now + reset, rfl, Nat.min_le_right _ _⟩
      · exact ⟨deadline, limit, Nat.min_le_left _ _⟩
  split
  · next reached =>
      refine ⟨old.keys, old.within, ?_, ?_⟩
      · intro block listed
        rcases List.mem_cons.mp listed with rfl | earlier
        · exact Nat.le_refl now
        · exact old.past block earlier
      · intro block listed before
        rcases List.mem_cons.mp listed with rfl | earlier
        · refine ⟨key, changed, now + reset, cut, by rw [find, if_pos rfl], ?_, Nat.le_refl _⟩
          rw [leaves]
          exact if_pos (Nat.le_of_eq reached.symm)
        · exact old.stands block earlier before
  · exact old

omit few in
theorem Kept.release (listed : name ∈ known) (given : attempts.release name = some next) :
    Kept maxAttempts reset known next blocks now := by
  obtain ⟨key, cut, result⟩ := Option.map_eq_some_iff.mp given
  have member : some key ∈ known.map boundedKey := cut ▸ List.mem_map_of_mem listed
  cases found : Table.find attempts key with
  | none =>
    rw [found] at result
    cases result
    exact kept.discard ordered (fun _ row => row) (fun _ _ _ _ row _ _ => row)
  | some row =>
    rw [found] at result
    cases result
    obtain ⟨counted, full⟩ := kept.within row (mem_of_find found).1
    refine kept.change ordered member (find_upsert attempts _) ⟨?_, full⟩ ?_
    · dsimp only
      omega
    · intro attempt deadline same limit before
      rw [found] at same
      cases same
      exact ⟨deadline, limit, Nat.min_le_left _ _⟩

omit few in
theorem Kept.clear
    (open' : ∀ block ∈ blocks, boundedKey block.1 = boundedKey name → block.2 + reset ≤ now)
    (cleared : attempts.clear name = some next) : Kept maxAttempts reset known next blocks now := by
  obtain ⟨key, cut, result⟩ := Option.map_eq_some_iff.mp cleared
  cases result
  refine kept.discard ordered (fun row member => (mem_erase.mp member).1) ?_
  intro block listed before row member same _
  refine mem_erase.mpr ⟨member, fun equal => ?_⟩
  have passed := open' block listed (by rw [same, equal, cut])
  omega

omit few in
theorem Kept.pruneExpired :
    Kept maxAttempts reset known (attempts.pruneExpired reset now) blocks now := by
  refine kept.discard ordered (fun row member => (List.mem_filter.mp member).1) ?_
  rintro block listed before row member same ⟨deadline, limit, ahead⟩
  refine List.mem_filter.mpr ⟨member, ?_⟩
  dsimp only
  rw [isActive_of_blocked limit ahead]
  rfl

end Steps

end Kept

/-! ## Runs -/

/-- The map is kept, and the slots that are taken have names that could be cut. -/
structure Inv (maxAttempts reset : Nat) (known : List LoginAttemptKey) (machine : Machine) :
    Prop where
  calm : machine.panicked = false
  kept : Kept maxAttempts reset known machine.attempts machine.blocks machine.clock
  cut : ∀ key ∈ machine.held, (boundedKey key).isSome

theorem Inv.start (maxAttempts reset : Nat) (known : List LoginAttemptKey) :
    Inv maxAttempts reset known .start where
  calm := rfl
  kept := ⟨by simp [Machine.start], by simp [Machine.start], by simp [Machine.start],
    by simp [Machine.start]⟩
  cut := by simp [Machine.start]

variable {machine : Machine} {call : Call}

/-- A key with a block that has not passed is refused. -/
theorem Kept.acquire_blocked (kept : Kept maxAttempts reset known attempts blocks clock)
    {block : LoginAttemptKey × Nat} (listed : block ∈ blocks) (ordered : clock ≤ now)
    (before : now < block.2 + reset) :
    (attempts.acquire block.1 maxAttempts reset now).map Prod.snd = some false := by
  obtain ⟨key, attempt, deadline, cut, found, limit, late⟩ := kept.stands block listed (by omega)
  have ahead : now < deadline := by omega
  have here : attempts.current key reset now = attempt := current_of_blocked found limit ahead
  have blocked : attempt.isBlocked now = true := by
    rw [LoginAttempt.isBlocked, limit]
    simpa using ahead
  rw [LoginAttempts.acquire, cut, Option.map_some, Option.map_some, here, if_pos (.inl blocked)]

variable (inv : Inv maxAttempts reset known machine)
  (few : known.length < maxLoginAttemptsEntries)
include inv few

theorem Inv.good : Good maxAttempts reset machine where
  calm := inv.calm
  counted := fun row member => (inv.kept.within row member).1
  blocked := fun _ listed _ ordered before => inv.kept.acquire_blocked listed ordered before
  small := Nat.le_of_lt (inv.kept.room few)

variable (allowed : Allowed known machine call)
include allowed

theorem Inv.step (fine : Fine maxAttempts reset lastInstant machine call) :
    Inv maxAttempts reset known (step maxAttempts reset lastInstant machine call) := by
  obtain ⟨op, now⟩ := call
  obtain ⟨ordered, paired, listed⟩ := allowed
  have rest : ∀ key, ∀ other ∈ machine.held.erase key, (boundedKey other).isSome :=
    fun key other member => inv.cut other (List.mem_of_mem_erase member)
  cases op with
  | acquire name =>
    dsimp only [LoginSlots.step]
    obtain ⟨key, cut⟩ := Option.isSome_iff_exists.mp fine
    cases taken : machine.attempts.acquire name maxAttempts reset now with
    | none => rw [acquire, cut] at taken; cases taken
    | some =>
      refine ⟨inv.calm, inv.kept.acquire few ordered (listed name rfl) taken, ?_⟩
      intro other member
      dsimp only at member
      split at member
      · rcases List.mem_cons.mp member with rfl | earlier
        · exact fine
        · exact inv.cut other earlier
      · exact inv.cut other member
  | release name =>
    dsimp only [LoginSlots.step]
    obtain ⟨key, cut⟩ := Option.isSome_iff_exists.mp (inv.cut name (paired name rfl))
    cases given : machine.attempts.release name with
    | none => rw [release, cut] at given; cases given
    | some => exact ⟨inv.calm, inv.kept.release ordered (listed name rfl) given, rest name⟩
  | recordFailure name =>
    dsimp only [LoginSlots.step]
    obtain ⟨key, cut⟩ := Option.isSome_iff_exists.mp (inv.cut name (paired name rfl))
    cases failed : machine.attempts.recordFailure name maxAttempts reset now with
    | none => rw [recordFailure, cut] at failed; cases failed
    | some =>
      obtain ⟨slot, before⟩ := fine
      have timely : ¬ (max 1 maxAttempts ≤ (entry machine.attempts name reset now).failures + 1 ∧
          lastInstant < now + reset) := by
        rintro ⟨reached, late⟩
        exact Nat.not_lt.mpr (before reached) late
      dsimp only
      rw [if_neg timely]
      exact ⟨inv.calm, inv.kept.recordFailure few ordered (listed name rfl) slot failed,
        rest name⟩
  | clear name =>
    dsimp only [LoginSlots.step]
    obtain ⟨key, cut⟩ := Option.isSome_iff_exists.mp (inv.cut name (paired name rfl))
    cases cleared : machine.attempts.clear name with
    | none => rw [clear, cut] at cleared; cases cleared
    | some => exact ⟨inv.calm, inv.kept.clear ordered fine cleared, rest name⟩
  | pruneExpired => exact ⟨inv.calm, inv.kept.pruneExpired ordered, inv.cut⟩

/-- A step to a good state was fine. -/
theorem Inv.fine_of_good
    (good : Good maxAttempts reset (LoginSlots.step maxAttempts reset lastInstant machine call)) :
    Fine maxAttempts reset lastInstant machine call := by
  obtain ⟨op, now⟩ := call
  cases op with
  | acquire name =>
    dsimp only [LoginSlots.step] at good
    cases cut : boundedKey name with
    | none =>
      rw [acquire, cut] at good
      cases good.calm
    | some =>
      show (boundedKey name).isSome = true
      rw [cut]
      rfl
  | release | pruneExpired => exact trivial
  | recordFailure name =>
    dsimp only [LoginSlots.step] at good
    cases failed : machine.attempts.recordFailure name maxAttempts reset now with
    | none =>
      rw [failed] at good
      cases good.calm
    | some next =>
      rw [failed] at good
      dsimp only at good
      split at good
      · cases good.calm
      · next deadline =>
          obtain ⟨key, changed, -, leaves, find⟩ := find_recordFailure inv.kept few failed
          have found : Table.find next key = some (key, changed) := by rw [find, if_pos rfl]
          have counted := good.counted _ (mem_of_find found).1
          rw [leaves] at counted
          dsimp only [LoginAttempt.fail] at counted
          constructor
          · dsimp only
            omega
          · intro reached
            exact Nat.not_lt.mp fun late => deadline ⟨reached, late⟩
  | clear name =>
    dsimp only [LoginSlots.step] at good
    intro block listed same
    cases cleared : machine.attempts.clear name with
    | none =>
      rw [cleared] at good
      cases good.calm
    | some next =>
      rw [cleared] at good
      by_contra before
      have refused := good.blocked block listed now (Nat.le_refl now) (Nat.not_le.mp before)
      obtain ⟨key, cut, erased⟩ := Option.map_eq_some_iff.mp cleared
      have absent : Table.find next key = none := by
        rw [← erased, find_erase, if_pos rfl]
      have here : next.current key reset now = .new now := by rw [current, absent]
      rw [acquire, same, cut, Option.map_some, Option.map_some, here,
        if_neg (by simp [LoginAttempt.isBlocked, LoginAttempt.new])] at refused
      cases refused

end Calls

/-! ## The counter -/

/-- The counter does what it is for, in a run with fewer keys than the map can hold, exactly when
every call is fine. -/
theorem login_slots_iff (maxAttempts reset lastInstant : Nat) (known : List LoginAttemptKey)
    (calls : List Call) (few : known.length ≤ maxLoginAttemptsEntries - 1)
    (allowed : Guarded (step maxAttempts reset lastInstant) (Allowed known) .start calls) :
    Throughout (step maxAttempts reset lastInstant) (Good maxAttempts reset) .start calls ↔
      Guarded (step maxAttempts reset lastInstant) (Fine maxAttempts reset lastInstant) .start
        calls := by
  have few' : known.length < maxLoginAttemptsEntries := Nat.lt_of_le_of_lt few (by decide)
  exact Run.throughout_iff_guarded_while
    (fun _ _ inv allowed fine => inv.step few' allowed fine)
    (fun _ inv => inv.good few')
    (fun _ _ inv allowed good => inv.fine_of_good few' allowed good)
    (Inv.start maxAttempts reset known) allowed

/-- A failure at a limit of one blocks the key. -/
theorem one_failure_blocks :
    Throughout (step 1 10 100) (Good 1 10) .start
      [⟨.acquire (⟨1, false⟩, "a"), 0⟩, ⟨.recordFailure (⟨1, false⟩, "a"), 1⟩,
        ⟨.acquire (⟨1, false⟩, "a"), 5⟩] :=
  (login_slots_iff 1 10 100 [(⟨1, false⟩, "a")] _ (by decide) (by decide)).mpr (by decide)

/-- Of two sign-ins the first succeeds; two more fail and block the key; the second then is a third
failure.  And a name of 129 bytes whose last character has two cannot be cut. -/
theorem cleared_slot_fails_late :
    Guarded (step 2 10 100) (Allowed [(⟨1, false⟩, "a")]) .start
        [⟨.acquire (⟨1, false⟩, "a"), 0⟩, ⟨.acquire (⟨1, false⟩, "a"), 0⟩,
          ⟨.clear (⟨1, false⟩, "a"), 1⟩, ⟨.acquire (⟨1, false⟩, "a"), 2⟩,
          ⟨.recordFailure (⟨1, false⟩, "a"), 3⟩, ⟨.acquire (⟨1, false⟩, "a"), 3⟩,
          ⟨.recordFailure (⟨1, false⟩, "a"), 4⟩, ⟨.recordFailure (⟨1, false⟩, "a"), 5⟩] ∧
      (∃ row ∈ (exec (step 2 10 100) .start
        [⟨.acquire (⟨1, false⟩, "a"), 0⟩, ⟨.acquire (⟨1, false⟩, "a"), 0⟩,
          ⟨.clear (⟨1, false⟩, "a"), 1⟩, ⟨.acquire (⟨1, false⟩, "a"), 2⟩,
          ⟨.recordFailure (⟨1, false⟩, "a"), 3⟩, ⟨.acquire (⟨1, false⟩, "a"), 3⟩,
          ⟨.recordFailure (⟨1, false⟩, "a"), 4⟩,
          ⟨.recordFailure (⟨1, false⟩, "a"), 5⟩]).attempts.rows,
        max 1 2 < row.2.failures + row.2.inFlight) ∧
      (step 2 10 100 .start
        ⟨.acquire (⟨1, false⟩, String.ofList (List.replicate 127 'a' ++ ['é'])), 0⟩).panicked =
          true := by
  decide +kernel

end R3v3rs3.Auth.LoginSlots
