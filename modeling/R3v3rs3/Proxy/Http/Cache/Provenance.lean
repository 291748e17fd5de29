/-
# R3v3rs3.Proxy.Http.Cache.Provenance -- every entry and every answer goes back to an insertion

`Sound` is the invariant of the machine.  An insertion is made in one of three ways, each with the
check of its code path (`Derived`): a response that passed `isStorable` and whose `vary` values
come from its request; a refresh of an entry inserted before, by a `304` that passed
`isStorable304`; or the response of another node, in a cluster.  An entry was inserted after the
last purge that emptied the entries, and an answer comes from an insertion that no purge before its
lookup has taken out.

The steps are looked at once, in `Keeps` lemmas; the results about runs use `sound_throughout` and
argue on the list of insertions.
-/
import R3v3rs3.Proxy.Http.Cache.Fetch

namespace R3v3rs3.Proxy.Http.Cache.Fetch
open Api Theory Theory.Threads
open Theory.Run (exec Guarded Throughout)
set_option autoImplicit false

/-! ## Insertions and what they rest on -/

/-- A head that passed `isStorable` and records what the request had. -/
structure Admissible (authorized : Bool) (request : HeaderMap) (head : StoredHead) : Prop where
  storable : isStorable head.status head.headers authorized = true
  values : varyValues head.headers request = some head.vary

variable (setup : Setup) {insertions : List Insertion} {kept : Kept} {client : Client}
  {request : CacheRequest} {more : List Insertion} {floor : Nat} {after : Shared} {state : State}
  {leads : Bool}

/-- How an insertion comes about, after the older ones. -/
inductive Derived (older : List Insertion) : Insertion → Prop where
  | fresh {key : String} {kept : Kept} {way : Way} {authorized : Bool} {cleared : Nat}
      (full : way = .stored ∨ way = .revalidated)
      (admissible : Admissible authorized kept.origin.request kept.entry.head) :
      Derived older ⟨key, kept, way, authorized, cleared⟩
  | refreshed {key : String} {base : Insertion} {authorized : Bool} {cleared : Nat}
      {headers : HeaderMap} (now : Instant) (clock : SystemTime) (known : base ∈ older)
      (storable : isStorable304 headers authorized = true) :
      Derived older
        ⟨key, ⟨merge304Headers setup.parseHttpDate now clock base.kept.entry headers
          setup.config.defaultTtl true, base.kept.origin⟩, .refreshed, authorized, cleared⟩
  | shared {key : String} {kept : Kept} {authorized : Bool} {cleared : Nat}
      (cluster : setup.sharing = true) : Derived older ⟨key, kept, .shared, authorized, cleared⟩

def Justified : List Insertion → Prop
  | [] => True
  | insertion :: older => Derived setup older insertion ∧ Justified older

/-- **The rule for insertions.**  Where all insertions meet `ok`, what each way establishes with
it, a refresh from the entry it refreshes, holds of all of them. -/
theorem Justified.all {ok good : Insertion → Prop}
    (derives : ∀ older insertion, Derived setup older insertion → ok insertion →
      (∀ base ∈ older, good base) → good insertion) (justified : Justified setup insertions)
    (meets : ∀ insertion ∈ insertions, ok insertion) :
    ∀ insertion ∈ insertions, good insertion := by
  induction insertions with
  | nil => simp
  | cons insertion older ih =>
    have before := ih justified.2 fun base known => meets base (List.mem_cons_of_mem _ known)
    rintro other (_ | ⟨_, known⟩)
    · exact derives older insertion justified.1 (meets insertion List.mem_cons_self) before
    · exact before other known

variable {setup}

/-- The entry was inserted, and no purge up to `floor` came after that. -/
def Held (insertions : List Insertion) (floor : Nat) (kept : Kept) : Prop :=
  ∃ insertion ∈ insertions, insertion.kept = kept ∧ floor ≤ insertion.cleared

/-- An answer has its body from an insertion that no purge before its lookup took out; one that a
lookup gives is the entry itself, and it matches. -/
structure Grounded (insertions : List Insertion) (answer : Answer) : Prop where
  origin : ∃ insertion ∈ insertions, insertion.kept.origin = answer.kept.origin ∧
    answer.client.floor ≤ insertion.cleared
  lookup : answer.source = .lookup →
    Held insertions answer.client.floor answer.kept ∧
      answer.kept.entry.matchesRequest answer.client.request.headers = true

theorem Held.mono (held : Held insertions floor kept) (grown : insertions ⊆ more) :
    Held more floor kept := by
  obtain ⟨insertion, known, same, later⟩ := held
  exact ⟨insertion, grown known, same, later⟩

theorem Grounded.mono {answer : Answer} (grounded : Grounded insertions answer)
    (grown : insertions ⊆ more) : Grounded more answer := by
  obtain ⟨⟨insertion, known, same, later⟩, lookup⟩ := grounded
  exact ⟨⟨insertion, grown known, same, later⟩,
    fun found => ⟨(lookup found).1.mono grown, (lookup found).2⟩⟩

variable (setup) in
structure Sound (shared : Shared) : Prop where
  rows : ∀ row ∈ shared.entries.rows, ∃ insertion ∈ shared.insertions,
    insertion.kept = row.2 ∧ insertion.cleared = shared.cleared
  returned : shared.returned ≤ shared.cleared
  justified : Justified setup shared.insertions
  answers : ∀ answer ∈ shared.answers, Grounded shared.insertions answer

/-- What a task relies on. -/
def Owns (setup : Setup) (shared : Shared) : Task → Prop
  | .probing client | .adopting client _ =>
    client.floor ≤ shared.cleared ∧ setup.sharing = true
  | .spawning client kept source =>
    Held shared.insertions client.floor kept ∧
      (source = .lookup → kept.entry.matchesRequest client.request.headers = true)
  | .boarding client stored | .following client stored | .waiting client stored
  | .asking client stored _ | .arriving client stored _ _ _ =>
    client.floor ≤ shared.cleared ∧ ∀ kept ∈ stored, Held shared.insertions client.floor kept
  | .refreshing client kept _ => Held shared.insertions client.floor kept
  | .recording request recorder _ _ =>
    ∀ head ∈ recorder.head, Admissible request.authorized request.headers head
  | .revalidating _ kept | .reading _ kept _ _ => Held shared.insertions 0 kept
  | .announcing purge _ => purge ≤ shared.cleared
  | _ => True

/-! ## What an access owes -/

structure Grows (before after : Shared) : Prop where
  insertions : before.insertions ⊆ after.insertions
  cleared : before.cleared ≤ after.cleared

theorem Grows.refl (shared : Shared) : Grows shared shared := ⟨List.Subset.refl _, Nat.le_refl _⟩

theorem Owns.mono {before : Shared} {task : Task} (owns : Owns setup before task)
    (grows : Grows before after) : Owns setup after task := by
  cases task <;> simp only [Owns] at owns ⊢
  case probing | adopting => exact ⟨Nat.le_trans owns.1 grows.cleared, owns.2⟩
  case spawning => exact ⟨owns.1.mono grows.insertions, owns.2⟩
  case boarding | following | waiting | asking | arriving =>
    exact ⟨Nat.le_trans owns.1 grows.cleared,
      fun kept stored => (owns.2 kept stored).mono grows.insertions⟩
  case refreshing | revalidating | reading => exact owns.mono grows.insertions
  case recording => exact owns
  case announcing => exact Nat.le_trans owns grows.cleared

variable (setup) in
structure Keeps (before : Shared) (outcome : Shared × Option Task) : Prop where
  sound : Sound setup outcome.1
  grows : Grows before outcome.1
  owns : ∀ task ∈ outcome.2, Owns setup outcome.1 task

theorem Keeps.settles {p : Nat} {outcome : Shared × Option Task}
    (holds : Holds (Sound setup) (fun shared _ => Owns setup shared) state)
    (keeps : Keeps setup state.shared outcome) :
    Settles (Sound setup) (fun shared _ => Owns setup shared) state p outcome where
  shared := keeps.sound
  next := keeps.owns
  others q task known _ := (holds.tasks q task known).mono keeps.grows

section Effects

variable {before shared : Shared} {source : Source} {key : String} {clocks : Clocks}

theorem Keeps.goto {task : Task} (sound : Sound setup shared) (grows : Grows before shared)
    (owns : Owns setup shared task) : Keeps setup before (shared.goto task) :=
  ⟨sound, grows, by rintro _ ⟨⟩; exact owns⟩

theorem Keeps.finish (sound : Sound setup shared) (grows : Grows before shared) :
    Keeps setup before shared.finish :=
  ⟨sound, grows, fun _ next => absurd next (Option.not_mem_none _)⟩

theorem Keeps.release (sound : Sound setup shared) (grows : Grows before shared) :
    Keeps setup before (shared.release key leads) := by
  unfold Shared.release
  split
  · exact .goto sound grows trivial
  · exact .finish sound grows

/-- A change of what the invariant does not speak of, or entries that are gone. -/
theorem Sound.shrink (sound : Sound setup shared)
    (entries : after.entries.rows ⊆ shared.entries.rows)
    (cleared : after.cleared = shared.cleared) (returned : after.returned = shared.returned)
    (insertions : after.insertions = shared.insertions) (answers : after.answers = shared.answers) :
    Sound setup after := by
  obtain ⟨rows, back, justified, grounded⟩ := sound
  refine ⟨fun row member => ?_, ?_, insertions ▸ justified, ?_⟩
  · rw [insertions, cleared]
    exact rows row (entries member)
  · rw [returned, cleared]
    exact back
  · rw [answers, insertions]
    exact grounded

theorem Sound.invalidate (sound : Sound setup shared) (key : String) :
    Sound setup (shared.invalidate key) :=
  sound.shrink (fun _ member => (Table.mem_erase.mp member).1) rfl rfl rfl rfl

theorem Sound.answer {answer : Answer} (sound : Sound setup shared)
    (grounded : Grounded shared.insertions answer) : Sound setup (shared.answer answer) := by
  refine ⟨sound.rows, sound.returned, sound.justified, ?_⟩
  rintro other (_ | ⟨_, known⟩)
  · exact grounded
  · exact sound.answers other known

theorem Sound.insert {way : Way} {authorized : Bool} (sound : Sound setup shared)
    (derived : Derived setup shared.insertions ⟨key, kept, way, authorized, shared.cleared⟩) :
    Sound setup (shared.insert key kept way authorized) where
  rows row member := by
    rcases Table.mem_upsert.mp member with ⟨known, -⟩ | rfl
    · obtain ⟨insertion, listed, same⟩ := sound.rows row known
      exact ⟨insertion, List.mem_cons_of_mem _ listed, same⟩
    · exact ⟨_, List.mem_cons_self, rfl, rfl⟩
  returned := sound.returned
  justified := ⟨derived, sound.justified⟩
  answers answer known := (sound.answers answer known).mono (List.subset_cons_self _ _)

theorem Grows.insert (shared : Shared) (key : String) (kept : Kept) (way : Way)
    (authorized : Bool) : Grows shared (shared.insert key kept way authorized) :=
  ⟨List.subset_cons_self _ _, Nat.le_refl _⟩

/-- A response that is sent changes the list of answers at most. -/
theorem Keeps.respond {label : String} (sound : Sound setup shared) (grows : Grows before shared)
    (grounded : ∀ reply, Grounded shared.insertions ⟨client, kept, source, reply⟩) :
    Keeps setup before (shared.respond setup clocks client kept source label).finish := by
  unfold Shared.respond
  split
  · exact .finish sound grows
  · exact .finish (sound.answer (grounded _)) ⟨grows.insertions, grows.cleared⟩

/-- What the lookup of a request finds. -/
theorem held_of_stored (sound : Sound setup shared) (reached : floor ≤ shared.cleared)
    (found : shared.stored request = some kept) :
    Held shared.insertions floor kept ∧ kept.entry.matchesRequest request.headers = true := by
  unfold Shared.stored at found
  split at found
  · obtain ⟨row, agrees⟩ := Option.filter_eq_some_iff.mp found
    obtain ⟨slot, located, rfl⟩ := Option.map_eq_some_iff.mp row
    obtain ⟨insertion, listed, same, stamp⟩ := sound.rows slot (Table.mem_of_find located).1
    exact ⟨⟨insertion, listed, same, stamp ▸ reached⟩, agrees⟩
  · cases found

theorem Held.grounded (held : Held shared.insertions client.floor kept)
    (agrees : source = .lookup → kept.entry.matchesRequest client.request.headers = true)
    (reply : Reply) : Grounded shared.insertions ⟨client, kept, source, reply⟩ := by
  refine ⟨?_, fun lookup => ⟨held, agrees lookup⟩⟩
  obtain ⟨insertion, listed, rfl, later⟩ := held
  exact ⟨insertion, listed, rfl, later⟩

theorem Keeps.serve (sound : Sound setup shared) (grows : Grows before shared)
    (reached : client.floor ≤ shared.cleared) (held : Held shared.insertions client.floor kept)
    (agrees : source = .lookup → kept.entry.matchesRequest client.request.headers = true) :
    Keeps setup before (shared.serve setup clocks client kept source) := by
  unfold Shared.serve
  split
  · exact .finish sound grows
  · exact .respond sound grows (held.grounded agrees)
  · split
    · exact .finish sound grows
    · exact .goto sound grows ⟨held, agrees⟩
    · refine .goto sound grows ⟨reached, ?_⟩
      rintro _ ⟨⟩
      exact held

end Effects

/-! ## The accesses, path by path -/

section Accesses

variable {shared : Shared} {clocks : Clocks} {task : Task} {input : Input}

section Sound

variable (sound : Sound setup shared)
include sound

theorem Keeps.stay (owns : Owns setup shared task) :
    Keeps setup shared (shared.goto task) :=
  .goto sound (.refl shared) owns

/-- A follower looks the entries up again. -/
theorem Keeps.again {fresh : Kept → Bool} (reached : client.floor ≤ shared.cleared)
    (found : (shared.stored client.request).filter fresh = some kept) :
    Keeps setup shared (shared.respond setup clocks client kept .lookup "HIT").finish := by
  obtain ⟨held, agrees⟩ := held_of_stored sound reached (Option.filter_eq_some_iff.mp found).1
  exact .respond sound (.refl shared) (held.grounded fun _ => agrees)

theorem Keeps.board (owns : Owns setup shared task) :
    Keeps setup shared (shared.board setup clocks task input) := by
  unfold Shared.board
  split
  -- probing
  · obtain ⟨reached, cluster⟩ := owns
    have onward : Keeps setup shared (shared.goto (.boarding _ none)) :=
      .stay sound ⟨reached, fun _ none => absurd none (Option.not_mem_none _)⟩
    split
    · exact onward
    · split
      · exact .finish sound (.refl shared)
      · exact onward
      · split
        · exact .stay sound ⟨reached, cluster⟩
        · exact onward
  -- adopting
  · rename_i client kept
    obtain ⟨reached, cluster⟩ := owns
    have grows := Grows.insert shared client.request.key kept .shared client.request.authorized
    exact .serve (sound.insert (.shared cluster)) grows reached
      ⟨_, List.mem_cons_self, rfl, reached⟩ nofun
  -- spawning
  · rename_i client kept source
    obtain ⟨held, agrees⟩ := owns
    have answered : Keeps setup shared
        (shared.respond setup clocks client kept source "STALE").finish :=
      .respond sound (.refl shared) (held.grounded agrees)
    split
    · exact answered
    · refine .goto ?_ ?_ ?_
      · exact answered.sound.shrink (List.Subset.refl _) rfl rfl rfl rfl
      · exact ⟨answered.grows.insertions, answered.grows.cleared⟩
      · obtain ⟨insertion, listed, same, -⟩ := held
        exact ⟨insertion, answered.grows.insertions listed, same, Nat.zero_le _⟩
  -- boarding
  · split
    · exact .stay sound owns
    · exact .goto (sound.shrink (List.Subset.refl _) rfl rfl rfl rfl)
        ⟨List.Subset.refl _, Nat.le_refl _⟩ owns
  -- following and waiting
  · split
    · rename_i found
      exact .again sound owns.1 found
    · exact .stay sound owns
  · split
    · rename_i found
      exact .again sound owns.1 found
    · exact .stay sound owns
  all_goals first
    | exact .finish sound (.refl shared)
    | exact .stay sound owns

omit sound in
theorem admissible_of_accepted {response : Response} {head : StoredHead}
    (found : head.status = response.status ∧ head.headers = response.headers ∧
      Accepted request response head.vary) :
    Admissible request.authorized request.headers head := by
  obtain ⟨status, headers, accepted⟩ := found
  exact ⟨by rw [status, headers]; exact accepted.storable, by rw [headers]; exact accepted.values⟩

/-- A frame is recorded by a recorder whose head is admissible. -/
theorem Keeps.recorded {era : Nat} {outcome : Recorder × Option Stored}
    (head : ∀ head ∈ outcome.1.head, Admissible request.authorized request.headers head)
    (stored : ∀ stored ∈ outcome.2, Admissible request.authorized request.headers stored.1) :
    Keeps setup shared (shared.recorded clocks request era leads outcome) := by
  unfold Shared.recorded
  split
  · exact .release (sound.insert (.fresh (.inl rfl) (stored _ rfl))) (.insert shared _ _ _ _)
  · split
    · exact .stay sound head
    · exact .release sound (.refl shared)

theorem Keeps.receive (owns : Owns setup shared task) :
    Keeps setup shared (shared.receive setup clocks task input) := by
  unfold Shared.receive
  split
  -- asking
  · exact .stay sound owns
  -- arriving
  · split
    · rename_i kept found
      have held := owns.2 kept (Option.filter_eq_some_iff.mp found).1
      exact .goto (sound.shrink (List.Subset.refl _) rfl rfl rfl rfl)
        ⟨List.Subset.refl _, Nat.le_refl _⟩ held
    · split
      · exact .release sound (.refl shared)
      · rename_i head found
        refine .stay sound ?_
        rintro _ ⟨⟩
        exact admissible_of_accepted (accepted_of_storableHead found)
  -- refreshing
  · rename_i client kept headers
    obtain ⟨insertion, listed, rfl, later⟩ := owns
    dsimp only
    split
    · rename_i storable
      refine .respond (sound.insert ?_) (.insert shared _ _ _ _) fun reply => ⟨?_, nofun⟩
      · rw [storable]
        exact .refreshed clocks.instant clocks.system listed storable
      · exact ⟨insertion, List.mem_cons_of_mem _ listed, rfl, later⟩
    · exact .respond sound (.refl shared) fun reply => ⟨⟨insertion, listed, rfl, later⟩, nofun⟩
  -- recording
  · rename_i request recorder era leads frame
    obtain ⟨kept, stored⟩ := recorder.record_spec frame
    exact .recorded sound (fun head same => owns head (kept head same))
      fun entry same => owns entry.1 (stored entry same)
  · rename_i request recorder era leads clean
    obtain ⟨gone, stored⟩ := recorder.finish_spec clean
    refine .recorded sound ?_ fun entry same => owns entry.1 (stored entry same)
    rw [gone]
    exact fun _ none => absurd none (Option.not_mem_none _)
  -- the guard of the flight
  · exact .release sound (.refl shared)
  · exact .release sound (.refl shared)
  · exact .release sound (.refl shared)
  · exact .finish (sound.shrink (List.Subset.refl _) rfl rfl rfl rfl)
      ⟨List.Subset.refl _, Nat.le_refl _⟩
  · exact .stay sound owns

theorem Keeps.revalidate (owns : Owns setup shared task) :
    Keeps setup shared (shared.revalidate setup clocks task input) := by
  unfold Shared.revalidate
  split
  -- revalidating
  · exact .stay sound owns
  -- reading
  · split
    · split
      · rename_i storable
        obtain ⟨insertion, listed, rfl, -⟩ := owns
        exact .goto (sound.insert (.refreshed clocks.instant clocks.system listed storable))
          (.insert shared _ _ _ _) trivial
      · exact .stay sound trivial
    · split <;> exact .stay sound trivial
  -- collecting
  · split
    · exact .stay sound trivial
    · rename_i head body found
      have admissible := admissible_of_accepted (accepted_of_backgroundStore found)
      exact .goto (sound.insert (.fresh (.inr rfl) admissible)) (.insert shared _ _ _ _) trivial
  -- the guard of the revalidation
  · exact .stay sound trivial
  · exact .stay sound trivial
  · exact .finish (sound.shrink (List.Subset.refl _) rfl rfl rfl rfl)
      ⟨List.Subset.refl _, Nat.le_refl _⟩
  · exact .stay sound owns

theorem Keeps.change (owns : Owns setup shared task) :
    Keeps setup shared (shared.change task input) := by
  unfold Shared.change
  split
  · split
    · exact .stay sound trivial
    · exact .finish sound (.refl shared)
  · exact .finish sound (.refl shared)
  · exact .finish sound (.refl shared)
  · exact .goto (sound.invalidate _) ⟨List.Subset.refl _, Nat.le_refl _⟩ trivial
  · exact .stay sound owns

/-- Where a purge empties the entries, nothing is left that an older purge had to take out. -/
theorem Sound.clear (purge : Nat) :
    Sound setup { shared with entries := .empty, cleared := max shared.cleared purge } where
  rows _ member := absurd member List.not_mem_nil
  returned := Nat.le_trans sound.returned (Nat.le_max_left _ _)
  justified := sound.justified
  answers := sound.answers

theorem Keeps.purge (owns : Owns setup shared task) :
    Keeps setup shared (shared.purge task input) := by
  unfold Shared.purge
  split
  · rename_i purge purgedAt
    exact .goto (sound.clear purge) ⟨List.Subset.refl _, Nat.le_max_left _ _⟩
      (Nat.le_max_right _ _)
  · refine .finish ⟨sound.rows, ?_, sound.justified, sound.answers⟩
      ⟨List.Subset.refl _, Nat.le_refl _⟩
    exact Nat.max_le.mpr ⟨sound.returned, owns⟩
  · exact .stay sound owns

omit sound in
theorem Keeps.advance (p : Nat) {input : Clocks × Input} (sound : Sound setup shared)
    (owns : Owns setup shared task) :
    Keeps setup shared (Shared.advance setup p shared task input) := by
  unfold Shared.advance
  split
  all_goals first
    | exact .board sound owns
    | exact .receive sound owns
    | exact .revalidate sound owns
    | exact .change sound owns
    | exact .purge sound owns

theorem Keeps.fetch :
    Keeps setup shared (shared.fetch setup clocks request) := by
  unfold Shared.fetch
  split
  · exact .stay sound trivial
  · split
    · rename_i kept found
      have held := held_of_stored sound sound.returned found
      exact .serve sound (.refl shared) sound.returned held.1 fun _ => held.2
    · split
      · rename_i asks
        exact .stay sound ⟨sound.returned, (Bool.and_eq_true_iff.mp asks).2⟩
      · exact .stay sound ⟨sound.returned, fun _ none => absurd none (Option.not_mem_none _)⟩

omit sound in
theorem Keeps.begin (p : Nat) {call : Call} (sound : Sound setup shared) :
    Keeps setup shared (Shared.begin setup p shared call) := by
  unfold Shared.begin
  split
  · split
    · exact .finish sound (.refl shared)
    · exact .fetch sound
  · exact .goto (sound.shrink (List.Subset.refl _) rfl rfl rfl rfl)
      ⟨List.Subset.refl _, Nat.le_refl _⟩ trivial
  · exact .finish (sound.invalidate _) ⟨List.Subset.refl _, Nat.le_refl _⟩

end Sound

end Accesses

/-! ## Runs -/

theorem sound_empty : Sound setup .empty where
  rows _ member := absurd member List.not_mem_nil
  returned := Nat.le_refl _
  justified := trivial
  answers _ member := absurd member List.not_mem_nil

/-- **The invariant of the machine.**  Every step keeps it, whatever else is under way. -/
theorem Sound.step (event : Event Call (Clocks × Input))
    (holds : Holds (Sound setup) (fun shared _ => Owns setup shared) state) :
    Holds (Sound setup) (fun shared _ => Owns setup shared) ((program setup).step state event) := by
  rcases (program setup).step_cases state event with
    same | ⟨p, call, rfl, -, same⟩ | ⟨p, input, task, rfl, known, same⟩
  · rwa [same]
  · rw [same]
    exact ((Keeps.begin p holds.shared).settles holds).holds
  · rw [same]
    exact ((Keeps.advance p holds.shared (holds.tasks p task known)).settles holds).holds

/-! ## What a step inserts -/

section Brings

/-- A response that is stored whole. -/
def inserted (cleared : Nat) (clocks : Clocks) (request : CacheRequest) (era : Nat) (way : Way)
    (stored : Stored) : Insertion where
  key := request.key
  kept := ⟨⟨stored.1, stored.2, clocks.instant⟩, ⟨request.headers, era⟩⟩
  way := way
  authorized := request.authorized
  cleared := cleared

variable (setup)

/-- A refresh by a `304` that may be stored. -/
def renews (cleared : Nat) (clocks : Clocks) (request : CacheRequest) (kept : Kept)
    (headers : HeaderMap) : Option Insertion :=
  if isStorable304 headers request.authorized then
    some ⟨request.key, ⟨merge304Headers setup.parseHttpDate clocks.instant clocks.system kept.entry
      headers setup.config.defaultTtl true, kept.origin⟩, .refreshed, request.authorized, cleared⟩
  else none

/-- What a task puts into the entries with an input; `cleared` is the last purge that emptied
them. -/
def brings (cleared : Nat) (clocks : Clocks) : Task → Input → Option Insertion
  | .adopting client kept, .go =>
    some ⟨client.request.key, kept, .shared, client.request.authorized, cleared⟩
  | .refreshing client kept headers, .go => renews setup cleared clocks client.request kept headers
  | .reading request kept response _, .go =>
    if response.status = .notModified then
      renews setup cleared clocks request kept response.headers
    else none
  | .recording request recorder era _, .frame frame =>
    (recorder.record frame).2.map (inserted cleared clocks request era .stored)
  | .recording request recorder era _, .finished clean =>
    (recorder.finish clean).2.map (inserted cleared clocks request era .stored)
  | .collecting request response era, .body frames =>
    (backgroundStore setup.parseHttpDate setup.config clocks.system request response frames).map
      (inserted cleared clocks request era .revalidated)
  | _, _ => none

/-- What the event puts into the entries is `ok`. -/
def Brings (ok : Insertion → Prop) (state : State) : Event Call (Clocks × Input) → Prop
  | .begin _ _ => True
  | .advance p input => ∀ row ∈ state.tasks.rows, row.1 = p →
    ∀ insertion ∈ brings setup state.shared.cleared input.1 row.2 input.2, ok insertion

instance {ok : Insertion → Prop} [DecidablePred ok] (state : State)
    (event : Event Call (Clocks × Input)) : Decidable (Brings setup ok state event) := by
  cases event <;> unfold Brings <;> infer_instance

variable {setup} {shared : Shared} {clocks : Clocks} {source : Source} {task : Task}

theorem respond_insertions (label : String) :
    (shared.respond setup clocks client kept source label).insertions = shared.insertions := by
  unfold Shared.respond
  split <;> rfl

theorem serve_insertions :
    (shared.serve setup clocks client kept source).1.insertions = shared.insertions := by
  unfold Shared.serve
  split
  · rfl
  · exact respond_insertions _
  · split <;> rfl

theorem release_insertions (key : String) :
    (shared.release key leads).1.insertions = shared.insertions := by
  unfold Shared.release
  split <;> rfl

theorem recorded_insertions {era : Nat} (outcome : Recorder × Option Stored) :
    (shared.recorded clocks request era leads outcome).1.insertions =
      (outcome.2.map (inserted shared.cleared clocks request era .stored)).toList ++
        shared.insertions := by
  unfold Shared.recorded
  split
  · exact release_insertions _
  · split
    · rfl
    · exact release_insertions _

theorem begin_insertions (p : Nat) (call : Call) :
    (shared.begin setup p call).1.insertions = shared.insertions := by
  cases call with
  | fetch =>
    dsimp only [Shared.begin]
    split
    · rfl
    · unfold Shared.fetch
      dsimp only
      repeat' split
      all_goals first
        | rfl
        | exact serve_insertions
  | purge | evict => rfl

/-- **Every step inserts what it brings.** -/
theorem advance_insertions (p : Nat) (input : Clocks × Input) :
    (shared.advance setup p task input).1.insertions =
      (brings setup shared.cleared input.1 task input.2).toList ++ shared.insertions := by
  obtain ⟨clocks, input⟩ := input
  cases task <;> cases input <;> try rfl
  case adopting.go => exact serve_insertions
  case recording.frame | recording.finished => exact recorded_insertions _
  case refreshing.go client kept headers =>
    simp only [Shared.advance, Shared.receive, brings, renews]
    rw [Shared.finish, respond_insertions]
    by_cases storable : isStorable304 headers client.request.authorized = true
    · rw [if_pos storable, if_pos storable, storable]
      rfl
    · rw [if_neg storable, if_neg storable]
      rfl
  case reading.go =>
    simp only [Shared.advance, Shared.revalidate, brings, renews]
    split
    · split <;> rfl
    · split <;> rfl
  case collecting.body =>
    simp only [Shared.advance, Shared.revalidate, brings]
    split <;> rename_i found <;> rw [found] <;> rfl
  case spawning.go | following.go | waiting.go =>
    simp only [Shared.advance, Shared.board]
    split
    all_goals first
      | exact respond_insertions _
      | rfl
  all_goals
    simp only [Shared.advance, Shared.board, Shared.receive, Shared.change]
    repeat' split
    all_goals first
      | rfl
      | exact release_insertions _

theorem insertions_step {ok : Insertion → Prop} {event : Event Call (Clocks × Input)}
    (before : ∀ insertion ∈ state.shared.insertions, ok insertion)
    (brought : Brings setup ok state event) :
    ∀ insertion ∈ ((program setup).step state event).shared.insertions, ok insertion := by
  rcases (program setup).step_cases state event with
    same | ⟨p, call, rfl, -, same⟩ | ⟨p, input, task, rfl, known, same⟩
  · rwa [same]
  · rw [same, System.settle_shared]
    intro insertion member
    exact before insertion (begin_insertions p call ▸ member)
  · rw [same, System.settle_shared]
    intro insertion member
    rcases List.mem_append.mp (advance_insertions p input ▸ member) with new | old
    · exact brought (p, task) known rfl insertion (Option.mem_toList.mp new)
    · exact before insertion old

end Brings

/-- **The rule for promises.**  What follows from the invariant, a property of all insertions and a
condition on the state holds in every state of a run whose steps bring only such insertions and all
lead to states that meet the condition. -/
theorem sound_throughout {ok : Insertion → Prop} {calm good : Shared → Prop}
    (promise : ∀ shared, Sound setup shared → (∀ insertion ∈ shared.insertions, ok insertion) →
      calm shared → good shared) (first : calm .empty)
    {events : List (Event Call (Clocks × Input))}
    (guarded : Guarded (program setup).step (fun state event =>
      Brings setup ok state event ∧ calm ((program setup).step state event).shared) start events) :
    Throughout (program setup).step (fun state => good state.shared) start events := by
  have keeps : ∀ (state : State) (event : Event Call (Clocks × Input)),
      Holds (Sound setup) (fun shared _ => Owns setup shared) state ∧
          (∀ insertion ∈ state.shared.insertions, ok insertion) ∧ calm state.shared →
        Brings setup ok state event ∧ calm ((program setup).step state event).shared →
        Holds (Sound setup) (fun shared _ => Owns setup shared) ((program setup).step state event) ∧
          (∀ insertion ∈ ((program setup).step state event).shared.insertions, ok insertion) ∧
          calm ((program setup).step state event).shared :=
    fun state event inv meets =>
      ⟨Sound.step event inv.1, insertions_step inv.2.1 meets.1, meets.2⟩
  exact Guarded.throughout keeps
    (fun state inv => promise state.shared inv.1.shared inv.2.1 inv.2.2)
    ⟨Holds.start sound_empty, fun _ member => absurd member List.not_mem_nil, first⟩ guarded

/-- The rule without a condition on the state. -/
theorem insertions_throughout {ok : Insertion → Prop} {good : Shared → Prop}
    (promise : ∀ shared, Sound setup shared → (∀ insertion ∈ shared.insertions, ok insertion) →
      good shared) {events : List (Event Call (Clocks × Input))}
    (guarded : Guarded (program setup).step (Brings setup ok) start events) :
    Throughout (program setup).step (fun state => good state.shared) start events :=
  sound_throughout (fun shared sound all (_ : True) => promise shared sound all) trivial
    (guarded.imp (fun _ _ (_ : True) _ => trivial) (fun _ _ _ brought => ⟨brought, trivial⟩) trivial)

end R3v3rs3.Proxy.Http.Cache.Fetch
