/-
# R3v3rs3.Proxy.Http.Cache.Promises -- purges, `vary` and what may be stored, over all runs

Three promises of the cache, for any interleaving of requests, revalidations and purges.

* A purge that returned keeps older responses from being sent.  `purged_responses_stay_gone`: it
  does in every run in which no insertion brings a response back that was produced before a purge
  that has emptied the entries.  The code does not keep to that: a fetch that was under way during
  the purge stores its old response afterwards (`late_store_survives_purge`).
* An entry is sent only to requests that agree on the headers named in `vary`.  `vary_is_respected`:
  they agree where no refresh names a header in `vary` that was not recorded, and where these
  headers come in one line.  A refresh by a `304` with a new `vary` breaks it
  (`refreshed_vary_not_recorded`).
* An entry has no `no-store` or `private` directive, and what a request with credentials puts in
  allows it.  `only_storable_is_stored`: so it is where no such directive stands in a line that is
  not visible ASCII, which the code skips (`hidden_no_store_is_stored`).
-/
import R3v3rs3.Proxy.Http.Cache.Provenance

namespace R3v3rs3.Proxy.Http.Cache.Fetch
open Api Theory Theory.Threads
open Theory.Run (exec Guarded Throughout)
set_option autoImplicit false

/-! ## Purges -/

/-- The upstream server produced the response after the last purge that had emptied the entries. -/
def NotRevived (insertion : Insertion) : Prop := insertion.cleared ≤ insertion.kept.origin.era

/-- No answer is a response that the upstream server produced before a purge that had returned
when the lookup started. -/
def PurgesHold (shared : Shared) : Prop :=
  ∀ answer ∈ shared.answers, answer.client.floor ≤ answer.kept.origin.era

instance : DecidablePred NotRevived := fun _ => inferInstanceAs (Decidable (_ ≤ _))

instance : DecidablePred PurgesHold := fun _ => inferInstanceAs (Decidable (∀ _ ∈ _, _))

variable {setup : Setup}

theorem purgesHold_of_sound {shared : Shared} (sound : Sound setup shared)
    (none : ∀ insertion ∈ shared.insertions, NotRevived insertion) : PurgesHold shared := by
  intro answer given
  obtain ⟨insertion, listed, same, later⟩ := (sound.answers answer given).origin
  rw [← same]
  exact Nat.le_trans later (none insertion listed)

/-- **When a purge is final.** -/
theorem purged_responses_stay_gone (setup : Setup) (events : List (Event Call (Clocks × Input)))
    (calm : Guarded (program setup).step (Brings setup NotRevived) start events) :
    Throughout (program setup).step (fun state => PurgesHold state.shared) start events :=
  insertions_throughout (fun _ sound none => purgesHold_of_sound sound none) calm

section Runs

/-- A cache of one node; dates are not used. -/
def oneNode : Setup := ⟨⟨true, 1000, 100, .zero, .zero⟩, false, fun _ => none, fun _ => none⟩

def clocksAt (secs : UInt64) : Clocks := ⟨.fromSecs secs, .fromSecs secs, secs * 1000⟩

def fetches (p : Nat) (headers : HeaderMap) : List (Event Call (Clocks × Input)) :=
  [.begin p (.fetch (clocksAt 1) .get headers "a /" false)]

/-- The step of a request that gets its upstream response. -/
def produces (p : Nat) (status : StatusCode) (headers : HeaderMap) :
    List (Event Call (Clocks × Input)) :=
  [.advance p (clocksAt 1, .go), .advance p (clocksAt 1, .response ⟨status, headers⟩)]

/-- The head and a body of one byte arrive, and the flight ends. -/
def records (p : Nat) : List (Event Call (Clocks × Input)) :=
  [.advance p (clocksAt 1, .go), .advance p (clocksAt 1, .frame (.data [1])),
    .advance p (clocksAt 1, .go)]

def purges (p : Nat) : List (Event Call (Clocks × Input)) :=
  [.begin p (.purge 1500), .advance p (clocksAt 1, .go), .advance p (clocksAt 1, .go)]

def minute : HeaderMap := ⟨[("cache-control", bytes "max-age=60"), ("content-length", bytes "1")]⟩

/-- A response is stored and sent, then purged; the next one is stored and sent. -/
def purgeInTurn : List (Event Call (Clocks × Input)) :=
  fetches 0 ⟨[]⟩ ++ produces 0 .ok minute ++ records 0 ++ fetches 1 ⟨[]⟩ ++ purges 2 ++
    fetches 3 ⟨[]⟩ ++ produces 3 .ok minute ++ records 3 ++ fetches 4 ⟨[]⟩

theorem purgeInTurn_holds :
    (exec (program oneNode).step start purgeInTurn).shared.answers.length = 2 ∧
      Throughout (program oneNode).step (fun state => PurgesHold state.shared) start
        purgeInTurn :=
  ⟨by decide, purged_responses_stay_gone oneNode purgeInTurn (by decide)⟩

/-- The purge runs while a response is on its way; the response is stored after the purge. -/
def lateStore : List (Event Call (Clocks × Input)) :=
  fetches 0 ⟨[]⟩ ++ produces 0 .ok minute ++ purges 1 ++ records 0 ++ fetches 2 ⟨[]⟩

theorem late_store_survives_purge :
    ∃ answer ∈ (exec (program oneNode).step start lateStore).shared.answers,
      answer.source = .lookup ∧ answer.client.floor = 1 ∧ answer.kept.origin.era = 0 := by
  decide

end Runs

/-! ## `vary` -/

/-- The items of all lines of a header, also of those that the code cannot read. -/
def listedItems (headers : HeaderMap) (name : HeaderName) : List (List Char) :=
  (headers.getAll name).flatMap rawItems

/-- The code can read all lines of the header. -/
def Readable (headers : HeaderMap) (name : HeaderName) : Prop :=
  ∀ line ∈ headers.getAll name, HeaderValue.toStr line ≠ none

/-- The response names the header in `vary`; `*` names every header. -/
def Lists (headers : HeaderMap) (name : HeaderName) : Prop :=
  ∃ item ∈ listedItems headers "vary", item = ['*'] ∨ HeaderName.fromBytes item = some name

instance (headers : HeaderMap) (name : HeaderName) : Decidable (Lists headers name) :=
  inferInstanceAs (Decidable (∃ _ ∈ _, _))

instance (headers : HeaderMap) (name : HeaderName) : Decidable (Readable headers name) :=
  inferInstanceAs (Decidable (∀ _ ∈ _, _))

/-- Whenever a lookup answers a request, the request has the same values of every header that the
entry names in `vary` as the request that the upstream server answered with the body. -/
def VaryHolds (shared : Shared) : Prop :=
  ∀ answer ∈ shared.answers, answer.source = .lookup →
    ∀ name, Lists answer.kept.entry.head.headers name →
      answer.client.request.headers.getAll name = answer.kept.origin.request.getAll name

/-- Every header that the entry names in `vary` has a recorded value. -/
def Covers (head : StoredHead) : Prop :=
  ∀ item ∈ listedItems head.headers "vary", item ≠ [] →
    item ≠ ['*'] ∧ ∃ name ∈ head.vary.map Prod.fst, HeaderName.fromBytes item = some name

/-- The recorded values are those of the request that the upstream server answered. -/
def Records (kept : Kept) : Prop :=
  ∀ recorded ∈ kept.entry.head.vary, recorded.2 = kept.origin.request.get recorded.1

/-- The headers that the entry names in `vary` come in one line at most. -/
def OneLine (headers request : HeaderMap) : Prop :=
  ∀ item ∈ listedItems headers "vary", ∀ name ∈ HeaderName.fromBytes item,
    (request.getAll name).length ≤ 1

/-- What an insertion must have.  A full response records what it names in the lines that the code
can read, so these are all lines, or the others name nothing more; a refresh names no header that is
not recorded; and the response of another node records what it names. -/
def VaryKept (insertion : Insertion) : Prop :=
  match insertion.way with
  | .stored | .revalidated =>
    Readable insertion.kept.entry.head.headers "vary" ∨ Covers insertion.kept.entry.head
  | .refreshed => Covers insertion.kept.entry.head
  | .shared => Covers insertion.kept.entry.head ∧ Records insertion.kept

/-- The headers of `vary` come in one line at most wherever a lookup answers. -/
def OneLines (shared : Shared) : Prop :=
  ∀ answer ∈ shared.answers, answer.source = .lookup →
    OneLine answer.kept.entry.head.headers answer.client.request.headers ∧
      OneLine answer.kept.entry.head.headers answer.kept.origin.request

instance : DecidablePred Covers := fun _ => inferInstanceAs (Decidable (∀ _ ∈ _, _))

instance : DecidablePred Records := fun _ => inferInstanceAs (Decidable (∀ _ ∈ _, _))

instance (headers request : HeaderMap) : Decidable (OneLine headers request) :=
  inferInstanceAs (Decidable (∀ _ ∈ _, _))

instance : DecidablePred VaryKept := fun insertion => by
  unfold VaryKept
  split <;> infer_instance

instance : DecidablePred OneLines := fun _ => inferInstanceAs (Decidable (∀ _ ∈ _, _))

variable {head : StoredHead}

theorem mem_headerItems {headers : HeaderMap} {name : HeaderName} {item : List Char} :
    item ∈ headerItems headers name ↔ ∃ line ∈ headers.getAll name, item ∈ items line := by
  simp only [headerItems, List.mem_flatMap, List.mem_filterMap]
  constructor
  · rintro ⟨text, ⟨line, member, read⟩, inside⟩
    exact ⟨line, member, by rwa [items, read]⟩
  · rintro ⟨line, member, inside⟩
    unfold items at inside
    split at inside
    · rename_i text read
      exact ⟨text, ⟨line, member, read⟩, inside⟩
    · cases inside

theorem Admissible.covers {authorized : Bool} {request : HeaderMap}
    (admissible : Admissible authorized request head) (readable : Readable head.headers "vary") :
    Covers head := by
  intro item listed
  obtain ⟨line, member, inside⟩ := List.mem_flatMap.mp listed
  refine (varyValues_eq_some admissible.values).2 item (mem_headerItems.mpr ⟨line, member, ?_⟩)
  rwa [items_eq_rawItems (readable line member)]

/-- A full response records what it names; the other ways are told to. -/
theorem recorded_of_derived {older : List Insertion} {insertion : Insertion}
    (derived : Derived setup older insertion) (kept : VaryKept insertion)
    (before : ∀ base ∈ older, Covers base.kept.entry.head ∧ Records base.kept) :
    Covers insertion.kept.entry.head ∧ Records insertion.kept := by
  cases derived with
  | fresh full admissible =>
    refine ⟨?_, (varyValues_eq_some admissible.values).1⟩
    rcases full with rfl | rfl <;> exact kept.elim admissible.covers id
  | refreshed now clock known storable =>
    -- the recorded values and the body are those of the refreshed entry
    exact ⟨kept, (before _ known).2⟩
  | shared => exact kept

/-- Two lists of at most one value with the same first value. -/
theorem eq_of_head?_eq {Value : Type} {first second : List Value} (same : first.head? = second.head?)
    (short : first.length ≤ 1) (brief : second.length ≤ 1) : first = second := by
  rcases first with _ | ⟨x, _ | _⟩ <;> rcases second with _ | ⟨y, _ | _⟩ <;> simp_all

/-- A header that a covered entry names has a recorded value. -/
theorem recorded_of_lists {name : HeaderName} (covers : Covers head)
    (listed : Lists head.headers name) :
    (∃ recorded ∈ head.vary, recorded.1 = name) ∧
      ∃ item ∈ listedItems head.headers "vary", HeaderName.fromBytes item = some name := by
  obtain ⟨item, member, names⟩ := listed
  have filled : item ≠ [] := by
    rintro rfl
    rcases names with wild | named
    · exact absurd wild nofun
    · simp [HeaderName.fromBytes] at named
  obtain ⟨plain, other, recorded, named⟩ := covers item member filled
  rcases names with wild | same
  · exact absurd wild plain
  · obtain rfl : other = name := Option.some.inj (named.symm.trans same)
    exact ⟨List.mem_map.mp recorded, item, member, same⟩

theorem varyHolds_of_sound {shared : Shared} (sound : Sound setup shared)
    (kept : ∀ insertion ∈ shared.insertions, VaryKept insertion) (lines : OneLines shared) :
    VaryHolds shared := by
  intro answer given lookup name listed
  obtain ⟨⟨insertion, inserted, same, -⟩, agrees⟩ := (sound.answers answer given).lookup lookup
  have all := sound.justified.all setup
    (fun _ _ derived kept before => recorded_of_derived derived kept before) kept
  obtain ⟨covers, records⟩ := all insertion inserted
  rw [same] at covers records
  obtain ⟨⟨recorded, known, rfl⟩, item, member, named⟩ := recorded_of_lists covers listed
  obtain ⟨here, there⟩ := lines answer given lookup
  have sent : answer.client.request.headers.get recorded.1 = recorded.2 :=
    of_decide_eq_true (List.all_eq_true.mp agrees recorded known)
  exact eq_of_head?_eq (sent.trans (records recorded known)) (here item member _ named)
    (there item member _ named)

/-- **When `vary` is respected.** -/
theorem vary_is_respected (setup : Setup) (events : List (Event Call (Clocks × Input)))
    (calm : Guarded (program setup).step (fun state event => Brings setup VaryKept state event ∧
      OneLines ((program setup).step state event).shared) start events) :
    Throughout (program setup).step (fun state => VaryHolds state.shared) start events :=
  sound_throughout (fun _ sound kept lines => varyHolds_of_sound sound kept lines)
    (fun _ member => absurd member List.not_mem_nil) calm

section Runs

def german : HeaderMap := ⟨[("accept-language", bytes "de")]⟩

def english : HeaderMap := ⟨[("accept-language", bytes "en")]⟩

/-- Stale at once, with a validator. -/
def validated (vary : String) : HeaderMap :=
  ⟨[("etag", bytes "1"), ("vary", bytes vary), ("content-length", bytes "1")]⟩

/-- Fresh for a minute, as a `304` says it. -/
def renewed (vary : String) : HeaderMap :=
  ⟨[("cache-control", bytes "max-age=60"), ("vary", bytes vary)]⟩

/-- A response to `first` is stored and refreshed by a `304` to the same request; then a request
with the headers `last` comes. -/
def refreshRun (stored refreshed : String) (first last : HeaderMap) :
    List (Event Call (Clocks × Input)) :=
  fetches 0 first ++ produces 0 .ok (validated stored) ++ records 0 ++ fetches 1 first ++
    produces 1 .notModified (renewed refreshed) ++
    [.advance 1 (clocksAt 1, .go), .advance 1 (clocksAt 1, .go)] ++ fetches 2 last

theorem refreshRun_vary_holds :
    (exec (program oneNode).step start
        (refreshRun "accept-language" "accept-language" german german)).shared.answers.length = 2 ∧
      Throughout (program oneNode).step (fun state => VaryHolds state.shared) start
        (refreshRun "accept-language" "accept-language" german german) :=
  ⟨by decide, vary_is_respected oneNode _ (by decide)⟩

/-- The response to a German request was stored with `vary: accept`; the `304` says
`vary: accept-language`, and an English request is answered with the German body. -/
theorem refreshed_vary_not_recorded :
    ∃ answer ∈ (exec (program oneNode).step start
        (refreshRun "accept" "accept-language" german english)).shared.answers,
      answer.source = .lookup ∧ Lists answer.kept.entry.head.headers "accept-language" ∧
        answer.client.request.headers.getAll "accept-language" = [bytes "en"] ∧
        answer.kept.origin.request.getAll "accept-language" = [bytes "de"] := by
  decide

end Runs

/-! ## What is stored -/

def isDirective (directive : String) (item : List Char) : Bool :=
  eqIgnoreAsciiCase (Text.trimChars ((Text.split '=' item).headD [])) directive.toList

/-- A `cache-control` line has the directive, whether the code can read the line or not. -/
def Carries (headers : HeaderMap) (directive : String) : Prop :=
  ∃ item ∈ listedItems headers "cache-control", isDirective directive item = true

/-- The entry has a cacheable status, no `no-store` or `private` directive and no cookie. -/
structure Storable (head : StoredHead) : Prop where
  status : head.status.code ∈ cacheableStatuses
  noStore : ¬ Carries head.headers "no-store"
  noPrivate : ¬ Carries head.headers "private"
  noCookie : head.headers.contains "set-cookie" = false

/-- All entries are storable, and what is stored, refreshed or revalidated for a request with
credentials has `public`, `s-maxage` or `must-revalidate`. -/
def OnlyStorable (shared : Shared) : Prop :=
  (∀ row ∈ shared.entries.rows, Storable row.2.entry.head) ∧
    ∀ insertion ∈ shared.insertions, insertion.way ≠ .shared → insertion.authorized = true →
      ∃ directive ∈ ["public", "s-maxage", "must-revalidate"],
        Carries insertion.kept.entry.head.headers directive

/-- What an insertion must have: no `no-store` or `private` stands in a line that the code cannot
read, and the response of another node is storable. -/
def Declared (insertion : Insertion) : Prop :=
  match insertion.way with
  | .shared => Storable insertion.kept.entry.head
  | _ => ∀ line ∈ insertion.kept.entry.head.headers.getAll "cache-control",
    HeaderValue.toStr line = none → ∀ item ∈ rawItems line,
      isDirective "no-store" item = false ∧ isDirective "private" item = false

variable {headers : HeaderMap} {directive : String}

theorem carries_of_hasDirective (has : hasDirective headers "cache-control" directive = true) :
    Carries headers directive := by
  obtain ⟨item, read, same⟩ := List.any_eq_true.mp has
  obtain ⟨line, member, inside⟩ := mem_headerItems.mp read
  exact ⟨item, List.mem_flatMap.mpr ⟨line, member, items_subset inside⟩, same⟩

/-- A directive that the code does not see stands in a line that it cannot read. -/
theorem hidden_of_carries (carries : Carries headers directive)
    (unseen : hasDirective headers "cache-control" directive = false) :
    ∃ line ∈ headers.getAll "cache-control", HeaderValue.toStr line = none ∧
      ∃ item ∈ rawItems line, isDirective directive item = true := by
  obtain ⟨item, listed, same⟩ := carries
  obtain ⟨line, member, inside⟩ := List.mem_flatMap.mp listed
  refine ⟨line, member, ?_, item, inside, same⟩
  by_contra readable
  rw [← items_eq_rawItems readable] at inside
  exact List.any_eq_false.mp unseen item (mem_headerItems.mpr ⟨line, member, inside⟩) same

/-- What `isStorable` and `isStorable304` look at, of what is stored. -/
theorem noDirective_of_declared {insertion : Insertion} (declared : Declared insertion)
    (own : insertion.way ≠ .shared)
    (noStore : hasDirective insertion.kept.entry.head.headers "cache-control" "no-store" = false)
    (noPrivate : hasDirective insertion.kept.entry.head.headers "cache-control" "private" = false) :
    ¬ Carries insertion.kept.entry.head.headers "no-store" ∧
      ¬ Carries insertion.kept.entry.head.headers "private" := by
  have open' : ∀ line ∈ insertion.kept.entry.head.headers.getAll "cache-control",
      HeaderValue.toStr line = none → ∀ item ∈ rawItems line,
        isDirective "no-store" item = false ∧ isDirective "private" item = false := by
    unfold Declared at declared
    split at declared
    · rename_i same
      exact absurd same own
    · exact declared
  constructor <;> intro carries
  · obtain ⟨line, member, hidden, item, inside, same⟩ := hidden_of_carries carries noStore
    exact absurd same (by simp [(open' line member hidden item inside).1])
  · obtain ⟨line, member, hidden, item, inside, same⟩ := hidden_of_carries carries noPrivate
    exact absurd same (by simp [(open' line member hidden item inside).2])

theorem carries_of_allows (allowed : allowsAuthorized headers = true) :
    ∃ directive ∈ ["public", "s-maxage", "must-revalidate"], Carries headers directive := by
  obtain ⟨directive, listed, has⟩ := List.any_eq_true.mp allowed
  exact ⟨directive, listed, carries_of_hasDirective has⟩

theorem isStorable304_iff {authorized : Bool} :
    isStorable304 headers authorized = true ↔
      hasDirective headers "cache-control" "no-store" = false ∧
        hasDirective headers "cache-control" "private" = false ∧
        headers.contains "set-cookie" = false ∧
        (authorized = true → allowsAuthorized headers = true) := by
  unfold isStorable304
  split
  · rename_i refused
    refine iff_of_false nofun ?_
    rintro ⟨noStore, noPrivate, noCookie, -⟩
    simp [noStore, noPrivate, noCookie] at refused
  · rename_i passed
    simp only [Bool.or_eq_true, not_or, Bool.not_eq_true] at passed
    obtain ⟨⟨noStore, noPrivate⟩, noCookie⟩ := passed
    simp only [noStore, noPrivate, noCookie, true_and]
    cases authorized <;> simp

/-- What an insertion has, when all are declared. -/
def Proper (insertion : Insertion) : Prop :=
  Storable insertion.kept.entry.head ∧
    (insertion.way ≠ .shared → insertion.authorized = true →
      ∃ directive ∈ ["public", "s-maxage", "must-revalidate"],
        Carries insertion.kept.entry.head.headers directive)

theorem proper_of_admissible {insertion : Insertion} {request : HeaderMap}
    (declared : Declared insertion) (own : insertion.way ≠ .shared)
    (admissible : Admissible insertion.authorized request insertion.kept.entry.head) :
    Proper insertion := by
  have passed := admissible.storable
  unfold isStorable at passed
  simp only [Bool.and_eq_true, decide_eq_true_eq, Bool.not_eq_true', Bool.or_eq_true] at passed
  obtain ⟨⟨⟨⟨status, noStore⟩, noPrivate⟩, noCookie⟩, allowed⟩ := passed
  obtain ⟨notStored, notPrivate⟩ := noDirective_of_declared declared own noStore noPrivate
  refine ⟨⟨status, notStored, notPrivate, noCookie⟩, fun _ credentials => ?_⟩
  exact carries_of_allows (allowed.resolve_left (by simp [credentials]))

/-- The `cache-control` lines of a refreshed entry are those of the `304`, or, where it has none,
those of the entry: both passed the check. -/
theorem proper_of_refresh {now : Instant} {clock : SystemTime} {base insertion : Insertion}
    (head : insertion.kept.entry.head = (merge304Headers setup.parseHttpDate now clock
      base.kept.entry headers setup.config.defaultTtl true).head)
    (own : insertion.way ≠ .shared) (declared : Declared insertion)
    (storable : Storable base.kept.entry.head)
    (passed : isStorable304 headers insertion.authorized = true) : Proper insertion := by
  obtain ⟨noStore, noPrivate, -, allowed⟩ := isStorable304_iff.mp passed
  have lines := @getAll_merge304 setup.parseHttpDate now clock base.kept.entry headers
    setup.config.defaultTtl true "cache-control" (by decide) (by decide)
  have cookies := @getAll_merge304_cookie setup.parseHttpDate now clock base.kept.entry headers
    setup.config.defaultTtl
  rw [← head] at lines cookies
  have status : insertion.kept.entry.head.status.code ∈ cacheableStatuses := by
    rw [head]
    exact storable.status
  have noCookie : insertion.kept.entry.head.headers.contains "set-cookie" = false := by
    rw [Bool.eq_false_iff, Ne, MultiMap.contains_iff, cookies, ← MultiMap.contains_iff,
      storable.noCookie]
    nofun
  by_cases carried : headers.getAll "cache-control" ≠ []
  · rw [if_pos carried] at lines
    rw [← hasDirective_of_getAll lines] at noStore noPrivate
    obtain ⟨notStored, notPrivate⟩ := noDirective_of_declared declared own noStore noPrivate
    refine ⟨⟨status, notStored, notPrivate, noCookie⟩, fun _ credentials => carries_of_allows ?_⟩
    rw [allowsAuthorized_of_getAll lines]
    exact allowed credentials
  · rw [if_neg carried] at lines
    have same : ∀ directive, Carries insertion.kept.entry.head.headers directive →
        Carries base.kept.entry.head.headers directive := by
      intro directive carries
      rwa [Carries, listedItems, lines] at carries
    refine ⟨⟨status, fun carries => storable.noStore (same _ carries),
      fun carries => storable.noPrivate (same _ carries), noCookie⟩, fun _ credentials => ?_⟩
    -- a `304` without `cache-control` passes for no request with credentials
    obtain ⟨directive, -, has⟩ := List.any_eq_true.mp (allowed credentials)
    exact absurd (getAll_ne_nil_of_hasDirective has) carried

theorem proper_of_derived {older : List Insertion} {insertion : Insertion}
    (derived : Derived setup older insertion) (declared : Declared insertion)
    (before : ∀ base ∈ older, Proper base) : Proper insertion := by
  cases derived with
  | fresh full admissible =>
    exact proper_of_admissible declared (by rcases full with rfl | rfl <;> nofun) admissible
  | refreshed now clock known passed =>
    exact proper_of_refresh rfl nofun declared (before _ known).1 passed
  | shared => exact ⟨declared, fun other => absurd rfl other⟩

theorem onlyStorable_of_sound {shared : Shared} (sound : Sound setup shared)
    (declared : ∀ insertion ∈ shared.insertions, Declared insertion) : OnlyStorable shared := by
  have proper : ∀ insertion ∈ shared.insertions, Proper insertion :=
    sound.justified.all setup
      (fun _ _ derived declared before => proper_of_derived derived declared before) declared
  constructor
  · intro row member
    obtain ⟨insertion, listed, same, -⟩ := sound.rows row member
    exact same ▸ (proper insertion listed).1
  · intro insertion listed own
    exact (proper insertion listed).2 own

/-- **When the cache stores only what it may.**  On one node it is asked that no directive stands in
a line that cannot be read; in a cluster also that the responses of other nodes are storable. -/
theorem only_storable_is_stored (setup : Setup) (events : List (Event Call (Clocks × Input)))
    (declared : Guarded (program setup).step (Brings setup Declared) start events) :
    Throughout (program setup).step (fun state => OnlyStorable state.shared) start events :=
  insertions_throughout (fun _ sound declared => onlyStorable_of_sound sound declared) declared

section Runs

instance (headers : HeaderMap) (directive : String) : Decidable (Carries headers directive) :=
  inferInstanceAs (Decidable (∃ _ ∈ _, _))

instance : DecidablePred Storable := fun head =>
  decidable_of_iff (head.status.code ∈ cacheableStatuses ∧ ¬ Carries head.headers "no-store" ∧
    ¬ Carries head.headers "private" ∧ head.headers.contains "set-cookie" = false)
    ⟨fun ⟨a, b, c, d⟩ => ⟨a, b, c, d⟩, fun ⟨a, b, c, d⟩ => ⟨a, b, c, d⟩⟩

instance : DecidablePred Declared := fun insertion => by
  unfold Declared
  split <;> infer_instance

theorem refreshRun_only_storable :
    (exec (program oneNode).step start
        (refreshRun "accept" "accept-language" german english)).shared.insertions.length = 2 ∧
      Throughout (program oneNode).step (fun state => OnlyStorable state.shared) start
        (refreshRun "accept" "accept-language" german english) :=
  ⟨by decide, only_storable_is_stored oneNode _ (by decide)⟩

/-- `no-store` in a line with a byte that is not ASCII. -/
def hiddenNoStore : HeaderMap :=
  ⟨[("cache-control", bytes "no-store, max-age=60, x=é"), ("etag", bytes "1"),
    ("content-length", bytes "1")]⟩

/-- **A response is stored although it says `no-store`.** -/
theorem hidden_no_store_is_stored :
    ∃ row ∈ (exec (program oneNode).step start (fetches 0 ⟨[]⟩ ++ produces 0 .ok hiddenNoStore ++
        records 0)).shared.entries.rows, Carries row.2.entry.head.headers "no-store" := by
  decide

end Runs

end R3v3rs3.Proxy.Http.Cache.Fetch
