/-
# R3v3rs3.Proxy.Http.Cache.Flights -- leaders, followers and the notifications between them

The first request for a key that is not stored leads a flight: it holds a guard, and the map of the
flights has the `Notify` of that guard under the key.  Other requests for the key get the same
`Notify` and wait for the leader.  The guard takes the key out of the map and notifies whoever waits
when the leader has stored the response, or when it is dropped.

`Fetch` has the map as a list of keys and waits in one step.  Here the steps of `Fetch` are taken
together with the `Notify` of each flight, known by a number, and with the step that it leaves out:
a follower that finds nothing stored makes the future that it then waits on.  A future that is made
after the notification is not woken by it.

`Turn` says once what an access can do to the flights; the invariants are read off it.

`flights_are_sound` says of every interleaving that the map has exactly the flights whose guards are
held, and that no future is made too late if guards end only while no follower of the flight stands
between getting the `Notify` and making its future.
-/
import R3v3rs3.Proxy.Http.Cache.Promises

namespace R3v3rs3.Proxy.Http.Cache.Flights
open Theory Theory.Threads Table System
open Proxy.Http.Cache.Fetch (Setup Clocks Input Call oneNode clocksAt fetches)
open Theory.Run (exec Guarded Throughout)
set_option autoImplicit false

/-! ## The machine -/

/-- What a request has of a flight. -/
inductive Seat where
  | free
  /-- The `FlightGuard`, with its key. -/
  | leads (key : String) (flight : Nat)
  /-- The `Notify`. -/
  | follows (flight : Nat)
  /-- The future that `notified` gives. -/
  | listens (flight : Nat)
  deriving DecidableEq

structure Task where
  stage : Fetch.Task
  seat : Seat

structure Shared where
  cache : Fetch.Shared
  /-- `in_flight`: the `Notify` of each key. -/
  inFlight : Table (Prod.fst : String × Nat → String)
  /-- How many there have been. -/
  made : Nat
  /-- The ones whose guards have ended. -/
  ended : List Nat
  /-- The requests that made a future after that. -/
  late : List Nat

def Shared.empty : Shared := ⟨.empty, .empty, 0, [], []⟩

/-- The guard ends in this access: after a `304`, or because it is dropped. -/
def cleans : Fetch.Task → Input → Bool
  | .leaving _, .go => true
  | .arriving _ stored true response _, .go =>
    (stored.filter fun _ => response.status = .notModified).isSome
  | _, _ => false

namespace Shared

variable (shared : Shared)

/-- `HttpCache::start_flight`. -/
def startFlight (key : String) : Shared × Seat :=
  match shared.inFlight.find key with
  | some (_, flight) => (shared, .follows flight)
  | none =>
    ({ shared with
      inFlight := shared.inFlight.upsert (key, shared.made)
      made := shared.made + 1 }, .leads key shared.made)

/-- `FlightGuard::cleanup`. -/
def cleanup (key : String) (flight : Nat) : Shared :=
  { shared with inFlight := shared.inFlight.erase key, ended := flight :: shared.ended }

/-- `Notify::notified` by request `p`. -/
def listen (p flight : Nat) : Shared :=
  { shared with late := if flight ∈ shared.ended then p :: shared.late else shared.late }

/-- After an access to the cache the request has the seat. -/
def move (outcome : Fetch.Shared × Option Fetch.Task) (seat : Seat) : Shared × Option Task :=
  ({ shared with cache := outcome.1 }, outcome.2.map fun stage => ⟨stage, seat⟩)

section Accesses

variable (setup : Setup)

def advance (p : Nat) (shared : Shared) (task : Task) (input : Clocks × Input) :
    Shared × Option Task :=
  let outcome := shared.cache.advance setup p task.stage input
  match task.seat, task.stage, input.2 with
  | .free, .boarding client _, .go =>
    let (shared, seat) := shared.startFlight client.request.key
    shared.move outcome seat
  | .follows flight, .waiting _ _, .go => (shared.listen p flight, some ⟨task.stage, .listens flight⟩)
  | .listens _, .waiting _ _, .go => shared.move outcome .free
  | .leads key flight, stage, input =>
    if cleans stage input then (shared.cleanup key flight).move outcome .free
    else shared.move outcome (.leads key flight)
  | seat, _, _ => shared.move outcome seat

def begin (p : Nat) (shared : Shared) (call : Call) : Shared × Option Task :=
  shared.move (shared.cache.begin setup p call) .free

end Accesses

end Shared

def program (setup : Setup) : Program Shared Task Call (Clocks × Input) :=
  ⟨Shared.begin setup, Shared.advance setup⟩

abbrev State := System Shared Task

abbrev start : State := System.start .empty

/-! ## The guards of the cache machine -/

variable {outcome : Shared × Option Task} {task : Task} {key : String} {stage : Fetch.Task}
  {input : Clocks × Input} {flight : Nat}

def guardOf (leads : Bool) (key : String) : Option String := if leads then some key else none

/-- The key of the guard that a stage of `Fetch` holds. -/
def guardKey : Fetch.Task → Option String
  | .asking client _ leads | .arriving client _ leads _ _ => guardOf leads client.request.key
  | .recording request _ _ leads => guardOf leads request.key
  | .leaving key => some key
  | _ => none

/-- An access that leaves the keys in flight alone and hands the guard on. -/
structure Kept (before : Fetch.Shared) (guard : Option String)
    (outcome : Fetch.Shared × Option Fetch.Task) : Prop where
  inFlight : outcome.1.inFlight = before.inFlight
  guard : outcome.2.bind guardKey = guard

section Kept

variable {setup : Setup} {clocks : Clocks} {before shared : Fetch.Shared} {client : Fetch.Client}

theorem Kept.goto {task : Fetch.Task} {guard : Option String}
    (same : shared.inFlight = before.inFlight) (isGuard : guardKey task = guard) :
    Kept before guard (shared.goto task) := ⟨same, isGuard⟩

theorem Kept.finish (same : shared.inFlight = before.inFlight) :
    Kept before none shared.finish := ⟨same, rfl⟩

/-- A guard that is dropped goes on to the step that ends it. -/
theorem Kept.release {leads : Bool} (same : shared.inFlight = before.inFlight) :
    Kept before (guardOf leads key) (shared.release key leads) := by
  cases leads with
  | true => exact .goto same rfl
  | false => exact .finish same

theorem respond_inFlight (client : Fetch.Client) (kept : Fetch.Kept) (source : Fetch.Source)
    (label : String) :
    (shared.respond setup clocks client kept source label).inFlight = shared.inFlight := by
  unfold Fetch.Shared.respond
  split <;> rfl

theorem Kept.respond {kept : Fetch.Kept} {source : Fetch.Source} {label : String}
    (same : shared.inFlight = before.inFlight) :
    Kept before none (shared.respond setup clocks client kept source label).finish :=
  .finish ((respond_inFlight client kept source label).trans same)

theorem Kept.serve {kept : Fetch.Kept} {source : Fetch.Source}
    (same : shared.inFlight = before.inFlight) :
    Kept before none (shared.serve setup clocks client kept source) := by
  unfold Fetch.Shared.serve
  split
  · exact .finish same
  · exact .respond same
  · split
    · exact .finish same
    · exact .goto same rfl
    · exact .goto same rfl

theorem Kept.fetch (request : CacheRequest) :
    Kept shared none (shared.fetch setup clocks request) := by
  unfold Fetch.Shared.fetch
  split
  · exact .goto rfl rfl
  · split
    · exact .serve rfl
    · split <;> exact .goto rfl rfl

theorem Kept.begin (p : Nat) (call : Call) :
    Kept shared none (shared.begin setup p call) := by
  unfold Fetch.Shared.begin
  split
  · split
    · exact .finish rfl
    · exact .fetch _
  · exact .goto rfl rfl
  · exact .finish rfl

theorem Kept.board {input : Input}
    (elsewhere : ∀ client stored, stage = .boarding client stored → input ≠ .go) :
    Kept shared (guardKey stage) (shared.board setup clocks stage input) := by
  unfold Fetch.Shared.board
  split
  -- probing
  · split
    · exact .goto rfl rfl
    · split
      · exact .finish rfl
      · exact .goto rfl rfl
      · split <;> exact .goto rfl rfl
  -- adopting
  · exact .serve rfl
  -- spawning
  · dsimp only
    split
    · exact .respond rfl
    · exact .goto (respond_inFlight _ _ _ _) rfl
  -- boarding
  · exact absurd rfl (elsewhere _ _ rfl)
  -- following and waiting
  · split
    · exact .respond rfl
    · exact .goto rfl rfl
  · split
    · exact .respond rfl
    · exact .goto rfl rfl
  all_goals first
    | exact .finish rfl
    | exact .goto rfl rfl

theorem Kept.recorded {request : CacheRequest} {era : Nat} {leads : Bool}
    {result : Recorder × Option Stored} :
    Kept shared (guardOf leads request.key)
      (shared.recorded clocks request era leads result) := by
  unfold Fetch.Shared.recorded
  split
  · exact .release rfl
  · split
    · exact .goto rfl rfl
    · exact .release rfl

theorem Kept.receive {input : Input} (runs : cleans stage input = false) :
    Kept shared (guardKey stage) (shared.receive setup clocks stage input) := by
  unfold Fetch.Shared.receive
  split
  -- asking
  · exact .goto rfl rfl
  -- arriving
  · rename_i client stored leads response era
    split
    · rename_i kept unchanged
      cases leads with
      | true => simp [cleans, unchanged] at runs
      | false => exact .goto rfl rfl
    · split
      · exact .release rfl
      · exact .goto rfl rfl
  -- refreshing
  · dsimp only
    refine .respond ?_
    split <;> rfl
  -- recording
  · exact .recorded
  · exact .recorded
  -- the upstream server failed, or the client went away
  · exact .release rfl
  · exact .release rfl
  · exact .release rfl
  -- leaving
  · cases runs
  · exact .goto rfl rfl

theorem Kept.revalidate {input : Input} :
    Kept shared (guardKey stage) (shared.revalidate setup clocks stage input) := by
  unfold Fetch.Shared.revalidate
  split
  -- revalidating
  · exact .goto rfl rfl
  -- reading
  · split
    · split <;> exact .goto rfl rfl
    · split <;> exact .goto rfl rfl
  -- collecting
  · split <;> exact .goto rfl rfl
  all_goals first
    | exact .finish rfl
    | exact .goto rfl rfl

theorem Kept.change {input : Input} : Kept shared (guardKey stage) (shared.change stage input) := by
  unfold Fetch.Shared.change
  split
  · split
    · exact .goto rfl rfl
    · exact .finish rfl
  all_goals first
    | exact .finish rfl
    | exact .goto rfl rfl

theorem Kept.purge {input : Input} : Kept shared (guardKey stage) (shared.purge stage input) := by
  unfold Fetch.Shared.purge
  split
  · exact .goto rfl rfl
  · exact .finish rfl
  · exact .goto rfl rfl

/-- **An access that neither starts nor ends a flight.** -/
theorem Kept.advance {p : Nat}
    (elsewhere : ∀ client stored, stage = .boarding client stored → input.2 ≠ .go)
    (runs : cleans stage input.2 = false) :
    Kept shared (guardKey stage) (shared.advance setup p stage input) := by
  cases stage with
  | probing | adopting | spawning | boarding | following | waiting => exact .board elsewhere
  | asking | arriving | refreshing | recording | leaving => exact .receive runs
  | revalidating | reading | collecting | settling => exact .revalidate
  | changing | invalidating => exact .change
  | clearing | announcing => exact .purge

theorem cleans_cases {input : Input} (ends : cleans stage input = true) :
    input = .go ∧ ((∃ key, stage = .leaving key) ∨
      ∃ client stored response era kept, stage = .arriving client stored true response era ∧
        (stored.filter fun _ => response.status = .notModified) = some kept) := by
  unfold cleans at ends
  split at ends
  · exact ⟨rfl, .inl ⟨_, rfl⟩⟩
  · obtain ⟨kept, unchanged⟩ := Option.isSome_iff_exists.mp ends
    exact ⟨rfl, .inr ⟨_, _, _, _, kept, rfl, unchanged⟩⟩
  · cases ends

/-- **An access that ends a flight**: the key goes out of the map, and the guard is gone. -/
theorem advance_cleans {p : Nat} (ends : cleans stage input.2 = true)
    (isKey : guardKey stage = some key) :
    (shared.advance setup p stage input).1.inFlight = shared.inFlight.filter (· ≠ key) ∧
      (shared.advance setup p stage input).2.bind guardKey = none := by
  obtain ⟨clocks, input⟩ := input
  obtain ⟨rfl, ⟨own, rfl⟩ | ⟨client, stored, response, era, kept, rfl, unchanged⟩⟩ :=
    cleans_cases ends
  · cases isKey
    exact ⟨rfl, rfl⟩
  · cases isKey
    have isOutcome : shared.advance setup p (.arriving client stored true response era)
        (clocks, .go) =
          ({ shared with inFlight := shared.inFlight.filter (· ≠ client.request.key) }.goto
            (.refreshing client kept response.headers)) := by
      simp [Fetch.Shared.advance, Fetch.Shared.receive, unchanged]
    rw [isOutcome]
    exact ⟨rfl, rfl⟩

def isFollower : Fetch.Task → Bool
  | .following _ _ | .waiting _ _ => true
  | _ => false

/-- A follower stays one until it has waited. -/
theorem advance_follower {p : Nat} {next : Fetch.Task} (follower : isFollower stage = true)
    (early : ∀ client stored, stage = .waiting client stored → input.2 ≠ .go)
    (isNext : (shared.advance setup p stage input).2 = some next) : isFollower next = true := by
  obtain ⟨clocks, input⟩ := input
  cases stage with
  | following =>
    cases input with
    | go =>
      simp only [Fetch.Shared.advance, Fetch.Shared.board] at isNext
      split at isNext
      · cases isNext
      · cases isNext
        rfl
    | failed => cases isNext
    | _ =>
      cases isNext
      rfl
  | waiting client stored =>
    cases input with
    | go => exact absurd rfl (early client stored rfl)
    | failed => cases isNext
    | _ =>
      cases isNext
      rfl
  | _ => cases follower

end Kept

/-! ## What an access does to the flights -/

namespace Seat

/-- The guard that the request has, with its key. -/
def guard : Seat → Option (String × Nat)
  | .leads key flight => some (key, flight)
  | _ => none

def isTail : Seat → Bool
  | .follows _ | .listens _ => true
  | _ => false

end Seat

/-- The seat goes with the stage. -/
structure Task.Fits (task : Task) : Prop where
  guard : guardKey task.stage = task.seat.guard.map Prod.fst
  tail : task.seat.isTail = true → isFollower task.stage = true

/-- What an access of request `p`, which has the seat, can do to the flights. -/
inductive Turn (p : Nat) (shared : Shared) : Seat → Shared × Option Task → Prop where
  /-- The map stays, and the request keeps its guard or has none.  It may get the `Notify` of a
  flight in the map. -/
  | stays {seat : Seat} {cache : Fetch.Shared} {next : Option Task}
      (same : cache.inFlight = shared.cache.inFlight) (fits : ∀ task ∈ next, task.Fits)
      (guard : next.bind (·.seat.guard) = seat.guard)
      (follows : ∀ task ∈ next, ∀ flight, task.seat = .follows flight →
        seat = .follows flight ∨ ∃ key, (key, flight) ∈ shared.inFlight.rows) :
      Turn p shared seat ({ shared with cache := cache }, next)
  | leads {cache : Fetch.Shared} {key : String} {stage : Fetch.Task}
      (fresh : key ∉ shared.inFlight.keys)
      (same : cache.inFlight = key :: shared.cache.inFlight) (isKey : guardKey stage = some key) :
      Turn p shared .free
        ({ shared with
          cache := cache
          inFlight := shared.inFlight.upsert (key, shared.made)
          made := shared.made + 1 }, some ⟨stage, .leads key shared.made⟩)
  | listens {flight : Nat} {stage : Fetch.Task} (follower : isFollower stage = true) :
      Turn p shared (.follows flight) (shared.listen p flight, some ⟨stage, .listens flight⟩)
  | cleans {cache : Fetch.Shared} {key : String} {flight : Nat} {stage : Option Fetch.Task}
      (same : cache.inFlight = shared.cache.inFlight.filter (· ≠ key))
      (gone : stage.bind guardKey = none) :
      Turn p shared (.leads key flight)
        ({ shared.cleanup key flight with cache := cache },
          stage.map fun stage => ⟨stage, .free⟩)

section Turns

variable {setup : Setup} {shared : Shared} {p : Nat} {seat : Seat}

/-- An access of `Fetch` that leaves the flights alone. -/
theorem Turn.move {outcome : Fetch.Shared × Option Fetch.Task} {after : Seat}
    (kept : Kept shared.cache (after.guard.map Prod.fst) outcome)
    (same : after.guard = seat.guard)
    (tail : ∀ stage ∈ outcome.2, after.isTail = true → isFollower stage = true)
    (follows : ∀ flight, after = .follows flight →
      seat = .follows flight ∨ ∃ key, (key, flight) ∈ shared.inFlight.rows) :
    Turn p shared seat (shared.move outcome after) := by
  obtain ⟨cache, next⟩ := outcome
  cases next with
  | none =>
    have free : after.guard = none := Option.map_eq_none_iff.mp kept.guard.symm
    exact .stays kept.inFlight (by simp) (free.symm.trans same) (by simp)
  | some stage =>
    refine .stays kept.inFlight ?_ same ?_
    · rintro task ⟨⟩
      exact ⟨kept.guard, tail stage rfl⟩
    · rintro task ⟨⟩ flight isSeat
      exact follows flight isSeat

theorem turn_begin (call : Call) : Turn p shared .free (shared.begin setup p call) :=
  .move (.begin p call) rfl (by simp [Seat.isTail]) (by simp)

theorem guardKey_of_cleans {input : Input} (ends : cleans stage input = true) :
    guardKey stage ≠ none := by
  obtain ⟨-, ⟨key, rfl⟩ | ⟨client, stored, response, era, kept, rfl, -⟩⟩ := cleans_cases ends
  · simp [guardKey]
  · simp [guardKey, guardOf]

/-- A request without a guard does not end a flight. -/
theorem Kept.unguarded (free : guardKey stage = none)
    (elsewhere : ∀ client stored, stage = .boarding client stored → input.2 ≠ .go) :
    Kept shared.cache none (shared.cache.advance setup p stage input) := by
  have runs : cleans stage input.2 = false := by
    by_contra ends
    exact guardKey_of_cleans (Bool.not_eq_false _ ▸ ends) free
  exact free ▸ .advance elsewhere runs

/-- `start_flight` and the boarding of `Fetch` decide alike. -/
theorem turn_boarding (agree : ∀ key, key ∈ shared.cache.inFlight ↔ key ∈ shared.inFlight.keys)
    (client : Fetch.Client) (stored : Option Fetch.Kept) (clocks : Clocks) :
    Turn p shared .free
      (shared.advance setup p ⟨.boarding client stored, .free⟩ (clocks, .go)) := by
  unfold Shared.advance Shared.startFlight
  simp only [Fetch.Shared.advance, Fetch.Shared.board, agree]
  cases found : shared.inFlight.find client.request.key with
  | some row =>
    obtain ⟨member, isKey⟩ := mem_of_find found
    have known : client.request.key ∈ shared.inFlight.keys :=
      isKey ▸ List.mem_map_of_mem (f := Prod.fst) member
    rw [if_pos known]
    refine .move (.goto rfl rfl) rfl ?_ ?_
    · rintro stage ⟨⟩ -
      rfl
    · rintro flight ⟨⟩
      exact .inr ⟨row.1, member⟩
  | none =>
    have fresh := find_eq_none.mp found
    rw [if_neg fresh]
    exact .leads fresh rfl rfl

/-- A leader ends its flight or keeps its guard. -/
theorem advance_leads (stage : Fetch.Task) (key : String) (flight : Nat) (input : Clocks × Input) :
    shared.advance setup p ⟨stage, .leads key flight⟩ input =
      if cleans stage input.2 then
        (shared.cleanup key flight).move (shared.cache.advance setup p stage input) .free
      else shared.move (shared.cache.advance setup p stage input) (.leads key flight) := by
  rfl

theorem turn_leads (isKey : guardKey stage = some key) (input : Clocks × Input) :
    Turn p shared (.leads key flight)
      (shared.advance setup p ⟨stage, .leads key flight⟩ input) := by
  rw [advance_leads]
  split
  · rename_i ends
    obtain ⟨same, gone⟩ := advance_cleans ends isKey
    exact .cleans same gone
  · rename_i runs
    have elsewhere : ∀ client stored, stage = .boarding client stored → input.2 ≠ .go := by
      rintro client stored rfl
      cases isKey
    have kept : Kept shared.cache (some key) (shared.cache.advance setup p stage input) :=
      isKey ▸ .advance elsewhere (eq_false_of_ne_true runs)
    exact .move kept rfl (by simp [Seat.isTail]) (by simp)

theorem turn_free (agree : ∀ key, key ∈ shared.cache.inFlight ↔ key ∈ shared.inFlight.keys)
    (free : guardKey stage = none) (input : Clocks × Input) :
    Turn p shared .free (shared.advance setup p ⟨stage, .free⟩ input) := by
  obtain ⟨clocks, input⟩ := input
  by_cases boards : (∃ client stored, stage = .boarding client stored) ∧ input = .go
  · obtain ⟨⟨client, stored, rfl⟩, rfl⟩ := boards
    exact turn_boarding agree client stored clocks
  · have isOutcome : shared.advance setup p ⟨stage, .free⟩ (clocks, input) =
        shared.move (shared.cache.advance setup p stage (clocks, input)) .free := by
      unfold Shared.advance
      split <;> simp_all
    rw [isOutcome]
    refine .move (.unguarded free ?_) rfl (by simp [Seat.isTail]) (by simp)
    rintro client stored rfl rfl
    exact boards ⟨⟨client, stored, rfl⟩, rfl⟩

theorem Kept.follower (follower : isFollower stage = true) :
    Kept shared.cache none (shared.cache.advance setup p stage input) := by
  cases stage with
  | following | waiting => exact .unguarded rfl (by simp)
  | _ => cases follower

theorem guard_of_isTail (tail : seat.isTail = true) : seat.guard = none := by
  cases seat with
  | follows | listens => rfl
  | _ => cases tail

/-- A follower re-checks, makes its future, or goes away. -/
theorem turn_tail (tail : seat.isTail = true) (follower : isFollower stage = true)
    (input : Clocks × Input) : Turn p shared seat (shared.advance setup p ⟨stage, seat⟩ input) := by
  obtain ⟨clocks, input⟩ := input
  by_cases ready : (∃ client stored, stage = .waiting client stored) ∧ input = .go
  · obtain ⟨⟨client, stored, rfl⟩, rfl⟩ := ready
    cases seat with
    | follows => exact .listens rfl
    | listens =>
      have kept : Kept shared.cache (Seat.free.guard.map Prod.fst)
          (shared.cache.advance setup p (.waiting client stored) (clocks, .go)) := .follower rfl
      exact .move kept rfl (by simp [Seat.isTail]) (by simp)
    | _ => cases tail
  · have isOutcome : shared.advance setup p ⟨stage, seat⟩ (clocks, input) =
        shared.move (shared.cache.advance setup p stage (clocks, input)) seat := by
      unfold Shared.advance
      split <;> simp_all [Seat.isTail]
    rw [isOutcome]
    refine .move ?_ rfl ?_ fun flight isSeat => .inl isSeat
    · rw [guard_of_isTail tail]
      exact .follower follower
    · intro next isNext _
      refine advance_follower follower ?_ isNext
      rintro client stored rfl rfl
      exact ready ⟨⟨client, stored, rfl⟩, rfl⟩

/-- **What an access does to the flights.** -/
theorem turn_advance (agree : ∀ key, key ∈ shared.cache.inFlight ↔ key ∈ shared.inFlight.keys)
    (fits : task.Fits) (input : Clocks × Input) :
    Turn p shared task.seat (shared.advance setup p task input) := by
  obtain ⟨stage, seat⟩ := task
  cases seat with
  | free => exact turn_free agree fits.guard input
  | leads => exact turn_leads fits.guard input
  | follows | listens => exact turn_tail rfl (fits.tail rfl) input

end Turns

/-! ## Leaders -/

/-- Request `p` has the guard of the flight under the key. -/
def Holder (state : State) (p : Nat) (pair : String × Nat) : Prop :=
  ∃ task, (p, task) ∈ state.tasks.rows ∧ task.seat.guard = some pair

theorem holder_settle {state : State} {p q : Nat} {pair : String × Nat} :
    Holder (state.settle p outcome) q pair ↔
      (Holder state q pair ∧ q ≠ p) ∨ (q = p ∧ outcome.2.bind (·.seat.guard) = some pair) := by
  unfold Holder
  simp only [mem_settle, Option.bind_eq_some_iff]
  constructor
  · rintro ⟨task, ⟨member, other⟩ | ⟨same, isNext⟩, isGuard⟩
    · exact .inl ⟨⟨task, member, isGuard⟩, other⟩
    · exact .inr ⟨same, task, isNext, isGuard⟩
  · rintro (⟨⟨task, member, isGuard⟩, other⟩ | ⟨same, task, isNext, isGuard⟩)
    · exact ⟨task, .inl ⟨member, other⟩, isGuard⟩
    · exact ⟨task, .inr ⟨same, isNext⟩, isGuard⟩

/-- The map has exactly the flights whose guards are held. -/
structure Exact (state : State) : Prop where
  held : ∀ pair, pair ∈ state.shared.inFlight.rows ↔ ∃ p, Holder state p pair
  /-- Two guards of one key are one. -/
  alone : ∀ p q first second, Holder state p first → Holder state q second →
    first.1 = second.1 → p = q ∧ first = second

/-- The numbers of the flights in the map are their own, and none of them has ended. -/
structure Numbered (inFlight : Table (Prod.fst : String × Nat → String)) (made : Nat)
    (ended : List Nat) : Prop where
  live : ∀ pair ∈ inFlight.rows, pair.2 < made ∧ pair.2 ∉ ended
  past : ∀ flight ∈ ended, flight < made
  alone : ∀ first ∈ inFlight.rows, ∀ second ∈ inFlight.rows, first.2 = second.2 → first = second

section Numbered

variable {inFlight : Table (Prod.fst : String × Nat → String)} {made : Nat} {ended : List Nat}

theorem Numbered.leads (numbered : Numbered inFlight made ended) (key : String) :
    Numbered (inFlight.upsert (key, made)) (made + 1) ended := by
  refine ⟨?_, fun flight gone => Nat.lt_succ_of_lt (numbered.past flight gone), ?_⟩
  · intro pair member
    rcases mem_upsert.mp member with ⟨known, -⟩ | rfl
    · exact ⟨Nat.lt_succ_of_lt (numbered.live pair known).1, (numbered.live pair known).2⟩
    · exact ⟨Nat.lt_succ_self _, fun gone => Nat.lt_irrefl _ (numbered.past _ gone)⟩
  · intro first member second other same
    rcases mem_upsert.mp member with ⟨known, -⟩ | rfl
    · rcases mem_upsert.mp other with ⟨also, -⟩ | rfl
      · exact numbered.alone first known second also same
      · exact absurd same (Nat.ne_of_lt (numbered.live first known).1)
    · rcases mem_upsert.mp other with ⟨also, -⟩ | rfl
      · exact absurd same.symm (Nat.ne_of_lt (numbered.live second also).1)
      · rfl

theorem Numbered.cleanup (numbered : Numbered inFlight made ended)
    (known : (key, flight) ∈ inFlight.rows) :
    Numbered (inFlight.erase key) made (flight :: ended) := by
  refine ⟨?_, ?_, ?_⟩
  · intro pair member
    obtain ⟨before, other⟩ := mem_erase.mp member
    refine ⟨(numbered.live pair before).1, fun gone => ?_⟩
    rcases List.mem_cons.mp gone with same | earlier
    · exact other (congrArg Prod.fst (numbered.alone pair before _ known same))
    · exact (numbered.live pair before).2 earlier
  · intro old gone
    rcases List.mem_cons.mp gone with rfl | earlier
    · exact (numbered.live _ known).1
    · exact numbered.past old earlier
  · intro first member second other same
    exact numbered.alone first (mem_erase.mp member).1 second (mem_erase.mp other).1 same

end Numbered

/-- What holds in every state: the map of `Fetch` has the same keys, and every request has the seat
of its stage. -/
structure Sound (state : State) : Prop where
  exact : Exact state
  agree : ∀ key, key ∈ state.shared.cache.inFlight ↔ key ∈ state.shared.inFlight.keys
  fits : ∀ p task, (p, task) ∈ state.tasks.rows → task.Fits
  numbered : Numbered state.shared.inFlight state.shared.made state.shared.ended

theorem sound_start : Sound start := by
  have idle : ∀ p pair, ¬ Holder start p pair := by
    rintro p pair ⟨task, member, -⟩
    exact absurd member List.not_mem_nil
  refine ⟨⟨fun pair => ?_, fun p _ pair _ holds => absurd holds (idle p pair)⟩, fun key => Iff.rfl,
    fun _ _ member => absurd member List.not_mem_nil, ?_⟩
  · exact iff_of_false List.not_mem_nil fun ⟨p, holds⟩ => idle p pair holds
  · exact ⟨fun _ member => absurd member List.not_mem_nil,
      fun _ gone => absurd gone List.not_mem_nil,
      fun _ member => absurd member List.not_mem_nil⟩

section Steps

variable {setup : Setup} {state : State} {p : Nat} {seat : Seat} {shared : Shared}

/-- The seat is the one that request `p` has. -/
structure Own (state : State) (p : Nat) (seat : Seat) : Prop where
  guard : ∀ pair, Holder state p pair ↔ seat.guard = some pair
  follows : ∀ flight, seat = .follows flight →
    ∃ task, (p, task) ∈ state.tasks.rows ∧ task.seat = .follows flight

theorem Own.of_fresh (fresh : ∀ task, (p, task) ∉ state.tasks.rows) : Own state p .free := by
  refine ⟨fun pair => ⟨?_, ?_⟩, ?_⟩
  · rintro ⟨task, member, -⟩
    exact absurd member (fresh task)
  · rintro ⟨⟩
  · rintro flight ⟨⟩

theorem Own.of_mem (member : (p, task) ∈ state.tasks.rows) : Own state p task.seat := by
  refine ⟨fun pair => ⟨?_, fun isGuard => ⟨task, member, isGuard⟩⟩,
    fun flight isSeat => ⟨task, member, isSeat⟩⟩
  rintro ⟨other, known, isGuard⟩
  cases state.tasks.row_of_key known member rfl
  exact isGuard

/-- A request that keeps what it has changes no holder. -/
theorem holder_stays (own : Own state p seat) (same : outcome.2.bind (·.seat.guard) = seat.guard)
    (q : Nat) (pair : String × Nat) :
    Holder (state.settle p outcome) q pair ↔ Holder state q pair := by
  rw [holder_settle, same, ← own.guard pair]
  constructor
  · rintro (⟨holds, -⟩ | ⟨rfl, holds⟩)
    · exact holds
    · exact holds
  · intro holds
    by_cases here : q = p
    · exact .inr ⟨here, here ▸ holds⟩
    · exact .inl ⟨holds, here⟩

theorem Exact.stays (exact : Exact state) (own : Own state p seat)
    (isMap : outcome.1.inFlight = state.shared.inFlight)
    (same : outcome.2.bind (·.seat.guard) = seat.guard) : Exact (state.settle p outcome) := by
  have stays := holder_stays own same
  refine ⟨fun pair => ?_, fun q r first second holds also => ?_⟩
  · simp only [settle_shared, isMap, stays]
    exact exact.held pair
  · exact exact.alone q r first second ((stays q first).mp holds) ((stays r second).mp also)

/-- A new leader: nobody had the key. -/
theorem Exact.leads (exact : Exact state) (own : Own state p .free)
    (fresh : key ∉ state.shared.inFlight.keys)
    (isMap : outcome.1.inFlight = state.shared.inFlight.upsert (key, flight))
    (isGuard : outcome.2.bind (·.seat.guard) = some (key, flight)) :
    Exact (state.settle p outcome) := by
  have holders : ∀ q pair, Holder (state.settle p outcome) q pair ↔
      Holder state q pair ∨ (q = p ∧ pair = (key, flight)) := by
    intro q pair
    rw [holder_settle, isGuard, Option.some.injEq, @eq_comm _ (key, flight)]
    refine or_congr (and_iff_left_of_imp ?_) Iff.rfl
    rintro holds rfl
    cases (own.guard pair).mp holds
  have unknown : ∀ q pair, Holder state q pair → pair.1 ≠ key := by
    rintro q pair holds rfl
    exact fresh (List.mem_map_of_mem (f := Prod.fst) ((exact.held pair).mpr ⟨q, holds⟩))
  refine ⟨fun pair => ?_, fun q r first second holds also same => ?_⟩
  · simp only [settle_shared, isMap, mem_upsert, holders, exact.held]
    constructor
    · rintro (⟨⟨q, holds⟩, -⟩ | rfl)
      · exact ⟨q, .inl holds⟩
      · exact ⟨p, .inr ⟨rfl, rfl⟩⟩
    · rintro ⟨q, holds | ⟨-, same⟩⟩
      · exact .inl ⟨⟨q, holds⟩, unknown q pair holds⟩
      · exact .inr same
  · rcases (holders q first).mp holds with before | ⟨rfl, rfl⟩
    · rcases (holders r second).mp also with old | ⟨rfl, rfl⟩
      · exact exact.alone q r first second before old same
      · exact absurd same (unknown q first before)
    · rcases (holders r second).mp also with old | ⟨rfl, rfl⟩
      · exact absurd same.symm (unknown r second old)
      · exact ⟨rfl, rfl⟩

/-- A guard that ends takes its own flight out of the map. -/
theorem Exact.cleans (exact : Exact state) (own : Own state p (.leads key flight))
    (isMap : outcome.1.inFlight = state.shared.inFlight.erase key)
    (gone : outcome.2.bind (·.seat.guard) = none) : Exact (state.settle p outcome) := by
  have holders : ∀ q pair, Holder (state.settle p outcome) q pair ↔
      Holder state q pair ∧ q ≠ p := by
    intro q pair
    simp [holder_settle, gone]
  have mine : Holder state p (key, flight) := (own.guard (key, flight)).mpr rfl
  refine ⟨fun pair => ?_, fun q r first second holds also => ?_⟩
  · simp only [settle_shared, isMap, mem_erase, holders, exact.held]
    constructor
    · rintro ⟨⟨q, holds⟩, other⟩
      refine ⟨q, holds, ?_⟩
      rintro rfl
      cases (own.guard pair).mp holds
      exact other rfl
    · rintro ⟨q, holds, other⟩
      exact ⟨⟨q, holds⟩, fun same => other (exact.alone q p pair _ holds mine same).1⟩
  · exact exact.alone q r first second ((holders q first).mp holds).1 ((holders r second).mp also).1

theorem Turn.fits (turn : Turn p shared seat outcome) : ∀ task ∈ outcome.2, task.Fits := by
  cases turn with
  | stays same fits => exact fits
  | leads fresh same isKey =>
    rintro task ⟨⟩
    exact ⟨isKey, by simp [Seat.isTail]⟩
  | @listens flight stage follower =>
    rintro task ⟨⟩
    refine ⟨?_, fun _ => follower⟩
    cases stage with
    | following | waiting => rfl
    | _ => cases follower
  | @cleans cache key flight stage same gone =>
    cases stage with
    | none => simp
    | some =>
      rintro task ⟨⟩
      exact ⟨gone, by simp [Seat.isTail]⟩

theorem Turn.agree (turn : Turn p shared seat outcome)
    (agree : ∀ key, key ∈ shared.cache.inFlight ↔ key ∈ shared.inFlight.keys) (key : String) :
    key ∈ outcome.1.cache.inFlight ↔ key ∈ outcome.1.inFlight.keys := by
  cases turn with
  | stays same =>
    rw [same]
    exact agree key
  | @leads cache new stage fresh same =>
    rw [same, List.mem_cons, mem_keys_upsert, agree, or_comm]
  | listens => exact agree key
  | @cleans cache old flight stage same =>
    dsimp only [Shared.cleanup]
    rw [same, List.mem_filter, mem_keys_erase, agree, decide_eq_true_eq]

/-- **A step keeps the guards and the map together.** -/
theorem Sound.settle (sound : Sound state) (own : Own state p seat)
    (turn : Turn p state.shared seat outcome) : Sound (state.settle p outcome) := by
  have fits : ∀ q task, (q, task) ∈ (state.settle p outcome).tasks.rows → task.Fits := by
    intro q task member
    rcases mem_settle.mp member with ⟨known, -⟩ | ⟨-, isNext⟩
    · exact sound.fits q task known
    · exact turn.fits task isNext
  have agree := turn.agree sound.agree
  cases turn with
  | stays same _ guard =>
    exact ⟨sound.exact.stays own rfl guard, agree, fits, sound.numbered⟩
  | leads fresh =>
    exact ⟨sound.exact.leads own fresh rfl rfl, agree, fits, sound.numbered.leads _⟩
  | listens =>
    exact ⟨sound.exact.stays own rfl rfl, agree, fits, sound.numbered⟩
  | @cleans _ key flight stage =>
    have known := (sound.exact.held (key, flight)).mpr ⟨p, (own.guard (key, flight)).mpr rfl⟩
    refine ⟨sound.exact.cleans own rfl ?_, agree, fits, sound.numbered.cleanup known⟩
    cases stage <;> rfl

/-! ## Steps -/

/-- A guard ends only while every follower of its flight has made its future. -/
def Timely (state : State) : Event Call (Clocks × Input) → Prop
  | .begin _ _ => True
  | .advance p (_, input) =>
    ∀ slot ∈ state.tasks.rows, slot.1 = p → cleans slot.2.stage input = true →
      ∀ pair ∈ slot.2.seat.guard, ∀ other ∈ state.tasks.rows, other.2.seat ≠ .follows pair.2

theorem startFlight_ended (shared : Shared) (key : String) :
    (shared.startFlight key).1.ended = shared.ended := by
  unfold Shared.startFlight
  split <;> rfl

theorem advance_ended (runs : cleans task.stage input.2 = false) :
    (shared.advance setup p task input).1.ended = shared.ended := by
  obtain ⟨stage, seat⟩ := task
  cases seat with
  | leads =>
    rw [advance_leads, if_neg (ne_true_of_eq_false runs)]
    rfl
  | free | follows | listens =>
    unfold Shared.advance
    split
    · exact startFlight_ended shared _
    all_goals first
      | rfl
      | contradiction

/-- **What a step can do**: nothing, or a turn of one request that has the seat.  If that ends the
flight of a guard in time, the flight has no follower without a future. -/
theorem Sound.step_cases (sound : Sound state) (event : Event Call (Clocks × Input)) :
    (program setup).step state event = state ∨
      ∃ p seat outcome, Own state p seat ∧ Turn p state.shared seat outcome ∧
        (Timely state event → ∀ pair ∈ seat.guard, pair.2 ∈ outcome.1.ended →
          ∀ other ∈ state.tasks.rows, other.2.seat ≠ .follows pair.2) ∧
        (program setup).step state event = state.settle p outcome := by
  rcases (program setup).step_cases state event with
    same | ⟨p, call, rfl, fresh, same⟩ | ⟨p, input, task, rfl, member, same⟩
  · exact .inl same
  · exact .inr ⟨p, .free, _, .of_fresh fresh, turn_begin call, by simp [Seat.guard], same⟩
  · refine .inr ⟨p, task.seat, _, .of_mem member,
      turn_advance sound.agree (sound.fits p task member) input, ?_, same⟩
    intro timely pair isGuard gone
    cases ends : cleans task.stage input.2 with
    | true => exact timely (p, task) member rfl ends pair isGuard
    | false =>
      have known := (sound.exact.held pair).mpr ⟨p, task, member, isGuard⟩
      have before : pair.2 ∈ state.shared.ended := advance_ended ends ▸ gone
      exact absurd before (sound.numbered.live pair known).2

theorem Sound.step (sound : Sound state) (event : Event Call (Clocks × Input)) :
    Sound ((program setup).step state event) := by
  rcases sound.step_cases event with same | ⟨p, seat, outcome, own, turn, -, same⟩
  · rwa [same]
  · rw [same]
    exact sound.settle own turn

/-- No request waits on the `Notify` of a leader that had finished. -/
def Punctual (state : State) : Prop := state.shared.late = []

/-- Whoever has a `Notify` and no future yet has the `Notify` of a flight that goes on. -/
structure Awaited (state : State) : Prop where
  sound : Sound state
  ahead : ∀ p task flight, (p, task) ∈ state.tasks.rows → task.seat = .follows flight →
    flight ∉ state.shared.ended
  punctual : Punctual state

theorem Awaited.next_ahead (awaited : Awaited state) (own : Own state p seat)
    (turn : Turn p state.shared seat outcome) (isNext : outcome.2 = some task)
    (isSeat : task.seat = .follows flight) : flight ∉ outcome.1.ended := by
  cases turn with
  | stays _ _ _ follows =>
    rcases follows task isNext flight isSeat with before | ⟨key, known⟩
    · obtain ⟨own, member, had⟩ := own.follows flight before
      exact awaited.ahead p own flight member had
    · exact (awaited.sound.numbered.live (key, flight) known).2
  | leads | listens =>
    cases isNext
    cases isSeat
  | cleans =>
    obtain ⟨stage, -, rfl⟩ := Option.map_eq_some_iff.mp isNext
    cases isSeat

theorem Awaited.punctual_settle (awaited : Awaited state) (own : Own state p seat)
    (turn : Turn p state.shared seat outcome) : Punctual (state.settle p outcome) := by
  cases turn with
  | stays | leads | cleans => exact awaited.punctual
  | @listens flight =>
    obtain ⟨task, member, isSeat⟩ := own.follows flight rfl
    have early := awaited.ahead p task flight member isSeat
    exact (if_neg early).trans awaited.punctual

/-- The followers whose flight ends in this turn have made their futures. -/
theorem Turn.ended (turn : Turn p shared seat outcome) (gone : flight ∈ outcome.1.ended) :
    flight ∈ shared.ended ∨ ∃ key, seat.guard = some (key, flight) := by
  cases turn with
  | stays | leads | listens => exact .inl gone
  | @cleans cache key =>
    rcases List.mem_cons.mp gone with rfl | earlier
    · exact .inr ⟨key, rfl⟩
    · exact .inl earlier

theorem Awaited.step (awaited : Awaited state) (event : Event Call (Clocks × Input))
    (timely : Timely state event) : Awaited ((program setup).step state event) := by
  rcases awaited.sound.step_cases event with same | ⟨p, seat, outcome, own, turn, calm, same⟩
  · rwa [same]
  · rw [same]
    refine ⟨awaited.sound.settle own turn, ?_, awaited.punctual_settle own turn⟩
    intro q task flight member isSeat
    rcases mem_settle.mp member with ⟨known, -⟩ | ⟨-, isNext⟩
    · intro gone
      rcases turn.ended gone with before | ⟨key, isGuard⟩
      · exact awaited.ahead q task flight known isSeat before
      · exact calm timely _ isGuard gone (q, task) known isSeat
    · exact awaited.next_ahead own turn isNext isSeat

end Steps

/-- **The map has the flights whose guards are held, in every state of every interleaving.**  And
where guards end only while their followers have made their futures, no future is made after the
notification. -/
theorem flights_are_sound (setup : Setup) (events : List (Event Call (Clocks × Input))) :
    Throughout (program setup).step Exact start events ∧
      (Guarded (program setup).step Timely start events →
        Throughout (program setup).step Punctual start events) := by
  constructor
  · have always : Guarded (program setup).step (fun _ _ => True) start events :=
      .of_always (fun _ _ => trivial) start events
    exact always.throughout (fun _ event sound _ => sound.step event) (fun _ sound => sound.exact)
      sound_start
  · intro timely
    have first : Awaited start :=
      ⟨sound_start, fun _ _ _ member => absurd member List.not_mem_nil, rfl⟩
    exact timely.throughout (fun _ event awaited calm => awaited.step event calm)
      (fun _ awaited => awaited.punctual) first

section Runs

instance (state : State) : ∀ event, Decidable (Timely state event)
  | .begin _ _ => inferInstanceAs (Decidable True)
  | .advance _ (_, _) => inferInstanceAs (Decidable (∀ slot ∈ _, _))

instance (state : State) : Decidable (Punctual state) := inferInstanceAs (Decidable (_ = _))

def goes (p : Nat) : Event Call (Clocks × Input) := .advance p (clocksAt 1, .go)

/-- The first request leads and the second one follows it; the leader then fails. -/
def boardTwo : List (Event Call (Clocks × Input)) :=
  fetches 0 ⟨[]⟩ ++ [goes 0] ++ fetches 1 ⟨[]⟩ ++ [goes 1]

def leaderFails : List (Event Call (Clocks × Input)) :=
  [.advance 0 (clocksAt 1, .failed), goes 0]

/-- The follower finds nothing stored and makes its future. -/
def followerListens : List (Event Call (Clocks × Input)) := [goes 1, goes 1]

theorem early_follower_is_notified :
    (exec (program oneNode).step start (boardTwo ++ followerListens ++ leaderFails)).shared.ended =
        [0] ∧
      Throughout (program oneNode).step Exact start (boardTwo ++ followerListens ++ leaderFails) ∧
      Throughout (program oneNode).step Punctual start
        (boardTwo ++ followerListens ++ leaderFails) := by
  have sound := flights_are_sound oneNode (boardTwo ++ followerListens ++ leaderFails)
  exact ⟨by decide, sound.1, sound.2 (by decide)⟩

/-- The leader fails before the follower makes its future: the follower waits for a notification
that has been given. -/
theorem late_follower_is_not_notified :
    let state := exec (program oneNode).step start (boardTwo ++ leaderFails ++ followerListens)
    ¬ Punctual state ∧ state.shared.ended = [0] ∧
      ∃ slot ∈ state.tasks.rows, slot.1 = 1 ∧ slot.2.seat = .listens 0 := by
  decide

end Runs

end R3v3rs3.Proxy.Http.Cache.Flights
