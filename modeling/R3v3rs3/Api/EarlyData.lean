/-
# R3v3rs3.Api.EarlyData -- the replay filter of early data

A request that came as early data can be sent again by anyone who saw it, so it is let through once:
`checkAndRecord` refuses a request that was seen less than the window ago.  The entries have a
limit.  When as many requests as the limit allows were seen in the window, the next call empties the
buffer, and with it forgets requests that must still be refused.

`replays_rejected_iff` says when that matters: every replay is refused if and only if no replay comes
after (or with) a call that empties the buffer.  The number of entries keeps its limit always.
-/
import Mathlib
import R3v3rs3.Proxy.Http.Headers
import R3v3rs3.Theory.NetAddr
import R3v3rs3.Theory.Run
import R3v3rs3.Theory.Table

namespace R3v3rs3.Api.EarlyData
open Theory Table
open Proxy.Http (eqIgnoreAsciiCase)
open Theory.Run (exec Guarded Throughout guarded_append guarded_iff exec_append)
set_option autoImplicit false

/-! ## The filter -/

structure ReplayKey where
  clientIp : NetAddr.IpAddr
  method : List Char
  pathAndQuery : List Char
  deriving DecidableEq

/-- A request, and the time at which it is checked. -/
structure Call where
  clientIp : NetAddr.IpAddr
  method : List Char
  pathAndQuery : List Char
  now : Nat

/-- The key of a request has its method in upper case. -/
def Call.key (call : Call) : ReplayKey where
  clientIp := call.clientIp
  method := call.method.map Char.toUpper
  pathAndQuery := call.pathAndQuery

/-- Times and the window are nanoseconds. -/
structure AntiReplayBuffer where
  window : Nat
  maxEntries : Nat
  entries : Table (Prod.fst : ReplayKey × Nat → ReplayKey)

namespace AntiReplayBuffer

def new (window maxEntries : Nat) : AntiReplayBuffer := ⟨window, maxEntries, .empty⟩

/-- An entry whose window has passed. -/
def expired (buffer : AntiReplayBuffer) (now : Nat) (row : ReplayKey × Nat) : Bool :=
  buffer.window ≤ now - row.2

def evictExpiredOrOverflow (buffer : AntiReplayBuffer) (now : Nat) : AntiReplayBuffer :=
  let pruned :=
    if buffer.maxEntries / 2 < buffer.entries.rows.length then
      { buffer with entries := buffer.entries.discard (buffer.expired now) }
    else buffer
  if pruned.maxEntries ≤ pruned.entries.rows.length then { pruned with entries := .empty }
  else pruned

/-- Whether the request is let through, which records it. -/
def checkAndRecord (buffer : AntiReplayBuffer) (call : Call) : AntiReplayBuffer × Bool :=
  let buffer := buffer.evictExpiredOrOverflow call.now
  if (buffer.entries.find call.key).any fun row => !buffer.expired call.now row then (buffer, false)
  else ({ buffer with entries := buffer.entries.upsert (call.key, call.now) }, true)

def step (buffer : AntiReplayBuffer) (call : Call) : AntiReplayBuffer := (buffer.checkAndRecord call).1

def accepts (buffer : AntiReplayBuffer) (call : Call) : Bool := (buffer.checkAndRecord call).2

/-- The requests that the buffer holds and that must be refused at the time. -/
def pending (buffer : AntiReplayBuffer) (now : Nat) : Nat :=
  buffer.entries.rows.countP fun row => !buffer.expired now row

/-- The call finds fewer requests that must still be refused than the buffer can hold. -/
def Roomy (buffer : AntiReplayBuffer) (call : Call) : Prop :=
  buffer.pending call.now < buffer.maxEntries

instance (buffer : AntiReplayBuffer) (call : Call) : Decidable (buffer.Roomy call) :=
  inferInstanceAs (Decidable (_ < _))

/-! ## Eviction -/

variable {row : ReplayKey × Nat} {key : ReplayKey}

section Eviction

variable (buffer : AntiReplayBuffer) (call : Call)

@[simp] theorem evict_window (now : Nat) :
    (buffer.evictExpiredOrOverflow now).window = buffer.window := by
  unfold evictExpiredOrOverflow
  dsimp only
  split <;> split <;> rfl

@[simp] theorem evict_maxEntries (now : Nat) :
    (buffer.evictExpiredOrOverflow now).maxEntries = buffer.maxEntries := by
  unfold evictExpiredOrOverflow
  dsimp only
  split <;> split <;> rfl

theorem length_discard_expired (now : Nat) :
    (buffer.entries.discard (buffer.expired now)).rows.length = buffer.pending now := by
  rw [discard_rows, pending, List.countP_eq_length_filter]

variable {buffer call}

/-- A call with room keeps what must still be refused. -/
theorem find_evict_of_roomy (roomy : buffer.Roomy call)
    (found : buffer.entries.find row.1 = some row) (fresh : buffer.expired call.now row = false) :
    (buffer.evictExpiredOrOverflow call.now).entries.find row.1 = some row := by
  have room : buffer.pending call.now < buffer.maxEntries := roomy
  unfold evictExpiredOrOverflow
  by_cases full : buffer.maxEntries / 2 < buffer.entries.rows.length
  · rw [if_pos full, if_neg, find_discard, found]
    · simp [fresh]
    · dsimp only
      rw [length_discard_expired]
      omega
  · rw [if_neg full, if_neg (by omega)]
    exact found

/-- A call without room empties the buffer. -/
theorem evict_of_not_roomy (crowded : ¬ buffer.Roomy call) :
    (buffer.evictExpiredOrOverflow call.now).entries = .empty := by
  have crowd : buffer.maxEntries ≤ buffer.pending call.now := Nat.le_of_not_lt crowded
  have below : buffer.pending call.now ≤ buffer.entries.rows.length := List.countP_le_length
  unfold evictExpiredOrOverflow
  by_cases full : buffer.maxEntries / 2 < buffer.entries.rows.length
  · rw [if_pos full, if_pos]
    rw [length_discard_expired]
    exact crowd
  · rw [if_neg full, if_pos (by omega)]

/-- A key that is not there does not come back. -/
theorem find_evict_eq_none (absent : buffer.entries.find key = none) (now : Nat) :
    (buffer.evictExpiredOrOverflow now).entries.find key = none := by
  unfold evictExpiredOrOverflow
  dsimp only
  split
  · split
    · rfl
    · rw [find_discard, absent]
      rfl
  · split
    · rfl
    · exact absent

theorem length_evict (now : Nat) :
    (buffer.evictExpiredOrOverflow now).entries.rows.length + 1 ≤ max 1 buffer.maxEntries := by
  unfold evictExpiredOrOverflow
  dsimp only
  split
  · split
    · exact Nat.le_max_left 1 _
    · dsimp only at *
      omega
  · split
    · exact Nat.le_max_left 1 _
    · omega

end Eviction

/-! ## One call -/

section Calls

variable {buffer : AntiReplayBuffer} {call : Call}

@[simp] theorem step_window : (buffer.step call).window = buffer.window := by
  unfold step checkAndRecord
  dsimp only
  split <;> simp

@[simp] theorem step_maxEntries : (buffer.step call).maxEntries = buffer.maxEntries := by
  unfold step checkAndRecord
  dsimp only
  split <;> simp

theorem exec_window (buffer : AntiReplayBuffer) (calls : List Call) :
    (exec step buffer calls).window = buffer.window := by
  induction calls generalizing buffer with
  | nil => rfl
  | cons call rest ih => rw [Run.exec_cons, ih, step_window]

/-- A request that is let through is recorded. -/
theorem find_step_of_accepts (accepted : buffer.accepts call = true) :
    (buffer.step call).entries.find call.key = some (call.key, call.now) := by
  unfold accepts checkAndRecord at accepted
  unfold step checkAndRecord
  dsimp only at *
  split at accepted
  · cases accepted
  · rename_i unseen
    rw [if_neg unseen, find_upsert, if_pos rfl]

/-- A call with room keeps an entry that must still be refused, and refuses its request. -/
theorem find_step_of_roomy (roomy : buffer.Roomy call)
    (found : buffer.entries.find row.1 = some row) (fresh : buffer.expired call.now row = false) :
    (buffer.step call).entries.find row.1 = some row ∧
      (call.key = row.1 → buffer.accepts call = false) := by
  have kept := find_evict_of_roomy roomy found fresh
  have unexpired : (buffer.evictExpiredOrOverflow call.now).expired call.now row = false := by
    simpa [expired] using fresh
  unfold step accepts checkAndRecord
  dsimp only
  by_cases same : call.key = row.1
  · rw [same, kept, if_pos (by simp [unexpired])]
    exact ⟨kept, fun _ => rfl⟩
  · refine ⟨?_, fun equal => absurd equal same⟩
    split
    · exact kept
    · rw [find_upsert, if_neg same]
      exact kept

/-- After a call for another request an absent key is still absent. -/
theorem find_step_eq_none (absent : buffer.entries.find key = none) (other : call.key ≠ key) :
    (buffer.step call).entries.find key = none := by
  have stays := find_evict_eq_none absent call.now
  unfold step checkAndRecord
  dsimp only
  split
  · exact stays
  · rw [find_upsert, if_neg other]
    exact stays

theorem accepts_of_find_eq_none (absent : buffer.entries.find call.key = none) :
    buffer.accepts call = true := by
  unfold accepts checkAndRecord
  dsimp only
  rw [find_evict_eq_none absent, if_neg (by simp)]

/-- The call that empties the buffer forgets all other requests and lets its own through. -/
theorem step_of_not_roomy (crowded : ¬ buffer.Roomy call) :
    buffer.accepts call = true ∧
      ∀ key, call.key ≠ key → (buffer.step call).entries.find key = none := by
  have empty := evict_of_not_roomy crowded
  unfold accepts step checkAndRecord
  dsimp only
  have unseen : (buffer.evictExpiredOrOverflow call.now).entries.find call.key = none := by
    rw [empty]
    rfl
  rw [unseen, if_neg (by simp)]
  refine ⟨rfl, fun key other => ?_⟩
  rw [find_upsert, if_neg other, empty]
  rfl

theorem length_step : (buffer.step call).entries.rows.length ≤ max 1 buffer.maxEntries := by
  have bound : (buffer.evictExpiredOrOverflow call.now).entries.rows.length + 1 ≤ _ :=
    length_evict call.now
  unfold step checkAndRecord
  dsimp only
  split
  · dsimp only
    omega
  · exact Nat.le_trans (length_upsert_le _ _) bound

end Calls

/-! ## Runs -/

section Runs

/-- While every call has room and the window lasts, an entry stays and its request is refused. -/
theorem find_exec_of_roomy {buffer : AntiReplayBuffer} {calls : List Call}
    (found : buffer.entries.find row.1 = some row)
    (fresh : ∀ call ∈ calls, buffer.expired call.now row = false)
    (roomy : Guarded step Roomy buffer calls) :
    (exec step buffer calls).entries.find row.1 = some row := by
  induction calls generalizing buffer with
  | nil => exact found
  | cons call rest ih =>
    obtain ⟨kept, -⟩ := find_step_of_roomy roomy.1 found (fresh call List.mem_cons_self)
    apply ih kept _ roomy.2
    intro other member
    simpa [expired] using fresh other (List.mem_cons_of_mem call member)

theorem find_exec_eq_none {buffer : AntiReplayBuffer} {calls : List Call}
    (absent : buffer.entries.find key = none) (others : ∀ call ∈ calls, call.key ≠ key) :
    (exec step buffer calls).entries.find key = none := by
  induction calls generalizing buffer with
  | nil => exact absent
  | cons call rest ih =>
    apply ih (find_step_eq_none absent (others call List.mem_cons_self))
    exact fun other member => others other (List.mem_cons_of_mem call member)

end Runs

end AntiReplayBuffer

open AntiReplayBuffer

/-! ## Requests and their keys -/

/-- The same request: the client, the method up to the case of its letters, and path and query. -/
def SameRequest (first second : Call) : Prop :=
  first.clientIp = second.clientIp ∧ eqIgnoreAsciiCase first.method second.method = true ∧
    first.pathAndQuery = second.pathAndQuery

theorem toUpper_eq_iff (c d : Char) : c.toUpper = d.toUpper ↔ c.toLower = d.toLower := by
  constructor <;> intro same
  · simpa using congrArg Char.toLower same
  · simpa using congrArg Char.toUpper same

theorem map_toUpper_eq_iff (left right : List Char) :
    left.map Char.toUpper = right.map Char.toUpper ↔ eqIgnoreAsciiCase left right = true := by
  rw [eqIgnoreAsciiCase, decide_eq_true_iff]
  induction left generalizing right with
  | nil => simp
  | cons c rest ih =>
    cases right with
    | nil => simp
    | cons d other => simp [toUpper_eq_iff, ih other]

/-- Two calls share a key just when they are for the same request. -/
theorem key_eq_iff (first second : Call) : first.key = second.key ↔ SameRequest first second := by
  rw [SameRequest, ← map_toUpper_eq_iff]
  simp [Call.key]

/-! ## Replays -/

/-- In the list of calls, `first` is let through, and `again` is the same request within the
window. -/
structure Replay (start : AntiReplayBuffer) (calls earlier middle later : List Call)
    (first again : Call) : Prop where
  split : calls = earlier ++ first :: (middle ++ again :: later)
  accepted : (exec step start earlier).accepts first = true
  same : SameRequest first again
  inside : again.now < first.now + start.window

section Replays

variable {start : AntiReplayBuffer} {calls earlier middle later : List Call} {first again : Call}
  {call : Call}

section Replay

variable (replay : Replay start calls earlier middle later first again)
include replay

/-- The buffer after the first request. -/
theorem Replay.found :
    (exec step start (earlier ++ [first])).entries.find first.key = some (first.key, first.now) := by
  rw [exec_append]
  exact find_step_of_accepts replay.accepted

section Ordered

variable (ordered : calls.Pairwise fun a b => a.now ≤ b.now)
include ordered

/-- The calls since the first request, up to the second one. -/
theorem Replay.between (member : call ∈ middle ++ [again]) :
    first.now ≤ call.now ∧ call.now ≤ again.now := by
  rw [replay.split, List.pairwise_append, List.pairwise_cons, List.pairwise_append] at ordered
  obtain ⟨-, ⟨after, -, -, before⟩, -⟩ := ordered
  rcases List.mem_append.mp member with between | last
  · exact ⟨after call (List.mem_append_left _ between), before call between again List.mem_cons_self⟩
  · rw [List.mem_singleton.mp last]
    exact ⟨after again (List.mem_append_right _ List.mem_cons_self), Nat.le_refl _⟩

theorem Replay.fresh (member : call ∈ middle ++ [again]) :
    (exec step start (earlier ++ [first])).expired call.now (first.key, first.now) = false := by
  obtain ⟨after, before⟩ := replay.between ordered member
  have inside := replay.inside
  rw [expired, exec_window, decide_eq_false_iff_not]
  show ¬ start.window ≤ call.now - first.now
  omega

/-- With room at every call since, the replay is refused. -/
theorem Replay.rejected
    (roomy : Guarded step Roomy (exec step start (earlier ++ [first])) (middle ++ [again])) :
    (exec step start (earlier ++ first :: middle)).accepts again = false := by
  obtain ⟨between, atAgain, -⟩ := guarded_append.mp roomy
  have found := find_exec_of_roomy replay.found
    (fun call member => replay.fresh ordered (List.mem_append_left [again] member)) between
  rw [← exec_append, List.append_assoc, List.singleton_append] at found atAgain
  have fresh : (exec step start (earlier ++ first :: middle)).expired again.now
      (first.key, first.now) = false := by
    have known := replay.fresh ordered (List.mem_append_right middle (List.mem_singleton_self again))
    rw [expired, exec_window] at known ⊢
    exact known
  exact (find_step_of_roomy atAgain found fresh).2 ((key_eq_iff first again).mpr replay.same).symm

omit replay in
omit ordered in
/-- From a list with the request in it, the first call for that request. -/
theorem exists_first_call (key : ReplayKey) {calls : List Call} (member : call ∈ calls)
    (named : call.key = key) :
    ∃ front again back, calls = front ++ again :: back ∧ again.key = key ∧
      ∀ other ∈ front, other.key ≠ key := by
  have found : (calls.find? fun call => call.key = key).isSome := by
    rw [List.find?_isSome]
    exact ⟨call, member, by simp [named]⟩
  obtain ⟨again, isFirst⟩ := Option.isSome_iff_exists.mp found
  obtain ⟨same, front, back, split, others⟩ := List.find?_eq_some_iff_append.mp isFirst
  exact ⟨front, again, back, split, by simpa using same, by simpa using others⟩

/-- Where a call since has no room, some replay of the request is let through. -/
theorem Replay.exists_accepted
    (crowded : ¬ Guarded step Roomy (exec step start (earlier ++ [first])) (middle ++ [again])) :
    ∃ middle again later, Replay start calls earlier middle later first again ∧
      (exec step start (earlier ++ first :: middle)).accepts again = true := by
  simp only [guarded_iff, not_forall] at crowded
  obtain ⟨front, emptying, back, place, crowded⟩ := crowded
  -- the first call for the request, from the one that empties the buffer on
  have inside : again ∈ emptying :: back := by
    have last : (front ++ emptying :: back).getLast? = some again := by simp [← place]
    rw [List.getLast?_append_of_ne_nil _ (by simp)] at last
    exact List.mem_of_getLast? last
  obtain ⟨pre, next, post, split, same, others⟩ :=
    exists_first_call first.key inside ((key_eq_iff first again).mpr replay.same).symm
  have whole : middle ++ [again] = (front ++ pre) ++ next :: post := by
    rw [place, split, List.append_assoc]
  have member : next ∈ middle ++ [again] := by simp [whole]
  refine ⟨front ++ pre, next, post ++ later, ⟨?_, replay.accepted, ?_, ?_⟩, ?_⟩
  · have regroup : middle ++ again :: later = (middle ++ [again]) ++ later := by simp
    rw [replay.split, regroup, whole]
    simp
  · exact (key_eq_iff first next).mp same.symm
  · exact Nat.lt_of_le_of_lt (replay.between ordered member).2 replay.inside
  · have state : exec step start (earlier ++ first :: (front ++ pre)) =
        exec step (exec step (exec step start (earlier ++ [first])) front) pre := by
      rw [← exec_append, ← exec_append]
      simp
    rw [state]
    obtain ⟨accepts, forgets⟩ := step_of_not_roomy crowded
    cases pre with
    | nil =>
      obtain ⟨rfl, -⟩ := List.cons_eq_cons.mp split
      exact accepts
    | cons =>
      obtain ⟨rfl, -⟩ := List.cons_eq_cons.mp split
      apply accepts_of_find_eq_none
      rw [same]
      apply find_exec_eq_none (forgets first.key (others emptying List.mem_cons_self))
      exact fun other known => others other (List.mem_cons_of_mem emptying known)

end Ordered

end Replay

end Replays

/-- **Which replays are refused.**  Of calls whose times do not decrease, every request that was let
through is refused at every later call within the window, if and only if no such call comes with or
after a call that finds the buffer full of requests that must still be refused.  The buffer never
holds more entries than its limit, or one where the limit is zero. -/
theorem replays_rejected_iff (window maxEntries : Nat) (calls : List Call)
    (ordered : calls.Pairwise fun a b => a.now ≤ b.now) :
    ((∀ earlier first middle again later,
        Replay (new window maxEntries) calls earlier middle later first again →
          (exec step (new window maxEntries) (earlier ++ first :: middle)).accepts again = false) ↔
      ∀ earlier first middle again later,
        Replay (new window maxEntries) calls earlier middle later first again →
          Guarded step Roomy (exec step (new window maxEntries) (earlier ++ [first]))
            (middle ++ [again])) ∧
      Throughout step (fun buffer => buffer.entries.rows.length ≤ max 1 maxEntries)
        (new window maxEntries) calls := by
  refine ⟨⟨?_, ?_⟩, ?_⟩
  · intro rejected earlier first middle again later replay
    by_contra crowded
    obtain ⟨middle, again, later, other, accepted⟩ := replay.exists_accepted ordered crowded
    rw [rejected earlier first middle again later other] at accepted
    cases accepted
  · intro roomy earlier first middle again later replay
    exact replay.rejected ordered (roomy earlier first middle again later replay)
  · have sized : ∀ buffer call, buffer.maxEntries = maxEntries ∧
        buffer.entries.rows.length ≤ max 1 maxEntries → True →
          (step buffer call).maxEntries = maxEntries ∧
            (step buffer call).entries.rows.length ≤ max 1 maxEntries := by
      rintro buffer call ⟨rfl, -⟩ -
      exact ⟨step_maxEntries, length_step⟩
    exact Guarded.throughout sized (fun _ held => held.2) ⟨rfl, by simp [new]⟩
      (Guarded.of_always (fun _ _ => trivial) _ calls)

open scoped Theory.NetAddr in
/-- A `GET` of one client. -/
def get (path : String) (now : Nat) : Call := ⟨.v4 ⟨192, 168, 1, 10⟩, "GET".toList, path.toList, now⟩

/-- A request that is sent twice, with room for another one. -/
def sentTwice : List Call := [get "/a" 0, get "/b" 1, get "/a" 2]

theorem sent_twice_rejected :
    sentTwice.Pairwise (fun a b => a.now ≤ b.now) ∧
      Replay (new 60 3) sentTwice [] [get "/b" 1] [] (get "/a" 0) (get "/a" 2) ∧
        (exec step (new 60 3) [get "/a" 0, get "/b" 1]).accepts (get "/a" 2) = false ∧
          Throughout step (fun buffer => buffer.entries.rows.length ≤ max 1 3) (new 60 3) sentTwice := by
  refine ⟨?ordered, ⟨rfl, by decide, ⟨rfl, by decide, rfl⟩, by decide⟩, by decide,
    (replays_rejected_iff 60 3 sentTwice ?ordered).2⟩
  decide

/-- A request that is sent again after two others, where the buffer holds two entries. -/
def sentAfterOthers : List Call := [get "/a" 0, get "/b" 1, get "/c" 2, get "/a" 3]

/-- **A full buffer forgets.**  The third request empties the buffer, and the first one is let
through again three nanoseconds after it was. -/
theorem full_buffer_forgets :
    Replay (new 60 2) sentAfterOthers [] [get "/b" 1, get "/c" 2] [] (get "/a" 0) (get "/a" 3) ∧
      (exec step (new 60 2) [get "/a" 0, get "/b" 1, get "/c" 2]).accepts (get "/a" 3) = true := by
  refine ⟨⟨rfl, by decide, ⟨rfl, by decide, rfl⟩, by decide⟩, by decide⟩

end R3v3rs3.Api.EarlyData
