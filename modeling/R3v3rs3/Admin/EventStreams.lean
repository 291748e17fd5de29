/-
# R3v3rs3.Admin.EventStreams -- who turns the broadcast of events on and off

The first event stream to be opened turns the broadcast on, the last one to be dropped turns it
off.  Each time a task of its own is spawned to send `SetBroadcastEvents`, and the tasks deliver
their commands in any order.

The command that was spawned last always says whether a stream is open, so the broadcast is right
exactly when the last command of those under way agrees with it (`broadcast_follows_iff`).  A
stream that is opened and dropped at once can leave the broadcast on (`toggles_swapped`).
-/
import R3v3rs3.Theory.Run

namespace R3v3rs3.Admin.EventStreams
open Theory.Run
set_option autoImplicit false

structure State where
  eventListenerCounter : Nat
  /-- The commands that were decided on and are not delivered. -/
  spawned : List Bool
  /-- The command that was decided on last. -/
  newest : Bool
  /-- What the server was told last. -/
  broadcastEvents : Bool

def initial : State := ⟨0, [], false, false⟩

inductive Event where
  | new
  | drop
  /-- The task at this place delivers its command. -/
  | deliver (place : Nat)

def sendBroadcastToggle (s : State) (enabled : Bool) : State :=
  { s with spawned := s.spawned ++ [enabled], newest := enabled }

/-- The change of the counter decides on the command, and its task is spawned after that.  Nothing
can tell a command that is spawned late from one that is spawned at once and delivered late, for
the commands are delivered in any order; so the two are one step. -/
def step (s : State) : Event → State
  | .new =>
    let next := { s with eventListenerCounter := s.eventListenerCounter + 1 }
    if s.eventListenerCounter = 0 then sendBroadcastToggle next true else next
  | .drop =>
    -- only an open stream can be dropped
    if s.eventListenerCounter = 0 then s
    else
      let next := { s with eventListenerCounter := s.eventListenerCounter - 1 }
      if s.eventListenerCounter = 1 then sendBroadcastToggle next false else next
  | .deliver place =>
    match s.spawned[place]? with
    | none => s
    | some enabled =>
      { s with spawned := s.spawned.eraseIdx place, broadcastEvents := enabled }

/-- When every command is delivered, the server broadcasts if and only if a stream is open. -/
def Follows (s : State) : Prop :=
  s.spawned = [] → (s.broadcastEvents = true ↔ 0 < s.eventListenerCounter)

/-- The last command under way is what was spawned last. -/
def InOrder (s : State) : Event → Prop
  | .deliver place => s.spawned.length = 1 → ∀ enabled ∈ s.spawned[place]?, enabled = s.newest
  | _ => True

def Newest (s : State) : Prop := s.newest = true ↔ 0 < s.eventListenerCounter

theorem newest_step (s : State) (event : Event) (newest : Newest s) : Newest (step s event) := by
  unfold Newest at *
  cases event <;> simp only [step, sendBroadcastToggle] <;> grind

/-- **The broadcast follows the streams in exactly the runs in which the last command under way
says what the command spawned last says.** -/
theorem broadcast_follows_iff (events : List Event) :
    Throughout step Follows initial events ↔ Guarded step InOrder initial events := by
  refine throughout_iff_guarded newest_step (fun s event newest follows => ?_)
    (by simp [Newest, initial]) (by simp [Follows, initial])
  unfold Newest Follows at *
  cases event with
  | new | drop =>
    refine iff_of_true ?_ trivial
    simp only [step, sendBroadcastToggle]
    repeat' split
    all_goals grind [List.append_eq_nil_iff]
  | deliver place =>
    simp only [step, InOrder]
    cases found : s.spawned[place]? with
    | none => exact iff_of_true follows nofun
    | some =>
      have there : place < s.spawned.length := (List.getElem?_eq_some_iff.mp found).1
      have last : s.spawned.eraseIdx place = [] ↔ s.spawned.length = 1 := by
        rw [← List.length_eq_zero_iff, List.length_eraseIdx_of_lt there]
        omega
      rw [last, ← newest]
      refine imp_congr_right fun _ => ?_
      simp only [Option.mem_some, forall_eq']
      exact Bool.eq_iff_iff.symm

/-- A stream is opened and dropped, and the second command arrives before the first. -/
theorem toggles_swapped :
    exec step initial [.new, .drop, .deliver 1, .deliver 0] = ⟨0, [], false, true⟩ ∧
      ¬ Throughout step Follows initial [.new, .drop, .deliver 1, .deliver 0] := by
  refine ⟨rfl, fun follows => ?_⟩
  exact Nat.lt_irrefl 0 ((follows.last rfl).mp rfl)

end R3v3rs3.Admin.EventStreams
