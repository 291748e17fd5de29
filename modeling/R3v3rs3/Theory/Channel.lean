/-
# R3v3rs3.Theory.Channel -- bounded channels

A bounded multi-producer single-consumer channel.  A send to a channel whose receiver is gone
fails at once, a send to a full channel waits, and a receiver whose senders are gone gets the
buffered messages first and then the end of the channel.
-/
import Mathlib.Data.List.Basic

namespace R3v3rs3.Theory
set_option autoImplicit false

structure Channel (α : Type*) where
  capacity : Nat
  buffer : List α
  within : buffer.length ≤ capacity
  receiver : Bool
  sender : Bool

namespace Channel

variable {α : Type*}

/-- A new channel, both ends alive. -/
def new (capacity : Nat) : Channel α := ⟨capacity, [], Nat.zero_le _, true, true⟩

def dropReceiver (channel : Channel α) : Channel α :=
  { channel with receiver := false, buffer := [], within := Nat.zero_le _ }

def dropSender (channel : Channel α) : Channel α := { channel with sender := false }

@[simp] theorem new_buffer (capacity : Nat) : (new capacity : Channel α).buffer = [] := rfl

inductive Sent (α : Type*) where
  /-- The receiver is gone. -/
  | closed
  /-- No room; the sender waits. -/
  | full
  | sent (channel : Channel α)

def send (channel : Channel α) (message : α) : Sent α :=
  if channel.receiver = false then .closed
  else if room : channel.buffer.length < channel.capacity then
    .sent { channel with
      buffer := channel.buffer ++ [message]
      within := by
        rw [List.length_append]
        exact room }
  else .full

inductive Received (α : Type*) where
  /-- Nothing is buffered and a sender is alive; the receiver waits. -/
  | pending
  /-- Nothing is buffered and every sender is gone. -/
  | ended
  | got (message : α) (channel : Channel α)

def recv (channel : Channel α) : Received α :=
  match known : channel.buffer with
  | [] => if channel.sender then .pending else .ended
  | message :: rest => .got message { channel with
      buffer := rest
      within := by
        have := channel.within
        rw [known, List.length_cons] at this
        omega }

theorem send_eq_sent {channel next : Channel α} {message : α}
    (sent : channel.send message = .sent next) :
    next.buffer = channel.buffer ++ [message] ∧ next.sender = channel.sender := by
  unfold send at sent
  split at sent
  · cases sent
  · split at sent
    · cases sent
      exact ⟨rfl, rfl⟩
    · cases sent

theorem recv_eq_got {channel next : Channel α} {message : α}
    (got : channel.recv = .got message next) :
    channel.buffer = message :: next.buffer ∧ next.sender = channel.sender := by
  unfold recv at got
  split at got
  · split at got <;> cases got
  · rename_i known
    cases got
    exact ⟨known, rfl⟩

theorem recv_eq_ended {channel : Channel α} :
    channel.recv = .ended ↔ channel.buffer = [] ∧ channel.sender = false := by
  unfold recv
  split <;> simp_all

end Channel

end R3v3rs3.Theory
