/-
# R3v3rs3.Proxy.ConnectionTracker -- the tracker of live streams

`register` files an entry for a new stream in an ordered map under `ShortId::new()` and returns
a guard; dropping the guard removes the entry under the guard's id.  The byte counters and the
termination signal of a stream are shared cells; here a stream is the number of the `register`
call that made them, and the tracker keeps the contents of all cells.

`Exact` is what the tracker is for: the list shows the streams with a live guard, termination
reaches the stream listed under the id, a drop removes the entry of its own stream.  Since every
id is the same, the map never holds two entries (`rows_length_le_one`), and a run is exact
throughout if and only if it registers a stream only while no guard is alive.
-/
import Mathlib.Algebra.Group.Nat.Defs
import R3v3rs3.Api.Error
import R3v3rs3.Theory.Run
import R3v3rs3.Theory.Table

namespace R3v3rs3.Proxy.ConnectionTracker
open Api
open Theory
open Theory.Run
set_option autoImplicit false

inductive ConnectionProtocol where
  | webSocket
  | tcp
  | sse
  | httpUpgrade
  deriving DecidableEq

/-- A `register` call, by its number; it stands for the cells the call made. -/
abbrev Stream := Nat

structure ConnectionEntry where
  id : ShortId
  clientAddr : String
  proxyId : Option ShortId
  proxyName : String
  protocol : ConnectionProtocol
  upstreamAddr : String
  startedAt : Nat
  startedInstant : Nat
  /-- `bytes_sent`, `bytes_received` and `terminate_tx`. -/
  stream : Stream
  deriving DecidableEq

structure ActiveConnectionInfo where
  id : ShortId
  clientAddr : String
  proxyId : Option ShortId
  proxyName : String
  protocol : ConnectionProtocol
  upstreamAddr : String
  startedAt : Nat
  uptimeSecs : Nat
  bytesSent : Nat
  bytesReceived : Nat
  currentRateBps : Nat

structure Tracker where
  connections : Table ConnectionEntry.id
  /-- The guards that are alive, each as the entry its `register` call made. -/
  guards : List ConnectionEntry
  registered : Nat
  bytesSent : Stream → Nat
  bytesReceived : Stream → Nat
  terminated : Stream → Bool

def initial : Tracker where
  connections := Table.empty
  guards := []
  registered := 0
  bytesSent := fun _ => 0
  bytesReceived := fun _ => 0
  terminated := fun _ => false

/-- The arguments of `register`, with the two clocks it reads. -/
structure Registration where
  proxyId : Option ShortId
  proxyName : String
  protocol : ConnectionProtocol
  clientAddr : String
  upstreamAddr : String
  nowUtc : Nat
  instant : Nat

/-- The entry that the next `register` call files. -/
def newEntry (tracker : Tracker) (request : Registration) : ConnectionEntry where
  id := ShortId.new
  clientAddr := request.clientAddr
  proxyId := request.proxyId
  proxyName := request.proxyName
  protocol := request.protocol
  upstreamAddr := request.upstreamAddr
  startedAt := request.nowUtc
  startedInstant := request.instant
  stream := tracker.registered

def register (tracker : Tracker) (request : Registration) : Tracker :=
  let entry := newEntry tracker request
  { tracker with
    connections := tracker.connections.upsert entry
    guards := tracker.guards ++ [entry]
    registered := tracker.registered + 1
    bytesSent := Function.update tracker.bytesSent entry.stream 0
    bytesReceived := Function.update tracker.bytesReceived entry.stream 0
    terminated := Function.update tracker.terminated entry.stream false }

def unregister (tracker : Tracker) (id : ShortId) : Tracker :=
  { tracker with connections := tracker.connections.erase id }

/-- `Drop for StreamGuard`. -/
def dropGuard (tracker : Tracker) (guard : ConnectionEntry) : Tracker :=
  unregister { tracker with guards := tracker.guards.erase guard } guard.id

def maxU64 : Nat := 2 ^ 64 - 1

def entryToInfo (tracker : Tracker) (instant : Nat) (entry : ConnectionEntry) :
    ActiveConnectionInfo :=
  let uptimeSecs := instant - entry.startedInstant
  let sent := tracker.bytesSent entry.stream
  let received := tracker.bytesReceived entry.stream
  let totalBytes := min (sent + received) maxU64
  { id := entry.id
    clientAddr := entry.clientAddr
    proxyId := entry.proxyId
    proxyName := entry.proxyName
    protocol := entry.protocol
    upstreamAddr := entry.upstreamAddr
    startedAt := entry.startedAt
    uptimeSecs := uptimeSecs
    bytesSent := sent
    bytesReceived := received
    currentRateBps := if uptimeSecs = 0 then totalBytes else totalBytes / uptimeSecs }

def list (tracker : Tracker) (filterProxyId : Option ShortId) (instant : Nat) :
    List ActiveConnectionInfo :=
  (tracker.connections.rows.filter
    (fun entry => filterProxyId.isNone || entry.proxyId == filterProxyId)).map
    (entryToInfo tracker instant)

def terminate (tracker : Tracker) (id : ShortId) : Tracker × Except Error Unit :=
  match tracker.connections.find id with
  | some entry =>
    ({ tracker with terminated := Function.update tracker.terminated entry.stream true }, .ok ())
  | none => (tracker, .error (.connectionNotFound id))

/-! ## Runs -/

inductive Event where
  | register (request : Registration)
  /-- The guard of a stream goes out of scope. -/
  | drop (stream : Stream)
  | terminate (id : ShortId)
  /-- A stream counts bytes of its own. -/
  | transfer (stream : Stream) (sent received : Nat)

def step (tracker : Tracker) : Event → Tracker
  | .register request => register tracker request
  | .drop stream =>
    match tracker.guards.find? (fun guard => guard.stream = stream) with
    | some guard => dropGuard tracker guard
    | none => tracker
  | .terminate id => (terminate tracker id).1
  | .transfer stream sent received =>
    { tracker with
      bytesSent := Function.update tracker.bytesSent stream
        ((tracker.bytesSent stream + sent) % 2 ^ 64)
      bytesReceived := Function.update tracker.bytesReceived stream
        ((tracker.bytesReceived stream + received) % 2 ^ 64) }

/-- What the tracker promises in a state. -/
structure Exact (tracker : Tracker) : Prop where
  /-- The list without a filter shows the live streams, each once and with its own counters. -/
  listed : ∀ instant, (list tracker none instant).Perm
    (tracker.guards.map (entryToInfo tracker instant))
  /-- `terminate` signals the live stream with the id, and no other. -/
  signals : ∀ guard ∈ tracker.guards, (terminate tracker guard.id).2 = .ok () ∧
    (terminate tracker guard.id).1.terminated =
      Function.update tracker.terminated guard.stream true
  /-- An id that no live stream has is not found. -/
  missing : ∀ id, (∀ guard ∈ tracker.guards, guard.id ≠ id) →
    terminate tracker id = (tracker, .error (.connectionNotFound id))
  /-- A dropped guard takes the entry of its own stream with it, and no other. -/
  drops : ∀ guard ∈ tracker.guards, (dropGuard tracker guard).connections.rows =
    tracker.connections.rows.filter (fun entry => entry.stream ≠ guard.stream)

/-! ## One id for every stream -/

/-- Every filed entry has the one id that `register` gives. -/
def OneId (tracker : Tracker) : Prop := ∀ entry ∈ tracker.connections.rows, entry.id = ShortId.new

variable {tracker : Tracker}

theorem oneId_step (oneId : OneId tracker) (event : Event) : OneId (step tracker event) := by
  intro entry member
  cases event with
  | register =>
    rcases Table.mem_upsert.mp member with ⟨old, -⟩ | rfl
    · exact oneId entry old
    · rfl
  | drop =>
    simp only [step] at member
    split at member
    · exact oneId entry (Table.mem_erase.mp member).1
    · exact oneId entry member
  | terminate =>
    simp only [step, terminate] at member
    split at member <;> exact oneId entry member
  | transfer => exact oneId entry member

theorem rows_length_le_one (oneId : OneId tracker) : tracker.connections.rows.length ≤ 1 :=
  (nodup_map_constant_iff oneId).mp tracker.connections.keys_nodup

theorem Exact.guards_length (exact : Exact tracker) :
    tracker.guards.length = tracker.connections.rows.length := by
  have sizes := (exact.listed 0).length_eq
  simpa [list] using sizes.symm

/-! ## At most one stream -/

/-- The states of runs that never let two streams overlap: the map holds the live stream, if
there is one, and nothing else. -/
structure Single (tracker : Tracker) : Prop where
  oneId : OneId tracker
  filed : tracker.connections.rows = tracker.guards

theorem Single.guards_eq (single : Single tracker) {guard : ConnectionEntry}
    (member : guard ∈ tracker.guards) : tracker.guards = [guard] := by
  have short := rows_length_le_one single.oneId
  rw [single.filed] at short
  match known : tracker.guards with
  | [] => simp [known] at member
  | [only] =>
    rw [known, List.mem_singleton] at member
    rw [member]
  | first :: second :: rest => simp [known] at short

/-- A new stream starts only while no guard is alive. -/
def Alone (tracker : Tracker) : Event → Prop
  | .register _ => tracker.guards = []
  | _ => True

instance (tracker : Tracker) (event : Event) : Decidable (Alone tracker event) := by
  cases event <;> simp only [Alone] <;> infer_instance

theorem single_step (tracker : Tracker) (event : Event) (single : Single tracker)
    (alone : Alone tracker event) : Single (step tracker event) := by
  refine ⟨oneId_step single.oneId event, ?_⟩
  have filed := single.filed
  cases event with
  | register =>
    have none : tracker.guards = [] := alone
    simp [step, register, filed, none]
  | drop =>
    simp only [step]
    split
    · rename_i guard found
      have one := single.guards_eq (List.mem_of_find?_eq_some found)
      simp [dropGuard, unregister, filed, one]
    · exact filed
  | terminate =>
    simp only [step, terminate]
    split <;> exact filed
  | transfer => exact filed

theorem Single.exact (single : Single tracker) : Exact tracker := by
  have filed := single.filed
  refine ⟨?_, ?_, ?_, ?_⟩
  · intro instant
    simp [list, filed]
  · intro guard member
    have found : tracker.connections.find guard.id = some guard :=
      Table.find_eq_some.mpr ⟨filed ▸ member, rfl⟩
    simp [terminate, found]
  · intro id absent
    have missing : tracker.connections.find id = none := by
      rw [Table.find_eq_none, Table.keys, filed]
      simpa using absent
    simp [terminate, missing]
  · intro guard member
    have one := single.guards_eq member
    simp [dropGuard, unregister, filed, one]

theorem initial_single : Single initial := ⟨by simp [OneId, initial], rfl⟩

/-! ## Exactness of whole runs -/

/-- A stream registered beside a live one is one guard too many for the map. -/
theorem alone_of_exact {event : Event} (oneId : OneId tracker) (next : Exact (step tracker event)) :
    Alone tracker event := by
  cases event with
  | register request =>
    have count := next.guards_length
    have short := rows_length_le_one (oneId_step oneId (.register request))
    simp only [step, register, List.length_append, List.length_singleton] at count short
    exact List.length_eq_zero_iff.mp (by omega)
  | _ => trivial

/-- **The tracker is exact in every state of a run if and only if the run never registers a
stream while another one is alive.** -/
theorem exact_throughout_iff (events : List Event) :
    Throughout step Exact initial events ↔ Guarded step Alone initial events :=
  throughout_iff_guarded_while (fun tracker event single _ => single_step tracker event single)
    (fun _ single => single.exact) (fun _ _ single _ => alone_of_exact single.oneId) initial_single
    (.of_always (fun _ _ => trivial) initial events)

/-- Two overlapping streams: the list shows one of them. -/
def overlapping : List Event :=
  [.register ⟨none, "web", .webSocket, "203.0.113.5:4000", "10.0.0.1:8080", 0, 0⟩,
    .register ⟨none, "tcp", .tcp, "203.0.113.6:4001", "10.0.0.2:5432", 1, 1⟩]

theorem overlapping_not_exact : ¬ Throughout step Exact initial overlapping := by
  intro all
  have count := all.2.2.guards_length
  revert count
  decide

end R3v3rs3.Proxy.ConnectionTracker
