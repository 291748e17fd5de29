/-
# R3v3rs3.Platform.Publish -- what the server knows of the proxies of the apps

`publish` reads the proxies of the running apps and sends a snapshot of them to the server when
they are not the ones that `sent` holds.  It holds the lock of `sent` from the read to the end of
the send, so one call at a time is under way.  A call whose client goes away is dropped while it
reads or while it waits for room in the channel of the server; a send into a closed channel ends
the same way.

`sent` is written before the send.  A call that is dropped in between leaves proxies in `sent` that
the server does not know, and no later call sends them (`server_learns_iff`).
-/
import R3v3rs3.Theory.Run

namespace R3v3rs3.Platform.Publish
open Theory.Run
set_option autoImplicit false

variable {Published : Type} [DecidableEq Published]

inductive Snapshot (Published : Type) where
  | proxies (current : Published)
  | error (message : String)

/-- Where the call is that holds the lock of `sent`. -/
inductive Call (Published : Type) where
  | reading
  | sending (snapshot : Snapshot Published)

structure State (Published : Type) where
  sent : Option Published
  call : Option (Call Published)
  /-- The snapshot that the server took last. -/
  latest : Option (Snapshot Published)

def initial : State Published := ⟨none, none, none⟩

inductive Event (Published : Type) where
  | lock
  | read (current : Except String Published)
  | send
  /-- The call is dropped where it waits. -/
  | drop

def step (s : State Published) (event : Event Published) : State Published :=
  match event, s.call with
  | .lock, none => { s with call := some .reading }
  | .read (.ok current), some .reading =>
    if s.sent = some current then { s with call := none }
    else { s with sent := some current, call := some (.sending (.proxies current)) }
  | .read (.error message), some .reading =>
    -- the next successful read is sent even when it did not change
    { s with sent := none, call := some (.sending (.error message)) }
  | .send, some (.sending snapshot) => { s with call := none, latest := some snapshot }
  | .drop, some _ => { s with call := none }
  | _, _ => s

/-- One turn of `refresh` that reads these proxies. -/
def refresh (current : Published) : List (Event Published) := [.lock, .read (.ok current), .send]

/-- But for a send under way, the server was told last what `sent` holds; and after a turn of
`refresh` it was told last what this turn read. -/
structure Learns (s : State Published) : Prop where
  kept : (∀ snapshot, s.call ≠ some (.sending snapshot)) →
    ∀ current, s.sent = some current → s.latest = some (.proxies current)
  refreshed : s.call = none → ∀ current,
    (exec step s (refresh current)).latest = some (.proxies current)

/-- A call that is dropped while it sends proxies sends what the server was told last. -/
def Redundant (s : State Published) : Event Published → Prop
  | .drop => ∀ current, s.call = some (.sending (.proxies current)) →
      s.latest = some (.proxies current)
  | _ => True

/-- What is sent is in `sent`. -/
def Noted (s : State Published) : Prop :=
  ∀ snapshot, s.call = some (.sending snapshot) → match snapshot with
    | .proxies current => s.sent = some current
    | .error _ => s.sent = none

theorem noted_step (s : State Published) (event : Event Published) (noted : Noted s) :
    Noted (step s event) := by
  unfold step
  split
  · nofun
  · split
    · nofun
    · rintro _ ⟨⟩
      rfl
  · rintro _ ⟨⟩
    rfl
  · nofun
  · nofun
  · exact noted

theorem learns_iff {s : State Published} :
    Learns s ↔ ((∀ snapshot, s.call ≠ some (.sending snapshot)) →
      ∀ current, s.sent = some current → s.latest = some (.proxies current)) := by
  refine ⟨Learns.kept, fun kept => ⟨kept, fun free current => ?_⟩⟩
  simp only [refresh, exec_cons, exec_nil, step, free]
  by_cases same : s.sent = some current
  · simpa [same] using kept (by simp [free]) current same
  · simp [same]

/-- **The server learns every change in exactly the runs in which a call is dropped while it sends
proxies only where the server was told these proxies last.** -/
theorem server_learns_iff (events : List (Event Published)) :
    Throughout step Learns initial events ↔ Guarded step Redundant initial events := by
  refine throughout_iff_guarded noted_step (fun s event noted learns => ?_)
    (fun _ => nofun) (learns_iff.mpr fun _ => nofun)
  rw [learns_iff] at learns ⊢
  unfold step
  split
  · rename_i free
    exact iff_of_true (fun _ => learns (by simp [free])) trivial
  · rename_i reads
    split
    · exact iff_of_true (fun _ => learns (by simp [reads])) trivial
    · exact iff_of_true (fun idle => absurd rfl (idle _)) trivial
  · exact iff_of_true (fun idle => absurd rfl (idle _)) trivial
  · rename_i snapshot sends
    have told := noted snapshot sends
    refine iff_of_true (fun _ current known => ?_) trivial
    cases snapshot <;> simp_all
  · rename_i call held
    simp only [Redundant, held]
    cases call with
    | reading => exact iff_of_true (fun _ => learns (by simp [held])) nofun
    | sending snapshot =>
      have told := noted snapshot held
      cases snapshot <;> simp_all
  · refine iff_of_true learns ?_
    unfold Redundant
    split <;> simp_all

/-- A client that changes a target goes away while the channel is full: the server keeps the old
proxies, and every later call finds them sent. -/
theorem change_lost :
    let changed : List (Event Nat) := refresh 0 ++ [.lock, .read (.ok 1), .drop]
    ¬ Throughout step Learns initial changed ∧
      ∀ n, (exec step initial (changed ++ (List.replicate n (refresh 1)).flatten)).latest =
        some (.proxies 0) := by
  intro changed
  have stays (n : Nat) : exec step (exec step initial changed)
      (List.replicate n (refresh 1)).flatten = exec step initial changed := by
    induction n with
    | zero => rfl
    | succ n ih =>
      rw [List.replicate_succ, List.flatten_cons, exec_append]
      exact ih
  refine ⟨fun learns => ?_, fun n => ?_⟩
  · cases learns.last.kept nofun 1 rfl
  · rw [exec_append, stays]
    rfl

end R3v3rs3.Platform.Publish
