/-
# R3v3rs3.Agent.Registry -- agent targets and the sessions of their agents

The rows of `targets` with the statements that the enrollment, the agent port and the deletion of
a target run on them, and the map from a target to the session of its agent.  The registry tells
sessions of one target apart by a generation; a session that leaves the map has its connection
aborted.  `Session.certificate` is the fingerprint that the session was authenticated with: the map
of the source does not keep it, and no function here looks at it.
-/
import R3v3rs3.Api.Error
import R3v3rs3.Theory.Table

namespace R3v3rs3.Agent
open Api Theory Table
set_option autoImplicit false

/-! ## Targets -/

inductive TargetKind where
  | localTarget
  | agentTarget
  deriving DecidableEq

structure Target where
  id : ShortId
  name : String
  kind : TargetKind
  tokenHash : Option String
  certFingerprint : Option String
  lastSeenAt : Option Nat
  createdAt : Nat

abbrev Targets := Table Target.id

namespace Targets

variable (targets : Targets) {id : ShortId} {next : Targets} {tokenHash : String}

/-- The stored fingerprint of a target. -/
def fingerprintOf (id : ShortId) : Option String := (targets.find id).bind Target.certFingerprint

/-- `UPDATE targets SET … WHERE id = ?`. -/
def update (row : Target) : Targets :=
  targets.mapRows (fun old => if old.id = row.id then row else old) fun old => by
    split
    · rename_i same
      exact same.symm
    · rfl

/-- Refused when the id or the name is taken. -/
def addAgentTarget (id : ShortId) (name tokenHash : String) (now : Nat) : Option Targets :=
  if targets.rows.any fun row => row.name = name then none
  else targets.insert ⟨id, name, .agentTarget, some tokenHash, none, none, now⟩

def setTargetToken (id : ShortId) (tokenHash : String) : Option Targets :=
  match targets.find id with
  | some row =>
    if row.kind = .agentTarget then
      some (update targets { row with tokenHash := some tokenHash })
    else none
  | none => none

def targetByToken (tokenHash : String) : Option ShortId :=
  (targets.rows.find? fun row => row.tokenHash = some tokenHash ∧ row.kind = .agentTarget).map
    Target.id

/-- The token is cleared with the same statement, so it enrolls only once. -/
def enrollTarget (id : ShortId) (tokenHash fingerprint : String) : Option Targets :=
  match targets.find id with
  | some row =>
    if row.tokenHash = some tokenHash then
      some (update targets { row with certFingerprint := some fingerprint, tokenHash := none })
    else none
  | none => none

def targetByFingerprint (fingerprint : String) : Option ShortId :=
  (targets.rows.find? fun row =>
    row.certFingerprint = some fingerprint ∧ row.kind = .agentTarget).map Target.id

def targetSeen (id : ShortId) (now : Nat) : Targets :=
  match targets.find id with
  | some row => update targets { row with lastSeenAt := some now }
  | none => targets

def deleteTarget (id : ShortId) : Option Targets :=
  match targets.find id with
  | some row => if row.kind = .agentTarget then some (targets.erase id) else none
  | none => none

/-! ### What the statements do to the stored fingerprints -/

variable {targets}

theorem fingerprintOf_update_away {row : Target} (away : id ≠ row.id) :
    fingerprintOf (update targets row) id = fingerprintOf targets id := by
  rw [fingerprintOf, update, find_mapRows, fingerprintOf]
  cases found : targets.find id with
  | none => rfl
  | some old =>
    have different : old.id ≠ row.id := by rwa [(mem_of_find found).2]
    rw [Option.map_some, if_neg different]

/-- An update that keeps the fingerprint of the row it found keeps all of them. -/
theorem fingerprintOf_update_same {row next : Target} (found : targets.find row.id = some row)
    (kept : next.id = row.id) (same : next.certFingerprint = row.certFingerprint) (id : ShortId) :
    fingerprintOf (update targets next) id = fingerprintOf targets id := by
  by_cases here : id = row.id
  · subst here
    rw [fingerprintOf, update, find_mapRows, fingerprintOf, found, Option.map_some,
      if_pos kept.symm, Option.bind_some, Option.bind_some, same]
  · exact fingerprintOf_update_away (by rwa [kept])

theorem addAgentTarget_spec {name : String} {now : Nat}
    (added : addAgentTarget targets id name tokenHash now = some next) (other : ShortId)
    {fingerprint : String} (stored : fingerprintOf targets other = some fingerprint) :
    fingerprintOf next other = some fingerprint := by
  rw [addAgentTarget] at added
  split at added
  · cases added
  · obtain ⟨-, rows⟩ := insert_eq_some.mp added
    obtain ⟨row, found, value⟩ := Option.bind_eq_some_iff.mp stored
    obtain ⟨member, key⟩ := find_eq_some.mp found
    have here : next.find other = some row :=
      find_eq_some.mpr ⟨by rw [rows]; exact List.mem_append_left _ member, key⟩
    rw [fingerprintOf, here, Option.bind_some, value]

theorem setTargetToken_spec (set : setTargetToken targets id tokenHash = some next)
    (other : ShortId) : fingerprintOf next other = fingerprintOf targets other := by
  rw [setTargetToken] at set
  split at set
  · rename_i row found
    obtain rfl := (mem_of_find found).2
    split at set
    · cases set
      exact fingerprintOf_update_same found (by rfl) (by rfl) other
    · cases set
  · cases set

theorem targetSeen_spec (id : ShortId) (now : Nat) (other : ShortId) :
    fingerprintOf (targetSeen targets id now) other = fingerprintOf targets other := by
  rw [targetSeen]
  split
  · rename_i row found
    obtain rfl := (mem_of_find found).2
    exact fingerprintOf_update_same found (by rfl) (by rfl) other
  · rfl

/-- An enrollment replaces the fingerprint of its own target. -/
theorem enrollTarget_spec {fingerprint : String}
    (enrolled : enrollTarget targets id tokenHash fingerprint = some next) {other : ShortId}
    (away : other ≠ id) : fingerprintOf next other = fingerprintOf targets other := by
  rw [enrollTarget] at enrolled
  split at enrolled
  · rename_i row found
    obtain rfl := (mem_of_find found).2
    split at enrolled
    · cases enrolled
      exact fingerprintOf_update_away away
    · cases enrolled
  · cases enrolled

/-- An enrollment goes through with the token of the row. -/
theorem tokenHash_of_enrollTarget {fingerprint : String}
    (enrolled : enrollTarget targets id tokenHash fingerprint = some next) :
    (targets.find id).bind Target.tokenHash = some tokenHash := by
  rw [enrollTarget] at enrolled
  split at enrolled
  · rename_i row found
    split at enrolled
    · rename_i same
      rwa [found]
    · cases enrolled
  · cases enrolled

theorem deleteTarget_spec (deleted : deleteTarget targets id = some next) {other : ShortId}
    (away : other ≠ id) : fingerprintOf next other = fingerprintOf targets other := by
  rw [deleteTarget] at deleted
  split at deleted
  · split at deleted
    · cases deleted
      rw [fingerprintOf, find_erase, if_neg (Ne.symm away), fingerprintOf]
    · cases deleted
  · cases deleted

end Targets

/-! ## Sessions -/

structure Session where
  target : ShortId
  /-- The connection that the session runs over. -/
  link : Nat
  version : String
  lastSeenAt : Nat
  generation : Nat
  certificate : String

structure AgentRegistry where
  sessions : Table Session.target
  generations : Nat
  /-- The connections whose task was aborted. -/
  aborted : List Nat

namespace AgentRegistry

variable (registry : AgentRegistry) {session : Session} {target : ShortId}

def abort (link : Nat) : AgentRegistry := { registry with aborted := link :: registry.aborted }

/-- The first half of `insert`: the generation has a lock of its own. -/
def nextGeneration : AgentRegistry × Nat :=
  ({ registry with generations := registry.generations + 1 }, registry.generations + 1)

/-- The second half of `insert`, and whether a session was replaced. -/
def put (session : Session) : AgentRegistry × Bool :=
  let next := { registry with sessions := registry.sessions.upsert session }
  match registry.sessions.find session.target with
  | some previous => (next.abort previous.link, true)
  | none => (next, false)

/-- `record_ping` and `seen`: only in the session of the generation. -/
def recordPing (target : ShortId) (generation now : Nat) : AgentRegistry :=
  { registry with
    sessions := registry.sessions.mapRows
      (fun session =>
        if session.target = target ∧ session.generation = generation then
          { session with lastSeenAt := now }
        else session)
      (fun session => by split <;> rfl) }

/-- Whether the session of the generation was still the session of the target. -/
def remove (target : ShortId) (generation : Nat) : AgentRegistry × Bool :=
  match registry.sessions.find target with
  | some session =>
    if session.generation = generation then
      ({ registry with sessions := registry.sessions.erase target }.abort session.link, true)
    else (registry, false)
  | none => (registry, false)

def disconnect (target : ShortId) : AgentRegistry :=
  match registry.sessions.find target with
  | some session =>
    { registry with sessions := registry.sessions.erase target }.abort session.link
  | none => registry

/-! ### Whose sessions the map holds -/

variable {registry}

theorem mem_put {other : Session} :
    other ∈ (registry.put session).1.sessions.rows ↔
      (other ∈ registry.sessions.rows ∧ other.target ≠ session.target) ∨ other = session := by
  rw [put]
  split <;> exact mem_upsert

theorem mem_recordPing {generation now : Nat}
    (member : session ∈ (registry.recordPing target generation now).sessions.rows) :
    ∃ old ∈ registry.sessions.rows,
      old.target = session.target ∧ old.certificate = session.certificate := by
  obtain ⟨old, known, rfl⟩ := List.mem_map.mp member
  refine ⟨old, known, ?_⟩
  split <;> exact ⟨rfl, rfl⟩

theorem mem_remove {generation : Nat}
    (member : session ∈ (registry.remove target generation).1.sessions.rows) :
    session ∈ registry.sessions.rows := by
  rw [remove] at member
  split at member
  · split at member
    · exact (mem_erase.mp member).1
    · exact member
  · exact member

/-- After `disconnect` no session of the target is left, and the others are still there. -/
theorem mem_disconnect :
    session ∈ (registry.disconnect target).sessions.rows ↔
      session ∈ registry.sessions.rows ∧ session.target ≠ target := by
  rw [disconnect]
  split
  · exact mem_erase
  · rename_i absent
    refine ⟨fun member => ⟨member, ?_⟩, And.left⟩
    exact key_ne (find_eq_none.mp absent) member

end AgentRegistry

end R3v3rs3.Agent
