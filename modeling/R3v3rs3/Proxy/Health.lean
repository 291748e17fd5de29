/-
# R3v3rs3.Proxy.Health -- who frees the trial slot of a half-open circuit

Each upstream server has a circuit breaker.  An open circuit that has waited lets one trial
request through and blocks the others while it runs; the permit of the trial frees the slot, by
its report or by being dropped.  The permit holds the group it was taken from.

A reload that changes the group of a key builds a new group, and the new group starts with copies
of the breakers of the servers it has in common with the old one.  A copied breaker whose trial
runs has no permit of its own: the permit of the trial belongs to the old group.

`trials_are_freeable_iff` says exactly when that matters: every running trial of a registered
group has a permit that frees it, in all states of a run, if and only if no reload of the run
copies a breaker whose trial runs.
-/
import R3v3rs3.Api.Error
import R3v3rs3.Theory.Run
import R3v3rs3.Theory.Table

namespace R3v3rs3.Proxy.Health
open Api Theory Table
open Theory.Run (exec Guarded Throughout)
set_option autoImplicit false

/-! ## Settings -/

structure GroupServer where
  addr : String
  weight : Nat
  region : Option String
  countries : List String
  deriving DecidableEq

inductive LoadBalancing where
  | roundRobin
  | leastConn
  | random
  | first
  | clientIpHash
  | geoProximity
  | latency
  deriving DecidableEq

/-- Durations are milliseconds. -/
structure HealthCheck where
  maxFails : Nat
  failTimeout : Nat
  interval : Nat
  timeout : Nat
  path : String
  grpcService : Option String
  deriving DecidableEq

structure CircuitBreaker where
  enabled : Bool
  failureRatio : Nat
  minRequests : Nat
  window : Nat
  openDuration : Nat
  deriving DecidableEq

/-- One more in a `u32` that does not overflow. -/
def saturatingSucc (n : Nat) : Nat := min (n + 1) 4294967295

/-! ## The breaker of one server -/

inductive Circuit where
  | closed
  /-- No traffic goes to the server until the time. -/
  | opened (deadline : Nat)
  /-- One trial request tests the server; `trial` while it runs. -/
  | halfOpen (trial : Bool)
  deriving DecidableEq

inductive CircuitState where
  | closed
  | opened
  | halfOpen
  deriving DecidableEq

/-- The circuit, and the requests of the window of a closed circuit. -/
structure Breaker where
  circuit : Circuit := .closed
  windowStart : Option Nat := none
  requests : Nat := 0
  failures : Nat := 0
  deriving DecidableEq

variable {now id : Nat}

namespace Breaker

def blocks (breaker : Breaker) (now : Nat) : Bool :=
  match breaker.circuit with
  | .closed | .halfOpen false => false
  | .opened deadline => now < deadline
  | .halfOpen true => true

/-- `admit`, which lets a request through: `none` when the circuit blocks it, `some true` for a trial. -/
def letThrough (breaker : Breaker) (now : Nat) : Breaker × Option Bool :=
  if breaker.blocks now then (breaker, none)
  else if breaker.circuit = .closed then (breaker, some false)
  else ({ breaker with circuit := .halfOpen true }, some true)

def openFrom (config : CircuitBreaker) (now : Nat) : Breaker :=
  { circuit := .opened (now + config.openDuration) }

def finishTrial (breaker : Breaker) (config : CircuitBreaker) (failed : Bool) (now : Nat) :
    Breaker × Option CircuitState :=
  match breaker.circuit with
  | .halfOpen _ => if failed then (openFrom config now, some .opened) else ({}, some .closed)
  | .closed | .opened _ => (breaker, none)

def count (breaker : Breaker) (window : Nat) (failed : Bool) (now : Nat) : Breaker :=
  let breaker :=
    if breaker.windowStart.all fun start => window ≤ now - start then
      { breaker with windowStart := some now, requests := 0, failures := 0 }
    else breaker
  { breaker with
    requests := saturatingSucc breaker.requests
    failures := if failed then saturatingSucc breaker.failures else breaker.failures }

/-- Records the result of a request, with the new state when the circuit changes. -/
def record (breaker : Breaker) (config : CircuitBreaker) (trial failed : Bool) (now : Nat) :
    Breaker × Option CircuitState :=
  if trial then breaker.finishTrial config failed now
  -- a request that started before the circuit opened does not count
  else if breaker.circuit ≠ .closed then (breaker, none)
  else
    let breaker := breaker.count config.window failed now
    if breaker.requests < config.minRequests ∨
        breaker.failures * 100 < config.failureRatio * breaker.requests then (breaker, none)
    else (openFrom config now, some .opened)

/-- Frees the slot of a trial that ended without a result. -/
def releaseTrial (breaker : Breaker) : Breaker :=
  if breaker.circuit = .halfOpen true then { breaker with circuit := .halfOpen false }
  else breaker

/-- What is let through is the trial, or finds the circuit closed. -/
theorem letThrough_some {breaker : Breaker} {trial : Bool}
    (admitted : (breaker.letThrough now).2 = some trial) :
    if trial then
      breaker.circuit ≠ .closed ∧ breaker.circuit ≠ .halfOpen true ∧
        (breaker.letThrough now).1 = { breaker with circuit := .halfOpen true }
    else breaker.circuit = .closed ∧ (breaker.letThrough now).1 = breaker := by
  unfold letThrough at admitted ⊢
  split at admitted
  · cases admitted
  · rename_i free
    rw [if_neg free]
    split at admitted
    · rename_i closed
      cases admitted
      rw [if_pos closed]
      exact ⟨closed, rfl⟩
    · rename_i notClosed
      cases admitted
      rw [if_neg notClosed]
      refine ⟨notClosed, ?_, rfl⟩
      intro runs
      exact free (by simp [blocks, runs])

/-- What is let through while the slot is taken afterwards is the trial. -/
theorem letThrough_trial {breaker : Breaker} {trial : Bool}
    (admitted : (breaker.letThrough now).2 = some trial)
    (runs : (breaker.letThrough now).1.circuit = .halfOpen true) : trial = true := by
  cases trial with
  | true => rfl
  | false =>
    obtain ⟨closed, same⟩ := letThrough_some admitted
    rw [same, closed] at runs
    cases runs

theorem count_circuit (breaker : Breaker) (window : Nat) (failed : Bool) (now : Nat) :
    (breaker.count window failed now).circuit = breaker.circuit := by
  unfold count
  split <;> rfl

theorem record_trial (breaker : Breaker) (config : CircuitBreaker) (failed : Bool) (now : Nat) :
    (breaker.record config true failed now).1.circuit ≠ .halfOpen true := by
  rw [record, if_pos rfl, finishTrial]
  cases state : breaker.circuit with
  | closed | opened => simp [state]
  | halfOpen => cases failed <;> simp [openFrom]

theorem record_plain {breaker : Breaker} {config : CircuitBreaker} {failed : Bool}
    (runs : (breaker.record config false failed now).1.circuit = .halfOpen true) :
    breaker.circuit = .halfOpen true := by
  rw [record, if_neg Bool.false_ne_true] at runs
  split at runs
  · exact runs
  · rename_i closed
    dsimp only at runs
    split at runs
    · rwa [count_circuit] at runs
    · simp [openFrom] at runs

theorem releaseTrial_free (breaker : Breaker) : breaker.releaseTrial.circuit ≠ .halfOpen true := by
  unfold releaseTrial
  split
  · simp
  · assumption

end Breaker

/-! ## Groups -/

structure ServerHealth where
  failures : Nat := 0
  unhealthyUntil : Option Nat := none
  /-- A failed active check, until the next one that passes. -/
  checkFailed : Bool := false
  lastError : Option String := none
  deriving DecidableEq

/-- The servers of a proxy or a route; the health and the breakers have their order. -/
structure UpstreamGroup where
  members : List GroupServer
  policy : LoadBalancing
  healthCheck : HealthCheck
  circuitBreaker : CircuitBreaker
  servers : List ServerHealth
  breakers : List Breaker

namespace UpstreamGroup

/-- `new` and `with_circuit_breaker`. -/
def new (members : List GroupServer) (policy : LoadBalancing) (healthCheck : HealthCheck)
    (circuitBreaker : CircuitBreaker) : UpstreamGroup where
  members := members
  policy := policy
  healthCheck := healthCheck
  circuitBreaker := circuitBreaker
  servers := members.map fun _ => {}
  breakers := members.map fun _ => {}

/-- The place of a server in the group. -/
def position (group : UpstreamGroup) (addr : String) : Option Nat :=
  group.members.findIdx? fun member => member.addr = addr

def inheritState (group previous : UpstreamGroup) : UpstreamGroup :=
  { group with
    servers := group.members.map fun member =>
      ((previous.position member.addr).bind fun index => previous.servers[index]?).getD {}
    breakers := group.members.map fun member =>
      ((previous.position member.addr).bind fun index => previous.breakers[index]?).getD {} }

def modifyHealth (group : UpstreamGroup) (index : Nat) (change : ServerHealth → ServerHealth) :
    UpstreamGroup :=
  { group with servers := group.servers.modify index change }

def modifyBreaker (group : UpstreamGroup) (index : Nat) (change : Breaker → Breaker) :
    UpstreamGroup :=
  { group with breakers := group.breakers.modify index change }

/-- A failed active check stays until the next one that passes. -/
def reportSuccess (group : UpstreamGroup) (index : Nat) : UpstreamGroup :=
  group.modifyHealth index fun health =>
    { health with
      failures := 0
      unhealthyUntil := none
      lastError := if health.checkFailed then health.lastError else none }

def reportFailure (group : UpstreamGroup) (index : Nat) (error : String) (now : Nat) :
    UpstreamGroup :=
  group.modifyHealth index fun health =>
    let health := { health with lastError := some error }
    if group.healthCheck.maxFails = 0 then health
    else
      let health := { health with failures := saturatingSucc health.failures }
      if health.failures < group.healthCheck.maxFails then health
      else { health with unhealthyUntil := some (now + group.healthCheck.failTimeout) }

/-- The result of an active check. -/
def recordCheck (group : UpstreamGroup) (index : Nat) (result : Except String Unit) :
    UpstreamGroup :=
  group.modifyHealth index fun health =>
    match result with
    | .ok () => {}
    | .error error => { health with checkFailed := true, lastError := some error }

def recordCircuit (group : UpstreamGroup) (index : Nat) (trial : Bool) (failure : Option String)
    (now : Nat) : UpstreamGroup :=
  if group.circuitBreaker.enabled then
    group.modifyBreaker index fun breaker =>
      (breaker.record group.circuitBreaker trial failure.isSome now).1
  else group

def releaseTrial (group : UpstreamGroup) (index : Nat) : UpstreamGroup :=
  group.modifyBreaker index Breaker.releaseTrial

end UpstreamGroup

/-! ## Permits -/

/-- The right to send one request to a server of a group, not reported yet. -/
structure Permit where
  group : Nat
  index : Nat
  trial : Bool
  deriving DecidableEq

/-- How a permit ends. -/
inductive Outcome where
  | success
  | successKeep
  | failure (error : String)
  | errorResponse (error : String)
  | dropped

/-- What the end of a permit does to its group. -/
def Permit.finish (permit : Permit) (outcome : Outcome) (now : Nat) (group : UpstreamGroup) :
    UpstreamGroup :=
  match outcome with
  | .success | .successKeep =>
    (group.reportSuccess permit.index).recordCircuit permit.index permit.trial none now
  | .failure error =>
    (group.reportFailure permit.index error now).recordCircuit permit.index permit.trial
      (some error) now
  | .errorResponse error =>
    (group.reportSuccess permit.index).recordCircuit permit.index permit.trial (some error) now
  | .dropped => if permit.trial then group.releaseTrial permit.index else group

/-! ## The registry -/

/-- The proxy, and the route of an HTTP proxy. -/
abbrev GroupKey := ShortId × Option Nat

structure State where
  now : Nat
  /-- All groups that were built; a group is known by its place. -/
  groups : List UpstreamGroup
  /-- The holders of groups other than permits. -/
  owners : List Nat
  /-- The registry holds its groups weakly. -/
  registry : Table (Prod.fst : GroupKey × Nat → GroupKey)
  permits : Table (Prod.fst : Nat × Permit → Nat)

namespace State

def isLive (state : State) (id : Nat) : Bool :=
  id ∈ state.owners || state.permits.rows.any fun slot => slot.2.group = id

/-- The registered group of a key that is still held. -/
def get (state : State) (key : GroupKey) : Option Nat :=
  ((state.registry.find key).map Prod.snd).filter state.isLive

def modifyGroup (state : State) (id : Nat) (change : UpstreamGroup → UpstreamGroup) : State :=
  { state with groups := state.groups.modify id change }

section Reload

variable (state : State) (key : GroupKey) (members : List GroupServer) (policy : LoadBalancing)
  (healthCheck : HealthCheck) (circuitBreaker : CircuitBreaker)

/-- The existing group is used again while its servers and settings are the same. -/
def reuses : Option Nat :=
  (state.get key).filter fun id => state.groups[id]?.any fun existing =>
    existing.members = members ∧ existing.policy = policy ∧
      existing.healthCheck = healthCheck ∧ existing.circuitBreaker = circuitBreaker

/-- The group that a reload builds. -/
def build : UpstreamGroup :=
  let group := UpstreamGroup.new members policy healthCheck circuitBreaker
  match (state.get key).bind fun id => state.groups[id]? with
  | some previous => group.inheritState previous
  | none => group

/-- `GroupRegistry::group`; the caller holds the group. -/
def group : State :=
  let registry := state.registry.discard fun row => !state.isLive row.2
  match state.reuses key members policy healthCheck circuitBreaker with
  | some id => { state with registry, owners := state.owners ++ [id] }
  | none =>
    { state with
      groups := state.groups ++ [state.build key members policy healthCheck circuitBreaker]
      owners := state.owners ++ [state.groups.length]
      registry := registry.upsert (key, state.groups.length) }

end Reload

/-- The breaker of a server lets a request through. -/
def letThroughAt (state : State) (id index : Nat) : State :=
  state.modifyGroup id fun group =>
    group.modifyBreaker index fun breaker => (breaker.letThrough state.now).1

/-- `acquire` by a holder of the group; the permit is known by `p`. -/
def acquire (state : State) (p id index : Nat) : State :=
  match state.permits.find p, state.groups[id]? with
  | none, some group =>
    if state.isLive id = false then state
    else if group.circuitBreaker.enabled = false then
      { state with permits := state.permits.upsert (p, ⟨id, index, false⟩) }
    else
      match group.breakers[index]?.bind fun breaker => (breaker.letThrough state.now).2 with
      | none => state
      | some trial =>
        { state.letThroughAt id index with
          permits := state.permits.upsert (p, ⟨id, index, trial⟩) }
  | _, _ => state

def finish (state : State) (p : Nat) (outcome : Outcome) : State :=
  match state.permits.find p with
  | some slot =>
    { state.modifyGroup slot.2.group (slot.2.finish outcome state.now) with
      permits := state.permits.erase p }
  | none => state

end State

inductive Event where
  | acquire (p id index : Nat)
  | finish (p : Nat) (outcome : Outcome)
  | wait (duration : Nat)
  | group (key : GroupKey) (members : List GroupServer) (policy : LoadBalancing)
      (healthCheck : HealthCheck) (circuitBreaker : CircuitBreaker)
  /-- A holder gives the group up. -/
  | release (id : Nat)
  /-- An active check ends. -/
  | check (id index : Nat) (result : Except String Unit)

def step (state : State) : Event → State
  | .acquire p id index => state.acquire p id index
  | .finish p outcome => state.finish p outcome
  | .wait duration => { state with now := state.now + duration }
  | .group key members policy healthCheck circuitBreaker =>
    state.group key members policy healthCheck circuitBreaker
  | .release id => { state with owners := state.owners.erase id }
  | .check id index result => state.modifyGroup id fun group => group.recordCheck index result

/-! ## Running trials -/

variable {change : UpstreamGroup → UpstreamGroup} {permit : Permit} {group : UpstreamGroup}
  {outcome : Outcome}

namespace State

def breaker (state : State) (id index : Nat) : Option Breaker :=
  state.groups[id]?.bind fun group => group.breakers[index]?

/-- The breaker is half-open and its trial runs. -/
def Trial (state : State) (id index : Nat) : Prop :=
  (state.breaker id index).map Breaker.circuit = some (.halfOpen true)

instance (state : State) (id index : Nat) : Decidable (state.Trial id index) :=
  inferInstanceAs (Decidable (_ = _))

/-- Every running trial of a registered group has a live trial permit of the same group and
server, and every report of the permit and its drop frees the breaker. -/
def Freeable (state : State) : Prop :=
  ∀ row ∈ state.registry.rows, state.isLive row.2 = true → ∀ index, state.Trial row.2 index →
    ∃ p, (p, ⟨row.2, index, true⟩) ∈ state.permits.rows ∧
      ∀ outcome, ¬ (state.finish p outcome).Trial row.2 index

/-- A reload that builds a new group finds no running trial among the breakers that it copies:
those of the servers of the old group whose address a server of the new one has. -/
def Untried (state : State) : Event → Prop
  | .group key members policy healthCheck circuitBreaker =>
    state.reuses key members policy healthCheck circuitBreaker = none →
      ∀ id ∈ state.get key, ∀ previous ∈ state.groups[id]?, ∀ member ∈ members,
        ∀ index ∈ previous.position member.addr, ¬ state.Trial id index
  | _ => True

/-! ## What the steps do to breakers -/

theorem breaker_modifyGroup (state : State) (id other index : Nat)
    (change : UpstreamGroup → UpstreamGroup) :
    (state.modifyGroup id change).breaker other index =
      if id = other then
        state.groups[other]?.bind fun group => (change group).breakers[index]?
      else state.breaker other index := by
  rw [breaker, modifyGroup, List.getElem?_modify]
  by_cases same : id = other
  · simp only [same, if_true]
    cases state.groups[other]? <;> rfl
  · simp only [same, if_false]
    cases known : state.groups[other]? <;> simp [breaker, known]

/-- A group whose breaker at `place` changes. -/
theorem breaker_modify {state : State} {place : Nat} {effect : UpstreamGroup → Breaker → Breaker}
    (breakers : ∀ group, (change group).breakers = group.breakers.modify place (effect group))
    (other index : Nat) :
    (state.modifyGroup id change).breaker other index =
      if id = other ∧ place = index then
        state.groups[other]?.bind fun group => group.breakers[index]?.map (effect group)
      else state.breaker other index := by
  rw [breaker_modifyGroup]
  by_cases same : id = other
  · rw [if_pos same, breaker]
    cases state.groups[other]? with
    | none => simp
    | some =>
      rw [Option.bind_some, breakers, List.getElem?_modify]
      by_cases here : place = index
      · simp [same, here]
      · simp [here]
  · rw [if_neg same, if_neg fun both => same both.1]

end State

/-- What the end of a permit does to the breaker of its server. -/
def Permit.effect (permit : Permit) (outcome : Outcome) (now : Nat) (group : UpstreamGroup)
    (breaker : Breaker) : Breaker :=
  let recorded := fun failed =>
    if group.circuitBreaker.enabled then
      (breaker.record group.circuitBreaker permit.trial failed now).1
    else breaker
  match outcome with
  | .success | .successKeep => recorded false
  | .failure _ | .errorResponse _ => recorded true
  | .dropped => if permit.trial then breaker.releaseTrial else breaker

theorem UpstreamGroup.recordCircuit_breakers (group : UpstreamGroup) (index : Nat) (trial : Bool)
    (failure : Option String) (now : Nat) :
    (group.recordCircuit index trial failure now).breakers =
      group.breakers.modify index fun breaker =>
        if group.circuitBreaker.enabled then
          (breaker.record group.circuitBreaker trial failure.isSome now).1
        else breaker := by
  unfold recordCircuit
  split
  · rfl
  · exact (List.modify_id index group.breakers).symm

theorem Permit.finish_breakers (permit : Permit) (outcome : Outcome) (now : Nat)
    (group : UpstreamGroup) :
    (permit.finish outcome now group).breakers =
      group.breakers.modify permit.index (permit.effect outcome now group) := by
  cases outcome with
  | success | successKeep | failure | errorResponse =>
    exact UpstreamGroup.recordCircuit_breakers _ permit.index permit.trial _ now
  | dropped =>
    unfold Permit.finish Permit.effect
    dsimp only
    split
    · rfl
    · exact (List.modify_id permit.index group.breakers).symm

/-- The end of another permit starts no trial. -/
theorem Permit.effect_plain (plain : permit.trial = false) {breaker : Breaker}
    (runs : (permit.effect outcome now group breaker).circuit = .halfOpen true) :
    breaker.circuit = .halfOpen true := by
  cases enabled : group.circuitBreaker.enabled <;> cases outcome <;>
    simp only [Permit.effect, enabled, plain, if_true, if_false, Bool.false_eq_true] at runs <;>
      first
      | exact runs
      | exact Breaker.record_plain runs

theorem Permit.finish_circuitBreaker (permit : Permit) (outcome : Outcome) (now : Nat)
    (group : UpstreamGroup) :
    (permit.finish outcome now group).circuitBreaker = group.circuitBreaker := by
  have recorded : ∀ (group : UpstreamGroup) (failure : Option String),
      (group.recordCircuit permit.index permit.trial failure now).circuitBreaker =
        group.circuitBreaker := by
    intro group failure
    unfold UpstreamGroup.recordCircuit
    split <;> rfl
  cases outcome with
  | success | successKeep | failure | errorResponse => exact recorded _ _
  | dropped =>
    unfold Permit.finish
    dsimp only
    split <;> rfl

/-! ## Invariants of every run -/

namespace State

/-- The settings of the breakers of a group. -/
def settings (state : State) (id : Nat) : Option CircuitBreaker :=
  state.groups[id]?.map UpstreamGroup.circuitBreaker

/-- Groups that are named exist, and trials are made where the breakers are enabled. -/
structure Inv (state : State) : Prop where
  registered : ∀ row ∈ state.registry.rows, row.2 < state.groups.length
  held : ∀ slot ∈ state.permits.rows, slot.2.group < state.groups.length
  trials : ∀ slot ∈ state.permits.rows, slot.2.trial = true →
    (state.settings slot.2.group).any CircuitBreaker.enabled = true

variable {state : State} {p index : Nat}

theorem settings_modifyGroup (state : State) (id other : Nat)
    (keeps : ∀ group, (change group).circuitBreaker = group.circuitBreaker) :
    (state.modifyGroup id change).settings other = state.settings other := by
  rw [settings, modifyGroup, List.getElem?_modify, settings]
  cases state.groups[other]? with
  | none => rfl
  | some =>
    by_cases same : id = other <;> simp [same, keeps]

theorem length_modifyGroup (state : State) (id : Nat) (change : UpstreamGroup → UpstreamGroup) :
    (state.modifyGroup id change).groups.length = state.groups.length :=
  List.length_modify _ _ _

theorem Inv.modifyGroup (inv : Inv state) (id : Nat)
    (keeps : ∀ group, (change group).circuitBreaker = group.circuitBreaker) :
    Inv (state.modifyGroup id change) where
  registered row member := by
    rw [length_modifyGroup]
    exact inv.registered row member
  held slot member := by
    rw [length_modifyGroup]
    exact inv.held slot member
  trials slot member trial := by
    rw [settings_modifyGroup state id _ keeps]
    exact inv.trials slot member trial

theorem Inv.addPermit (inv : Inv state) (p : Nat) (held : permit.group < state.groups.length)
    (enabled : permit.trial = true →
      (state.settings permit.group).any CircuitBreaker.enabled = true) :
    Inv { state with permits := state.permits.upsert (p, permit) } where
  registered := inv.registered
  held slot member := by
    rcases mem_upsert.mp member with ⟨known, -⟩ | rfl
    · exact inv.held slot known
    · exact held
  trials slot member trial := by
    rcases mem_upsert.mp member with ⟨known, -⟩ | rfl
    · exact inv.trials slot known trial
    · exact enabled trial

/-- **What `acquire` can do.**  Nothing, or give a permit of a held group: a plain one where the
breakers are off, and otherwise one that the breaker of the server admitted. -/
theorem acquire_cases (state : State) (p id index : Nat) :
    state.acquire p id index = state ∨
      ∃ group, state.groups[id]? = some group ∧ state.isLive id = true ∧
        p ∉ state.permits.keys ∧
        ((group.circuitBreaker.enabled = false ∧ state.acquire p id index =
            { state with permits := state.permits.upsert (p, ⟨id, index, false⟩) }) ∨
          ∃ breaker trial, group.circuitBreaker.enabled = true ∧
            group.breakers[index]? = some breaker ∧
            (breaker.letThrough state.now).2 = some trial ∧ state.acquire p id index =
              { state.letThroughAt id index with
                permits := state.permits.upsert (p, ⟨id, index, trial⟩) }) := by
  unfold acquire
  cases taken : state.permits.find p with
  | some => exact .inl rfl
  | none =>
    cases known : state.groups[id]? with
    | none => exact .inl rfl
    | some group =>
      have fresh := find_eq_none.mp taken
      dsimp only
      split
      · exact .inl rfl
      · rename_i live
        rw [Bool.not_eq_false] at live
        split
        · rename_i off
          exact .inr ⟨group, rfl, live, fresh, .inl ⟨off, rfl⟩⟩
        · rename_i on
          rw [Bool.not_eq_false] at on
          split
          · exact .inl rfl
          · rename_i trial admitted
            obtain ⟨breaker, here, lets⟩ := Option.bind_eq_some_iff.mp admitted
            exact .inr ⟨group, rfl, live, fresh, .inr ⟨breaker, trial, on, here, lets, rfl⟩⟩

theorem finish_of_mem (member : (p, permit) ∈ state.permits.rows) (outcome : Outcome) :
    state.finish p outcome =
      { state.modifyGroup permit.group (permit.finish outcome state.now) with
        permits := state.permits.erase p } := by
  have found : state.permits.find p = some (p, permit) := find_eq_some.mpr ⟨member, rfl⟩
  simp only [finish, found]

/-- **What the end of a permit can do.** -/
theorem finish_cases (state : State) (p : Nat) (outcome : Outcome) :
    state.finish p outcome = state ∨
      ∃ permit, (p, permit) ∈ state.permits.rows ∧ state.finish p outcome =
        { state.modifyGroup permit.group (permit.finish outcome state.now) with
          permits := state.permits.erase p } := by
  cases found : state.permits.find p with
  | none => exact .inl (by simp only [finish, found])
  | some slot =>
    obtain ⟨member, rfl⟩ := mem_of_find found
    exact .inr ⟨slot.2, member, finish_of_mem member outcome⟩

theorem isLive_of_get {key : GroupKey} (found : state.get key = some id) :
    state.isLive id = true := by
  rw [get, Option.filter_eq_some_iff] at found
  exact found.2

theorem inv_group (inv : Inv state) (key : GroupKey) (members : List GroupServer)
    (policy : LoadBalancing) (healthCheck : HealthCheck) (circuitBreaker : CircuitBreaker) :
    Inv (state.group key members policy healthCheck circuitBreaker) := by
  unfold group
  split
  · exact ⟨fun row member => inv.registered row (List.mem_of_mem_filter member), inv.held,
      inv.trials⟩
  · refine ⟨?_, ?_, ?_⟩
    · intro row member
      rw [List.length_append, List.length_singleton]
      rcases mem_upsert.mp member with ⟨known, -⟩ | rfl
      · have bound := inv.registered row (List.mem_of_mem_filter known)
        omega
      · exact Nat.lt_succ_self _
    · intro slot member
      rw [List.length_append, List.length_singleton]
      have bound := inv.held slot member
      omega
    · intro slot member trial
      rw [settings, List.getElem?_append_left (inv.held slot member)]
      exact inv.trials slot member trial

theorem Inv.step (inv : Inv state) (event : Event) : Inv (Health.step state event) := by
  cases event with
  | acquire p id index =>
    simp only [Health.step]
    rcases state.acquire_cases p id index with
      same | ⟨group, known, -, -, ⟨-, same⟩ | ⟨breaker, trial, on, -, -, same⟩⟩
    · rwa [same]
    · rw [same]
      exact inv.addPermit p (List.getElem?_eq_some_iff.mp known).1 (by simp)
    · rw [same]
      have moved : Inv (state.letThroughAt id index) := inv.modifyGroup id fun _ => rfl
      apply moved.addPermit p
      · rw [letThroughAt, length_modifyGroup]
        exact (List.getElem?_eq_some_iff.mp known).1
      · intro _
        have kept : (state.letThroughAt id index).settings id = state.settings id :=
          settings_modifyGroup state id id fun _ => rfl
        rw [kept, settings, known]
        exact on
  | finish p outcome =>
    simp only [Health.step]
    rcases state.finish_cases p outcome with same | ⟨permit, member, same⟩
    · rwa [same]
    · rw [same]
      have moved := inv.modifyGroup permit.group (permit.finish_circuitBreaker outcome state.now)
      exact ⟨moved.registered, fun slot known => moved.held slot (mem_erase.mp known).1,
        fun slot known => moved.trials slot (mem_erase.mp known).1⟩
  | wait | release => exact ⟨inv.registered, inv.held, inv.trials⟩
  | group key members policy healthCheck circuitBreaker =>
    exact inv_group inv key members policy healthCheck circuitBreaker
  | check id index result => exact inv.modifyGroup id fun _ => rfl

/-! ## Permits of running trials -/

/-- A live trial permit of the server. -/
def HasPermit (state : State) (id index : Nat) : Prop :=
  ∃ p, (p, ⟨id, index, true⟩) ∈ state.permits.rows

/-- Every running trial of a registered group has a permit. -/
def Owned (state : State) : Prop :=
  ∀ row ∈ state.registry.rows, state.isLive row.2 = true → ∀ index, state.Trial row.2 index →
    state.HasPermit row.2 index

theorem isLive_iff : state.isLive id = true ↔
    id ∈ state.owners ∨ ∃ slot ∈ state.permits.rows, slot.2.group = id := by
  simp [isLive]

theorem trial_iff : state.Trial id index ↔
    ∃ group breaker, state.groups[id]? = some group ∧ group.breakers[index]? = some breaker ∧
      breaker.circuit = .halfOpen true := by
  rw [Trial, breaker, Option.map_eq_some_iff]
  constructor
  · rintro ⟨found, atPlace, runs⟩
    obtain ⟨group, known, here⟩ := Option.bind_eq_some_iff.mp atPlace
    exact ⟨group, found, known, here, runs⟩
  · rintro ⟨group, found, known, here, runs⟩
    exact ⟨found, Option.bind_eq_some_iff.mpr ⟨group, known, here⟩, runs⟩

/-- A running trial after the end of a permit ran before, and is not the trial of the permit. -/
theorem trial_of_finish (inv : Inv state) (member : (p, permit) ∈ state.permits.rows)
    (trial : (state.modifyGroup permit.group (permit.finish outcome state.now)).Trial id index) :
    state.Trial id index ∧ permit ≠ ⟨id, index, true⟩ := by
  rw [Trial, breaker_modify (permit.finish_breakers outcome state.now)] at trial
  by_cases here : permit.group = id ∧ permit.index = index
  · rw [if_pos here, Option.map_eq_some_iff] at trial
    obtain ⟨after, found, runs⟩ := trial
    obtain ⟨group, known, changed⟩ := Option.bind_eq_some_iff.mp found
    obtain ⟨before, atPlace, rfl⟩ := Option.map_eq_some_iff.mp changed
    obtain ⟨rfl, rfl⟩ := here
    cases plain : permit.trial with
    | false =>
      refine ⟨trial_iff.mpr ⟨group, before, known, atPlace, Permit.effect_plain plain runs⟩, ?_⟩
      intro same
      rw [same] at plain
      cases plain
    | true =>
      have enabled : group.circuitBreaker.enabled = true := by
        simpa [settings, known] using inv.trials _ member plain
      cases outcome <;> simp only [Permit.effect, enabled, plain, if_true] at runs
      case dropped => exact absurd runs before.releaseTrial_free
      all_goals exact absurd runs (Breaker.record_trial _ _ _ _)
  · rw [if_neg here] at trial
    refine ⟨trial, ?_⟩
    rintro rfl
    exact here ⟨rfl, rfl⟩

theorem freeable_iff_owned (inv : Inv state) : state.Freeable ↔ state.Owned := by
  constructor
  · intro freeable row member live index trial
    obtain ⟨p, known, -⟩ := freeable row member live index trial
    exact ⟨p, known⟩
  · intro owned row member live index trial
    obtain ⟨p, known⟩ := owned row member live index trial
    refine ⟨p, known, ?_⟩
    intro outcome still
    rw [finish_of_mem known] at still
    exact (trial_of_finish inv known still).2 rfl

/-! ## One step -/

/-- What a step owes that registers no new group: a trial that runs after it has a permit, or ran
before and kept the permit it had. -/
theorem Owned.step {next : State} (owned : state.Owned)
    (rows : ∀ row ∈ next.registry.rows, row ∈ state.registry.rows)
    (live : ∀ id, next.isLive id = true → state.isLive id = true)
    (trials : ∀ id index, next.Trial id index → next.HasPermit id index ∨
      state.Trial id index ∧ (state.HasPermit id index → next.HasPermit id index)) :
    next.Owned := by
  intro row member isLive index trial
  rcases trials row.2 index trial with has | ⟨before, kept⟩
  · exact has
  · exact kept (owned row (rows row member) (live row.2 isLive) index before)

/-- A new permit of a held group, while the breakers may move on to `groups`. -/
theorem owned_addPermit (owned : state.Owned) (held : state.isLive permit.group = true)
    (fresh : p ∉ state.permits.keys) {groups : List UpstreamGroup}
    (trials : ∀ id index, { state with groups }.Trial id index →
      permit = ⟨id, index, true⟩ ∨ state.Trial id index) :
    { state with groups, permits := state.permits.upsert (p, permit) }.Owned := by
  apply owned.step
  · exact fun row member => member
  · intro id live
    rcases isLive_iff.mp live with owner | ⟨slot, member, rfl⟩
    · exact isLive_iff.mpr (.inl owner)
    · rcases mem_upsert.mp member with ⟨known, -⟩ | rfl
      · exact isLive_iff.mpr (.inr ⟨slot, known, rfl⟩)
      · exact held
  · intro id index trial
    rcases trials id index trial with rfl | before
    · exact .inl ⟨p, mem_upsert.mpr (.inr rfl)⟩
    · refine .inr ⟨before, ?_⟩
      rintro ⟨q, known⟩
      exact ⟨q, (mem_upsert_fresh fresh).mpr (.inl known)⟩

/-- A running trial after a breaker let a request through is that request, or ran before. -/
theorem trial_of_letThroughAt {other place : Nat} {breaker : Breaker} {trial : Bool}
    (known : state.groups[id]? = some group) (here : group.breakers[index]? = some breaker)
    (lets : (breaker.letThrough state.now).2 = some trial)
    (runs : (state.letThroughAt id index).Trial other place) :
    (⟨id, index, trial⟩ : Permit) = ⟨other, place, true⟩ ∨ state.Trial other place := by
  have effect : ∀ group : UpstreamGroup,
      (group.modifyBreaker index fun breaker => (breaker.letThrough state.now).1).breakers =
        group.breakers.modify index fun breaker => (breaker.letThrough state.now).1 := fun _ => rfl
  rw [Trial, letThroughAt, breaker_modify effect] at runs
  by_cases same : id = other ∧ index = place
  · rw [if_pos same] at runs
    obtain ⟨rfl, rfl⟩ := same
    rw [known, Option.bind_some, here, Option.map_some, Option.map_some] at runs
    exact .inl (by rw [Breaker.letThrough_trial lets (Option.some.inj runs)])
  · rw [if_neg same] at runs
    exact .inr runs

theorem owned_acquire (owned : state.Owned) (p id index : Nat) :
    (state.acquire p id index).Owned := by
  rcases state.acquire_cases p id index with
    same | ⟨group, known, held, fresh, ⟨-, same⟩ | ⟨breaker, trial, -, here, lets, same⟩⟩
  · rwa [same]
  · rw [same]
    exact owned_addPermit owned held fresh fun _ _ before => .inr before
  · rw [same]
    exact owned_addPermit owned held fresh fun _ _ runs => trial_of_letThroughAt known here lets runs

theorem owned_finish (inv : Inv state) (owned : state.Owned) (p : Nat) (outcome : Outcome) :
    (state.finish p outcome).Owned := by
  rcases state.finish_cases p outcome with same | ⟨permit, member, same⟩
  · rwa [same]
  · rw [same]
    apply owned.step
    · exact fun row known => known
    · intro id live
      rcases isLive_iff.mp live with owner | ⟨slot, known, rfl⟩
      · exact isLive_iff.mpr (.inl owner)
      · exact isLive_iff.mpr (.inr ⟨slot, (mem_erase.mp known).1, rfl⟩)
    · intro id index trial
      obtain ⟨before, other⟩ := trial_of_finish inv member trial
      refine .inr ⟨before, ?_⟩
      rintro ⟨q, known⟩
      refine ⟨q, mem_erase.mpr ⟨known, ?_⟩⟩
      -- the permit of the trial is another one
      rintro rfl
      exact other (congrArg Prod.snd (state.permits.row_of_key member known rfl))

/-! ## A reload -/

section Reload

variable (state) (key : GroupKey) (members : List GroupServer) (policy : LoadBalancing)
  (healthCheck : HealthCheck) (circuitBreaker : CircuitBreaker)

/-- A new group starts with the running trials that it copies, and with no other. -/
theorem build_trial :
    (∃ (index : Nat) (breaker : Breaker),
      (state.build key members policy healthCheck circuitBreaker).breakers[index]? =
        some breaker ∧ breaker.circuit = .halfOpen true) ↔
      ∃ id ∈ state.get key, ∃ previous ∈ state.groups[id]?, ∃ member ∈ members,
        ∃ index ∈ previous.position member.addr, state.Trial id index := by
  unfold build
  cases found : (state.get key).bind fun id => state.groups[id]? with
  | none =>
    constructor
    · rintro ⟨index, breaker, here, runs⟩
      obtain ⟨member, -, rfl⟩ := List.mem_map.mp (List.mem_of_getElem? here)
      cases runs
    · rintro ⟨id, registered, previous, known, -⟩
      have present := Option.bind_eq_some_iff.mpr ⟨id, registered, known⟩
      cases found.symm.trans present
  | some previous =>
    obtain ⟨id, registered, known⟩ := Option.bind_eq_some_iff.mp found
    constructor
    · rintro ⟨index, breaker, here, runs⟩
      obtain ⟨member, kept, rfl⟩ := List.mem_map.mp (List.mem_of_getElem? here)
      cases copied : (previous.position member.addr).bind fun index => previous.breakers[index]?
        with
      | none =>
        rw [copied] at runs
        cases runs
      | some breaker =>
        rw [copied] at runs
        obtain ⟨place, atPlace, there⟩ := Option.bind_eq_some_iff.mp copied
        exact ⟨id, registered, previous, known, member, kept, place, atPlace,
          trial_iff.mpr ⟨previous, breaker, known, there, runs⟩⟩
    · rintro ⟨other, same, before, isOld, member, kept, place, atPlace, trial⟩
      cases registered.symm.trans same
      cases known.symm.trans isOld
      obtain ⟨group, breaker, isGroup, there, runs⟩ := trial_iff.mp trial
      cases known.symm.trans isGroup
      obtain ⟨index, here⟩ := List.mem_iff_getElem?.mp kept
      refine ⟨index, breaker, ?_, runs⟩
      have copied : (previous.position member.addr).bind
          (fun index => previous.breakers[index]?) = some breaker :=
        Option.bind_eq_some_iff.mpr ⟨place, atPlace, there⟩
      simp [UpstreamGroup.inheritState, UpstreamGroup.new, here, copied]

theorem isLive_of_newOwner {next : State} {other : Nat}
    (live : next.isLive other = true) (owners : next.owners = state.owners ++ [id])
    (permits : next.permits = state.permits) : state.isLive other = true ∨ other = id := by
  rcases isLive_iff.mp live with owner | permit
  · rw [owners] at owner
    rcases List.mem_append.mp owner with old | new
    · exact .inl (isLive_iff.mpr (.inl old))
    · exact .inr (List.mem_singleton.mp new)
  · rw [permits] at permit
    exact .inl (isLive_iff.mpr (.inr permit))

/-- **A reload keeps the permits of the trials just when it copies none.** -/
theorem owned_group_iff (inv : Inv state) (owned : state.Owned) :
    (state.group key members policy healthCheck circuitBreaker).Owned ↔
      state.Untried (.group key members policy healthCheck circuitBreaker) := by
  simp only [Untried]
  unfold group
  cases reuse : state.reuses key members policy healthCheck circuitBreaker with
  | some id =>
    have held : state.isLive id = true := isLive_of_get (Option.filter_eq_some_iff.mp reuse).1
    refine ⟨fun _ => nofun, fun _ => ?_⟩
    apply owned.step
    · exact fun row member => List.mem_of_mem_filter member
    · intro other live
      rcases state.isLive_of_newOwner live rfl rfl with old | rfl
      · exact old
      · exact held
    · exact fun other index trial => .inr ⟨trial, fun has => has⟩
  | none =>
    have fresh : ∀ index, ¬ state.HasPermit state.groups.length index := by
      rintro index ⟨p, known⟩
      exact Nat.lt_irrefl _ (inv.held _ known)
    have copies := state.build_trial key members policy healthCheck circuitBreaker
    constructor
    · intro after _ id registered previous known member kept index atPlace trial
      obtain ⟨place, breaker, here, runs⟩ :=
        copies.mpr ⟨id, registered, previous, known, member, kept, index, atPlace, trial⟩
      refine fresh place (after (key, state.groups.length) ?_ ?_ place ?_)
      · exact mem_upsert.mpr (.inr rfl)
      · exact isLive_iff.mpr (.inl (by simp))
      · exact trial_iff.mpr ⟨_, breaker, by simp, here, runs⟩
    · intro clean row member live index trial
      obtain ⟨group, breaker, known, here, runs⟩ := trial_iff.mp trial
      rcases mem_upsert.mp member with ⟨old, -⟩ | rfl
      · have registered := List.mem_of_mem_filter old
        have bound := inv.registered row registered
        have wasLive : state.isLive row.2 = true := by
          rcases state.isLive_of_newOwner live rfl rfl with old | same
          · exact old
          · omega
        rw [List.getElem?_append_left bound] at known
        exact owned row registered wasLive index
          (trial_iff.mpr ⟨group, breaker, known, here, runs⟩)
      · -- the new group has the running trials that it copied
        rw [List.getElem?_concat_length] at known
        cases known
        obtain ⟨id, registered, previous, isOld, member, kept, place, atPlace, trial⟩ :=
          copies.mp ⟨index, breaker, here, runs⟩
        exact absurd trial (clean rfl id registered previous isOld member kept place atPlace)

end Reload

theorem owned_check (owned : state.Owned) (id index : Nat) (result : Except String Unit) :
    (state.modifyGroup id fun group => group.recordCheck index result).Owned := by
  apply owned.step
  · exact fun row member => member
  · exact fun other live => live
  · intro other place trial
    refine .inr ⟨?_, fun has => has⟩
    rw [Trial, breaker_modifyGroup] at trial
    split at trial <;> exact trial

/-- A step from a state in which the trials have their permits leads to another one just when it
copies no running trial. -/
theorem owned_step_iff (inv : Inv state) (owned : state.Owned) (event : Event) :
    (Health.step state event).Owned ↔ state.Untried event := by
  cases event with
  | acquire p id index => exact iff_of_true (owned_acquire owned p id index) trivial
  | finish p outcome => exact iff_of_true (owned_finish inv owned p outcome) trivial
  | wait => exact iff_of_true owned trivial
  | group key members policy healthCheck circuitBreaker =>
    exact state.owned_group_iff key members policy healthCheck circuitBreaker inv owned
  | release =>
    refine iff_of_true ?_ trivial
    apply owned.step
    · exact fun row member => member
    · intro other live
      rcases isLive_iff.mp live with owner | permit
      · exact isLive_iff.mpr (.inl (List.mem_of_mem_erase owner))
      · exact isLive_iff.mpr (.inr permit)
    · exact fun other index trial => .inr ⟨trial, fun has => has⟩
  | check id index result => exact iff_of_true (owned_check owned id index result) trivial

end State

/-! ## Every run -/

/-- An empty registry. -/
def start (now : Nat) : State := ⟨now, [], [], .empty, .empty⟩

/-- **Trials are freeable just when none is copied.**  In every state of a run, each running trial
of a registered group has a permit of that group and server which frees it, if and only if no
reload of the run copies a breaker whose trial runs. -/
theorem trials_are_freeable_iff (now : Nat) (events : List Event) :
    Throughout step State.Freeable (start now) events ↔
      Guarded step State.Untried (start now) events := by
  have first : State.Inv (start now) := by constructor <;> simp [start]
  have owned : (start now).Owned := fun row member => by simp [start] at member
  refine Run.throughout_iff_guarded (fun _ event inv => inv.step event) ?_ first
    ((State.freeable_iff_owned first).mpr owned)
  intro state event inv freeable
  rw [State.freeable_iff_owned (inv.step event)]
  exact State.owned_step_iff inv ((State.freeable_iff_owned inv).mp freeable) event

/-! ## A reload while a trial runs -/

section ReloadDuringTrial

def key : GroupKey := (ShortId.ofSeven [7, 6, 5, 4, 3, 2, 1] rfl, none)

def server (weight : Nat) : GroupServer := ⟨"10.0.0.1:80", weight, none, []⟩

def healthCheck : HealthCheck := ⟨3, 30000, 0, 5000, "", none⟩

/-- One failed request opens the circuit for half a minute. -/
def circuitBreaker : CircuitBreaker := ⟨true, 50, 1, 10000, 30000⟩

/-- The configuration gives the server a weight. -/
def reload (weight : Nat) : Event :=
  .group key [server weight] .roundRobin healthCheck circuitBreaker

/-- The circuit opens, a trial starts, and the weight of the server changes before the trial
succeeds; the old group is given up. -/
def reloadDuringTrial : List Event :=
  [reload 1, .acquire 0 0 0, .finish 0 (.failure "refused"), .wait 30000, .acquire 1 0 0,
    reload 2, .finish 1 .success, .release 0]

/-- **A server that stays blocked.**  No permit is left, and the breaker of the registered group
still waits for the end of a trial. -/
theorem reload_leaves_trial :
    ¬ State.Freeable (exec step (start 0) reloadDuringTrial) := by
  intro freeable
  obtain ⟨p, known, -⟩ := freeable (key, 1) (by decide) (by decide) 0 (by decide)
  cases known

end ReloadDuringTrial

end R3v3rs3.Proxy.Health
