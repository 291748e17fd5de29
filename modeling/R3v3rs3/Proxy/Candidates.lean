/-
# R3v3rs3.Proxy.Candidates -- in which order the servers of a group are tried

`candidates` takes the servers that have a weight and whose circuit lets traffic through, and puts
the healthy ones, in the order of the load balancing policy, before the others.  Where no server is
healthy the policy orders the others.

A policy orders what it is given and nothing else (`order_perm`): all but the round robin sort the
servers by a key of their own, the round robin moves a part of the list to its end.  That is all
`candidates_spec` needs, so it holds for every value of the counters, the latencies, the hash and
the random numbers.

Scores are doubles, and doubles are compared by `total_cmp`, that is by their bits.
-/
import Mathlib.Data.Prod.Lex
import R3v3rs3.Proxy.Http.Headers
import R3v3rs3.Proxy.RoundRobin
import R3v3rs3.Theory.NetAddr
import R3v3rs3.Theory.StableSort

namespace R3v3rs3.Proxy.Candidates
open Theory Theory.StableSort
open Proxy.Health Proxy.RoundRobin
open Proxy.Http (eqIgnoreAsciiCase)
open Theory.NetAddr (IpAddr)
set_option autoImplicit false

/-! ## Doubles -/

/-- The number that `f64::total_cmp` compares: the bits as a signed integer, with those of a
negative double reversed. -/
def totalKey (x : Float) : Int :=
  let bits : Nat := x.toBits.toNat
  if bits < 2 ^ 63 then bits else -1 - ((bits - 2 ^ 63 : Nat) : Int)

/-! ## Regions -/

structure RegionalPreset where
  id : String
  countries : List String

def regionalPresets : List RegionalPreset :=
  [⟨"turkey", ["TR"]⟩,
   ⟨"eu", ["AT", "BE", "BG", "CY", "CZ", "DE", "DK", "EE", "ES", "FI", "FR", "GR", "HR", "HU",
     "IE", "IT", "LT", "LU", "LV", "MT", "NL", "PL", "PT", "RO", "SE", "SI", "SK"]⟩,
   ⟨"na", ["US", "CA", "MX"]⟩,
   ⟨"g7", ["US", "CA", "GB", "DE", "FR", "IT", "JP"]⟩,
   ⟨"dach", ["DE", "AT", "CH"]⟩,
   ⟨"apac", ["JP", "KR", "SG", "AU", "NZ", "IN"]⟩,
   ⟨"latam", ["BR", "AR", "CL", "CO", "PE", "MX"]⟩,
   ⟨"mena", ["TR", "SA", "AE", "EG", "QA", "KW", "OM", "BH", "JO"]⟩,
   ⟨"nordic", ["SE", "NO", "FI", "DK", "IS"]⟩]

def lookupPreset (id : String) : Option RegionalPreset :=
  regionalPresets.find? fun preset => preset.id = id

def sameCountry (left right : String) : Bool := eqIgnoreAsciiCase left.toList right.toList

def isCountryMatch (member : GroupServer) (country : String) : Bool :=
  member.countries.any (sameCountry · country) || member.region.any (sameCountry · country)

def isRegionPresetMatch (member : GroupServer) (country : String) : Bool :=
  (member.region.bind lookupPreset).any fun preset =>
    preset.countries.any (sameCountry · country)

/-! ## What the hash is taken of -/

def octets : IpAddr → List UInt8
  | .v4 addr => [addr.a, addr.b, addr.c, addr.d].map fun octet => UInt8.ofNat octet
  | .v6 addr =>
    addr.segments.flatMap fun group =>
      [UInt8.ofNat (group.val / 256), UInt8.ofNat (group.val % 256)]

/-! ## Groups -/

/-- The response times of a server. -/
structure ServerLiveMetrics where
  totalRttMicros : Nat
  rttCount : Nat
  lastRttMicros : Nat

/-- A group with what its policy looks at: the current weights of the round robin, the open
connections, the response times, and the country of an address. -/
structure BalancedGroup extends UpstreamGroup where
  currentWeights : List Int
  activeConns : List Nat
  metrics : List ServerLiveMetrics
  geoip : Option (IpAddr → Option String)

def isHealthy (health : ServerHealth) (now : Nat) : Bool :=
  !health.checkFailed && health.unhealthyUntil.all fun deadline => deadline ≤ now

namespace BalancedGroup

/- `fnv` is the hash of the `fnv` crate. -/
variable (fnv : List UInt8 → UInt64) (group : BalancedGroup)

def addr (index : Nat) : String := (group.members[index]?.map GroupServer.addr).getD ""

/-- Whether the server is known to be healthy. -/
def healthy (now index : Nat) : Bool := group.servers[index]?.any fun health => isHealthy health now

def blocked (now index : Nat) : Bool :=
  group.circuitBreaker.enabled && group.breakers[index]?.any fun breaker => breaker.blocks now

def geoipCountry (client : IpAddr) : Option String := group.geoip.bind fun lookup => lookup client

/-! ### Scores -/

/-- The open connections for each unit of weight. -/
def connScore (index : Nat) : Float :=
  Float.ofNat (group.activeConns[index]?.getD 0) / Float.ofNat (max (weight group.members index) 1)

def serverGeoTier (index : Nat) (clientCountry : Option String) : Nat :=
  match clientCountry with
  | none => 0
  | some country =>
    match group.members[index]? with
    | none => 3
    | some member =>
      if isCountryMatch member country then 0
      else if isRegionPresetMatch member country then 1
      else if member.region.isNone && member.countries.isEmpty then 2
      else 3

def serverLatencyScore (index : Nat) : Nat :=
  match group.metrics[index]? with
  | none => 2 ^ 64 - 1
  | some metric =>
    if metric.rttCount ≠ 0 then metric.totalRttMicros / metric.rttCount
    else if 0 < metric.lastRttMicros then metric.lastRttMicros
    else 1000000 / max (weight group.members index) 1

/-- The weighted rendezvous hash: `-ln(u) / weight` for a `u` between 0 and 1 from the hash. -/
def hashScore (index : Nat) (client : IpAddr) : Float :=
  let hash := fnv (octets client.toCanonical ++ Http.bytes (group.addr index))
  let unit := ((hash >>> 11).toFloat + 1.0) / (((1 : UInt64) <<< 53).toFloat + 1.0)
  Float.neg unit.log / Float.ofNat (weight group.members index)

/-- The key of Efraimidis and Spirakis for the random number `draw`. -/
def randomKey (index : Nat) (draw : Float) : Float :=
  draw.pow (1.0 / Float.ofNat (weight group.members index))

/-! ### Policies -/

/-- Servers in the order of their keys; those with the same key keep their places. -/
def sortKeyed {κ : Type*} [LinearOrder κ] (keyed : List (κ × Nat)) : List Nat :=
  (sortByKey Prod.fst keyed).map Prod.snd

def orderLeastConn (servers : List Nat) : List Nat :=
  sortKeyed (servers.map fun index => (toLex (totalKey (group.connScore index), index), index))

def orderGeoProximity (servers : List Nat) (client : IpAddr) : List Nat :=
  let country := group.geoipCountry client
  sortKeyed (servers.map fun index =>
    (toLex (group.serverGeoTier index country, toLex (group.serverLatencyScore index, index)), index))

def orderLatency (servers : List Nat) : List Nat :=
  sortKeyed (servers.map fun index => (toLex (group.serverLatencyScore index, index), index))

def orderHash (servers : List Nat) (client : IpAddr) : List Nat :=
  sortKeyed (servers.map fun index => (totalKey (group.hashScore fnv index client), index))

/-- A higher key goes first; `draws` are the random numbers in the order they are drawn. -/
def orderRandom (servers : List Nat) (draws : Nat → Float) : List Nat :=
  sortKeyed (servers.zipIdx.map fun slot =>
    (-totalKey (group.randomKey slot.1 (draws slot.2)), slot.1))

/-- The order of the policy, and the current weights after it. -/
def order (servers : List Nat) (client : IpAddr) (draws : Nat → Float) : List Nat × List Int :=
  match group.policy with
  | .roundRobin => orderRoundRobin group.members group.currentWeights servers
  | .leastConn => (group.orderLeastConn servers, group.currentWeights)
  | .random => (group.orderRandom servers draws, group.currentWeights)
  | .first => (servers, group.currentWeights)
  | .clientIpHash => (group.orderHash fnv servers client, group.currentWeights)
  | .geoProximity => (group.orderGeoProximity servers client, group.currentWeights)
  | .latency => (group.orderLatency servers, group.currentWeights)

/-- The servers with a weight whose circuit does not block them. -/
def eligible (now : Nat) : List Nat :=
  (List.range group.members.length).filter fun index =>
    0 < weight group.members index && !group.blocked now index

/-- The servers in the order to try, and the group after the call. -/
def candidates (client : IpAddr) (now : Nat) (draws : Nat → Float) : List Nat × BalancedGroup :=
  let (healthy, unhealthy) := (group.eligible now).partition (group.healthy now)
  if healthy.isEmpty then
    let (ordered, currentWeights) := group.order fnv unhealthy client draws
    (ordered, { group with currentWeights })
  else
    let (ordered, currentWeights) := group.order fnv healthy client draws
    (ordered ++ unhealthy, { group with currentWeights })

/-! ## What a policy does -/

/-- A sort by a key of each server is a sort of the servers. -/
theorem sortKeyed_map {κ : Type*} [LinearOrder κ] (key : Nat → κ) (servers : List Nat) :
    sortKeyed (servers.map fun index => (key index, index)) = sortByKey key servers := by
  have pairs := List.map_insertionSort (fun a b => key a ≤ key b)
    (fun a b : κ × Nat => a.1 ≤ b.1) (fun index => (key index, index)) servers
    (fun _ _ _ _ => Iff.rfl)
  rw [sortKeyed, sortByKey, ← pairs, List.map_map]
  exact List.map_id _

theorem sortKeyed_map_perm {κ : Type*} [LinearOrder κ] (key : Nat → κ) (servers : List Nat) :
    (sortKeyed (servers.map fun index => (key index, index))).Perm servers := by
  rw [sortKeyed_map]
  exact sortByKey_perm key servers

theorem orderRandom_perm (servers : List Nat) (draws : Nat → Float) :
    (group.orderRandom servers draws).Perm servers := by
  apply ((sortByKey_perm Prod.fst _).map Prod.snd).trans
  rw [List.map_map, Function.comp_def, List.zipIdx_map_fst]

theorem orderRoundRobin_perm (members : List GroupServer) (current : List Int)
    (servers : List Nat) : (orderRoundRobin members current servers).1.Perm servers := by
  unfold orderRoundRobin
  cases scan members servers 0 current none with
  | mk current best =>
    cases best with
    | none => exact List.Perm.refl servers
    | some top =>
      obtain ⟨position, value⟩ := top
      have whole := List.take_append_drop position servers
      exact List.perm_append_comm.trans (List.Perm.of_eq whole)

/-- **A policy only reorders.** -/
theorem order_perm (servers : List Nat) (client : IpAddr) (draws : Nat → Float) :
    (group.order fnv servers client draws).1.Perm servers := by
  unfold order
  cases group.policy with
  | roundRobin => exact orderRoundRobin_perm _ _ servers
  | leastConn | clientIpHash | geoProximity | latency => exact sortKeyed_map_perm _ servers
  | random => exact group.orderRandom_perm servers draws
  | first => exact List.Perm.refl servers

/-! ## The candidates -/

/-- The candidates are the healthy servers in some order, then the others in some order. -/
theorem candidates_split (client : IpAddr) (now : Nat) (draws : Nat → Float) :
    ∃ front back, (group.candidates fnv client now draws).1 = front ++ back ∧
      front.Perm ((group.eligible now).filter (group.healthy now)) ∧
      back.Perm ((group.eligible now).filter (!group.healthy now ·)) := by
  unfold candidates
  rw [List.partition_eq_filter_filter]
  dsimp only
  split
  · rename_i nobody
    have none : (group.eligible now).filter (group.healthy now) = [] := List.isEmpty_iff.mp nobody
    refine ⟨[], _, (List.nil_append _).symm, ?_, group.order_perm fnv _ client draws⟩
    rw [none]
  · exact ⟨_, _, rfl, group.order_perm fnv _ client draws, List.Perm.refl _⟩

/-! ## Servers that leave and return -/

/-- `order_hash` with any score in place of `hash_score`. -/
def orderScored (score : Nat → IpAddr → Float) (servers : List Nat) (client : IpAddr) : List Nat :=
  sortKeyed (servers.map fun index => (totalKey (score index client), index))

theorem orderScored_perm (score : Nat → IpAddr → Float) (servers : List Nat) (client : IpAddr) :
    (orderScored score servers client).Perm servers := sortKeyed_map_perm _ servers

section Scored

variable {score : Nat → IpAddr → Float} {servers subset : List Nat} {client : IpAddr}
  (inOrder : servers.Pairwise (· < ·))
include inOrder

/-- Of two servers with the same score the one with the lower index goes first. -/
theorem orderScored_sorted :
    (orderScored score servers client).Pairwise fun a b =>
      toLex (totalKey (score a client), a) < toLex (totalKey (score b client), b) := by
  have nodup : servers.Nodup := inOrder.imp ne_of_lt
  rw [orderScored, sortKeyed_map, List.pairwise_iff_forall_sublist]
  intro a b sub
  rw [Prod.Lex.toLex_lt_toLex]
  have keys := List.pairwise_iff_forall_sublist.mp (sortByKey_sorted _ servers) sub
  refine keys.lt_or_eq.imp_right fun tie => ⟨tie, ?_⟩
  have perm := sortByKey_perm (fun index => totalKey (score index client)) servers
  have different := List.pairwise_iff_forall_sublist.mp (perm.nodup_iff.mpr nodup) sub
  have before := (pair_sublist_sortByKey_iff nodup (perm.subset (sub.subset (by simp)))
    (perm.subset (sub.subset (by simp))) tie different).mp sub
  exact List.pairwise_iff_forall_sublist.mp inOrder before

theorem orderScored_filter (partInOrder : subset.Pairwise (· < ·)) (part : subset ⊆ servers) :
    orderScored score subset client =
      (orderScored score servers client).filter (· ∈ subset) := by
  have kept : (servers.filter (· ∈ subset)).Perm subset := by
    rw [List.perm_ext_iff_of_nodup ((inOrder.imp ne_of_lt).filter _) (partInOrder.imp ne_of_lt)]
    intro index
    simpa using @part index
  have perm := (orderScored_perm score subset client).trans
    (kept.symm.trans ((orderScored_perm score servers client).symm.filter _))
  exact perm.eq_of_pairwise (fun _ _ _ _ forth back => absurd back (lt_asymm forth))
    (orderScored_sorted partInOrder) ((orderScored_sorted inOrder).filter _)

theorem head?_orderScored {a : Nat} (first : (orderScored score servers client).head? = some a) :
    a ∈ servers ∧ ∀ b ∈ servers,
      toLex (totalKey (score a client), a) ≤ toLex (totalKey (score b client), b) := by
  obtain ⟨rest, split⟩ := List.head?_eq_some_iff.mp first
  have sorted := @orderScored_sorted score servers client inOrder
  have perm := orderScored_perm score servers client
  rw [split] at sorted perm
  refine ⟨perm.subset List.mem_cons_self, fun b member => ?_⟩
  rcases List.mem_cons.mp (perm.mem_iff.mpr member) with rfl | later
  · exact le_rfl
  · exact (List.rel_of_pairwise_cons sorted later).le

end Scored

/-- Whether a server can be a candidate, and then whether it is healthy. -/
def availability (now index : Nat) : Option Bool :=
  if index ∈ group.eligible now then some (group.healthy now index) else none

/-- The servers that the policy orders. -/
def pool (now : Nat) : List Nat :=
  let (healthy, unhealthy) := (group.eligible now).partition (group.healthy now)
  if healthy.isEmpty then unhealthy else healthy

variable {fnv} {group} {later : BalancedGroup} {client : IpAddr} {now after : Nat}
  {draws : Nat → Float}

theorem pool_inOrder : (group.pool now).Pairwise (· < ·) := by
  have all : (group.eligible now).Pairwise (· < ·) := List.pairwise_lt_range.filter _
  unfold pool
  rw [List.partition_eq_filter_filter]
  dsimp only
  split
  · exact all.filter _
  · exact all.filter _

theorem mem_pool {index : Nat} :
    index ∈ group.pool now ↔ group.availability now index = some true ∨
      group.availability now index = some false ∧
        ∀ other, group.availability now other ≠ some true := by
  unfold pool availability
  rw [List.partition_eq_filter_filter]
  simp only [List.isEmpty_iff, List.filter_eq_nil_iff]
  split
  · grind
  · grind

theorem head?_candidates (hashes : group.policy = .clientIpHash) :
    (group.candidates fnv client now draws).1.head? =
      (orderScored (group.hashScore fnv) (group.pool now) client).head? := by
  unfold candidates pool order
  rw [hashes, List.partition_eq_filter_filter]
  dsimp only
  split
  · rfl
  · rename_i somebody
    refine List.head?_append_of_ne_nil _ fun none => somebody ?_
    have perm := orderScored_perm (group.hashScore fnv)
      ((group.eligible now).filter (group.healthy now)) client
    rw [List.isEmpty_iff, ← List.nil_perm]
    exact none ▸ perm

/-- When the first servers stay as they are, both groups order the first one of each. -/
theorem head?_stays {score : Nat → IpAddr → Float} {a : Nat}
    (here : ∀ index ∈ (orderScored score (group.pool now) client).head?,
      group.availability now index = later.availability after index)
    (there : ∀ index ∈ (orderScored score (later.pool after) client).head?,
      group.availability now index = later.availability after index)
    (first : (orderScored score (group.pool now) client).head? = some a) :
    (orderScored score (later.pool after) client).head? = some a := by
  obtain ⟨member, least⟩ := head?_orderScored pool_inOrder first
  have stays := here a first
  rw [mem_pool] at member
  cases second : (orderScored score (later.pool after) client).head? with
  | none =>
    have perm := orderScored_perm score (later.pool after) client
    rw [List.head?_eq_none_iff.mp second, List.nil_perm, List.eq_nil_iff_forall_not_mem] at perm
    simp only [mem_pool] at perm
    grind
  | some b =>
    obtain ⟨other, lower⟩ := head?_orderScored pool_inOrder second
    have same := there b second
    rw [mem_pool] at other
    have both : a ∈ later.pool after ∧ b ∈ group.pool now := by grind [mem_pool]
    have equal := le_antisymm (least b both.2) (lower a both.1)
    exact congrArg (fun key => some (ofLex key).2) equal.symm

end BalancedGroup

open BalancedGroup in
/-- **Client hashing is stable.**  The order of a subset is the order of all servers with the
missing ones left out, whatever the scores are; so a client only moves when the server that was its
first one, or that is now, has changed its availability. -/
theorem client_hash_is_stable :
    (∀ (score : Nat → IpAddr → Float) (client : IpAddr) (servers subset : List Nat),
      servers.Pairwise (· < ·) → subset.Pairwise (· < ·) → subset ⊆ servers →
        orderScored score subset client =
          (orderScored score servers client).filter (· ∈ subset)) ∧
    (∀ (fnv : List UInt8 → UInt64) (group : BalancedGroup) (servers : List Nat) (client : IpAddr),
      group.orderHash fnv servers client = orderScored (group.hashScore fnv) servers client) ∧
    ∀ (fnv : List UInt8 → UInt64) (group later : BalancedGroup) (client : IpAddr) (now after : Nat)
      (draws laterDraws : Nat → Float), group.policy = .clientIpHash →
      later.policy = .clientIpHash → later.members = group.members →
      (group.candidates fnv client now draws).1.head? ≠
        (later.candidates fnv client after laterDraws).1.head? →
      ∃ index, (index ∈ (group.candidates fnv client now draws).1.head? ∨
          index ∈ (later.candidates fnv client after laterDraws).1.head?) ∧
        group.availability now index ≠ later.availability after index := by
  refine ⟨fun _ _ _ _ inOrder => orderScored_filter inOrder,
    fun _ _ _ _ => by rw [orderHash, orderScored], ?_⟩
  intro fnv group later client now after draws laterDraws hashes laterHashes same moved
  have scores : later.hashScore fnv = group.hashScore fnv := by
    funext index client
    rw [hashScore, hashScore, addr, addr, same]
  have first := @head?_candidates fnv group client now draws hashes
  have laterFirst := @head?_candidates fnv later client after laterDraws laterHashes
  rw [scores] at laterFirst
  rw [first, laterFirst] at moved ⊢
  by_contra! stay
  have here (index : Nat) (isFirst : index ∈ _) := stay index (.inl isFirst)
  have there (index : Nat) (isFirst : index ∈ _) := stay index (.inr isFirst)
  exact moved (Option.ext fun _ => ⟨head?_stays here there,
    head?_stays (fun index isFirst => (there index isFirst).symm)
      (fun index isFirst => (here index isFirst).symm)⟩)

/-- **The candidates of a group.**  No server twice; exactly the servers with a weight whose circuit
does not block them; and no unhealthy server before a healthy one. -/
theorem candidates_spec (fnv : List UInt8 → UInt64) (group : BalancedGroup) (client : IpAddr)
    (now : Nat) (draws : Nat → Float) :
    (group.candidates fnv client now draws).1.Nodup ∧
      (∀ index, index ∈ (group.candidates fnv client now draws).1 ↔
        index < group.members.length ∧ 0 < weight group.members index ∧
          group.blocked now index = false) ∧
      (group.candidates fnv client now draws).1.Pairwise fun first second =>
        group.healthy now second = true → group.healthy now first = true := by
  obtain ⟨front, back, split, healthy, others⟩ := group.candidates_split fnv client now draws
  have perm : (group.candidates fnv client now draws).1.Perm (group.eligible now) := by
    rw [split]
    exact (healthy.append others).trans (List.filter_append_perm _ _)
  have frontHealthy : ∀ index ∈ front, group.healthy now index = true := by
    intro index member
    exact List.of_mem_filter (healthy.subset member)
  have backUnhealthy : ∀ index ∈ back, group.healthy now index = false := by
    intro index member
    simpa using List.of_mem_filter (others.subset member)
  refine ⟨?_, ?_, ?_⟩
  · exact perm.nodup_iff.mpr (List.nodup_range.filter _)
  · intro index
    rw [perm.mem_iff]
    simp [BalancedGroup.eligible]
  · rw [split, List.pairwise_append]
    refine ⟨?_, ?_, ?_⟩
    · exact List.pairwise_of_forall_mem_list fun first member _ _ _ => frontHealthy first member
    · apply List.pairwise_of_forall_mem_list
      intro first _ second member known
      simp [backUnhealthy second member] at known
    · intro first member _ _ _
      exact frontHealthy first member

end R3v3rs3.Proxy.Candidates
