/-
# R3v3rs3.Proxy.RoundRobin -- the weighted round robin of an upstream group

`orderRoundRobin` is one call: a loop adds the weight of each server to its current weight and
remembers the first server with the highest one, which then pays the total and goes first; the
other servers follow in list order.

A call on all servers of a group is a round of `Theory.SmoothRoundRobin` (`orderRoundRobin_all`),
and `round_robin_is_fair` is what follows for any number of calls.
-/
import R3v3rs3.Proxy.Health
import R3v3rs3.Theory.SmoothRoundRobin

namespace R3v3rs3.Proxy.RoundRobin
open Proxy.Health Theory SmoothRoundRobin
open Theory.SmoothRoundRobin (pick next gain)
set_option autoImplicit false

/-! ## One call -/

section Calls

variable (members : List GroupServer)

/-- `UpstreamGroup::weight`. -/
def weight (index : Nat) : Nat := (members[index]?.map GroupServer.weight).getD 0

/-- The loop: the current weights, and the position and the value of the best server so far. -/
def scan : List Nat → Nat → List Int → Option (Nat × Int) → List Int × Option (Nat × Int)
  | [], _, current, best => (current, best)
  | index :: rest, position, current, best =>
    match current[index]? with
    | none => scan rest (position + 1) current best
    | some old =>
      let value := old + weight members index
      scan rest (position + 1) (current.set index value)
        (if best.all fun top => top.2 < value then some (position, value) else best)

/-- `order_round_robin`: the order of the servers and the current weights after the call. -/
def orderRoundRobin (current : List Int) (servers : List Nat) : List Nat × List Int :=
  let total := (servers.map fun index => (weight members index : Int)).sum
  match scan members servers 0 current none with
  | (current, none) => (servers, current)
  | (current, some (position, _)) =>
    (servers.drop position ++ servers.take position,
      match servers[position]? with
      | some index => current.modify index (· - total)
      | none => current)

/-- The servers of a group while all of them can take a request. -/
def everyServer : List Nat := List.range members.length

/-- The current weights after some calls, which start at zero. -/
def currentAfter : Nat → List Int
  | 0 => members.map fun _ => 0
  | calls + 1 => (orderRoundRobin members (currentAfter calls) (everyServer members)).2

/-- The server that call number `call` puts first. -/
def firstAt (call : Nat) : Option Nat :=
  (orderRoundRobin members (currentAfter members call) (everyServer members)).1.head?

end Calls

/-! ## The loop -/

/-- What is known of the best server after the first `seen` ones. -/
def Best (values : Nat → Int) (seen : Nat) : Option (Nat × Int) → Prop
  | none => seen = 0
  | some (position, value) =>
    position < seen ∧ value = values position ∧ ∀ other < seen, values other ≤ value

theorem Best.step {values : Nat → Int} {seen : Nat} {best : Option (Nat × Int)}
    (known : Best values seen best) :
    Best values (seen + 1)
      (if best.all fun top => top.2 < values seen then some (seen, values seen) else best) := by
  cases best with
  | none =>
    have start : seen = 0 := known
    refine ⟨Nat.lt_succ_self seen, rfl, fun other below => ?_⟩
    have same : other = seen := by omega
    rw [same]
  | some top =>
    obtain ⟨position, value⟩ := top
    obtain ⟨inside, isValue, highest⟩ := known
    by_cases higher : value < values seen
    · rw [if_pos (by simpa using higher)]
      refine ⟨Nat.lt_succ_self seen, rfl, fun other below => ?_⟩
      rcases Nat.lt_succ_iff_lt_or_eq.mp below with before | rfl
      · exact le_trans (highest other before) (le_of_lt higher)
      · exact le_refl _
    · rw [if_neg (by simpa using higher)]
      refine ⟨Nat.lt_succ_of_lt inside, isValue, fun other below => ?_⟩
      rcases Nat.lt_succ_iff_lt_or_eq.mp below with before | rfl
      · exact highest other before
      · exact not_lt.mp higher

section Loop

variable {members : List GroupServer}

/-- The loop over the servers from `start` on, with the current weights `values` had before the
gain of each server. -/
theorem scan_spec (values : Nat → Int) (count : Nat) :
    ∀ (start : Nat) (current : List Int) (best : Option (Nat × Int)),
      Best values start best →
      (∀ index, start ≤ index → index < start + count →
        current[index]? = some (values index - weight members index)) →
      Best values (start + count)
          (scan members (List.range' start count) start current best).2 ∧
        ∀ index, (scan members (List.range' start count) start current best).1[index]? =
          if start ≤ index ∧ index < start + count then some (values index) else current[index]? := by
  induction count with
  | zero =>
    intro start current best known _
    refine ⟨known, fun index => ?_⟩
    rw [if_neg (by omega)]
    rfl
  | succ count ih =>
    intro start current best known reads
    have old := reads start (le_refl start) (by omega)
    have value : values start - weight members start + (weight members start : Int) =
        values start := by omega
    rw [List.range'_succ, scan, old]
    simp only [value]
    have later : ∀ index, start + 1 ≤ index → index < start + 1 + count →
        (current.set start (values start))[index]? =
          some (values index - weight members index) := by
      intro index after below
      rw [List.getElem?_set_ne (by omega)]
      exact reads index (by omega) (by omega)
    obtain ⟨found, written⟩ := ih (start + 1) _ _ known.step later
    refine ⟨by rwa [Nat.add_right_comm] at found, fun index => ?_⟩
    rw [written index]
    by_cases first : index = start
    · subst first
      have inside : index < current.length := (List.getElem?_eq_some_iff.mp old).1
      rw [if_neg (by omega), if_pos (by omega), List.getElem?_set_self inside]
    · rw [List.getElem?_set_ne (by omega)]
      by_cases inRange : start + 1 ≤ index ∧ index < start + 1 + count
      · rw [if_pos inRange, if_pos (by omega)]
      · rw [if_neg inRange, if_neg (by omega)]

end Loop

/-! ## Calls on all servers -/

section Rounds

variable (members : List GroupServer)

/-- The weight of each server. -/
def share (i : Fin members.length) : Nat := weight members i

/-- The best server that the loop finds for given values after the gain. -/
def best (values : Fin members.length → ℤ) : Option (Nat × Int) :=
  (scan members (everyServer members) 0
    (List.ofFn fun i => values i - (share members i : ℤ)) none).2

variable {members} (nonempty : 0 < members.length)

/-- The place of the best server. -/
def choose (values : Fin members.length → ℤ) : Fin members.length :=
  ((best members values).bind fun top =>
    if inside : top.1 < members.length then some ⟨top.1, inside⟩ else none).getD ⟨0, nonempty⟩

/-- The values as a function of the index. -/
def extend (values : Fin members.length → ℤ) (index : Nat) : Int :=
  if inside : index < members.length then values ⟨index, inside⟩ else 0

/-- The loop on all servers writes the values, and finds a server with a highest one. -/
theorem scan_all (values : Fin members.length → ℤ) :
    Best (extend values) members.length (best members values) ∧
      (scan members (everyServer members) 0
        (List.ofFn fun i => values i - (share members i : ℤ)) none).1 = List.ofFn values := by
  have ranged : everyServer members = List.range' 0 members.length := List.range_eq_range'
  have reads : ∀ index, 0 ≤ index → index < 0 + members.length →
      (List.ofFn fun i => values i - (share members i : ℤ))[index]? =
        some (extend values index - weight members index) := by
    intro index _ below
    have inside : index < members.length := by omega
    simp [extend, inside, share]
  obtain ⟨found, written⟩ := scan_spec (extend values) members.length 0 _ none rfl reads
  rw [← ranged, Nat.zero_add] at found
  rw [← ranged, Nat.zero_add] at written
  refine ⟨found, List.ext_getElem? fun index => ?_⟩
  rw [written index]
  by_cases inside : index < members.length
  · simp [extend, inside]
  · simp [inside]

theorem best_eq (values : Fin members.length → ℤ) :
    ∃ value, best members values = some ((choose nonempty values : Nat), value) ∧
      ∀ i, values i ≤ values (choose nonempty values) := by
  have found := (scan_all values).1
  cases top : best members values with
  | none =>
    rw [top] at found
    have empty : members.length = 0 := found
    omega
  | some best =>
    obtain ⟨position, value⟩ := best
    rw [top] at found
    obtain ⟨inside, isValue, highest⟩ := found
    have place : choose nonempty values = ⟨position, inside⟩ := by
      simp [choose, top, inside]
    rw [place]
    refine ⟨value, rfl, fun i => ?_⟩
    have below := highest i i.isLt
    rw [isValue] at below
    simpa [extend, inside] using below

theorem sum_shares : ((everyServer members).map fun index => (weight members index : ℤ)).sum =
    total (share members) := by
  have listed : (everyServer members).map (fun index => (weight members index : ℤ)) =
      List.ofFn fun i => (share members i : ℤ) := by
    rw [everyServer, ← List.map_coe_finRange_eq_range, List.map_map, List.ofFn_eq_map]
    rfl
  rw [listed, List.sum_ofFn, total, Nat.cast_sum]

/-- **A call on all servers is a round**: the server that the round picks comes first, and the
current weights are those after the round. -/
theorem orderRoundRobin_all (current : Fin members.length → ℤ) :
    (orderRoundRobin members (List.ofFn current) (everyServer members)).1.head? =
        some (pick (share members) (choose nonempty) current).val ∧
      (orderRoundRobin members (List.ofFn current) (everyServer members)).2 =
        List.ofFn (next (share members) (choose nonempty) current) := by
  have start : (fun i => gain (share members) current i -
      (share members i : ℤ)) = current := by
    funext i
    simp [gain]
  have written := (scan_all (gain (share members) current)).2
  obtain ⟨value, found, -⟩ := best_eq nonempty (gain (share members) current)
  rw [best, start] at found
  rw [start] at written
  have loop : scan members (everyServer members) 0 (List.ofFn current) none =
      (List.ofFn (gain (share members) current),
        some ((choose nonempty (gain (share members) current) : Nat), value)) :=
    Prod.ext written found
  have place : (everyServer members)[(choose nonempty
      (gain (share members) current) : Nat)]? =
      some (choose nonempty (gain (share members) current) : Nat) := by
    simp [everyServer]
  unfold orderRoundRobin
  rw [loop, sum_shares]
  dsimp only
  rw [place]
  constructor
  · rw [List.head?_append, List.head?_drop, place]
    rfl
  · apply List.ext_getElem?
    intro index
    by_cases inside : index < members.length
    · by_cases first : (choose nonempty (gain (share members) current)).val = index
      · have same : (⟨index, inside⟩ : Fin members.length) =
            pick (share members) (choose nonempty) current :=
          Fin.ext first.symm
        simp [inside, first, next, same]
      · have other : (⟨index, inside⟩ : Fin members.length) ≠
            pick (share members) (choose nonempty) current :=
          fun same => first (congrArg Fin.val same).symm
        simp [inside, first, next, other]
    · simp [inside]

theorem currentAfter_eq (calls : Nat) :
    currentAfter members calls = List.ofFn
      ((next (share members) (choose nonempty))^[calls] fun _ => 0) := by
  induction calls with
  | zero => simp [currentAfter, List.ofFn_const, List.map_const']
  | succ calls ih =>
    rw [currentAfter, ih, (orderRoundRobin_all nonempty _).2, Function.iterate_succ_apply']

/-- The servers that calls in a row put first are those that the rounds pick. -/
theorem firsts_eq (calls count : Nat) :
    ((List.range count).map fun call => firstAt members (calls + call)) =
      (picks (share members) (choose nonempty) count
        ((next (share members) (choose nonempty))^[calls]
          fun _ => 0)).map fun i => some i.val := by
  rw [picks_eq_map, List.map_map]
  apply List.map_congr_left
  intro call _
  rw [firstAt, currentAfter_eq nonempty, (orderRoundRobin_all nonempty _).1, Nat.add_comm,
    Function.iterate_add_apply]
  rfl

end Rounds

/-! ## Any number of calls -/

theorem currentAfter_nil (calls : Nat) : currentAfter [] calls = [] := by
  induction calls with
  | zero => rfl
  | succ calls ih => simp [currentAfter, ih, orderRoundRobin, everyServer, scan]

theorem share_total (members : List GroupServer) :
    total (share members) = (members.map GroupServer.weight).sum := by
  have listed : members.map GroupServer.weight = List.ofFn (share members) := by
    apply List.ext_getElem?
    intro index
    by_cases inside : index < members.length
    · simp [inside, share, weight]
    · simp [inside]
  rw [listed, List.sum_ofFn, total]

section Positive

variable {members : List GroupServer} (nonempty : 0 < members.length)

theorem choose_highest (values : Fin members.length → ℤ) (i : Fin members.length) :
    values i ≤ values (choose nonempty values) := by
  obtain ⟨-, -, highest⟩ := best_eq nonempty values
  exact highest i

variable (positive : ∀ member ∈ members, 0 < member.weight)

include nonempty positive in
theorem total_pos : 0 < total (share members) := by
  have first : members[0] ∈ members := List.getElem_mem nonempty
  have atLeast := List.single_le_sum (fun _ _ => Nat.zero_le _) _
    (List.mem_map_of_mem (f := GroupServer.weight) first)
  have some := positive members[0] first
  rw [share_total]
  omega

include nonempty positive in
/-- The current weights after some calls are those of balanced rounds. -/
theorem currentAfter_balanced (calls : Nat) :
    ∃ values : Fin members.length → ℤ, currentAfter members calls = List.ofFn values ∧
      SmoothRoundRobin.Balanced (share members) values :=
  ⟨_, currentAfter_eq nonempty calls,
    balanced_iterate (choose_highest nonempty) (total_pos nonempty positive) calls⟩

include positive in
/-- The weights are `u16` and the current weights `i64`, which cannot overflow for a group of less
than 2^23 servers: neither when a weight is added nor when the total is taken away. -/
theorem currentAfter_fits (u16 : ∀ member ∈ members, member.weight < 2 ^ 16)
    (few : members.length < 2 ^ 23) {calls : Nat} {value : ℤ}
    (member : value ∈ currentAfter members calls) :
    -(2 : ℤ) ^ 63 ≤ value ∧ value + 2 ^ 16 < 2 ^ 63 := by
  have nonempty : 0 < members.length := by
    cases members with
    | nil => simp [currentAfter_nil] at member
    | cons => exact Nat.succ_pos _
  obtain ⟨values, after, balanced⟩ := currentAfter_balanced nonempty positive calls
  rw [after, List.mem_ofFn] at member
  obtain ⟨i, rfl⟩ := member
  have weights : (members.map GroupServer.weight).sum ≤ members.length * 2 ^ 16 := by
    have each : ∀ weight ∈ members.map GroupServer.weight, weight ≤ 2 ^ 16 := by
      intro weight known
      obtain ⟨server, inside, rfl⟩ := List.mem_map.mp known
      exact le_of_lt (u16 server inside)
    have bound := List.sum_le_card_nsmul _ _ each
    rwa [List.length_map, smul_eq_mul] at bound
  rw [← share_total] at weights
  have lower := balanced.lower i
  have upper := balanced.upper i
  rw [Fintype.card_fin] at upper
  have product : members.length * total (share members) ≤ 2 ^ 23 * 2 ^ 39 :=
    Nat.mul_le_mul (by omega) (by omega)
  constructor
  · omega
  · linarith

theorem heaviest_weight_fits :
    let members : List GroupServer := [⟨"a:80", 65535, none, []⟩, ⟨"b:80", 1, none, []⟩]
    (-1) ∈ currentAfter members 1 ∧ -(2 : ℤ) ^ 63 ≤ -1 ∧ (-1 : ℤ) + 2 ^ 16 < 2 ^ 63 := by
  intro members
  have member : (-1) ∈ currentAfter members 1 := by decide
  exact ⟨member, currentAfter_fits (by decide) (by decide) (by decide) member⟩

end Positive

/-- **The round robin is exactly fair.**  While all servers of a group can take a request, any
calls in a row whose number is the sum of the weights put each server first exactly as often as its
weight says, all current weights are zero after each such block from the start, and after every
call they sum to zero and are greater than minus that sum. -/
theorem round_robin_is_fair (members : List GroupServer)
    (positive : ∀ member ∈ members, 0 < member.weight) (calls : Nat) :
    let total := (members.map GroupServer.weight).sum
    (currentAfter members calls).sum = 0 ∧
      (∀ value ∈ currentAfter members calls, -(total : ℤ) < value) ∧
      (∀ index < members.length, ((List.range total).map fun call =>
        firstAt members (calls + call)).count (some index) = weight members index) ∧
      currentAfter members (calls * total) = members.map fun _ => 0 := by
  intro total
  cases members with
  | nil => simp [total, currentAfter_nil]
  | cons first rest =>
    have nonempty : 0 < (first :: rest).length := Nat.succ_pos _
    have highest := choose_highest nonempty
    have someWeight := total_pos nonempty positive
    have isTotal : total = SmoothRoundRobin.total (share (first :: rest)) := (share_total _).symm
    obtain ⟨values, after, balanced⟩ := currentAfter_balanced nonempty positive calls
    refine ⟨?_, ?_, ?_, ?_⟩
    · rw [after, List.sum_ofFn]
      exact balanced.sum_eq
    · intro value member
      rw [after, List.mem_ofFn] at member
      obtain ⟨i, rfl⟩ := member
      rw [isTotal]
      exact balanced.lower i
    · intro index inside
      have injective : Function.Injective fun i : Fin (first :: rest).length => some i.val :=
        fun i j same => Fin.ext (Option.some.inj same)
      have counted := SmoothRoundRobin.count_picks_window highest someWeight calls ⟨index, inside⟩
      rw [firsts_eq nonempty, isTotal]
      rw [← List.count_map_of_injective _ _ injective] at counted
      exact counted
    · rw [currentAfter_eq nonempty, isTotal,
        SmoothRoundRobin.iterate_next_mul_total highest someWeight]
      simp [List.ofFn_const, List.map_const']

theorem round_robin_five_one_one :
    let members : List GroupServer :=
      [⟨"a:80", 5, none, []⟩, ⟨"b:80", 1, none, []⟩, ⟨"c:80", 1, none, []⟩]
    (∀ member ∈ members, 0 < member.weight) ∧
      ((List.range 7).map fun call => firstAt members (3 + call)).count (some 0) = 5 := by
  intro members
  have positive : ∀ member ∈ members, 0 < member.weight := by decide
  exact ⟨positive, (round_robin_is_fair members positive 3).2.2.1 0 (by decide)⟩

end R3v3rs3.Proxy.RoundRobin
