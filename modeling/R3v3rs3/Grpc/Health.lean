/-
# R3v3rs3.Grpc.Health -- the answer to a health check

`parse_health_check_response` reads fields until it comes to the status.  It takes no slice, so it
cannot panic; a field that it does not know is skipped with the length that the server wrote, and
the sum wraps.  A length just below `2 ^ 64` so leads to an offset at or before the field itself.

`progress_iff_no_length_leads_back` is the measure of the loop: every iteration goes forward, and
so no more of them are made than there are bytes, for just the payloads in which no such length is
come to.  Whether the loop ends at all is `parseHealthCheckResponse_ends_iff`: a length may lead
back to the middle of a field and the loop go on from there to an end.
-/
import R3v3rs3.Grpc.Proto

namespace R3v3rs3.Grpc
open Theory Theory.Walk
set_option autoImplicit false

inductive GrpcServingStatus where
  | unknown
  | serving
  | notServing
  | serviceUnknown
  deriving DecidableEq

def GrpcServingStatus.fromU64 (val : UInt64) : GrpcServingStatus :=
  if val = 1 then .serving
  else if val = 2 then .notServing
  else if val = 3 then .serviceUnknown
  else .unknown

/-- `skip_wire_field`: the offset after the field. -/
def skipWireField (payload : Bytes) (offset wire : Nat) : Nat :=
  match wire with
  | 0 => (readVarint payload offset).1
  | 1 => min (addUsize offset 8) payload.length
  | 2 =>
    match readVarint payload offset with
    | (offset, some len) => min (addUsize offset len.toNat) payload.length
    | (offset, none) => offset
  | 5 => min (addUsize offset 4) payload.length
  | _ => offset

/-- One iteration of the loop of `parse_health_check_response`. -/
def healthTurn (payload : Bytes) (offset : Nat) : Turn Nat GrpcServingStatus :=
  if offset < payload.length then
    match readVarint payload offset with
    | (_, none) => .done .unknown
    | (offset, some tagRaw) =>
      if fieldNum tagRaw = 1 ∧ wireType tagRaw = 0 then
        match readVarint payload offset with
        | (_, some val) => .done (.fromU64 val)
        | (_, none) => .done .unknown
      else .next (skipWireField payload offset (wireType tagRaw))
  else .done .unknown

def parseHealthCheckResponse (turns : Nat) (payload : Bytes) : Checked GrpcServingStatus :=
  run .unfinished (fun offset => .ok (healthTurn payload offset)) turns 0

/-! ## The walk over the offsets -/

def healthNext (payload : Bytes) (q : Nat) : Option Nat :=
  match healthTurn payload q with
  | .next offset => some offset
  | .done _ => none

variable {payload : Bytes} {q : Nat}

theorem healthNext_eq_some {next : Nat} :
    healthNext payload q = some next ↔ healthTurn payload q = .next next := by
  unfold healthNext
  cases healthTurn payload q with
  | next | done => simp

theorem health_follows (payload : Bytes) :
    Follows (fun offset => (.ok (healthTurn payload offset) : Checked _)) id (healthNext payload)
      payload.length where
  next_of {state after} ok := by
    have turned : healthTurn payload state = .next after := Except.ok.inj ok
    exact healthNext_eq_some.mpr turned
  done_of {state result} ok := by
    have turned : healthTurn payload state = .done result := Except.ok.inj ok
    rw [healthNext, id_eq, turned]
  inside {p q} moves := by
    by_cases inside : p < payload.length
    · exact inside
    · rw [healthNext_eq_some, healthTurn, if_neg inside] at moves
      cases moves

/-- **The loop ends** for just the payloads in which it comes to no offset that leads back to
itself. -/
theorem parseHealthCheckResponse_ends_iff (payload : Bytes) :
    (∃ turns status, parseHealthCheckResponse turns payload = .ok status) ↔
      ∀ q, Reaches (healthNext payload) 0 q → ¬ Returns (healthNext payload) q := by
  constructor
  · rintro ⟨turns, status, ok⟩ q reaches
    exact (run_ok_reaches (health_follows payload) (fun _ => True) (fun _ _ _ => trivial) ok
      reaches).2
  · intro free
    refine ⟨payload.length + 1, ?_⟩
    exact run_ok_of_acyclic (health_follows payload) (Nat.lt_succ_self _)
      fun q reaches => ⟨fun _ _ => ⟨_, rfl⟩, free q reaches⟩

/-! ## Progress -/

/-- The field at `q` is skipped with a length that wraps to an offset at or before `q`. -/
def LeadsBack (payload : Bytes) (q : Nat) : Prop :=
  q < payload.length ∧ ∃ offset tag here len,
    readVarint payload q = (offset, some tag) ∧ wireType tag = 2 ∧
      readVarint payload offset = (here, some len) ∧ usizeSize ≤ here + len.toNat ∧
      here + len.toNat - usizeSize ≤ q

/-- What an iteration that goes on has read. -/
theorem healthTurn_next {next : Nat} (turned : healthTurn payload q = .next next) :
    q < payload.length ∧ ∃ offset tag, readVarint payload q = (offset, some tag) ∧
      next = skipWireField payload offset (wireType tag) := by
  unfold healthTurn at turned
  split at turned
  · rename_i inside
    refine ⟨inside, ?_⟩
    split at turned
    · cases turned
    · rename_i offset tag read
      split at turned
      · split at turned <;> cases turned
      · cases turned
        exact ⟨offset, tag, read, rfl⟩
  · cases turned

/-- A field of a fixed size is skipped to its end or to the end of the payload. -/
theorem le_min_addUsize {offset size : Nat} (inside : offset ≤ payload.length)
    (fits : payload.length ≤ maxSlice) (small : size ≤ 8) :
    offset ≤ min (addUsize offset size) payload.length := by
  have sum : addUsize offset size = offset + size :=
    addUsize_of_lt (by unfold usizeSize maxSlice at *; omega)
  rw [sum]
  omega

/-- Only a length that wraps leads back. -/
theorem lt_skipWireField {offset : Nat} {tag : UInt64} (fits : payload.length ≤ maxSlice)
    (inside : q < payload.length) (read : readVarint payload q = (offset, some tag))
    (ahead : ¬ LeadsBack payload q) : q < skipWireField payload offset (wireType tag) := by
  have start : q < offset := by
    have later := readVarint_gt inside
    rwa [read] at later
  have most : offset ≤ payload.length := by
    have bound := readVarint_le (Nat.le_of_lt inside)
    rwa [read] at bound
  unfold skipWireField
  split
  · exact Nat.lt_of_lt_of_le start (readVarint_ge payload offset)
  · exact Nat.lt_of_lt_of_le start (le_min_addUsize most fits (by decide))
  · rename_i wire
    have later := readVarint_ge payload offset
    split
    · rename_i here len length
      rw [length] at later
      have bound := len.toNat_lt
      have short := readVarint_le most
      rw [length] at short
      by_cases wraps : usizeSize ≤ here + len.toNat
      · have past : q < here + len.toNat - usizeSize := by
          apply Nat.lt_of_not_le
          intro back
          exact ahead ⟨inside, offset, tag, here, len, read, wire, length, wraps, back⟩
        rw [addUsize_of_wraps wraps (by unfold usizeSize maxSlice at *; omega) bound]
        exact Nat.lt_min.mpr ⟨past, inside⟩
      · rw [addUsize_of_lt (Nat.lt_of_not_le wraps)]
        omega
    · rename_i here length
      rw [length] at later
      exact Nat.lt_of_lt_of_le start later
  · exact Nat.lt_of_lt_of_le start (le_min_addUsize most fits (by decide))
  · exact start

/-- A field that leads back is read again from where it leads to. -/
theorem healthTurn_of_leadsBack (fits : payload.length ≤ maxSlice) (back : LeadsBack payload q) :
    ∃ next, healthTurn payload q = .next next ∧ next ≤ q := by
  obtain ⟨inside, offset, tag, here, len, read, wire, length, wraps, lower⟩ := back
  have short : here ≤ payload.length := by
    have start := readVarint_le (Nat.le_of_lt inside)
    rw [read] at start
    have bound := readVarint_le start
    rwa [length] at bound
  have sum := addUsize_of_wraps wraps (by unfold usizeSize maxSlice at *; omega) len.toNat_lt
  refine ⟨skipWireField payload offset (wireType tag), ?_, ?_⟩
  · rw [healthTurn, if_pos inside, read]
    dsimp only
    rw [if_neg (by rw [wire]; exact fun known => absurd known.2 (by decide))]
  · rw [wire, skipWireField, length]
    dsimp only
    rw [sum]
    exact Nat.le_trans (Nat.min_le_left _ _) lower

/-- **Every iteration goes forward or returns**, so that the loop ends within as many iterations as
there are bytes (the last turn only finds the end), for just the payloads in which it comes to no
length that leads back. -/
theorem progress_iff_no_length_leads_back (payload : Bytes) (fits : payload.length ≤ maxSlice) :
    ((∀ q next, Reaches (healthNext payload) 0 q → healthTurn payload q = .next next → q < next) ∧
        ∃ status, parseHealthCheckResponse (payload.length + 1) payload = .ok status) ↔
      ∀ q, Reaches (healthNext payload) 0 q → ¬ LeadsBack payload q := by
  constructor
  · rintro ⟨forward, -⟩ q reaches back
    obtain ⟨next, turned, lower⟩ := healthTurn_of_leadsBack fits back
    have later := forward q next reaches turned
    omega
  · intro ahead
    have forward : ∀ q next, Reaches (healthNext payload) 0 q →
        healthTurn payload q = .next next → q < next := by
      intro q next reaches turned
      obtain ⟨inside, offset, tag, read, rfl⟩ := healthTurn_next turned
      exact lt_skipWireField fits inside read (ahead q reaches)
    refine ⟨forward, ?_⟩
    refine run_ok_of_acyclic (health_follows payload) (Nat.lt_succ_self _) fun q reaches => ?_
    refine ⟨fun _ _ => ⟨_, rfl⟩, not_returns_of_forward ?_ reaches⟩
    intro p next there moves
    exact forward p next there (healthNext_eq_some.mp moves)

/-- A field of number 2 with one byte, then `SERVING`. -/
def twoFields : Bytes := [0x12, 0x01, 0x61, 0x08, 0x01]

/-- The first field is skipped, and the status is found. -/
theorem serving_answer_progress :
    twoFields.length ≤ maxSlice ∧ healthTurn twoFields 0 = .next 3 ∧
      (∀ q next, Reaches (healthNext twoFields) 0 q → healthTurn twoFields q = .next next →
        q < next) ∧
      ∃ status, parseHealthCheckResponse 6 twoFields = .ok status := by
  have fits : twoFields.length ≤ maxSlice := by decide
  have first : healthNext twoFields 0 = some 3 := rfl
  have last : healthNext twoFields 3 = none := rfl
  have ahead : ∀ q, Reaches (healthNext twoFields) 0 q → ¬ LeadsBack twoFields q := by
    rintro q reaches ⟨-, offset, tag, here, len, read, wire, length, wraps, -⟩
    rcases reaches_cases reaches with rfl | ⟨middle, moves, further⟩
    · have known : readVarint twoFields 0 = (1, some 0x12) := rfl
      cases known.symm.trans read
      have short : readVarint twoFields 1 = (2, some 1) := rfl
      cases short.symm.trans length
      exact absurd wraps (by decide)
    · cases first.symm.trans moves
      rcases reaches_cases further with rfl | ⟨next, moves, -⟩
      · have known : readVarint twoFields 3 = (4, some 0x08) := rfl
        cases known.symm.trans read
        exact absurd wire (by decide)
      · cases last.symm.trans moves
  exact ⟨fits, rfl, (progress_iff_no_length_leads_back twoFields fits).mpr ahead⟩

/-- A field of number 2 with the length `2 ^ 64 - 11`: eleven bytes that lead back to the first. -/
def endlessAnswer : Bytes :=
  [0x12, 0xf5, 0xff, 0xff, 0xff, 0xff, 0xff, 0xff, 0xff, 0xff, 0x01]

/-- The probe that gets this answer never finishes. -/
theorem endlessAnswer_never_ends :
    healthTurn endlessAnswer 0 = .next 0 ∧
      ∀ turns, parseHealthCheckResponse turns endlessAnswer = .error .unfinished := by
  have again : healthTurn endlessAnswer 0 = .next 0 := rfl
  refine ⟨again, fun turns => ?_⟩
  induction turns with
  | zero => rfl
  | succ turns ih =>
    rw [parseHealthCheckResponse, run, again]
    exact ih

end R3v3rs3.Grpc
