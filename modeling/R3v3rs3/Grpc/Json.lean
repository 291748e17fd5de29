/-
# R3v3rs3.Grpc.Json -- protobuf messages as JSON

Without a schema a length-delimited field is tried as a message first, then as text, and is shown in
hexadecimal otherwise.  Messages inside messages are tried to a depth of 32.  Nothing is skipped
here, so every field takes its slice: `json_exact` says that the decoder returns for just the data
in which no field that it comes to, at any depth, has a length that wraps.
-/
import R3v3rs3.Grpc.Proto

namespace R3v3rs3.Grpc
open Theory Theory.Walk
set_option autoImplicit false

inductive Value where
  | null
  | number (n : Int)
  /-- The number with these bits; `null` is what JSON has for one that is not finite. -/
  | float64 (bits : Nat)
  | float32 (bits : Nat)
  | string (text : String)
  | array (items : List Value)
  | object (fields : List (String × Value))

abbrev Map := List (String × Value)

/-- A field that is there already becomes an array. -/
def insertJsonField : Map → String → Value → Map
  | [], key, val => [(key, val)]
  | (other, existing) :: rest, key, val =>
    if other = key then
      match existing with
      | .array items => (other, .array (items ++ [val])) :: rest
      | prev => (other, .array [prev, val]) :: rest
    else (other, existing) :: insertJsonField rest key val

/-! ## Values -/

def decodeVarintValue (val : UInt64) : Value :=
  let signed := val.toInt64.toInt
  if signed < 0 then .number signed else .number val.toNat

/-- `from_le_bytes`. -/
def fromLeBytes (bytes : Bytes) : Nat := bytes.foldr (fun b rest => b.toNat + 256 * rest) 0

def hexEncode (bytes : Bytes) : String :=
  String.ofList (bytes.flatMap fun b => [(b.toNat / 16).digitChar, (b.toNat % 16).digitChar])

/-- `char::is_control`. -/
def isControl (c : Char) : Bool := c.toNat < 32 || (127 ≤ c.toNat && c.toNat < 160)

def isShown (c : Char) : Bool := !isControl c || c == '\n' || c == '\r' || c == '\t'

/-- `trySubmessage` is the attempt to read the bytes as a message. -/
def decodeLengthDelimited (trySubmessage : Nat → Bytes → Checked (Option Value)) (turns : Nat)
    (bytes : Bytes) : Checked Value :=
  if bytes.isEmpty then .ok (.string "")
  else do
    match ← trySubmessage turns bytes with
    | some sub => .ok sub
    | none =>
      match fromUtf8 bytes with
      | some text => .ok (.string (if text.toList.all isShown then text else hexEncode bytes))
      | none => .ok (.string (hexEncode bytes))

/-! ## Messages -/

/-- What is done with a field of a message; `key` names it. -/
def parseWireField (decode : Nat → Bytes → Checked Value) (key : Nat → String) (num wire : Nat) :
    Field Map :=
  if num = 0 then .fail
  else
    match wire with
    | 0 => .number fun val map => insertJsonField map (key num) (decodeVarintValue val)
    | 1 => .fixed 8 fun bytes map => insertJsonField map (key num) (.float64 (fromLeBytes bytes))
    | 2 => .strict fun turns bytes map =>
      (decode turns bytes).map fun val => insertJsonField map (key num) val
    | 5 => .fixed 4 fun bytes map => insertJsonField map (key num) (.float32 (fromLeBytes bytes))
    | _ => .fail

def maxRecursionDepth : Nat := 32

/-- `left` levels of messages may still be tried. -/
def tryDecodeSubmessage : Nat → Nat → Bytes → Checked (Option Value)
  | 0, _, _ => .ok none
  | left + 1, turns, data =>
    if data.isEmpty then .ok none
    else
      (fieldLoop turns (parseWireField (decodeLengthDelimited (tryDecodeSubmessage left)) toString)
        data []).map fun (map, complete) =>
          if complete && !map.isEmpty then some (.object map) else none

/-- The names of a schema, or the number of a field that has none. -/
def protobufToJson (turns : Nat) (data : Bytes) (schema : Nat → Option String) : Checked Value :=
  (fieldLoop turns
    (parseWireField (decodeLengthDelimited (tryDecodeSubmessage (maxRecursionDepth - 1)))
      fun num => (schema num).getD (toString num)) data []).map fun (map, _) => .object map

/-! ## The fields of a message -/

/-- Where the field at an offset leads to, whatever is decoded. -/
def wireSpan (data : Bytes) (q : Nat) : Span :=
  tableSpan (parseWireField (fun _ _ => .ok .null) toString) data q

theorem tableSpan_parseWireField (decode : Nat → Bytes → Checked Value) (key : Nat → String)
    (data : Bytes) (q : Nat) : tableSpan (parseWireField decode key) data q = wireSpan data q := by
  have same : ∀ num wire offset,
      (parseWireField decode key num wire).span num data offset wire =
        (parseWireField (fun _ _ => .ok .null) toString num wire).span num data offset wire := by
    intro num wire offset
    unfold parseWireField
    split
    · rfl
    · split <;> rfl
  unfold wireSpan tableSpan
  simp only [same]

/-- No field of the message has a length that wraps, nor has one of the messages in it. -/
def WholeMessage : Nat → Bytes → Prop
  | 0, _ => True
  | left + 1, data =>
    ∀ q, Reaches (fun q => (wireSpan data q).next) 0 q →
      (wireSpan data q).Clear fun _ => WholeMessage left

variable {data : Bytes} {fine : Bytes → Prop}

theorem lengthSpan_next {offset q : Nat} {inside : Bytes → Nat → Span} {beyond : Nat → Span}
    (next : (lengthSpan data offset inside beyond).next = some q)
    (within : ∀ bytes stop, offset ≤ stop → (inside bytes stop).next = some q → offset ≤ q)
    (after : ∀ here, offset ≤ here → (beyond here).next = some q → offset ≤ q) : offset ≤ q := by
  have later := readVarint_ge data offset
  unfold lengthSpan at next
  generalize readVarint data offset = read at later next
  obtain ⟨here, _ | length⟩ := read
  · cases next
  · dsimp only at later next
    split at next
    · cases next
    · split at next
      · exact within _ _ (by omega) next
      · exact after here later next

/-- Every field leads forward. -/
theorem wireSpan_forward {q next : Nat} (moves : (wireSpan data q).next = some next) :
    q < next := by
  unfold wireSpan tableSpan at moves
  split at moves
  · rename_i inside
    have first := readVarint_gt inside
    generalize readVarint data q = read at first moves
    obtain ⟨offset, _ | tag⟩ := read
    · cases moves
    · dsimp only at first moves
      unfold parseWireField at moves
      split at moves
      · cases moves
      · have later := readVarint_ge data offset
        split at moves
        · rw [Field.span] at moves
          generalize readVarint data offset = read at later moves
          obtain ⟨here, _ | val⟩ := read
          · cases moves
          · cases moves
            exact Nat.lt_of_lt_of_le first later
        · rw [Field.span] at moves
          split at moves <;> cases moves
          omega
        · rw [Field.span] at moves
          have past := lengthSpan_next moves
            (fun _ stop ordered same => by cases same; exact ordered) (fun _ _ none => by cases none)
          omega
        · rw [Field.span] at moves
          split at moves <;> cases moves
          omega
        · cases moves
  · cases moves

theorem orderly_wireSpan_iff :
    Orderly (wireSpan data) (fun _ => fine) ↔
      ∀ q, Reaches (fun q => (wireSpan data q).next) 0 q →
        (wireSpan data q).Clear fun _ => fine := by
  constructor
  · intro orderly q reaches
    exact (orderly q reaches).1
  · intro clear q reaches
    exact ⟨clear q reaches, not_returns_of_forward (fun _ _ _ moves => wireSpan_forward moves)
      reaches⟩

/-! ## Which data are decoded -/

/-- The loop over the fields of a message, whose length-delimited fields are decoded by `decode`. -/
theorem wireLoop_exact {decode : Nat → Bytes → Checked Value} (key : Nat → String)
    (exact : Exact (fun turns bytes (_ : Unit) => decode turns bytes) fine) :
    Exact (fun turns data map => fieldLoop turns (parseWireField decode key) data map)
      fun data => ∀ q, Reaches (fun q => (wireSpan data q).next) 0 q →
        (wireSpan data q).Clear fun _ => fine := by
  have table : ExactTable (parseWireField decode key) fun _ => fine := by
    constructor
    · intro num wire size store same
      unfold parseWireField at same
      split at same
      · cases same
      · split at same <;> cases same <;> decide
    · intro num wire other known
      unfold parseWireField at known
      split at known
      · cases known
      · split at known <;> cases known
        exact exact.post (fun _ => ()) _
  have spans : ∀ data, tableSpan (parseWireField decode key) data = wireSpan data :=
    fun data => funext (tableSpan_parseWireField decode key data)
  have loop := fieldLoop_exact table
  simp only [spans, orderly_wireSpan_iff] at loop
  exact loop

theorem decodeLengthDelimited_exact {trySubmessage : Nat → Bytes → Checked (Option Value)}
    (empty : fine [])
    (tried : Exact (fun turns bytes (_ : Unit) => trySubmessage turns bytes) fine) :
    Exact (fun turns bytes (_ : Unit) => decodeLengthDelimited trySubmessage turns bytes) fine := by
  constructor
  · intro turns data _ result fits ok
    cases data with
    | nil => exact empty
    | cons b rest =>
      cases sub : trySubmessage turns (b :: rest) with
      | error =>
        rw [decodeLengthDelimited, sub] at ok
        cases ok
      | ok => exact tried.sound () fits sub
  · intro turns data _ fits enough good
    obtain ⟨sub, ok⟩ := tried.complete () fits enough good
    unfold decodeLengthDelimited
    split
    · exact ⟨_, rfl⟩
    · rw [ok]
      cases sub with
      | some => exact ⟨_, rfl⟩
      | none =>
        cases fromUtf8 data with
        | some | none => exact ⟨_, rfl⟩

/-- Empty data have no field. -/
theorem wholeMessage_nil (left : Nat) : WholeMessage left [] := by
  cases left with
  | zero => exact trivial
  | succ =>
    intro q _
    exact ⟨nofun, nofun⟩

theorem tryDecodeSubmessage_exact (left : Nat) :
    Exact (fun turns bytes (_ : Unit) => tryDecodeSubmessage left turns bytes)
      (WholeMessage left) := by
  induction left with
  | zero =>
    constructor
    · intros
      exact trivial
    · intros
      exact ⟨none, rfl⟩
  | succ left ih =>
    have loop := wireLoop_exact toString
      (decodeLengthDelimited_exact (wholeMessage_nil left) ih)
    have post := loop.post (fun (_ : Unit) => []) fun _ (map, complete) =>
      if complete && !map.isEmpty then some (Value.object map) else none
    constructor
    · intro turns data _ result fits ok
      cases data with
      | nil => exact wholeMessage_nil _
      | cons => exact post.sound () fits ok
    · intro turns data _ fits enough good
      rw [tryDecodeSubmessage]
      split
      · exact ⟨none, rfl⟩
      · exact post.complete () fits enough good

/-- **The decoder returns for just the data that have no length that wraps.** -/
theorem json_exact (schema : Nat → Option String) :
    Exact (fun turns data (_ : Unit) => protobufToJson turns data schema)
      (WholeMessage maxRecursionDepth) := by
  have loop := wireLoop_exact (fun num => (schema num).getD (toString num))
    (decodeLengthDelimited_exact (wholeMessage_nil (maxRecursionDepth - 1))
      (tryDecodeSubmessage_exact (maxRecursionDepth - 1)))
  exact loop.post (fun (_ : Unit) => []) fun _ (map, _) => Value.object map

end R3v3rs3.Grpc
