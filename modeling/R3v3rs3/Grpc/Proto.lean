/-
# R3v3rs3.Grpc.Proto -- the protobuf wire format

The decoders read what a gRPC server sends.  An offset moves through the data; numbers are varints,
and a length that the server wrote is added to the offset.  `usize` has 64 bits and its addition
wraps in a release build, so a length near `2 ^ 64` passes the check against the end of the data:
the slice that follows then starts after it stops, which is a panic, and where the field is only
skipped the offset moves back.

All loops over fields are one loop with a table of what is done with each field (`Field`).  What a
field does to the offset is its `Span`, and `Exact` says that a decoder returns for just the data
that meet a condition on the spans: no slice has a length that wrapped, the slices that are decoded
in turn meet their condition, and no skip leads back to a field that was read before.
-/
import R3v3rs3.Theory.Walk

namespace R3v3rs3.Grpc
open Theory Theory.Walk
set_option autoImplicit false

abbrev Bytes := List UInt8

/-- The number of values of a `usize`. -/
def usizeSize : Nat := 18446744073709551616

/-- The longest slice: `isize::MAX` bytes. -/
def maxSlice : Nat := 9223372036854775807

/-- Addition of `usize` in the release profile. -/
def addUsize (a b : Nat) : Nat := (a + b) % usizeSize

theorem addUsize_of_lt {a b : Nat} (small : a + b < usizeSize) : addUsize a b = a + b :=
  Nat.mod_eq_of_lt small

/-- An addition that wraps comes to less than each of its terms. -/
theorem addUsize_of_wraps {a b : Nat} (wraps : usizeSize ≤ a + b) (first : a < usizeSize)
    (second : b < usizeSize) : addUsize a b = a + b - usizeSize := by
  rw [addUsize, Nat.mod_eq_sub_mod wraps, Nat.mod_eq_of_lt (by omega)]

inductive Fault where
  | panic
  /-- The loop made more turns than it was given. -/
  | unfinished
  deriving DecidableEq

abbrev Checked (α : Type) := Except Fault α

def cut (data : Bytes) (start stop : Nat) : Bytes := (data.drop start).take (stop - start)

theorem cut_length_le (data : Bytes) (start stop : Nat) :
    (cut data start stop).length ≤ data.length := by
  rw [cut, List.length_take, List.length_drop]
  omega

/-- `&data[start..stop]`. -/
def slice (data : Bytes) (start stop : Nat) : Checked Bytes :=
  if start ≤ stop ∧ stop ≤ data.length then .ok (cut data start stop) else .error .panic

theorem slice_of_inside {data : Bytes} {start stop : Nat} (ordered : start ≤ stop)
    (inside : stop ≤ data.length) : slice data start stop = .ok (cut data start stop) :=
  if_pos ⟨ordered, inside⟩

/-! ## Varints -/

/-- Reads groups of seven bits; says how many bytes it read, also where it finds no number. -/
def varint : Bytes → Nat → UInt64 → Nat × Option UInt64
  | [], _, _ => (0, none)
  | b :: rest, shift, val =>
    let val := val ||| ((b &&& 0x7f).toUInt64 <<< shift.toUInt64)
    if b &&& 0x80 = 0 then (1, some val)
    else if 64 ≤ shift + 7 then (1, none)
    else
      let (more, read) := varint rest (shift + 7) val
      (more + 1, read)

/-- The offset after the varint, and its value. -/
def readVarint (data : Bytes) (offset : Nat) : Nat × Option UInt64 :=
  let (length, read) := varint (data.drop offset) 0 0
  (offset + length, read)

theorem varint_length_le (data : Bytes) (shift : Nat) (val : UInt64) :
    (varint data shift val).1 ≤ data.length := by
  induction data generalizing shift val with
  | nil => exact Nat.le_refl 0
  | cons b rest ih =>
    simp only [varint, List.length_cons]
    split
    · omega
    · split
      · omega
      · have rest := ih (shift + 7) (val ||| ((b &&& 0x7f).toUInt64 <<< shift.toUInt64))
        omega

theorem readVarint_ge (data : Bytes) (offset : Nat) : offset ≤ (readVarint data offset).1 :=
  Nat.le_add_right _ _

theorem readVarint_le {data : Bytes} {offset : Nat} (inside : offset ≤ data.length) :
    (readVarint data offset).1 ≤ data.length := by
  have most := varint_length_le (data.drop offset) 0 0
  rw [List.length_drop] at most
  rw [readVarint]
  dsimp only
  omega

theorem readVarint_gt {data : Bytes} {offset : Nat} (inside : offset < data.length) :
    offset < (readVarint data offset).1 := by
  rw [readVarint]
  dsimp only
  cases rest : data.drop offset with
  | nil =>
    have short := congrArg List.length rest
    rw [List.length_drop, List.length_nil] at short
    omega
  | cons b more =>
    have read : 0 < (varint (b :: more) 0 0).1 := by
      simp only [varint]
      split
      · exact Nat.one_pos
      · split
        · exact Nat.one_pos
        · exact Nat.succ_pos _
    omega

/-! ## Fields -/

/-- `(tag >> 3) as u32`. -/
def fieldNum (tag : UInt64) : Nat := (tag >>> 3).toUInt32.toNat

/-- `(tag & 7) as u8`. -/
def wireType (tag : UInt64) : Nat := (tag &&& 7).toUInt8.toNat

/-- A decoder, whose loops make no more than the given number of turns. -/
abbrev Decoder (Acc : Type) := (turns : Nat) → Bytes → Acc → Checked Acc

/-- What a decoder does with a field. -/
inductive Field (Acc : Type) where
  /-- `read_string_field_at`. -/
  | text (store : String → Acc → Acc)
  | number (store : UInt64 → Acc → Acc)
  /-- So many bytes. -/
  | fixed (size : Nat) (store : Bytes → Acc → Acc)
  /-- A message; one that is longer than the data is passed by. -/
  | message (decode : Decoder Acc)
  /-- A message; one that is longer than the data ends the loop. -/
  | strict (decode : Decoder Acc)
  /-- A text that is the result. -/
  | lastText (store : String → Acc → Acc)
  /-- A message that is the result. -/
  | last (decode : Decoder Acc)
  /-- `skip_field`. -/
  | skip
  | fail

/-- What became of a field. -/
inductive Handled (Acc : Type) where
  | failed
  | goes (offset : Nat) (acc : Acc)
  | returns (acc : Acc)

/-- `std::str::from_utf8`. -/
def fromUtf8 (bytes : Bytes) : Option String := String.fromUTF8? ⟨bytes.toArray⟩

/-- The bytes of a length that was read, when it passes the check against the end of the data. -/
def delimited (data : Bytes) (offset : Nat) (length : UInt64) : Checked (Option Bytes) :=
  if addUsize offset length.toNat ≤ data.length then
    (slice data offset (addUsize offset length.toNat)).map some
  else .ok none

/-- `skip_field`: the offset after the field. -/
def skipField (data : Bytes) (offset wire : Nat) : Option Nat :=
  match wire with
  | 0 =>
    match readVarint data offset with
    | (offset, some _) => some offset
    | (_, none) => none
  | 1 => if addUsize offset 8 ≤ data.length then some (addUsize offset 8) else none
  | 2 =>
    match readVarint data offset with
    | (offset, some length) =>
      if addUsize offset length.toNat ≤ data.length then some (addUsize offset length.toNat)
      else none
    | (_, none) => none
  | 5 => if addUsize offset 4 ≤ data.length then some (addUsize offset 4) else none
  | _ => none

variable {Acc : Type} {turns : Nat} {acc : Acc}

/-- A field of a length that was read: `inside` for its bytes, `beyond` for a length that does not
pass the check. -/
def lengthDelimited (data : Bytes) (offset : Nat) (inside : Bytes → Nat → Checked (Handled Acc))
    (beyond : Nat → Handled Acc) : Checked (Handled Acc) :=
  match readVarint data offset with
  | (_, none) => .ok .failed
  | (offset, some length) => do
    match ← delimited data offset length with
    | some bytes => inside bytes (addUsize offset length.toNat)
    | none => .ok (beyond offset)

/-- The text of the field goes on to `next`; what is not UTF-8 fails. -/
def readText (next : String → Nat → Handled Acc) (bytes : Bytes) (stop : Nat) :
    Checked (Handled Acc) :=
  match fromUtf8 bytes with
  | some text => .ok (next text stop)
  | none => .ok .failed

def handle (turns : Nat) (data : Bytes) (offset wire : Nat) (acc : Acc) :
    Field Acc → Checked (Handled Acc)
  | .text store =>
    lengthDelimited data offset (readText fun text stop => .goes stop (store text acc))
      fun _ => .failed
  | .lastText store =>
    lengthDelimited data offset (readText fun text _ => .returns (store text acc))
      fun _ => .failed
  | .number store =>
    match readVarint data offset with
    | (offset, some value) => .ok (.goes offset (store value acc))
    | (_, none) => .ok .failed
  | .fixed size store =>
    if data.length < addUsize offset size then .ok .failed
    else (slice data offset (addUsize offset size)).map fun bytes =>
      .goes (addUsize offset size) (store bytes acc)
  | .message decode =>
    lengthDelimited data offset (fun bytes stop => (decode turns bytes acc).map (.goes stop))
      fun offset => .goes offset acc
  | .strict decode =>
    lengthDelimited data offset (fun bytes stop => (decode turns bytes acc).map (.goes stop))
      fun _ => .failed
  | .last decode =>
    lengthDelimited data offset (fun bytes _ => (decode turns bytes acc).map .returns)
      fun _ => .failed
  | .skip =>
    match skipField data offset wire with
    | some offset => .ok (.goes offset acc)
    | none => .ok .failed
  | .fail => .ok .failed

/-- One turn of a loop over fields.  A loop ends with what it has, and says whether it came to the
end of the data or to a result. -/
def turn (turns : Nat) (table : Nat → Nat → Field Acc) (data : Bytes) (state : Nat × Acc) :
    Checked (Turn (Nat × Acc) (Acc × Bool)) :=
  if state.1 < data.length then
    match readVarint data state.1 with
    | (_, none) => .ok (.done (state.2, false))
    | (offset, some tag) => do
      match ← handle turns data offset (wireType tag) state.2
          (table (fieldNum tag) (wireType tag)) with
      | .failed => .ok (.done (state.2, false))
      | .goes offset acc => .ok (.next (offset, acc))
      | .returns acc => .ok (.done (acc, true))
  else .ok (.done (state.2, true))

def fieldLoop (turns : Nat) (table : Nat → Nat → Field Acc) (data : Bytes) (acc : Acc) :
    Checked (Acc × Bool) :=
  run .unfinished (turn turns table data) turns (0, acc)

/-! ## What a field does to the offset -/

/-- Where a loop goes from a field. -/
inductive Span where
  /-- It ends. -/
  | stop
  | goto (offset : Nat)
  /-- It takes a slice with a length that wrapped. -/
  | wraps
  /-- It decodes the message of a field, and ends unless there is an offset to go to. -/
  | bytes (num : Nat) (bytes : Bytes) (next : Option Nat)

def Span.next : Span → Option Nat
  | .goto offset => some offset
  | .bytes _ _ next => next
  | .stop => none
  | .wraps => none

def lengthSpan (data : Bytes) (offset : Nat) (inside : Bytes → Nat → Span) (beyond : Nat → Span) :
    Span :=
  match readVarint data offset with
  | (_, none) => .stop
  | (offset, some length) =>
    if usizeSize ≤ offset + length.toNat then .wraps
    else if offset + length.toNat ≤ data.length then
      inside (cut data offset (offset + length.toNat)) (offset + length.toNat)
    else beyond offset

def Field.span (num : Nat) (data : Bytes) (offset wire : Nat) : Field Acc → Span
  | .text _ =>
    lengthSpan data offset
      (fun bytes stop => if (fromUtf8 bytes).isSome then .goto stop else .stop) fun _ => .stop
  | .lastText _ => lengthSpan data offset (fun _ _ => .stop) fun _ => .stop
  | .number _ =>
    match readVarint data offset with
    | (offset, some _) => .goto offset
    | (_, none) => .stop
  | .fixed size _ => if data.length < offset + size then .stop else .goto (offset + size)
  | .message _ => lengthSpan data offset (fun bytes stop => .bytes num bytes (some stop)) .goto
  | .strict _ =>
    lengthSpan data offset (fun bytes stop => .bytes num bytes (some stop)) fun _ => .stop
  | .last _ => lengthSpan data offset (fun bytes _ => .bytes num bytes none) fun _ => .stop
  | .skip =>
    match skipField data offset wire with
    | some offset => .goto offset
    | none => .stop
  | .fail => .stop

/-- The span of the field at an offset. -/
def tableSpan (table : Nat → Nat → Field Acc) (data : Bytes) (q : Nat) : Span :=
  if q < data.length then
    match readVarint data q with
    | (_, none) => .stop
    | (offset, some tag) =>
      (table (fieldNum tag) (wireType tag)).span (fieldNum tag) data offset (wireType tag)
  else .stop

/-- The loop takes no slice with a length that wrapped, and a message that it decodes is fine. -/
def Span.Clear (fine : Nat → Bytes → Prop) (span : Span) : Prop :=
  span ≠ .wraps ∧ ∀ num bytes next, span = .bytes num bytes next → fine num bytes

/-- From the first field on, every span is clear and no field is read again. -/
def Orderly (span : Nat → Span) (fine : Nat → Bytes → Prop) : Prop :=
  ∀ q, Reaches (fun q => (span q).next) 0 q →
    (span q).Clear fine ∧ ¬ Returns (fun q => (span q).next) q

/-! ## Spans and outcomes -/

/-- The decoder of the messages of a field. -/
def Field.decoder? : Field Acc → Option (Decoder Acc)
  | .message decode => some decode
  | .strict decode => some decode
  | .last decode => some decode
  | _ => none

/-- The bytes are decoded, where they are a message. -/
def Field.Takes (turns : Nat) (acc : Acc) (field : Field Acc) (bytes : Bytes) : Prop :=
  ∀ decode, field.decoder? = some decode → ∃ result, decode turns bytes acc = .ok result

/-- An outcome that is what a span says, where `takes` are the messages that decode. -/
def Agrees (takes : Bytes → Prop) (outcome : Checked (Handled Acc)) : Span → Prop
  | .stop => outcome = .ok .failed ∨ ∃ acc, outcome = .ok (.returns acc)
  | .goto offset => ∃ acc, outcome = .ok (.goes offset acc)
  | .wraps => outcome = .error .panic
  | .bytes _ bytes none =>
    (takes bytes ∧ ∃ acc, outcome = .ok (.returns acc)) ∨
      (¬ takes bytes ∧ ∃ fault, outcome = .error fault)
  | .bytes _ bytes (some offset) =>
    (takes bytes ∧ ∃ acc, outcome = .ok (.goes offset acc)) ∨
      (¬ takes bytes ∧ ∃ fault, outcome = .error fault)

section Agreement

variable {takes : Bytes → Prop} {data : Bytes} {offset : Nat} {length : UInt64}
  {field : Field Acc} {num : Nat}

theorem agrees_failed : Agrees takes (.ok .failed : Checked (Handled Acc)) .stop := .inl rfl

theorem agrees_goes (offset : Nat) (acc : Acc) :
    Agrees takes (.ok (.goes offset acc)) (.goto offset) := ⟨acc, rfl⟩

theorem delimited_of_wraps (inside : offset ≤ data.length) (fits : data.length ≤ maxSlice)
    (wraps : usizeSize ≤ offset + length.toNat) : delimited data offset length = .error .panic := by
  have bound := length.toNat_lt
  have sum := addUsize_of_wraps wraps (by unfold usizeSize maxSlice at *; omega) bound
  have back : addUsize offset length.toNat < offset := by
    unfold usizeSize at *
    omega
  rw [delimited, if_pos (by omega), slice, if_neg (by omega)]
  rfl

theorem delimited_of_inside (fits : data.length ≤ maxSlice)
    (inside : offset + length.toNat ≤ data.length) :
    delimited data offset length = .ok (some (cut data offset (offset + length.toNat))) := by
  have sum : addUsize offset length.toNat = offset + length.toNat :=
    addUsize_of_lt (by unfold usizeSize maxSlice at *; omega)
  rw [delimited, sum, if_pos inside, slice_of_inside (Nat.le_add_right _ _) inside]
  rfl

theorem lengthDelimited_agrees {inside : Bytes → Nat → Checked (Handled Acc)}
    {beyond : Nat → Handled Acc} {spanInside : Bytes → Nat → Span} {spanBeyond : Nat → Span}
    (start : offset ≤ data.length) (fits : data.length ≤ maxSlice)
    (within : ∀ bytes stop, Agrees takes (inside bytes stop) (spanInside bytes stop))
    (after : ∀ offset, Agrees takes (.ok (beyond offset)) (spanBeyond offset)) :
    Agrees takes (lengthDelimited data offset inside beyond)
      (lengthSpan data offset spanInside spanBeyond) := by
  have most := readVarint_le start
  unfold lengthDelimited lengthSpan
  generalize readVarint data offset = read at most ⊢
  obtain ⟨here, _ | length⟩ := read
  · exact agrees_failed
  · dsimp only at most ⊢
    by_cases wraps : usizeSize ≤ here + length.toNat
    · rw [delimited_of_wraps most fits wraps, if_pos wraps]
      rfl
    · rw [if_neg wraps]
      by_cases short : here + length.toNat ≤ data.length
      · rw [delimited_of_inside fits short, if_pos short, addUsize_of_lt (Nat.lt_of_not_le wraps)]
        exact within _ _
      · rw [delimited, addUsize_of_lt (Nat.lt_of_not_le wraps), if_neg short, if_neg short]
        exact after here

/-- A message that is decoded, and then gone past or returned. -/
theorem decoded_agrees {decode : Decoder Acc} (own : field.decoder? = some decode) (num : Nat)
    (bytes : Bytes) (stop : Nat) :
    Agrees (field.Takes turns acc) ((decode turns bytes acc).map (.goes stop))
        (.bytes num bytes (some stop)) ∧
      Agrees (field.Takes turns acc) ((decode turns bytes acc).map .returns)
        (.bytes num bytes none) := by
  cases decoded : decode turns bytes acc with
  | ok result =>
    have good : field.Takes turns acc bytes := by
      intro other same
      rw [own] at same
      cases same
      exact ⟨result, decoded⟩
    exact ⟨.inl ⟨good, result, rfl⟩, .inl ⟨good, result, rfl⟩⟩
  | error fault =>
    have bad : ¬ field.Takes turns acc bytes := by
      intro good
      obtain ⟨result, ok⟩ := good decode own
      rw [decoded] at ok
      cases ok
    exact ⟨.inr ⟨bad, fault, rfl⟩, .inr ⟨bad, fault, rfl⟩⟩

/-- **What a decoder does with a field is what its span says.** -/
theorem handle_agrees {wire : Nat} (start : offset ≤ data.length) (fits : data.length ≤ maxSlice)
    (small : ∀ size store, field = .fixed size store → size ≤ 8) :
    Agrees (field.Takes turns acc) (handle turns data offset wire acc field)
      (field.span num data offset wire) := by
  cases field with
    rw [handle, Field.span]
  | text =>
    refine lengthDelimited_agrees start fits ?_ fun _ => agrees_failed
    intro bytes stop
    unfold readText
    cases fromUtf8 bytes with
    | none => exact agrees_failed
    | some => exact agrees_goes stop _
  | lastText store =>
    refine lengthDelimited_agrees start fits ?_ fun _ => agrees_failed
    intro bytes stop
    unfold readText
    cases fromUtf8 bytes with
    | none => exact agrees_failed
    | some text => exact .inr ⟨store text acc, rfl⟩
  | number =>
    rcases readVarint data offset with ⟨_, _ | value⟩
    · exact agrees_failed
    · exact agrees_goes _ _
  | fixed size store =>
    have few := small size store rfl
    have sum : addUsize offset size = offset + size :=
      addUsize_of_lt (by unfold usizeSize maxSlice at *; omega)
    rw [sum]
    split
    · exact agrees_failed
    · rw [slice_of_inside (Nat.le_add_right _ _) (by omega)]
      exact agrees_goes _ _
  | message =>
    refine lengthDelimited_agrees start fits ?_ fun _ => agrees_goes _ acc
    intro bytes stop
    exact (decoded_agrees rfl num bytes stop).1
  | strict =>
    refine lengthDelimited_agrees start fits ?_ fun _ => agrees_failed
    intro bytes stop
    exact (decoded_agrees rfl num bytes stop).1
  | last =>
    refine lengthDelimited_agrees start fits ?_ fun _ => agrees_failed
    intro bytes stop
    exact (decoded_agrees rfl num bytes stop).2
  | skip =>
    cases skipField data offset wire with
    | none => exact agrees_failed
    | some offset => exact agrees_goes offset acc
  | fail => exact agrees_failed

/-- A loop gets past a span that is clear, and to where the span says; it faults at any other. -/
theorem Agrees.cases {outcome : Checked (Handled Acc)} {span : Span}
    (agrees : Agrees takes outcome span) :
    (span.Clear (fun _ => takes) ∧
      ((span.next = none ∧ (outcome = .ok .failed ∨ ∃ acc, outcome = .ok (.returns acc))) ∨
        ∃ offset acc, span.next = some offset ∧ outcome = .ok (.goes offset acc))) ∨
    (¬ span.Clear (fun _ => takes) ∧ ∃ fault, outcome = .error fault) := by
  have clear : ∀ {num bytes next}, takes bytes → (Span.bytes num bytes next).Clear (fun _ => takes) := by
    intro num bytes next good
    refine ⟨nofun, ?_⟩
    rintro _ _ _ same
    cases same
    exact good
  cases span with
  | stop => exact .inl ⟨⟨nofun, nofun⟩, .inl ⟨rfl, agrees⟩⟩
  | goto offset =>
    obtain ⟨acc, ok⟩ := agrees
    exact .inl ⟨⟨nofun, nofun⟩, .inr ⟨offset, acc, rfl, ok⟩⟩
  | wraps => exact .inr ⟨fun clear => clear.1 rfl, _, agrees⟩
  | bytes num bytes next =>
    have unclear : ¬ takes bytes → ¬ (Span.bytes num bytes next).Clear (fun _ => takes) :=
      fun bad clear => bad (clear.2 num bytes next rfl)
    cases next with
    | none =>
      rcases agrees with ⟨good, ok⟩ | ⟨bad, fault⟩
      · exact .inl ⟨clear good, .inl ⟨rfl, .inr ok⟩⟩
      · exact .inr ⟨unclear bad, fault⟩
    | some offset =>
      rcases agrees with ⟨good, acc, ok⟩ | ⟨bad, fault⟩
      · exact .inl ⟨clear good, .inr ⟨offset, acc, rfl, ok⟩⟩
      · exact .inr ⟨unclear bad, fault⟩

theorem lengthSpan_bytes {inside : Bytes → Nat → Span} {beyond : Nat → Span} {bytes : Bytes}
    {next : Option Nat} (here : lengthSpan data offset inside beyond = .bytes num bytes next) :
    (∃ start stop, inside (cut data start stop) stop = .bytes num bytes next) ∨
      ∃ offset, beyond offset = .bytes num bytes next := by
  unfold lengthSpan at here
  split at here
  · cases here
  · split at here
    · cases here
    · split at here
      · exact .inl ⟨_, _, here⟩
      · exact .inr ⟨_, here⟩

/-- The bytes of a span are a message of the field, and no longer than the data. -/
theorem Field.span_bytes {own wire : Nat} {bytes : Bytes} {next : Option Nat}
    (here : field.span own data offset wire = .bytes num bytes next) :
    num = own ∧ (∃ decode, field.decoder? = some decode) ∧ bytes.length ≤ data.length := by
  cases field with
  | text =>
    rw [Field.span] at here
    rcases lengthSpan_bytes here with ⟨start, stop, absurd⟩ | ⟨_, absurd⟩
    · split at absurd <;> cases absurd
    · cases absurd
  | lastText =>
    rw [Field.span] at here
    rcases lengthSpan_bytes here with ⟨_, _, absurd⟩ | ⟨_, absurd⟩ <;> cases absurd
  | number | fixed | skip =>
    rw [Field.span] at here
    split at here <;> cases here
  | message decode | strict decode | last decode =>
    rw [Field.span] at here
    rcases lengthSpan_bytes here with ⟨_, _, same⟩ | ⟨_, absurd⟩
    · cases same
      exact ⟨rfl, ⟨decode, rfl⟩, cut_length_le _ _ _⟩
    · cases absurd
  | fail => cases here

end Agreement

/-! ## Loops -/

/-- A decoder returns for just the data that are fine: it needs no more turns than there are bytes,
and one. -/
structure Exact {Input Result : Type} (decode : Nat → Bytes → Input → Checked Result)
    (fine : Bytes → Prop) : Prop where
  sound : ∀ {turns data result} (input : Input), data.length ≤ maxSlice →
    decode turns data input = .ok result → fine data
  complete : ∀ {turns data} (input : Input), data.length ≤ maxSlice → data.length < turns →
    fine data → ∃ result, decode turns data input = .ok result

/-- A decoder that makes something of what another one returns. -/
theorem Exact.post {Input Result Start End : Type} {decode : Nat → Bytes → Input → Checked Result}
    {fine : Bytes → Prop} (exact : Exact decode fine) (start : Start → Input)
    (finish : Start → Result → End) :
    Exact (fun turns data input => (decode turns data (start input)).map (finish input)) fine where
  sound {turns data result} input fits ok := by
    cases decoded : decode turns data (start input) with
    | error =>
      rw [decoded] at ok
      cases ok
    | ok => exact exact.sound (start input) fits decoded
  complete {turns data} input fits enough good := by
    obtain ⟨found, decoded⟩ := exact.complete (start input) fits enough good
    rw [decoded]
    exact ⟨_, rfl⟩

/-- The messages of a table are decoded exactly. -/
structure ExactTable (table : Nat → Nat → Field Acc) (fine : Nat → Bytes → Prop) : Prop where
  small : ∀ {num wire size store}, table num wire = .fixed size store → size ≤ 8
  exact : ∀ {num wire decode}, (table num wire).decoder? = some decode → Exact decode (fine num)

section Loops

variable {table : Nat → Nat → Field Acc} {fine : Nat → Bytes → Prop} {data : Bytes}

/-- A turn gets past the field at its offset and to where the span says, or it faults. -/
theorem turn_cases (small : ∀ {num wire size store}, table num wire = .fixed size store → size ≤ 8)
    (fits : data.length ≤ maxSlice) (turns q : Nat) (acc : Acc) :
    ∃ takes : Bytes → Prop,
      (∀ num bytes next, tableSpan table data q = .bytes num bytes next →
        bytes.length ≤ data.length ∧ ∃ wire decode, (table num wire).decoder? = some decode ∧
          (takes bytes ↔ ∃ result, decode turns bytes acc = .ok result)) ∧
      (((tableSpan table data q).Clear (fun _ => takes) ∧
        (((tableSpan table data q).next = none ∧
            ∃ result, turn turns table data (q, acc) = .ok (.done result)) ∨
          ∃ offset after, (tableSpan table data q).next = some offset ∧
            turn turns table data (q, acc) = .ok (.next (offset, after)))) ∨
      (¬ (tableSpan table data q).Clear (fun _ => takes) ∧
        ∃ fault, turn turns table data (q, acc) = .error fault)) := by
  unfold tableSpan turn
  by_cases inside : q < data.length
  · rw [if_pos inside, if_pos inside]
    have most := readVarint_le (Nat.le_of_lt inside)
    generalize readVarint data q = read at most ⊢
    obtain ⟨offset, _ | tag⟩ := read
    · exact ⟨fun _ => True, nofun, .inl ⟨⟨nofun, nofun⟩, .inl ⟨rfl, _, rfl⟩⟩⟩
    · dsimp only at most ⊢
      refine ⟨(table (fieldNum tag) (wireType tag)).Takes turns acc, ?_, ?_⟩
      · intro num bytes next here
        obtain ⟨rfl, ⟨decode, known⟩, short⟩ := Field.span_bytes here
        refine ⟨short, wireType tag, decode, known, ?_⟩
        simp only [Field.Takes, known, Option.some.injEq, forall_eq']
      · have agrees : Agrees ((table (fieldNum tag) (wireType tag)).Takes turns acc)
            (handle turns data offset (wireType tag) acc (table (fieldNum tag) (wireType tag)))
            ((table (fieldNum tag) (wireType tag)).span (fieldNum tag) data offset
              (wireType tag)) :=
          handle_agrees most fits fun size store same => small same
        rcases agrees.cases with ⟨clear, ⟨stops, failed | ⟨result, returns⟩⟩ |
          ⟨after, next, goes, ok⟩⟩ | ⟨unclear, fault, error⟩
        · rw [failed]
          exact .inl ⟨clear, .inl ⟨stops, _, rfl⟩⟩
        · rw [returns]
          exact .inl ⟨clear, .inl ⟨stops, _, rfl⟩⟩
        · rw [ok]
          exact .inl ⟨clear, .inr ⟨after, next, goes, rfl⟩⟩
        · rw [error]
          exact .inr ⟨unclear, fault, rfl⟩
  · rw [if_neg inside, if_neg inside]
    exact ⟨fun _ => True, nofun, .inl ⟨⟨nofun, nofun⟩, .inl ⟨rfl, _, rfl⟩⟩⟩

theorem turn_follows
    (small : ∀ {num wire size store}, table num wire = .fixed size store → size ≤ 8)
    (fits : data.length ≤ maxSlice) (turns : Nat) :
    Follows (turn turns table data) Prod.fst (fun q => (tableSpan table data q).next)
      data.length where
  next_of {state after} ok := by
    obtain ⟨takes, -, ⟨-, ⟨-, result, done⟩ | ⟨offset, acc, goes, next⟩⟩ | ⟨-, fault, error⟩⟩ :=
      turn_cases small fits turns state.1 state.2
    · rw [done] at ok
      cases ok
    · rw [next] at ok
      cases ok
      exact goes
    · rw [error] at ok
      cases ok
  done_of {state result} ok := by
    obtain ⟨takes, -, ⟨-, ⟨stops, -, -⟩ | ⟨offset, acc, -, next⟩⟩ | ⟨-, fault, error⟩⟩ :=
      turn_cases small fits turns state.1 state.2
    · exact stops
    · rw [next] at ok
      cases ok
    · rw [error] at ok
      cases ok
  inside {p q} moves := by
    by_cases inside : p < data.length
    · exact inside
    · rw [tableSpan, if_neg inside] at moves
      cases moves

/-- A loop that returned has read orderly data. -/
theorem fieldLoop_orderly (exact : ExactTable table fine) (fits : data.length ≤ maxSlice)
    {result : Acc × Bool} (ok : fieldLoop turns table data acc = .ok result) :
    Orderly (tableSpan table data) fine := by
  intro q reaches
  refine run_ok_reaches (turn_follows exact.small fits turns)
    (fun q => (tableSpan table data q).Clear fine) ?_ ok reaches
  · intro state turned done
    obtain ⟨takes, decodes, ⟨⟨whole, taken⟩, -⟩ | ⟨-, fault, error⟩⟩ :=
      turn_cases exact.small fits turns state.1 state.2
    · refine ⟨whole, fun num bytes next here => ?_⟩
      obtain ⟨short, wire, decode, known, takes_iff⟩ := decodes num bytes next here
      obtain ⟨answer, decoded⟩ := takes_iff.mp (taken num bytes next here)
      exact (exact.exact known).sound state.2 (Nat.le_trans short fits) decoded
    · rw [error] at done
      cases done

/-- A loop over orderly data returns. -/
theorem fieldLoop_ok (exact : ExactTable table fine) (fits : data.length ≤ maxSlice)
    (enough : data.length < turns) (orderly : Orderly (tableSpan table data) fine) (acc : Acc) :
    ∃ result, fieldLoop turns table data acc = .ok result := by
  refine run_ok_of_acyclic (turn_follows exact.small fits turns) enough ?_
  intro q reaches
  obtain ⟨⟨whole, fineBytes⟩, never⟩ := orderly q reaches
  refine ⟨?_, never⟩
  rintro state rfl
  obtain ⟨takes, decodes, ⟨-, ⟨-, result, done⟩ | ⟨offset, after, -, next⟩⟩ | ⟨unclear, -⟩⟩ :=
    turn_cases exact.small fits turns state.1 state.2
  · exact ⟨_, done⟩
  · exact ⟨_, next⟩
  · refine absurd ⟨whole, fun num bytes next here => ?_⟩ unclear
    obtain ⟨short, wire, decode, known, takes_iff⟩ := decodes num bytes next here
    exact takes_iff.mpr ((exact.exact known).complete state.2 (Nat.le_trans short fits)
      (Nat.lt_of_le_of_lt short enough) (fineBytes num bytes next here))

/-- **A loop over fields returns for just the orderly data.** -/
theorem fieldLoop_exact (exact : ExactTable table fine) :
    Exact (fun turns data acc => fieldLoop turns table data acc)
      fun data => Orderly (tableSpan table data) fine where
  sound _ fits ok := fieldLoop_orderly exact fits ok
  complete acc fits enough orderly := fieldLoop_ok exact fits enough orderly acc

end Loops

/-! ## Frames -/

/-- `u32::from_be_bytes`. -/
def fromBeBytes (bytes : Bytes) : Nat := bytes.foldl (fun high b => 256 * high + b.toNat) 0

/-- A flag, the length of the payload in four bytes, and the payload. -/
def decodeFramedGrpcMessage (buf : Bytes) : Checked (Option (UInt8 × Bytes)) :=
  match buf with
  | flag :: b1 :: b2 :: b3 :: b4 :: _ =>
    let len := fromBeBytes [b1, b2, b3, b4]
    if addUsize 5 len ≤ buf.length then
      (slice buf 5 (addUsize 5 len)).map fun payload => some (flag, payload)
    else .ok none
  | _ => .ok none

theorem fromBeBytes_four_lt (b1 b2 b3 b4 : UInt8) : fromBeBytes [b1, b2, b3, b4] < 4294967296 := by
  have h1 := b1.toNat_lt
  have h2 := b2.toNat_lt
  have h3 := b3.toNat_lt
  have h4 := b4.toNat_lt
  simp only [fromBeBytes, List.foldl]
  omega

/-- A frame is always decoded, and its payload is no longer than it: four bytes are too few for a
length that wraps. -/
theorem decodeFramedGrpcMessage_ok (buf : Bytes) :
    decodeFramedGrpcMessage buf = .ok none ∨
      ∃ flag payload, decodeFramedGrpcMessage buf = .ok (some (flag, payload)) ∧
        payload.length ≤ buf.length := by
  unfold decodeFramedGrpcMessage
  split
  · rename_i flag b1 b2 b3 b4 rest
    have few := fromBeBytes_four_lt b1 b2 b3 b4
    have sum : addUsize 5 (fromBeBytes [b1, b2, b3, b4]) = 5 + fromBeBytes [b1, b2, b3, b4] :=
      addUsize_of_lt (by unfold usizeSize; omega)
    dsimp only
    rw [sum]
    split
    · rename_i inside
      rw [slice_of_inside (Nat.le_add_right _ _) inside]
      exact .inr ⟨flag, _, rfl, cut_length_le _ _ _⟩
    · exact .inl rfl
  · exact .inl rfl

end R3v3rs3.Grpc
