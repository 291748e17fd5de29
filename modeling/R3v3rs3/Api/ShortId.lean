/-
# R3v3rs3.Api.ShortId -- identifiers are read back from their text

`FromStr` reads fourteen hexadecimal digits as the seven bytes behind a zero, and any other text of
one to eight letters, digits and hyphens as itself, in lower case.  The two forms are told apart by
the first byte when an identifier is shown, and by the length of the text when it is read: a text of
the second form is too short for seven bytes (`length_of_hexDecode`).  So each identifier that is
ever built is read back from its text (`Obtained.fromStr_display`), and no two share a text
(`text_identifies`).
-/
import Mathlib
import R3v3rs3.Api.Error

namespace R3v3rs3.Api.ShortId
set_option autoImplicit false

/-! ## Reading -/

/-- `hex::val`. -/
def hexValue (c : Char) : Option Nat :=
  if 'A' ≤ c ∧ c ≤ 'F' then some (c.toNat - 55)
  else if 'a' ≤ c ∧ c ≤ 'f' then some (c.toNat - 87)
  else if '0' ≤ c ∧ c ≤ '9' then some (c.toNat - 48)
  else none

def hexDecode : List Char → Option (List UInt8)
  | [] => some []
  | [_] => none
  | high :: low :: rest =>
    match hexValue high, hexValue low with
    | some high, some low => (hexDecode rest).map (UInt8.ofNat (16 * high + low) :: ·)
    | _, _ => none

/-- `hex::decode_to_slice` into the last seven bytes. -/
def decodeToSlice (text : List Char) : Option {id : List UInt8 // id.length = 7} :=
  (hexDecode text).bind fun id => if seven : id.length = 7 then some ⟨id, seven⟩ else none

/-- A character outside of ASCII has only bytes that are refused. -/
def isValidShortId (text : List Char) : Bool :=
  !text.isEmpty && text.length ≤ 8 && text.all fun c => c.isAlphanum || c = '-'

theorem byte_of_valid {text : List Char} (valid : isValidShortId text = true) :
    ∀ c ∈ text, 0 < c.toNat ∧ c.toNat < 128 := by
  intro c listed
  simp only [isValidShortId, Bool.and_eq_true, List.all_eq_true] at valid
  have plain := valid.2 c listed
  simp [Char.isAlphanum, Char.isAlpha, Char.isUpper, Char.isLower, Char.isDigit,
    UInt32.le_iff_toNat_le, Char.ext_iff, UInt32.ext_iff] at plain
  omega

/-- The bytes of the text, with zeros behind them. -/
def ofText (text : List Char) (valid : isValidShortId text = true) : ShortId where
  bytes := text.map (fun c => UInt8.ofNat c.toNat) ++ List.replicate (8 - text.length) 0
  length_eq := by
    simp only [isValidShortId, Bool.and_eq_true, decide_eq_true_eq] at valid
    simp
    omega
  text_ascii _ byte listed := by
    simp only [List.mem_append, List.mem_map, List.mem_replicate] at listed
    obtain ⟨c, inText, rfl⟩ | ⟨-, rfl⟩ := listed
    · have small := (byte_of_valid valid c inText).2
      simp [UInt8.lt_iff_toNat_lt]
      omega
    · decide

/-- `FromStr`.  A decoding that fails in the middle leaves bytes behind, but only for a text that is
too long for the second form. -/
def fromStr (s : String) : Except Error ShortId :=
  match decodeToSlice s.toList with
  | some id => .ok (ofSeven id.1 id.2)
  | none =>
    if valid : isValidShortId (s.toList.map Char.toLower) = true then .ok (ofText _ valid)
    else .error (.invalidShortId s)

/-! ## The hexadecimal form -/

theorem hexValue_hexDigit : ∀ nibble < 16, hexValue (hexDigit nibble) = some nibble := by decide

theorem hexDecode_hexEncode (bytes : List UInt8) : hexDecode (hexEncode bytes) = some bytes := by
  induction bytes with
  | nil => rfl
  | cons byte rest ih =>
    have small := byte.toNat_lt
    have high := hexValue_hexDigit (byte.toNat / 16) (by omega)
    have low := hexValue_hexDigit (byte.toNat % 16) (by omega)
    have whole : 16 * (byte.toNat / 16) + byte.toNat % 16 = byte.toNat := by omega
    show hexDecode (hexDigit (byte.toNat / 16) :: hexDigit (byte.toNat % 16) :: hexEncode rest) = _
    simp [hexDecode, high, low, ih, whole]

theorem length_of_hexDecode {text : List Char} {bytes : List UInt8}
    (decoded : hexDecode text = some bytes) : text.length = 2 * bytes.length := by
  fun_induction hexDecode text generalizing bytes with
  | case1 | case2 => simp_all
  | case3 high low rest _ _ _ _ ih =>
    obtain ⟨tail, rest, rfl⟩ := Option.map_eq_some_iff.mp decoded
    simp [ih rest]
    omega
  | case4 => cases decoded

theorem fromStr_ofSeven (id : List UInt8) (seven : id.length = 7) :
    fromStr (ofSeven id seven).display = .ok (ofSeven id seven) := by
  have decoded : decodeToSlice (hexEncode id) = some ⟨id, seven⟩ := by
    simp [decodeToSlice, hexDecode_hexEncode, seven]
  simp [fromStr, display, ofSeven, decoded]

/-! ## The text form -/

/-- What is shown ends before the zeros. -/
theorem display_ofText {text : List Char} (valid : isValidShortId text = true) :
    (ofText text valid).display = String.ofList text := by
  have plain := byte_of_valid valid
  have byte : ∀ c ∈ text, (UInt8.ofNat c.toNat).toNat = c.toNat := by
    intro c listed
    have := plain c listed
    simp
    omega
  have nonzero : ∀ c ∈ text, UInt8.ofNat c.toNat ≠ 0 := by
    intro c listed zero
    have := plain c listed
    have := byte c listed
    simp [zero] at this
    omega
  have shown : (ofText text valid).bytes.reverse.dropWhile (· = 0) =
      (text.map fun c => UInt8.ofNat c.toNat).reverse := by
    rw [ofText, List.reverse_append, List.reverse_replicate, List.dropWhile_append_of_pos (by simp)]
    cases reversed : text.reverse with
    | nil => simp [← List.map_reverse, reversed]
    | cons c rest =>
      have listed : c ∈ text := List.mem_reverse.mp (reversed ▸ List.mem_cons_self)
      simp [← List.map_reverse, reversed, nonzero c listed]
  cases text with
  | nil => cases valid
  | cons c rest =>
    have named : (ofText (c :: rest) valid).bytes.headD 0 ≠ 0 := nonzero c List.mem_cons_self
    rw [display, if_neg named, shown, List.reverse_reverse, List.map_map]
    congr 1
    conv => rhs; rw [← List.map_id (c :: rest)]
    refine List.map_congr_left fun c listed => ?_
    simp [byte c listed]

theorem fromStr_ofText {text : List Char} (valid : isValidShortId text = true)
    (lower : text.map Char.toLower = text) :
    fromStr (ofText text valid).display = .ok (ofText text valid) := by
  -- eight characters are at most four bytes
  have short : decodeToSlice text = none := by
    cases decoded : hexDecode text with
    | none => simp [decodeToSlice, decoded]
    | some bytes =>
      have := length_of_hexDecode decoded
      have short : bytes.length ≠ 7 := by
        simp [isValidShortId] at valid
        omega
      simp [decodeToSlice, decoded, short]
  simp [fromStr, display_ofText valid, short, lower, valid]

/-! ## Every identifier -/

/-- The identifiers that are ever built. -/
inductive Obtained : ShortId → Prop
  | ofSeven (id : List UInt8) (seven : id.length = 7) : Obtained (ofSeven id seven)
  | parsed {s : String} {id : ShortId} : fromStr s = .ok id → Obtained id

theorem Obtained.fromStr_display {id : ShortId} (obtained : Obtained id) :
    fromStr id.display = .ok id := by
  cases obtained with
  | ofSeven id seven => exact fromStr_ofSeven id seven
  | @parsed s _ read =>
    simp only [fromStr] at read
    split at read
    · cases read
      exact fromStr_ofSeven _ _
    · split at read
      · cases read
        exact fromStr_ofText _ (by simp)
      · cases read

/-- **The text of an identifier is read back as the identifier, so it is the text of no other
one.** -/
theorem text_identifies {id : ShortId} (obtained : Obtained id) :
    fromStr id.display = .ok id ∧
      ∀ other, Obtained other → other.display = id.display → other = id := by
  have back := obtained.fromStr_display
  refine ⟨back, fun other made same => ?_⟩
  have theirs := made.fromStr_display
  rw [same, back] at theirs
  exact (Except.ok.inj theirs).symm

/-- `web-1`. -/
def web : ShortId := ofText ['w', 'e', 'b', '-', '1'] (by decide)

theorem text_identifies_web :
    fromStr "Web-1" = .ok web ∧ fromStr web.display = .ok web ∧
      ∀ other, Obtained other → other.display = web.display → other = web := by
  have read : fromStr "Web-1" = .ok web := by rfl
  exact ⟨read, text_identifies (.parsed read)⟩

end R3v3rs3.Api.ShortId
