/-
# R3v3rs3.Proxy.Http.Headers -- header values, header names and the cookies r3v3rs3 removes

A header value is its bytes, a header name is kept in lower case, as the HTTP library keeps it.
`HeaderValue.fromStr` refuses a text with a control byte and `HeaderValue.toStr` reads a value
only when it is visible ASCII; `HeaderName.fromBytes` accepts a token.  `items` are those that the
code reads from a list, `rawItems` those that stand there.  The cookie functions work on the bytes
of the `cookie` lines and touch no other header (`edits_removeCookie`).
-/
import R3v3rs3.Api.Text
import R3v3rs3.Theory.MultiMap

namespace R3v3rs3.Proxy.Http
open Theory Api
set_option autoImplicit false

abbrev HeaderName := String

abbrev HeaderValue := List UInt8

abbrev HeaderMap := MultiMap HeaderName HeaderValue

/-! ## Values and names -/

/-- The UTF-8 bytes of a text. -/
def bytes (text : String) : List UInt8 := text.toList.flatMap String.utf8EncodeChar

namespace HeaderValue

/-- A byte a header value may hold. -/
def validByte (b : UInt8) : Bool := (32 ≤ b && b != 127) || b == 9

/-- A byte that `to_str` reads. -/
def visibleByte (b : UInt8) : Bool := (32 ≤ b && b < 127) || b == 9

def fromBytes (value : List UInt8) : Option HeaderValue :=
  if value.all validByte then some value else none

def fromStr (text : String) : Option HeaderValue := fromBytes (bytes text)

def toStr (value : HeaderValue) : Option (List Char) :=
  if value.all visibleByte then some (value.map fun b => Char.ofNat b.toNat) else none

/-- A character that `to_str` gives back. -/
def visibleChar (c : Char) : Bool := (32 ≤ c.toNat && c.toNat < 127) || c.toNat == 9

theorem visibleByte_iff (b : UInt8) :
    visibleByte b = true ↔ (32 ≤ b.toNat ∧ b.toNat < 127) ∨ b.toNat = 9 := by
  simp only [visibleByte, Bool.or_eq_true, Bool.and_eq_true, decide_eq_true_eq, beq_iff_eq,
    UInt8.le_iff_toNat_le, UInt8.lt_iff_toNat_lt, ← UInt8.toNat_inj]
  rfl

theorem visibleChar_iff (c : Char) :
    visibleChar c = true ↔ (32 ≤ c.toNat ∧ c.toNat < 127) ∨ c.toNat = 9 := by
  simp [visibleChar]

theorem validByte_of_le {b : UInt8} (above : 32 ≤ b.toNat) (other : b.toNat ≠ 127) :
    validByte b = true := by
  have le : (32 : UInt8) ≤ b := UInt8.le_iff_toNat_le.mpr above
  have ne : b ≠ 127 := fun same => other (congrArg UInt8.toNat same)
  simp [validByte, le, ne]

/-- A character of ASCII is one byte; the bytes of any other one are not ASCII. -/
theorem utf8_cases (c : Char) :
    (c.toNat ≤ 127 ∧ ∃ b, String.utf8EncodeChar c = [b] ∧ b.toNat = c.toNat) ∨
      (127 < c.toNat ∧ String.utf8EncodeChar c ≠ [] ∧
        ∀ b ∈ String.utf8EncodeChar c, 128 ≤ b.toNat) := by
  have code : c.val.toNat = c.toNat := rfl
  unfold String.utf8EncodeChar
  dsimp only
  split
  · refine .inl ⟨by omega, _, rfl, ?_⟩
    rw [UInt8.toNat_ofNat']
    omega
  · refine .inr ⟨by omega, ?_⟩
    (repeat' split) <;>
      simp only [ne_eq, List.cons_ne_nil, not_false_eq_true, List.forall_mem_cons,
        UInt8.toNat_ofNat', List.not_mem_nil, false_implies, implies_true, true_and, and_true] <;>
      omega

theorem all_visible_utf8 (text : List Char) :
    (text.flatMap String.utf8EncodeChar).all visibleByte = text.all visibleChar := by
  induction text with
  | nil => rfl
  | cons c rest ih =>
    rw [List.flatMap_cons, List.all_append, ih, List.all_cons]
    congr 1
    rw [Bool.eq_iff_iff, visibleChar_iff]
    rcases utf8_cases c with ⟨-, b, single, same⟩ | ⟨other, nonempty, high⟩
    · rw [single, List.all_cons, List.all_nil, Bool.and_true, visibleByte_iff, same]
    · obtain ⟨b, rest, first⟩ := List.exists_cons_of_ne_nil nonempty
      have above := high b (by simp [first])
      rw [first, List.all_cons, Bool.and_eq_true, visibleByte_iff]
      omega

theorem map_utf8 {text : List Char} (visible : text.all visibleChar = true) :
    (text.flatMap String.utf8EncodeChar).map (fun b => Char.ofNat b.toNat) = text := by
  induction text with
  | nil => rfl
  | cons c rest ih =>
    rw [List.all_cons, Bool.and_eq_true, visibleChar_iff] at visible
    rcases utf8_cases c with ⟨-, b, single, same⟩ | ⟨other, -⟩
    · rw [List.flatMap_cons, List.map_append, ih visible.2, single, List.map_singleton, same,
        Char.ofNat_toNat]
      rfl
    · omega

/-- **What is read back from a written text**: the text, if it is visible ASCII. -/
theorem toStr_bytes (text : String) :
    toStr (bytes text) = if text.toList.all visibleChar then some text.toList else none := by
  unfold toStr bytes
  rw [all_visible_utf8]
  split
  · rename_i visible
    rw [map_utf8 visible]
  · rfl

/-- A text without control characters can be written. -/
theorem fromStr_eq_some {text : String}
    (plain : ∀ c ∈ text.toList, 32 ≤ c.toNat ∧ c.toNat ≠ 127) :
    fromStr text = some (bytes text) := by
  unfold fromStr fromBytes
  rw [if_pos]
  rw [List.all_eq_true]
  intro b member
  obtain ⟨c, inside, written⟩ := List.mem_flatMap.mp member
  obtain ⟨above, other⟩ := plain c inside
  rcases utf8_cases c with ⟨-, byte, single, same⟩ | ⟨-, -, high⟩
  · rw [single, List.mem_singleton] at written
    rw [written]
    exact validByte_of_le (by omega) (by omega)
  · have bound := high b written
    exact validByte_of_le (by omega) (by omega)

end HeaderValue

/-- `str::eq_ignore_ascii_case`. -/
def eqIgnoreAsciiCase (left right : List Char) : Bool :=
  left.map Char.toLower = right.map Char.toLower

namespace HeaderName

def tokenChar (c : Char) : Bool :=
  c.isAlphanum ||
    c ∈ ['!', '#', '$', '%', '&', '\'', '*', '+', '-', '.', '^', '_', '\x60', '|', '~']

/-- `HeaderName::from_bytes`: a token of at most `2 ^ 16 - 1` characters, in lower case. -/
def fromBytes (token : List Char) : Option HeaderName :=
  if token ≠ [] ∧ token.all tokenChar ∧ token.length < 2 ^ 16 then
    some (String.ofList (token.map Char.toLower))
  else none

end HeaderName

/-! ## Comma-separated items -/

/-- The comma-separated items of a value, none when it cannot be read as text. -/
def items (value : HeaderValue) : List (List Char) :=
  match value.toStr with
  | some text => (Text.split ',' text).map Text.trimChars
  | none => []

/-- The items of any value: a byte that `to_str` does not read is no letter and no blank. -/
def rawItems (line : HeaderValue) : List (List Char) :=
  let text := line.map fun b =>
    if HeaderValue.visibleByte b then Char.ofNat b.toNat else '�'
  (Text.split ',' text).map Text.trimChars

theorem items_eq_rawItems {line : HeaderValue} (readable : HeaderValue.toStr line ≠ none) :
    items line = rawItems line := by
  unfold items HeaderValue.toStr at *
  split at readable
  · rename_i visible
    rw [if_pos visible, rawItems, List.map_congr_left fun b member =>
      if_pos (List.all_eq_true.mp visible b member)]
  · exact absurd rfl readable

theorem items_subset {line : HeaderValue} : items line ⊆ rawItems line := by
  cases read : HeaderValue.toStr line with
  | none =>
    rw [items, read]
    exact List.nil_subset _
  | some =>
    rw [items_eq_rawItems (by simp [read])]
    exact List.Subset.refl _

/-! ## Cookies -/

def isBlank (b : UInt8) : Bool := b == 32 || b == 9

def trimAscii (text : List UInt8) : List UInt8 :=
  ((text.dropWhile isBlank).reverse.dropWhile isBlank).reverse

/-- Name and value of one `name=value` part, cut at the first `=`. -/
def splitCookiePair (pair : List UInt8) : Option (List UInt8 × List UInt8) :=
  let trimmed := trimAscii pair
  if 61 ∈ trimmed then
    some (trimmed.takeWhile (· != 61), (trimmed.dropWhile (· != 61)).drop 1)
  else none

/-- Whether a part of a `cookie` line stays when the cookie `name` is removed. -/
def keepsPart (name : List UInt8) (part : List UInt8) : Bool :=
  part ≠ [] && (splitCookiePair part).map Prod.fst != some name

/-- The `cookie` line without the cookie, or `none` when nothing is left of it. -/
def withoutCookie (name : String) (value : HeaderValue) : Option HeaderValue :=
  let remaining := ((value.splitOn 59).map trimAscii).filter (keepsPart (bytes name))
  if remaining = [] then none
  else HeaderValue.fromBytes ([59, 32].intercalate remaining)

def removeCookie (name : String) (headers : HeaderMap) : HeaderMap :=
  (headers.remove "cookie").appendAll "cookie"
    ((headers.getAll "cookie").filterMap (withoutCookie name))

theorem getAll_removeCookie (name : String) (headers : HeaderMap) (other : HeaderName) :
    (removeCookie name headers).getAll other =
      if other = "cookie" then (headers.getAll "cookie").filterMap (withoutCookie name)
      else headers.getAll other := by
  rw [removeCookie, MultiMap.getAll_appendAll, MultiMap.getAll_remove]
  by_cases same : other = "cookie" <;> simp [same]

theorem edits_removeCookie (name : String) : MultiMap.Edits ["cookie"] (removeCookie name) :=
  fun headers other away => by rw [getAll_removeCookie, if_neg (by simpa using away)]

/-- No `cookie` line changes when the cookie is taken out. -/
def lacksCookie (headers : HeaderMap) (name : String) : Bool :=
  (headers.getAll "cookie").filterMap (withoutCookie name) = headers.getAll "cookie"

end R3v3rs3.Proxy.Http
