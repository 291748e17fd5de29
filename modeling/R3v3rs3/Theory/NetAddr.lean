/-
# R3v3rs3.Theory.NetAddr -- IP addresses and their texts

The texts that the standard library of the language reads and writes.  An IPv4 address is four
decimal numbers of at most three digits without leading zeros.  An IPv6 address is eight groups of
at most four hexadecimal digits; `::` stands for at least one group of zeros, and the last two
groups may be an IPv4 address.  The text that is written puts `::` for the first of the longest runs
of at least two zeros.  A socket address is an IPv4 address or a bracketed IPv6 address, with a
port.

`parse_display` is the round trip for addresses in their canonical form, in which an IPv4 address
is not written as an IPv6 one.  `socket_ends_with_digit` is what a text without a port fails by.
-/
import Mathlib.Algebra.Group.Nat.Defs
import Mathlib.Data.List.Basic

namespace R3v3rs3.Theory.NetAddr
set_option autoImplicit false

/-! ## Numbers -/

/-- `char::to_digit` for a radix of at most sixteen. -/
def digitValue (radix : Nat) (c : Char) : Option Nat :=
  let value :=
    if '0'.toNat ≤ c.toNat ∧ c.toNat ≤ '9'.toNat then c.toNat - '0'.toNat
    else if 'a'.toNat ≤ c.toNat ∧ c.toNat ≤ 'f'.toNat then c.toNat - 'a'.toNat + 10
    else if 'A'.toNat ≤ c.toNat ∧ c.toNat ≤ 'F'.toNat then c.toNat - 'A'.toNat + 10
    else radix
  if value < radix then some value else none

def isDigit (radix : Nat) (c : Char) : Bool := (digitValue radix c).isSome

def valueOf (radix : Nat) (digits : List Char) : Nat :=
  digits.foldl (fun value c => value * radix + (digitValue radix c).getD 0) 0

/-- Reads all digits that follow, and refuses none, too many, or a leading zero. -/
def readNumber (radix : Nat) (maxDigits : Option Nat) (zeroFirst : Bool) (text : List Char) :
    Option (Nat × List Char) :=
  let digits := text.takeWhile (isDigit radix)
  if digits = [] ∨ maxDigits.any (· < digits.length) ∨
      (zeroFirst = false ∧ digits.head? = some '0' ∧ 1 < digits.length) then none
  else some (valueOf radix digits, text.dropWhile (isDigit radix))

/-- A number below a bound. -/
def readBelow (bound radix : Nat) (maxDigits : Option Nat) (zeroFirst : Bool) (text : List Char) :
    Option (Fin bound × List Char) :=
  (readNumber radix maxDigits zeroFirst text).bind fun read =>
    if inside : read.1 < bound then some (⟨read.1, inside⟩, read.2) else none

def readChar (c : Char) : List Char → Option (List Char)
  | [] => none
  | first :: rest => if first = c then some rest else none

/-- A number below 1000, as its digits. -/
def decimal (n : Nat) : List Char :=
  if n < 10 then [n.digitChar]
  else if n < 100 then [(n / 10).digitChar, (n % 10).digitChar]
  else [(n / 100).digitChar, (n / 10 % 10).digitChar, (n % 10).digitChar]

/-- A number below 65536, as its hexadecimal digits. -/
def hex (n : Nat) : List Char :=
  if n < 16 then [n.digitChar]
  else if n < 256 then [(n / 16).digitChar, (n % 16).digitChar]
  else if n < 4096 then [(n / 256).digitChar, (n / 16 % 16).digitChar, (n % 16).digitChar]
  else [(n / 4096).digitChar, (n / 256 % 16).digitChar, (n / 16 % 16).digitChar,
    (n % 16).digitChar]

/-! ## IPv4 -/

scoped instance neZero_octet : @NeZero Nat Zero.ofOfNat0 256 := ⟨by decide⟩

scoped instance neZero_group : @NeZero Nat Zero.ofOfNat0 65536 := ⟨by decide⟩

structure Ipv4Addr where
  a : Fin 256
  b : Fin 256
  c : Fin 256
  d : Fin 256
  deriving DecidableEq

def readOctet : List Char → Option (Fin 256 × List Char) := readBelow 256 10 (some 3) false

def Ipv4Addr.display (addr : Ipv4Addr) : List Char :=
  decimal addr.a ++ '.' :: (decimal addr.b ++ '.' :: (decimal addr.c ++ '.' :: decimal addr.d))

def readV4 (text : List Char) : Option (Ipv4Addr × List Char) := do
  let (a, text) ← readOctet text
  let text ← readChar '.' text
  let (b, text) ← readOctet text
  let text ← readChar '.' text
  let (c, text) ← readOctet text
  let text ← readChar '.' text
  let (d, text) ← readOctet text
  return (⟨a, b, c, d⟩, text)

/-! ## IPv6 -/

abbrev Group := Fin 65536

structure Ipv6Addr where
  segments : List Group
  eight : segments.length = 8
  deriving DecidableEq

def readGroup : List Char → Option (Group × List Char) := readBelow 65536 16 (some 4) true

/-- Groups after the first one follow a colon. -/
def separator (first : Bool) (text : List Char) : Option (List Char) :=
  if first then some text else readChar ':' text

/-- The two groups of an embedded IPv4 address. -/
def Ipv4Addr.groups (addr : Ipv4Addr) : List Group :=
  [⟨addr.a * 256 + addr.b, by omega⟩, ⟨addr.c * 256 + addr.d, by omega⟩]

/-- At most `limit` groups, whether they end with an IPv4 address, and the rest of the text. -/
def readGroups : Nat → Bool → List Char → List Group × Bool × List Char
  | 0, _, text => ([], false, text)
  | limit + 1, first, text =>
    -- an IPv4 address needs two groups
    match if 0 < limit then (separator first text).bind readV4 else none with
    | some (addr, rest) => (addr.groups, true, rest)
    | none =>
      match (separator first text).bind readGroup with
      | some (group, rest) =>
        let (groups, v4, rest) := readGroups limit false rest
        (group :: groups, v4, rest)
      | none => ([], false, text)

def Ipv6Addr.ofGroups (groups : List Group) : Option Ipv6Addr :=
  if eight : groups.length = 8 then some ⟨groups, eight⟩ else none

def readV6 (text : List Char) : Option (Ipv6Addr × List Char) :=
  let (head, v4, text) := readGroups 8 true text
  if head.length = 8 then (Ipv6Addr.ofGroups head).map fun addr => (addr, text)
  else if v4 then none
  else do
    let text ← readChar ':' text
    let text ← readChar ':' text
    let (tail, _, text) := readGroups (7 - head.length) true text
    let zeros := List.replicate (8 - (head.length + tail.length)) 0
    let addr ← Ipv6Addr.ofGroups (head ++ zeros ++ tail)
    return (addr, text)

structure Span where
  start : Nat := 0
  len : Nat := 0

/-- The run of zeros goes on at `i`, or starts there. -/
def Span.grow (span : Span) (i : Nat) : Span :=
  ⟨if span.len = 0 then i else span.start, span.len + 1⟩

/-- The first of the longest runs of zeros. -/
def longestZeros : List Group → Nat → Span → Span → Span
  | [], _, longest, _ => longest
  | segment :: rest, i, longest, current =>
    if segment = 0 then
      let current := current.grow i
      longestZeros rest (i + 1) (if longest.len < current.len then current else longest) current
    else longestZeros rest (i + 1) longest {}

/-- Groups with their colons. -/
def joined : Bool → List Group → List Char
  | _, [] => []
  | first, group :: rest => (if first then [] else [':']) ++ hex group ++ joined false rest

/-- The IPv4 address that an IPv6 address stands for. -/
def Ipv6Addr.toIpv4Mapped (addr : Ipv6Addr) : Option Ipv4Addr :=
  match addr.segments with
  | [0, 0, 0, 0, 0, 65535, high, low] =>
    some ⟨⟨high / 256, by omega⟩, ⟨high % 256, by omega⟩, ⟨low / 256, by omega⟩,
      ⟨low % 256, by omega⟩⟩
  | _ => none

def Ipv6Addr.display (addr : Ipv6Addr) : List Char :=
  match addr.toIpv4Mapped with
  | some mapped => "::ffff:".toList ++ mapped.display
  | none =>
    let zeros := longestZeros addr.segments 0 {} {}
    if 1 < zeros.len then
      joined true (addr.segments.take zeros.start) ++ ':' :: ':' ::
        joined true (addr.segments.drop (zeros.start + zeros.len))
    else joined true addr.segments

/-! ## Addresses -/

inductive IpAddr where
  | v4 (addr : Ipv4Addr)
  | v6 (addr : Ipv6Addr)
  deriving DecidableEq

namespace IpAddr

def isIpv6 : IpAddr → Bool
  | .v4 _ => false
  | .v6 _ => true

/-- An IPv6 address that stands for an IPv4 address becomes that one. -/
def toCanonical : IpAddr → IpAddr
  | .v4 addr => .v4 addr
  | .v6 addr =>
    match addr.toIpv4Mapped with
    | some mapped => .v4 mapped
    | none => .v6 addr

def display : IpAddr → List Char
  | .v4 addr => addr.display
  | .v6 addr => addr.display

def read (text : List Char) : Option (IpAddr × List Char) :=
  match readV4 text with
  | some (addr, rest) => some (.v4 addr, rest)
  | none => (readV6 text).map fun read => (.v6 read.1, read.2)

/-- `str::parse`, which reads the whole text. -/
def parse (text : List Char) : Option IpAddr :=
  (read text).bind fun read => if read.2 = [] then some read.1 else none

end IpAddr

def readPort (text : List Char) : Option (Fin 65536 × List Char) :=
  (readChar ':' text).bind (readBelow 65536 10 none true)

/-- The scope of an IPv6 socket address, which may be left out. -/
def skipScope (text : List Char) : List Char :=
  (((readChar '%' text).bind (readBelow 4294967296 10 none true)).map Prod.snd).getD text

/-- The address of an IPv4 address with a port. -/
def readSocketV4 (text : List Char) : Option (IpAddr × List Char) := do
  let (addr, text) ← readV4 text
  let (_, text) ← readPort text
  return (.v4 addr, text)

def readSocketV6 (text : List Char) : Option (IpAddr × List Char) := do
  let text ← readChar '[' text
  let (addr, text) ← readV6 text
  let text ← readChar ']' (skipScope text)
  let (_, text) ← readPort text
  return (.v6 addr, text)

/-- The address of a socket address. -/
def parseSocket (text : List Char) : Option IpAddr :=
  ((readSocketV4 text).or (readSocketV6 text)).bind fun read =>
    if read.2 = [] then some read.1 else none

/-! ## Reading numbers that were written -/

variable {rest text : List Char} {maxDigits : Option Nat} {zeroFirst : Bool} {radix bound i : Nat}
  {n : Fin bound} {c : Char} {addr : Ipv6Addr} {span : Span} {segments : List Group}

theorem takeWhile_all_append {p : Char → Bool} {front : List Char} (all : front.all p = true)
    (stops : ∀ c ∈ rest.head?, p c = false) :
    (front ++ rest).takeWhile p = front ∧ (front ++ rest).dropWhile p = rest := by
  have holds : ∀ c ∈ front, p c = true := List.all_eq_true.mp all
  have none : rest.takeWhile p = [] ∧ rest.dropWhile p = rest := by
    cases rest with
    | nil => exact ⟨rfl, rfl⟩
    | cons c rest =>
      have no : p c = false := stops c rfl
      simp [no]
  rw [List.takeWhile_append_of_pos holds, List.dropWhile_append_of_pos holds, none.1, none.2]
  simp

theorem readNumber_append {digits : List Char} (nonempty : digits ≠ [])
    (all : digits.all (isDigit radix) = true) (few : maxDigits.all (digits.length ≤ ·) = true)
    (first : zeroFirst = true ∨ digits.head? ≠ some '0' ∨ digits.length ≤ 1)
    (stops : ∀ c ∈ rest.head?, isDigit radix c = false) :
    readNumber radix maxDigits zeroFirst (digits ++ rest) = some (valueOf radix digits, rest) := by
  obtain ⟨taken, dropped⟩ := takeWhile_all_append all stops
  unfold readNumber
  rw [taken, dropped, if_neg]
  rintro (none | many | ⟨noZero, zero, long⟩)
  · exact nonempty none
  · cases maxDigits with
    | none => cases many
    | some =>
      simp only [Option.all_some, Option.any_some, decide_eq_true_eq] at few many
      omega
  · rcases first with allowed | other | short
    · rw [allowed] at noZero
      cases noZero
    · exact other zero
    · omega

theorem digitValue_digitChar : ∀ d < 16, digitValue 16 d.digitChar = some d := by decide

theorem digitValue_digitChar_ten : ∀ d < 10, digitValue 10 d.digitChar = some d := by decide

theorem digitChar_ne_zero : ∀ d < 10, 0 < d → d.digitChar ≠ '0' := by decide

/-- What a written number is read back by. -/
structure Digits (radix n most : Nat) (digits : List Char) : Prop where
  nonempty : digits ≠ []
  all : digits.all (isDigit radix) = true
  few : digits.length ≤ most
  value : valueOf radix digits = n

theorem hex_digits {n : Nat} (inside : n < 65536) : Digits 16 n 4 (hex n) := by
  have digit := digitValue_digitChar
  unfold hex
  split
  · have first := digit n (by omega)
    constructor <;> simp [isDigit, valueOf, first]
  · split
    · have first := digit (n / 16) (by omega)
      have second := digit (n % 16) (by omega)
      constructor <;> simp [isDigit, valueOf, first, second]
      omega
    · split
      · have first := digit (n / 256) (by omega)
        have second := digit (n / 16 % 16) (by omega)
        have third := digit (n % 16) (by omega)
        constructor <;> simp [isDigit, valueOf, first, second, third]
        omega
      · have first := digit (n / 4096) (by omega)
        have second := digit (n / 256 % 16) (by omega)
        have third := digit (n / 16 % 16) (by omega)
        have fourth := digit (n % 16) (by omega)
        constructor <;> simp [isDigit, valueOf, first, second, third, fourth]
        omega

theorem decimal_digits {n : Nat} (inside : n < 1000) :
    Digits 10 n 3 (decimal n) ∧
      ((decimal n).head? ≠ some '0' ∨ (decimal n).length ≤ 1) := by
  have digit := digitValue_digitChar_ten
  unfold decimal
  split
  · have first := digit n (by omega)
    refine ⟨?_, .inr (by simp)⟩
    constructor <;> simp [isDigit, valueOf, first]
  · split
    · have first := digit (n / 10) (by omega)
      have second := digit (n % 10) (by omega)
      refine ⟨?_, .inl ?_⟩
      · constructor <;> simp [isDigit, valueOf, first, second]
        omega
      · simpa using digitChar_ne_zero (n / 10) (by omega) (by omega)
    · have first := digit (n / 100) (by omega)
      have second := digit (n / 10 % 10) (by omega)
      have third := digit (n % 10) (by omega)
      refine ⟨?_, .inl ?_⟩
      · constructor <;> simp [isDigit, valueOf, first, second, third]
        omega
      · simpa using digitChar_ne_zero (n / 100) (by omega) (by omega)

theorem readBelow_append {most : Nat} {digits : List Char} (written : Digits radix n most digits)
    (first : zeroFirst = true ∨ digits.head? ≠ some '0' ∨ digits.length ≤ 1)
    (stops : ∀ c ∈ rest.head?, isDigit radix c = false) :
    readBelow bound radix (some most) zeroFirst (digits ++ rest) = some (n, rest) := by
  have few : (some most).all (digits.length ≤ ·) = true := by simpa using written.few
  rw [readBelow, readNumber_append written.nonempty written.all few first stops, Option.bind_some,
    written.value, dif_pos n.isLt]

theorem readOctet_decimal (n : Fin 256) (stops : ∀ c ∈ rest.head?, isDigit 10 c = false) :
    readOctet (decimal n ++ rest) = some (n, rest) := by
  obtain ⟨written, first⟩ := decimal_digits (Nat.lt_trans n.isLt (by decide))
  exact readBelow_append written (.inr first) stops

/-! ## Reading addresses that were written -/

theorem readV4_display (addr : Ipv4Addr) : readV4 addr.display = some (addr, []) := by
  have dot : ∀ text : List Char, ∀ c ∈ ('.' :: text).head?, isDigit 10 c = false := by
    intro text c first
    cases first
    decide
  have ends : ∀ c ∈ ([] : List Char).head?, isDigit 10 c = false := by simp
  have last := readOctet_decimal addr.d ends
  rw [List.append_nil] at last
  unfold readV4 Ipv4Addr.display
  simp [readOctet_decimal _ (dot _), readChar, last]

/-! ## What is left of a text -/

theorem readNumber_eq_some {n : Nat}
    (read : readNumber radix maxDigits zeroFirst text = some (n, rest)) :
    ∃ digits, digits ≠ [] ∧ digits.all (isDigit radix) = true ∧ text = digits ++ rest := by
  unfold readNumber at read
  dsimp only at read
  split at read
  · cases read
  · rename_i ok
    cases read
    refine ⟨text.takeWhile (isDigit radix), fun none => ok (.inl none), ?_, ?_⟩
    · exact List.all_takeWhile
    · exact List.takeWhile_append_dropWhile.symm

theorem readBelow_eq_some (read : readBelow bound radix maxDigits zeroFirst text = some (n, rest)) :
    ∃ digits, digits ≠ [] ∧ digits.all (isDigit radix) = true ∧ text = digits ++ rest := by
  obtain ⟨number, isNumber, kept⟩ := Option.bind_eq_some_iff.mp read
  split at kept
  · cases kept
    exact readNumber_eq_some isNumber
  · cases kept

theorem readBelow_suffix (read : readBelow bound radix maxDigits zeroFirst text = some (n, rest)) :
    rest <:+ text := by
  obtain ⟨digits, -, -, split⟩ := readBelow_eq_some read
  exact ⟨digits, split.symm⟩

theorem readChar_eq_some : readChar c text = some rest ↔ text = c :: rest := by
  cases text with
  | nil => simp [readChar]
  | cons =>
    unfold readChar
    split
    · rename_i same
      simp [same]
    · rename_i other
      simp [other]

theorem readChar_suffix (read : readChar c text = some rest) : rest <:+ text := by
  rw [readChar_eq_some.mp read]
  exact List.suffix_cons c rest

/-- What reading an IPv4 address reads. -/
theorem readV4_eq_some {addr : Ipv4Addr} (read : readV4 text = some (addr, rest)) :
    '.' ∈ text ∧ rest <:+ text := by
  simp only [readV4, Option.bind_eq_bind, Option.bind_eq_some_iff, Option.pure_def,
    Option.some.injEq, Prod.exists, Prod.mk.injEq] at read
  obtain ⟨a, afterA, readA, dotA, isDotA, b, afterB, readB, dotB, isDotB, c, afterC, readC, dotC,
    isDotC, d, afterD, readD, -, rfl⟩ := read
  have first := readBelow_suffix readA
  have later : afterD <:+ dotA :=
    (readBelow_suffix readD).trans ((readChar_suffix isDotC).trans ((readBelow_suffix readC).trans
      ((readChar_suffix isDotB).trans (readBelow_suffix readB))))
  refine ⟨first.subset ?_, later.trans ((readChar_suffix isDotA).trans first)⟩
  rw [readChar_eq_some.mp isDotA]
  exact List.mem_cons_self

theorem readV4_eq_none (noDot : '.' ∉ text) : readV4 text = none := by
  cases read : readV4 text with
  | none => rfl
  | some =>
    exact absurd (readV4_eq_some read).1 noDot

theorem separator_suffix {first : Bool} (read : separator first text = some rest) :
    rest <:+ text := by
  cases first with
  | true =>
    cases read
    exact List.suffix_rfl
  | false => exact readChar_suffix read

theorem readGroups_suffix (limit : Nat) (first : Bool) (text : List Char) :
    (readGroups limit first text).2.2 <:+ text := by
  induction limit generalizing first text with
  | zero => exact List.suffix_rfl
  | succ limit ih =>
    unfold readGroups
    split
    · rename_i addr rest isV4
      split at isV4
      · obtain ⟨after, separated, read⟩ := Option.bind_eq_some_iff.mp isV4
        exact (readV4_eq_some read).2.trans (separator_suffix separated)
      · cases isV4
    · split
      · rename_i group rest isGroup
        obtain ⟨after, separated, read⟩ := Option.bind_eq_some_iff.mp isGroup
        exact (ih false rest).trans ((readBelow_suffix read).trans (separator_suffix separated))
      · exact List.suffix_rfl

theorem readV6_suffix (read : readV6 text = some (addr, rest)) : rest <:+ text := by
  unfold readV6 at read
  dsimp only at read
  have head := readGroups_suffix 8 true text
  split at read
  · obtain ⟨found, -, same⟩ := Option.map_eq_some_iff.mp read
    cases same
    exact head
  · split at read
    · cases read
    · simp only [Option.bind_eq_bind, Option.bind_eq_some_iff, Option.pure_def, Option.some.injEq,
        Prod.mk.injEq] at read
      obtain ⟨first, isFirst, second, isSecond, found, -, -, rfl⟩ := read
      exact (readGroups_suffix _ true second).trans
        ((readChar_suffix isSecond).trans ((readChar_suffix isFirst).trans head))

theorem skipScope_suffix (text : List Char) : skipScope text <:+ text := by
  unfold skipScope
  cases read : (readChar '%' text).bind (readBelow 4294967296 10 none true) with
  | none => exact List.suffix_rfl
  | some =>
    obtain ⟨after, isAfter, isNumber⟩ := Option.bind_eq_some_iff.mp read
    exact (readBelow_suffix isNumber).trans (readChar_suffix isAfter)

/-- A port ends with a digit. -/
theorem readPort_last {port : Fin 65536} (read : readPort text = some (port, [])) :
    ∃ c, text.getLast? = some c ∧ isDigit 10 c = true := by
  obtain ⟨after, isAfter, number⟩ := Option.bind_eq_some_iff.mp read
  obtain ⟨digits, nonempty, all, split⟩ := readBelow_eq_some number
  rw [List.append_nil] at split
  rw [readChar_eq_some.mp isAfter, split]
  refine ⟨digits.getLast nonempty, ?_, List.all_eq_true.mp all _ (List.getLast_mem nonempty)⟩
  rw [List.getLast?_cons_of_ne_nil nonempty, List.getLast?_eq_some_getLast nonempty]

theorem getLast?_of_suffix (suffix : rest <:+ text) (last : rest.getLast? = some c) :
    text.getLast? = some c := by
  obtain ⟨front, rfl⟩ := suffix
  rw [List.getLast?_append, last]
  rfl

/-- **A socket address ends with a digit**, because it has a port. -/
theorem socket_ends_with_digit {addr : IpAddr} (read : parseSocket text = some addr) :
    ∃ c, text.getLast? = some c ∧ isDigit 10 c = true := by
  obtain ⟨⟨found, rest⟩, isFound, whole⟩ := Option.bind_eq_some_iff.mp read
  split at whole
  · rename_i ends
    subst ends
    rcases Option.or_eq_some_iff.mp isFound with v4 | ⟨-, v6⟩
    · simp only [readSocketV4, Option.bind_eq_bind, Option.bind_eq_some_iff, Option.pure_def,
        Option.some.injEq, Prod.exists, Prod.mk.injEq] at v4
      obtain ⟨ip, after, isV4, port, last, isPort, -, rfl⟩ := v4
      obtain ⟨c, isLast, digit⟩ := readPort_last isPort
      exact ⟨c, getLast?_of_suffix (readV4_eq_some isV4).2 isLast, digit⟩
    · simp only [readSocketV6, Option.bind_eq_bind, Option.bind_eq_some_iff, Option.pure_def,
        Option.some.injEq, Prod.exists, Prod.mk.injEq] at v6
      obtain ⟨opened, isOpened, ip, after, isV6, closed, isClosed, port, last, isPort, -, rfl⟩ := v6
      obtain ⟨c, isLast, digit⟩ := readPort_last isPort
      refine ⟨c, getLast?_of_suffix ?_ isLast, digit⟩
      exact (readChar_suffix isClosed).trans ((skipScope_suffix after).trans
        ((readV6_suffix isV6).trans (readChar_suffix isOpened)))
  · cases whole

/-! ## The characters of an address -/

/-- A character that the text of an address may have. -/
def addressChar (c : Char) : Bool := isDigit 16 c || c == ':' || c == '.'

theorem isDigit_iff (low : 10 ≤ radix) (high : radix ≤ 16) (c : Char) :
    isDigit radix c = true ↔ (48 ≤ c.toNat ∧ c.toNat ≤ 57) ∨
      (97 ≤ c.toNat ∧ c.toNat + 10 < 97 + radix) ∨
      (65 ≤ c.toNat ∧ c.toNat + 10 < 65 + radix) := by
  have codes : '0'.toNat = 48 ∧ '9'.toNat = 57 ∧ 'a'.toNat = 97 ∧ 'f'.toNat = 102 ∧
      'A'.toNat = 65 ∧ 'F'.toNat = 70 := by decide
  have below : ∀ value : Nat, (if value < radix then some value else none).isSome = true ↔
      value < radix := by
    intro value
    by_cases inside : value < radix <;> simp [inside]
  unfold isDigit digitValue
  rw [below]
  split
  · omega
  · split
    · omega
    · split <;> omega

theorem Ipv4Addr.display_chars (addr : Ipv4Addr) (member : c ∈ addr.display) :
    isDigit 10 c = true ∨ c = '.' := by
  have number : ∀ n : Fin 256, c ∈ decimal n → isDigit 10 c = true := fun n inside =>
    List.all_eq_true.mp (decimal_digits (Nat.lt_trans n.isLt (by decide))).1.all c inside
  simp only [Ipv4Addr.display, List.mem_append, List.mem_cons] at member
  rcases member with a | dot | b | dot | c | dot | d
  · exact .inl (number _ a)
  · exact .inr dot
  · exact .inl (number _ b)
  · exact .inr dot
  · exact .inl (number _ c)
  · exact .inr dot
  · exact .inl (number _ d)

theorem joined_chars (first : Bool) (groups : List Group) (member : c ∈ joined first groups) :
    isDigit 16 c = true ∨ c = ':' := by
  induction groups generalizing first with
  | nil => cases member
  | cons group rest ih =>
    simp only [joined, List.mem_append] at member
    rcases member with (colon | digit) | later
    · cases first with
      | true => cases colon
      | false => exact .inr (List.mem_singleton.mp colon)
    · exact .inl (List.all_eq_true.mp (hex_digits group.isLt).all c digit)
    · exact ih false later

/-- The characters of an address that stands for no IPv4 address. -/
theorem Ipv6Addr.display_chars (unmapped : addr.toIpv4Mapped = none) (member : c ∈ addr.display) :
    isDigit 16 c = true ∨ c = ':' := by
  unfold Ipv6Addr.display at member
  rw [unmapped] at member
  dsimp only at member
  split at member
  · simp only [List.mem_append, List.mem_cons] at member
    rcases member with head | colon | colon | tail
    · exact joined_chars _ _ head
    · exact .inr colon
    · exact .inr colon
    · exact joined_chars _ _ tail
  · exact joined_chars _ _ member

theorem ne_dot (plain : isDigit 16 c = true ∨ c = ':') : c ≠ '.' := by
  rintro rfl
  revert plain
  decide

/-! ## The zeros that are left out -/

/-- The groups of the span are zeros. -/
def Zeros (segments : List Group) (span : Span) : Prop :=
  ∀ i, span.start ≤ i → i < span.start + span.len → segments[i]? = some 0

/-- The run is empty or ends before `i`. -/
def Span.EndsAt (span : Span) (i : Nat) : Prop := span.len = 0 ∨ span.start + span.len = i

theorem Span.EndsAt.grow (ends : span.EndsAt i) : (span.grow i).EndsAt (i + 1) := by
  refine .inr ?_
  by_cases none : span.len = 0
  · simp [Span.grow, none]
  · have atEnd := ends.resolve_left none
    simp only [Span.grow, none, if_false]
    omega

theorem Zeros.grow (zeros : Zeros segments span) (ends : span.EndsAt i)
    (zero : segments[i]? = some 0) : Zeros segments (span.grow i) := by
  intro j after below
  by_cases last : j = i
  · rw [last, zero]
  · by_cases none : span.len = 0
    · simp only [Span.grow, none, if_true] at after below
      omega
    · have atEnd := ends.resolve_left none
      simp only [Span.grow, none, if_false] at after below
      exact zeros j after (by omega)

theorem Zeros.empty (segments : List Group) : Zeros segments {} :=
  fun _ _ below => absurd below (by simp)

theorem longestZeros_zeros {rest : List Group} {longest current : Span}
    (here : segments.drop i = rest) (known : Zeros segments longest)
    (run : Zeros segments current) (ends : current.EndsAt i) :
    Zeros segments (longestZeros rest i longest current) := by
  induction rest generalizing i longest current with
  | nil => exact known
  | cons segment rest ih =>
    have first : segments[i]? = some segment := by
      rw [← List.head?_drop, here]
      rfl
    have later : segments.drop (i + 1) = rest := by
      rw [← List.tail_drop, here]
      rfl
    unfold longestZeros
    split
    · rename_i zero
      rw [zero] at first
      have grown := run.grow ends first
      refine ih later ?_ grown ends.grow
      split
      · exact grown
      · exact known
    · exact ih later known (Zeros.empty segments) (.inl rfl)

/-- A span of zeros within the groups can be put back. -/
theorem Zeros.restore (zeros : Zeros segments span) (some : 0 < span.len) :
    span.start + span.len ≤ segments.length ∧
      segments = segments.take span.start ++ List.replicate span.len 0 ++
        segments.drop (span.start + span.len) := by
  have last := zeros (span.start + span.len - 1) (by omega) (by omega)
  have inside := (List.getElem?_eq_some_iff.mp last).1
  have fits : span.start + span.len ≤ segments.length := by omega
  refine ⟨fits, ?_⟩
  have middle : (segments.drop span.start).take span.len = List.replicate span.len 0 := by
    apply List.ext_getElem?
    intro i
    by_cases below : i < span.len
    · rw [List.getElem?_take_of_lt below, List.getElem?_drop,
        zeros (span.start + i) (by omega) (by omega), List.getElem?_replicate, if_pos below]
    · rw [List.getElem?_eq_none (by simp; omega), List.getElem?_eq_none (by simp; omega)]
  rw [← middle, List.append_assoc, ← List.drop_drop, List.take_append_drop, List.take_append_drop]

/-! ## The round trip -/

theorem dot_not_mem_joined (first : Bool) (groups : List Group) : '.' ∉ joined first groups :=
  fun member => ne_dot (joined_chars first groups member) rfl

/-- Where there is no dot, no IPv4 address ends the groups. -/
theorem noV4_of_noDot {first : Bool} (noDot : '.' ∉ text) (limit : Nat) :
    (if 0 < limit then (separator first text).bind readV4 else none) = none := by
  split
  · cases separated : separator first text with
    | none => rfl
    | some =>
      exact readV4_eq_none fun dot => noDot ((separator_suffix separated).subset dot)
  · rfl

/-- The text after the groups: the end or a double colon. -/
def Stops (rest : List Char) : Prop := rest = [] ∨ ∃ more, rest = ':' :: ':' :: more

theorem readGroups_stops (limit : Nat) (first : Bool) (noDot : '.' ∉ rest) (stops : Stops rest) :
    readGroups limit first rest = ([], false, rest) := by
  cases limit with
  | zero => rfl
  | succ =>
    have noGroup : (separator first rest).bind readGroup = none := by
      rcases stops with rfl | ⟨more, rfl⟩ <;> cases first <;> rfl
    unfold readGroups
    rw [noV4_of_noDot noDot, noGroup]

/-- A group ends before the next colon. -/
theorem head_after_group {groups : List Group} (stops : Stops rest)
    (head : c ∈ (joined false groups ++ rest).head?) : isDigit 16 c = false := by
  have isColon : c = ':' := by
    cases groups with
    | nil =>
      rcases stops with rfl | ⟨more, rfl⟩
      · cases head
      · exact (Option.some.inj head).symm
    | cons => exact (Option.some.inj head).symm
  rw [isColon]
  decide

/-- Groups are read back up to the end of the text or a double colon. -/
theorem readGroups_joined (limit : Nat) (groups : List Group) (fits : groups.length ≤ limit)
    (first : Bool) (noDot : '.' ∉ rest) (stops : Stops rest) :
    readGroups limit first (joined first groups ++ rest) = (groups, false, rest) := by
  induction groups generalizing limit first with
  | nil => exact readGroups_stops limit first noDot stops
  | cons group groups ih =>
    cases limit with
    | zero => simp at fits
    | succ limit =>
      have text : joined first (group :: groups) ++ rest =
          (if first then [] else [':']) ++ (hex group ++ (joined false groups ++ rest)) := by
        simp [joined]
      have separated : separator first (joined first (group :: groups) ++ rest) =
          some (hex group ++ (joined false groups ++ rest)) := by
        rw [text]
        cases first <;> rfl
      have noDots : '.' ∉ joined first (group :: groups) ++ rest := fun member =>
        (List.mem_append.mp member).elim (dot_not_mem_joined first _) noDot
      unfold readGroups
      rw [noV4_of_noDot noDots, separated, Option.bind_some, readGroup,
        readBelow_append (hex_digits group.isLt) (.inl rfl) fun _ => head_after_group stops]
      dsimp only
      rw [ih limit (Nat.le_of_succ_le_succ fits) false]

theorem Ipv6Addr.ofGroups_segments (addr : Ipv6Addr) :
    Ipv6Addr.ofGroups addr.segments = some addr := by
  rw [Ipv6Addr.ofGroups, dif_pos addr.eight]

theorem readV6_display (unmapped : addr.toIpv4Mapped = none) :
    readV6 addr.display = some (addr, []) := by
  have nothing : '.' ∉ ([] : List Char) := by simp
  have eight := addr.eight
  unfold Ipv6Addr.display
  rw [unmapped]
  dsimp only
  split
  · rename_i long
    have empty := Zeros.empty addr.segments
    have zeros : Zeros addr.segments (longestZeros addr.segments 0 {} {}) :=
      longestZeros_zeros rfl empty empty (.inl rfl)
    generalize longestZeros addr.segments 0 {} {} = span at long zeros
    obtain ⟨fits, restored⟩ := zeros.restore (by omega)
    have headLength : (addr.segments.take span.start).length = span.start := by
      rw [List.length_take]
      omega
    have tailLength : (addr.segments.drop (span.start + span.len)).length =
        8 - (span.start + span.len) := by rw [List.length_drop, eight]
    have noDot : '.' ∉ ':' :: ':' :: joined true (addr.segments.drop (span.start + span.len)) := by
      simp only [List.mem_cons, not_or]
      exact ⟨by decide, by decide, dot_not_mem_joined true _⟩
    have head := readGroups_joined 8 (addr.segments.take span.start) (by omega) true noDot
       (.inr ⟨_, rfl⟩)
    have tail := readGroups_joined (7 - span.start) (addr.segments.drop (span.start + span.len))
      (by omega) true nothing (.inl rfl)
    rw [List.append_nil] at tail
    have count : 8 - (span.start + (8 - (span.start + span.len))) = span.len := by omega
    unfold readV6
    rw [head]
    dsimp only
    rw [headLength, if_neg (by omega), if_neg Bool.false_ne_true]
    simp only [readChar, if_true, Option.bind_eq_bind, Option.bind_some, tail, tailLength, count,
      ← restored, Ipv6Addr.ofGroups_segments, Option.pure_def]
  · have whole := readGroups_joined 8 addr.segments (by omega) true nothing (.inl rfl)
    rw [List.append_nil] at whole
    unfold readV6
    rw [whole]
    dsimp only
    rw [if_pos eight, Ipv6Addr.ofGroups_segments]
    rfl

theorem IpAddr.toCanonical_idem (addr : IpAddr) : addr.toCanonical.toCanonical = addr.toCanonical := by
  cases addr with
  | v4 => rfl
  | v6 addr =>
    cases mapped : addr.toIpv4Mapped with
    | none | some => simp [IpAddr.toCanonical, mapped]

theorem unmapped_of_canonical (canonical : (IpAddr.v6 addr).toCanonical = .v6 addr) :
    addr.toIpv4Mapped = none := by
  cases mapped : addr.toIpv4Mapped with
  | none => rfl
  | some => simp [IpAddr.toCanonical, mapped] at canonical

theorem Ipv4Addr.addressChar_of_mem (addr : Ipv4Addr) (member : c ∈ addr.display) :
    addressChar c = true := by
  rcases addr.display_chars member with digit | dot
  · have codes := (isDigit_iff (by decide) (by decide) c).mp digit
    have hexDigit : isDigit 16 c = true := (isDigit_iff (by decide) (by decide) c).mpr (by omega)
    simp [addressChar, hexDigit]
  · simp [addressChar, dot]

theorem IpAddr.display_chars {addr : IpAddr} (member : c ∈ addr.display) :
    addressChar c = true := by
  cases addr with
  | v4 addr => exact addr.addressChar_of_mem member
  | v6 addr =>
    cases mapped : addr.toIpv4Mapped with
    | some own =>
      simp only [IpAddr.display, Ipv6Addr.display, mapped, List.mem_append] at member
      rcases member with front | back
      · exact List.all_eq_true.mp (by decide : "::ffff:".toList.all addressChar = true) c front
      · exact own.addressChar_of_mem back
    | none =>
      rcases addr.display_chars mapped member with digit | colon
      · simp [addressChar, digit]
      · simp [addressChar, colon]

/-- **An address in canonical form is read back from its text.** -/
theorem parse_display {addr : IpAddr} (canonical : addr.toCanonical = addr) :
    IpAddr.parse addr.display = some addr := by
  cases addr with
  | v4 => simp [IpAddr.parse, IpAddr.read, IpAddr.display, readV4_display]
  | v6 addr =>
    have unmapped := unmapped_of_canonical canonical
    have noDot : '.' ∉ addr.display := fun member => ne_dot (addr.display_chars unmapped member) rfl
    simp [IpAddr.parse, IpAddr.read, IpAddr.display, readV4_eq_none noDot, readV6_display unmapped]

/-- A bracket starts no address. -/
theorem parse_bracket (text : List Char) : IpAddr.parse ('[' :: text) = none := by
  have noNumber : ∀ (bound radix : Nat) (most : Option Nat) (zeroFirst : Bool),
      isDigit radix '[' = false → readBelow bound radix most zeroFirst ('[' :: text) = none := by
    intro bound radix most zeroFirst noDigit
    simp [readBelow, readNumber, noDigit]
  have noOctet : readOctet ('[' :: text) = none := noNumber 256 10 (some 3) false (by decide)
  have noGroup : readGroup ('[' :: text) = none := noNumber 65536 16 (some 4) true (by decide)
  have noV4 : readV4 ('[' :: text) = none := by simp [readV4, noOctet]
  have noGroups : readGroups 8 true ('[' :: text) = ([], false, '[' :: text) := by
    simp [readGroups, separator, noV4, noGroup]
  have noV6 : readV6 ('[' :: text) = none := by
    unfold readV6
    rw [noGroups]
    simp [readChar]
  simp [IpAddr.parse, IpAddr.read, noV4, noV6]

end R3v3rs3.Theory.NetAddr
