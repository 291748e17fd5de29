/-
# R3v3rs3.Theory.UrlPath -- the path of a URL with a special scheme

The path state of the URL standard, for schemes in which `\` separates segments like `/`.  Tabs
and newlines are dropped, characters of the path set are percent-encoded, and at each separator
the segment read so far is finished: a double dot drops the last segment of the path, a single dot
is skipped, and everything else is appended.  Dots also count when they are written `%2e`.

`Path` carries what the parser guarantees of a path it made.  `parse_under` says what becomes of a
text that starts with the text of such a path, and `under_iff` when the result still starts with
it: the rest climbs out of the path by `climbs` segments and has to name those again.
-/
import Mathlib.Data.List.DropRight

namespace R3v3rs3.Theory.UrlPath
set_option autoImplicit false

abbrev Segment := List Char

/-! ## Characters and dots -/

def isSeparator (c : Char) : Bool := c = '/' || c = '\\'

def isTabOrNewline (c : Char) : Bool := c = '\t' || c = '\n' || c = '\r'

/-- The path percent-encode set. -/
def needsEncoding (c : Char) : Bool :=
  c.toNat ≤ 0x1F || 0x7E < c.toNat ||
    c.toNat ∈ [0x20, 0x22, 0x23, 0x3C, 0x3E, 0x3F, 0x5E, 0x60, 0x7B, 0x7D]

def hexDigit (n : Nat) : Char := Char.ofNat (if n < 10 then 48 + n else 55 + n)

def encodeByte (b : UInt8) : List Char := ['%', hexDigit (b.toNat / 16), hexDigit (b.toNat % 16)]

/-- Percent-encodes the characters of a set. -/
def encodeIn (set : Char → Bool) (c : Char) : List Char :=
  if set c then (String.utf8EncodeChar c).flatMap encodeByte else [c]

def percentEncode (c : Char) : List Char := encodeIn needsEncoding c

def isSingleDot (segment : Segment) : Bool :=
  segment.map Char.toLower ∈ [".".toList, "%2e".toList]

def isDoubleDot (segment : Segment) : Bool :=
  segment.map Char.toLower ∈ ["..".toList, ".%2e".toList, "%2e.".toList, "%2e%2e".toList]

/-! ## The path state -/

variable {first segment : Segment} {c : Char} {path base : List Segment} (text : List Char)

section PathState

variable {State : Type*} (pop : State → State) (push : State → Segment → State)

/-- A segment ends; `more` when a separator ends it. -/
def finishSegment (state : State) (buffer : Segment) (more : Bool) : State :=
  if isDoubleDot buffer then if more then pop state else push (pop state) []
  else if isSingleDot buffer then if more then state else push state []
  else push state buffer

def pathState (state : State) (buffer : Segment) : List Char → State
  | [] => finishSegment pop push state buffer false
  | c :: rest =>
    if isSeparator c then pathState (finishSegment pop push state buffer true) [] rest
    else pathState state (buffer ++ percentEncode c) rest

/-- The encoded text up to the first separator, and the parts between separators after it. -/
def pieces : List Char → Segment × List Segment
  | [] => ([], [])
  | c :: rest =>
    if isSeparator c then ([], (pieces rest).1 :: (pieces rest).2)
    else (percentEncode c ++ (pieces rest).1, (pieces rest).2)

/-- The segments are finished one after the other. -/
def resolve (state : State) : Segment → List Segment → State
  | first, [] => finishSegment pop push state first false
  | first, next :: others => resolve (finishSegment pop push state first true) next others

theorem pathState_eq_resolve (state : State) (buffer : Segment) (text : List Char) :
    pathState pop push state buffer text =
      resolve pop push state (buffer ++ (pieces text).1) (pieces text).2 := by
  induction text generalizing state buffer with
  | nil => simp [pathState, pieces, resolve]
  | cons c rest ih =>
    by_cases separator : isSeparator c = true
    · simp [pathState, pieces, separator, ih, resolve]
    · simp [pathState, pieces, separator, ih]

variable {pop push}

section Hom

variable {Other : Type*} {pop' : Other → Other} {push' : Other → Segment → Other}
  {f : State → Other} (pops : ∀ state, f (pop state) = pop' (f state))
  (pushes : ∀ state segment, f (push state segment) = push' (f state) segment)
include pops pushes

theorem finishSegment_hom (state : State) (buffer : Segment) (more : Bool) :
    f (finishSegment pop push state buffer more) =
      finishSegment pop' push' (f state) buffer more := by
  unfold finishSegment
  split
  · split <;> simp [pops, pushes]
  · split
    · split <;> simp [pushes]
    · exact pushes state buffer

/-- A map that respects the two operations respects the whole text. -/
theorem resolve_hom (state : State) (first : Segment) (others : List Segment) :
    f (resolve pop push state first others) = resolve pop' push' (f state) first others := by
  induction others generalizing state first with
  | nil => exact finishSegment_hom pops pushes state first false
  | cons next others ih =>
    rw [resolve, ih, finishSegment_hom pops pushes, resolve]

end Hom

/-- What every finished segment keeps, the whole result has. -/
theorem resolve_induct {good : State → Prop} {ok : Segment → Prop}
    (step : ∀ state buffer more, ok buffer → good state →
      good (finishSegment pop push state buffer more)) {state : State} (start : good state)
    {others : List Segment} (all : ∀ segment ∈ first :: others, ok segment) :
    good (resolve pop push state first others) := by
  induction others generalizing state first with
  | nil => exact step state first false (all first (by simp)) start
  | cons next others ih =>
    apply ih (step state first true (all first (by simp)) start)
    intro segment member
    exact all segment (by simp [member])

end PathState

/-! ## Paths -/

def append (path : List Segment) (segment : Segment) : List Segment := path ++ [segment]

/-- The segments of a text. -/
def parse : List Segment :=
  match text.filter fun c => !isTabOrNewline c with
  | [] => pathState List.dropLast append [] [] []
  | c :: rest =>
    if isSeparator c then pathState List.dropLast append [] [] rest
    else pathState List.dropLast append [] [] (c :: rest)

def serialize (path : List Segment) : List Char := path.flatMap fun segment => '/' :: segment

@[simp] theorem serialize_nil : serialize [] = [] := rfl

@[simp] theorem serialize_cons (segment : Segment) (path : List Segment) :
    serialize (segment :: path) = '/' :: (segment ++ serialize path) := rfl

theorem serialize_append (path other : List Segment) :
    serialize (path ++ other) = serialize path ++ serialize other :=
  List.flatMap_append

/-- A segment that the parser leaves as it is. -/
structure Clean (segment : Segment) : Prop where
  plain : ∀ c ∈ segment, needsEncoding c = false ∧ isSeparator c = false
  noDoubleDot : isDoubleDot segment = false
  noSingleDot : isSingleDot segment = false

theorem clean_nil : Clean [] := ⟨by simp, by decide, by decide⟩

theorem Clean.no_tab (clean : Clean segment) (member : c ∈ segment) : isTabOrNewline c = false := by
  by_contra tab
  have encoded : needsEncoding c = true := by
    simp only [isTabOrNewline, Bool.not_eq_false, Bool.or_eq_true, decide_eq_true_eq] at tab
    rcases tab with (rfl | rfl) | rfl <;> decide
  rw [(clean.plain c member).1] at encoded
  cases encoded

/-- The path of a parsed URL. -/
structure Path where
  segments : List Segment
  nonempty : segments ≠ []
  clean : ∀ segment ∈ segments, Clean segment

/-! ### What the parser makes is clean -/

def Plain (c : Char) : Prop := needsEncoding c = false ∧ isSeparator c = false

instance : DecidablePred Plain := fun _ => inferInstanceAs (Decidable (_ ∧ _))

theorem plain_hexDigit {n : Nat} (digit : n < 16) : Plain (hexDigit n) := by
  revert digit
  revert n
  decide

theorem plain_percentEncode (inside : isSeparator c = false) :
    ∀ encoded ∈ percentEncode c, Plain encoded := by
  intro encoded member
  unfold percentEncode encodeIn at member
  split at member
  · obtain ⟨b, -, digits⟩ := List.mem_flatMap.mp member
    have bound : b.toNat < 256 := b.toNat_lt
    simp only [encodeByte, List.mem_cons, List.not_mem_nil, or_false] at digits
    rcases digits with rfl | rfl | rfl
    · decide
    · exact plain_hexDigit (by omega)
    · exact plain_hexDigit (by omega)
  · rename_i kept
    rw [List.mem_singleton.mp member]
    exact ⟨by simpa using kept, inside⟩

theorem plain_pieces : ∀ piece ∈ (pieces text).1 :: (pieces text).2, ∀ c ∈ piece, Plain c := by
  induction text with
  | nil => simp [pieces]
  | cons c rest ih =>
    unfold pieces
    split
    · intro piece member
      rcases List.mem_cons.mp member with rfl | later
      · simp
      · exact ih piece later
    · rename_i inside
      rw [Bool.not_eq_true] at inside
      intro piece member d here
      rcases List.mem_cons.mp member with rfl | later
      · rcases List.mem_append.mp here with encoded | rest
        · exact plain_percentEncode inside d encoded
        · exact ih _ (by simp) d rest
      · exact ih piece (by simp [later]) d here

theorem clean_append {last : Segment} (clean : ∀ segment ∈ path, Clean segment)
    (own : Clean last) : ∀ segment ∈ append path last, Clean segment := by
  intro segment member
  rcases List.mem_append.mp member with old | new
  · exact clean segment old
  · rwa [List.mem_singleton.mp new]

theorem clean_finishSegment {buffer : Segment} (more : Bool) (plain : ∀ c ∈ buffer, Plain c)
    (clean : ∀ segment ∈ path, Clean segment) :
    ∀ segment ∈ finishSegment List.dropLast append path buffer more, Clean segment := by
  have popped : ∀ segment ∈ path.dropLast, Clean segment := fun segment member =>
    clean segment ((List.dropLast_sublist path).mem member)
  unfold finishSegment
  split
  · split
    · exact popped
    · exact clean_append popped clean_nil
  · rename_i noDouble
    split
    · split
      · exact clean
      · exact clean_append clean clean_nil
    · rename_i noSingle
      exact clean_append clean ⟨plain, by simpa using noDouble, by simpa using noSingle⟩

theorem resolve_nonempty (path : List Segment) (first : Segment) (others : List Segment) :
    resolve List.dropLast append path first others ≠ [] := by
  induction others generalizing path first with
  | nil =>
    unfold resolve finishSegment append
    split
    · simp
    · split <;> simp
  | cons next others ih => exact ih _ next

/-- The text that the path state reads. -/
def body : List Char :=
  match text.filter fun c => !isTabOrNewline c with
  | [] => []
  | c :: rest => if isSeparator c then rest else c :: rest

theorem parse_eq_resolve :
    parse text = resolve List.dropLast append [] (pieces (body text)).1 (pieces (body text)).2 := by
  have read : parse text = pathState List.dropLast append [] [] (body text) := by
    unfold parse body
    split
    · rfl
    · split <;> rfl
  rw [read, pathState_eq_resolve, List.nil_append]

def Path.ofText : Path where
  segments := parse text
  nonempty := by
    rw [parse_eq_resolve]
    exact resolve_nonempty [] _ _
  clean := by
    rw [parse_eq_resolve]
    have step : ∀ (path : List Segment) (buffer : Segment) (more : Bool),
        (∀ c ∈ buffer, Plain c) → (∀ segment ∈ path, Clean segment) →
          ∀ segment ∈ finishSegment List.dropLast append path buffer more, Clean segment :=
      fun _ _ more plain clean => clean_finishSegment more plain clean
    exact resolve_induct step (by simp) (plain_pieces _)

/-! ## A text that starts with a path -/

/-- A path relative to another one: how many segments it drops there, and what it adds. -/
structure Relative where
  climbs : Nat
  names : List Segment

namespace Relative

def pop (relative : Relative) : Relative :=
  if relative.names = [] then { relative with climbs := relative.climbs + 1 }
  else { relative with names := relative.names.dropLast }

def push (relative : Relative) (segment : Segment) : Relative :=
  { relative with names := append relative.names segment }

def onto (base : List Segment) (relative : Relative) : List Segment :=
  base.take (base.length - relative.climbs) ++ relative.names

/-- Where a text leads. -/
def ofText : Relative :=
  resolve pop push ⟨0, []⟩ (pieces text).1 (pieces text).2

theorem onto_pop (base : List Segment) (relative : Relative) :
    onto base relative.pop = (onto base relative).dropLast := by
  obtain ⟨climbs, names⟩ := relative
  unfold pop onto
  by_cases none : names = []
  · simp only [none, if_true, List.append_nil]
    rw [List.dropLast_eq_take, List.take_take, List.length_take]
    congr 1
    omega
  · simp only [none, if_false]
    rw [List.dropLast_append_of_ne_nil none]

theorem onto_push (base : List Segment) (relative : Relative) (segment : Segment) :
    onto base (relative.push segment) = append (onto base relative) segment := by
  simp [onto, push, append]

/-- **When the result still starts with the path**: the segments that were dropped are named
again. -/
theorem under_iff (base : List Segment) (relative : Relative) :
    base <+: onto base relative ↔
      base.drop (base.length - relative.climbs) <+: relative.names := by
  let kept := base.take (base.length - relative.climbs)
  let dropped := base.drop (base.length - relative.climbs)
  calc base <+: onto base relative
      ↔ kept ++ dropped <+: kept ++ relative.names := by
        rw [List.take_append_drop]
        rfl
    _ ↔ dropped <+: relative.names := List.prefix_append_right_inj kept

end Relative

/-- A clean segment and the separator after it are read as that segment. -/
theorem pathState_clean (clean : Clean segment) (path : List Segment) (rest : List Char) :
    pathState List.dropLast append path [] (segment ++ '/' :: rest) =
      pathState List.dropLast append (append path segment) [] rest := by
  have chunk : ∀ (chars : List Char) (buffer : Segment), (∀ c ∈ chars, Plain c) →
      pathState List.dropLast append path buffer (chars ++ '/' :: rest) =
        pathState List.dropLast append path (buffer ++ chars) ('/' :: rest) := by
    intro chars
    induction chars with
    | nil => simp
    | cons c chars ih =>
      intro buffer plain
      have here := plain c (by simp)
      rw [List.cons_append, pathState, if_neg (by simp [here.2]),
        ih _ fun d member => plain d (by simp [member]), percentEncode, encodeIn,
        if_neg (by simp [here.1])]
      simp
  rw [chunk segment [] clean.plain, List.nil_append, pathState, if_pos (by decide), finishSegment,
    if_neg (by simp [clean.noDoubleDot]), if_neg (by simp [clean.noSingleDot])]

theorem pathState_serialize (clean : ∀ segment ∈ base, Clean segment) (path : List Segment)
    (rest : List Char) :
    ∃ text, serialize base ++ '/' :: rest = '/' :: text ∧
      pathState List.dropLast append path [] text =
        pathState List.dropLast append (path ++ base) [] rest := by
  induction base generalizing path with
  | nil => exact ⟨rest, by simp, by simp⟩
  | cons segment base ih =>
    obtain ⟨text, starts, same⟩ :=
      ih (fun other member => clean other (by simp [member])) (append path segment)
    refine ⟨segment ++ '/' :: text, by simp [starts], ?_⟩
    rw [pathState_clean (clean segment (by simp)), same]
    simp [append]

theorem filter_serialize (clean : ∀ segment ∈ base, Clean segment) :
    (serialize base).filter (fun c => !isTabOrNewline c) = serialize base := by
  rw [List.filter_eq_self]
  intro c member
  obtain ⟨segment, known, here⟩ := List.mem_flatMap.mp member
  rcases List.mem_cons.mp here with rfl | inside
  · decide
  · simp [(clean segment known).no_tab inside]

/-- **A text under a path.**  The rest of the text, read on its own, is put onto the path. -/
theorem parse_under (clean : ∀ segment ∈ base, Clean segment) (rest : List Char) :
    parse (serialize base ++ '/' :: rest) =
      Relative.onto base (.ofText (rest.filter fun c => !isTabOrNewline c)) := by
  have kept : (serialize base ++ '/' :: rest).filter (fun c => !isTabOrNewline c) =
      serialize base ++ '/' :: rest.filter fun c => !isTabOrNewline c := by
    rw [List.filter_append, filter_serialize clean, List.filter_cons_of_pos (by decide)]
  obtain ⟨text, starts, same⟩ :=
    pathState_serialize clean [] (rest.filter fun c => !isTabOrNewline c)
  rw [parse, kept, starts]
  dsimp only
  rw [if_pos (by decide), same, List.nil_append, pathState_eq_resolve, List.nil_append,
    Relative.ofText, resolve_hom (Relative.onto_pop _) (Relative.onto_push _)]
  simp [Relative.onto]

/-! ## Texts without dots -/

/-- A text whose parts are no double dots drops nothing. -/
theorem Relative.resolve_climbs {others : List Segment}
    (none : ∀ piece ∈ first :: others, isDoubleDot piece = false) (relative : Relative) :
    (resolve pop push relative first others).climbs = relative.climbs := by
  have step : ∀ (relative : Relative) (piece : Segment) (more : Bool),
      isDoubleDot piece = false →
        (finishSegment pop push relative piece more).climbs = relative.climbs := by
    intro relative piece more noDot
    rw [finishSegment, if_neg (by simp [noDot])]
    split
    · split <;> rfl
    · rfl
  induction others generalizing relative first with
  | nil => exact step relative first false (none first (by simp))
  | cons next others ih =>
    rw [resolve, ih fun piece member => none piece (by simp [member])]
    exact step relative first true (none first (by simp))

theorem pieces_append {start : Segment} (inside : ∀ c ∈ start, isSeparator c = false)
    (rest : List Char) :
    pieces (start ++ rest) = (start.flatMap percentEncode ++ (pieces rest).1, (pieces rest).2) := by
  induction start with
  | nil => simp
  | cons c start ih =>
    rw [List.cons_append, pieces, if_neg (by simp [inside c (by simp)]),
      ih fun d member => inside d (by simp [member])]
    simp

/-- The parts of segments that are joined with slashes are the segments. -/
theorem pieces_intercalate {segments : List Segment}
    (inside : ∀ segment ∈ first :: segments, ∀ c ∈ segment, isSeparator c = false) :
    pieces (List.intercalate ['/'] (first :: segments)) =
      (first.flatMap percentEncode, segments.map (List.flatMap percentEncode)) := by
  induction segments generalizing first with
  | nil =>
    have alone := pieces_append (inside first (by simp)) []
    simpa [pieces] using alone
  | cons next segments ih =>
    have rest : pieces (List.intercalate ['/'] (next :: segments)) = _ :=
      ih fun segment member => inside segment (List.mem_cons_of_mem first member)
    rw [List.intercalate_cons_cons, List.append_assoc, pieces_append (inside first (by simp)),
      List.singleton_append, pieces, if_pos (by decide), rest]
    simp

/-! ### Encoding makes no dots -/

/-- Every percent sign is followed by `2e`. -/
def onlyDotCodes : List Char → Bool
  | [] => true
  | c :: rest => (c != '%' || rest.take 2 == ['2', 'e']) && onlyDotCodes rest

theorem onlyDotCodes_of_append (start rest : List Char)
    (all : onlyDotCodes (start ++ rest) = true) : onlyDotCodes rest = true := by
  induction start with
  | nil => exact all
  | cons c start ih =>
    rw [List.cons_append, onlyDotCodes, Bool.and_eq_true] at all
    exact ih all.2

/-- No byte of an encoded character is a dot. -/
theorem head_utf8EncodeChar (encoded : needsEncoding c = true) :
    ∃ b rest, String.utf8EncodeChar c = b :: rest ∧ b.toNat ≠ 46 := by
  have code : c.val.toNat = c.toNat := rfl
  unfold String.utf8EncodeChar
  dsimp only
  split
  · refine ⟨_, _, rfl, ?_⟩
    intro dot
    rw [UInt8.toNat_ofNat', Nat.mod_eq_of_lt (by omega)] at dot
    rw [needsEncoding, ← code, dot] at encoded
    revert encoded
    decide
  · split
    · refine ⟨_, _, rfl, ?_⟩
      rw [UInt8.toNat_ofNat']
      omega
    · split
      · refine ⟨_, _, rfl, ?_⟩
        rw [UInt8.toNat_ofNat']
        omega
      · refine ⟨_, _, rfl, ?_⟩
        rw [UInt8.toNat_ofNat']
        omega

theorem lower_hexDigit {n : Nat} (digit : n < 16) :
    ((hexDigit n).toLower = '2' → n = 2) ∧ ((hexDigit n).toLower = 'e' → n = 14) := by
  revert digit
  revert n
  decide

/-- A segment that is a double dot once it is encoded was one before. -/
theorem isDoubleDot_of_encoded (dots : isDoubleDot (segment.flatMap percentEncode) = true) :
    isDoubleDot segment = true := by
  have codes : ∀ text ∈ ["..".toList, ".%2e".toList, "%2e.".toList, "%2e%2e".toList],
      onlyDotCodes text = true := by decide
  have only := codes _ (of_decide_eq_true dots)
  have raw : ∀ c ∈ segment, needsEncoding c = false := by
    intro c member
    by_contra encoded
    rw [Bool.not_eq_false] at encoded
    obtain ⟨before, after, rfl⟩ := List.append_of_mem member
    obtain ⟨b, rest, bytes, noDot⟩ := head_utf8EncodeChar encoded
    have bound : b.toNat < 256 := b.toNat_lt
    rw [List.flatMap_append, List.map_append] at only
    have here := onlyDotCodes_of_append _ _ only
    -- the code of the first byte would be `2e`
    simp only [List.flatMap_cons, percentEncode, encodeIn, encoded, if_true, bytes, encodeByte,
      List.cons_append, List.map_cons, onlyDotCodes, Bool.and_eq_true] at here
    have digits : (hexDigit (b.toNat / 16)).toLower = '2' ∧
        (hexDigit (b.toNat % 16)).toLower = 'e' := by
      have percent : Char.toLower '%' = '%' := by decide
      simpa [percent] using here.1
    have high := (lower_hexDigit (by omega)).1 digits.1
    have low := (lower_hexDigit (by omega)).2 digits.2
    omega
  have same : segment.flatMap percentEncode = segment := by
    rw [List.flatMap_congr (g := fun c => [c]), List.flatMap_singleton']
    intro c member
    simp [percentEncode, encodeIn, raw c member]
  rwa [same] at dots

/-- Segments without separators that are no double dots, joined with slashes, drop nothing. -/
theorem Relative.climbs_intercalate {segments : List Segment}
    (inside : ∀ segment ∈ segments, ∀ c ∈ segment, isSeparator c = false)
    (noDots : ∀ segment ∈ segments, isDoubleDot segment = false) :
    (ofText (List.intercalate ['/'] segments)).climbs = 0 := by
  cases segments with
  | nil => decide
  | cons first others =>
    rw [ofText, pieces_intercalate inside]
    apply resolve_climbs
    intro piece member
    have encoded : piece ∈ (first :: others).map (List.flatMap percentEncode) := member
    obtain ⟨segment, known, rfl⟩ := List.mem_map.mp encoded
    by_contra dots
    rw [Bool.not_eq_false] at dots
    have before := isDoubleDot_of_encoded dots
    rw [noDots segment known] at before
    cases before

/-! ## Trailing slashes -/

/-- Without the empty segments at its end. -/
def trimmed (path : List Segment) : List Segment := path.rdropWhile (· = [])

theorem clean_trimmed (clean : ∀ segment ∈ path, Clean segment) :
    ∀ segment ∈ trimmed path, Clean segment := fun segment member =>
  clean segment ((List.rdropWhile_prefix _ path).subset member)

/-- The text without its trailing slashes is the text of the trimmed path. -/
theorem rdropWhile_serialize (clean : ∀ segment ∈ path, Clean segment) :
    (serialize path).rdropWhile (· = '/') = serialize (trimmed path) := by
  induction path using List.reverseRecOn with
  | nil => simp [trimmed]
  | append_singleton path segment ih =>
    have before := ih fun other member => clean other (by simp [member])
    rw [serialize_append]
    cases segment using List.reverseRecOn with
    | nil =>
      have empty : trimmed (path ++ [[]]) = trimmed path := by
        simp [trimmed, List.rdropWhile_concat_pos]
      rw [empty, ← before]
      exact List.rdropWhile_concat_pos _ _ _ (by simp)
    | append_singleton start last =>
      have full : trimmed (path ++ [start ++ [last]]) = path ++ [start ++ [last]] := by
        rw [trimmed, List.rdropWhile_concat_neg]
        simp
      have inside : last ≠ '/' := by
        have plain := ((clean (start ++ [last]) (by simp)).plain last (by simp)).2
        rintro rfl
        simp [isSeparator] at plain
      rw [full, serialize_append, serialize_cons, serialize_nil, List.append_nil,
        ← List.cons_append, ← List.append_assoc, List.rdropWhile_concat_neg]
      simpa using inside

end R3v3rs3.Theory.UrlPath
