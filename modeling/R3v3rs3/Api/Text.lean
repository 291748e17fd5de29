/-
# R3v3rs3.Api.Text -- the string functions the request checks are written with, and image references

Texts are cut as lists of characters; `trim` and `splitWhitespace` use the `White_Space`
property of Unicode, and `parseUnsigned` reads a number the way `str::parse` does: an optional
plus sign, at least one digit, and no value above the largest one of the type.

An image reference is a text that `checkImage` accepts; the field carries the check, so a value is
only ever built by `ImageRef.parse`.  `repository` is the reference without its tag or digest.
-/
import Mathlib.Algebra.Group.Nat.Defs
import Mathlib.Data.List.Basic

namespace R3v3rs3.Api.Text
set_option autoImplicit false

/-- `char::is_whitespace`. -/
def isWhitespace (c : Char) : Bool :=
  (9 ≤ c.toNat && c.toNat ≤ 13) || c.toNat = 0x20 || c.toNat = 0x85 || c.toNat = 0xA0 ||
    c.toNat = 0x1680 || (0x2000 ≤ c.toNat && c.toNat ≤ 0x200A) || c.toNat = 0x2028 ||
    c.toNat = 0x2029 || c.toNat = 0x202F || c.toNat = 0x205F || c.toNat = 0x3000

def trimChars (text : List Char) : List Char :=
  ((text.dropWhile isWhitespace).reverse.dropWhile isWhitespace).reverse

/-- `str::trim`. -/
def trim (text : String) : String := String.ofList (trimChars text.toList)

/-- `str::split` on one character: the parts, empty ones included. -/
def split (separator : Char) (text : List Char) : List (List Char) := text.splitOn separator

theorem split_append (separator : Char) (front back : List Char) :
    split separator (front ++ separator :: back) = split separator front ++ split separator back :=
  List.splitOnP_append_cons front back (by simp)

/-- `str::split_once` on one character. -/
def splitOnce (separator : Char) : List Char → Option (List Char × List Char)
  | [] => none
  | c :: rest =>
    if c = separator then some ([], rest)
    else (splitOnce separator rest).map (fun parts => (c :: parts.1, parts.2))

/-- `str::rsplit_once` on one character. -/
def rsplitOnce (separator : Char) (text : List Char) : Option (List Char × List Char) :=
  (splitOnce separator text.reverse).map fun parts => (parts.2.reverse, parts.1.reverse)

/-- `str::split_whitespace`: the parts between white space, without empty ones. -/
def splitWhitespace : List Char → List (List Char)
  | [] => []
  | c :: rest =>
    if isWhitespace c then splitWhitespace rest
    else
      match rest with
      | [] => [[c]]
      | next :: _ =>
        if isWhitespace next then [c] :: splitWhitespace rest
        else
          match splitWhitespace rest with
          | [] => [[c]]
          | part :: parts => (c :: part) :: parts

/-- `str::strip_prefix`. -/
def stripStart : List Char → List Char → Option (List Char)
  | [], text => some text
  | _ :: _, [] => none
  | p :: pattern, c :: text => if p = c then stripStart pattern text else none

/-- `str::strip_suffix` of one character. -/
def stripEnd (last : Char) (text : List Char) : Option (List Char) :=
  if text.getLast? = some last then some text.dropLast else none

def digit (c : Char) : Option Nat :=
  if '0'.toNat ≤ c.toNat ∧ c.toNat ≤ '9'.toNat then some (c.toNat - '0'.toNat) else none

def parseDigits (bound : Nat) : Nat → List Char → Option Nat
  | value, [] => some value
  | value, c :: rest =>
    match digit c with
    | none => none
    | some d =>
      if value * 10 + d ≤ bound then parseDigits bound (value * 10 + d) rest else none

/-- `str::parse` of an unsigned type with the largest value `bound`. -/
def parseUnsigned (bound : Nat) (text : List Char) : Option Nat :=
  match text with
  | [] => none
  | ['+'] => none
  | '+' :: digits => parseDigits bound 0 digits
  | digits => parseDigits bound 0 digits

def parseU32 : List Char → Option Nat := parseUnsigned (2 ^ 32 - 1)

def parseU64 : List Char → Option Nat := parseUnsigned (2 ^ 64 - 1)

end R3v3rs3.Api.Text

namespace R3v3rs3.Api
open Api.Text

/-! ## Images -/

def maxImageLength : Nat := 255

def imageChar (c : Char) : Bool := c.isAlphanum || c ∈ ['.', '_', '-', '/', ':', '@']

/-- Whether two slashes stand next to each other. -/
def doubleSlash : List Char → Bool
  | [] => false
  | c :: rest => (c = '/' && rest.head? = some '/') || doubleSlash rest

def checkImage (value : List Char) : Bool :=
  value ≠ [] && value.length ≤ maxImageLength && value.all imageChar &&
    (value.headD ' ').isAlphanum && value.count '@' ≤ 1 && !doubleSlash value &&
    value.getLastD ' ' ∉ [':', '/', '@']

structure ImageRef where
  value : List Char
  valid : checkImage value = true
  deriving DecidableEq

/-- The text before and after the last `separator`. -/
def splitLast (separator : Char) (text : List Char) : Option (List Char × List Char) :=
  (splitOnce separator text.reverse).map fun parts => (parts.2.reverse, parts.1.reverse)

namespace ImageRef

def parse (text : List Char) : Option ImageRef :=
  if valid : checkImage text = true then some ⟨text, valid⟩ else none

/-- The repository, and the tag or the digest. -/
def split (image : ImageRef) : List Char × List Char :=
  match splitOnce '@' image.value with
  | some parts => parts
  | none =>
    let parts :=
      match splitLast '/' image.value with
      | some (path, name) => (path ++ ['/'], name)
      | none => ([], image.value)
    match splitLast ':' parts.2 with
    | some (name, tag) => (parts.1 ++ name, tag)
    | none => (image.value, "latest".toList)

def repository (image : ImageRef) : List Char := image.split.1

def tagOrDigest (image : ImageRef) : List Char := image.split.2

end ImageRef

end R3v3rs3.Api
