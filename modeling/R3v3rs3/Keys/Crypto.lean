/-
# R3v3rs3.Keys.Crypto -- sealed values, key rings and key files

A sealed value carries the id of the key that sealed it and the text it is bound to; it opens with
that key under that text and with nothing else, which is what the cipher promises.  Keys are
identified with their ids.  A ring seals with its first key and opens with every key.

A key file is absent, holds a key, or is torn: emptied or half written by a write that did not
come to its end, so that it does not parse.
-/
import Mathlib.Data.List.Nodup

namespace R3v3rs3.Keys
set_option autoImplicit false

/-- A value sealed with `key` under the associated data `aad`. -/
structure Sealed (Key : Type) where
  key : Key
  aad : String
  plaintext : String
  deriving DecidableEq

structure ClusterKeys (Key : Type) where
  primary : Key
  older : List Key

namespace ClusterKeys

variable {Key : Type} [DecidableEq Key] {ring : ClusterKeys Key} {value : Sealed Key}
  {aad : String}

def keys (ring : ClusterKeys Key) : List Key := ring.primary :: ring.older

/-- A ring needs a key and does not take a key twice. -/
def new (keys : List Key) : Option (ClusterKeys Key) :=
  match keys with
  | [] => none
  | primary :: older => if (primary :: older).Nodup then some ⟨primary, older⟩ else none

/-- The new key seals from now on; the previous one still opens. -/
def rotate (ring : ClusterKeys Key) (newPrimary : Key) : ClusterKeys Key :=
  ⟨newPrimary, ring.primary :: ring.older⟩

def sealValue (ring : ClusterKeys Key) (aad plaintext : String) : Sealed Key :=
  ⟨ring.primary, aad, plaintext⟩

def open? (ring : ClusterKeys Key) (aad : String) (value : Sealed Key) : Option String :=
  if value.key ∈ ring.keys ∧ value.aad = aad then some value.plaintext else none

theorem new_eq_some {keys : List Key} (made : new keys = some ring) :
    ring.keys = keys ∧ keys.Nodup := by
  cases keys with
  | nil => cases made
  | cons =>
    rw [new] at made
    split at made
    · rename_i different
      cases made
      exact ⟨rfl, different⟩
    · cases made

theorem isSome_open : (ring.open? aad value).isSome ↔ value.key ∈ ring.keys ∧ value.aad = aad := by
  unfold open?
  split
  · rename_i opens
    simp [opens]
  · rename_i shut
    simp [shut]

theorem isSome_open_rotate (opens : (ring.open? aad value).isSome) (newKey : Key) :
    ((ring.rotate newKey).open? aad value).isSome := by
  obtain ⟨held, bound⟩ := isSome_open.mp opens
  exact isSome_open.mpr ⟨List.mem_cons_of_mem _ held, bound⟩

/-- Opens the value and seals it again, with the first key of the ring. -/
def reseal (ring : ClusterKeys Key) (aad : String) (value : Sealed Key) : Option (Sealed Key) :=
  (ring.open? aad value).map (ring.sealValue aad)

theorem reseal_eq_some {again : Sealed Key} : ring.reseal aad value = some again ↔
    (ring.open? aad value).isSome ∧ again = ring.sealValue aad value.plaintext := by
  rw [isSome_open, reseal, open?]
  split
  · rename_i opens
    simp [opens, eq_comm]
  · rename_i shut
    simp [shut]

end ClusterKeys

/-! ## Key files -/

inductive KeyFile (Key : Type) where
  | absent
  | torn
  | key (key : Key)
  deriving DecidableEq

def parseKeyFile {Key : Type} : KeyFile Key → Option Key
  | .key key => some key
  | _ => none

/-- The ring of the key file and, when there is one, the file of the previous key. -/
def openKeys {Key : Type} [DecidableEq Key] (keyFile oldFile : KeyFile Key) :
    Option (ClusterKeys Key) :=
  (parseKeyFile keyFile).bind fun primary =>
    match oldFile with
    | .absent => ClusterKeys.new [primary]
    | old => (parseKeyFile old).bind fun key => ClusterKeys.new [primary, key]

section OpenKeys

variable {Key : Type} [DecidableEq Key] {keyFile oldFile : KeyFile Key}

/-- What a successful start says about the files. -/
theorem openKeys_eq_some {ring : ClusterKeys Key} (started : openKeys keyFile oldFile = some ring) :
    ∃ primary, keyFile = .key primary ∧
      ((oldFile = .absent ∧ ring.keys = [primary]) ∨
        ∃ old, oldFile = .key old ∧ old ≠ primary ∧ ring.keys = [primary, old]) := by
  cases keyFile with
  | absent | torn => cases started
  | key primary =>
    refine ⟨primary, rfl, ?_⟩
    cases oldFile with
    | absent =>
      have made : ClusterKeys.new [primary] = some ring := started
      exact .inl ⟨rfl, (ClusterKeys.new_eq_some made).1⟩
    | torn => cases started
    | key old =>
      have made : ClusterKeys.new [primary, old] = some ring := started
      obtain ⟨same, different⟩ := ClusterKeys.new_eq_some made
      refine .inr ⟨old, rfl, ?_, same⟩
      rintro rfl
      simp at different

theorem openKeys_pair {primary old : Key} (different : primary ≠ old) :
    openKeys (.key primary) (.key old) = some ⟨primary, [old]⟩ := by
  simp [openKeys, parseKeyFile, ClusterKeys.new, different]

/-- The same key in both files is refused. -/
theorem openKeys_twice (key : Key) : openKeys (.key key) (.key key) = none := by
  simp [openKeys, parseKeyFile, ClusterKeys.new]

end OpenKeys

end R3v3rs3.Keys
