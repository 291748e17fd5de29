/-
# R3v3rs3.Theory.MultiMap -- maps with several values under one name

Lines `(name, value)` in order; `getAll` reads the values of one name.  The edits of a pipeline
are composed through `Edits`: an edit that only touches some names leaves the values of every
other name alone (`Edits.comp`), so a stage is summed up by the names it writes and
the stages after it need not look inside it.
-/
import Mathlib.Data.List.Basic

namespace R3v3rs3.Theory
set_option autoImplicit false

structure MultiMap (Name Value : Type*) where
  lines : List (Name × Value)
  deriving DecidableEq

namespace MultiMap

variable {Name Value : Type*} [DecidableEq Name] (map : MultiMap Name Value)

/-- The values of a name, in the order of their lines. -/
def getAll (name : Name) : List Value :=
  (map.lines.filter (·.1 = name)).map Prod.snd

/-- The first value of a name. -/
def get (name : Name) : Option Value := (map.getAll name).head?

def contains (name : Name) : Bool := (map.get name).isSome

/-- Takes every value of the name out. -/
def remove (name : Name) : MultiMap Name Value :=
  ⟨map.lines.filter (·.1 ≠ name)⟩

/-- One more value, after the ones that are there. -/
def append (name : Name) (value : Value) : MultiMap Name Value :=
  ⟨map.lines ++ [(name, value)]⟩

/-- The value takes the place of all values of the name. -/
def insert (name : Name) (value : Value) : MultiMap Name Value :=
  (map.remove name).append name value

/-- An insertion that is made only when there is a value. -/
def insertSome (name : Name) (value : Option Value) : MultiMap Name Value :=
  match value with
  | some value => map.insert name value
  | none => map

def appendAll (name : Name) (values : List Value) : MultiMap Name Value :=
  values.foldl (fun map value => map.append name value) map

def removeAll (names : List Name) : MultiMap Name Value :=
  names.foldl remove map

/-- The names that have a value, each one once. -/
def names : List Name := (map.lines.map Prod.fst).eraseDups

/-- The values of the names are those of `source` from now on. -/
def replaceAll (map source : MultiMap Name Value) (names : List Name) : MultiMap Name Value :=
  names.foldl (fun map name => (map.remove name).appendAll name (source.getAll name)) map

theorem mem_names {map : MultiMap Name Value} {name : Name} :
    name ∈ map.names ↔ map.getAll name ≠ [] := by
  rw [names, List.mem_eraseDups, getAll, Ne, List.map_eq_nil_iff, List.filter_eq_nil_iff]
  simp

theorem contains_iff {map : MultiMap Name Value} {name : Name} :
    map.contains name = true ↔ map.getAll name ≠ [] := by
  cases values : map.getAll name <;> simp [contains, get, values]

/-! ## What an edit does to the values of a name -/

theorem getAll_remove (name other : Name) :
    (map.remove name).getAll other = if other = name then [] else map.getAll other := by
  by_cases same : other = name
  · subst same
    rw [if_pos rfl, getAll, remove, List.filter_filter, List.map_eq_nil_iff,
      List.filter_eq_nil_iff]
    intro line _
    simp
  · rw [if_neg same, getAll, remove, List.filter_filter, getAll]
    congr 1
    apply List.filter_congr
    intro line _
    by_cases here : line.1 = other
    · simp [here, same]
    · simp [here]

theorem getAll_append (name other : Name) (value : Value) :
    (map.append name value).getAll other =
      if other = name then map.getAll other ++ [value] else map.getAll other := by
  by_cases same : other = name
  · subst same
    simp [getAll, append]
  · simp [getAll, append, same, Ne.symm same]

theorem getAll_insert (name other : Name) (value : Value) :
    (map.insert name value).getAll other =
      if other = name then [value] else map.getAll other := by
  rw [insert, getAll_append, getAll_remove]
  by_cases same : other = name <;> simp [same]

theorem getAll_appendAll (name other : Name) (values : List Value) :
    (map.appendAll name values).getAll other =
      if other = name then map.getAll other ++ values else map.getAll other := by
  induction values generalizing map with
  | nil => simp [appendAll]
  | cons value rest ih =>
    show ((map.append name value).appendAll name rest).getAll other = _
    rw [ih, getAll_append]
    by_cases same : other = name <;> simp [same]

theorem getAll_removeAll (names : List Name) (other : Name) :
    (map.removeAll names).getAll other = if other ∈ names then [] else map.getAll other := by
  induction names generalizing map with
  | nil => simp [removeAll]
  | cons name rest ih =>
    show ((map.remove name).removeAll rest).getAll other = _
    rw [ih, getAll_remove]
    by_cases listed : other ∈ rest
    · simp [listed]
    · by_cases same : other = name <;> simp [listed, same]

theorem getAll_replaceAll (map source : MultiMap Name Value) (names : List Name) (other : Name) :
    (map.replaceAll source names).getAll other =
      if other ∈ names then source.getAll other else map.getAll other := by
  induction names generalizing map with
  | nil => simp [replaceAll]
  | cons name rest ih =>
    show (((map.remove name).appendAll name (source.getAll name)).replaceAll source rest).getAll
      other = _
    rw [ih, getAll_appendAll, getAll_remove]
    by_cases listed : other ∈ rest
    · simp [listed]
    · by_cases same : other = name <;> simp [listed, same]

theorem getAll_insertSome (name other : Name) (value : Option Value) :
    (map.insertSome name value).getAll other =
      if other = name then value.elim (map.getAll other) ([·]) else map.getAll other := by
  cases value with
  | none => simp [insertSome]
  | some => simp [insertSome, getAll_insert]

/-! ## Edits of some names -/

/-- Only values of `names` change. -/
def Edits (names : List Name) (edit : MultiMap Name Value → MultiMap Name Value) : Prop :=
  ∀ map other, other ∉ names → (edit map).getAll other = map.getAll other

section Edits

variable {names more : List Name} {edit next : MultiMap Name Value → MultiMap Name Value}

theorem Edits.mono (edits : Edits names edit) (fewer : names ⊆ more) : Edits more edit :=
  fun map other away => edits map other fun named => away (fewer named)

theorem Edits.comp (first : Edits names edit) (second : Edits more next) :
    Edits (names ++ more) fun map => next (edit map) := by
  intro map other away
  rw [List.mem_append, not_or] at away
  rw [second (edit map) other away.2, first map other away.1]

theorem edits_insertSome (name : Name) (value : Option Value) :
    Edits (if value.isSome then [name] else []) (insertSome · name value) := by
  intro map other away
  cases value with
  | none => rfl
  | some => rw [getAll_insertSome, if_neg (by simpa using away)]

end Edits

end MultiMap

end R3v3rs3.Theory
