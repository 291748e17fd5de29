/-
# R3v3rs3.Theory.Table -- rows under a primary key

`Table key` is a list of rows in insertion order whose keys are pairwise different; the field
carries the constraint, so no operation can build a table that breaks it.  `insert` is the
`INSERT` of a database (refused when the key is taken), `upsert` the insertion of an ordered map
(the row under the key is replaced) and `erase` the deletion by key.

A table may be kept together with an index: a second table from a field of the values back to the
keys.  `Indexes` says that the index has just the entries of the values.  It makes the field a key
of its own (`Indexes.unique`), and it lasts when a value is taken out of both tables, or put into
both under a new key with a new field.
-/
import Mathlib.Data.List.Nodup

namespace R3v3rs3.Theory
set_option autoImplicit false

/-- Where all keys are the same, distinct keys means at most one row. -/
theorem nodup_map_constant_iff {Row Key : Type*} {key : Row → Key} {rows : List Row} {k : Key}
    (constant : ∀ row ∈ rows, key row = k) : (rows.map key).Nodup ↔ rows.length ≤ 1 := by
  have same : rows.map key = List.replicate rows.length k :=
    List.eq_replicate_iff.mpr ⟨by simp, by simpa using constant⟩
  rw [same, List.nodup_replicate]

structure Table {Row Key : Type*} (key : Row → Key) where
  rows : List Row
  keys_nodup : (rows.map key).Nodup

namespace Table

variable {Row Key : Type*} {key : Row → Key} {table : Table key} {row : Row} {k : Key}

theorem ext {first second : Table key} (same : first.rows = second.rows) : first = second := by
  cases first; cases second; cases same; rfl

def keys (table : Table key) : List Key := table.rows.map key

def empty : Table key := ⟨[], List.nodup_nil⟩

@[simp] theorem empty_rows : (empty : Table key).rows = [] := rfl

theorem row_of_key (table : Table key) {first second : Row} (mem : first ∈ table.rows)
    (other : second ∈ table.rows) (same : key first = key second) : first = second :=
  List.inj_on_of_nodup_map table.keys_nodup mem other same

theorem key_ne (absent : k ∉ table.keys) (member : row ∈ table.rows) : key row ≠ k := by
  rintro rfl
  exact absent (List.mem_map_of_mem member)

/-- Deletion of the rows a predicate selects. -/
def discard (table : Table key) (gone : Row → Bool) : Table key :=
  ⟨table.rows.filter (fun row => !gone row), table.keys_nodup.sublist
    (List.filter_sublist.map key)⟩

@[simp] theorem discard_rows (table : Table key) (gone : Row → Bool) :
    (table.discard gone).rows = table.rows.filter (fun row => !gone row) := rfl

/-- A change of every row that keeps the keys. -/
def mapRows (table : Table key) (f : Row → Row) (keeps : ∀ row, key (f row) = key row) :
    Table key :=
  ⟨table.rows.map f, by
    rw [List.map_map, show key ∘ f = key from funext keeps]
    exact table.keys_nodup⟩

variable [DecidableEq Key]

def find (table : Table key) (k : Key) : Option Row := table.rows.find? (fun row => key row = k)

/-- `INSERT`: refused when a row has the key. -/
def insert (table : Table key) (row : Row) : Option (Table key) :=
  if fresh : key row ∉ table.keys then
    some ⟨table.rows ++ [row], by
      rw [List.map_append, List.nodup_append']
      refine ⟨table.keys_nodup, by simp, ?_⟩
      intro k member same
      simp only [List.map_cons, List.map_nil, List.mem_singleton] at same
      exact fresh (same ▸ member)⟩
  else none

/-- `DELETE … WHERE key = ?`. -/
def erase (table : Table key) (k : Key) : Table key :=
  ⟨table.rows.filter (fun row => key row ≠ k), table.keys_nodup.sublist
    (List.filter_sublist.map key)⟩

@[simp] theorem erase_rows (table : Table key) (k : Key) :
    (table.erase k).rows = table.rows.filter (fun row => key row ≠ k) := rfl

theorem erase_fresh (table : Table key) (row : Row) : key row ∉ (table.erase (key row)).keys := by
  simp [keys]

/-- Insertion into an ordered map: the row under the key, if any, is replaced. -/
def upsert (table : Table key) (row : Row) : Table key :=
  ⟨(table.erase (key row)).rows ++ [row], by
    rw [List.map_append, List.nodup_append']
    refine ⟨(table.erase (key row)).keys_nodup, by simp, ?_⟩
    intro k member same
    simp only [List.map_cons, List.map_nil, List.mem_singleton] at same
    exact table.erase_fresh row (same ▸ member)⟩

@[simp] theorem upsert_rows (table : Table key) (row : Row) :
    (table.upsert row).rows = table.rows.filter (fun old => key old ≠ key row) ++ [row] := rfl

theorem mem_upsert {other : Row} :
    other ∈ (table.upsert row).rows ↔
      (other ∈ table.rows ∧ key other ≠ key row) ∨ other = row := by
  simp

theorem mem_upsert_fresh (fresh : key row ∉ table.keys) {other : Row} :
    other ∈ (table.upsert row).rows ↔ other ∈ table.rows ∨ other = row := by
  rw [mem_upsert]
  exact or_congr_left (and_iff_left_of_imp (key_ne fresh))

theorem mem_erase {other : Row} :
    other ∈ (table.erase k).rows ↔ other ∈ table.rows ∧ key other ≠ k := by
  simp

theorem length_upsert_le (table : Table key) (row : Row) :
    (table.upsert row).rows.length ≤ table.rows.length + 1 := by
  rw [upsert_rows, List.length_append, List.length_singleton]
  exact Nat.add_le_add_right (List.length_filter_le _ _) 1

theorem mem_keys_erase {gone : Key} : k ∈ (table.erase gone).keys ↔ k ∈ table.keys ∧ k ≠ gone := by
  simp only [keys, List.mem_map, mem_erase]
  constructor
  · rintro ⟨other, ⟨member, different⟩, rfl⟩
    exact ⟨⟨other, member, rfl⟩, different⟩
  · rintro ⟨⟨other, member, rfl⟩, different⟩
    exact ⟨other, ⟨member, different⟩, rfl⟩

theorem mem_keys_upsert : k ∈ (table.upsert row).keys ↔ k ∈ table.keys ∨ k = key row := by
  have parts : (table.upsert row).keys = (table.erase (key row)).keys ++ [key row] :=
    List.map_append
  rw [parts, List.mem_append, List.mem_singleton, mem_keys_erase]
  by_cases same : k = key row <;> simp [same]

theorem insert_eq_some {next : Table key} :
    table.insert row = some next ↔ key row ∉ table.keys ∧ next.rows = table.rows ++ [row] := by
  unfold insert
  split
  · rename_i fresh
    simp only [Option.some.injEq]
    constructor
    · rintro rfl
      exact ⟨fresh, rfl⟩
    · rintro ⟨-, same⟩
      exact Table.ext same.symm
  · rename_i taken
    simp [taken]

theorem insert_eq_none : table.insert row = none ↔ key row ∈ table.keys := by
  unfold insert
  split <;> rename_i known
  · simp [known]
  · simpa using known

theorem mem_of_find (found : table.find k = some row) : row ∈ table.rows ∧ key row = k :=
  ⟨List.mem_of_find?_eq_some found, by simpa using List.find?_some found⟩

theorem find_eq_some : table.find k = some row ↔ row ∈ table.rows ∧ key row = k := by
  refine ⟨mem_of_find, ?_⟩
  rintro ⟨member, rfl⟩
  cases found : table.find (key row) with
  | none =>
    have absent := List.find?_eq_none.mp found row member
    simp at absent
  | some =>
    obtain ⟨otherMember, same⟩ := mem_of_find found
    rw [table.row_of_key otherMember member same]

theorem find_eq_none : table.find k = none ↔ k ∉ table.keys := by
  simp [find, keys]

theorem find_erase (table : Table key) (gone k : Key) :
    (table.erase gone).find k = if gone = k then none else table.find k := by
  by_cases same : gone = k
  · subst same
    rw [if_pos rfl, find_eq_none]
    simp [keys]
  · rw [if_neg same, find, erase_rows, List.find?_filter, find]
    congr 1
    funext old
    by_cases here : key old = k
    · simp [here, Ne.symm same]
    · simp [here]

theorem find_upsert (table : Table key) (row : Row) (k : Key) :
    (table.upsert row).find k = if key row = k then some row else table.find k := by
  by_cases same : key row = k
  · subst same
    rw [if_pos rfl, find_eq_some]
    exact ⟨by simp, rfl⟩
  · have last : [row].find? (fun row => key row = k) = none := by simp [same]
    rw [if_neg same, find, upsert, List.find?_append, last, Option.or_none]
    exact (table.find_erase (key row) k).trans (if_neg same)

theorem find_mapRows (table : Table key) (f : Row → Row) (keeps : ∀ row, key (f row) = key row)
    (k : Key) : (table.mapRows f keeps).find k = (table.find k).map f := by
  rw [find, mapRows, List.find?_map, find]
  congr 2
  funext row
  simp [keeps]

theorem find_discard (table : Table key) (gone : Row → Bool) (k : Key) :
    (table.discard gone).find k = (table.find k).filter fun row => !gone row := by
  apply Option.ext
  intro row
  rw [find_eq_some, Option.filter_eq_some_iff, find_eq_some, discard_rows, List.mem_filter]
  exact and_right_comm

end Table

/-! ## An index of a table -/

variable {Key Value Field : Type*}

/-- The index has an entry for each value, under its field, and no other. -/
def Indexes (field : Value → Field) (table : Table (Prod.fst : Key × Value → Key))
    (index : Table (Prod.fst : Field × Key → Field)) : Prop :=
  ∀ f k, (f, k) ∈ index.rows ↔ ∃ value, (k, value) ∈ table.rows ∧ field value = f

namespace Indexes

variable {field : Value → Field} {table : Table (Prod.fst : Key × Value → Key)}
  {index : Table (Prod.fst : Field × Key → Field)}

theorem empty : Indexes field (.empty : Table (Prod.fst : Key × Value → Key)) .empty := by
  intro f k
  simp

section Indexes

variable (indexes : Indexes field table index)
include indexes

/-- No two values share the field. -/
theorem unique {first second : Key × Value} (mem : first ∈ table.rows) (other : second ∈ table.rows)
    (same : field first.2 = field second.2) : first = second := by
  have here := (indexes (field first.2) first.1).mpr ⟨first.2, mem, rfl⟩
  have there := (indexes (field first.2) second.1).mpr ⟨second.2, other, same.symm⟩
  have keys := index.row_of_key here there rfl
  exact table.row_of_key mem other (Prod.mk.inj keys).2

/-- The entry of a field leads to a value that has it. -/
theorem lookup [DecidableEq Field] {f : Field} {row : Field × Key}
    (found : index.find f = some row) :
    ∃ value, (row.2, value) ∈ table.rows ∧ field value = f := by
  obtain ⟨member, same⟩ := Table.mem_of_find found
  obtain ⟨own, key⟩ := row
  cases same
  exact (indexes own key).mp member

/-- A field that no value has is not in the index. -/
theorem absent_iff {f : Field} : f ∉ index.keys ↔ ∀ row ∈ table.rows, field row.2 ≠ f := by
  constructor
  · rintro absent row member rfl
    exact absent (List.mem_map_of_mem ((indexes _ row.1).mpr ⟨row.2, member, rfl⟩))
  · intro absent known
    obtain ⟨⟨own, key⟩, entry, rfl⟩ := List.mem_map.mp known
    obtain ⟨value, member, same⟩ := (indexes own key).mp entry
    exact absent _ member same

variable [DecidableEq Key] [DecidableEq Field]

theorem erase {key : Key} {value : Value} (member : (key, value) ∈ table.rows) :
    Indexes field (table.erase key) (index.erase (field value)) := by
  intro f k
  rw [Table.mem_erase]
  constructor
  · rintro ⟨entry, other⟩
    obtain ⟨found, known, rfl⟩ := (indexes f k).mp entry
    refine ⟨found, Table.mem_erase.mpr ⟨known, ?_⟩, rfl⟩
    intro same
    have rows := table.row_of_key known member same
    cases rows
    exact other rfl
  · rintro ⟨found, known, rfl⟩
    obtain ⟨known, different⟩ := Table.mem_erase.mp known
    refine ⟨(indexes _ k).mpr ⟨found, known, rfl⟩, ?_⟩
    intro same
    have rows := indexes.unique known member same
    cases rows
    exact different rfl

theorem upsert {key : Key} {value : Value} (newKey : key ∉ table.keys)
    (newField : field value ∉ index.keys) :
    Indexes field (table.upsert (key, value)) (index.upsert (field value, key)) := by
  intro f k
  rw [Table.mem_upsert_fresh newField]
  constructor
  · rintro (entry | same)
    · obtain ⟨found, known, rfl⟩ := (indexes f k).mp entry
      exact ⟨found, (Table.mem_upsert_fresh newKey).mpr (.inl known), rfl⟩
    · cases same
      exact ⟨value, Table.mem_upsert.mpr (.inr rfl), rfl⟩
  · rintro ⟨found, known, rfl⟩
    rcases (Table.mem_upsert_fresh newKey).mp known with older | same
    · exact .inl ((indexes _ k).mpr ⟨found, older, rfl⟩)
    · cases same
      exact .inr rfl

end Indexes

end Indexes

end R3v3rs3.Theory
