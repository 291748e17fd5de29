/-
# R3v3rs3.Theory.Threads -- requests that are served at once

A request is a task over a state that all requests share.  A task stands between two of its
accesses to that state; one step takes one task over one access, and any other task may take its
steps in between.  `Program` says what a request does first and what a task does next, `System` is
the shared state with the tasks that are under way, and an event names the task that moves.

`Holds` is an invariant in two parts: what is true of the shared state, and what each task may rely
on about it.  `Settles` is what one access owes: the shared part, its own task, and every other
task.  `Holds.step` and `Holds.throughout` turn these debts into a result about every interleaving.
-/
import R3v3rs3.Theory.Run
import R3v3rs3.Theory.Table

namespace R3v3rs3.Theory.Threads
open Theory.Run (Guarded Throughout)
set_option autoImplicit false

/-- The first access of a request and the next access of a task, each with the task that is left
to do.  The number is the one the request is known by. -/
structure Program (Shared Task Call Input : Type*) where
  begin : Nat → Shared → Call → Shared × Option Task
  advance : Nat → Shared → Task → Input → Shared × Option Task

structure System (Shared Task : Type*) where
  shared : Shared
  tasks : Table (Prod.fst : Nat × Task → Nat)

inductive Event (Call Input : Type*) where
  | begin (p : Nat) (call : Call)
  | advance (p : Nat) (input : Input)

variable {p : Nat}

section Steps

variable {Shared Task Call Input : Type*} {system : System Shared Task}

namespace System

def start (shared : Shared) : System Shared Task := ⟨shared, .empty⟩

/-- The access of request `p` is done: the state it left, and the task that is left to do. -/
def settle (system : System Shared Task) (p : Nat) (outcome : Shared × Option Task) :
    System Shared Task where
  shared := outcome.1
  tasks :=
    match outcome.2 with
    | some task => system.tasks.upsert (p, task)
    | none => system.tasks.erase p

@[simp] theorem settle_shared (system : System Shared Task) (p : Nat)
    (outcome : Shared × Option Task) : (system.settle p outcome).shared = outcome.1 := rfl

theorem mem_settle {q : Nat} {outcome : Shared × Option Task} {task : Task} :
    (q, task) ∈ (system.settle p outcome).tasks.rows ↔
      ((q, task) ∈ system.tasks.rows ∧ q ≠ p) ∨ (q = p ∧ outcome.2 = some task) := by
  obtain ⟨shared, next⟩ := outcome
  cases next with
  | none => simp [settle]
  | some next =>
    rw [settle, Table.mem_upsert, Prod.mk.injEq, Option.some.injEq, @eq_comm _ next]

/-- A task of a kind is there after an access of `p`: another one, or the one that is left. -/
theorem any_settle {outcome : Shared × Option Task} {kind : Task → Bool} :
    (∃ slot ∈ (system.settle p outcome).tasks.rows, kind slot.2 = true) ↔
      (∃ slot ∈ system.tasks.rows, slot.1 ≠ p ∧ kind slot.2 = true) ∨
        outcome.2.any kind = true := by
  rw [Option.any_eq_true]
  constructor
  · rintro ⟨⟨q, task⟩, member, selected⟩
    rcases mem_settle.mp member with ⟨known, other⟩ | ⟨-, left⟩
    · exact .inl ⟨(q, task), known, other, selected⟩
    · exact .inr ⟨task, left, selected⟩
  · rintro (⟨⟨q, task⟩, known, other, selected⟩ | ⟨task, left, selected⟩)
    · exact ⟨(q, task), mem_settle.mpr (.inl ⟨known, other⟩), selected⟩
    · exact ⟨(p, task), mem_settle.mpr (.inr ⟨rfl, left⟩), selected⟩

end System

/-! ### How many tasks are at a place -/

namespace System

/-- The number of tasks that `place` selects. -/
def tally (system : System Shared Task) (place : Task → Bool) : Nat :=
  system.tasks.rows.countP fun slot => place slot.2

theorem tally_le {place wider : Task → Bool}
    (implies : ∀ task, place task = true → wider task = true) :
    system.tally place ≤ system.tally wider :=
  List.countP_mono_left fun slot _ selected => implies slot.2 selected

theorem tally_settle (system : System Shared Task) (p : Nat) (outcome : Shared × Option Task)
    (place : Task → Bool) :
    (system.settle p outcome).tally place =
      (system.tasks.erase p).rows.countP (fun slot => place slot.2) +
        (outcome.2.any place).toNat := by
  obtain ⟨shared, next⟩ := outcome
  cases next with
  | none => simp [tally, settle]
  | some next =>
    simp only [tally, settle, Table.upsert, List.countP_append, List.countP_singleton,
      Option.any_some]
    cases place next <;> rfl

theorem tally_settle_fresh (fresh : ∀ task, (p, task) ∉ system.tasks.rows)
    (outcome : Shared × Option Task) (place : Task → Bool) :
    (system.settle p outcome).tally place =
      system.tally place + (outcome.2.any place).toNat := by
  have all : (system.tasks.erase p).rows = system.tasks.rows := by
    apply List.filter_eq_self.mpr
    intro slot member
    simp only [decide_eq_true_eq]
    rintro rfl
    exact fresh slot.2 member
  rw [tally_settle, all, tally]

theorem tally_settle_mem {task : Task} (member : (p, task) ∈ system.tasks.rows)
    (outcome : Shared × Option Task) (place : Task → Bool) :
    (system.settle p outcome).tally place + (place task).toNat =
      system.tally place + (outcome.2.any place).toNat := by
  -- the rows of `p` are the one row of its task
  have own : system.tasks.rows.filter (fun slot => !decide (slot.1 ≠ p)) = [(p, task)] := by
    classical
    have once : system.tasks.rows.count (p, task) = 1 :=
      List.count_eq_one_of_mem system.tasks.keys_nodup.of_map member
    rw [show [(p, task)] = List.replicate 1 (p, task) from rfl, ← once, ← List.filter_eq]
    apply List.filter_congr
    intro slot known
    rw [← decide_not, decide_eq_decide, not_not]
    exact ⟨fun same => system.tasks.row_of_key known member same, fun same => by rw [same]⟩
  rw [tally_settle, tally, List.countP_eq_countP_filter_add system.tasks.rows _
    (fun slot => decide (slot.1 ≠ p)), own, List.countP_singleton, Table.erase_rows]
  cases place task <;> simp [Nat.add_right_comm]

theorem tally_settle_le {task : Task} (member : (p, task) ∈ system.tasks.rows)
    {outcome : Shared × Option Task} {place : Task → Bool}
    (kept : ∀ next ∈ outcome.2, place next = true → place task = true) :
    (system.settle p outcome).tally place ≤ system.tally place := by
  have counted := tally_settle_mem member outcome place
  have none : (outcome.2.any place).toNat ≤ (place task).toNat := by
    cases found : outcome.2.any place with
    | false => exact Nat.zero_le _
    | true =>
      rw [Option.any_eq_true] at found
      obtain ⟨next, left, selected⟩ := found
      exact (kept next left selected ▸ Nat.le_refl 1 : 1 ≤ (place task).toNat)
  omega

/-- One task at a place is the only one. -/
theorem eq_of_tally_le_one {q : Nat} {first second : Task} {place : Task → Bool}
    (one : system.tally place ≤ 1) (member : (p, first) ∈ system.tasks.rows)
    (here : place first = true) (other : (q, second) ∈ system.tasks.rows)
    (too : place second = true) : q = p := by
  by_contra different
  have counted := tally_settle_mem member (system.shared, none) place
  have left : 0 < (system.settle p (system.shared, none)).tally place :=
    List.countP_pos_iff.mpr ⟨(q, second), mem_settle.mpr (.inl ⟨other, different⟩), too⟩
  rw [here] at counted
  simp only [Option.any_none, Bool.toNat_false, Bool.toNat_true] at counted
  omega

end System

variable (program : Program Shared Task Call Input)

def Program.step (system : System Shared Task) : Event Call Input → System Shared Task
  | .begin p call =>
    match system.tasks.find p with
    | some _ => system
    | none => system.settle p (program.begin p system.shared call)
  | .advance p input =>
    match system.tasks.find p with
    | some (_, task) => system.settle p (program.advance p system.shared task input)
    | none => system

/-- **What a step can do.**  Nothing, or the first access of a new request, or the next access of
a task that is under way. -/
theorem Program.step_cases (system : System Shared Task) (event : Event Call Input) :
    program.step system event = system ∨
      (∃ p call, event = .begin p call ∧ (∀ task, (p, task) ∉ system.tasks.rows) ∧
        program.step system event =
          system.settle p (program.begin p system.shared call)) ∨
      ∃ p input task, event = .advance p input ∧ (p, task) ∈ system.tasks.rows ∧
        program.step system event =
          system.settle p (program.advance p system.shared task input) := by
  cases event with
  | begin p call =>
    cases found : system.tasks.find p with
    | some => exact .inl (by simp [step, found])
    | none =>
      refine .inr (.inl ⟨p, call, rfl, ?_, by simp [step, found]⟩)
      intro task member
      exact Table.find_eq_none.mp found (List.mem_map_of_mem (f := Prod.fst) member)
  | advance p input =>
    cases found : system.tasks.find p with
    | none => exact .inl (by simp [step, found])
    | some slot =>
      obtain ⟨member, rfl⟩ := Table.mem_of_find found
      exact .inr (.inr ⟨slot.1, input, slot.2, rfl, member, by simp [step, found]⟩)

end Steps

/-! ## Invariants of all interleavings -/

section Invariants

variable {Shared Task Call Input : Type*}

/-- `inv` holds of the shared state, and `own` of it and every task that is under way. -/
structure Holds (inv : Shared → Prop) (own : Shared → Nat → Task → Prop)
    (system : System Shared Task) : Prop where
  shared : inv system.shared
  tasks : ∀ p task, (p, task) ∈ system.tasks.rows → own system.shared p task

/-- What an access of request `p` owes: the shared part, its own task and every other one. -/
structure Settles (inv : Shared → Prop) (own : Shared → Nat → Task → Prop)
    (system : System Shared Task) (p : Nat) (outcome : Shared × Option Task) : Prop where
  shared : inv outcome.1
  next : ∀ task ∈ outcome.2, own outcome.1 p task
  others : ∀ q task, (q, task) ∈ system.tasks.rows → q ≠ p → own outcome.1 q task

variable {inv : Shared → Prop} {own : Shared → Nat → Task → Prop}

theorem Holds.start {shared : Shared} (first : inv shared) :
    Holds inv own (System.start shared : System Shared Task) :=
  ⟨first, by simp [System.start]⟩

theorem Settles.holds {system : System Shared Task} {outcome : Shared × Option Task}
    (settles : Settles inv own system p outcome) : Holds inv own (system.settle p outcome) := by
  refine ⟨settles.shared, ?_⟩
  intro q task member
  rcases System.mem_settle.mp member with ⟨known, other⟩ | ⟨rfl, next⟩
  · exact settles.others q task known other
  · exact settles.next task next

variable {program : Program Shared Task Call Input}
  {ok : System Shared Task → Event Call Input → Prop}

section Guarded

variable
  (begun : ∀ system p call, Holds inv own system → (∀ task, (p, task) ∉ system.tasks.rows) →
    ok system (.begin p call) → Settles inv own system p (program.begin p system.shared call))
  (advanced : ∀ system p task input, Holds inv own system → (p, task) ∈ system.tasks.rows →
    ok system (.advance p input) →
      Settles inv own system p (program.advance p system.shared task input))
  {system : System Shared Task}
include begun advanced

theorem Holds.step {event : Event Call Input} (holds : Holds inv own system)
    (calm : ok system event) : Holds inv own (program.step system event) := by
  rcases program.step_cases system event with
    same | ⟨p, call, rfl, fresh, same⟩ | ⟨p, input, task, rfl, member, same⟩
  · rwa [same]
  · rw [same]
    exact (begun system p call holds fresh calm).holds
  · rw [same]
    exact (advanced system p task input holds member calm).holds

/-- **The rule for interleavings.**  Where every access that meets `ok` settles what it owes, every
state of a run whose steps all meet `ok` is good. -/
theorem Holds.throughout {good : System Shared Task → Prop}
    (sound : ∀ system, Holds inv own system → good system) {events : List (Event Call Input)}
    (start : Holds inv own system) (guarded : Guarded program.step ok system events) :
    Throughout program.step good system events :=
  Guarded.throughout (fun _ _ holds calm => Holds.step begun advanced holds calm) sound start
    guarded

end Guarded

end Invariants

end R3v3rs3.Theory.Threads
