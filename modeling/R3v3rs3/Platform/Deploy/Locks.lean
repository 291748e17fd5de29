/-
# R3v3rs3.Platform.Deploy.Locks -- one pipeline per app

An app is taken by putting its id into the set of busy apps; the `AppLock` that stands for it takes
the id out when it is dropped.  `live` counts the locks of an app: those of the calls and pipelines
that are under way, and those of the jobs that wait to be started.

`Good` says that the set has exactly the apps with a lock, and that no app has two.  A lock is made,
moved into a job and dropped by its owner (`Move`); the one access that takes an id out of the set
without owning a lock is the last one of `cancel_deployment`.  `one_pipeline_iff` says that a run
keeps the promise if and only if that access never finds the app in the set.
-/
import R3v3rs3.Platform.Deploy.Calls

namespace R3v3rs3.Platform.Deploy.Locks
open Theory Api
open Theory.Run (Guarded Throughout exec throughout_iff_guarded)
open Theory.Threads (Program System)
set_option autoImplicit false

/-! ## What is asked for -/

/-- The number of live locks of an app. -/
def live (system : State) (app : ShortId) : Nat :=
  system.tally (fun task => task.holds = some app) + system.shared.spawned.countP (·.app = app)

/-- The busy apps are those with a live lock, and no app has two. -/
structure Good (system : State) : Prop where
  exact : ∀ app, app ∈ system.shared.busy ↔ 0 < live system app
  alone : ∀ app, live system app ≤ 1

/-- A cancellation that takes an app out of the set does not find it there. -/
def Unheld (system : State) (event : Threads.Event Call Input) : Prop :=
  match effect system event with
  | .clear app => app ∉ system.shared.busy
  | _ => True

instance (system : State) (event : Threads.Event Call Input) : Decidable (Unheld system event) := by
  unfold Unheld
  split <;> infer_instance

variable {system : State}

theorem good_iff :
    Good system ↔ ∀ app, live system app = if app ∈ system.shared.busy then 1 else 0 := by
  constructor
  · intro good app
    have exact := good.exact app
    have alone := good.alone app
    split
    · rename_i busy
      have := exact.mp busy
      omega
    · rename_i free
      have : ¬ 0 < live system app := fun held => free (exact.mpr held)
      omega
  · intro counted
    constructor
    · intro app
      rw [counted app]
      split <;> simp_all
    · intro app
      rw [counted app]
      split <;> omega

/-! ## Where a lock goes -/

/-- The access makes, moves or drops no lock and leaves the set alone. -/
def Effect.lockFree : Effect → Bool
  | .lock _ | .unlock _ | .clear _ | .spawn _ | .pickUp _ => false
  | _ => true

/-- The lock that a task holds before an access, the access, and the lock it holds afterwards. -/
inductive Move (s : Shared) : Option ShortId → Effect → Option ShortId → Prop
  | stays (held : Option ShortId) (effect : Effect) (free : Effect.lockFree effect = true) :
      Move s held effect held
  | lock (app : ShortId) (free : app ∉ s.busy) : Move s none (.lock app) (some app)
  | unlock (app : ShortId) : Move s (some app) (.unlock app) none
  | spawn (job : Job) : Move s (some job.app) (.spawn job) none
  | pickUp (job : Job) (known : job ∈ s.spawned) : Move s none (.pickUp job) (some job.app)
  | clear (app : ShortId) : Move s none (.clear app) none

section Moves

variable {s : Shared}

@[simp] theorem holds_resume (rest : List Pending) : (resume rest).bind Task.holds = none := by
  cases rest <;> rfl

theorem move_nextHeld (app : ShortId) (work : Work) (rest : List Pending) (input : Input) :
    Move s (some app) (nextHeld s app work rest input).1
      ((nextHeld s app work rest input).2.bind Task.holds) := by
  have stays : ∀ {effect : Effect} {work : Work}, Effect.lockFree effect = true →
      Move s (some app) effect ((some (Task.held app work rest)).bind Task.holds) :=
    fun free => .stays (some app) _ free
  unfold nextHeld
  -- in the order of `nextHeld`: a lock moves when the job is spawned and when it is dropped
  split
  · exact stays rfl
  · exact stays rfl
  · split <;> exact stays rfl
  · split <;> exact stays rfl
  · rename_i id image
    rw [holds_resume]
    exact .spawn ⟨app, id, image⟩
  · exact stays rfl
  · split <;> exact stays rfl
  · split <;> exact stays rfl
  · split <;> exact stays rfl
  · split <;> exact stays rfl
  · exact stays rfl
  · exact stays rfl
  · rw [holds_resume]
    exact .unlock app
  · exact .unlock app
  · exact .unlock app
  · exact stays rfl

theorem lockFree_nextRun (job : Job) (stage : Stage) (input : Input) :
    Effect.lockFree (nextRun s job stage input).1 = true := by
  unfold nextRun
  split <;> rfl

theorem move_nextJob (job : Job) (stage : Stage) (input : Input) :
    Move s (some job.app) (nextJob s job stage input).1
      ((nextJob s job stage input).2.bind Task.holds) := by
  unfold nextJob
  split
  · exact .stays _ _ rfl
  · exact .stays _ _ rfl
  · exact .unlock job.app
  · split
    · exact .stays _ _ rfl
    · exact .stays _ _ (lockFree_nextRun job _ input)

theorem move_nextFree (task : Task) (input : Input) (free : task.holds = none) :
    Move s none (nextFree s task input).1 ((nextFree s task input).2.bind Task.holds) := by
  have ends : ∀ {rest : List Pending}, Move s none .none ((resume rest).bind Task.holds) := by
    intro rest
    rw [holds_resume]
    exact .stays none _ rfl
  unfold nextFree
  cases task with
  | held | job => cases free
  | findApp | runQueued =>
    dsimp only
    split
    · exact .stays none _ rfl
    · exact ends
  | tryLock app purpose rest =>
    dsimp only [tryLock]
    split
    · rw [holds_resume]
      refine .stays none _ ?_
      split <;> rfl
    · rename_i open'
      exact .lock app open'
  | insertPending =>
    dsimp only
    split
    · rw [holds_resume]
      exact .stays none _ rfl
    · exact ends
  | rollbackSource | cancelWrite | cancelToken =>
    dsimp only
    split <;> exact .stays none _ rfl
  | rollbackApp | readPending =>
    dsimp only
    split
    · split <;> exact .stays none _ rfl
    · exact .stays none _ rfl
  | cancelRead =>
    dsimp only
    split
    · split
      · exact .stays none _ rfl
      · split <;> exact .stays none _ rfl
    · exact .stays none _ rfl
  | cancelClear app => exact .clear app

/-- **Where the lock of a task goes** with its next access. -/
theorem move_next (task : Task) (input : Input) :
    Move s task.holds (next s task input).1 ((next s task input).2.bind Task.holds) := by
  cases task with
  | job job stage => exact move_nextJob job stage input
  | held app work rest =>
    rw [next]
    split
    · exact .unlock app
    · exact move_nextHeld app work rest input
  | findApp | tryLock | runQueued | insertPending | rollbackSource | rollbackApp | readPending
  | cancelRead | cancelWrite | cancelToken | cancelClear =>
    unfold next
    dsimp only
    split
    · exact .stays none _ rfl
    · exact move_nextFree _ input rfl

theorem move_begin (call : Call) :
    Move s none (begin s call).1 ((begin s call).2.bind Task.holds) := by
  cases call with
  | run job =>
    rw [begin]
    split
    · rename_i known
      exact .pickUp job known
    · exact .stays none _ rfl
  | deploy | hook | rollback | approve | reject | cancel | update | delete | maintain =>
    exact .stays none _ rfl

end Moves

/-! ## Counting locks -/

/-- One for the app of the lock, none for the others. -/
def claims (held : Option ShortId) (app : ShortId) : Nat := if held = some app then 1 else 0

theorem any_holds (task : Option Task) (app : ShortId) :
    (task.any fun task => task.holds = some app).toNat = claims (task.bind Task.holds) app := by
  cases task with
  | none => rfl
  | some =>
    simp only [Option.any_some, Option.bind_some, claims]
    split <;> simp_all

/-- The locks after an access, when the task held a lock before and holds one afterwards. -/
def Balanced (before after : State) (held left : Option ShortId) : Prop :=
  ∀ app, live after app + claims held app + before.shared.spawned.countP (·.app = app) =
    live before app + claims left app + after.shared.spawned.countP (·.app = app)

theorem balanced_advance {p : Nat} {task : Task} (member : (p, task) ∈ system.tasks.rows)
    (outcome : Shared × Option Task) :
    Balanced system (system.settle p outcome) task.holds (outcome.2.bind Task.holds) := by
  intro app
  have counted := System.tally_settle_mem member outcome fun task => decide (task.holds = some app)
  rw [any_holds] at counted
  have own : (decide (task.holds = some app)).toNat = claims task.holds app := by
    unfold claims
    split <;> simp_all
  unfold live
  omega

theorem balanced_begin {p : Nat} (fresh : ∀ task, (p, task) ∉ system.tasks.rows)
    (outcome : Shared × Option Task) :
    Balanced system (system.settle p outcome) none (outcome.2.bind Task.holds) := by
  intro app
  have counted := System.tally_settle_fresh fresh outcome fun task => decide (task.holds = some app)
  rw [any_holds] at counted
  have own : claims none app = 0 := rfl
  unfold live
  omega

theorem perform_lockFree {s : Shared} {effect : Effect} (free : Effect.lockFree effect = true) :
    (perform s effect).spawned = s.spawned := by
  cases effect with
  | lock | unlock | clear | spawn | pickUp => cases free
  | none | queue | unqueue | unregister | cancelToken | insert | setStatus | finishDeployment
  | deleteApp | removeContainers => rfl

theorem mem_busy_perform {s : Shared} {effect : Effect} {app : ShortId} :
    app ∈ (perform s effect).busy ↔
      (app ∈ s.busy ∧ effect ≠ .unlock app ∧ effect ≠ .clear app) ∨ effect = .lock app := by
  cases effect with
  | lock own => simp [perform, or_comm, @eq_comm _ app own]
  | unlock own => simp [perform, @eq_comm _ app own]
  | clear own => simp [perform, @eq_comm _ app own]
  | none | queue | unqueue | spawn | pickUp | unregister | cancelToken | insert | setStatus
  | finishDeployment | deleteApp | removeContainers => simp [perform, Shared.rewrite]

variable {left held : Option ShortId}

theorem Move.free {s : Shared} {effect : Effect} {app : ShortId} (move : Move s held effect left)
    (locks : effect = .lock app) : app ∉ s.busy := by
  cases move with
  | stays _ _ free =>
    subst locks
    cases free
  | lock own free =>
    cases locks
    exact free
  | unlock | spawn | pickUp | clear => cases locks

section Balance

variable {before after : State} {effect : Effect} (move : Move before.shared held effect left)
  (balanced : Balanced before after held left)
  (performed : after.shared = perform before.shared effect)
include move balanced performed

/-- **The count of locks** changes where one is made or dropped, and nowhere else. -/
theorem live_move (app : ShortId) :
    live after app + (if effect = .unlock app then 1 else 0) =
      live before app + (if effect = .lock app then 1 else 0) := by
  have balance := balanced app
  cases move with
  | stays _ _ free =>
    have kept : effect ≠ .unlock app ∧ effect ≠ .lock app := by
      constructor <;> rintro rfl <;> cases free
    rw [performed, perform_lockFree free] at balance
    rw [if_neg kept.1, if_neg kept.2]
    omega
  | lock | unlock =>
    simp only [performed, perform, claims, Option.some.injEq, reduceCtorEq, if_false] at balance
    simp only [Effect.lock.injEq, Effect.unlock.injEq, reduceCtorEq, if_false]
    omega
  | spawn job =>
    -- the lock goes from the call to the job
    simp only [performed, perform, claims, List.countP_cons, Option.some.injEq, reduceCtorEq,
      if_false, decide_eq_true_eq] at balance
    simp only [reduceCtorEq, if_false]
    omega
  | pickUp job known =>
    -- and from the job that waits to the one that runs
    have waiting : before.shared.spawned.countP (·.app = app) =
        (before.shared.spawned.erase job).countP (·.app = app) + claims (some job.app) app := by
      rw [(List.perm_cons_erase known).countP_eq, List.countP_cons]
      simp only [claims, Option.some.injEq, decide_eq_true_eq]
    have none : claims none app = 0 := rfl
    simp only [performed, perform, waiting] at balance
    simp only [reduceCtorEq, if_false]
    omega
  | clear =>
    simp only [performed, perform] at balance
    simp only [reduceCtorEq, if_false]
    omega

/-- **An access keeps the promise** unless it is a cancellation that finds the app busy. -/
theorem good_move_iff (good : Good before) :
    Good after ↔ ∀ app, effect = .clear app → app ∉ before.shared.busy := by
  rw [good_iff]
  refine forall_congr' fun app => ?_
  have moved := live_move move balanced performed app
  have counted := good_iff.mp good app
  rw [performed, if_congr mem_busy_perform rfl rfl]
  by_cases locks : effect = .lock app
  · have free := move.free locks
    subst locks
    simp [free] at moved counted ⊢
    omega
  · by_cases unlocks : effect = .unlock app
    · subst unlocks
      simp at moved ⊢
      split at counted <;> omega
    · by_cases clears : effect = .clear app
      · subst clears
        split at counted <;> simp_all
      · simp [locks, unlocks, clears] at moved ⊢
        omega

end Balance

/-- **Where a lock goes** with a step, and what that does to the counts. -/
theorem step_move (system : State) (event : Threads.Event Call Input) :
    ∃ held left, Move system.shared held (effect system event) left ∧
      Balanced system (program.step system event) held left := by
  have nothing : Move system.shared none .none none ∧ Balanced system system none none :=
    ⟨.stays none _ rfl, fun _ => rfl⟩
  cases event with
  | begin p call =>
    cases found : system.tasks.find p with
    | some =>
      simp only [Program.step, effect, found]
      exact ⟨none, none, nothing⟩
    | none =>
      have fresh : ∀ task, (p, task) ∉ system.tasks.rows := by
        intro task member
        exact Table.find_eq_none.mp found (List.mem_map_of_mem (f := Prod.fst) member)
      simp only [Program.step, effect, found]
      exact ⟨none, _, move_begin call, balanced_begin fresh _⟩
  | advance p input =>
    cases found : system.tasks.find p with
    | none =>
      simp only [Program.step, effect, found]
      exact ⟨none, none, nothing⟩
    | some slot =>
      obtain ⟨q, task⟩ := slot
      obtain ⟨member, rfl⟩ := Table.mem_of_find found
      simp only [Program.step, effect, found]
      exact ⟨task.holds, _, move_next task input, balanced_advance member _⟩

theorem good_step_iff {event : Threads.Event Call Input} (good : Good system) :
    Good (program.step system event) ↔ Unheld system event := by
  obtain ⟨held, left, move, balanced⟩ := step_move system event
  refine (good_move_iff move balanced (step_shared system event) good).trans ?_
  unfold Unheld
  split <;> simp_all

/-- A busy app has a live lock, whatever is cancelled. -/
theorem live_of_busy_step (busy : ∀ app ∈ system.shared.busy, 0 < live system app)
    (event : Threads.Event Call Input) :
    ∀ app ∈ (program.step system event).shared.busy, 0 < live (program.step system event) app := by
  intro app member
  obtain ⟨held, left, move, balanced⟩ := step_move system event
  have moved := live_move move balanced (step_shared system event) app
  rw [step_shared, mem_busy_perform] at member
  rcases member with ⟨known, kept, -⟩ | locks
  · have before := busy app known
    rw [if_neg kept] at moved
    omega
  · rw [locks, if_neg (by simp), if_pos rfl] at moved
    omega

/-- **Every interleaving of the calls and pipelines**, from any apps and deployments: the busy apps
are those with a live lock, and no app has two, in every state, if and only if no cancellation
takes a busy app out of the set. -/
theorem one_pipeline_iff (apps : List ShortId) (deployments : Table DeploymentEntry.id)
    (events : List (Threads.Event Call Input)) :
    Throughout program.step Good (initial apps deployments) events ↔
      Guarded program.step Unheld (initial apps deployments) events := by
  have first : Good (initial apps deployments) := good_iff.mpr fun app => rfl
  exact throughout_iff_guarded (fun _ _ (_ : True) => trivial)
    (fun _ _ _ good => good_step_iff good) trivial first

/-! ## A cancellation before the job is spawned -/

section Cancelled

def shop : ShortId := ShortId.new

def blue : ShortId := ShortId.ofSeven [1, 1, 1, 1, 1, 1, 1] rfl

def green : ShortId := ShortId.ofSeven [2, 2, 2, 2, 2, 2, 2] rfl

/-- A deployment of an image, up to the stored row. -/
def stores (p : Nat) (id : ShortId) : List (Threads.Event Call Input) :=
  [.begin p (.deploy shop), .advance p .ok, .advance p .ok, .advance p (.drawn id .pull false),
    .advance p .ok]

/-- The row is read back, the job is spawned and the runtime starts it. -/
def spawns (p q : Nat) (id : ShortId) : List (Threads.Event Call Input) :=
  [.advance p .ok, .advance p .ok, .begin q (.run ⟨shop, id, .pull⟩)]

/-- The row of the first deployment is stored and its job not yet spawned when it is cancelled. -/
def cancelledEarly : List (Threads.Event Call Input) :=
  stores 0 blue ++
    [.begin 1 (.cancel blue), .advance 1 .ok, .advance 1 .ok, .advance 1 .ok, .advance 1 .ok] ++
    spawns 0 2 blue ++ stores 3 green ++ spawns 3 4 green

/-- **Two pipelines of one app.**  No token is registered, so the cancellation takes the app out of
the set; the job is spawned all the same, and a second deployment finds the app free. -/
theorem cancelled_early_two_pipelines :
    let last := exec program.step (initial [shop] .empty) cancelledEarly
    last.tasks.rows =
        [(2, .job ⟨shop, blue, .pull⟩ (JobImage.stage .pull)),
          (4, .job ⟨shop, green, .pull⟩ (JobImage.stage .pull))] ∧
      ¬ Good last := by
  intro last
  refine ⟨?two, fun good => ?_⟩
  · decide
  · have alone := good.alone shop
    have held : 2 ≤ live last shop := by
      rw [live, System.tally, ?two]
      exact Nat.le_add_right 2 _
    omega

end Cancelled

end R3v3rs3.Platform.Deploy.Locks
