/-
# R3v3rs3.Platform.Deploy.Queue -- what becomes of a queued push

A push that finds its app busy is put into the queue and answered with `Queued`.  The queue has no
task of its own: it is looked at by `run_queued_hook`, which some of the owners of an `AppLock` call
after they have dropped it.  A pipeline does, and so do a deletion that failed and a deployment that
has to wait for approval.  A rejection, an update, a backup, a call that fails or is dropped do not.

* `Drained`: an app with a queued push has a live lock, or a task that is about to look at the queue.
* `Promised`: a push is in the queue and will be looked at, or a task has it in hand.

`queued_pushes_iff` says that the queue is drained in all states of a run if and only if no lock of
an app with a queued push is dropped by an owner that does not look (`Woken`), and that no push is
lost if besides no task gives up a push that it has in hand (`Careful`).
-/
import R3v3rs3.Platform.Deploy.Locks

namespace R3v3rs3.Platform.Deploy.Queue
open Theory Api
open Theory.Run (Guarded Throughout exec)
open Theory.Threads (Program System Event)
open Platform.Deploy.Locks (Move live move_next move_begin shop blue green stores spawns)
set_option autoImplicit false

/-! ## What is asked for -/

/-- The task is about to run `run_queued_hook` for the app. -/
def looks (app : ShortId) : Task → Bool
  | .runQueued own _ => own = app
  | _ => false

/-- The task has a lock of the app, or is about to look at the queue for it. -/
def wakes (app : ShortId) (task : Task) : Bool := decide (task.holds = some app) || looks app task

/-- The app has a live lock or a task that is about to look at the queue for it. -/
def Waking (system : State) (app : ShortId) : Prop :=
  (∃ job ∈ system.shared.spawned, job.app = app) ∨
    ∃ slot ∈ system.tasks.rows, wakes app slot.2 = true

def Drained (system : State) : Prop := ∀ app ∈ system.shared.queued, Waking system app

/-- The work leads to a new deployment. -/
def Work.deploys (app : ShortId) : Work → Bool
  | .prepare | .insert _ _ | .readBack _ _ | .spawn _ _ => true
  | .release (.insertPending pending) => pending.app = app
  | _ => false

/-- The task has a push of the app in hand: it is on the way to a deployment of the app. -/
def carries (app : ShortId) : Task → Bool
  | .findApp own purpose rest | .tryLock own purpose rest =>
    (decide (own = app) && decide (purpose = .hook)) || rest.any (·.app = app)
  | .held own work rest => (decide (own = app) && Work.deploys app work) || rest.any (·.app = app)
  | .runQueued _ rest => rest.any (·.app = app)
  | .insertPending pending rest => (pending :: rest).any (·.app = app)
  | _ => false

/-- The push waits in a queue that will be looked at, or a task has it in hand. -/
def Promised (system : State) (app : ShortId) : Prop :=
  (app ∈ system.shared.queued ∧ Waking system app) ∨
    ∃ slot ∈ system.tasks.rows, carries app slot.2 = true

/-- A deployment of the app starts: its pipeline is spawned, or it is stored to wait for approval. -/
def Starts (app : ShortId) : Effect → Prop
  | .spawn job => job.app = app
  | .insert entry => entry.app = app ∧ entry.status = .pendingApproval
  | _ => False

/-- A deployment of the app starts in the run. -/
def StartedIn (system : State) (events : List (Event Call Input)) (app : ShortId) : Prop :=
  ∃ front event back, events = front ++ event :: back ∧
    Starts app (effect (exec program.step system front) event)

/-! ## The conditions -/

/-- The server does not shut down: `run_queued_hook` takes the push that it finds. -/
def Possible (system : State) : Event Call Input → Prop
  | .advance p input => ∀ slot ∈ system.tasks.find p, ∀ app ∈ system.shared.queued,
      looks app slot.2 = true → input = .ok
  | .begin _ _ => True

/-- The app whose lock the task drops with its next access, and whether it looks at the queue after
that. -/
def drops : Task → Input → Option (ShortId × Bool)
  | .job job .release, _ => some (job.app, true)
  | .held app _ _, .dropped => some (app, false)
  | .held app (.release .stop) _, _ => some (app, false)
  | .held app (.release _) _, _ => some (app, true)
  | _, _ => none

/-- A lock of an app with a queued push is dropped by an owner that looks at the queue next, or
beside another one that will. -/
def Woken (system : State) : Event Call Input → Prop
  | .advance p input => ∀ slot ∈ system.tasks.find p, ∀ app ∈ system.shared.queued,
      drops slot.2 input = some (app, false) →
        (∃ job ∈ system.shared.spawned, job.app = app) ∨
          ∃ other ∈ system.tasks.rows, other.1 ≠ p ∧ wakes app other.2 = true
  | .begin _ _ => True

/-- The deployments that the task still has to store when its own work is done. -/
def restOf : Task → List Pending
  | .findApp _ _ rest | .tryLock _ _ rest | .held _ _ rest | .runQueued _ rest
  | .insertPending _ rest => rest
  | _ => []

/-- The work of the task goes on: the app is found, the deployment is prepared, and it can be stored
and read back. -/
def proceeds (s : Shared) : Task → Input → Bool
  | .findApp _ _ _, input => input = .ok
  | .held _ .prepare _, .drawn _ _ _ => true
  | .held _ .prepare _, _ => false
  | .held app (.insert id _) _, input => s.insertable id app && input = .ok
  | .held _ (.readBack id _) _, input => id ∈ s.deployments.keys && input = .ok
  | .insertPending pending _, input => s.insertable pending.id pending.app && input = .ok
  | _, _ => true

/-- A task that has a push of an app in hand is not dropped, and goes on with its work or has another
push of the app. -/
def Careful (system : State) : Event Call Input → Prop
  | .advance p input => ∀ slot ∈ system.tasks.find p, ∀ app ∈ system.shared.apps,
      carries app slot.2 = true → input ≠ .dropped ∧
        ((restOf slot.2).any (·.app = app) = true ∨ proceeds system.shared slot.2 input = true)
  | .begin _ _ => True

section Decidable

variable (system : State) (event : Event Call Input)

instance (app : ShortId) (access : Effect) : Decidable (Starts app access) := by
  unfold Starts
  split <;> infer_instance

instance : Decidable (Possible system event) := by
  unfold Possible
  split <;> infer_instance

instance : Decidable (Woken system event) := by
  unfold Woken
  split <;> infer_instance

instance : Decidable (Careful system event) := by
  unfold Careful
  split <;> infer_instance

end Decidable

/-! ## The queue and the apps -/

section Accesses

variable {s : Shared} {held left : Option ShortId} {access : Effect} {task : Task} {input : Input}
  {app : ShortId}

theorem mem_queued_perform :
    app ∈ (perform s access).queued ↔
      (app ∈ s.queued ∧ access ≠ .unqueue app) ∨ access = .queue app := by
  cases access with
  | queue own => simp [perform, or_comm, @eq_comm _ app own]
  | unqueue own => simp [perform, @eq_comm _ app own]
  | none | lock | unlock | clear | spawn | pickUp | unregister | cancelToken | insert | setStatus
  | finishDeployment | deleteApp | removeContainers => simp [perform, Shared.rewrite]

theorem mem_apps_of_perform (known : app ∈ (perform s access).apps) : app ∈ s.apps := by
  cases access with
  | deleteApp => exact List.mem_of_mem_filter known
  | none | lock | unlock | clear | queue | unqueue | spawn | pickUp | unregister | cancelToken
  | insert | setStatus | finishDeployment | removeContainers => exact known

/-- A job that waits with a lock of the app still does, or its task has the lock. -/
theorem spawned_move (move : Move s held access left) {job : Job} (waits : job ∈ s.spawned)
    (own : job.app = app) :
    (∃ job ∈ (perform s access).spawned, job.app = app) ∨ left = some app := by
  cases move with
  | stays _ _ free =>
    rw [Locks.perform_lockFree free]
    exact .inl ⟨job, waits, own⟩
  | lock | unlock | clear => exact .inl ⟨job, waits, own⟩
  | spawn => exact .inl ⟨job, List.mem_cons_of_mem _ waits, own⟩
  | pickUp other known =>
    by_cases same : job = other
    · subst same
      exact .inr (by rw [own])
    · exact .inl ⟨job, (List.mem_erase_of_ne same).mpr waits, own⟩

/-- A lock stays live unless it is dropped. -/
theorem held_move (move : Move s (some app) access left) :
    left = some app ∨ (∃ job ∈ (perform s access).spawned, job.app = app) ∨
      access = .unlock app := by
  cases move with
  | stays => exact .inl rfl
  | unlock => exact .inr (.inr rfl)
  | spawn job => exact .inr (.inl ⟨job, List.mem_cons_self, rfl⟩)

theorem wakes_of_holds {task : Option Task} (holds : task.bind Task.holds = some app) :
    task.any (wakes app) = true := by
  cases task with
  | none => cases holds
  | some task =>
    have own : task.holds = some app := holds
    simp [wakes, own]

/-! ## Who queues and who looks -/

/-- The app whose entry an access makes or takes out. -/
def touches : Effect → Option ShortId
  | .queue app | .unqueue app => some app
  | _ => none

theorem touches_begin (call : Call) : touches (begin s call).1 = none := by
  cases call with
  | run =>
    rw [begin]
    split <;> rfl
  | deploy | hook | rollback | approve | reject | cancel | update | delete | maintain => rfl

theorem touches_nextJob (job : Job) (stage : Stage) : touches (nextJob s job stage input).1 = none := by
  have run : ∀ stage, touches (nextRun s job stage input).1 = none := by
    intro stage
    unfold nextRun
    split <;> rfl
  unfold nextJob
  split
  · rfl
  · rfl
  · rfl
  · split
    · rfl
    · exact run _

/-- **Who has to do with the queue**: a push that finds the app busy, `run_queued_hook`, and a
deletion. -/
theorem touches_next (found : touches (next s task input).1 = some app) :
    (app ∈ s.busy ∧ wakes app task = false ∧ (next s task input).1 = .queue app) ∨
      ((next s task input).2.any (carries app) = true ∧ (next s task input).1 = .unqueue app) ∨
        ((∃ rest, task = .held app .forgetQueued rest) ∧
          (next s task input).1 = .unqueue app) := by
  cases task with
  | job =>
    rw [next, touches_nextJob] at found
    cases found
  | held own work rest =>
    rw [next] at found ⊢
    split at found
    · cases found
    · next kept =>
        rw [if_neg kept]
        unfold nextHeld at found ⊢
        split at found <;> (try split at found) <;> cases found
        exact .inr (.inr ⟨⟨rest, rfl⟩, rfl⟩)
  | tryLock =>
    simp only [next, nextFree, tryLock] at found ⊢
    repeat' split at found
    all_goals cases found
    refine .inl ⟨by assumption, rfl, ?_⟩
    simp_all
  | runQueued =>
    simp only [next, nextFree] at found ⊢
    repeat' split at found
    all_goals cases found
    refine .inr (.inl ?_)
    simp_all [carries]
  | findApp | insertPending | rollbackSource | rollbackApp | readPending | cancelRead
  | cancelWrite | cancelToken | cancelClear =>
    simp only [next, nextFree] at found
    repeat' split at found
    all_goals cases found

/-- A task that looks finds a queued push, unless the server shuts down. -/
theorem next_of_looks (sees : looks app task = true) (queued : app ∈ s.queued) :
    (next s task .ok).1 = .unqueue app := by
  cases task with
  | runQueued own rest =>
    obtain rfl : own = app := by simpa [looks] using sees
    simp [next, nextFree, queued]
  | held | job | findApp | tryLock | insertPending | rollbackSource | rollbackApp | readPending
  | cancelRead | cancelWrite | cancelToken | cancelClear => cases sees

/-- What a task does when it drops its lock. -/
theorem next_of_drops {sees : Bool} (leaves : drops task input = some (app, sees)) :
    (next s task input).1 = .unlock app ∧ (next s task input).2.any (looks app) = sees := by
  unfold drops at leaves
  split at leaves <;> cases leaves
  · simp [next, nextJob, looks]
  · simp [next]
  · next rest kept =>
      rw [next, if_neg kept]
      cases rest <;> simp [nextHeld, resume, looks]
  · next after _ looking kept =>
      rw [next, if_neg kept]
      cases after with
      | stop => exact absurd rfl looking
      | runQueued | insertPending => simp [nextHeld, looks]

/-- Every lock is dropped in one of these ways. -/
theorem drops_of_unlock (unlocks : (next s task input).1 = .unlock app) :
    ∃ sees, drops task input = some (app, sees) := by
  cases task with
  | job job stage =>
    simp only [next, nextJob, nextRun] at unlocks
    repeat' split at unlocks
    all_goals cases unlocks
    exact ⟨true, rfl⟩
  | held own work rest =>
    by_cases kept : input = .dropped
    · subst kept
      cases unlocks
      exact ⟨false, by cases work <;> rfl⟩
    · rw [next, if_neg kept] at unlocks
      unfold nextHeld at unlocks
      repeat' split at unlocks
      all_goals cases unlocks
      all_goals exact ⟨_, by simp [drops]; rfl⟩
  | findApp | tryLock | insertPending | runQueued | rollbackSource | rollbackApp | readPending
  | cancelRead | cancelWrite | cancelToken | cancelClear =>
    simp only [next, nextFree, tryLock] at unlocks
    repeat' split at unlocks
    all_goals cases unlocks

@[simp] theorem carries_resume (rest : List Pending) :
    (resume rest).any (carries app) = rest.any (·.app = app) := by
  cases rest <;> rfl

theorem nextHeld_of_carries {own : ShortId} {work : Work} {rest : List Pending}
    (hand : carries app (.held own work rest) = true)
    (careful : rest.any (·.app = app) = true ∨ proceeds s (.held own work rest) input = true) :
    Starts app (nextHeld s own work rest input).1 ∨
      (nextHeld s own work rest input).2.any (carries app) = true := by
  by_cases others : rest.any (·.app = app) = true
  · refine .inr ?_
    unfold nextHeld
    repeat' split
    all_goals simp [carries, others]
  · have ready := careful.resolve_left others
    simp only [carries, others, Bool.or_false, Bool.and_eq_true, decide_eq_true_eq] at hand
    obtain ⟨rfl, leads⟩ := hand
    cases work with
    | prepare =>
      cases input with
      | drawn id image approval => cases approval <;> simp [nextHeld, carries, Work.deploys]
      | _ => cases ready
    | insert id image =>
      obtain ⟨room, rfl⟩ : s.insertable id own ∧ input = .ok := by simpa [proceeds] using ready
      simp [nextHeld, room, carries, Work.deploys]
    | readBack id image =>
      obtain ⟨stored, rfl⟩ : id ∈ s.deployments.keys ∧ input = .ok := by
        simpa [proceeds] using ready
      simp [nextHeld, stored, carries, Work.deploys]
    | spawn => exact .inl rfl
    | release after =>
      cases after with
      | insertPending pending =>
        have own : pending.app = own := of_decide_eq_true leads
        simp [nextHeld, carries, own]
      | stop | runQueued => cases leads
    | _ => cases leads

/-- A push that is in hand and not given up leads to a deployment or to the queue, or stays in
hand. -/
theorem next_of_carries (hand : carries app task = true) (known : app ∈ s.apps)
    (kept : input ≠ .dropped)
    (careful : (restOf task).any (·.app = app) = true ∨ proceeds s task input = true) :
    Starts app (next s task input).1 ∨ (next s task input).1 = .queue app ∨
      (next s task input).2.any (carries app) = true := by
  cases task with
  | findApp own purpose rest =>
    simp only [next, if_neg kept, nextFree]
    split
    · exact .inr (.inr hand)
    · rename_i lost
      simp only [carries, Bool.or_eq_true, Bool.and_eq_true, decide_eq_true_eq] at hand
      refine .inr (.inr ((carries_resume rest).trans ?_))
      rcases hand, careful with ⟨⟨rfl, -⟩ | others, others | ready⟩
      · exact others
      · exact absurd ⟨known, of_decide_eq_true ready⟩ lost
      · exact others
      · exact others
  | tryLock own purpose rest =>
    simp only [carries, Bool.or_eq_true, Bool.and_eq_true, decide_eq_true_eq] at hand
    simp only [next, if_neg kept, nextFree, tryLock]
    split
    · rcases hand with ⟨rfl, hook⟩ | others
      · exact .inr (.inl (if_pos hook))
      · exact .inr (.inr ((carries_resume rest).trans others))
    · refine .inr (.inr ?_)
      rcases hand with ⟨rfl, rfl⟩ | others
      · simp [carries, Purpose.work, Work.deploys]
      · simp [carries, others]
  | held own work rest =>
    rw [next, if_neg kept]
    exact (nextHeld_of_carries hand careful).imp_right .inr
  | runQueued own rest =>
    refine .inr (.inr ?_)
    simp only [next, if_neg kept, nextFree]
    split
    · exact Bool.or_eq_true _ _ ▸ .inr hand
    · exact (carries_resume rest).trans hand
  | insertPending pending rest =>
    simp only [next, if_neg kept, nextFree]
    by_cases others : rest.any (·.app = app) = true
    · refine .inr (.inr ?_)
      split <;> exact (carries_resume rest).trans others
    · have ready : s.insertable pending.id pending.app ∧ input = .ok := by
        simpa [proceeds] using careful.resolve_left others
      have own : pending.app = app := by simpa [carries, others] using hand
      rw [if_pos ready]
      exact .inl ⟨own, rfl⟩
  | job | rollbackSource | rollbackApp | readPending | cancelRead | cancelWrite | cancelToken
  | cancelClear => cases hand

/-- The task is about to forget the queue of the app. -/
def forgets (app : ShortId) : Task → Bool
  | .held own .forgetQueued _ => own = app
  | _ => false

@[simp] theorem forgets_resume (rest : List Pending) : (resume rest).any (forgets app) = false := by
  cases rest <;> rfl

/-- The queue is forgotten after the app was deleted. -/
theorem forgets_next (about : (next s task input).2.any (forgets app) = true) :
    app ∉ (perform s (next s task input).1).apps := by
  cases task with
  | held =>
    simp only [next] at about ⊢
    split at about
    · cases about
    · next kept =>
        rw [if_neg kept]
        unfold nextHeld at about ⊢
        split at about <;> (try split at about) <;> simp [forgets] at about
        simp_all [perform]
  | tryLock own purpose rest =>
    have other : forgets app (.held own purpose.work rest) = false := by cases purpose <;> rfl
    simp only [next, nextFree, tryLock] at about
    repeat' split at about
    all_goals simp_all
  | job | findApp | runQueued | insertPending | rollbackSource | rollbackApp | readPending
  | cancelRead | cancelWrite | cancelToken | cancelClear =>
    simp only [next, nextJob, nextFree] at about
    repeat' split at about
    all_goals simp [forgets] at about

theorem forgets_begin (call : Call) : (begin s call).2.any (forgets app) = false := by
  cases call with
  | run =>
    rw [begin]
    split <;> rfl
  | deploy | hook | rollback | approve | reject | cancel | update | delete | maintain => rfl

end Accesses

/-! ## The queue is drained -/

section Steps

variable {system : State} {p : Nat} {task : Task} {input : Input} {event : Event Call Input}
  {app : ShortId}

theorem waking_settle_iff {outcome : Shared × Option Task} :
    Waking (system.settle p outcome) app ↔
      (∃ job ∈ outcome.1.spawned, job.app = app) ∨
        (∃ slot ∈ system.tasks.rows, slot.1 ≠ p ∧ wakes app slot.2 = true) ∨
          outcome.2.any (wakes app) = true :=
  or_congr Iff.rfl System.any_settle

/-- An app is still woken after an access, unless a lock of it is dropped or the queue is looked
at. -/
theorem waking_advance (member : (p, task) ∈ system.tasks.rows) (waking : Waking system app) :
    Waking (system.settle p (program.advance p system.shared task input)) app ∨
      (next system.shared task input).1 = .unlock app ∨ looks app task = true := by
  rw [waking_settle_iff]
  have move := @move_next system.shared task input
  have left : (next system.shared task input).2.bind Task.holds = some app →
      (next system.shared task input).2.any (wakes app) = true := wakes_of_holds
  rcases waking with ⟨job, waits, own⟩ | ⟨⟨q, other⟩, known, awake⟩
  · rcases spawned_move move waits own with still | holds
    · exact .inl (.inl still)
    · exact .inl (.inr (.inr (left holds)))
  · by_cases same : q = p
    · subst same
      obtain rfl : other = task := congrArg Prod.snd (system.tasks.row_of_key known member rfl)
      rcases Bool.or_eq_true _ _ ▸ awake with holds | sees
      · rw [of_decide_eq_true holds] at move
        rcases held_move move with holds | waits | unlocks
        · exact .inl (.inr (.inr (left holds)))
        · exact .inl (.inl waits)
        · exact .inr (.inl unlocks)
      · exact .inr (.inr sees)
    · exact .inl (.inr (.inl ⟨(q, other), known, same, awake⟩))

/-- A busy app is woken by its lock. -/
theorem waking_of_live (held : 0 < live system app) : Waking system app := by
  rcases Nat.add_pos_iff_pos_or_pos.mp held with tasks | jobs
  · obtain ⟨slot, member, holds⟩ := List.countP_pos_iff.mp tasks
    have own : decide (slot.2.holds = some app) = true := holds
    exact .inr ⟨slot, member, by rw [wakes, own, Bool.true_or]⟩
  · obtain ⟨job, waits, own⟩ := List.countP_pos_iff.mp jobs
    exact .inl ⟨job, waits, of_decide_eq_true own⟩

theorem drained_begin {call : Call} (fresh : ∀ task, (p, task) ∉ system.tasks.rows)
    (drained : Drained system) :
    Drained (system.settle p (program.begin p system.shared call)) := by
  intro app queued
  have after : app ∈ (perform system.shared (begin system.shared call).1).queued := queued
  rcases mem_queued_perform.mp after with ⟨kept, -⟩ | queues
  · rw [waking_settle_iff]
    rcases drained app kept with ⟨job, waits, own⟩ | ⟨⟨q, task⟩, known, awake⟩
    · rcases spawned_move (@move_begin system.shared call) waits own with still | holds
      · exact .inl still
      · exact .inr (.inr (wakes_of_holds holds))
    · have other : q ≠ p := by
        rintro rfl
        exact fresh task known
      exact .inr (.inl ⟨(q, task), known, other, awake⟩)
  · have none := touches_begin (s := system.shared) call
    rw [queues] at none
    cases none

theorem drained_advance (busy : ∀ app ∈ system.shared.busy, 0 < live system app)
    (drained : Drained system) (member : (p, task) ∈ system.tasks.rows)
    (awake : ∀ app ∈ system.shared.queued, looks app task = true → input = .ok)
    (woken : ∀ app ∈ system.shared.queued, (next system.shared task input).1 = .unlock app →
      Waking (system.settle p (program.advance p system.shared task input)) app) :
    Drained (system.settle p (program.advance p system.shared task input)) := by
  intro app queued
  have after : app ∈ (perform system.shared (next system.shared task input).1).queued := queued
  rcases mem_queued_perform.mp after with ⟨known, kept⟩ | queues
  · rcases @waking_advance system p task input app member (drained app known) with
      still | unlocks | sees
    · exact still
    · exact woken app known unlocks
    · -- a task that looks takes the push out of the queue
      obtain rfl := awake app known sees
      exact absurd (next_of_looks sees known) kept
  · rcases touches_next (by rw [queues]; rfl) with ⟨taken, quiet, -⟩ | ⟨-, other⟩ | ⟨-, other⟩
    · rcases @waking_advance system p task input app member (waking_of_live (busy app taken)) with
        still | unlocks | sees
      · exact still
      · rw [queues] at unlocks
        cases unlocks
      · rw [wakes, sees, Bool.or_true] at quiet
        cases quiet
    · rw [queues] at other
      cases other
    · rw [queues] at other
      cases other

/-- What the owner of a lock leaves behind when it drops it. -/
theorem waking_unlock_iff (unlocks : (next system.shared task input).1 = .unlock app) :
    Waking (system.settle p (program.advance p system.shared task input)) app ↔
      (next system.shared task input).2.any (looks app) = true ∨
        (∃ job ∈ system.shared.spawned, job.app = app) ∨
          ∃ other ∈ system.tasks.rows, other.1 ≠ p ∧ wakes app other.2 = true := by
  have spawned : (program.advance p system.shared task input).1.spawned =
      system.shared.spawned := by
    show (perform system.shared (next system.shared task input).1).spawned = _
    rw [unlocks]
    rfl
  have free : (next system.shared task input).2.bind Task.holds = none := by
    have move := @move_next system.shared task input
    rw [unlocks] at move
    generalize task.holds = held, (next system.shared task input).2.bind Task.holds = left at move
    cases move with
    | stays _ _ free => cases free
    | unlock => rfl
  have own : (program.advance p system.shared task input).2.any (wakes app) =
      (next system.shared task input).2.any (looks app) := by
    show (next system.shared task input).2.any (wakes app) = _
    cases left : (next system.shared task input).2 with
    | none => rfl
    | some rest =>
      rw [left] at free
      have none : rest.holds = none := free
      simp [wakes, none]
  rw [waking_settle_iff, spawned, own, ← or_assoc, or_comm]

theorem drained_step_iff (busy : ∀ app ∈ system.shared.busy, 0 < live system app)
    (drained : Drained system) (possible : Possible system event) :
    Drained (program.step system event) ↔ Woken system event := by
  cases event with
  | begin p call =>
    refine iff_of_true ?_ trivial
    rcases program.step_cases system (.begin p call) with
      same | ⟨q, call', begins, fresh, same⟩ | ⟨q, input, task, advances, -⟩
    · rwa [same]
    · cases begins
      rw [same]
      exact drained_begin fresh drained
    · cases advances
  | advance p input =>
    cases found : system.tasks.find p with
    | none =>
      refine iff_of_true (by simpa only [Program.step, found] using drained) ?_
      intro slot moves
      rw [found] at moves
      cases moves
    | some slot =>
      obtain ⟨q, task⟩ := slot
      obtain ⟨member, rfl⟩ := Table.mem_of_find found
      simp only [Program.step, found, Woken, Option.mem_def, Option.some.injEq]
      constructor
      · rintro after _ rfl app queued leaves
        obtain ⟨unlocks, blind⟩ := next_of_drops (s := system.shared) leaves
        have waking := (waking_unlock_iff unlocks).mp (after app ?_)
        · rw [blind] at waking
          exact waking.resolve_left Bool.false_ne_true
        have kept : (next system.shared task input).1 ≠ .unqueue app := by
          rw [unlocks]
          simp
        exact mem_queued_perform.mpr (.inl ⟨queued, kept⟩)
      · intro woken
        refine drained_advance busy drained member (possible _ found) ?_
        intro app queued unlocks
        refine (waking_unlock_iff unlocks).mpr ?_
        obtain ⟨sees, leaves⟩ := drops_of_unlock unlocks
        cases sees with
        | true => exact .inl (next_of_drops leaves).2
        | false => exact .inr (woken _ rfl app queued leaves)

/-! ## No push is lost -/

/-- An app whose queue is about to be forgotten is gone. -/
def Forgotten (system : State) : Prop :=
  ∀ app, (∃ slot ∈ system.tasks.rows, forgets app slot.2 = true) → app ∉ system.shared.apps

theorem mem_apps_of_step (known : app ∈ (program.step system event).shared.apps) :
    app ∈ system.shared.apps := by
  rw [step_shared] at known
  exact mem_apps_of_perform known

theorem mem_apps_of_exec {events : List (Event Call Input)}
    (known : app ∈ (exec program.step system events).shared.apps) : app ∈ system.shared.apps := by
  induction events generalizing system with
  | nil => exact known
  | cons event rest ih => exact mem_apps_of_step (ih known)

theorem Forgotten.step (forgotten : Forgotten system) (event : Event Call Input) :
    Forgotten (program.step system event) := by
  intro app about known
  have before := mem_apps_of_step known
  have old : ∀ p, (∃ slot ∈ system.tasks.rows, slot.1 ≠ p ∧ forgets app slot.2 = true) → False :=
    fun p ⟨slot, member, _, about⟩ => forgotten app ⟨slot, member, about⟩ before
  rcases program.step_cases system event with
    same | ⟨p, call, rfl, fresh, same⟩ | ⟨p, input, task, rfl, moves, same⟩
  · rw [same] at about
    exact forgotten app about before
  · rw [same, System.any_settle] at about
    rcases about with other | about
    · exact old p other
    · have none : (begin system.shared call).2.any (forgets app) = true := about
      rw [forgets_begin] at none
      cases none
  · rw [same] at about known
    rcases System.any_settle.mp about with other | about
    · exact old p other
    · exact forgets_next about known

/-- The push is in the queue or in hand. -/
def Kept (system : State) (app : ShortId) : Prop :=
  app ∈ system.shared.queued ∨ ∃ slot ∈ system.tasks.rows, carries app slot.2 = true

theorem kept_of_queued (stays : (app ∈ system.shared.queued ∧ effect system event ≠ .unqueue app) ∨
    effect system event = .queue app) : Kept (program.step system event) app := by
  refine .inl ?_
  rw [step_shared]
  exact mem_queued_perform.mpr stays

theorem kept_begin {p : Nat} {call : Call} (kept : Kept system app) :
    Kept (program.step system (.begin p call)) app := by
  have quiet : effect system (.begin p call) ≠ .unqueue app := by
    rw [effect]
    split
    · simp
    · intro unqueues
      have none := touches_begin (s := system.shared) call
      rw [unqueues] at none
      cases none
  rcases kept with queued | ⟨⟨q, task⟩, member, hand⟩
  · exact kept_of_queued (.inl ⟨queued, quiet⟩)
  · refine .inr ?_
    rcases program.step_cases system (.begin p call) with
      same | ⟨r, _, begins, fresh, same⟩ | ⟨r, _, _, advances, -⟩
    · rw [same]
      exact ⟨(q, task), member, hand⟩
    · rw [same, System.any_settle]
      refine .inl ⟨(q, task), member, ?_, hand⟩
      rintro rfl
      exact fresh task member
    · cases advances

/-- **One access** starts a deployment of the app or keeps its push. -/
theorem kept_step (forgotten : Forgotten system) (careful : Careful system event)
    (known : app ∈ system.shared.apps) (kept : Kept system app) :
    Starts app (effect system event) ∨ Kept (program.step system event) app := by
  cases event with
  | begin p call => exact .inr (kept_begin kept)
  | advance p input =>
    cases found : system.tasks.find p with
    | none =>
      have same : program.step system (.advance p input) = system := by
        simp only [Program.step, found]
      rw [same]
      exact .inr kept
    | some slot =>
      obtain ⟨r, moving⟩ := slot
      obtain ⟨moves, rfl⟩ := Table.mem_of_find found
      have access : effect system (.advance r input) = (next system.shared moving input).1 := by
        simp only [effect, found]
      have left : (next system.shared moving input).2.any (carries app) = true →
          Kept (program.step system (.advance r input)) app := by
        intro hand
        simp only [Program.step, found]
        exact .inr (System.any_settle.mpr (.inr hand))
      rcases kept with queued | ⟨⟨q, task⟩, member, hand⟩
      · by_cases unqueues : effect system (.advance r input) = .unqueue app
        · rw [access] at unqueues
          rcases touches_next (by rw [unqueues]; rfl) with
            ⟨-, -, other⟩ | ⟨hand, -⟩ | ⟨⟨rest, rfl⟩, -⟩
          · rw [unqueues] at other
            cases other
          · exact .inr (left hand)
          · exact absurd known (forgotten app ⟨_, moves, by simp [forgets]⟩)
        · exact .inr (kept_of_queued (.inl ⟨queued, unqueues⟩))
      · by_cases own : q = r
        · subst own
          obtain rfl : task = moving :=
            congrArg Prod.snd (system.tasks.row_of_key member moves rfl)
          obtain ⟨stays, goes⟩ := careful _ found app known hand
          rcases next_of_carries hand known stays goes with starts | queues | hand
          · exact .inl (by rwa [access])
          · exact .inr (kept_of_queued (.inr (by rw [access, queues])))
          · exact .inr (left hand)
        · simp only [Program.step, found]
          exact .inr (.inr (System.any_settle.mpr (.inl ⟨(q, task), member, own, hand⟩)))

/-- **A whole run** does, unless the app is deleted. -/
theorem kept_run {events : List (Event Call Input)} (forgotten : Forgotten system)
    (careful : Guarded program.step Careful system events) (kept : Kept system app) :
    StartedIn system events app ∨ app ∉ (exec program.step system events).shared.apps ∨
      Kept (exec program.step system events) app := by
  induction events generalizing system with
  | nil => exact .inr (.inr kept)
  | cons event rest ih =>
    by_cases known : app ∈ system.shared.apps
    · rcases kept_step forgotten careful.1 known kept with starts | still
      · exact .inl ⟨[], event, rest, rfl, starts⟩
      · rcases ih (forgotten.step event) careful.2 still with
          ⟨front, later, back, split, starts⟩ | others
        · exact .inl ⟨event :: front, later, back, by rw [split, List.cons_append], starts⟩
        · exact .inr others
    · exact .inr (.inl fun still => known (mem_apps_of_exec still))

end Steps

/-! ## Every interleaving -/

/-- In the runs of a server that does not shut down, the queue is drained in every state if and only
if every lock is dropped by an owner that looks at the queue where there is a push.  If besides no
task gives up a push that it has in hand, each push that is queued is followed by the start of a
deployment, or the app is deleted, or the push is still promised. -/
theorem queued_pushes_iff (apps : List ShortId) (deployments : Table DeploymentEntry.id)
    (events : List (Event Call Input))
    (possible : Guarded program.step Possible (initial apps deployments) events) :
    (Throughout program.step Drained (initial apps deployments) events ↔
      Guarded program.step Woken (initial apps deployments) events) ∧
    (Guarded program.step Woken (initial apps deployments) events →
      Guarded program.step Careful (initial apps deployments) events →
      ∀ front event back app, events = front ++ event :: back →
        effect (exec program.step (initial apps deployments) front) event = .queue app →
          StartedIn (exec program.step (initial apps deployments) (front ++ [event])) back app ∨
          app ∉ (exec program.step (initial apps deployments) events).shared.apps ∨
          Promised (exec program.step (initial apps deployments) events) app) := by
  have keeps : ∀ (system : State) (event : Event Call Input),
      (∀ app ∈ system.shared.busy, 0 < live system app) → Possible system event →
        ∀ app ∈ (program.step system event).shared.busy, 0 < live (program.step system event) app :=
    fun _ event busy _ => Locks.live_of_busy_step busy event
  have first : ∀ app ∈ (initial apps deployments).shared.busy,
      0 < live (initial apps deployments) app := fun _ taken => by cases taken
  refine ⟨?exactly, fun woken => ?_⟩
  · exact Run.throughout_iff_guarded_of keeps
      (fun _ _ busy drained possible => drained_step_iff busy drained possible) first
      (fun _ queued => by cases queued) possible
  have drained := (Iff.mpr ?exactly woken).last
  rintro careful front event back app rfl queues
  obtain ⟨before, -, after⟩ := Run.guarded_append.mp careful
  have empty : Forgotten (initial apps deployments) := by
    rintro app ⟨slot, member, -⟩
    cases member
  have forgets : ∀ (system : State) (event : Event Call Input), Forgotten system →
      Careful system event → Forgotten (program.step system event) :=
    fun _ event forgotten _ => forgotten.step event
  have forgotten := Guarded.invariant forgets empty before
  rw [Run.exec_append] at drained ⊢
  rw [Run.exec_append]
  have kept : Kept (program.step (exec program.step (initial apps deployments) front) event) app :=
    .inl (by rw [step_shared]; exact mem_queued_perform.mpr (.inr queues))
  rcases kept_run (forgotten.step event) after kept with starts | gone | queued | hand
  · exact .inl starts
  · exact .inr (.inl gone)
  · exact .inr (.inr (.inl ⟨queued, drained app queued⟩))
  · exact .inr (.inr (.inr hand))

/-- A push that comes while a pipeline of its app runs. -/
def pushed : List (Event Call Input) :=
  stores 0 blue ++ spawns 0 2 blue ++ [.begin 1 (.hook shop), .advance 1 .ok]

/-- The pipeline ends, looks at the queue and starts the next one. -/
def endsAndStarts : List (Event Call Input) :=
  List.replicate 9 (.advance 2 .ok) ++ .advance 2 (.drawn green .pull false) ::
    List.replicate 3 (.advance 2 .ok)

theorem push_beside_pipeline_starts :
    Throughout program.step Drained (initial [shop] .empty)
        (pushed ++ .advance 1 .ok :: endsAndStarts) ∧
      StartedIn (exec program.step (initial [shop] .empty) (pushed ++ [.advance 1 .ok]))
        endsAndStarts shop := by
  have known : shop ∈ (exec program.step (initial [shop] .empty)
      (pushed ++ .advance 1 .ok :: endsAndStarts)).shared.apps := by decide +kernel
  have drained : (exec program.step (initial [shop] .empty)
      (pushed ++ .advance 1 .ok :: endsAndStarts)).shared.queued = [] := by decide +kernel
  have done : (exec program.step (initial [shop] .empty)
      (pushed ++ .advance 1 .ok :: endsAndStarts)).tasks.rows = [] := by decide +kernel
  have all := queued_pushes_iff [shop] .empty (pushed ++ .advance 1 .ok :: endsAndStarts)
    (by decide +kernel)
  refine ⟨all.1.mpr ?woken, ?_⟩
  · decide +kernel
  · rcases all.2 ?woken (by decide +kernel) pushed _ endsAndStarts shop rfl (by decide +kernel) with
      starts | gone | ⟨queued, -⟩ | ⟨slot, member, -⟩
    · exact starts
    · exact absurd known gone
    · rw [drained] at queued
      cases queued
    · rw [done] at member
      cases member

/-- A push comes while a deployment that waits for approval is rejected. -/
def pushedBesideRejection : List (Event Call Input) :=
  [.begin 0 (.reject blue), .advance 0 .ok, .advance 0 .ok, .advance 0 .ok,
    .begin 1 (.hook shop), .advance 1 .ok, .advance 1 .ok, .advance 0 .ok, .advance 0 .ok]

/-- The rejection drops its lock and does not look at the queue.  Nothing is under way any more, and
the push stays where it is. -/
theorem rejection_leaves_push :
    let start := initial [shop] (.upsert .empty ⟨blue, shop, .pendingApproval⟩)
    let last := exec program.step start pushedBesideRejection
    Guarded program.step Possible start pushedBesideRejection ∧
      effect (exec program.step start (pushedBesideRejection.take 6)) (.advance 1 .ok) =
        .queue shop ∧
      shop ∈ last.shared.apps ∧ last.tasks.rows = [] ∧ last.shared.spawned = [] ∧
      ¬ Drained last := by
  intro start last
  have rest : last.tasks.rows = [] ∧ last.shared.spawned = [] := by decide +kernel
  refine ⟨by decide +kernel, by decide +kernel, by decide +kernel, rest.1, rest.2, ?_⟩
  intro drained
  rcases drained shop (by decide +kernel) with ⟨job, waits, -⟩ | ⟨slot, member, -⟩
  · rw [rest.2] at waits
    cases waits
  · rw [rest.1] at member
    cases member

end R3v3rs3.Platform.Deploy.Queue
