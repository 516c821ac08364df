/-
This file is about the tasks of the legacy `ThreadPool`: none is run twice, they
leave the queue in the order they have entered it, and the destructor returns
only when every one of them has been run. The threads outside the pool call
`addTask` before the destructor starts; a task that a worker runs may call it at
any time, also while other workers have left. What keeps its tasks from being
lost is that its worker has not: as long as the queue is not empty some worker
will still look at it.
-/

import MultiReactor.Pipeline
import MultiReactor.PoolLock

namespace MultiReactor

open Transition Pipeline

section Pool

variable {workers : Nat} {User Task : Type} [DecidableEq User]

/-! ### What happens to tasks -/

/-- A step on record: the pool before it, and what happens. -/
abbrev PoolRecord (workers : Nat) (User Task : Type) :=
  ThreadPool workers User Task × PoolEvent workers User Task

/-- The task that a step of `addTask` puts into the queue. -/
def PoolRecord.enqueues : PoolRecord workers User Task → Option (Caller workers User × Task)
  | (pool, .add caller _) => match pool.adding caller with
    | .emplace task => some (caller, task)
    | _ => none
  | _ => none

/-- The task whose `addTask` returns normally. -/
def PoolRecord.addReturns : PoolRecord workers User Task → Option (Caller workers User × Task)
  | (pool, .add caller _) => match pool.adding caller with
    | .notify task => some (caller, task)
    | _ => none
  | _ => none

/-- The task that a worker takes from the queue. -/
def PoolRecord.dequeues : PoolRecord workers User Task → Option (Fin workers × Task)
  | (pool, .work w) => match pool.workers_ w, pool.tasks_ with
    | .pop, task :: _ => some (w, task)
    | _, _ => none
  | _ => none

/-- The task that a worker calls. -/
def PoolRecord.calls : PoolRecord workers User Task → Option (Fin workers × Task)
  | (pool, .work w) => match pool.workers_ w with
    | .call task => some (w, task)
    | _ => none
  | _ => none

/-- The task that has run to its end. -/
def PoolRecord.ends : PoolRecord workers User Task → Option (Fin workers × Task)
  | (pool, .taskReturns w) => match pool.workers_ w with
    | .running task => some (w, task)
    | _ => none
  | _ => none

/-- The tasks to which something has happened in the course of a run, in this order. -/
def tasksIn {Thread : Type} (happens : PoolRecord workers User Task → Option (Thread × Task))
    (past : List (PoolRecord workers User Task)) : List Task :=
  (past.filterMap happens).map Prod.snd

/-- `addTask` is called from outside the pool before the destructor starts, and from its tasks at
any time. -/
def addedBefore : Guard (ThreadPool workers User Task) (PoolEvent workers User Task) :=
  fun pool event =>
    (∀ t task, event = .addTask (.user t) task → pool.destructor = .before) ∧
      (event = .destroy → pool.destructor = .before → ∀ t, pool.adding (.user t) = .idle)

instance [Fintype User] [DecidableEq Task] (pool : ThreadPool workers User Task) :
    (event : PoolEvent workers User Task) → Decidable (addedBefore pool event)
  | .addTask (.user _) _ => decidable_of_iff (pool.destructor = .before)
      ⟨fun before => ⟨fun _ _ _ => before, fun same => (by cases same)⟩,
        fun permitted => permitted.1 _ _ rfl⟩
  | .destroy =>
    decidable_of_iff (pool.destructor = .before → ∀ t, pool.adding (.user t) = .idle)
      ⟨fun idle => ⟨fun _ _ same => (by cases same), fun _ => idle⟩,
        fun permitted => permitted.2 rfl⟩
  | .addTask (.worker _) _ | .work _ | .wake _ | .taskReturns _ | .add _ _ =>
    .isTrue ⟨fun _ _ same => (by cases same), fun same => (by cases same)⟩

/-! ### Who will look at the queue -/

/-- Whether a worker here is leaving, or has left. -/
def WorkerLoop.leaving : WorkerLoop Task → Bool
  | .testEmpty | .returnEmpty | .exited => true
  | _ => false

/-- How many workers the destructor has joined. -/
def Destructor.joined (workers : Nat) : Destructor → Nat
  | .join joined => joined
  | .returned => workers
  | _ => 0

/-- What holds between any two steps when `addTask` is called as it should be. -/
structure ThreadPool.Draining (pool : ThreadPool workers User Task) : Prop where
  outside : ∀ t, pool.adding (.user t) ≠ .idle → pool.destructor = .before
  leaving : ∀ w, (pool.workers_ w).leaving = true → pool.stop_ = true
  /-- some worker will still look at a queue that is not empty -/
  obliged : pool.tasks_ ≠ [] → ∃ w, pool.workers_ w ≠ .exited
  joined : ∀ w : Fin workers, w < pool.destructor.joined workers → pool.workers_ w = .exited

/-- A worker that has left does nothing any more. -/
theorem exited_lasts {pool after : ThreadPool workers User Task}
    {event : PoolEvent workers User Task} (step : PoolStep pool event after) {w : Fin workers}
    (exited : pool.workers_ w = .exited) : after.workers_ w = .exited := by
  rcases worker_step step w with same | moved
  · exact same.trans exited
  · generalize after.workers_ w = next at moved ⊢
    rw [exited] at moved
    cases moved with
    | move move => cases move

/-- A worker leaves when it has found the queue empty. -/
theorem exits_step {pool after : ThreadPool workers User Task}
    {event : PoolEvent workers User Task} (step : PoolStep pool event after) {w : Fin workers}
    (exited : after.workers_ w = .exited) :
    pool.workers_ w = .exited ∨ (pool.workers_ w).leaving = true ∧ pool.tasks_ = [] := by
  rcases worker_step step w with same | moved
  · exact .inl (same.symm.trans exited)
  · generalize pool.workers_ w = here at moved ⊢
    rw [exited] at moved
    cases moved with
    | move move =>
      cases move with
      | drained drained => exact .inr ⟨rfl, drained⟩
    | leave drained => exact .inr ⟨rfl, drained⟩

theorem outside_step {pool after : ThreadPool workers User Task}
    {event : PoolEvent workers User Task} (draining : pool.Draining)
    (permitted : addedBefore pool event) (step : PoolStep pool event after) (t : User)
    (adding : after.adding (.user t) ≠ .idle) : after.destructor = .before := by
  have unmoved (other : event ≠ .destroy) : after.destructor = pool.destructor := by
    cases step <;> first | rfl | exact absurd rfl other
  by_cases outside : pool.adding (.user t) = .idle
  · obtain ⟨_, _, task, rfl⟩ := begins_step step outside adding
    exact (unmoved (by simp)).trans (permitted.1 t task rfl)
  · have before := draining.outside t outside
    refine (unmoved fun destroys => ?_).trans before
    exact outside (permitted.2 destroys before t)

theorem leaving_step {pool after : ThreadPool workers User Task}
    {event : PoolEvent workers User Task} (draining : pool.Draining)
    (step : PoolStep pool event after) (w : Fin workers)
    (leaving : (after.workers_ w).leaving = true) : after.stop_ = true := by
  refine stop_lasts step ?_
  rcases worker_step step w with same | moved
  · exact draining.leaving w (same ▸ leaving)
  · have before := draining.leaving w
    generalize pool.workers_ w = here at moved before
    generalize after.workers_ w = next at moved leaving
    cases moved with
    | move move =>
      cases move with
      | stopped stopped => exact stopped
      | returnStopped stopped => exact stopped
      | drained _ => exact before rfl
      | _ => cases leaving
    | leave _ => exact before rfl
    | _ => cases leaving

theorem joined_step {pool after : ThreadPool workers User Task}
    {event : PoolEvent workers User Task} (draining : pool.Draining)
    (step : PoolStep pool event after) (w : Fin workers)
    (joined : w < after.destructor.joined workers) : after.workers_ w = .exited := by
  have earlier (before : w < pool.destructor.joined workers) : after.workers_ w = .exited :=
    exited_lasts step (draining.joined w before)
  cases step with
  | stop place => cases joined
  | notifyAll place => cases joined
  | join last place exited =>
    have bound : (w : Nat) < last + 1 := joined
    rcases Nat.lt_succ_iff_lt_or_eq.mp bound with less | equal
    · exact earlier (by rw [place]; exact less)
    · rw [Fin.ext equal]
      exact exited
  | returns count place all =>
    exact earlier (by rw [place]; exact Nat.lt_of_lt_of_le w.isLt all)
  | _ => exact earlier joined

/-- As long as the queue is not empty, a worker is still there to look at it: the one that has
taken a task from it, the one whose task has added to it, or any if the pool is not stopped. -/
theorem obliged_step {pool after : ThreadPool workers User Task}
    {event : PoolEvent workers User Task} (positive : 0 < workers) (sound : pool.Sound)
    (draining : pool.Draining) (step : PoolStep pool event after) (pending : after.tasks_ ≠ []) :
    ∃ w, after.workers_ w ≠ .exited := by
  rcases tasks_step step with same | ⟨caller, task, place, _⟩ | ⟨w, task, _, took, _⟩
  · rw [same] at pending
    obtain ⟨w, there⟩ := draining.obliged pending
    refine ⟨w, fun exited => ?_⟩
    exact (exits_step step exited).elim there fun left => pending left.2
  · cases caller with
    | worker w =>
      obtain ⟨running, here⟩ := sound.nested w (by rw [place]; simp)
      refine ⟨w, fun exited => ?_⟩
      rcases exits_step step exited with it | ⟨leaving, _⟩
      · rw [here] at it
        cases it
      · rw [here] at leaving
        cases leaving
    | user t =>
      have before := draining.outside t (by rw [place]; simp)
      have unstopped : ¬ pool.stop_ = true := fun stopped => sound.stopped.mp stopped before
      refine ⟨⟨0, positive⟩, fun exited => ?_⟩
      rcases exits_step step exited with it | ⟨leaving, _⟩
      · exact unstopped (draining.leaving _ (by rw [it]; rfl))
      · exact unstopped (draining.leaving _ leaving)
  · refine ⟨w, ?_⟩
    rw [took]
    simp

theorem draining_step {pool after : ThreadPool workers User Task}
    {event : PoolEvent workers User Task} (positive : 0 < workers) (sound : pool.Sound)
    (draining : pool.Draining) (permitted : addedBefore pool event)
    (step : PoolStep pool event after) : after.Draining :=
  ⟨outside_step draining permitted step, leaving_step draining step,
    obliged_step positive sound draining step, joined_step draining step⟩

theorem reachable_draining (positive : 0 < workers) {pool : ThreadPool workers User Task}
    (reachable : ReachableBy (ThreadPool.system workers User Task) addedBefore pool) :
    pool.Draining := by
  refine reachable.invariant ThreadPool.Draining ?_ fun _ _ _ before draining permitted step =>
    draining_step positive (reachable_sound before) draining permitted (poolStep_cases step)
  rintro pool rfl
  exact ⟨fun t adding => absurd rfl adding, fun w leaving => absurd leaving Bool.false_ne_true,
    fun pending => absurd rfl pending, fun w joined => absurd joined (Nat.not_lt_zero w)⟩

/-! ### The stages a task passes -/

/-- The task that a call of `addTask` has enqueued, until it returns. -/
def AddTask.added : AddTask Task → List Task
  | .notify task => [task]
  | _ => []

/-- The task that a worker has taken and is about to call. -/
def WorkerLoop.taken : WorkerLoop Task → List Task
  | .call task => [task]
  | _ => []

/-- The task that a worker runs. -/
def WorkerLoop.runs : WorkerLoop Task → List Task
  | .running task => [task]
  | _ => []

/-- What has happened to the tasks in the course of a run, stage by stage. -/
structure Conserves (run : Recorded (ThreadPool workers User Task) (PoolEvent workers User Task)) :
    Prop where
  adding : ∀ caller, Stage (ownedBy caller (run.past.filterMap PoolRecord.enqueues))
    (ownedBy caller (run.past.filterMap PoolRecord.addReturns)) (run.now.adding caller).added
  queued : Stage (tasksIn PoolRecord.enqueues run.past) (tasksIn PoolRecord.dequeues run.past)
    run.now.tasks_
  taken : ∀ w, Stage (ownedBy w (run.past.filterMap PoolRecord.dequeues))
    (ownedBy w (run.past.filterMap PoolRecord.calls)) (run.now.workers_ w).taken
  running : ∀ w, Stage (ownedBy w (run.past.filterMap PoolRecord.calls))
    (ownedBy w (run.past.filterMap PoolRecord.ends)) (run.now.workers_ w).runs

theorem added_step {pool after : ThreadPool workers User Task}
    {event : PoolEvent workers User Task} (step : PoolStep pool event after)
    (caller : Caller workers User) :
    (pool.adding caller).added ++ ownedBy caller (PoolRecord.enqueues (pool, event)).toList =
      ownedBy caller (PoolRecord.addReturns (pool, event)).toList ++
        (after.adding caller).added := by
  cases step <;> simp [PoolRecord.enqueues, PoolRecord.addReturns, ownedBy, *] <;>
    grind [AddTask.added]

theorem queued_step {pool after : ThreadPool workers User Task}
    {event : PoolEvent workers User Task} (step : PoolStep pool event after) :
    pool.tasks_ ++ (PoolRecord.enqueues (pool, event)).toList.map Prod.snd =
      (PoolRecord.dequeues (pool, event)).toList.map Prod.snd ++ after.tasks_ := by
  have unmoved {w : Fin workers} (elsewhere : pool.workers_ w ≠ .pop) :
      PoolRecord.dequeues (pool, .work w) = none := by
    simp only [PoolRecord.dequeues]
    split
    · rename_i place _
      exact absurd place elsewhere
    · rfl
  cases step with
  | move w place move =>
    have elsewhere : pool.workers_ w ≠ .pop := fun here => by
      rw [here] at move
      cases move
    simp [PoolRecord.enqueues, unmoved elsewhere]
  | lock w place free =>
    have elsewhere : pool.workers_ w ≠ .pop := fun here => by simp [here] at place
    simp [PoolRecord.enqueues, unmoved elsewhere]
  | _ => simp [PoolRecord.enqueues, PoolRecord.dequeues, ThreadPool.unlock, *]

theorem taken_step {pool after : ThreadPool workers User Task}
    {event : PoolEvent workers User Task} (step : PoolStep pool event after) (w : Fin workers) :
    (pool.workers_ w).taken ++ ownedBy w (PoolRecord.dequeues (pool, event)).toList =
      ownedBy w (PoolRecord.calls (pool, event)).toList ++ (after.workers_ w).taken := by
  cases step with
  | move mover place move =>
    generalize here : pool.workers_ mover = before at move
    cases move <;> simp [PoolRecord.dequeues, PoolRecord.calls, ownedBy, here] <;>
      grind [WorkerLoop.taken]
  | lock mover place free =>
    rcases place with place | place <;>
      simp [PoolRecord.dequeues, PoolRecord.calls, ownedBy, place] <;> grind [WorkerLoop.taken]
  | notifyAll place =>
    show (pool.workers_ w).taken ++ [] = (pool.workers_ w).notified.taken
    cases pool.workers_ w <;> rfl
  | _ => simp [PoolRecord.dequeues, PoolRecord.calls, ownedBy, *] <;> grind [WorkerLoop.taken]

theorem runs_step {pool after : ThreadPool workers User Task}
    {event : PoolEvent workers User Task} (step : PoolStep pool event after) (w : Fin workers) :
    (pool.workers_ w).runs ++ ownedBy w (PoolRecord.calls (pool, event)).toList =
      ownedBy w (PoolRecord.ends (pool, event)).toList ++ (after.workers_ w).runs := by
  cases step with
  | move mover place move =>
    generalize here : pool.workers_ mover = before at move
    cases move <;> simp [PoolRecord.ends, PoolRecord.calls, ownedBy, here] <;>
      grind [WorkerLoop.runs]
  | lock mover place free =>
    rcases place with place | place <;>
      simp [PoolRecord.ends, PoolRecord.calls, ownedBy, place] <;> grind [WorkerLoop.runs]
  | notifyAll place =>
    show (pool.workers_ w).runs ++ [] = (pool.workers_ w).notified.runs
    cases pool.workers_ w <;> rfl
  | _ => simp [PoolRecord.ends, PoolRecord.calls, ownedBy, *] <;> grind [WorkerLoop.runs]

omit [DecidableEq User] in
/-- One step more on record. -/
theorem filterMap_recorded {Item : Type} (happens : PoolRecord workers User Task → Option Item)
    (past : List (PoolRecord workers User Task)) (step : PoolRecord workers User Task) :
    (past ++ [step]).filterMap happens = past.filterMap happens ++ (happens step).toList := by
  rw [List.filterMap_append]
  cases taken : happens step <;> simp [taken]

/-- In every run, each stage conserves the tasks. -/
theorem reachable_conserves
    {guard : Guard (Recorded (ThreadPool workers User Task) (PoolEvent workers User Task))
      (PoolEvent workers User Task)}
    {run : Recorded (ThreadPool workers User Task) (PoolEvent workers User Task)}
    (reachable : ReachableBy (ThreadPool.system workers User Task).recorded guard run) :
    Conserves run := by
  refine reachable.invariant Conserves ?_ ?_
  · rintro ⟨past, now⟩ ⟨rfl, rfl⟩
    exact ⟨fun _ => stage_empty, stage_empty, fun _ => stage_empty, fun _ => stage_empty⟩
  · intro run event after _ conserves _ step
    obtain ⟨taken, past⟩ := recorded_step step
    have moved := poolStep_cases taken
    constructor
    · intro caller
      rw [past, filterMap_recorded, filterMap_recorded, ownedBy_append, ownedBy_append]
      exact (conserves.adding caller).step (added_step moved caller)
    · rw [past, tasksIn, tasksIn, filterMap_recorded, filterMap_recorded, List.map_append,
        List.map_append]
      exact conserves.queued.step (queued_step moved)
    · intro w
      rw [past, filterMap_recorded, filterMap_recorded, ownedBy_append, ownedBy_append]
      exact (conserves.taken w).step (taken_step moved w)
    · intro w
      rw [past, filterMap_recorded, filterMap_recorded, ownedBy_append, ownedBy_append]
      exact (conserves.running w).step (runs_step moved w)

/-- No thread is in the middle of anything, and the queue is empty. -/
structure ThreadPool.Finished (pool : ThreadPool workers User Task) : Prop where
  exited : ∀ w, pool.workers_ w = .exited
  idle : ∀ caller, pool.adding caller = .idle
  drained : pool.tasks_ = []

omit [DecidableEq User] in
/-- When the destructor returns every worker has left, so no thread is in the middle of a task, and
nothing is in the queue. -/
theorem returned_finished {pool : ThreadPool workers User Task} (sound : pool.Sound)
    (draining : pool.Draining) (returned : pool.destructor = .returned) : pool.Finished := by
  have exited (w : Fin workers) : pool.workers_ w = .exited :=
    draining.joined w (by rw [returned]; exact w.isLt)
  refine ⟨exited, fun caller => ?_, ?_⟩
  · cases caller with
    | worker w => exact sound.outside fun task => by simp [exited w]
    | user t =>
      by_contra adding
      have before := draining.outside t adding
      rw [returned] at before
      cases before
  · by_contra pending
    obtain ⟨w, there⟩ := draining.obliged pending
    exact there (exited w)

/-- Tasks leave the queue in the order they have entered it, none is called twice, and when the
destructor returns the queue is empty and every task whose `addTask` has returned normally has been
called and has run to its end, exactly once. -/
theorem pool_drains (positive : 0 < workers)
    {run : Recorded (ThreadPool workers User Task) (PoolEvent workers User Task)}
    (reachable : ReachableBy (ThreadPool.system workers User Task).recorded
      (fun run event => addedBefore run.now event) run) :
    tasksIn PoolRecord.dequeues run.past <+: tasksIn PoolRecord.enqueues run.past ∧
      (tasksIn PoolRecord.calls run.past).Subperm (tasksIn PoolRecord.enqueues run.past) ∧
      (run.now.destructor = .returned → run.now.tasks_ = [] ∧
        (tasksIn PoolRecord.calls run.past).Perm (tasksIn PoolRecord.addReturns run.past) ∧
        (tasksIn PoolRecord.ends run.past).Perm (tasksIn PoolRecord.addReturns run.past)) := by
  have conserves := reachable_conserves reachable
  have now : ReachableBy (ThreadPool.system workers User Task) addedBefore run.now :=
    reachable.now fun _ _ permitted => permitted
  have ordered := conserves.queued.in_order
  refine ⟨ordered, ?_, fun returned => ?_⟩
  · obtain ⟨same, permuted, within⟩ := subperm_of_stages conserves.taken
    have taken : (tasksIn PoolRecord.calls run.past).Subperm
        (tasksIn PoolRecord.dequeues run.past) :=
      ⟨same.map Prod.snd, permuted.map Prod.snd, within.map Prod.snd⟩
    exact taken.trans ordered.sublist.subperm
  · obtain ⟨exited, idle, drained⟩ :=
      returned_finished (reachable_sound now) (reachable_draining positive now) returned
    have called : (tasksIn PoolRecord.calls run.past).Perm
        (tasksIn PoolRecord.dequeues run.past) := by
      refine (perm_of_stages fun w => ?_).map Prod.snd
      simpa only [exited w, WorkerLoop.taken] using conserves.taken w
    have ended : (tasksIn PoolRecord.ends run.past).Perm (tasksIn PoolRecord.calls run.past) := by
      refine (perm_of_stages fun w => ?_).map Prod.snd
      simpa only [exited w, WorkerLoop.runs] using conserves.running w
    have added : (tasksIn PoolRecord.addReturns run.past).Perm
        (tasksIn PoolRecord.enqueues run.past) := by
      refine (perm_of_stages fun caller => ?_).map Prod.snd
      simpa only [idle caller, AddTask.added] using conserves.adding caller
    have emptied : tasksIn PoolRecord.dequeues run.past = tasksIn PoolRecord.enqueues run.past := by
      have queued : tasksIn PoolRecord.dequeues run.past ++ run.now.tasks_ =
        tasksIn PoolRecord.enqueues run.past := conserves.queued
      rwa [drained, List.append_nil] at queued
    have every : (tasksIn PoolRecord.calls run.past).Perm
        (tasksIn PoolRecord.addReturns run.past) := called.trans (emptied ▸ added.symm)
    exact ⟨drained, every, ended.trans every⟩

end Pool

/-- A thread adds two tasks. The worker that takes the second calls it first, and the task adds
another one, which the worker runs when the destructor has begun. -/
def crossedRun (first second : Fin 2) : List (PoolEvent 2 Unit Nat) :=
  .addTask (.user ()) 10 :: List.replicate 4 (.add (.user ()) none) ++
  .addTask (.user ()) 20 :: List.replicate 4 (.add (.user ()) none) ++
  List.replicate 6 (.work first) ++ List.replicate 7 (.work second) ++
  [.work first, .addTask (.worker second) 30] ++
  List.replicate 3 (.add (.worker second) none) ++
  [.destroy, .add (.worker second) none, .destroy, .taskReturns second] ++
  List.replicate 8 (.work second) ++ [.taskReturns second, .work second, .work second] ++
  [.taskReturns first, .work first, .work first] ++ List.replicate 3 .destroy

theorem pool_drains_crossed :
    ∃ run : Recorded (ThreadPool 2 Unit Nat) (PoolEvent 2 Unit Nat),
      tasksIn PoolRecord.calls run.past = [20, 10, 30] ∧
        [10, 20, 30] <+: tasksIn PoolRecord.enqueues run.past ∧
        (tasksIn PoolRecord.calls run.past).Subperm (tasksIn PoolRecord.enqueues run.past) ∧
        run.now.tasks_ = [] ∧
        (tasksIn PoolRecord.ends run.past).Perm (tasksIn PoolRecord.addReturns run.past) := by
  have drained : ∃ run, ReachableBy (ThreadPool.system 2 Unit Nat).recorded
      (fun run event => addedBefore run.now event) run ∧ run.now.destructor = .returned ∧
        tasksIn PoolRecord.calls run.past = [20, 10, 30] ∧
          tasksIn PoolRecord.dequeues run.past = [10, 20, 30] :=
    exists_of_replay (initial_recorded rfl) (crossedRun 0 1) (by decide)
  obtain ⟨run, reachable, returned, called, taken⟩ := drained
  obtain ⟨ordered, once, finished⟩ := pool_drains Nat.two_pos reachable
  obtain ⟨empty, -, ran⟩ := finished returned
  exact ⟨run, called, taken ▸ ordered, once, empty, ran⟩

end MultiReactor
