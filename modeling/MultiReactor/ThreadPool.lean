/-
This file models the legacy `ThreadPool` (ThreadPool.h, ThreadPool.cpp): its
workers, the threads and tasks that call `addTask`, and its destructor, each a
sequence of atomic steps, so that every interleaving is a run. `stop_` and
`tasks_` are read in separate steps. The mutex is held by the thread that has
locked it; a worker that waits releases it and enters the wait set of
`condition_` in one step, which is what `wait` guarantees, and it may wake up
without a notification. A task is opaque: while it runs it may call `addTask`
any number of times, and it returns or not as it likes.
-/

import Mathlib.Data.Fintype.Sum
import Mathlib.Logic.Function.Basic
import Mathlib.Tactic.DeriveFintype
import MultiReactor.Transition

namespace MultiReactor

open Transition

/-! ### Where a thread stands -/

/-- Where a worker stands in `workerLoop`. -/
inductive WorkerLoop (Task : Type) where
  /-- at `!stop_` in the test of the loop -/
  | testStop
  /-- at `!tasks_.empty()` there, which no lock protects -/
  | testEmpty
  /-- at the construction of `lock` -/
  | lock
  /-- at `stop_` in the predicate of `wait` -/
  | waitStop
  /-- at `!tasks_.empty()` there -/
  | waitEmpty
  /-- the predicate was false, and the worker is about to wait -/
  | block
  /-- in the wait set of `condition_` -/
  | waiting
  /-- woken, and about to lock the mutex again -/
  | relock
  /-- at `stop_` in the test whether to return -/
  | returnStop
  /-- at `tasks_.empty()` there -/
  | returnEmpty
  /-- about to take the front of the queue -/
  | pop
  /-- at the call of the task -/
  | call (task : Task)
  | running (task : Task)
  | exited
  deriving DecidableEq

/-- Who calls `addTask`: a task that a worker runs, or another thread. -/
inductive Caller (workers : Nat) (User : Type) where
  | worker (w : Fin workers)
  | user (t : User)
  deriving DecidableEq, Fintype

/-- Where a thread stands in `addTask`. -/
inductive AddTask (Task : Type) where
  /-- outside -/
  | idle
  /-- at `if(stop_)` -/
  | testStop (task : Task)
  /-- at the construction of `lock` -/
  | lock (task : Task)
  /-- about to push the task -/
  | emplace (task : Task)
  /-- at `condition_.notify_one()` -/
  | notify (task : Task)
  deriving DecidableEq

/-- Where the thread that destroys the pool stands in `~ThreadPool`. -/
inductive Destructor where
  | before
  /-- at `condition_.notify_all()` -/
  | notifyAll
  /-- joining, with so many workers joined -/
  | join (joined : Nat)
  | returned
  deriving DecidableEq

/-! ### The pool -/

/-- The data members of `ThreadPool`, who holds the mutex and where every thread stands. -/
structure ThreadPool (workers : Nat) (User Task : Type) where
  stop_ : Bool
  tasks_ : List Task
  queue_mutex_ : Option (Caller workers User)
  workers_ : Fin workers → WorkerLoop Task
  adding : Caller workers User → AddTask Task
  destructor : Destructor

/-- What happens next. -/
inductive PoolEvent (workers : Nat) (User Task : Type) where
  /-- a worker moves on in `workerLoop` -/
  | work (w : Fin workers)
  /-- a worker wakes up without a notification -/
  | wake (w : Fin workers)
  /-- the task a worker runs returns -/
  | taskReturns (w : Fin workers)
  | addTask (caller : Caller workers User) (task : Task)
  /-- a thread moves on in `addTask`; `woken` is the worker `notify_one` wakes -/
  | add (caller : Caller workers User) (woken : Option (Fin workers))
  /-- `~ThreadPool` moves on -/
  | destroy
  deriving DecidableEq

section Pool

variable {workers : Nat} {User Task : Type}

/-- The pool when its constructor has returned. A worker that has not begun by then begins later. -/
def ThreadPool.constructed (workers : Nat) (User Task : Type) : ThreadPool workers User Task :=
  { stop_ := false, tasks_ := [], queue_mutex_ := none, workers_ := fun _ => .testStop,
    adding := fun _ => .idle, destructor := .before }

def ThreadPool.setWorker (pool : ThreadPool workers User Task) (w : Fin workers)
    (place : WorkerLoop Task) : ThreadPool workers User Task :=
  { pool with workers_ := Function.update pool.workers_ w place }

def ThreadPool.unlock (pool : ThreadPool workers User Task) : ThreadPool workers User Task :=
  { pool with queue_mutex_ := none }

/-- `wait` has returned to a worker in the wait set, which still needs the mutex. -/
def WorkerLoop.notified : WorkerLoop Task → WorkerLoop Task
  | .waiting => .relock
  | place => place

def WorkerLoop.isWaiting : WorkerLoop Task → Bool
  | .waiting => true
  | _ => false

/-- A worker executes its next step in `workerLoop`. `front()` of an empty queue is undefined. -/
def ThreadPool.work (pool : ThreadPool workers User Task) (w : Fin workers) :
    Option (ThreadPool workers User Task) :=
  match pool.workers_ w with
  | .testStop => some (pool.setWorker w (if pool.stop_ then .testEmpty else .lock))
  | .testEmpty => some (pool.setWorker w (if pool.tasks_.isEmpty then .exited else .lock))
  | .lock | .relock =>
    if pool.queue_mutex_.isNone then
      some ({ pool with queue_mutex_ := some (.worker w) }.setWorker w .waitStop)
    else none
  | .waitStop => some (pool.setWorker w (if pool.stop_ then .returnStop else .waitEmpty))
  | .waitEmpty => some (pool.setWorker w (if pool.tasks_.isEmpty then .block else .returnStop))
  | .block => some (pool.unlock.setWorker w .waiting)
  | .waiting => none
  | .returnStop => some (pool.setWorker w (if pool.stop_ then .returnEmpty else .pop))
  | .returnEmpty =>
    some (if pool.tasks_.isEmpty then pool.unlock.setWorker w .exited else pool.setWorker w .pop)
  | .pop => match pool.tasks_ with
    | [] => none
    | task :: rest => some ({ pool with tasks_ := rest }.unlock.setWorker w (.call task))
  | .call task => some (pool.setWorker w (.running task))
  | .running _ => none
  | .exited => none

variable [DecidableEq User]

def ThreadPool.setAdding (pool : ThreadPool workers User Task) (caller : Caller workers User)
    (place : AddTask Task) : ThreadPool workers User Task :=
  { pool with adding := Function.update pool.adding caller place }

/-- Whether a caller is in a position to call `addTask`. -/
def ThreadPool.mayAdd (pool : ThreadPool workers User Task) : Caller workers User → Bool
  | .worker w => match pool.workers_ w with
    | .running _ => true
    | _ => false
  | .user _ => true

/-- `condition_.notify_one()`: it wakes a worker if one waits. -/
def ThreadPool.notifyOne (pool : ThreadPool workers User Task) :
    Option (Fin workers) → Option (ThreadPool workers User Task)
  | some w => if (pool.workers_ w).isWaiting then some (pool.setWorker w .relock) else none
  | none => if ∀ w, (pool.workers_ w).isWaiting = false then some pool else none

/-- A thread executes its next step in `addTask`. -/
def ThreadPool.add (pool : ThreadPool workers User Task) (caller : Caller workers User)
    (woken : Option (Fin workers)) : Option (ThreadPool workers User Task) :=
  match pool.adding caller with
  | .idle => none
  | .testStop task =>
    -- a stopped pool throws
    some (pool.setAdding caller (if pool.stop_ then .idle else .lock task))
  | .lock task =>
    if pool.queue_mutex_.isNone then
      some ({ pool with queue_mutex_ := some caller }.setAdding caller (.emplace task))
    else none
  | .emplace task =>
    some ({ pool with tasks_ := pool.tasks_ ++ [task] }.unlock.setAdding caller (.notify task))
  | .notify _ => (pool.notifyOne woken).map fun notified => notified.setAdding caller .idle

/-- `~ThreadPool` executes its next step. -/
def ThreadPool.destroy (pool : ThreadPool workers User Task) :
    Option (ThreadPool workers User Task) :=
  match pool.destructor with
  | .before => some { pool with stop_ := true, destructor := .notifyAll }
  | .notifyAll => some { pool with
      workers_ := fun w => (pool.workers_ w).notified, destructor := .join 0 }
  | .join joined =>
    if more : joined < workers then
      match pool.workers_ ⟨joined, more⟩ with
      | .exited => some { pool with destructor := .join (joined + 1) }
      | _ => none
    else some { pool with destructor := .returned }
  | .returned => none

/-- One step of the pool. -/
def ThreadPool.step (pool : ThreadPool workers User Task) :
    PoolEvent workers User Task → Option (ThreadPool workers User Task)
  | .work w => pool.work w
  | .wake w => if (pool.workers_ w).isWaiting then some (pool.setWorker w .relock) else none
  | .taskReturns w => match pool.workers_ w, pool.adding (.worker w) with
    | .running _, .idle => some (pool.setWorker w .testStop)
    | _, _ => none
  | .addTask caller task => match pool.adding caller with
    | .idle => if pool.mayAdd caller then some (pool.setAdding caller (.testStop task)) else none
    | _ => none
  | .add caller woken => pool.add caller woken
  | .destroy => pool.destroy

/-- The pool as a transition system. -/
def ThreadPool.system (workers : Nat) (User Task : Type) [DecidableEq User] :
    System (ThreadPool workers User Task) (PoolEvent workers User Task) where
  initial pool := pool = .constructed workers User Task
  step := ThreadPool.step

/-! ### What a step can do -/

/-- The tests and calls a worker makes without touching the queue or the mutex. -/
inductive WorkerMove (pool : ThreadPool workers User Task) :
    WorkerLoop Task → WorkerLoop Task → Prop where
  | running (running : pool.stop_ = false) : WorkerMove pool .testStop .lock
  | stopped (stopped : pool.stop_ = true) : WorkerMove pool .testStop .testEmpty
  | drained (drained : pool.tasks_ = []) : WorkerMove pool .testEmpty .exited
  | pending (pending : pool.tasks_ ≠ []) : WorkerMove pool .testEmpty .lock
  | waitStopped (stopped : pool.stop_ = true) : WorkerMove pool .waitStop .returnStop
  | waitRunning (running : pool.stop_ = false) : WorkerMove pool .waitStop .waitEmpty
  | waitPending (pending : pool.tasks_ ≠ []) : WorkerMove pool .waitEmpty .returnStop
  | waitDrained (drained : pool.tasks_ = []) : WorkerMove pool .waitEmpty .block
  | returnStopped (stopped : pool.stop_ = true) : WorkerMove pool .returnStop .returnEmpty
  | returnRunning (running : pool.stop_ = false) : WorkerMove pool .returnStop .pop
  | returnPending (pending : pool.tasks_ ≠ []) : WorkerMove pool .returnEmpty .pop
  | call (task : Task) : WorkerMove pool (.call task) (.running task)

/-- Every step, with its guard and its result. -/
inductive PoolStep (pool : ThreadPool workers User Task) :
    PoolEvent workers User Task → ThreadPool workers User Task → Prop where
  | move (w : Fin workers) (place : WorkerLoop Task)
      (move : WorkerMove pool (pool.workers_ w) place) :
      PoolStep pool (.work w) (pool.setWorker w place)
  | lock (w : Fin workers) (place : pool.workers_ w = .lock ∨ pool.workers_ w = .relock)
      (free : pool.queue_mutex_ = none) :
      PoolStep pool (.work w)
        ({ pool with queue_mutex_ := some (.worker w) }.setWorker w .waitStop)
  | block (w : Fin workers) (place : pool.workers_ w = .block) :
      PoolStep pool (.work w) (pool.unlock.setWorker w .waiting)
  | leave (w : Fin workers) (place : pool.workers_ w = .returnEmpty)
      (drained : pool.tasks_ = []) :
      PoolStep pool (.work w) (pool.unlock.setWorker w .exited)
  | pop (w : Fin workers) (task : Task) (rest : List Task) (place : pool.workers_ w = .pop)
      (front : pool.tasks_ = task :: rest) :
      PoolStep pool (.work w) ({ pool with tasks_ := rest }.unlock.setWorker w (.call task))
  | wake (w : Fin workers) (place : pool.workers_ w = .waiting) :
      PoolStep pool (.wake w) (pool.setWorker w .relock)
  | taskReturns (w : Fin workers) (task : Task) (place : pool.workers_ w = .running task)
      (outside : pool.adding (.worker w) = .idle) :
      PoolStep pool (.taskReturns w) (pool.setWorker w .testStop)
  | addTask (caller : Caller workers User) (task : Task) (outside : pool.adding caller = .idle)
      (may : pool.mayAdd caller = true) :
      PoolStep pool (.addTask caller task) (pool.setAdding caller (.testStop task))
  | throws (caller : Caller workers User) (woken : Option (Fin workers)) (task : Task)
      (place : pool.adding caller = .testStop task) (stopped : pool.stop_ = true) :
      PoolStep pool (.add caller woken) (pool.setAdding caller .idle)
  | passes (caller : Caller workers User) (woken : Option (Fin workers)) (task : Task)
      (place : pool.adding caller = .testStop task) (running : pool.stop_ = false) :
      PoolStep pool (.add caller woken) (pool.setAdding caller (.lock task))
  | lockAdd (caller : Caller workers User) (woken : Option (Fin workers)) (task : Task)
      (place : pool.adding caller = .lock task) (free : pool.queue_mutex_ = none) :
      PoolStep pool (.add caller woken)
        ({ pool with queue_mutex_ := some caller }.setAdding caller (.emplace task))
  | emplace (caller : Caller workers User) (woken : Option (Fin workers)) (task : Task)
      (place : pool.adding caller = .emplace task) :
      PoolStep pool (.add caller woken)
        ({ pool with tasks_ := pool.tasks_ ++ [task] }.unlock.setAdding caller (.notify task))
  | notify (caller : Caller workers User) (w : Fin workers) (task : Task)
      (place : pool.adding caller = .notify task) (waits : pool.workers_ w = .waiting) :
      PoolStep pool (.add caller (some w)) ((pool.setWorker w .relock).setAdding caller .idle)
  | notifyNone (caller : Caller workers User) (task : Task)
      (place : pool.adding caller = .notify task) (nobody : ∀ w, pool.workers_ w ≠ .waiting) :
      PoolStep pool (.add caller none) (pool.setAdding caller .idle)
  | stop (place : pool.destructor = .before) :
      PoolStep pool .destroy { pool with stop_ := true, destructor := .notifyAll }
  | notifyAll (place : pool.destructor = .notifyAll) :
      PoolStep pool .destroy { pool with
        workers_ := fun w => (pool.workers_ w).notified, destructor := .join 0 }
  | join (w : Fin workers) (place : pool.destructor = .join w)
      (exited : pool.workers_ w = .exited) :
      PoolStep pool .destroy { pool with destructor := .join (w + 1) }
  | returns (joined : Nat) (place : pool.destructor = .join joined) (all : workers ≤ joined) :
      PoolStep pool .destroy { pool with destructor := .returned }

theorem isWaiting_eq {place : WorkerLoop Task} : place.isWaiting = true ↔ place = .waiting := by
  cases place <;> simp [WorkerLoop.isWaiting]

theorem work_cases {pool after : ThreadPool workers User Task} {w : Fin workers}
    (step : pool.work w = some after) : PoolStep pool (.work w) after := by
  have moves {place next : WorkerLoop Task} (here : pool.workers_ w = place)
      (move : WorkerMove pool place next) : PoolStep pool (.work w) (pool.setWorker w next) :=
    .move w next (here ▸ move)
  have takes (here : pool.workers_ w = .lock ∨ pool.workers_ w = .relock)
      (step : (if pool.queue_mutex_.isNone then
        some ({ pool with queue_mutex_ := some (.worker w) }.setWorker w .waitStop) else none) =
          some after) : PoolStep pool (.work w) after := by
    split at step
    · rename_i free
      obtain rfl := Option.some.inj step
      exact .lock w here (Option.isNone_iff_eq_none.mp free)
    · cases step
  unfold ThreadPool.work at step
  split at step
  · rename_i place
    obtain rfl := Option.some.inj step
    split
    · rename_i stopped
      exact moves place (.stopped stopped)
    · rename_i running
      exact moves place (.running (Bool.eq_false_iff.mpr running))
  · rename_i place
    obtain rfl := Option.some.inj step
    split
    · rename_i drained
      exact moves place (.drained (List.isEmpty_iff.mp drained))
    · rename_i pending
      exact moves place (.pending (mt List.isEmpty_iff.mpr pending))
  · rename_i place
    exact takes (.inl place) step
  · rename_i place
    exact takes (.inr place) step
  · rename_i place
    obtain rfl := Option.some.inj step
    split
    · rename_i stopped
      exact moves place (.waitStopped stopped)
    · rename_i running
      exact moves place (.waitRunning (Bool.eq_false_iff.mpr running))
  · rename_i place
    obtain rfl := Option.some.inj step
    split
    · rename_i drained
      exact moves place (.waitDrained (List.isEmpty_iff.mp drained))
    · rename_i pending
      exact moves place (.waitPending (mt List.isEmpty_iff.mpr pending))
  · rename_i place
    obtain rfl := Option.some.inj step
    exact .block w place
  · cases step
  · rename_i place
    obtain rfl := Option.some.inj step
    split
    · rename_i stopped
      exact moves place (.returnStopped stopped)
    · rename_i running
      exact moves place (.returnRunning (Bool.eq_false_iff.mpr running))
  · rename_i place
    obtain rfl := Option.some.inj step
    split
    · rename_i drained
      exact .leave w place (List.isEmpty_iff.mp drained)
    · rename_i pending
      exact moves place (.returnPending (mt List.isEmpty_iff.mpr pending))
  · rename_i place
    split at step
    · cases step
    · rename_i task rest front
      obtain rfl := Option.some.inj step
      exact .pop w task rest place front
  · rename_i task place
    obtain rfl := Option.some.inj step
    exact moves place (.call task)
  · cases step
  · cases step

theorem notifyOne_cases {pool after : ThreadPool workers User Task}
    {caller : Caller workers User} {woken : Option (Fin workers)} {task : Task}
    (place : pool.adding caller = .notify task)
    (step : (pool.notifyOne woken).map (fun notified => notified.setAdding caller .idle) =
      some after) : PoolStep pool (.add caller woken) after := by
  obtain ⟨notified, woke, rfl⟩ := Option.map_eq_some_iff.mp step
  unfold ThreadPool.notifyOne at woke
  split at woke
  · rename_i w
    split at woke
    · rename_i waits
      obtain rfl := Option.some.inj woke
      exact .notify caller w task place (isWaiting_eq.mp waits)
    · cases woke
  · split at woke
    · rename_i nobody
      obtain rfl := Option.some.inj woke
      exact .notifyNone caller task place fun w waits =>
        Bool.false_ne_true ((nobody w).symm.trans (isWaiting_eq.mpr waits))
    · cases woke

theorem add_cases {pool after : ThreadPool workers User Task} {caller : Caller workers User}
    {woken : Option (Fin workers)} (step : pool.add caller woken = some after) :
    PoolStep pool (.add caller woken) after := by
  unfold ThreadPool.add at step
  split at step
  · cases step
  · rename_i task place
    obtain rfl := Option.some.inj step
    split
    · rename_i stopped
      exact .throws caller woken task place stopped
    · rename_i running
      exact .passes caller woken task place (Bool.eq_false_iff.mpr running)
  · rename_i task place
    split at step
    · rename_i free
      obtain rfl := Option.some.inj step
      exact .lockAdd caller woken task place (Option.isNone_iff_eq_none.mp free)
    · cases step
  · rename_i task place
    obtain rfl := Option.some.inj step
    exact .emplace caller woken task place
  · rename_i task place
    exact notifyOne_cases place step

theorem destroy_cases {pool after : ThreadPool workers User Task}
    (step : pool.destroy = some after) : PoolStep pool .destroy after := by
  unfold ThreadPool.destroy at step
  split at step
  · rename_i place
    obtain rfl := Option.some.inj step
    exact .stop place
  · rename_i place
    obtain rfl := Option.some.inj step
    exact .notifyAll place
  · rename_i joined place
    split at step
    · rename_i more
      split at step
      · rename_i exited
        obtain rfl := Option.some.inj step
        exact .join ⟨joined, more⟩ place exited
      · cases step
    · rename_i all
      obtain rfl := Option.some.inj step
      exact .returns joined place (Nat.le_of_not_lt all)
  · cases step

/-- The inversion of the step function. -/
theorem poolStep_cases {pool after : ThreadPool workers User Task}
    {event : PoolEvent workers User Task} (step : pool.step event = some after) :
    PoolStep pool event after := by
  cases event with
  | work w => exact work_cases step
  | wake w =>
    simp only [ThreadPool.step] at step
    split at step
    · rename_i waits
      obtain rfl := Option.some.inj step
      exact .wake w (isWaiting_eq.mp waits)
    · cases step
  | taskReturns w =>
    simp only [ThreadPool.step] at step
    split at step
    · rename_i task place outside
      obtain rfl := Option.some.inj step
      exact .taskReturns w task place outside
    · cases step
  | addTask caller task =>
    simp only [ThreadPool.step] at step
    split at step
    · rename_i outside
      split at step
      · rename_i may
        obtain rfl := Option.some.inj step
        exact .addTask caller task outside may
      · cases step
    · cases step
  | add caller woken => exact add_cases step
  | destroy => exact destroy_cases step

end Pool

end MultiReactor
