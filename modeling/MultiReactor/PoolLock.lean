/-
This file proves what the mutex of the legacy `ThreadPool` gives in every run.
A step is read off thread by thread: what it does to one worker, to one call of
`addTask` and to the queue. The mutex then keeps the queue as it is while a
worker inside looks at it, so that a worker which takes a task has found one, and one
that goes to wait has found none. From the latter follows that no task is
stranded: while there is one, some worker is awake or some notification ahead.
-/

import MultiReactor.Mutex
import MultiReactor.ThreadPool

namespace MultiReactor

open Transition

section Pool

variable {workers : Nat} {User Task : Type}

@[simp, grind =] theorem unlock_workers (pool : ThreadPool workers User Task) (w : Fin workers) :
    pool.unlock.workers_ w = pool.workers_ w := rfl

@[simp, grind =] theorem unlock_adding (pool : ThreadPool workers User Task)
    (caller : Caller workers User) : pool.unlock.adding caller = pool.adding caller := rfl

@[simp, grind =] theorem setWorker_workers (pool : ThreadPool workers User Task)
    (w other : Fin workers) (place : WorkerLoop Task) :
    (pool.setWorker w place).workers_ other = if other = w then place else pool.workers_ other :=
  Function.update_apply pool.workers_ w place other

@[simp, grind =] theorem setWorker_adding (pool : ThreadPool workers User Task) (w : Fin workers)
    (place : WorkerLoop Task) (caller : Caller workers User) :
    (pool.setWorker w place).adding caller = pool.adding caller := rfl

@[simp, grind =] theorem setWorker_tasks (pool : ThreadPool workers User Task) (w : Fin workers)
    (place : WorkerLoop Task) : (pool.setWorker w place).tasks_ = pool.tasks_ := rfl

@[simp, grind =] theorem setWorker_stop (pool : ThreadPool workers User Task) (w : Fin workers)
    (place : WorkerLoop Task) : (pool.setWorker w place).stop_ = pool.stop_ := rfl

@[simp, grind =] theorem setWorker_destructor (pool : ThreadPool workers User Task)
    (w : Fin workers) (place : WorkerLoop Task) :
    (pool.setWorker w place).destructor = pool.destructor := rfl

/-! ### The mutex -/

/-- Whether a worker here holds the mutex. -/
def WorkerLoop.holdsLock : WorkerLoop Task → Bool
  | .waitStop | .waitEmpty | .block | .returnStop | .returnEmpty | .pop => true
  | _ => false

/-- Whether a thread here holds the mutex. -/
def AddTask.holdsLock : AddTask Task → Bool
  | .emplace _ => true
  | _ => false

/-- Whether a thread is inside a critical section. -/
def ThreadPool.inside (pool : ThreadPool workers User Task) (caller : Caller workers User) : Bool :=
  (match caller with
    | .worker w => (pool.workers_ w).holdsLock
    | .user _ => false) || (pool.adding caller).holdsLock

/-- What holds of the pool between any two steps. -/
structure ThreadPool.Sound (pool : ThreadPool workers User Task) : Prop where
  mutex : Mutex.Excludes pool.queue_mutex_ pool.inside
  /-- a worker adds tasks only from a task -/
  nested : ∀ w, pool.adding (.worker w) ≠ .idle → ∃ task, pool.workers_ w = .running task
  stopped : pool.stop_ = true ↔ pool.destructor ≠ .before
  /-- `wait` has returned for a reason -/
  returned : ∀ w, pool.workers_ w = .returnStop → pool.stop_ = true ∨ pool.tasks_ ≠ []
  /-- so there is a task to take -/
  front : ∀ w, pool.workers_ w = .pop → pool.tasks_ ≠ []

/-- A worker that runs no task is not inside `addTask`. -/
theorem ThreadPool.Sound.outside {pool : ThreadPool workers User Task} (sound : pool.Sound)
    {w : Fin workers} (elsewhere : ∀ task, pool.workers_ w ≠ .running task) :
    pool.adding (.worker w) = .idle := by
  by_contra adding
  obtain ⟨task, running⟩ := sound.nested w adding
  exact elsewhere task running

theorem inside_worker (pool : ThreadPool workers User Task) {w : Fin workers}
    (outside : pool.adding (.worker w) = .idle) :
    pool.inside (.worker w) = (pool.workers_ w).holdsLock := by
  simp [ThreadPool.inside, outside, AddTask.holdsLock]

theorem setWorker_self (pool : ThreadPool workers User Task) (w : Fin workers)
    (place : WorkerLoop Task) : (pool.setWorker w place).workers_ w = place := by
  simp [ThreadPool.setWorker]

theorem inside_setWorker {pool : ThreadPool workers User Task} {w : Fin workers}
    {caller : Caller workers User} (other : caller ≠ .worker w) (place : WorkerLoop Task) :
    (pool.setWorker w place).inside caller = pool.inside caller := by
  cases caller with
  | worker another =>
    have different : another ≠ w := fun same => other (congrArg _ same)
    simp [ThreadPool.inside, ThreadPool.setWorker, different]
  | user _ => rfl

theorem inside_setWorker_self {pool : ThreadPool workers User Task} {w : Fin workers}
    {place : WorkerLoop Task} (same : place.holdsLock = (pool.workers_ w).holdsLock)
    (caller : Caller workers User) :
    (pool.setWorker w place).inside caller = pool.inside caller := by
  by_cases it : caller = .worker w
  · subst it
    simp [ThreadPool.inside, ThreadPool.setWorker, same]
  · exact inside_setWorker it place

theorem WorkerMove.holdsLock {pool : ThreadPool workers User Task} {here next : WorkerLoop Task}
    (move : WorkerMove pool here next) : next.holdsLock = here.holdsLock := by
  cases move <;> rfl

theorem notified_holdsLock (place : WorkerLoop Task) :
    place.notified.holdsLock = place.holdsLock := by
  cases place <;> rfl

theorem sound_constructed : (ThreadPool.constructed workers User Task).Sound := by
  refine ⟨fun caller => ?_, ?_, ?_, ?_, ?_⟩
  · cases caller <;>
      simp [ThreadPool.constructed, ThreadPool.inside, WorkerLoop.holdsLock, AddTask.holdsLock]
  all_goals simp [ThreadPool.constructed]

/-- A worker whose step moves it out of the mutex leaves it free. -/
theorem ThreadPool.Sound.unlocks {pool : ThreadPool workers User Task} (sound : pool.Sound)
    {w : Fin workers} {place : WorkerLoop Task} (held : (pool.workers_ w).holdsLock = true)
    (left : place.holdsLock = false) (elsewhere : ∀ task, pool.workers_ w ≠ .running task) :
    Mutex.Excludes none (pool.setWorker w place).inside := by
  have outside := sound.outside elsewhere
  refine sound.mutex.unlock ((inside_worker pool outside).trans held) ?_
    fun other different => inside_setWorker different place
  exact (inside_worker (pool.setWorker w place) outside).trans (by rw [setWorker_self, left])

variable [DecidableEq User]

@[simp, grind =] theorem setAdding_adding (pool : ThreadPool workers User Task)
    (adder caller : Caller workers User) (place : AddTask Task) :
    (pool.setAdding adder place).adding caller =
      if caller = adder then place else pool.adding caller :=
  Function.update_apply pool.adding adder place caller

@[simp, grind =] theorem setAdding_workers (pool : ThreadPool workers User Task)
    (adder : Caller workers User) (place : AddTask Task) (w : Fin workers) :
    (pool.setAdding adder place).workers_ w = pool.workers_ w := rfl

@[simp, grind =] theorem setAdding_tasks (pool : ThreadPool workers User Task)
    (adder : Caller workers User) (place : AddTask Task) :
    (pool.setAdding adder place).tasks_ = pool.tasks_ := rfl

@[simp, grind =] theorem setAdding_stop (pool : ThreadPool workers User Task)
    (adder : Caller workers User) (place : AddTask Task) :
    (pool.setAdding adder place).stop_ = pool.stop_ := rfl

@[simp, grind =] theorem setAdding_destructor (pool : ThreadPool workers User Task)
    (adder : Caller workers User) (place : AddTask Task) :
    (pool.setAdding adder place).destructor = pool.destructor := rfl

theorem inside_setAdding {pool : ThreadPool workers User Task} {adder caller : Caller workers User}
    (other : caller ≠ adder) (place : AddTask Task) :
    (pool.setAdding adder place).inside caller = pool.inside caller := by
  simp [ThreadPool.inside, ThreadPool.setAdding, other]

theorem inside_setAdding_self {pool : ThreadPool workers User Task} {adder : Caller workers User}
    {place : AddTask Task} (same : place.holdsLock = (pool.adding adder).holdsLock)
    (caller : Caller workers User) :
    (pool.setAdding adder place).inside caller = pool.inside caller := by
  by_cases it : caller = adder
  · subst it
    simp [ThreadPool.inside, ThreadPool.setAdding, same]
  · exact inside_setAdding it place

theorem mutex_step {pool after : ThreadPool workers User Task}
    {event : PoolEvent workers User Task} (sound : pool.Sound) (step : PoolStep pool event after) :
    Mutex.Excludes after.queue_mutex_ after.inside := by
  cases step with
  | move w place move => exact sound.mutex.keep (inside_setWorker_self move.holdsLock)
  | lock w place free =>
    have outside : pool.adding (.worker w) = .idle := sound.outside fun task running => by
      rcases place with place | place <;> rw [place] at running <;> cases running
    have mutex := sound.mutex
    rw [free] at mutex
    refine mutex.lock ?_ fun other different => inside_setWorker different .waitStop
    exact (inside_worker (pool.setWorker w .waitStop) outside).trans
      (by rw [setWorker_self]; rfl)
  | block w place => exact sound.unlocks (by rw [place]; rfl) rfl (by simp [place])
  | leave w place drained => exact sound.unlocks (by rw [place]; rfl) rfl (by simp [place])
  | pop w task rest place front => exact sound.unlocks (by rw [place]; rfl) rfl (by simp [place])
  | wake w place => exact sound.mutex.keep (inside_setWorker_self (by rw [place]; rfl))
  | taskReturns w task place outside =>
    exact sound.mutex.keep (inside_setWorker_self (by rw [place]; rfl))
  | addTask adder task outside may =>
    exact sound.mutex.keep (inside_setAdding_self (by rw [outside]; rfl))
  | throws adder woken task place stopped =>
    exact sound.mutex.keep (inside_setAdding_self (by rw [place]; rfl))
  | passes adder woken task place running =>
    exact sound.mutex.keep (inside_setAdding_self (by rw [place]; rfl))
  | lockAdd adder woken task place free =>
    have mutex := sound.mutex
    rw [free] at mutex
    refine mutex.lock ?_ fun other different => inside_setAdding different (.emplace task)
    simp [ThreadPool.inside, ThreadPool.setAdding, AddTask.holdsLock]
  | emplace adder woken task place =>
    have within : pool.inside adder = true := by simp [ThreadPool.inside, place, AddTask.holdsLock]
    refine sound.mutex.unlock within ?_
      fun other different => inside_setAdding different (.notify task)
    cases adder with
    | worker w =>
      obtain ⟨running, here⟩ := sound.nested w (by rw [place]; simp)
      simp [ThreadPool.inside, ThreadPool.setAdding, ThreadPool.unlock, here,
        WorkerLoop.holdsLock, AddTask.holdsLock]
    | user t => simp [ThreadPool.inside, ThreadPool.setAdding, AddTask.holdsLock]
  | notify adder w task place waits =>
    have woken : Mutex.Excludes pool.queue_mutex_ (pool.setWorker w .relock).inside :=
      sound.mutex.keep (inside_setWorker_self (by rw [waits]; rfl))
    exact woken.keep (inside_setAdding_self (by
      show AddTask.holdsLock .idle = (pool.adding adder).holdsLock
      rw [place]; rfl))
  | notifyNone adder task place nobody =>
    exact sound.mutex.keep (inside_setAdding_self (by rw [place]; rfl))
  | stop => exact sound.mutex
  | notifyAll =>
    refine sound.mutex.keep fun thread => ?_
    cases thread <;> simp [ThreadPool.inside, notified_holdsLock]
  | join => exact sound.mutex
  | returns => exact sound.mutex

/-- What a step does to one worker. -/
inductive WorkerStep (pool : ThreadPool workers User Task) (w : Fin workers) :
    WorkerLoop Task → WorkerLoop Task → Prop where
  | move {here next : WorkerLoop Task} (move : WorkerMove pool here next) :
      WorkerStep pool w here next
  | lock (free : pool.queue_mutex_ = none) : WorkerStep pool w .lock .waitStop
  | relock (free : pool.queue_mutex_ = none) : WorkerStep pool w .relock .waitStop
  | block : WorkerStep pool w .block .waiting
  | leave (drained : pool.tasks_ = []) : WorkerStep pool w .returnEmpty .exited
  | pop (task : Task) : WorkerStep pool w .pop (.call task)
  | wake : WorkerStep pool w .waiting .relock
  | taskReturns (task : Task) (outside : pool.adding (.worker w) = .idle) :
      WorkerStep pool w (.running task) .testStop

/-- A step leaves a worker where it stands or moves it on. -/
theorem worker_step {pool after : ThreadPool workers User Task}
    {event : PoolEvent workers User Task} (step : PoolStep pool event after) (w : Fin workers) :
    after.workers_ w = pool.workers_ w ∨
      WorkerStep pool w (pool.workers_ w) (after.workers_ w) := by
  have moves {mover : Fin workers} {place : WorkerLoop Task} {next : ThreadPool workers User Task}
      (set : ∀ other, next.workers_ other = if other = mover then place else pool.workers_ other)
      (moved : WorkerStep pool mover (pool.workers_ mover) place) :
      next.workers_ w = pool.workers_ w ∨
        WorkerStep pool w (pool.workers_ w) (next.workers_ w) := by
    rw [set]
    split
    · rename_i it
      subst it
      exact .inr moved
    · exact .inl rfl
  cases step with
  | move mover place move => exact moves (setWorker_workers _ mover · place) (.move move)
  | lock mover place free =>
    refine moves (setWorker_workers _ mover · .waitStop) ?_
    rcases place with place | place <;> rw [place]
    · exact .lock free
    · exact .relock free
  | block mover place =>
    exact moves (setWorker_workers _ mover · .waiting) (by rw [place]; exact .block)
  | leave mover place drained =>
    exact moves (setWorker_workers _ mover · .exited) (by rw [place]; exact .leave drained)
  | pop mover task rest place front =>
    exact moves (setWorker_workers _ mover · (.call task)) (by rw [place]; exact .pop task)
  | wake mover place =>
    exact moves (setWorker_workers _ mover · .relock) (by rw [place]; exact .wake)
  | taskReturns mover task place outside =>
    refine moves (setWorker_workers _ mover · .testStop) ?_
    rw [place]
    exact .taskReturns task outside
  | notify caller mover task place waits =>
    exact moves (setWorker_workers _ mover · .relock) (by rw [waits]; exact .wake)
  | notifyAll =>
    show (pool.workers_ w).notified = _ ∨ WorkerStep pool w _ (pool.workers_ w).notified
    cases pool.workers_ w with
    | waiting => exact .inr .wake
    | _ => exact .inl rfl
  | _ => exact .inl rfl

/-- What a step does to one call of `addTask`. -/
inductive AddStep (pool : ThreadPool workers User Task) (caller : Caller workers User) :
    AddTask Task → AddTask Task → Prop where
  | begins (task : Task) (may : pool.mayAdd caller = true) :
      AddStep pool caller .idle (.testStop task)
  | throws (task : Task) (stopped : pool.stop_ = true) : AddStep pool caller (.testStop task) .idle
  | passes (task : Task) (running : pool.stop_ = false) :
      AddStep pool caller (.testStop task) (.lock task)
  | lock (task : Task) (free : pool.queue_mutex_ = none) :
      AddStep pool caller (.lock task) (.emplace task)
  | emplace (task : Task) : AddStep pool caller (.emplace task) (.notify task)
  | returns (task : Task) : AddStep pool caller (.notify task) .idle

/-- A step leaves a call of `addTask` where it stands or moves it on. -/
theorem adding_step {pool after : ThreadPool workers User Task}
    {event : PoolEvent workers User Task} (step : PoolStep pool event after)
    (caller : Caller workers User) :
    after.adding caller = pool.adding caller ∨
      AddStep pool caller (pool.adding caller) (after.adding caller) := by
  have moves {adder : Caller workers User} {place : AddTask Task}
      {next : ThreadPool workers User Task}
      (set : ∀ other, next.adding other = if other = adder then place else pool.adding other)
      (moved : AddStep pool adder (pool.adding adder) place) :
      next.adding caller = pool.adding caller ∨
        AddStep pool caller (pool.adding caller) (next.adding caller) := by
    rw [set]
    split
    · rename_i it
      subst it
      exact .inr moved
    · exact .inl rfl
  cases step with
  | addTask adder task outside may =>
    exact moves (setAdding_adding _ adder · (.testStop task))
      (by rw [outside]; exact .begins task may)
  | throws adder woken task place stopped =>
    exact moves (setAdding_adding _ adder · .idle) (by rw [place]; exact .throws task stopped)
  | passes adder woken task place running =>
    exact moves (setAdding_adding _ adder · (.lock task))
      (by rw [place]; exact .passes task running)
  | lockAdd adder woken task place free =>
    exact moves (setAdding_adding _ adder · (.emplace task)) (by rw [place]; exact .lock task free)
  | emplace adder woken task place =>
    exact moves (setAdding_adding _ adder · (.notify task)) (by rw [place]; exact .emplace task)
  | notify adder w task place waits =>
    exact moves (setAdding_adding _ adder · .idle) (by rw [place]; exact .returns task)
  | notifyNone adder task place nobody =>
    exact moves (setAdding_adding _ adder · .idle) (by rw [place]; exact .returns task)
  | _ => exact .inl rfl

/-- What a step does to the queue. -/
theorem tasks_step {pool after : ThreadPool workers User Task}
    {event : PoolEvent workers User Task} (step : PoolStep pool event after) :
    after.tasks_ = pool.tasks_ ∨
      (∃ caller task, pool.adding caller = .emplace task ∧ after.tasks_ = pool.tasks_ ++ [task]) ∨
      ∃ w task, pool.workers_ w = .pop ∧ after.workers_ w = .call task ∧
        pool.tasks_ = task :: after.tasks_ := by
  cases step with
  | pop w task rest place front =>
    exact .inr (.inr ⟨w, task, place, setWorker_self _ w (.call task), front⟩)
  | emplace caller woken task place => exact .inr (.inl ⟨caller, task, place, rfl⟩)
  | _ => exact .inl rfl

/-- A worker that holds the mutex keeps the queue as it is until it takes a task. -/
theorem ThreadPool.Sound.frozen {pool after : ThreadPool workers User Task}
    {event : PoolEvent workers User Task} (sound : pool.Sound) (step : PoolStep pool event after)
    {w : Fin workers} (held : (pool.workers_ w).holdsLock = true)
    (stays : ∀ task, after.workers_ w ≠ .call task) : after.tasks_ = pool.tasks_ := by
  have within : pool.inside (.worker w) = true := by simp [ThreadPool.inside, held]
  rcases tasks_step step with same | ⟨caller, task, place, _⟩ | ⟨other, task, place, took, _⟩
  · exact same
  · have caught : pool.inside caller = true := by
      simp [ThreadPool.inside, place, AddTask.holdsLock]
    obtain rfl := sound.mutex.alone within caught
    obtain ⟨running, here⟩ := sound.nested w (by rw [place]; simp)
    rw [here] at held
    cases held
  · have caught : pool.inside (.worker other) = true := by
      simp [ThreadPool.inside, place, WorkerLoop.holdsLock]
    obtain rfl : w = other := Caller.worker.inj (sound.mutex.alone within caught)
    exact absurd took (stays task)

/-- Only a call of `addTask` brings a thread inside, and it moves no worker. -/
theorem begins_step {pool after : ThreadPool workers User Task}
    {event : PoolEvent workers User Task} (step : PoolStep pool event after)
    {caller : Caller workers User} (outside : pool.adding caller = .idle)
    (adding : after.adding caller ≠ .idle) :
    pool.mayAdd caller = true ∧ after.workers_ = pool.workers_ ∧
      ∃ task, event = .addTask caller task := by
  cases step with
  | addTask adder task here may =>
    obtain rfl : caller = adder := by
      by_contra different
      exact adding (by rw [setAdding_adding, if_neg different, outside])
    exact ⟨may, rfl, task, rfl⟩
  | _ => exact absurd outside (by grind)

theorem nested_step {pool after : ThreadPool workers User Task}
    {event : PoolEvent workers User Task} (sound : pool.Sound) (step : PoolStep pool event after)
    (w : Fin workers) (adding : after.adding (.worker w) ≠ .idle) :
    ∃ task, after.workers_ w = .running task := by
  by_cases outside : pool.adding (.worker w) = .idle
  · obtain ⟨may, same, _⟩ := begins_step step outside adding
    rw [same]
    simp only [ThreadPool.mayAdd] at may
    split at may
    · exact ⟨_, ‹_›⟩
    · cases may
  · obtain ⟨task, running⟩ := sound.nested w outside
    rcases worker_step step w with same | moved
    · exact ⟨task, same.trans running⟩
    · generalize after.workers_ w = next at moved
      rw [running] at moved
      cases moved with
      | move move => cases move
      | taskReturns _ idle => exact absurd idle outside

/-- A stopped pool stays stopped. -/
theorem stop_lasts {pool after : ThreadPool workers User Task}
    {event : PoolEvent workers User Task} (step : PoolStep pool event after)
    (stopped : pool.stop_ = true) : after.stop_ = true := by
  cases step <;> first | exact stopped | rfl

/-- When `wait` returns there is a reason, and it lasts until the worker has acted on it. -/
theorem returned_step {pool after : ThreadPool workers User Task}
    {event : PoolEvent workers User Task} (sound : pool.Sound) (step : PoolStep pool event after)
    (w : Fin workers) (place : after.workers_ w = .returnStop) :
    after.stop_ = true ∨ after.tasks_ ≠ [] := by
  have lasting (held : (pool.workers_ w).holdsLock = true)
      (reason : pool.stop_ = true ∨ pool.tasks_ ≠ []) : after.stop_ = true ∨ after.tasks_ ≠ [] := by
    rw [sound.frozen step held (by simp [place])]
    exact reason.imp_left fun stopped => stop_lasts step stopped
  rcases worker_step step w with same | moved
  · rw [place] at same
    exact lasting (by rw [← same]; rfl) (sound.returned w same.symm)
  · generalize here : pool.workers_ w = before at moved
    rw [place] at moved
    cases moved with
    | move move =>
      cases move with
      | waitStopped stopped => exact lasting (by rw [here]; rfl) (.inl stopped)
      | waitPending pending => exact lasting (by rw [here]; rfl) (.inr pending)

/-- A worker about to take a task has found one, and holds the mutex since. -/
theorem front_step {pool after : ThreadPool workers User Task}
    {event : PoolEvent workers User Task} (sound : pool.Sound) (step : PoolStep pool event after)
    (w : Fin workers) (place : after.workers_ w = .pop) : after.tasks_ ≠ [] := by
  have lasting (held : (pool.workers_ w).holdsLock = true) (pending : pool.tasks_ ≠ []) :
      after.tasks_ ≠ [] := by
    rw [sound.frozen step held (by simp [place])]
    exact pending
  rcases worker_step step w with same | moved
  · rw [place] at same
    exact lasting (by rw [← same]; rfl) (sound.front w same.symm)
  · generalize here : pool.workers_ w = before at moved
    rw [place] at moved
    cases moved with
    | move move =>
      cases move with
      | returnRunning running =>
        refine lasting (by rw [here]; rfl) ((sound.returned w here).resolve_left ?_)
        rw [running]
        exact Bool.false_ne_true
      | returnPending pending => exact lasting (by rw [here]; rfl) pending

theorem sound_step {pool after : ThreadPool workers User Task}
    {event : PoolEvent workers User Task} (sound : pool.Sound) (step : PoolStep pool event after) :
    after.Sound where
  mutex := mutex_step sound step
  nested := nested_step sound step
  stopped := by
    have stopped := sound.stopped
    cases step <;> simp_all [ThreadPool.unlock]
  returned := returned_step sound step
  front := front_step sound step

/-- The pool keeps its mutual exclusion in every run. -/
theorem reachable_sound {guard : Guard (ThreadPool workers User Task) (PoolEvent workers User Task)}
    {pool : ThreadPool workers User Task}
    (reachable : ReachableBy (ThreadPool.system workers User Task) guard pool) : pool.Sound := by
  refine reachable.invariant ThreadPool.Sound ?_ fun _ _ _ _ sound _ step =>
    sound_step sound (poolStep_cases step)
  rintro pool rfl
  exact sound_constructed

/-! ### No stranded task -/

/-- A worker about to wait has found the queue empty, and holds the mutex since. -/
theorem drained_step {pool after : ThreadPool workers User Task}
    {event : PoolEvent workers User Task} (sound : pool.Sound) (step : PoolStep pool event after)
    (drained : ∀ w, pool.workers_ w = .block → pool.tasks_ = []) (w : Fin workers)
    (place : after.workers_ w = .block) : after.tasks_ = [] := by
  have lasting (held : (pool.workers_ w).holdsLock = true) (empty : pool.tasks_ = []) :
      after.tasks_ = [] := by
    rw [sound.frozen step held (by simp [place])]
    exact empty
  rcases worker_step step w with same | moved
  · rw [place] at same
    exact lasting (by rw [← same]; rfl) (drained w same.symm)
  · generalize here : pool.workers_ w = before at moved
    rw [place] at moved
    cases moved with
    | move move =>
      cases move with
      | waitDrained empty => exact lasting (by rw [here]; rfl) empty

theorem reachable_drained {pool : ThreadPool workers User Task}
    (reachable : Reachable (ThreadPool.system workers User Task) pool) (w : Fin workers)
    (place : pool.workers_ w = .block) : pool.tasks_ = [] := by
  refine reachable.invariant (fun pool => ∀ w, pool.workers_ w = .block → pool.tasks_ = []) ?_
    ?_ w place
  · rintro _ rfl w place
    cases place
  · intro pool event after before drained _ step
    exact drained_step (reachable_sound before) (poolStep_cases step) drained

/-- Some worker is outside the wait set, or some call of `addTask` that has enqueued its task has
not notified yet. -/
def ThreadPool.Covered (pool : ThreadPool workers User Task) : Prop :=
  (∃ w, pool.workers_ w ≠ .waiting) ∨ ∃ caller task, pool.adding caller = .notify task

omit [DecidableEq User] in
/-- A worker that is not waiting covers the queue. -/
theorem ThreadPool.Covered.of_worker {pool : ThreadPool workers User Task} {w : Fin workers}
    {place : WorkerLoop Task} (here : pool.workers_ w = place) (awake : place ≠ .waiting) :
    pool.Covered :=
  .inl ⟨w, here.trans_ne awake⟩

omit [DecidableEq User] in
theorem WorkerMove.awake {pool : ThreadPool workers User Task} {here next : WorkerLoop Task}
    (move : WorkerMove pool here next) : next ≠ .waiting := by
  cases move <;> exact nofun

/-- Moving on in `addTask` before the notification leaves the queue covered. -/
theorem ThreadPool.Covered.setAdding {pool : ThreadPool workers User Task}
    {caller : Caller workers User} {place : AddTask Task} (covered : pool.Covered)
    (unnotified : ∀ task, pool.adding caller ≠ .notify task) :
    (pool.setAdding caller place).Covered := by
  refine covered.imp_right ?_
  rintro ⟨other, task, notifies⟩
  have different : other ≠ caller := by
    rintro rfl
    exact unnotified task notifies
  exact ⟨other, task, by rw [setAdding_adding, if_neg different, notifies]⟩

/-- While there is a task, every step leaves the queue covered: the last worker goes to wait only
when there is none. -/
theorem covered_step (positive : 0 < workers) {pool after : ThreadPool workers User Task}
    {event : PoolEvent workers User Task} (step : PoolStep pool event after)
    (drained : ∀ w, pool.workers_ w = .block → pool.tasks_ = [])
    (covered : pool.tasks_ ≠ [] → pool.Covered) (pending : after.tasks_ ≠ []) : after.Covered := by
  cases step with
  | move w place move => exact .of_worker (setWorker_self pool w place) move.awake
  | lock w place free => exact .of_worker (setWorker_self _ w .waitStop) nofun
  | block w place => exact absurd (drained w place) pending
  | leave w place empty => exact absurd empty pending
  | pop w task rest place front => exact .of_worker (setWorker_self _ w (.call task)) nofun
  | wake w place => exact .of_worker (setWorker_self pool w .relock) nofun
  | taskReturns w task place outside => exact .of_worker (setWorker_self pool w .testStop) nofun
  | addTask caller task outside may =>
    exact (covered pending).setAdding fun task notifies => by
      rw [outside] at notifies
      cases notifies
  | throws caller woken task place stopped =>
    exact (covered pending).setAdding fun task notifies => by
      rw [place] at notifies
      cases notifies
  | passes caller woken task place running =>
    exact (covered pending).setAdding fun task notifies => by
      rw [place] at notifies
      cases notifies
  | lockAdd caller woken task place free =>
    have within : ThreadPool.Covered { pool with queue_mutex_ := some caller } := covered pending
    exact within.setAdding fun task notifies => by
      cases place.symm.trans notifies
  | emplace caller woken task place =>
    exact .inr ⟨caller, task, (setAdding_adding _ caller caller _).trans (if_pos rfl)⟩
  | notify caller w task place waits => exact .of_worker (setWorker_self pool w .relock) nofun
  | notifyNone caller task place nobody =>
    exact .of_worker (w := ⟨0, positive⟩) rfl (nobody _)
  | stop place => exact covered pending
  | notifyAll place =>
    refine .inl ⟨⟨0, positive⟩, ?_⟩
    show (pool.workers_ ⟨0, positive⟩).notified ≠ .waiting
    cases pool.workers_ ⟨0, positive⟩ <;> exact nofun
  | join w place exited => exact covered pending
  | returns place => exact covered pending

/-- No task is stranded: in every reachable state with a task in the queue some worker is outside
the wait set, or a call of `addTask` that has enqueued is still to notify. -/
theorem no_stranded_task (positive : 0 < workers) {pool : ThreadPool workers User Task}
    (reachable : Reachable (ThreadPool.system workers User Task) pool)
    (pending : pool.tasks_ ≠ []) :
    (∃ w, pool.workers_ w ≠ .waiting) ∨ ∃ caller task, pool.adding caller = .notify task := by
  refine reachable.invariant (fun pool => pool.tasks_ ≠ [] → pool.Covered) ?_ ?_ pending
  · rintro _ rfl pending
    exact absurd rfl pending
  · intro pool event after before covered _ step
    exact covered_step positive (poolStep_cases step) (reachable_drained before) covered

/-- The only worker waits, and the task has been enqueued. -/
theorem no_stranded_task_waiting : ∃ pool : ThreadPool 1 Unit Unit,
    pool.workers_ 0 = .waiting ∧
      ((∃ w, pool.workers_ w ≠ .waiting) ∨ ∃ caller task, pool.adding caller = .notify task) := by
  have enqueued : ∃ pool, Reachable (ThreadPool.system 1 Unit Unit) pool ∧
      pool.tasks_ ≠ [] ∧ pool.workers_ 0 = .waiting :=
    exists_of_replay rfl (List.replicate 5 (.work 0) ++ [.addTask (.user ()) ()] ++
      List.replicate 3 (.add (.user ()) none)) (by decide)
  obtain ⟨pool, reachable, pending, waiting⟩ := enqueued
  exact ⟨pool, waiting, no_stranded_task Nat.one_pos reachable pending⟩

end Pool

end MultiReactor
