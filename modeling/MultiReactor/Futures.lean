/-
This file models what `addTask` returns (ThreadPool.h): it wraps every task in a
`packaged_task` of its own, which stores what the task returns or throws in the
state it shares with the future. A task is told from the others by a number, and
the pool under it is the pool of `ThreadPool`. It then proves that every future
gets the result of its own task: each task has one whereabouts at a time, from
its `addTask` over the queue to the worker that calls it and to its result, so
no `packaged_task` is called twice, and when the destructor has returned every
future is ready.
-/

import MultiReactor.Custody
import MultiReactor.PoolDrain

namespace MultiReactor

open Transition

/-! ### The futures -/

/-- The pool with the shared states of its tasks and the futures `addTask` has returned. The tasks
made so far are those with a number below `made`. -/
structure FuturePool (workers : Nat) (User Result : Type) where
  pool : ThreadPool workers User Nat
  made : Nat
  results : Nat → Option Result
  futures : List Nat

/-- What happens next; a task returns with a value or an exception, which is all the same to the
`packaged_task` that runs it. -/
inductive FutureEvent (workers : Nat) (User Result : Type) where
  | work (w : Fin workers)
  | wake (w : Fin workers)
  | taskReturns (w : Fin workers) (result : Result)
  | addTask (caller : Caller workers User)
  | add (caller : Caller workers User) (woken : Option (Fin workers))
  | destroy

section Futures

variable {workers : Nat} {User Result : Type} [DecidableEq User]

def FuturePool.constructed (workers : Nat) (User Result : Type) :
    FuturePool workers User Result :=
  { pool := .constructed workers User Nat, made := 0, results := fun _ => none, futures := [] }

/-- The step of the pool. `addTask` makes a new task. -/
def FutureEvent.poolEvent (made : Nat) :
    FutureEvent workers User Result → PoolEvent workers User Nat
  | .work w => .work w
  | .wake w => .wake w
  | .taskReturns w _ => .taskReturns w
  | .addTask caller => .addTask caller made
  | .add caller woken => .add caller woken
  | .destroy => .destroy

/-- A worker has run a `packaged_task`, which stores the result. -/
def FuturePool.store (futures : FuturePool workers User Result) (w : Fin workers)
    (result : Result) : Nat → Option Result :=
  match futures.pool.workers_ w with
  | .running task => Function.update futures.results task (some result)
  | _ => futures.results

/-- `addTask` returns the future where it has notified. -/
def FuturePool.return (futures : FuturePool workers User Result)
    (caller : Caller workers User) : List Nat :=
  match futures.pool.adding caller with
  | .notify task => futures.futures ++ [task]
  | _ => futures.futures

/-- What becomes of the futures while the pool takes a step. -/
def FuturePool.after (futures : FuturePool workers User Result)
    (pool : ThreadPool workers User Nat) :
    FutureEvent workers User Result → FuturePool workers User Result
  | .work _ | .wake _ | .destroy => { futures with pool := pool }
  | .taskReturns w result => { futures with pool := pool, results := futures.store w result }
  | .addTask _ => { futures with pool := pool, made := futures.made + 1 }
  | .add caller _ => { futures with pool := pool, futures := futures.return caller }

def FuturePool.step (futures : FuturePool workers User Result)
    (event : FutureEvent workers User Result) : Option (FuturePool workers User Result) :=
  (futures.pool.step (event.poolEvent futures.made)).map fun pool => futures.after pool event

/-- The pool with its futures as a transition system. -/
def FuturePool.system (workers : Nat) (User Result : Type) [DecidableEq User] :
    System (FuturePool workers User Result) (FutureEvent workers User Result) where
  initial futures := futures = .constructed workers User Result
  step := FuturePool.step

/-- `addTask` is called as it should be. -/
def futuresBefore : Guard (FuturePool workers User Result) (FutureEvent workers User Result) :=
  fun futures event => addedBefore futures.pool (event.poolEvent futures.made)

instance [Fintype User] (futures : FuturePool workers User Result)
    (event : FutureEvent workers User Result) : Decidable (futuresBefore futures event) :=
  match event with
  | .addTask (.user _) =>
    decidable_of_iff (futures.pool.destructor = .before)
      ⟨fun before => ⟨fun _ _ _ => before, fun same => by cases same⟩, fun both => both.1 _ _ rfl⟩
  | .destroy =>
    decidable_of_iff (futures.pool.destructor = .before →
        ∀ t, futures.pool.adding (.user t) = .idle)
      ⟨fun idle => ⟨(fun _ _ same => by cases same), fun _ => idle⟩, fun both => both.2 rfl⟩
  | .addTask (.worker _) | .work _ | .wake _ | .taskReturns _ _ | .add _ _ =>
    isTrue ⟨(fun _ _ same => by cases same), fun same => by cases same⟩

/-- What the pool with its futures reaches, the pool reaches. -/
theorem reachable_pool {futures : FuturePool workers User Result}
    (reachable : ReachableBy (FuturePool.system workers User Result) futuresBefore futures) :
    ReachableBy (ThreadPool.system workers User Nat) addedBefore futures.pool := by
  induction reachable with
  | start initial =>
    obtain rfl := initial
    exact .start rfl
  | @next state after event _ permitted step inductionHypothesis =>
    obtain ⟨pool, taken, rfl⟩ := Option.map_eq_some_iff.mp step
    have next := inductionHypothesis.next permitted taken
    cases event <;> exact next

/-! ### Where a task is -/

/-- Where a task is. -/
inductive Job (workers : Nat) (User Result : Type) where
  | unborn
  | adding (caller : Caller workers User)
  | queued
  | held (w : Fin workers)
  | done (result : Result)
  /-- `addTask` has thrown -/
  | refused

/-- It has entered the queue. -/
def Job.entered : Job workers User Result → Bool
  | .queued | .held _ | .done _ => true
  | .unborn | .adding _ | .refused => false

/-- The task a thread carries in `addTask`. -/
def AddTask.carried {Task : Type} : AddTask Task → Option Task
  | .testStop task | .lock task | .emplace task => some task
  | .idle | .notify _ => none

/-- The task a worker has taken. -/
def WorkerLoop.held {Task : Type} : WorkerLoop Task → Option Task
  | .call task | .running task => some task
  | _ => none

/-- Whether a task is found at a place. -/
def FuturePool.Finds (futures : FuturePool workers User Result) :
    Job workers User Result → Nat → Prop
  | .unborn, task => futures.made ≤ task
  | .adding caller, task => (futures.pool.adding caller).carried = some task
  | .queued, task => task ∈ futures.pool.tasks_
  | .held w, task => (futures.pool.workers_ w).held = some task
  | .done result, task => futures.results task = some result
  | .refused, _ => False

/-- Every task is where it should be, once, and every future that has been returned, or is about to
be, is that of a task that has entered the queue. -/
structure FuturePool.Follows (futures : FuturePool workers User Result)
    (jobs : Nat → Job workers User Result) : Prop where
  located : Custody.Located futures.Finds .refused jobs
  distinct : futures.pool.tasks_.Nodup
  notifies : ∀ caller task, futures.pool.adding caller = .notify task →
    (jobs task).entered = true
  returned : ∀ task ∈ futures.futures, (jobs task).entered = true

section Steps

variable {futures : FuturePool workers User Result} {jobs : Nat → Job workers User Result}
  {after : ThreadPool workers User Nat} {caller : Caller workers User} {w : Fin workers}

/-- A step of the pool that moves no task. -/
structure ThreadPool.MovesNone (pool after : ThreadPool workers User Nat) : Prop where
  carried : ∀ caller, (after.adding caller).carried = (pool.adding caller).carried
  tasks_ : after.tasks_ = pool.tasks_
  held : ∀ w, (after.workers_ w).held = (pool.workers_ w).held
  notifies : ∀ caller task, after.adding caller = .notify task →
    pool.adding caller = .notify task

omit [DecidableEq User] in
theorem FuturePool.Follows.stays (follows : futures.Follows jobs)
    (none : futures.pool.MovesNone after) {returned : List Nat}
    (known : ∀ task ∈ returned, (jobs task).entered = true) :
    { futures with pool := after, futures := returned }.Follows jobs where
  located := follows.located.stays fun place task => by
    cases place with
    | unborn | refused | done => rfl
    | adding caller =>
      show (after.adding caller).carried = some task ↔ _
      rw [none.carried]
      rfl
    | queued =>
      show task ∈ after.tasks_ ↔ _
      rw [none.tasks_]
      rfl
    | held w =>
      show (after.workers_ w).held = some task ↔ _
      rw [none.held]
      rfl
  distinct := by
    show after.tasks_.Nodup
    rw [none.tasks_]
    exact follows.distinct
  notifies caller task place := follows.notifies caller task (none.notifies caller task place)
  returned := known

omit [DecidableEq User] in
/-- A worker that goes on with what it has moves no task. -/
theorem movesNone_worker {pool : ThreadPool workers User Nat} {place : WorkerLoop Nat}
    (same : place.held = (pool.workers_ w).held) (adding : after.adding = pool.adding)
    (tasks : after.tasks_ = pool.tasks_)
    (workers_ : after.workers_ = Function.update pool.workers_ w place) : pool.MovesNone after where
  carried _ := by rw [adding]
  tasks_ := tasks
  held other := by
    rw [workers_]
    by_cases here : other = w
    · rw [here, Function.update_self, same]
    · rw [Function.update_of_ne here]
  notifies _ _ place := adding ▸ place

theorem movesNone_adding {pool : ThreadPool workers User Nat} {place : AddTask Nat}
    (same : place.carried = (pool.adding caller).carried) (quiet : ∀ task, place ≠ .notify task)
    (held : ∀ w, (after.workers_ w).held = (pool.workers_ w).held)
    (tasks : after.tasks_ = pool.tasks_)
    (adding : after.adding = Function.update pool.adding caller place) : pool.MovesNone after where
  carried other := by
    rw [adding]
    by_cases here : other = caller
    · rw [here, Function.update_self, same]
    · rw [Function.update_of_ne here]
  tasks_ := tasks
  held := held
  notifies other task notifying := by
    rw [adding] at notifying
    by_cases here : other = caller
    · rw [here, Function.update_self] at notifying
      exact absurd notifying (quiet task)
    · rwa [Function.update_of_ne here] at notifying

omit [DecidableEq User] in
/-- A task moves. -/
theorem FuturePool.Follows.moves (follows : futures.Follows jobs)
    {next : FuturePool workers User Result} {task : Nat} (old : Job workers User Result)
    {new : Job workers User Result} (watched : old ≠ .refused) (here : futures.Finds old task)
    (onward : old.entered = true → new.entered = true)
    (self : (∀ place, place ≠ .refused → (futures.Finds place task ↔ old = place)) →
      ∀ place, place ≠ .refused → (next.Finds place task ↔ new = place))
    (others : ∀ place other, other ≠ task → (next.Finds place other ↔ futures.Finds place other))
    (distinct : next.pool.tasks_.Nodup)
    (notifies : ∀ caller other, next.pool.adding caller = .notify other →
      futures.pool.adding caller = .notify other ∨ other = task ∧ new.entered = true)
    (returned : next.futures = futures.futures) :
    next.Follows (Function.update jobs task new) := by
  have there : jobs task = old := (follows.located task old watched).mp here
  have stays {other : Nat} (entered : (jobs other).entered = true) :
      (Function.update jobs task new other).entered = true := by
    by_cases same : other = task
    · rw [same, Function.update_self]
      exact onward (there ▸ same ▸ entered)
    · rw [Function.update_of_ne same]
      exact entered
  refine ⟨follows.located.moves (self fun place seen => ?_) others, distinct,
    fun caller other notifying => ?_, fun other known => ?_⟩
  · rw [← there]
    exact follows.located task place seen
  · rcases notifies caller other notifying with before | ⟨same, entered⟩
    · exact stays (follows.notifies caller other before)
    · rw [same, Function.update_self]
      exact entered
  · exact stays (follows.returned other (returned ▸ known))

theorem carried_setAdding (pool : ThreadPool workers User Nat) (place : AddTask Nat)
    (other : Caller workers User) : ((pool.setAdding caller place).adding other).carried =
      if other = caller then place.carried else (pool.adding other).carried := by
  show (Function.update pool.adding caller place other).carried = _
  rw [Function.update_apply]
  split <;> rfl

omit [DecidableEq User] in
theorem held_setWorker (pool : ThreadPool workers User Nat) (place : WorkerLoop Nat)
    (other : Fin workers) : ((pool.setWorker w place).workers_ other).held =
      if other = w then place.held else (pool.workers_ other).held := by
  show (Function.update pool.workers_ w place other).held = _
  rw [Function.update_apply]
  split <;> rfl

/-- `addTask` makes a task. -/
theorem FuturePool.Follows.makes (follows : futures.Follows jobs)
    (outside : futures.pool.adding caller = .idle) :
    { futures with
      pool := futures.pool.setAdding caller (.testStop futures.made)
      made := futures.made + 1 }.Follows
        (Function.update jobs futures.made (.adding caller)) := by
  refine follows.moves .unborn (fun same => by cases same) (Nat.le_refl _)
    (fun entered => by cases entered) (fun before place watched => ?_)
    (fun place other different => ?_) follows.distinct (fun other task notifying => ?_) rfl
  · have before := before place watched
    cases place with
    | unborn => simp [FuturePool.Finds]
    | adding other =>
      simp only [FuturePool.Finds, carried_setAdding] at before ⊢
      split
      · rename_i same
        simp [same, AddTask.carried]
      · rename_i different
        simp [before, Ne.symm different]
    | queued | held | done => exact before.trans (by simp)
    | refused => exact absurd rfl watched
  · cases place with
    | unborn =>
      show futures.made + 1 ≤ other ↔ futures.made ≤ other
      omega
    | adding adder =>
      simp only [FuturePool.Finds, carried_setAdding]
      split
      · rename_i same
        rw [same, outside]
        simp [AddTask.carried, Ne.symm different]
      · rfl
    | queued | held | done | refused => exact Iff.rfl
  · left
    by_cases same : other = caller
    · rw [same] at notifying
      simp [ThreadPool.setAdding] at notifying
    · simpa [ThreadPool.setAdding, same] using notifying

/-- `addTask` throws. -/
theorem FuturePool.Follows.throws (follows : futures.Follows jobs) {task : Nat}
    (place : futures.pool.adding caller = .testStop task) :
    { futures with pool := futures.pool.setAdding caller .idle }.Follows
      (Function.update jobs task .refused) := by
  have here : (futures.pool.adding caller).carried = some task := by
    rw [place]
    rfl
  refine follows.moves (.adding caller) (fun same => by cases same) here
    (fun entered => by cases entered) (fun before job watched => ?_)
    (fun job other different => ?_) follows.distinct (fun other task notifying => ?_) rfl
  · have before := before job watched
    cases job with
    | adding other =>
      simp only [FuturePool.Finds, carried_setAdding] at before ⊢
      split
      · simp [AddTask.carried]
      · rename_i different
        simp [before, Ne.symm different]
    | unborn | queued | held | done => exact before.trans (by simp)
    | refused => exact absurd rfl watched
  · cases job with
    | adding adder =>
      simp only [FuturePool.Finds, carried_setAdding]
      split
      · rename_i same
        rw [same, here]
        simp [AddTask.carried, Ne.symm different]
      · rfl
    | unborn | queued | held | done | refused => exact Iff.rfl
  · left
    by_cases same : other = caller
    · rw [same] at notifying
      simp [ThreadPool.setAdding] at notifying
    · simpa [ThreadPool.setAdding, same] using notifying

/-- `addTask` puts the task into the queue. -/
theorem FuturePool.Follows.enqueues (follows : futures.Follows jobs) {task : Nat}
    (place : futures.pool.adding caller = .emplace task) :
    { futures with
      pool := { futures.pool with tasks_ := futures.pool.tasks_ ++ [task] }.unlock.setAdding caller
        (.notify task) }.Follows (Function.update jobs task .queued) := by
  have here : (futures.pool.adding caller).carried = some task := by
    rw [place]
    rfl
  have fresh : task ∉ futures.pool.tasks_ := fun known => by
    cases follows.located.alone (fun same => by cases same) (fun same => by cases same)
      (show futures.Finds (.adding caller) task from here)
      (show futures.Finds .queued task from known)
  refine follows.moves (.adding caller) (fun same => by cases same) here (fun _ => rfl)
    (fun before job watched => ?_) (fun job other different => ?_) ?_
    (fun other known notifying => ?_) rfl
  · have before := before job watched
    cases job with
    | adding other =>
      simp only [FuturePool.Finds, carried_setAdding] at before ⊢
      split
      · simp [AddTask.carried]
      · rename_i different
        exact before.trans (by simp [Ne.symm different])
    | queued => simp [FuturePool.Finds, ThreadPool.setAdding, ThreadPool.unlock]
    | unborn | held | done => exact before.trans (by simp)
    | refused => exact absurd rfl watched
  · cases job with
    | adding adder =>
      simp only [FuturePool.Finds, carried_setAdding]
      split
      · rename_i same
        rw [same, here]
        simp [AddTask.carried, Ne.symm different]
      · rfl
    | queued => simp [FuturePool.Finds, ThreadPool.setAdding, ThreadPool.unlock, different]
    | unborn | held | done | refused => exact Iff.rfl
  · exact List.nodup_append.mpr ⟨follows.distinct, List.pairwise_singleton ..,
      fun first known second here same => fresh (by
        rw [List.mem_singleton.mp here] at same
        exact same ▸ known)⟩
  · by_cases same : other = caller
    · rw [same] at notifying
      simp only [ThreadPool.setAdding, Function.update_self, AddTask.notify.injEq] at notifying
      exact .inr ⟨notifying.symm, rfl⟩
    · left
      simpa [ThreadPool.setAdding, ThreadPool.unlock, same] using notifying

omit [DecidableEq User] in
/-- A worker takes the task at the front. -/
theorem FuturePool.Follows.takes (follows : futures.Follows jobs) {task : Nat} {rest : List Nat}
    (place : futures.pool.workers_ w = .pop) (front : futures.pool.tasks_ = task :: rest) :
    { futures with
      pool := { futures.pool with tasks_ := rest }.unlock.setWorker w (.call task) }.Follows
        (Function.update jobs task (.held w)) := by
  have here : task ∈ futures.pool.tasks_ := front ▸ List.mem_cons_self
  obtain ⟨fresh, distinct⟩ := List.nodup_cons.mp (front ▸ follows.distinct)
  refine follows.moves .queued (fun same => by cases same) here (fun _ => rfl)
    (fun before job watched => ?_) (fun job other different => ?_) distinct
    (fun other known notifying => .inl notifying) rfl
  · have before := before job watched
    cases job with
    | held other =>
      simp only [FuturePool.Finds, held_setWorker] at before ⊢
      split
      · rename_i same
        simp [same, WorkerLoop.held]
      · rename_i different
        exact before.trans (by simp [Ne.symm different])
    | queued => exact iff_of_false fresh fun same => by cases same
    | unborn | adding | done => exact before.trans (by simp)
    | refused => exact absurd rfl watched
  · cases job with
    | held taker =>
      simp only [FuturePool.Finds, held_setWorker]
      split
      · rename_i same
        rw [same, place]
        simp [WorkerLoop.held, Ne.symm different]
      · rfl
    | queued =>
      show other ∈ rest ↔ other ∈ futures.pool.tasks_
      rw [front, List.mem_cons]
      exact ⟨.inr, fun known => known.resolve_left different⟩
    | unborn | adding | done | refused => exact Iff.rfl

omit [DecidableEq User] in
/-- A task returns, and its `packaged_task` stores the result. -/
theorem FuturePool.Follows.stores (follows : futures.Follows jobs) {task : Nat}
    (place : futures.pool.workers_ w = .running task) (result : Result) :
    { futures with
      pool := futures.pool.setWorker w .testStop
      results := Function.update futures.results task (some result) }.Follows
        (Function.update jobs task (.done result)) := by
  have here : (futures.pool.workers_ w).held = some task := by
    rw [place]
    rfl
  refine follows.moves (.held w) (fun same => by cases same) here (fun _ => rfl)
    (fun before job watched => ?_) (fun job other different => ?_) follows.distinct
    (fun other known notifying => .inl notifying) rfl
  · have before := before job watched
    cases job with
    | held other =>
      simp only [FuturePool.Finds, held_setWorker] at before ⊢
      split
      · simp [WorkerLoop.held]
      · rename_i different
        exact before.trans (by simp [Ne.symm different])
    | done other => simp [FuturePool.Finds]
    | unborn | adding | queued => exact before.trans (by simp)
    | refused => exact absurd rfl watched
  · cases job with
    | held taker =>
      simp only [FuturePool.Finds, held_setWorker]
      split
      · rename_i same
        rw [same, here]
        simp [WorkerLoop.held, Ne.symm different]
      · rfl
    | done other => simp [FuturePool.Finds, different]
    | unborn | adding | queued | refused => exact Iff.rfl

omit [DecidableEq User] in
theorem WorkerMove.held {pool : ThreadPool workers User Nat} {old place : WorkerLoop Nat}
    (move : WorkerMove pool old place) : place.held = old.held := by
  cases move <;> rfl

theorem held_notified (place : WorkerLoop Nat) : place.notified.held = place.held := by
  cases place <;> rfl

/-- Where the tasks are after a step. What is done stays done. -/
def FuturePool.Proceeds (jobs : Nat → Job workers User Result)
    (next : FuturePool workers User Result) : Prop :=
  ∃ later, next.Follows later ∧ ∀ task result, jobs task = .done result → later task = .done result

omit [DecidableEq User] in
theorem FuturePool.Follows.proceeds {next : FuturePool workers User Result}
    (follows : futures.Follows jobs) {task : Nat} {old new : Job workers User Result}
    (watched : old ≠ .refused) (open_ : ∀ result, old ≠ .done result)
    (here : futures.Finds old task) (after : next.Follows (Function.update jobs task new)) :
    next.Proceeds jobs := by
  refine ⟨_, after, fun other result done => ?_⟩
  have there : jobs task = old := (follows.located task old watched).mp here
  by_cases same : other = task
  · rw [same, there] at done
    exact absurd done (open_ result)
  · rw [Function.update_of_ne same]
    exact done

theorem follows_step (follows : futures.Follows jobs) {event : FutureEvent workers User Result}
    {next : FuturePool workers User Result} (step : futures.step event = some next) :
    next.Proceeds jobs := by
  obtain ⟨pool, taken, rfl⟩ := Option.map_eq_some_iff.mp step
  have stays {returned : List Nat} (none : futures.pool.MovesNone pool)
      (known : ∀ task ∈ returned, (jobs task).entered = true) :
      FuturePool.Proceeds jobs { futures with pool := pool, futures := returned } :=
    ⟨jobs, follows.stays none known, fun _ _ done => done⟩
  have moved := poolStep_cases taken
  cases event with
  | work w =>
    cases moved with
    | move _ place move =>
      exact stays (movesNone_worker move.held rfl rfl rfl) follows.returned
    | lock _ place =>
      refine stays (movesNone_worker ?_ rfl rfl rfl) follows.returned
      rcases place with here | here <;> rw [here] <;> rfl
    | block _ place | leave _ place =>
      exact stays (movesNone_worker (place ▸ rfl) rfl rfl rfl) follows.returned
    | pop _ task rest place front =>
      have queued : futures.Finds .queued task := by
        show task ∈ futures.pool.tasks_
        rw [front]
        exact List.mem_cons_self
      exact follows.proceeds (fun same => by cases same) (fun _ same => by cases same) queued
        (follows.takes place front)
  | wake w =>
    cases moved with
    | wake _ place => exact stays (movesNone_worker (place ▸ rfl) rfl rfl rfl) follows.returned
  | taskReturns w result =>
    cases moved with
    | taskReturns _ task place =>
      have stored : futures.store w result =
          Function.update futures.results task (some result) := by
        rw [FuturePool.store, place]
      show FuturePool.Proceeds jobs { futures with
        pool := futures.pool.setWorker w .testStop, results := futures.store w result }
      rw [stored]
      exact follows.proceeds (fun same => by cases same) (fun _ same => by cases same)
        (show futures.Finds (.held w) task by rw [FuturePool.Finds, place]; rfl)
        (follows.stores place result)
  | addTask caller =>
    cases moved with
    | addTask _ _ outside =>
      exact follows.proceeds (fun same => by cases same) (fun _ same => by cases same)
        (show futures.Finds .unborn futures.made from Nat.le_refl _) (follows.makes outside)
  | add caller woken =>
    have returned (quiet : ∀ task, futures.pool.adding caller ≠ .notify task) :
        futures.return caller = futures.futures := by
      unfold FuturePool.return
      split
      · exact absurd ‹_› (quiet _)
      · rfl
    show FuturePool.Proceeds jobs { futures with
      pool := pool, futures := futures.return caller }
    have notified {task : Nat} (place : futures.pool.adding caller = .notify task) :
        ∀ other ∈ futures.return caller, (jobs other).entered = true := by
      rw [FuturePool.return, place]
      intro other known
      rcases List.mem_append.mp known with before | now
      · exact follows.returned other before
      · rw [List.mem_singleton.mp now]
        exact follows.notifies caller task place
    cases moved with
    | throws _ _ task place =>
      rw [returned (by rw [place]; exact fun _ same => by cases same)]
      exact follows.proceeds (fun same => by cases same) (fun _ same => by cases same)
        (show futures.Finds (.adding caller) task by rw [FuturePool.Finds, place]; rfl)
        (follows.throws place)
    | passes _ _ task place | lockAdd _ _ task place =>
      rw [returned (by rw [place]; exact fun _ same => by cases same)]
      exact stays (movesNone_adding (place ▸ rfl) (fun _ same => by cases same) (fun _ => rfl) rfl
        rfl) follows.returned
    | emplace _ _ task place =>
      rw [returned (by rw [place]; exact fun _ same => by cases same)]
      exact follows.proceeds (fun same => by cases same) (fun _ same => by cases same)
        (show futures.Finds (.adding caller) task by rw [FuturePool.Finds, place]; rfl)
        (follows.enqueues place)
    | notify _ w task place waits =>
      refine stays (movesNone_adding (place ▸ rfl) (fun _ same => by cases same) (fun other => ?_)
        rfl rfl) (notified place)
      show ((futures.pool.setWorker w .relock).workers_ other).held = _
      rw [held_setWorker]
      split
      · rename_i same
        rw [same, waits]
        rfl
      · rfl
    | notifyNone _ task place =>
      exact stays (movesNone_adding (place ▸ rfl) (fun _ same => by cases same) (fun _ => rfl) rfl
        rfl) (notified place)
  | destroy =>
    cases moved with
    | stop | join | returns =>
      exact stays ⟨fun _ => rfl, rfl, fun _ => rfl, fun _ _ => id⟩ follows.returned
    | notifyAll =>
      exact stays ⟨fun _ => rfl, rfl, fun _ => held_notified _, fun _ _ => id⟩ follows.returned

end Steps

/-! ### Every future is ready -/

/-- The result with which a task returns in a step on record, if it does. -/
def returnsOf (task : Nat)
    (step : FuturePool workers User Result × FutureEvent workers User Result) : Option Result :=
  match step.2 with
  | .taskReturns w result => if step.1.pool.workers_ w = .running task then some result else none
  | _ => none

section Runs

variable {run : Recorded (FuturePool workers User Result) (FutureEvent workers User Result)}

theorem reachable_follows {futures : FuturePool workers User Result}
    (reachable : ReachableBy (FuturePool.system workers User Result) futuresBefore futures) :
    ∃ jobs, futures.Follows jobs := by
  refine reachable.invariant (fun futures => ∃ jobs, futures.Follows jobs) ?_ ?_
  · rintro _ rfl
    refine ⟨fun _ => .unborn, fun task place watched => ?_, List.nodup_nil,
      (fun _ _ same => by cases same), fun _ known => by cases known⟩
    cases place with
    | unborn => exact iff_of_true (Nat.zero_le _) rfl
    | refused => exact absurd rfl watched
    | adding | held | done =>
      exact iff_of_false (fun same => by cases same) fun same => by cases same
    | queued => exact iff_of_false List.not_mem_nil fun same => by cases same
  · rintro futures event next _ ⟨jobs, follows⟩ _ step
    obtain ⟨later, after, _⟩ := follows_step follows step
    exact ⟨later, after⟩

omit [DecidableEq User] in
/-- A step stores the result of the task that returns, and no other. -/
theorem results_after {futures : FuturePool workers User Result}
    (pool : ThreadPool workers User Nat) (event : FutureEvent workers User Result) (task : Nat) :
    (futures.after pool event).results task =
      (returnsOf task (futures, event)).or (futures.results task) := by
  cases event with
  | taskReturns w result =>
    show futures.store w result task =
      (if futures.pool.workers_ w = .running task then some result else none).or _
    unfold FuturePool.store
    cases futures.pool.workers_ w with
    | running other =>
      by_cases same : task = other
      · rw [same, if_pos rfl]
        exact Function.update_self ..
      · rw [if_neg fun equal => same (by cases equal; rfl)]
        exact Function.update_of_ne same ..
    | _ =>
      rw [if_neg fun same => by cases same]
      rfl
  | _ => rfl

/-- In every run a task returns at most once, and its future has the result with which it has
returned. When the destructor has returned, every future that `addTask` has returned is ready. -/
theorem futures_ready (positive : 0 < workers)
    (reachable : ReachableBy (FuturePool.system workers User Result).recorded
      (fun run event => futuresBefore run.now event) run) :
    (∀ task, run.past.filterMap (returnsOf task) = (run.now.results task).toList) ∧
      (run.now.pool.destructor = .returned →
        ∀ task ∈ run.now.futures, (run.now.results task).isSome = true) := by
  have before : ReachableBy (FuturePool.system workers User Result) futuresBefore run.now :=
    reachable.now fun _ _ permitted => permitted
  refine ⟨?_, fun returned task known => ?_⟩
  · refine reachable.invariant (fun run => ∀ task, run.past.filterMap (returnsOf task) =
      (run.now.results task).toList) ?_ ?_
    · rintro run ⟨past, now⟩ task
      rw [past, show run.now = _ from now]
      rfl
    · intro run event next before same _ step task
      obtain ⟨taken, past⟩ := recorded_step step
      obtain ⟨pool, _, now⟩ := Option.map_eq_some_iff.mp taken
      have here : ReachableBy (FuturePool.system workers User Result) futuresBefore run.now :=
        before.now fun _ _ permitted => permitted
      obtain ⟨jobs, follows⟩ := reachable_follows here
      rw [past, List.filterMap_append, same task, ← now, results_after]
      cases returns : returnsOf task (run.now, event) with
      | none => simp [returns]
      | some result =>
        -- the task is in the hands of a worker, so it has not returned before
        have fresh : run.now.results task = none := by
          cases event with
          | taskReturns w _ =>
            simp only [returnsOf] at returns
            split at returns
            · rename_i place
              by_contra stored
              obtain ⟨other, stored⟩ := Option.ne_none_iff_exists'.mp stored
              have held : run.now.Finds (.held w) task := by
                rw [FuturePool.Finds, place]
                rfl
              cases follows.located.alone (fun same => by cases same) (fun same => by cases same)
                held (show run.now.Finds (.done other) task from stored)
            · cases returns
          | _ => cases returns
        simp [returns, fresh]
  · obtain ⟨jobs, follows⟩ := reachable_follows before
    have finished := returned_finished (reachable_sound (reachable_pool before))
      (reachable_draining positive (reachable_pool before)) returned
    have entered := follows.returned task known
    have found (place : Job workers User Result) (watched : place ≠ .refused)
        (same : jobs task = place) : run.now.Finds place task :=
      (follows.located task place watched).mpr same
    cases there : jobs task with
    | unborn | adding | refused =>
      rw [there] at entered
      cases entered
    | queued =>
      have queued : task ∈ run.now.pool.tasks_ := found _ (fun same => by cases same) there
      rw [finished.drained] at queued
      cases queued
    | held w =>
      have held : (run.now.pool.workers_ w).held = some task :=
        found _ (fun same => by cases same) there
      rw [finished.exited w] at held
      cases held
    | done result =>
      have stored : run.now.results task = some result :=
        found _ (fun same => by cases same) there
      rw [stored]
      rfl

omit [DecidableEq User] in
/-- A thread adds a task, and the worker runs it while the destructor waits for it. -/
theorem futures_ready_one :
    ∃ run : Recorded (FuturePool 1 Unit Nat) (FutureEvent 1 Unit Nat),
      run.now.futures = [0] ∧ (run.now.results 0).isSome = true ∧
        run.past.filterMap (returnsOf 0) = (run.now.results 0).toList := by
  have drained : ∃ run, ReachableBy (FuturePool.system 1 Unit Nat).recorded
      (fun run event => futuresBefore run.now event) run ∧
        run.now.pool.destructor = .returned ∧ run.now.futures = [0] :=
    exists_of_replay (initial_recorded rfl)
      (.addTask (.user ()) :: List.replicate 4 (.add (.user ()) none) ++ [.destroy] ++
        List.replicate 8 (.work 0) ++ [.taskReturns 0 7, .work 0, .work 0] ++
        List.replicate 3 .destroy) (by decide)
  obtain ⟨run, reachable, returned, futures⟩ := drained
  obtain ⟨own, ready⟩ := futures_ready Nat.one_pos reachable
  exact ⟨run, futures, ready returned 0 (futures ▸ List.mem_singleton_self _), own 0⟩

end Runs

end Futures

end MultiReactor
