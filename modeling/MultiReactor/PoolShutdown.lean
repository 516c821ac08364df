/-
This file is about the end of the legacy `ThreadPool`: `~ThreadPool` stores
`stop_` and calls `notify_all` without the mutex, so a worker that has already
evaluated its predicate may begin to wait after the notification. Where that
happens and no call of `addTask` is on its way to notify, the worker waits for
ever and so does the destructor. Where it does not, no worker is left waiting:
at most one worker can be caught there, since it holds the mutex, and the call
of `addTask` that comes after it wakes it up.
-/

import MultiReactor.PoolLock

namespace MultiReactor

open Transition

section Pool

variable {workers : Nat} {User Task : Type} [DecidableEq User]

/-! ### Waiting for ever -/

/-- Whether `notify_all` has been executed. -/
def Destructor.notified : Destructor → Bool
  | .join _ | .returned => true
  | _ => false

/-- Whether a step notifies `condition_`. -/
def ThreadPool.notifies (pool : ThreadPool workers User Task) :
    PoolEvent workers User Task → Prop
  | .add caller _ => ∃ task, pool.adding caller = .notify task
  | .destroy => pool.destructor = .notifyAll
  | _ => False

/-- No thread can ever notify again, whatever the threads do. -/
def ThreadPool.Silent (pool : ThreadPool workers User Task) : Prop :=
  ∀ later event after, Reachable ((ThreadPool.system workers User Task).after pool) later →
    later.step event = some after → ¬ later.notifies event

/-- `notify_all` is past, a worker waits without a notification, and none can come. A notified
worker is no longer in the wait set. -/
def ThreadPool.Hung (pool : ThreadPool workers User Task) : Prop :=
  pool.destructor.notified = true ∧ (∃ w, pool.workers_ w = .waiting) ∧ pool.Silent

/-- Whether a worker has evaluated its predicate to false, or is about to: it holds the mutex, has
read `stop_` as false, and the queue is empty. -/
def ThreadPool.deaf (pool : ThreadPool workers User Task) (w : Fin workers) : Bool :=
  match pool.workers_ w with
  | .block => true
  | .waitEmpty => pool.tasks_.isEmpty
  | _ => false

/-- `notify_all` finds no worker deaf, or some call of `addTask` past its test of `stop_` has yet
to lock the mutex. -/
def ThreadPool.heard : Guard (ThreadPool workers User Task) (PoolEvent workers User Task) :=
  fun pool event => event = .destroy → pool.destructor = .notifyAll →
    ∀ w, pool.deaf w = true → ∃ caller task, pool.adding caller = .lock task

instance [Fintype User] [Fintype Task] [DecidableEq Task] (pool : ThreadPool workers User Task)
    (event : PoolEvent workers User Task) : Decidable (pool.heard event) :=
  inferInstanceAs (Decidable (event = .destroy → pool.destructor = .notifyAll →
    ∀ w, pool.deaf w = true → ∃ caller task, pool.adding caller = .lock task))

/-! ### Who will notify -/

/-- Whether a thread here has passed the test of `stop_` and will still notify. -/
def AddTask.pledged : AddTask Task → Bool
  | .lock _ | .emplace _ | .notify _ => true
  | _ => false

/-- After `notify_all`, at most one worker waits or is going to, and somebody will wake it. -/
structure ThreadPool.Attended (pool : ThreadPool workers User Task) : Prop where
  alone : ∀ one other, (pool.deaf one = true ∨ pool.workers_ one = .waiting) →
    (pool.deaf other = true ∨ pool.workers_ other = .waiting) → one = other
  deaf : ∀ w, pool.deaf w = true → ∃ caller task, pool.adding caller = .lock task
  waiting : ∀ w, pool.workers_ w = .waiting → ∃ caller, (pool.adding caller).pledged = true

omit [DecidableEq User] in
/-- A deaf worker holds the mutex. -/
theorem deaf_inside {pool : ThreadPool workers User Task} {w : Fin workers}
    (deaf : pool.deaf w = true) : (pool.workers_ w).holdsLock = true := by
  unfold ThreadPool.deaf at deaf
  split at deaf
  · rename_i place
    rw [place]
    rfl
  · rename_i place
    rw [place]
    rfl
  · cases deaf

/-- In a stopped pool no worker turns deaf: its predicate reads `stop_` first, and the queue does
not change while it evaluates the rest. -/
theorem deaf_step {pool after : ThreadPool workers User Task}
    {event : PoolEvent workers User Task} (sound : pool.Sound) (stopped : pool.stop_ = true)
    (step : PoolStep pool event after) {w : Fin workers} (deaf : after.deaf w = true) :
    pool.deaf w = true := by
  unfold ThreadPool.deaf at deaf ⊢
  split at deaf
  · rename_i place
    rcases worker_step step w with same | moved
    · rw [← same, place]
    · generalize pool.workers_ w = here at moved ⊢
      rw [place] at moved
      cases moved with
      | move move =>
        cases move with
        | waitDrained drained => simp [drained]
  · rename_i place
    rcases worker_step step w with same | moved
    · have held : (pool.workers_ w).holdsLock = true := by rw [← same, place]; rfl
      rw [← same, place, ← sound.frozen step held (by simp [place])]
      exact deaf
    · generalize pool.workers_ w = here at moved
      rw [place] at moved
      cases moved with
      | move move =>
        cases move with
        | waitRunning running => exact absurd (stopped.symm.trans running) Bool.true_eq_false.mp
  · cases deaf

/-- A worker that waits has waited before, or was deaf. -/
theorem waiting_step {pool after : ThreadPool workers User Task}
    {event : PoolEvent workers User Task} (step : PoolStep pool event after) {w : Fin workers}
    (waiting : after.workers_ w = .waiting) :
    pool.deaf w = true ∨ pool.workers_ w = .waiting := by
  rcases worker_step step w with same | moved
  · exact .inr (same.symm.trans waiting)
  · generalize here : pool.workers_ w = before at moved
    rw [waiting] at moved
    cases moved with
    | move move => cases move
    | block => exact .inl (by simp [ThreadPool.deaf, here])

/-- While a worker is deaf, the calls that are about to lock the mutex stay there. -/
theorem lock_lasts {pool after : ThreadPool workers User Task}
    {event : PoolEvent workers User Task} (sound : pool.Sound) (step : PoolStep pool event after)
    {w : Fin workers} (deaf : pool.deaf w = true) {caller : Caller workers User} {task : Task}
    (place : pool.adding caller = .lock task) : after.adding caller = .lock task := by
  have within : pool.inside (.worker w) = true := by simp [ThreadPool.inside, deaf_inside deaf]
  rcases adding_step step caller with same | moved
  · exact same.trans place
  · generalize after.adding caller = next at moved ⊢
    rw [place] at moved
    cases moved with
    | lock _ free =>
      have held := (sound.mutex (.worker w)).mpr within
      rw [free] at held
      cases held

/-- A call of `addTask` that returns has woken a worker, unless none waited. -/
theorem notify_step {pool after : ThreadPool workers User Task}
    {event : PoolEvent workers User Task} (step : PoolStep pool event after)
    {caller : Caller workers User} {task : Task} (place : pool.adding caller = .notify task)
    (returned : after.adding caller = .idle) :
    (∃ w, pool.workers_ w = .waiting ∧ after.workers_ w = .relock) ∨
      ∀ w, pool.workers_ w ≠ .waiting := by
  cases step with
  | notify adder w _ _ waits =>
    exact .inl ⟨w, waits, setWorker_self pool w .relock⟩
  | notifyNone adder _ _ nobody => exact .inr nobody
  | _ => exact absurd returned (by grind)

/-- The one worker that waits keeps its promise of a notification. -/
theorem pledged_step {pool after : ThreadPool workers User Task}
    {event : PoolEvent workers User Task} (attended : pool.Attended)
    (step : PoolStep pool event after) {w : Fin workers} (waiting : pool.workers_ w = .waiting)
    (still : after.workers_ w = .waiting) {caller : Caller workers User}
    (pledged : (pool.adding caller).pledged = true) : (after.adding caller).pledged = true := by
  rcases adding_step step caller with same | moved
  · rw [same]
    exact pledged
  · generalize here : pool.adding caller = before at moved pledged
    generalize there : after.adding caller = next at moved ⊢
    cases moved with
    | begins _ _ => cases pledged
    | throws _ _ => cases pledged
    | passes _ _ => rfl
    | lock _ _ => rfl
    | emplace _ => rfl
    | returns task =>
      exfalso
      rcases notify_step step here there with ⟨woken, waited, up⟩ | nobody
      · obtain rfl := attended.alone w woken (.inr waiting) (.inr waited)
        rw [still] at up
        cases up
      · exact nobody w waiting

/-- What a step keeps after `notify_all`. -/
theorem attended_step {pool after : ThreadPool workers User Task}
    {event : PoolEvent workers User Task} (sound : pool.Sound) (stopped : pool.stop_ = true)
    (attended : pool.Attended) (step : PoolStep pool event after) : after.Attended := by
  have bound {w : Fin workers} (caught : after.deaf w = true ∨ after.workers_ w = .waiting) :
      pool.deaf w = true ∨ pool.workers_ w = .waiting :=
    caught.elim (fun deaf => .inl (deaf_step sound stopped step deaf)) (waiting_step step)
  refine ⟨fun one other first second => attended.alone one other (bound first) (bound second),
    fun w deaf => ?_, fun w waiting => ?_⟩
  · have before := deaf_step sound stopped step deaf
    obtain ⟨caller, task, place⟩ := attended.deaf w before
    exact ⟨caller, task, lock_lasts sound step before place⟩
  · rcases waiting_step step waiting with before | before
    · obtain ⟨caller, task, place⟩ := attended.deaf w before
      exact ⟨caller, by rw [lock_lasts sound step before place]; rfl⟩
    · obtain ⟨caller, pledged⟩ := attended.waiting w before
      exact ⟨caller, pledged_step attended step before waiting pledged⟩

omit [DecidableEq User] in
/-- What `notify_all` leaves behind, if it is heard. -/
theorem attended_notifyAll {pool : ThreadPool workers User Task} (sound : pool.Sound)
    (heard : ∀ w, pool.deaf w = true → ∃ caller task, pool.adding caller = .lock task) :
    ThreadPool.Attended { pool with
      workers_ := fun w => (pool.workers_ w).notified, destructor := .join 0 } := by
  have awake (w : Fin workers) : (pool.workers_ w).notified ≠ .waiting := by
    cases pool.workers_ w <;> simp [WorkerLoop.notified]
  have same (w : Fin workers) : ThreadPool.deaf { pool with
      workers_ := fun w => (pool.workers_ w).notified, destructor := .join 0 } w = pool.deaf w := by
    simp only [ThreadPool.deaf]
    cases pool.workers_ w <;> rfl
  refine ⟨fun one other first second => ?_, fun w deaf => heard w ((same w).symm.trans deaf),
    fun w waiting => absurd waiting (awake w)⟩
  have within {w : Fin workers} (caught : ThreadPool.deaf { pool with
      workers_ := fun w => (pool.workers_ w).notified, destructor := .join 0 } w = true ∨
        (pool.workers_ w).notified = .waiting) : pool.inside (.worker w) = true := by
    have deaf := caught.resolve_right (awake w)
    simp [ThreadPool.inside, deaf_inside ((same w).symm.trans deaf)]
  exact Caller.worker.inj (sound.mutex.alone (within first) (within second))

/-- In a run whose `notify_all` is heard, a worker that waits after it will be notified. -/
theorem reachable_attended {pool : ThreadPool workers User Task}
    (reachable : ReachableBy (ThreadPool.system workers User Task) ThreadPool.heard pool)
    (notified : pool.destructor.notified = true) : pool.Attended := by
  refine reachable.invariant (fun pool => pool.destructor.notified = true → pool.Attended)
    ?_ ?_ notified
  · rintro pool rfl notified
    cases notified
  · intro pool event after before attended heard step notified
    have sound := reachable_sound before
    have taken := poolStep_cases step
    by_cases earlier : pool.destructor.notified = true
    · have stopped : pool.stop_ = true := sound.stopped.mpr fun it => by
        rw [it] at earlier
        cases earlier
      exact attended_step sound stopped (attended earlier) taken
    · cases taken with
      | notifyAll place => exact attended_notifyAll sound (heard rfl place)
      | stop => cases notified
      | join w place exited => exact absurd (by rw [place]; rfl) earlier
      | returns joined place all => exact absurd (by rw [place]; rfl) earlier
      | _ => exact absurd notified earlier

/-! ### The notification comes -/

/-- A later state of a run. -/
abbrev ThreadPool.Later (pool later : ThreadPool workers User Task) : Prop :=
  Reachable ((ThreadPool.system workers User Task).after pool) later

theorem later_step {pool later after : ThreadPool workers User Task} (run : pool.Later later)
    {event : PoolEvent workers User Task} (step : later.step event = some after) :
    pool.Later after :=
  ReachableBy.next run trivial step

theorem add_lock {pool : ThreadPool workers User Task} {caller : Caller workers User} {task : Task}
    (place : pool.adding caller = .lock task) (free : pool.queue_mutex_ = none) :
    pool.step (.add caller none) =
      some ({ pool with queue_mutex_ := some caller }.setAdding caller (.emplace task)) := by
  simp only [ThreadPool.step, ThreadPool.add, place, free, Option.isNone_none, if_true]

theorem add_emplace {pool : ThreadPool workers User Task} {caller : Caller workers User}
    {task : Task} (place : pool.adding caller = .emplace task) :
    pool.step (.add caller none) = some
      ({ pool with tasks_ := pool.tasks_ ++ [task] }.unlock.setAdding caller (.notify task)) := by
  simp only [ThreadPool.step, ThreadPool.add, place]

theorem add_notify {pool : ThreadPool workers User Task} {caller : Caller workers User}
    {task : Task} {w : Fin workers} (place : pool.adding caller = .notify task)
    (waiting : pool.workers_ w = .waiting) :
    pool.step (.add caller (some w)) =
      some ((pool.setWorker w .relock).setAdding caller .idle) := by
  simp only [ThreadPool.step, ThreadPool.add, place, ThreadPool.notifyOne, waiting,
    WorkerLoop.isWaiting, if_true, Option.map_some]

/-- How many steps a worker that holds the mutex has before it at most, until it unlocks it. -/
def WorkerLoop.remaining : WorkerLoop Task → Nat
  | .waitStop => 5
  | .waitEmpty => 4
  | .returnStop => 3
  | .returnEmpty => 2
  | .block | .pop => 1
  | _ => 0

/-- A worker that holds the mutex has taken a step: it has unlocked it or come closer to that. -/
structure ThreadPool.Nearer (pool : ThreadPool workers User Task) (w : Fin workers)
    (after : ThreadPool workers User Task) : Prop where
  adding : after.adding = pool.adding
  others : ∀ other, other ≠ w → after.workers_ other = pool.workers_ other
  closer : after.queue_mutex_ = none ∨ (after.workers_ w).holdsLock = true ∧
    (after.workers_ w).remaining < (pool.workers_ w).remaining

/-- A worker that holds the mutex can always go on. -/
theorem work_inside {pool : ThreadPool workers User Task} (sound : pool.Sound) {w : Fin workers}
    (held : (pool.workers_ w).holdsLock = true) :
    ∃ after, pool.step (.work w) = some after ∧ pool.Nearer w after := by
  have moves {next : WorkerLoop Task} (held : next.holdsLock = true)
      (closer : next.remaining < (pool.workers_ w).remaining) :
      pool.Nearer w (pool.setWorker w next) :=
    ⟨rfl, fun other different => by simp [different], .inr (by simpa using ⟨held, closer⟩)⟩
  have leaves (tasks : List Task) (next : WorkerLoop Task) :
      pool.Nearer w ({ pool with tasks_ := tasks }.unlock.setWorker w next) :=
    ⟨rfl, fun other different => by simp [different], .inl rfl⟩
  have walks (next : WorkerLoop Task) (taken : pool.work w = some (pool.setWorker w next))
      (held : next.holdsLock = true)
      (closer : next.remaining < (pool.workers_ w).remaining) :
      ∃ after, pool.step (.work w) = some after ∧ pool.Nearer w after :=
    ⟨_, taken, moves held closer⟩
  have tests (condition : Bool) (first second : WorkerLoop Task)
      (taken : pool.work w = some (pool.setWorker w (if condition then first else second)))
      (held : first.holdsLock = true ∧ second.holdsLock = true)
      (closer : first.remaining < (pool.workers_ w).remaining ∧
        second.remaining < (pool.workers_ w).remaining) :
      ∃ after, pool.step (.work w) = some after ∧ pool.Nearer w after := by
    cases condition with
    | true => exact walks first taken held.1 closer.1
    | false => exact walks second taken held.2 closer.2
  cases place : pool.workers_ w with
  | waitStop =>
    exact tests pool.stop_ .returnStop .waitEmpty (by simp only [ThreadPool.work, place])
      ⟨rfl, rfl⟩ (by simp [place, WorkerLoop.remaining])
  | waitEmpty =>
    exact tests pool.tasks_.isEmpty .block .returnStop (by simp only [ThreadPool.work, place])
      ⟨rfl, rfl⟩ (by simp [place, WorkerLoop.remaining])
  | block =>
    exact ⟨_, by simp only [ThreadPool.step, ThreadPool.work, place],
      leaves pool.tasks_ .waiting⟩
  | returnStop =>
    exact tests pool.stop_ .returnEmpty .pop (by simp only [ThreadPool.work, place]) ⟨rfl, rfl⟩
      (by simp [place, WorkerLoop.remaining])
  | returnEmpty =>
    by_cases drained : pool.tasks_.isEmpty = true
    · exact ⟨_, by simp only [ThreadPool.step, ThreadPool.work, place, if_pos drained],
        leaves pool.tasks_ .exited⟩
    · exact walks .pop (by simp only [ThreadPool.work, place, if_neg drained]) rfl
        (by simp [place, WorkerLoop.remaining])
  | pop =>
    obtain ⟨task, rest, front⟩ := List.exists_cons_of_ne_nil (sound.front w place)
    exact ⟨_, by simp only [ThreadPool.step, ThreadPool.work, place, front],
      leaves rest (.call task)⟩
  | _ =>
    rw [place] at held
    cases held

/-- The steps a worker takes until it has unlocked the mutex. -/
theorem unlocked_by_worker {pool : ThreadPool workers User Task} (sound : pool.Sound)
    {holder : Fin workers} (held : (pool.workers_ holder).holdsLock = true) :
    ∃ later, pool.Later later ∧ later.queue_mutex_ = none ∧ later.adding = pool.adding ∧
      ∀ other, other ≠ holder → later.workers_ other = pool.workers_ other := by
  -- the number of steps the worker still has before it decreases
  generalize bound : (pool.workers_ holder).remaining = steps
  induction steps using Nat.strong_induction_on generalizing pool with
  | _ steps inductionHypothesis =>
    obtain ⟨after, step, adding, others, unlocked | ⟨still, closer⟩⟩ := work_inside sound held
    · exact ⟨after, later_step (.start rfl) step, unlocked, adding, others⟩
    · obtain ⟨later, run, free, same, alike⟩ :=
        inductionHypothesis _ (bound ▸ closer) (sound_step sound (poolStep_cases step)) still rfl
      refine ⟨later, .trans (later_step (.start rfl) step) run, free, same.trans adding, ?_⟩
      exact fun other different => (alike other different).trans (others other different)

/-- The mutex is unlocked again, whatever holds it, while a call of `addTask` waits for it and a
worker waits for a notification. -/
theorem unlocked_later {pool : ThreadPool workers User Task} (sound : pool.Sound)
    {caller : Caller workers User} {task : Task} (place : pool.adding caller = .lock task)
    {w : Fin workers} (waiting : pool.workers_ w = .waiting) :
    ∃ later, pool.Later later ∧ later.queue_mutex_ = none ∧ later.adding caller = .lock task ∧
      later.workers_ w = .waiting := by
  cases holds : pool.queue_mutex_ with
  | none => exact ⟨pool, .start rfl, holds, place, waiting⟩
  | some holder =>
    have within := (sound.mutex holder).mp holds
    by_cases emplacing : (pool.adding holder).holdsLock = true
    · obtain ⟨other, here⟩ : ∃ other, pool.adding holder = .emplace other := by
        cases here : pool.adding holder with
        | emplace other => exact ⟨other, rfl⟩
        | _ =>
          rw [here] at emplacing
          cases emplacing
      have different : caller ≠ holder := fun same => by
        rw [same, here] at place
        cases place
      refine ⟨_, later_step (.start rfl) (add_emplace here), rfl, ?_, waiting⟩
      rw [setAdding_adding, if_neg different]
      exact place
    · cases holder with
      | worker holder =>
        have held : (pool.workers_ holder).holdsLock = true :=
          (Bool.or_eq_true _ _ ▸ within).resolve_right emplacing
        obtain ⟨later, run, free, adding, others⟩ := unlocked_by_worker sound held
        have different : w ≠ holder := fun same => by
          rw [← same, waiting] at held
          cases held
        exact ⟨later, run, free, by rw [adding, place], by rw [others w different, waiting]⟩
      | user t =>
        exact absurd ((Bool.or_eq_true _ _ ▸ within).resolve_left Bool.false_ne_true) emplacing

/-- A thread that has passed the test of `stop_` comes to notify the worker that waits. -/
theorem pledged_notifies {pool : ThreadPool workers User Task} (sound : pool.Sound)
    {w : Fin workers} (waiting : pool.workers_ w = .waiting) {caller : Caller workers User}
    (pledged : (pool.adding caller).pledged = true) : ¬ pool.Silent := by
  have notifies {later : ThreadPool workers User Task} {task : Task} (run : pool.Later later)
      (place : later.adding caller = .notify task) (waiting : later.workers_ w = .waiting) :
      ¬ pool.Silent := by
    exact fun silent => silent later _ _ run (add_notify place waiting) ⟨task, place⟩
  have emplaces {later : ThreadPool workers User Task} {task : Task} (run : pool.Later later)
      (place : later.adding caller = .emplace task) (waiting : later.workers_ w = .waiting) :
      ¬ pool.Silent := by
    exact notifies (later_step run (add_emplace place))
      ((setAdding_adding _ caller caller _).trans (if_pos rfl)) waiting
  cases place : pool.adding caller with
  | notify task => exact notifies (.start rfl) place waiting
  | emplace task => exact emplaces (.start rfl) place waiting
  | lock task =>
    obtain ⟨later, run, free, there, still⟩ := unlocked_later sound place waiting
    exact emplaces (later_step run (add_lock there free))
      ((setAdding_adding _ caller caller _).trans (if_pos rfl)) still
  | _ =>
    rw [place] at pledged
    cases pledged

/-- In a run whose `notify_all` is heard the shutdown never hangs: in no state is a worker left
waiting after it without anybody to notify again. -/
theorem shutdown_not_hung {pool : ThreadPool workers User Task}
    (reachable : ReachableBy (ThreadPool.system workers User Task) ThreadPool.heard pool) :
    ¬ pool.Hung := by
  rintro ⟨notified, ⟨w, waiting⟩, silent⟩
  obtain ⟨caller, pledged⟩ := (reachable_attended reachable notified).waiting w waiting
  exact pledged_notifies (reachable_sound reachable) waiting pledged silent

/-- The worker waits before `~ThreadPool` begins, and is woken. -/
theorem shutdown_not_hung_waiting :
    ∃ pool, ReachableBy (ThreadPool.system 1 Empty Unit) ThreadPool.heard pool ∧
      pool.destructor.notified = true ∧ ¬ pool.Hung := by
  have woken : ∃ pool, ReachableBy (ThreadPool.system 1 Empty Unit) ThreadPool.heard pool ∧
      pool.destructor.notified = true :=
    exists_of_replay rfl (List.replicate 5 (.work 0) ++ [.destroy, .destroy]) (by decide)
  obtain ⟨pool, reachable, notified⟩ := woken
  exact ⟨pool, reachable, notified, shutdown_not_hung reachable⟩

/-! ### No notification comes -/

/-- Past `notify_all`, with no call of `addTask` on its way to notify. -/
structure ThreadPool.Abandoned (pool : ThreadPool workers User Task) : Prop where
  stopped : pool.stop_ = true
  notified : pool.destructor.notified = true
  unpledged : ∀ caller, (pool.adding caller).pledged = false

/-- `~ThreadPool` never goes back. -/
theorem notified_lasts {pool after : ThreadPool workers User Task}
    {event : PoolEvent workers User Task} (step : PoolStep pool event after)
    (notified : pool.destructor.notified = true) : after.destructor.notified = true := by
  cases step with
  | stop place =>
    rw [place] at notified
    cases notified
  | notifyAll => rfl
  | join => rfl
  | returns => rfl
  | _ => exact notified

/-- A stopped pool lets no further call of `addTask` in. -/
theorem abandoned_step {pool after : ThreadPool workers User Task}
    {event : PoolEvent workers User Task} (abandoned : pool.Abandoned)
    (step : PoolStep pool event after) : after.Abandoned := by
  refine ⟨stop_lasts step abandoned.stopped, notified_lasts step abandoned.notified,
    fun caller => ?_⟩
  have before := abandoned.unpledged caller
  rcases adding_step step caller with same | moved
  · rw [same]
    exact before
  · generalize pool.adding caller = here at moved before
    generalize after.adding caller = next at moved ⊢
    cases moved with
    | begins _ _ => rfl
    | throws _ _ => rfl
    | passes _ running => exact absurd (abandoned.stopped.symm.trans running) Bool.true_eq_false.mp
    | lock _ _ => cases before
    | emplace _ => cases before
    | returns _ => rfl

theorem abandoned_silent {pool : ThreadPool workers User Task} (abandoned : pool.Abandoned) :
    pool.Silent := by
  intro later event after run step notifies
  have still : later.Abandoned := by
    refine run.invariant ThreadPool.Abandoned ?_ fun _ _ _ _ abandoned _ step =>
      abandoned_step abandoned (poolStep_cases step)
    rintro _ rfl
    exact abandoned
  cases event with
  | add caller woken =>
    obtain ⟨task, place⟩ := notifies
    have unpledged := still.unpledged caller
    rw [place] at unpledged
    cases unpledged
  | destroy =>
    have notified := still.notified
    rw [show later.destructor = .notifyAll from notifies] at notified
    cases notified
  | _ => exact notifies

end Pool

/-- One worker reads `stop_` as false and finds the queue empty; `~ThreadPool` stores `stop_` and
notifies; the worker begins to wait. -/
theorem shutdown_hangs :
    ∃ pool, Reachable (ThreadPool.system 1 Empty Unit) pool ∧ pool.Hung := by
  have left : ∃ pool, Reachable (ThreadPool.system 1 Empty Unit) pool ∧
      pool.destructor.notified = true ∧ pool.workers_ 0 = .waiting ∧ pool.stop_ = true ∧
        pool.adding (.worker 0) = .idle :=
    exists_of_replay rfl (List.replicate 3 (.work 0) ++ [.destroy, .work 0, .destroy, .work 0])
      (by decide)
  obtain ⟨pool, reachable, notified, waits, stopped, outside⟩ := left
  refine ⟨pool, reachable, notified, ⟨0, waits⟩, abandoned_silent ⟨stopped, notified, ?_⟩⟩
  intro caller
  cases caller with
  | worker w =>
    obtain rfl : w = 0 := Subsingleton.elim w 0
    rw [outside]
    rfl
  | user t => exact t.elim

end MultiReactor
