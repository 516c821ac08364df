/-
This file models how the sub reactors come up: `EventLoopThreadPool::start`
(EventLoopThreadPool.cpp), the `startLoop` it calls for each thread and the part
of `threadFunc` up to `loop.loop()` (EventLoopThread.cpp). A step makes at most
one access to what another thread can reach, so every interleaving of the
starting thread and the new ones is a run; a thread that waits may wake up
without a notification. It then proves that no notification is lost, that `start`
comes to its end, and that the pointers it leaves in `loops_` are those of the
loops the threads have constructed.
-/

import Mathlib.Data.Fintype.EquivFin
import Mathlib.Logic.Function.Basic
import MultiReactor.Transition

namespace MultiReactor

open Transition

/-! ### Where the threads stand -/

/-- Where a thread stands in `threadFunc`, up to `loop.loop()`. From its construction on the local
`loop` has an address. -/
inductive ThreadStart where
  /-- `std::thread` has not been constructed -/
  | unborn
  /-- at `EventLoop loop;` -/
  | construct
  /-- at the construction of `lock` -/
  | lock (loop : Nat)
  /-- at `loop_ = &loop` -/
  | store (loop : Nat)
  /-- at `cond_.notify_one()` -/
  | notify (loop : Nat)
  /-- at the end of the scope of `lock` -/
  | unlock (loop : Nat)
  /-- in `loop.loop()`: nobody else has had the pointer, so nobody has called `quit` -/
  | looping (loop : Nat)
  deriving DecidableEq

/-- Where the starting thread stands, in `startLoop` of the current thread or in the loop that calls
it. -/
inductive StartPlace where
  /-- at `i < threadNum_` -/
  | test
  /-- at `thread_ = std::thread(...)` -/
  | spawn
  /-- at the construction of `lock` -/
  | lock
  /-- at the predicate of `wait` -/
  | predicate
  /-- the predicate was false, and the thread is about to wait -/
  | block
  /-- in the wait set of `cond_` -/
  | waiting
  /-- woken, and about to lock the mutex again -/
  | relock
  /-- at the end of the scope of `lock` -/
  | unlock
  /-- at `return loop_` -/
  | read
  /-- at `threads_.push_back`, with what `startLoop` has returned -/
  | pushThread (loop : Option Nat)
  /-- at `loops_.push_back` -/
  | pushLoop (loop : Option Nat)
  | returned
  deriving DecidableEq

/-- Who can hold `mutex_` of an `EventLoopThread`. -/
inductive StartParty where
  | starter
  | thread
  deriving DecidableEq

/-! ### The pool -/

/-- An `EventLoopThread` and where its thread stands. `loop_` is a pointer, or `nullptr`. -/
structure StartingThread where
  mutex_ : Option StartParty
  loop_ : Option Nat
  threadFunc : ThreadStart

/-- `EventLoopThreadPool` while it starts. `threads` has the `EventLoopThread` of each round, and
`owner` the thread an `EventLoop` at an address belongs to. -/
structure StartingPool where
  i : Nat
  place : StartPlace
  threads : Nat → StartingThread
  threads_ : List Nat
  loops_ : List (Option Nat)
  owner : Nat → Option Nat

/-- What happens next: the starting thread moves on or wakes up without a notification, or a thread
moves on in `threadFunc`, with the address of its `loop` where it constructs it. -/
inductive StartEvent where
  | starter
  | wake
  | thread (j : Nat) (address : Nat)
  deriving DecidableEq

/-- `threadNum_`, as the constructor sets it. -/
def poolSize (threadNum : Int) : Int :=
  if threadNum < 0 then 0 else threadNum

def StartingThread.new : StartingThread :=
  { mutex_ := none, loop_ := none, threadFunc := .unborn }

/-- The pool when its constructor has returned. -/
def StartingPool.constructed : StartingPool :=
  { i := 0
    place := .test
    threads := fun _ => .new
    threads_ := []
    loops_ := []
    owner := fun _ => none }

def StartingPool.goTo (pool : StartingPool) (place : StartPlace) : StartingPool :=
  { pool with place := place }

def StartingPool.setThread (pool : StartingPool) (j : Nat) (thread : StartingThread) :
    StartingPool :=
  { pool with threads := Function.update pool.threads j thread }

/-- The `EventLoopThread` of this round. -/
def StartingPool.current (pool : StartingPool) : StartingThread :=
  pool.threads pool.i

/-- The starting thread has locked or unlocked `mutex_` of this round. -/
def StartingPool.setMutex (pool : StartingPool) (holder : Option StartParty) : StartingPool :=
  pool.setThread pool.i { pool.current with mutex_ := holder }

/-- The starting thread moves on. -/
def StartingPool.starter (threadNum : Int) (pool : StartingPool) : Option StartingPool :=
  match pool.place with
  | .test => some (pool.goTo (if pool.i < poolSize threadNum then .spawn else .returned))
  | .spawn =>
    some ((pool.setThread pool.i { pool.current with threadFunc := .construct }).goTo .lock)
  | .lock | .relock =>
    if pool.current.mutex_ = none then some ((pool.setMutex (some .starter)).goTo .predicate)
    else none
  | .predicate => some (pool.goTo (if pool.current.loop_ = none then .block else .unlock))
  | .block => some ((pool.setMutex none).goTo .waiting)
  | .waiting => none
  | .unlock => some ((pool.setMutex none).goTo .read)
  | .read => some (pool.goTo (.pushThread pool.current.loop_))
  | .pushThread loop =>
    some ({ pool with threads_ := pool.threads_ ++ [pool.i] }.goTo (.pushLoop loop))
  | .pushLoop loop =>
    some ({ pool with loops_ := pool.loops_ ++ [loop], i := pool.i + 1 }.goTo .test)
  | .returned => none

/-- `cond_.notify_one()` in a thread: the only one to wait can be the starting thread, in the round
of this thread. -/
def StartingPool.notifyOne (pool : StartingPool) (j : Nat) : StartingPool :=
  if pool.place = .waiting ∧ pool.i = j then pool.goTo .relock else pool

/-- A thread moves on in `threadFunc`. -/
def StartingPool.thread (pool : StartingPool) (j address : Nat) : Option StartingPool :=
  let thread := pool.threads j
  match thread.threadFunc with
  | .unborn => none
  | .construct =>
    -- two objects that exist have different addresses
    if pool.owner address = none then
      some ({ pool with owner := Function.update pool.owner address (some j) }.setThread j
        { thread with threadFunc := .lock address })
    else none
  | .lock loop =>
    if thread.mutex_ = none then
      some (pool.setThread j { thread with mutex_ := some .thread, threadFunc := .store loop })
    else none
  | .store loop =>
    some (pool.setThread j { thread with loop_ := some loop, threadFunc := .notify loop })
  | .notify loop =>
    some ((pool.notifyOne j).setThread j { thread with threadFunc := .unlock loop })
  | .unlock loop =>
    some (pool.setThread j { thread with mutex_ := none, threadFunc := .looping loop })
  | .looping _ => none

def StartingPool.step (threadNum : Int) (pool : StartingPool) : StartEvent → Option StartingPool
  | .starter => pool.starter threadNum
  | .wake => if pool.place = .waiting then some (pool.goTo .relock) else none
  | .thread j address => pool.thread j address

/-- `EventLoopThreadPool::start` as a transition system. -/
def StartingPool.system (threadNum : Int) : System StartingPool StartEvent where
  initial pool := pool = .constructed
  step := StartingPool.step threadNum

/-! ### What is known on the way -/

/-- The address of the local `loop`. -/
def ThreadStart.loop : ThreadStart → Option Nat
  | .unborn | .construct => none
  | .lock loop | .store loop | .notify loop | .unlock loop | .looping loop => some loop

/-- What `loop_` points to. -/
def ThreadStart.stored : ThreadStart → Option Nat
  | .unborn | .construct | .lock _ | .store _ => none
  | .notify loop | .unlock loop | .looping loop => some loop

/-- Whether the thread has locked `mutex_`. -/
def ThreadStart.holds : ThreadStart → Bool
  | .store _ | .notify _ | .unlock _ => true
  | .unborn | .construct | .lock _ | .looping _ => false

/-- Whether the thread has yet to notify. -/
def ThreadStart.willNotify : ThreadStart → Bool
  | .construct | .lock _ | .store _ | .notify _ => true
  | .unborn | .unlock _ | .looping _ => false

def ThreadStart.isBorn : ThreadStart → Bool
  | .unborn => false
  | .construct | .lock _ | .store _ | .notify _ | .unlock _ | .looping _ => true

/-- Whether the starting thread has locked `mutex_` of this round. -/
def StartPlace.holds : StartPlace → Bool
  | .predicate | .block | .unlock => true
  | .test | .spawn | .lock | .waiting | .relock | .read | .pushThread _ | .pushLoop _
  | .returned => false

/-- The members of an `EventLoopThread` are what its thread and the starting thread have made of
them. -/
structure StartingThread.Agrees (thread : StartingThread) (held : Bool) : Prop where
  loop_ : thread.loop_ = thread.threadFunc.stored
  mutex_ : thread.mutex_ =
    if thread.threadFunc.holds then some .thread else if held then some .starter else none
  excludes : held = true → thread.threadFunc.holds = false

/-- Where the thread of this round can be. The starting thread waits only for a notification that is
still to come, and goes on only when the thread is in `loop.loop()`. -/
def StartPlace.Knows (thread : ThreadStart) : StartPlace → Prop
  | .test | .spawn | .returned => thread = .unborn
  | .lock | .relock | .predicate => thread.isBorn = true
  | .block => thread.isBorn = true ∧ thread.stored = none
  | .waiting => thread.willNotify = true
  | .unlock | .read => ∃ loop, thread = .looping loop
  | .pushThread loop | .pushLoop loop => ∃ here, loop = some here ∧ thread = .looping here

/-- How many threads have been pushed to `threads_`. -/
def StartPlace.pushed (i : Nat) : StartPlace → Nat
  | .pushLoop _ => i + 1
  | .test | .spawn | .lock | .predicate | .block | .waiting | .relock | .unlock | .read
  | .pushThread _ | .returned => i

/-- Whether the round is one of the loop's. -/
def StartPlace.InRange (threadNum : Int) (i : Nat) : StartPlace → Prop
  | .test => i ≤ (poolSize threadNum).toNat
  | .returned => i = (poolSize threadNum).toNat
  | .spawn | .lock | .predicate | .block | .waiting | .relock | .unlock | .read | .pushThread _
  | .pushLoop _ => i < (poolSize threadNum).toNat

/-- What is known of the pool: the threads of the rounds before are in `loop.loop()`, those of the
rounds to come have not been constructed. -/
structure StartingPool.Starts (threadNum : Int) (pool : StartingPool) : Prop where
  range : pool.place.InRange threadNum pool.i
  past : ∀ j, j < pool.i → (pool.threads j).Agrees false ∧
    ∃ loop, (pool.threads j).threadFunc = .looping loop
  current : pool.current.Agrees pool.place.holds
  knows : pool.place.Knows pool.current.threadFunc
  future : ∀ j, pool.i < j → pool.threads j = .new
  owner : ∀ address j, pool.owner address = some j ↔
    (pool.threads j).threadFunc.loop = some address
  threads_ : pool.threads_ = List.range (pool.place.pushed pool.i)
  loops_ : pool.loops_ = (List.range pool.i).map fun j => (pool.threads j).loop_

section Steps

variable {threadNum : Int} {pool after : StartingPool}

@[simp] theorem goTo_current (place : StartPlace) : (pool.goTo place).current = pool.current := rfl

@[simp] theorem setThread_current (pool : StartingPool) (thread : StartingThread) :
    (pool.setThread pool.i thread).current = thread :=
  Function.update_self ..

theorem setThread_past {j : Nat} (thread : StartingThread) (before : j < pool.i) :
    (pool.setThread pool.i thread).threads j = pool.threads j :=
  Function.update_of_ne (Nat.ne_of_lt before) ..

theorem setThread_future {j : Nat} (thread : StartingThread) (later : pool.i < j) :
    (pool.setThread pool.i thread).threads j = pool.threads j :=
  Function.update_of_ne (Nat.ne_of_gt later) ..

/-- A thread that changes and keeps its `loop` leaves the owners as they are. -/
theorem StartingPool.Starts.owners (starts : pool.Starts threadNum) (thread : StartingThread)
    (same : thread.threadFunc.loop = pool.current.threadFunc.loop) (address j : Nat) :
    pool.owner address = some j ↔
      ((pool.setThread pool.i thread).threads j).threadFunc.loop = some address := by
  rw [starts.owner]
  by_cases here : j = pool.i
  · rw [here, show (pool.setThread pool.i thread).threads pool.i = thread from
      setThread_current _ _,
      same]
    rfl
  · rw [show (pool.setThread pool.i thread).threads j = pool.threads j from
      Function.update_of_ne here ..]

/-- The current `EventLoopThread` changes. -/
theorem StartingPool.Starts.setThread (starts : pool.Starts threadNum) {thread : StartingThread}
    {place : StartPlace} {owner : Nat → Option Nat} (range : place.InRange threadNum pool.i)
    (agrees : thread.Agrees place.holds) (knows : place.Knows thread.threadFunc)
    (owners : ∀ address j, owner address = some j ↔
      ((pool.setThread pool.i thread).threads j).threadFunc.loop = some address)
    (pushed : place.pushed pool.i = pool.place.pushed pool.i) :
    (({ pool with owner := owner }.setThread pool.i thread).goTo place).Starts threadNum where
  range := range
  past j before := by
    have same := setThread_past thread (show j < pool.i from before)
    obtain ⟨agrees, loop, looping⟩ := starts.past j before
    exact ⟨same ▸ agrees, loop, (congrArg StartingThread.threadFunc same).trans looping⟩
  current := by
    rw [goTo_current]
    exact (setThread_current pool thread).symm ▸ agrees
  knows := by
    rw [goTo_current]
    exact (setThread_current pool thread).symm ▸ knows
  future j later :=
    (setThread_future thread (show pool.i < j from later)).trans (starts.future j later)
  owner := owners
  threads_ := by
    show pool.threads_ = List.range (place.pushed pool.i)
    rw [pushed]
    exact starts.threads_
  loops_ := by
    show pool.loops_ = (List.range pool.i).map _
    rw [starts.loops_]
    refine List.map_congr_left fun j known => ?_
    exact congrArg StartingThread.loop_ (setThread_past thread (List.mem_range.mp known)).symm

/-- The starting thread moves on and changes nothing else. -/
theorem StartingPool.Starts.goTo (starts : pool.Starts threadNum) {place : StartPlace}
    (range : place.InRange threadNum pool.i) (holds : place.holds = pool.place.holds)
    (knows : place.Knows pool.current.threadFunc)
    (pushed : place.pushed pool.i = pool.place.pushed pool.i) :
    (pool.goTo place).Starts threadNum where
  range := range
  past := starts.past
  current := by
    rw [goTo_current, show (pool.goTo place).place = place from rfl, holds]
    exact starts.current
  knows := knows
  future := starts.future
  owner := starts.owner
  threads_ := by
    show pool.threads_ = List.range (place.pushed pool.i)
    rw [pushed]
    exact starts.threads_
  loops_ := starts.loops_

/-! ### The steps of the starting thread -/

theorem agrees_of_free {thread : StartingThread} (agrees : thread.Agrees false)
    (free : thread.mutex_ = none) : { thread with mutex_ := some .starter }.Agrees true := by
  have mutex_ := agrees.mutex_
  rw [free] at mutex_
  cases holds : thread.threadFunc.holds with
  | true =>
    rw [holds] at mutex_
    cases mutex_
  | false =>
    refine ⟨agrees.loop_, ?_, fun _ => holds⟩
    rw [show ThreadStart.holds _ = false from holds]
    rfl

theorem StartingThread.Agrees.release {thread : StartingThread} (agrees : thread.Agrees true) :
    { thread with mutex_ := none }.Agrees false := by
  refine ⟨agrees.loop_, ?_, fun held => by cases held⟩
  rw [show ThreadStart.holds _ = false from agrees.excludes rfl]
  rfl

/-- The starting thread has found `loop_` set under the mutex. -/
theorem looping_of_stored {thread : StartingThread} (agrees : thread.Agrees true)
    (set : thread.loop_ ≠ none) : ∃ loop, thread.threadFunc = .looping loop := by
  have free := agrees.excludes rfl
  rw [agrees.loop_] at set
  generalize thread.threadFunc = place at free set
  cases place with
  | looping loop => exact ⟨loop, rfl⟩
  | notify | unlock => cases free
  | _ => exact absurd rfl set

/-- A thread that has been born and has not stored `loop_` will notify. -/
theorem willNotify_of_unset {thread : ThreadStart} (born : thread.isBorn = true)
    (unset : thread.stored = none) : thread.willNotify = true := by
  cases thread with
  | unborn => cases born
  | unlock | looping => cases unset
  | _ => rfl

theorem StartingPool.Starts.pushThread (starts : pool.Starts threadNum) {loop : Option Nat}
    (place : pool.place = .pushThread loop) :
    ({ pool with threads_ := pool.threads_ ++ [pool.i] }.goTo (.pushLoop loop)).Starts
      threadNum where
  range := by
    have range := starts.range
    rw [place] at range
    exact range
  past := starts.past
  current := by
    have current := starts.current
    rw [place] at current
    exact current
  knows := by
    have knows := starts.knows
    rw [place] at knows
    exact knows
  future := starts.future
  owner := starts.owner
  threads_ := by
    have threads_ := starts.threads_
    rw [place] at threads_
    show pool.threads_ ++ [pool.i] = List.range (pool.i + 1)
    rw [threads_, List.range_succ]
    rfl
  loops_ := starts.loops_

theorem StartingPool.Starts.pushLoop (starts : pool.Starts threadNum) {loop : Option Nat}
    (place : pool.place = .pushLoop loop) :
    ({ pool with loops_ := pool.loops_ ++ [loop], i := pool.i + 1 }.goTo .test).Starts
      threadNum := by
  have range := starts.range
  have current := starts.current
  have knows := starts.knows
  rw [place] at range current knows
  obtain ⟨here, rfl, looping⟩ := knows
  have new := starts.future (pool.i + 1) (Nat.lt_succ_self _)
  refine ⟨range, fun j before => ?_, ?_, ?_,
    fun j later => starts.future j (Nat.lt_of_succ_lt later), starts.owner, ?_, ?_⟩
  · rcases Nat.lt_succ_iff_lt_or_eq.mp before with earlier | rfl
    · exact starts.past j earlier
    · exact ⟨current, here, looping⟩
  · show (pool.threads (pool.i + 1)).Agrees false
    rw [new]
    exact ⟨rfl, rfl, fun held => by cases held⟩
  · show (pool.threads (pool.i + 1)).threadFunc = .unborn
    rw [new]
    rfl
  · have threads_ := starts.threads_
    rw [place] at threads_
    exact threads_
  · show pool.loops_ ++ [some here] =
      (List.range (pool.i + 1)).map fun j => (pool.threads j).loop_
    have stored : pool.current.loop_ = some here := by
      rw [current.loop_, looping]
      rfl
    rw [List.range_succ, List.map_append, ← starts.loops_, List.map_singleton]
    exact congrArg (pool.loops_ ++ [·]) stored.symm

theorem StartingPool.Starts.starter (starts : pool.Starts threadNum)
    (step : pool.starter threadNum = some after) : after.Starts threadNum := by
  have range := starts.range
  have current := starts.current
  have knows := starts.knows
  unfold StartingPool.starter at step
  split at step <;> rename_i place <;> rw [place] at range current knows
  · have nonneg : (pool.i : Int) < poolSize threadNum ↔ pool.i < (poolSize threadNum).toNat :=
      Int.lt_toNat.symm
    cases step
    split
    · exact starts.goTo (nonneg.mp ‹_›) (place ▸ rfl) knows (place ▸ rfl)
    · rename_i last
      have full := Nat.le_antisymm range (Nat.le_of_not_lt fun more => last (nonneg.mpr more))
      exact starts.goTo full (place ▸ rfl) knows (place ▸ rfl)
  · cases step
    have unborn : pool.current.threadFunc = .unborn := knows
    refine starts.setThread range ⟨?_, ?_, fun held => by cases held⟩ rfl
      (starts.owners _ (unborn ▸ rfl)) (place ▸ rfl)
    · exact current.loop_.trans (unborn ▸ rfl)
    · exact current.mutex_.trans (unborn ▸ rfl)
  · split at step
    · cases step
      exact starts.setThread range (agrees_of_free current ‹_›) knows (starts.owners _ rfl)
        (place ▸ rfl)
    · cases step
  · split at step
    · cases step
      exact starts.setThread range (agrees_of_free current ‹_›) knows (starts.owners _ rfl)
        (place ▸ rfl)
    · cases step
  · cases step
    split
    · rename_i unset
      exact starts.goTo range (place ▸ rfl) ⟨knows, current.loop_.symm.trans unset⟩ (place ▸ rfl)
    · rename_i set
      exact starts.goTo range (place ▸ rfl) (looping_of_stored current set) (place ▸ rfl)
  · cases step
    exact starts.setThread range current.release (willNotify_of_unset knows.1 knows.2)
      (starts.owners _ rfl) (place ▸ rfl)
  · cases step
  · cases step
    exact starts.setThread range current.release knows (starts.owners _ rfl) (place ▸ rfl)
  · cases step
    obtain ⟨loop, looping⟩ := knows
    exact starts.goTo range (place ▸ rfl) ⟨loop, current.loop_.trans (looping ▸ rfl), looping⟩
      (place ▸ rfl)
  · cases step
    exact starts.pushThread place
  · cases step
    exact starts.pushLoop place
  · cases step

/-! ### The steps of a thread -/

/-- Only the thread of this round can take a step. -/
theorem StartingPool.Starts.thread_current (starts : pool.Starts threadNum) {j address : Nat}
    (step : pool.thread j address = some after) : j = pool.i := by
  rcases Nat.lt_trichotomy j pool.i with before | same | later
  · obtain ⟨-, loop, looping⟩ := starts.past j before
    unfold StartingPool.thread at step
    simp only [looping] at step
    cases step
  · exact same
  · unfold StartingPool.thread at step
    simp only [starts.future j later, StartingThread.new] at step
    cases step

/-- Where the starting thread is while a thread moves on and has yet to notify. -/
theorem StartPlace.Knows.moves {place : StartPlace} {thread next : ThreadStart}
    (knows : place.Knows thread) (before : thread.willNotify = true)
    (after : next.willNotify = true)
    (stored : next.stored = thread.stored ∨ place.holds = false) : place.Knows next := by
  have born : next.isBorn = true := by
    cases next <;> first | rfl | cases after
  cases place with
  | test | spawn | returned =>
    rw [show thread = .unborn from knows] at before
    cases before
  | lock | relock | predicate => exact born
  | block =>
    rcases stored with same | free
    · exact ⟨born, same.trans knows.2⟩
    · cases free
  | waiting => exact after
  | unlock | read =>
    obtain ⟨loop, rfl⟩ := knows
    cases before
  | pushThread | pushLoop =>
    obtain ⟨loop, -, rfl⟩ := knows
    cases before

/-- While a thread has locked the mutex the starting thread has not. -/
theorem StartingThread.Agrees.starter_free {thread : StartingThread} {held : Bool}
    (agrees : thread.Agrees held) (holds : thread.threadFunc.holds = true) : held = false := by
  cases held with
  | false => rfl
  | true => cases (agrees.excludes rfl).symm.trans holds

theorem StartingPool.Starts.construct (starts : pool.Starts threadNum) {address : Nat}
    (place : pool.current.threadFunc = .construct) (free : pool.owner address = none) :
    ({ pool with owner := Function.update pool.owner address (some pool.i) }.setThread pool.i
      { pool.current with threadFunc := .lock address }).Starts threadNum := by
  have current := starts.current
  have knows := starts.knows
  rw [place] at knows
  have agrees : { pool.current with threadFunc := .lock address }.Agrees pool.place.holds :=
    ⟨current.loop_.trans (place ▸ rfl), current.mutex_.trans (place ▸ rfl), fun _ => rfl⟩
  have unowned (k : Nat) : (pool.threads k).threadFunc.loop ≠ some address := fun own => by
    cases free.symm.trans ((starts.owner address k).mpr own)
  show (({ pool with owner := Function.update pool.owner address (some pool.i) }.setThread pool.i
    _).goTo pool.place).Starts threadNum
  refine starts.setThread starts.range agrees (knows.moves rfl rfl (.inl rfl)) (fun other j => ?_)
    rfl
  by_cases here : j = pool.i
  · have self :
        (pool.setThread pool.i { pool.current with threadFunc := .lock address }).threads j =
          { pool.current with threadFunc := .lock address } := by
      rw [here]
      exact setThread_current _ _
    rw [self, here]
    by_cases same : other = address
    · rw [same, Function.update_self]
      exact iff_of_true rfl rfl
    · rw [Function.update_of_ne same, starts.owner]
      refine iff_of_false (fun own => ?_) fun equal => same (Option.some.inj equal).symm
      rw [show (pool.threads pool.i).threadFunc = .construct from place] at own
      cases own
  · rw [show (pool.setThread pool.i { pool.current with threadFunc := .lock address }).threads j =
      pool.threads j from Function.update_of_ne here ..]
    by_cases same : other = address
    · rw [same, Function.update_self]
      exact iff_of_false (fun equal => here (Option.some.inj equal).symm) (unowned j)
    · rw [Function.update_of_ne same]
      exact starts.owner other j

theorem StartingPool.Starts.notify (starts : pool.Starts threadNum) {loop : Nat}
    (place : pool.current.threadFunc = .notify loop) :
    ((pool.notifyOne pool.i).setThread pool.i
      { pool.current with threadFunc := .unlock loop }).Starts threadNum := by
  have range := starts.range
  have current := starts.current
  have knows := starts.knows
  have idle := current.starter_free (place ▸ rfl)
  rw [place] at knows
  have owners := starts.owners { pool.current with threadFunc := .unlock loop }
    (place ▸ rfl)
  have agrees : { pool.current with threadFunc := .unlock loop }.Agrees false :=
    ⟨current.loop_.trans (place ▸ rfl), current.mutex_.trans (by rw [place]; rfl),
      fun held => by cases held⟩
  unfold StartingPool.notifyOne
  split
  · rename_i waits
    rw [waits.1] at range
    have range : StartPlace.relock.InRange threadNum pool.i := range
    exact starts.setThread range agrees rfl owners (waits.1 ▸ rfl)
  · rename_i other
    refine starts.setThread range (idle ▸ agrees) ?_ owners rfl
    generalize pool.place = here at knows idle other
    cases here with
    | test | spawn | returned => cases knows
    | lock | relock => rfl
    | waiting => exact absurd ⟨rfl, rfl⟩ other
    | predicate | block | unlock => cases idle
    | read => exact knows.elim fun _ same => by cases same
    | pushThread | pushLoop => exact knows.elim fun _ same => by cases same.2

theorem StartingPool.Starts.thread (starts : pool.Starts threadNum) {j address : Nat}
    (step : pool.thread j address = some after) : after.Starts threadNum := by
  obtain rfl := starts.thread_current step
  have current := starts.current
  have knows := starts.knows
  unfold StartingPool.thread at step
  dsimp only at step
  split at step <;> rename_i place
  · cases step
  · split at step
    · cases step
      exact starts.construct place ‹_›
    · cases step
  · rename_i loop
    have place : pool.current.threadFunc = .lock loop := place
    rw [place] at knows
    split at step
    · rename_i free
      cases step
      have idle : pool.place.holds = false := by
        cases held : pool.place.holds with
        | false => rfl
        | true =>
          have mutex_ := current.mutex_
          rw [held, show pool.current.mutex_ = none from free, place] at mutex_
          cases mutex_
      exact starts.setThread starts.range ⟨current.loop_.trans (place ▸ rfl), rfl,
        fun held => by cases idle.symm.trans held⟩ (knows.moves rfl rfl (.inr idle))
        (starts.owners _ (place ▸ rfl)) rfl
    · cases step
  · rename_i loop
    have place : pool.current.threadFunc = .store loop := place
    have idle := current.starter_free (place ▸ rfl)
    rw [place] at knows
    cases step
    exact starts.setThread starts.range ⟨rfl, current.mutex_.trans (by rw [place]; rfl),
      fun held => by cases idle.symm.trans held⟩ (knows.moves rfl rfl (.inr idle))
      (starts.owners _ (place ▸ rfl)) rfl
  · cases step
    exact starts.notify place
  · rename_i loop
    have place : pool.current.threadFunc = .unlock loop := place
    have idle := current.starter_free (place ▸ rfl)
    rw [place] at knows
    cases step
    refine starts.setThread starts.range ⟨current.loop_.trans (place ▸ rfl), by rw [idle]; rfl,
      fun _ => rfl⟩ ?_ (starts.owners _ (place ▸ rfl)) rfl
    generalize pool.place = here at knows idle
    cases here with
    | test | spawn | returned | waiting => cases knows
    | lock | relock => rfl
    | predicate | block | unlock => cases idle
    | read => exact knows.elim fun _ same => by cases same
    | pushThread | pushLoop => exact knows.elim fun _ same => by cases same.2
  · cases step

theorem starts_step (starts : pool.Starts threadNum) {event : StartEvent}
    (step : pool.step threadNum event = some after) : after.Starts threadNum := by
  cases event with
  | starter => exact starts.starter step
  | wake =>
    have range := starts.range
    have knows := starts.knows
    simp only [StartingPool.step] at step
    split at step
    · rename_i place
      rw [place] at range knows
      cases step
      refine starts.goTo range (place ▸ rfl) ?_ (place ▸ rfl)
      have willNotify : pool.current.threadFunc.willNotify = true := knows
      show pool.current.threadFunc.isBorn = true
      generalize pool.current.threadFunc = thread at willNotify
      cases thread <;> first | rfl | cases willNotify
    · cases step
  | thread j address => exact starts.thread step

theorem reachable_starts (reachable : Reachable (StartingPool.system threadNum) pool) :
    pool.Starts threadNum := by
  refine reachable.invariant (StartingPool.Starts threadNum) ?_ ?_
  · rintro _ rfl
    have new : StartingThread.new.Agrees false := ⟨rfl, rfl, fun held => (by cases held)⟩
    exact ⟨Nat.zero_le _, fun _ before => absurd before (Nat.not_lt_zero _), new, rfl,
      fun _ _ => rfl, fun _ _ => iff_of_false (fun same => (by cases same))
      (fun same => (by cases same)), rfl, rfl⟩
  · intro pool event after _ starts _ step
    exact starts_step starts step

end Steps

/-! ### No notification is lost -/

section Run

variable {threadNum : Int} {pool : StartingPool}

/-- There is room for one more object. -/
theorem StartingPool.Starts.exists_free (starts : pool.Starts threadNum) :
    ∃ address, pool.owner address = none := by
  obtain ⟨address, unused⟩ := Infinite.exists_notMem_finset
    ((List.range (pool.i + 1)).filterMap fun j => (pool.threads j).threadFunc.loop).toFinset
  refine ⟨address, Option.eq_none_iff_forall_ne_some.mpr fun j own => unused ?_⟩
  have loop := (starts.owner address j).mp own
  have begun : j < pool.i + 1 := by
    by_contra later
    rw [starts.future j (by omega)] at loop
    cases loop
  exact List.mem_toFinset.mpr (List.mem_filterMap.mpr ⟨j, List.mem_range.mpr begun, loop⟩)

/-- A thread that has begun and is not in `loop.loop()` yet can move on, but for a mutex that the
starting thread has locked. -/
theorem StartingPool.Starts.thread_moves (starts : pool.Starts threadNum)
    (born : pool.current.threadFunc.isBorn = true)
    (before : ∀ loop, pool.current.threadFunc ≠ .looping loop)
    (free : pool.place.holds = false) : ∃ address, (pool.thread pool.i address).isSome = true := by
  have mutex_ := starts.current.mutex_
  have owner := starts.exists_free
  rw [free] at mutex_
  unfold StartingPool.current at born before mutex_
  cases place : (pool.threads pool.i).threadFunc with
  | unborn =>
    rw [place] at born
    cases born
  | construct =>
    obtain ⟨address, unused⟩ := owner
    exact ⟨address, by simp [StartingPool.thread, place, unused]⟩
  | lock loop =>
    rw [place] at mutex_
    exact ⟨0, by simp [StartingPool.thread, place, show _ = none from mutex_]⟩
  | store loop | notify loop | unlock loop => exact ⟨0, by simp [StartingPool.thread, place]⟩
  | looping loop => exact absurd place (before loop)

/-- Until `start` has returned, some thread can take a step that is no spurious wakeup: the starting
thread never waits for a notification that has already been given, and never for the mutex in
vain. -/
theorem start_never_stuck (reachable : Reachable (StartingPool.system threadNum) pool)
    (running : pool.place ≠ .returned) :
    ∃ event, event ≠ .wake ∧ (pool.step threadNum event).isSome = true := by
  have starts := reachable_starts reachable
  have current := starts.current
  have knows := starts.knows
  have moves := starts.thread_moves
  have locks (idle : pool.place.holds = false) (born : pool.current.threadFunc.isBorn = true)
      (step : pool.current.mutex_ = none → (pool.starter threadNum).isSome = true) :
      ∃ event, event ≠ .wake ∧ (pool.step threadNum event).isSome = true := by
    by_cases free : pool.current.mutex_ = none
    · exact ⟨.starter, fun same => (by cases same), step free⟩
    · obtain ⟨address, moved⟩ := moves born (fun loop looping => free (by
        rw [current.mutex_, looping, idle]
        rfl)) idle
      exact ⟨.thread pool.i address, fun same => (by cases same), moved⟩
  cases place : pool.place with
  | returned => exact absurd place running
  | waiting =>
    rw [place] at knows
    have willNotify : pool.current.threadFunc.willNotify = true := knows
    have born : pool.current.threadFunc.isBorn = true := by
      generalize pool.current.threadFunc = thread at willNotify
      cases thread <;> first | rfl | cases willNotify
    obtain ⟨address, moved⟩ := moves born (fun loop looping => by
      rw [looping] at willNotify
      cases willNotify) (place ▸ rfl)
    exact ⟨.thread pool.i address, fun same => (by cases same), moved⟩
  | lock =>
    rw [place] at knows
    exact locks (place ▸ rfl) knows fun free => by simp [StartingPool.starter, place, free]
  | relock =>
    rw [place] at knows
    exact locks (place ▸ rfl) knows fun free => by simp [StartingPool.starter, place, free]
  | _ => exact ⟨.starter, fun same => (by cases same), by
      simp [StartingPool.step, StartingPool.starter, place]⟩

/-- The first thread has not begun, and the starting thread waits for it. -/
def waitRun : List StartEvent :=
  List.replicate 5 .starter

theorem start_never_stuck_waiting : ∃ pool : StartingPool, pool.place = .waiting ∧
    ∃ event, event ≠ .wake ∧ (pool.step 1 event).isSome = true := by
  have run : ∃ pool, Reachable (StartingPool.system 1) pool ∧ pool.place = .waiting :=
    exists_of_replay rfl waitRun (by decide)
  obtain ⟨pool, reachable, place⟩ := run
  exact ⟨pool, place, start_never_stuck reachable (by rw [place]; exact fun same => by cases same)⟩

/-! ### `start` comes to its end -/

/-- How many steps a thread has left before `loop.loop()`; its notification counts for the round of
`wait` it causes. -/
def ThreadStart.remaining : ThreadStart → Nat
  | .unborn => 9
  | .construct => 8
  | .lock _ => 7
  | .store _ => 6
  | .notify _ => 5
  | .unlock _ => 1
  | .looping _ => 0

/-- How many steps the starting thread has left in a round, with nothing to wait for. -/
def StartPlace.remaining : StartPlace → Nat
  | .test => 20
  | .spawn => 19
  | .lock | .relock => 18
  | .predicate => 17
  | .block => 16
  | .waiting => 15
  | .unlock => 14
  | .read => 13
  | .pushThread _ => 12
  | .pushLoop _ => 11
  | .returned => 0

/-- A bound on the steps that are left. -/
def StartingPool.remaining (threadNum : Int) (pool : StartingPool) : Nat :=
  20 * ((poolSize threadNum).toNat - pool.i) + pool.place.remaining +
    pool.current.threadFunc.remaining

/-- What a spurious wakeup costs. -/
def StartEvent.cost : StartEvent → Nat
  | .wake => 4
  | .starter | .thread _ _ => 0

/-- The starting thread moves on in its round. -/
theorem goTo_lowers {place : StartPlace} (lower : place.remaining < pool.place.remaining) :
    (pool.goTo place).remaining threadNum + 1 ≤ pool.remaining threadNum := by
  show 20 * (_ - pool.i) + place.remaining + pool.current.threadFunc.remaining + 1 ≤ _
  unfold StartingPool.remaining
  omega

theorem setMutex_lowers {place : StartPlace} (holder : Option StartParty)
    (lower : place.remaining < pool.place.remaining) :
    ((pool.setMutex holder).goTo place).remaining threadNum + 1 ≤ pool.remaining threadNum := by
  have same : (pool.setMutex holder).current.threadFunc = pool.current.threadFunc := by
    rw [StartingPool.setMutex, setThread_current]
  show 20 * (_ - pool.i) + place.remaining +
    (pool.setMutex holder).current.threadFunc.remaining + 1 ≤ _
  rw [same]
  unfold StartingPool.remaining
  omega

/-- A thread moves on. -/
theorem setThread_lowers {thread : StartingThread} (place : StartPlace)
    (owner : Nat → Option Nat)
    (lower : place.remaining + thread.threadFunc.remaining <
      pool.place.remaining + pool.current.threadFunc.remaining) :
    (({ pool with owner := owner }.setThread pool.i thread).goTo place).remaining threadNum + 1 ≤
      pool.remaining threadNum := by
  have same : ({ pool with owner := owner }.setThread pool.i thread).current = thread :=
    setThread_current { pool with owner := owner } thread
  show 20 * (_ - pool.i) + place.remaining +
    ({ pool with owner := owner }.setThread pool.i thread).current.threadFunc.remaining + 1 ≤ _
  rw [same]
  unfold StartingPool.remaining
  omega

theorem starter_lowers {after : StartingPool} (starts : pool.Starts threadNum)
    (step : pool.starter threadNum = some after) :
    after.remaining threadNum + 1 ≤ pool.remaining threadNum := by
  have range := starts.range
  have knows := starts.knows
  unfold StartingPool.starter at step
  split at step <;> rename_i place <;> rw [place] at range knows
  · cases step
    refine goTo_lowers ?_
    rw [place]
    split <;> decide
  · cases step
    have unborn : pool.current.threadFunc = .unborn := knows
    refine setThread_lowers _ pool.owner ?_
    rw [place, unborn]
    exact (by decide : 18 + 8 < 19 + 9)
  · split at step
    · cases step
      exact setMutex_lowers _ (place ▸ by decide)
    · cases step
  · split at step
    · cases step
      exact setMutex_lowers _ (place ▸ by decide)
    · cases step
  · cases step
    refine goTo_lowers ?_
    rw [place]
    split <;> decide
  · cases step
    exact setMutex_lowers _ (place ▸ by decide)
  · cases step
  · cases step
    exact setMutex_lowers _ (place ▸ by decide)
  · cases step
    exact goTo_lowers (place ▸ (by decide : 12 < 13))
  · cases step
    refine goTo_lowers ?_
    show _ < pool.place.remaining
    rw [place]
    exact (by decide : 11 < 12)
  · cases step
    have inRange : pool.i < (poolSize threadNum).toNat := range
    have new : pool.threads (pool.i + 1) = .new := starts.future _ (Nat.lt_succ_self _)
    show 20 * (_ - (pool.i + 1)) + 20 + (pool.threads (pool.i + 1)).threadFunc.remaining + 1 ≤ _
    rw [new, show StartingThread.new.threadFunc.remaining = 9 from rfl, StartingPool.remaining,
      place, show StartPlace.remaining (.pushLoop _) = 11 from rfl]
    omega
  · cases step

theorem thread_lowers {after : StartingPool} {j address : Nat} (starts : pool.Starts threadNum)
    (step : pool.thread j address = some after) :
    after.remaining threadNum + 1 ≤ pool.remaining threadNum := by
  obtain rfl := starts.thread_current step
  unfold StartingPool.thread at step
  dsimp only at step
  have moves {thread : StartingThread} (owner : Nat → Option Nat)
      (lower : thread.threadFunc.remaining < pool.current.threadFunc.remaining) :
      ({ pool with owner := owner }.setThread pool.i thread).remaining threadNum + 1 ≤
        pool.remaining threadNum :=
    setThread_lowers pool.place owner (Nat.add_lt_add_left lower _)
  split at step <;> rename_i place
  · cases step
  · split at step
    · cases step
      refine moves _ ?_
      rw [show pool.current.threadFunc = _ from place]
      exact (by decide : 7 < 8)
    · cases step
  · split at step
    · cases step
      refine moves pool.owner ?_
      rw [show pool.current.threadFunc = _ from place]
      exact (by decide : 6 < 7)
    · cases step
  · cases step
    refine moves pool.owner ?_
    rw [show pool.current.threadFunc = _ from place]
    exact (by decide : 5 < 6)
  · cases step
    unfold StartingPool.notifyOne
    split
    · rename_i waits
      refine setThread_lowers .relock pool.owner ?_
      rw [show pool.current.threadFunc = _ from place, waits.1]
      exact (by decide : 18 + 1 < 15 + 5)
    · refine moves pool.owner ?_
      rw [show pool.current.threadFunc = _ from place]
      exact (by decide : 1 < 5)
  · cases step
    refine moves pool.owner ?_
    rw [show pool.current.threadFunc = _ from place]
    exact (by decide : 0 < 1)
  · cases step

/-- `start` takes no more than so many steps, those of the new threads included, and four more for
each spurious wakeup. With the theorem before this one it always returns. -/
theorem start_bounded {run : Recorded StartingPool StartEvent}
    (reachable : Reachable (StartingPool.system threadNum).recorded run) :
    run.past.length ≤
      20 * (poolSize threadNum).toNat + 29 + paid StartEvent.cost run.past := by
  have bounded := length_le_of_potential (StartingPool.remaining threadNum) StartEvent.cost
    (20 * (poolSize threadNum).toNat + 29) ?_ ?_ reachable
  · omega
  · rintro _ rfl
    exact Nat.le_refl _
  · intro pool event after before step
    have starts := reachable_starts before
    cases event with
    | starter => exact starter_lowers starts step
    | wake =>
      have step : (if pool.place = .waiting then some (pool.goTo .relock) else none) =
        some after := step
      split at step
      · rename_i place
        cases step
        unfold StartingPool.remaining
        rw [place]
        show 20 * (_ - pool.i) + 18 + pool.current.threadFunc.remaining + 1 ≤
          20 * (_ - pool.i) + 15 + pool.current.threadFunc.remaining + 4
        omega
      · cases step
    | thread j address => exact thread_lowers starts step

/-- The thread is born, and `start` returns. -/
def startRun : List StartEvent :=
  waitRun ++ List.replicate 5 (.thread 0 100) ++ List.replicate 7 .starter

theorem start_bounded_one : ∃ run : Recorded StartingPool StartEvent,
    run.now.place = .returned ∧ run.past.length ≤ 49 := by
  have done : ∃ run, Reachable (StartingPool.system 1).recorded run ∧
      run.now.place = .returned ∧ paid StartEvent.cost run.past = 0 :=
    exists_of_replay (initial_recorded rfl) startRun (by decide)
  obtain ⟨run, reachable, place, cost⟩ := done
  have bounded := start_bounded reachable
  rw [cost] at bounded
  exact ⟨run, place, bounded⟩

/-! ### What `start` leaves -/

/-- In every state, `loops_` has the loop of each thread that has been started, in order: a pointer
to the `EventLoop` that this thread has constructed and is running. So no two are the same, and when
`start` has returned there are `threadNum_` of them. -/
theorem loops_of_threads (reachable : Reachable (StartingPool.system threadNum) pool) :
    (∀ j, j < pool.loops_.length → ∃ loop, pool.loops_[j]? = some (some loop) ∧
      pool.owner loop = some j ∧ (pool.threads j).threadFunc = .looping loop) ∧
    (pool.place = .returned → pool.loops_.length = (poolSize threadNum).toNat ∧
      pool.threads_ = List.range (poolSize threadNum).toNat) := by
  have starts := reachable_starts reachable
  have length : pool.loops_.length = pool.i := by
    rw [starts.loops_, List.length_map, List.length_range]
  refine ⟨fun j bound => ?_, fun place => ?_⟩
  · rw [length] at bound
    obtain ⟨agrees, loop, looping⟩ := starts.past j bound
    have stored : (pool.threads j).loop_ = some loop := by
      rw [agrees.loop_, looping]
      rfl
    refine ⟨loop, ?_, (starts.owner loop j).mpr (looping ▸ rfl), looping⟩
    rw [starts.loops_, List.getElem?_map, List.getElem?_range bound, ← stored]
    rfl
  · have range := starts.range
    have threads_ := starts.threads_
    rw [place] at range threads_
    have last : pool.i = (poolSize threadNum).toNat := range
    exact ⟨length.trans last, threads_.trans (congrArg List.range last)⟩

theorem loops_of_threads_one : ∃ pool : StartingPool, ∃ loop,
    pool.loops_[0]? = some (some loop) ∧ pool.owner loop = some 0 := by
  have run : ∃ pool, Reachable (StartingPool.system 1) pool ∧ pool.place = .returned :=
    exists_of_replay rfl startRun (by decide)
  obtain ⟨pool, reachable, place⟩ := run
  obtain ⟨each, all⟩ := loops_of_threads reachable
  have one : 0 < pool.loops_.length := by
    rw [(all place).1]
    decide
  obtain ⟨loop, first, owner, -⟩ := each 0 one
  exact ⟨pool, loop, first, owner⟩

end Run

end MultiReactor
