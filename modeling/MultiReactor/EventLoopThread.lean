/-
This file models `EventLoopThread` (EventLoopThread.h, EventLoopThread.cpp)
around a loop of the process, from the point where `startLoop` has returned:
what `threadFunc` still does, and `~EventLoopThread` on some other thread. The
loops run over arbitrary client code. It then proves when the `EventLoop`
outlives the destructor's use of it. `quit()` stores `quit_` and writes to the
eventfd in two steps, and `loop_` is tested without the mutex that guards its
reset, so the loop's thread may leave after the first step and destroy the
`EventLoop` before the second.
-/

import MultiReactor.TcpServer

namespace MultiReactor

open Transition

/-! ### Where the threads stand -/

/-- Where a thread stands in `EventLoopThread::threadFunc`. -/
inductive ThreadFunc where
  /-- in `loop.loop()`, or on the way there -/
  | loop
  /-- `loop()` has returned: at `loop_ = nullptr` -/
  | reset
  /-- `loop_` is `nullptr`: at the end of the scope of the local `loop` -/
  | leave
  /-- in `~EventLoop` of it -/
  | destroy
  | returned
  deriving DecidableEq

/-- Whether the `EventLoop` exists: its lifetime ends where its destructor begins. -/
def ThreadFunc.intact : ThreadFunc → Bool
  | .loop => true
  | .reset => true
  | .leave => true
  | .destroy => false
  | .returned => false

/-- Where a thread stands in `~EventLoopThread`. -/
inductive ThreadStop where
  /-- before `if(loop_ != nullptr)` -/
  | test
  /-- before the load of `loop_` in `loop_->quit()` -/
  | load
  /-- at `quit_.store(true)` in `EventLoop::quit` -/
  | quit
  /-- at the write to the eventfd that ends it -/
  | wakeup
  | join
  | returned
  deriving DecidableEq

/-- Whether the next step is one on the `EventLoop`, or loads the pointer for it. -/
def ThreadStop.accesses : ThreadStop → Bool
  | .test => false
  | .load => true
  | .quit => true
  | .wakeup => true
  | .join => false
  | .returned => false

/-- The loop an instruction is about, if it is about one. -/
def Instruction.accesses {Loop Functor Code : Type} : Instruction Loop Functor Code → Option Loop
  | .call (.code _) => none
  | .call (.runInLoop l _) => some l
  | .call (.queueInLoop l _) => some l
  | .call (.quit l) => some l
  | .wakeup l => some l
  | .destroy _ => none

section Steps

variable {Loop User Functor Channel Code Input World : Type}

/-- An `EventLoopThread` in its process. `loop_` says whether the pointer is set. -/
structure EventLoopThread (Loop User Functor Channel Code World : Type) where
  machine : Machine Loop User Functor Channel Code World
  loop_ : Bool
  threadFunc : ThreadFunc
  destructor : ThreadStop

/-- What happens next: some thread does what it does in the process, the loop's thread moves on in
`threadFunc`, or the destroying thread in `~EventLoopThread`. -/
inductive EventLoopThreadEvent (Loop User Channel Input : Type) where
  | process (event : Event Loop User Channel Input)
  | threadFunc
  | destructor

variable [DecidableEq Loop] [DecidableEq User] [DecidableEq Channel]

/-- Whether a thread may do this next: the loop's thread moves on in `loop()` only until it has
returned, and what another thread accesses must exist. -/
def EventLoopThread.permits (thread : EventLoopThread Loop User Functor Channel Code World)
    (l : Loop) : Event Loop User Channel Input → Bool
  | .run other _ =>
    ((thread.machine.stack other).head?.bind Instruction.accesses).all fun accessed =>
      accessed ≠ l || thread.threadFunc.intact
  | .advance m _ _ => m ≠ l || thread.threadFunc = .loop
  | .begin other _ => other ≠ .loop l || thread.threadFunc = .loop

/-- The thread of loop `l` moves on in `threadFunc`. It has returned from `loop()` when it is
outside with `quit_` set. `~EventLoop` destroys the functors that are left one by one. -/
def EventLoopThread.runThread (client : Client Loop User Functor Channel Code Input World)
    (l : Loop) (thread : EventLoopThread Loop User Functor Channel Code World) :
    Option (EventLoopThread Loop User Functor Channel Code World) :=
  let eventLoop := thread.machine.loop l
  match thread.threadFunc with
  | .loop =>
    if thread.machine.outside (.loop l) ∧ eventLoop.quit_ ∧ thread.machine.stack (.loop l) = [] then
      some { thread with threadFunc := .reset }
    else none
  | .reset => some { thread with loop_ := false, threadFunc := .leave }
  | .leave => some { thread with threadFunc := .destroy }
  | .destroy => match eventLoop.pendingFunctors_ with
    | [] => some { thread with threadFunc := .returned }
    | cb :: rest => some { thread with
        machine := (thread.machine.setWorld (client.destroy cb thread.machine.world)).setLoop l
          { eventLoop with pendingFunctors_ := rest } }
  | .returned => none

/-- `~EventLoopThread` moves on. It loads `loop_` twice; it is undefined where the second load finds
`nullptr`, or where the `EventLoop` it uses is gone. -/
def EventLoopThread.destroy (l : Loop)
    (thread : EventLoopThread Loop User Functor Channel Code World) :
    Option (EventLoopThread Loop User Functor Channel Code World) :=
  match thread.destructor with
  | .test => some { thread with destructor := if thread.loop_ then .load else .join }
  | .load => if thread.loop_ then some { thread with destructor := .quit } else none
  | .quit =>
    if thread.threadFunc.intact then
      some { thread with
        machine := thread.machine.setLoop l (thread.machine.loop l).storeQuit
        destructor := .wakeup }
    else none
  | .wakeup =>
    if thread.threadFunc.intact then
      some { thread with
        machine := thread.machine.setLoop l (thread.machine.loop l).wakeup
        destructor := .join }
    else none
  | .join => if thread.threadFunc = .returned then some { thread with destructor := .returned }
    else none
  | .returned => none

/-- One step. -/
def EventLoopThread.step (client : Client Loop User Functor Channel Code Input World) (l : Loop)
    (thread : EventLoopThread Loop User Functor Channel Code World) :
    EventLoopThreadEvent Loop User Channel Input →
      Option (EventLoopThread Loop User Functor Channel Code World)
  | .process event =>
    if thread.permits l event then
      (client.step thread.machine event).map fun machine => { thread with machine := machine }
    else none
  | .threadFunc => thread.runThread client l
  | .destructor => thread.destroy l

/-- The thread of loop `l` and its destructor as a transition system. `startLoop` has returned, so
`loop_` is set; the thread is in `loop()` or on the way there. -/
def EventLoopThread.system (client : Client Loop User Functor Channel Code Input World)
    (world : World) (l : Loop) :
    System (EventLoopThread Loop User Functor Channel Code World)
      (EventLoopThreadEvent Loop User Channel Input) where
  initial thread := thread =
    { machine := .start world, loop_ := true, threadFunc := .loop, destructor := .test }
  step := EventLoopThread.step client l

/-! ### The condition -/

/-- Whether the step is `loop_ = nullptr` in `threadFunc`. -/
def EventLoopThread.resets (thread : EventLoopThread Loop User Functor Channel Code World) :
    EventLoopThreadEvent Loop User Channel Input → Bool
  | .threadFunc => thread.threadFunc = .reset
  | _ => false

/-- The loop's thread does not reset `loop_` while the destructor is between its test of `loop_` and
the end of `quit()`. -/
def EventLoopThread.excludes : Guard (EventLoopThread Loop User Functor Channel Code World)
    (EventLoopThreadEvent Loop User Channel Input) := fun thread event =>
  thread.resets event = true → thread.destructor.accesses = false

instance (thread : EventLoopThread Loop User Functor Channel Code World)
    (event : EventLoopThreadEvent Loop User Channel Input) : Decidable (thread.excludes event) :=
  inferInstanceAs (Decidable (_ → _))

/-! ### The loop outlives its users -/

/-- `loop_` points to an `EventLoop` that exists, and the destructor uses it only while `loop_`
does. -/
structure EventLoopThread.Outlives (thread : EventLoopThread Loop User Functor Channel Code World) :
    Prop where
  pointer : thread.loop_ = true → thread.threadFunc = .loop ∨ thread.threadFunc = .reset
  user : thread.destructor.accesses = true → thread.loop_ = true

omit [DecidableEq Loop] [DecidableEq User] [DecidableEq Channel] in
theorem EventLoopThread.Outlives.intact
    {thread : EventLoopThread Loop User Functor Channel Code World} (outlives : thread.Outlives)
    (accesses : thread.destructor.accesses = true) : thread.threadFunc.intact = true := by
  rcases outlives.pointer (outlives.user accesses) with place | place <;> rw [place] <;> rfl

variable {client : Client Loop User Functor Channel Code Input World} {l : Loop}
  {thread after : EventLoopThread Loop User Functor Channel Code World}

omit [DecidableEq User] [DecidableEq Channel] in
/-- What `threadFunc` does to the pointer. -/
theorem runThread_outlives (outlives : thread.Outlives)
    (permitted : thread.threadFunc = .reset → thread.destructor.accesses = false)
    (step : thread.runThread client l = some after) : after.Outlives := by
  unfold EventLoopThread.runThread at step
  dsimp only at step
  split at step
  · rename_i place
    split at step
    · cases step
      exact ⟨fun _ => .inr rfl, outlives.user⟩
    · cases step
  · rename_i place
    cases step
    refine ⟨fun set => (by cases set), fun accesses => ?_⟩
    rw [show thread.destructor.accesses = true from accesses] at permitted
    cases permitted place
  · rename_i place
    cases step
    have unset : thread.loop_ ≠ true := fun set => by
      rcases outlives.pointer set with here | here <;> rw [place] at here <;> cases here
    exact ⟨fun set => absurd set unset, outlives.user⟩
  · rename_i place
    have unset : thread.loop_ ≠ true := fun set => by
      rcases outlives.pointer set with here | here <;> rw [place] at here <;> cases here
    split at step <;> cases step <;> exact ⟨fun set => absurd set unset, outlives.user⟩
  · cases step

omit [DecidableEq User] [DecidableEq Channel] in
/-- The destructor uses the `EventLoop` only where its test has found `loop_` set. -/
theorem destroy_outlives (outlives : thread.Outlives) (step : thread.destroy l = some after) :
    after.Outlives := by
  unfold EventLoopThread.destroy at step
  split at step
  · cases step
    refine ⟨outlives.pointer, fun accesses => ?_⟩
    by_contra unset
    have accesses : ThreadStop.accesses (if thread.loop_ then .load else .join) = true := accesses
    rw [if_neg unset] at accesses
    cases accesses
  · rename_i place
    split at step
    · cases step
      exact ⟨outlives.pointer, fun _ => outlives.user (by rw [place]; rfl)⟩
    · cases step
  · rename_i place
    split at step
    · cases step
      exact ⟨outlives.pointer, fun _ => outlives.user (by rw [place]; rfl)⟩
    · cases step
  · split at step
    · cases step
      exact ⟨outlives.pointer, fun accesses => by cases accesses⟩
    · cases step
  · split at step
    · cases step
      exact ⟨outlives.pointer, fun accesses => by cases accesses⟩
    · cases step
  · cases step

/-- In a run in which the loop's thread never resets `loop_` between the destructor's test of it and
the end of `quit()`, every step of the destructor on the `EventLoop` happens while that exists. -/
theorem loop_outlives_destructor {world : World}
    (reachable : ReachableBy (EventLoopThread.system client world l) EventLoopThread.excludes
      thread) (accesses : thread.destructor.accesses = true) :
    thread.threadFunc.intact = true := by
  refine EventLoopThread.Outlives.intact ?_ accesses
  refine reachable.invariant EventLoopThread.Outlives ?_ ?_
  · rintro _ rfl
    exact ⟨fun _ => .inl rfl, fun accesses => by cases accesses⟩
  · intro thread event after _ outlives permitted step
    cases event with
    | process event =>
      have step : (if thread.permits l event then
        (client.step thread.machine event).map fun machine => { thread with machine := machine }
        else none) = some after := step
      split at step
      · obtain ⟨machine, -, rfl⟩ := Option.map_eq_some_iff.mp step
        exact ⟨outlives.pointer, outlives.user⟩
      · cases step
    | threadFunc =>
      exact runThread_outlives outlives (fun place => permitted (decide_eq_true place)) step
    | destructor => exact destroy_outlives outlives step

end Steps

/-- The sub loop's thread enters `loop()`, and the destructor tests `loop_`, loads it and stores
`quit_`. -/
def quitBegun : List (EventLoopThreadEvent (LoopId 1) Unit ChannelId (Input 1)) :=
  [.process (moves firstLoop), .destructor, .destructor, .destructor]

/-- The destructor is about to write to the eventfd. -/
theorem loop_outlives_destructor_quit :
    ∃ thread : EventLoopThread (LoopId 1) Unit Functor ChannelId ServerCode (TcpServer 1),
      thread.destructor = .wakeup ∧ thread.threadFunc.intact = true := by
  have quits : ∃ thread, ReachableBy (EventLoopThread.system (TcpServer.client 1 Unit)
      (TcpServer.started 1 3 fun _ => false) (some 0)) EventLoopThread.excludes thread ∧
      thread.destructor = .wakeup := exists_of_replay rfl quitBegun (by decide)
  obtain ⟨thread, reachable, place⟩ := quits
  exact ⟨thread, place, loop_outlives_destructor reachable (by rw [place]; rfl)⟩

/-- The sub loop's thread finds `quit_` set, returns from `loop()` and destroys the `EventLoop`
while the destructor has not written to the eventfd yet. -/
theorem loop_gone : ∃ thread,
    Reachable (EventLoopThread.system (TcpServer.client 1 Unit)
      (TcpServer.started 1 3 fun _ => false) (some 0)) thread ∧
    thread.destructor = .wakeup ∧ thread.threadFunc = .returned :=
  exists_of_replay rfl (quitBegun ++ [.process (moves (some 0))] ++
    List.replicate 4 EventLoopThreadEvent.threadFunc) (by decide)

end MultiReactor
