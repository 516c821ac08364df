/-
This file models `EventLoop` (EventLoop.h, EventLoop.cpp) over arbitrary client
code. Several loops run side by side, each on the thread that constructed it,
next to any number of other threads. A thread is a stack of instructions still
to execute; a step executes the top one, so every interleaving of the threads
is a run. What a functor, a channel callback or a user thread does is left to a
client: it may touch its own world and call `runInLoop`, `queueInLoop` and
`quit` of any loop, whenever and as often as it likes.

A step makes at most one access to data another thread can reach -- a queue
under its mutex, an eventfd, a flag, a reference count -- together with the
thread-private work around it. `pendingFunctors_.push_back` under the mutex and
the `write` to the eventfd that follows it are therefore two steps, and so are
the `read` of the eventfd and the swap of the queue.
-/

import Mathlib.Logic.Function.Basic
import Mathlib.Data.Fintype.Sum
import Mathlib.Tactic.DeriveFintype
import MultiReactor.Transition

namespace MultiReactor

open Transition

/-! ### Threads and what they still have to execute -/

/-- The threads: the one each event loop was constructed on (its `threadId_`), and the others. -/
inductive Thread (Loop User : Type) where
  | loop (l : Loop)
  | user (t : User)
  deriving DecidableEq, Fintype

/-- What client code can leave on a thread: its own statements and calls into an event loop. -/
inductive Call (Loop Functor Code : Type) where
  | code (body : Code)
  | runInLoop (l : Loop) (cb : Functor)
  | queueInLoop (l : Loop) (cb : Functor)
  | quit (l : Loop)
  deriving DecidableEq

/-- What stands on a thread's stack: a call, the eventfd write that ends `queueInLoop` and
`quit`, or the destruction of a `std::function` whose scope ends. -/
inductive Instruction (Loop Functor Code : Type) where
  | call (made : Call Loop Functor Code)
  | wakeup (l : Loop)
  | destroy (cb : Functor)
  deriving DecidableEq

/-- An entry of `active_channels`: the loop's own `eventfdchannel_` or a channel of the client. -/
inductive Ready (Channel : Type) where
  | eventfd
  | channel (ch : Channel)
  deriving DecidableEq

/-- Where a loop's thread stands in `EventLoop::loop`. `active` is the part of
`active_channels` the range-for has not reached. -/
inductive Position (Functor Channel : Type) where
  /-- not inside `loop()` -/
  | outside
  /-- at `while(!quit_.load())` -/
  | test
  /-- inside `epoll_.poll(-1)` -/
  | poll
  /-- at the head of the range-for over `active_channels` -/
  | dispatch (active : List (Ready Channel))
  /-- inside `ch->handleEvent()` of a client channel -/
  | handleEvent (ch : Channel) (active : List (Ready Channel))
  /-- inside the eventfd channel's `handleEvent`, before the `read` -/
  | handleReadEventFd (active : List (Ready Channel))
  /-- in `doPendingFunctors`, before the swap under the mutex -/
  | swap (active : List (Ready Channel))
  /-- in the range-for over `functors`; the last entry of `executed` may still be running -/
  | execute (executed rest : List Functor) (active : List (Ready Channel))
  /-- at the end of `doPendingFunctors`, destroying the vector `functors` -/
  | clear (functors : List Functor) (active : List (Ready Channel))
  deriving DecidableEq

/-- The members of one `EventLoop` and where its thread stands. `eventfd_` is the counter of
the kernel object. -/
structure EventLoop (Functor Channel : Type) where
  quit_ : Bool
  eventfd_ : Nat
  pendingFunctors_ : List Functor
  position : Position Functor Channel

/-- A freshly constructed `EventLoop`. -/
def EventLoop.fresh {Functor Channel : Type} : EventLoop Functor Channel :=
  { quit_ := false, eventfd_ := 0, pendingFunctors_ := [], position := .outside }

/-- The largest value an eventfd counter holds. -/
def eventfdMax : Nat := 2 ^ 64 - 2

/-- The number of events one `epoll_wait` returns at most: the size of `active_events_`. -/
def maxEvents : Nat := 64

/-- `EventLoop::wakeup`: the write of 1 adds to the counter, or fails (and is only logged) when
the counter would overflow. -/
def EventLoop.wakeup {Functor Channel : Type} (eventLoop : EventLoop Functor Channel) :
    EventLoop Functor Channel :=
  { eventLoop with
    eventfd_ := if eventLoop.eventfd_ < eventfdMax then eventLoop.eventfd_ + 1
      else eventLoop.eventfd_ }

/-- The critical section of `EventLoop::queueInLoop`. -/
def EventLoop.pushBack {Functor Channel : Type} (eventLoop : EventLoop Functor Channel)
    (cb : Functor) : EventLoop Functor Channel :=
  { eventLoop with pendingFunctors_ := eventLoop.pendingFunctors_ ++ [cb] }

/-- `quit_.store(true)`. -/
def EventLoop.storeQuit {Functor Channel : Type} (eventLoop : EventLoop Functor Channel) :
    EventLoop Functor Channel :=
  { eventLoop with quit_ := true }

/-- The loop with its thread moved on. -/
def EventLoop.at {Functor Channel : Type} (eventLoop : EventLoop Functor Channel)
    (position : Position Functor Channel) : EventLoop Functor Channel :=
  { eventLoop with position := position }

/-! ### The client and the machine -/

/-- The code outside `EventLoop`: what its statements, functors, channels and user threads do to
a world of its own, and the calls they make. `execute` is undefined where the statement is (a
destroyed object) or where the input does not fit the system call it makes. -/
structure Client (Loop User Functor Channel Code Input World : Type) where
  execute : Code → Input → World → Option (World × List (Call Loop Functor Code))
  /-- calling a functor -/
  invoke : Functor → List (Call Loop Functor Code)
  /-- calling `handleEvent` of a channel -/
  handleEvent : Channel → List (Call Loop Functor Code)
  /-- copying a functor -/
  copy : Functor → World → World
  /-- destroying a functor -/
  destroy : Functor → World → World
  /-- `epoll_wait` of a loop returning these client channels, if it can -/
  poll : Loop → List Channel → Input → World → Option World
  /-- a thread outside every loop beginning some call of its own -/
  begin : Thread Loop User → Input → World → Option (World × List (Call Loop Functor Code))

/-- The whole process: the client's world, the loops, and each thread's stack. -/
structure Machine (Loop User Functor Channel Code World : Type) where
  world : World
  loop : Loop → EventLoop Functor Channel
  stack : Thread Loop User → List (Instruction Loop Functor Code)

/-- What happens next: a thread executes the top of its stack, a loop's thread whose stack is
empty moves on in `EventLoop::loop` (`active` is what `epoll_wait` returns, if it is the next
thing), or an idle thread begins a call. The input is what the system calls return. -/
inductive Event (Loop User Channel Input : Type) where
  | run (thread : Thread Loop User) (input : Input)
  | advance (l : Loop) (active : List (Ready Channel)) (input : Input)
  | begin (thread : Thread Loop User) (input : Input)

/-- The thread that takes a step. -/
def Event.thread {Loop User Channel Input : Type} :
    Event Loop User Channel Input → Thread Loop User
  | .run thread _ => thread
  | .advance l _ _ => .loop l
  | .begin thread _ => thread

section Machine

variable {Loop User Functor Channel Code Input World : Type}

def Machine.setWorld (machine : Machine Loop User Functor Channel Code World) (world : World) :
    Machine Loop User Functor Channel Code World :=
  { machine with world := world }

@[simp] theorem setWorld_loop (machine : Machine Loop User Functor Channel Code World)
    (world : World) : (machine.setWorld world).loop = machine.loop := rfl

@[simp] theorem setWorld_stack (machine : Machine Loop User Functor Channel Code World)
    (world : World) : (machine.setWorld world).stack = machine.stack := rfl

@[simp] theorem setWorld_world (machine : Machine Loop User Functor Channel Code World)
    (world : World) : (machine.setWorld world).world = world := rfl

variable [DecidableEq Loop]

def Machine.setLoop (machine : Machine Loop User Functor Channel Code World) (l : Loop)
    (eventLoop : EventLoop Functor Channel) : Machine Loop User Functor Channel Code World :=
  { machine with loop := Function.update machine.loop l eventLoop }

@[simp] theorem setLoop_loop_self (machine : Machine Loop User Functor Channel Code World)
    (l : Loop) (eventLoop : EventLoop Functor Channel) :
    (machine.setLoop l eventLoop).loop l = eventLoop :=
  Function.update_self ..

theorem setLoop_loop_of_ne (machine : Machine Loop User Functor Channel Code World)
    {l other : Loop} (eventLoop : EventLoop Functor Channel) (different : other ≠ l) :
    (machine.setLoop l eventLoop).loop other = machine.loop other :=
  Function.update_of_ne different ..

@[simp] theorem setLoop_stack (machine : Machine Loop User Functor Channel Code World)
    (l : Loop) (eventLoop : EventLoop Functor Channel) :
    (machine.setLoop l eventLoop).stack = machine.stack := rfl

@[simp] theorem setLoop_world (machine : Machine Loop User Functor Channel Code World)
    (l : Loop) (eventLoop : EventLoop Functor Channel) :
    (machine.setLoop l eventLoop).world = machine.world := rfl

variable [DecidableEq User]

def Machine.setStack (machine : Machine Loop User Functor Channel Code World)
    (thread : Thread Loop User) (instructions : List (Instruction Loop Functor Code)) :
    Machine Loop User Functor Channel Code World :=
  { machine with stack := Function.update machine.stack thread instructions }

@[simp] theorem setStack_stack_self (machine : Machine Loop User Functor Channel Code World)
    (thread : Thread Loop User) (instructions : List (Instruction Loop Functor Code)) :
    (machine.setStack thread instructions).stack thread = instructions :=
  Function.update_self ..

theorem setStack_stack_of_ne (machine : Machine Loop User Functor Channel Code World)
    {thread other : Thread Loop User} (instructions : List (Instruction Loop Functor Code))
    (different : other ≠ thread) :
    (machine.setStack thread instructions).stack other = machine.stack other :=
  Function.update_of_ne different ..

@[simp] theorem setStack_loop (machine : Machine Loop User Functor Channel Code World)
    (thread : Thread Loop User) (instructions : List (Instruction Loop Functor Code)) :
    (machine.setStack thread instructions).loop = machine.loop := rfl

@[simp] theorem setStack_world (machine : Machine Loop User Functor Channel Code World)
    (thread : Thread Loop User) (instructions : List (Instruction Loop Functor Code)) :
    (machine.setStack thread instructions).world = machine.world := rfl

/-! ### Steps -/

/-- The client channels of a batch. -/
def channelsOf (active : List (Ready Channel)) : List Channel :=
  active.filterMap fun ready => match ready with
    | .eventfd => none
    | .channel ch => some ch

/-- A thread executes the instruction on top of its stack. -/
def Client.run (client : Client Loop User Functor Channel Code Input World)
    (machine : Machine Loop User Functor Channel Code World) (thread : Thread Loop User)
    (input : Input) : Option (Machine Loop User Functor Channel Code World) :=
  match machine.stack thread with
  | [] => none
  | .call (.code body) :: rest =>
    (client.execute body input machine.world).map fun result =>
      (machine.setWorld result.1).setStack thread (result.2.map .call ++ rest)
  | .call (.runInLoop l cb) :: rest =>
    -- `isInLoopThread()`: the parameter `cb` lives until the call of it has returned
    if thread = .loop l then
      some (machine.setStack thread ((client.invoke cb).map .call ++ .destroy cb :: rest))
    else
      some ((machine.setWorld (client.copy cb machine.world)).setStack thread
        (.call (.queueInLoop l cb) :: .destroy cb :: rest))
  | .call (.queueInLoop l cb) :: rest =>
    some ((machine.setLoop l ((machine.loop l).pushBack cb)).setStack thread (.wakeup l :: rest))
  | .call (.quit l) :: rest =>
    some ((machine.setLoop l (machine.loop l).storeQuit).setStack thread (.wakeup l :: rest))
  | .wakeup l :: rest =>
    some ((machine.setLoop l (machine.loop l).wakeup).setStack thread rest)
  | .destroy cb :: rest =>
    some ((machine.setWorld (client.destroy cb machine.world)).setStack thread rest)

/-- Whether a thread runs code of its own: the thread of a loop does so only before it enters
`loop()` and after it has left. -/
def Machine.outside (machine : Machine Loop User Functor Channel Code World) :
    Thread Loop User → Bool
  | .loop l => match (machine.loop l).position with
    | .outside => true
    | _ => false
  | .user _ => true

variable [DecidableEq Channel]

/-- The thread of a loop moves on in `EventLoop::loop`, nothing being left on its stack. -/
def Client.advance (client : Client Loop User Functor Channel Code Input World)
    (machine : Machine Loop User Functor Channel Code World) (l : Loop)
    (active : List (Ready Channel)) (input : Input) :
    Option (Machine Loop User Functor Channel Code World) :=
  let eventLoop := machine.loop l
  match eventLoop.position with
  | .outside => some (machine.setLoop l (eventLoop.at .test))
  | .test => some (machine.setLoop l (eventLoop.at (if eventLoop.quit_ then .outside else .poll)))
  | .poll =>
    -- level-triggered readiness: the eventfd is reported only while its counter is positive
    if active.Nodup ∧ active.length ≤ maxEvents ∧ (.eventfd ∈ active → 0 < eventLoop.eventfd_) then
      (client.poll l (channelsOf active) input machine.world).map fun world =>
        (machine.setWorld world).setLoop l (eventLoop.at (.dispatch active))
    else none
  | .dispatch [] => some (machine.setLoop l (eventLoop.at .test))
  | .dispatch (.eventfd :: rest) =>
    some (machine.setLoop l (eventLoop.at (.handleReadEventFd rest)))
  | .dispatch (.channel ch :: rest) =>
    some ((machine.setLoop l (eventLoop.at (.handleEvent ch rest))).setStack (.loop l)
      ((client.handleEvent ch).map .call))
  | .handleEvent _ rest => some (machine.setLoop l (eventLoop.at (.dispatch rest)))
  | .handleReadEventFd rest =>
    if 0 < eventLoop.eventfd_ then
      some (machine.setLoop l { eventLoop with eventfd_ := 0, position := .swap rest })
    else some (machine.setLoop l (eventLoop.at (.dispatch rest)))
  | .swap rest =>
    some (machine.setLoop l { eventLoop with
      pendingFunctors_ := [], position := .execute [] eventLoop.pendingFunctors_ rest })
  | .execute executed (cb :: rest) after =>
    some ((machine.setLoop l (eventLoop.at (.execute (executed ++ [cb]) rest after))).setStack
      (.loop l) ((client.invoke cb).map .call))
  | .execute executed [] after => some (machine.setLoop l (eventLoop.at (.clear executed after)))
  | .clear (cb :: rest) after =>
    some ((machine.setWorld (client.destroy cb machine.world)).setLoop l
      (eventLoop.at (.clear rest after)))
  | .clear [] after => some (machine.setLoop l (eventLoop.at (.dispatch after)))

/-- One step of the process. -/
def Client.step (client : Client Loop User Functor Channel Code Input World)
    (machine : Machine Loop User Functor Channel Code World) :
    Event Loop User Channel Input → Option (Machine Loop User Functor Channel Code World)
  | .run thread input => client.run machine thread input
  | .advance l active input =>
    if machine.stack (.loop l) = [] then client.advance machine l active input else none
  | .begin thread input =>
    if machine.stack thread = [] ∧ machine.outside thread then
      (client.begin thread input machine.world).map fun result =>
        (machine.setWorld result.1).setStack thread (result.2.map .call)
    else none

/-- The process at its start: fresh loops and nothing on any stack. -/
def Machine.start (world : World) : Machine Loop User Functor Channel Code World :=
  { world := world, loop := fun _ => .fresh, stack := fun _ => [] }

/-- The process as a transition system. -/
def Client.system (client : Client Loop User Functor Channel Code Input World) (world : World) :
    System (Machine Loop User Functor Channel Code World) (Event Loop User Channel Input) :=
  { initial := fun machine => machine = Machine.start world, step := client.step }

end Machine

end MultiReactor
