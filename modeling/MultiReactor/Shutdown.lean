/-
This file models the end of the server: `~TcpServer` on the main thread, next
to the threads of the sub loops and to any users. The main thread is outside
`loop()` by then and has nothing on its stack. It sweeps `connections_` with
`forceClose`, clears the map, closes the listening socket and destroys the
thread pool, which quits each sub loop and joins its thread. The loops, the
connections and whatever is under way go on as before; a sub loop that has left
`loop()` destroys its `EventLoop` and with it the functors still queued there.

The members of a destroyed `EventLoop` are not there any more: a thread that
would access one has no further step. Nor has the sweep, when the entry it
stands on has been erased.
-/

import MultiReactor.EventLoopThread
import MultiReactor.ServerSteps

namespace MultiReactor

open Transition

variable {subLoops : Nat} {User : Type}

/-! ### Where the threads stand -/

/-- Where the main thread stands in `~TcpServer` while its stack is empty. An entry of
`connections_` is named by its key. -/
inductive ServerDestructor (subLoops : Nat) where
  /-- at the head of `for(auto it : connections_)` -/
  | sweep (visited ahead : List Nat)
  /-- in `connections_.clear()` -/
  | clear (ahead : List Nat)
  /-- before `close(listen_fd_)` -/
  | closeListen
  /-- in the destruction of `threads_`, before `if(loop_ != nullptr)` of the next one -/
  | quit (next : Nat)
  /-- before the load of `loop_` in `loop_->quit()` -/
  | load (i : Fin subLoops)
  /-- in `thread_.join()` of `~EventLoopThread` -/
  | join (i : Fin subLoops)
  | done
  deriving DecidableEq

/-- The process while the server is being destroyed. -/
structure Shutdown (subLoops : Nat) (User : Type) where
  machine : ServerMachine subLoops User
  threadFunc : Fin subLoops → ThreadFunc
  destructor : ServerDestructor subLoops

/-- What happens next: a thread does what it does while the server runs, the thread of a sub loop
moves on in `threadFunc`, or the main thread in `~TcpServer`. -/
inductive ShutdownEvent (subLoops : Nat) (User : Type) where
  | process (event : ServerEvent subLoops User)
  | threadFunc (i : Fin subLoops)
  | destructor

/-! ### What is still there -/

/-- Whether an `EventLoop` still has all its members. The base loop outlives the server. -/
def Shutdown.intact (shutdown : Shutdown subLoops User) : LoopId subLoops → Bool
  | none => true
  | some i => (shutdown.threadFunc i).intact

/-- Whether the thread of a loop may move on in `loop()`. The main thread has left it. -/
def Shutdown.loops (shutdown : Shutdown subLoops User) : LoopId subLoops → Bool
  | none => false
  | some i => shutdown.threadFunc i = .loop

/-- Whether a thread finds what it accesses in its next step. -/
def Shutdown.permits (shutdown : Shutdown subLoops User) : ServerEvent subLoops User → Bool
  | .run thread _ =>
    ((shutdown.machine.stack thread).head?.bind Instruction.accesses).all shutdown.intact
  | .advance l _ _ => shutdown.loops l
  | .begin _ _ => true

/-- Whether the entry the sweep stands on, the one visited last, is still in the map. -/
def TcpServer.standsOn (server : TcpServer subLoops) (visited : List Nat) : Bool :=
  visited.getLast?.all fun fd => (server.connections_ fd).isSome

/-! ### Steps -/

/-- The main thread: the base loop was constructed on it. -/
abbrev mainThread : Thread (LoopId subLoops) User := .loop baseLoop

/-- The main thread has come to another place in `~TcpServer`. -/
def Shutdown.goTo (shutdown : Shutdown subLoops User) (destructor : ServerDestructor subLoops) :
    Shutdown subLoops User :=
  { shutdown with destructor := destructor }

/-- The thread of a sub loop has come to another place in `threadFunc`. -/
def Shutdown.setThread (shutdown : Shutdown subLoops User) (i : Fin subLoops)
    (place : ThreadFunc) : Shutdown subLoops User :=
  { shutdown with threadFunc := Function.update shutdown.threadFunc i place }

def Shutdown.setMachine (shutdown : Shutdown subLoops User)
    (machine : ServerMachine subLoops User) : Shutdown subLoops User :=
  { shutdown with machine := machine }

/-- `~EventLoop`: the functors left in `pendingFunctors_` are destroyed one by one, and then the
epoll instance is closed. -/
def Shutdown.destroyLoop (shutdown : Shutdown subLoops User) (i : Fin subLoops) :
    Shutdown subLoops User :=
  let machine := shutdown.machine
  match (machine.loop (some i)).pendingFunctors_ with
  | [] =>
    (shutdown.setMachine
      (machine.setWorld (machine.world.setEpoll (some i) fun _ => none))).setThread i .returned
  | cb :: rest =>
    shutdown.setMachine ((machine.setWorld (machine.world.release cb.connection)).setLoop (some i)
      { machine.loop (some i) with pendingFunctors_ := rest })

/-- The thread of a sub loop moves on in `threadFunc`. It has returned from `loop()` when it is
outside with `quit_` set. -/
def Shutdown.runThread (shutdown : Shutdown subLoops User) (i : Fin subLoops) :
    Option (Shutdown subLoops User) :=
  match shutdown.threadFunc i with
  | .loop =>
    if shutdown.machine.outside (.loop (some i)) ∧ (shutdown.machine.loop (some i)).quit_ ∧
        shutdown.machine.stack (.loop (some i)) = [] then
      some (shutdown.setThread i .reset)
    else none
  | .reset => some (shutdown.setThread i .leave)
  | .leave => some (shutdown.setThread i .destroy)
  | .destroy => some (shutdown.destroyLoop i)
  | .returned => none

section Destructor

variable [DecidableEq User]

/-- The body of the sweep for one entry: `auto it` is a copy, which is destroyed when `forceClose`
has returned. -/
def Shutdown.visit (shutdown : Shutdown subLoops User) (c : ConnectionId) :
    Shutdown subLoops User :=
  shutdown.setMachine ((shutdown.machine.setWorld (shutdown.machine.world.share c)).setStack
    mainThread [.call (.code (.connection c .forceClose)), .call (.code (.release c))])

/-- The head of the range-for. -/
def Shutdown.sweep (shutdown : Shutdown subLoops User) (visited : List Nat) :
    List Nat → Option (Shutdown subLoops User)
  | [] => some (shutdown.goTo (.clear visited))
  | fd :: ahead => (shutdown.machine.world.connections_ fd).map fun c =>
      (shutdown.visit c).goTo (.sweep (visited ++ [fd]) ahead)

/-- `connections_.clear()` destroys the next entry. -/
def Shutdown.clear (shutdown : Shutdown subLoops User) :
    List Nat → Option (Shutdown subLoops User)
  | [] => some (shutdown.goTo .closeListen)
  | fd :: ahead => (shutdown.machine.world.connections_ fd).map fun c =>
      (shutdown.setMachine (shutdown.machine.setWorld
        ((shutdown.machine.world.erase fd).release c))).goTo (.clear ahead)

/-- `close(listen_fd_)`. -/
def Shutdown.closeListen (shutdown : Shutdown subLoops User) : Shutdown subLoops User :=
  (shutdown.setMachine (shutdown.machine.setWorld
    (shutdown.machine.world.closeFd shutdown.machine.world.listen_channel_.fd_))).goTo (.quit 0)

/-- Whether `loop_` of an `EventLoopThread` is set: `threadFunc` resets it when `loop()` has
returned. -/
def Shutdown.loop_ (shutdown : Shutdown subLoops User) (i : Fin subLoops) : Bool :=
  shutdown.threadFunc i = .loop ∨ shutdown.threadFunc i = .reset

/-- `loop_->quit()` in `~EventLoopThread`. -/
def Shutdown.quitThread (shutdown : Shutdown subLoops User) (i : Fin subLoops) :
    Shutdown subLoops User :=
  shutdown.setMachine (shutdown.machine.setStack mainThread [.call (.quit (some i))])

/-- The main thread moves on in `~TcpServer`, nothing being left on its stack. `~EventLoopThread`
loads `loop_` twice, and is undefined where the second load finds `nullptr`. -/
def Shutdown.destroy (shutdown : Shutdown subLoops User) : Option (Shutdown subLoops User) :=
  match shutdown.destructor with
  | .sweep visited ahead =>
    if shutdown.machine.world.standsOn visited then shutdown.sweep visited ahead else none
  | .clear ahead => shutdown.clear ahead
  | .closeListen => some shutdown.closeListen
  | .quit next =>
    if bound : next < subLoops then
      some (shutdown.goTo (if shutdown.loop_ ⟨next, bound⟩ then .load ⟨next, bound⟩
        else .join ⟨next, bound⟩))
    else some (shutdown.goTo .done)
  | .load i => if shutdown.loop_ i then some ((shutdown.quitThread i).goTo (.join i)) else none
  | .join i =>
    if shutdown.threadFunc i = .returned then some (shutdown.goTo (.quit (i + 1))) else none
  | .done => none

/-- One step of the process. -/
def Shutdown.step (shutdown : Shutdown subLoops User) :
    ShutdownEvent subLoops User → Option (Shutdown subLoops User)
  | .process event =>
    if shutdown.permits event then
      ((TcpServer.client subLoops User).step shutdown.machine event).map shutdown.setMachine
    else none
  | .threadFunc i => shutdown.runThread i
  | .destructor =>
    if shutdown.machine.stack mainThread = [] then shutdown.destroy else none

end Destructor

/-- The destruction of a running server as a transition system. It begins in any state the server
can come to in which the main thread is outside `loop()` and executes nothing; the order in which
the map is iterated is any. -/
def Shutdown.system (subLoops : Nat) (User : Type) [DecidableEq User] (listenFd : Nat)
    (openFds : Nat → Bool) : System (Shutdown subLoops User) (ShutdownEvent subLoops User) where
  initial shutdown :=
    Reachable (TcpServer.system subLoops User listenFd openFds) shutdown.machine ∧
      (shutdown.machine.loop baseLoop).position = .outside ∧
      shutdown.machine.stack mainThread = [] ∧ (∀ i, shutdown.threadFunc i = .loop) ∧
      ∃ order, shutdown.destructor = .sweep [] order ∧ order.Nodup ∧
        ∀ fd, fd ∈ order ↔ (shutdown.machine.world.connections_ fd).isSome = true
  step := Shutdown.step

/-! ### What a step is -/

/-- What a step of the destruction is. -/
inductive Destroys [DecidableEq User] (shutdown : Shutdown subLoops User) :
    ShutdownEvent subLoops User → Shutdown subLoops User → Prop where
  | process (event : ServerEvent subLoops User) (machine : ServerMachine subLoops User)
      (permitted : shutdown.permits event = true)
      (step : Step (TcpServer.client subLoops User) shutdown.machine event machine) :
      Destroys shutdown (.process event) (shutdown.setMachine machine)
  /-- the thread of a sub loop has left `loop()` or goes on from there -/
  | threadFunc (i : Fin subLoops) (place : ThreadFunc) (left : place ≠ .loop)
      (moved : place.intact = true → (shutdown.threadFunc i).intact = true) :
      Destroys shutdown (.threadFunc i) (shutdown.setThread i place)
  | destroyLoop (i : Fin subLoops) (place : shutdown.threadFunc i = .destroy) :
      Destroys shutdown (.threadFunc i) (shutdown.destroyLoop i)
  /-- the main thread comes to another place -/
  | goTo (destructor : ServerDestructor subLoops)
      (left : ∀ visited ahead, destructor ≠ .sweep visited ahead) :
      Destroys shutdown .destructor (shutdown.goTo destructor)
  | visit (visited ahead : List Nat) (fd : Nat) (c : ConnectionId)
      (empty : shutdown.machine.stack mainThread = [])
      (place : shutdown.destructor = .sweep visited (fd :: ahead))
      (entry : shutdown.machine.world.connections_ fd = some c) :
      Destroys shutdown .destructor ((shutdown.visit c).goTo (.sweep (visited ++ [fd]) ahead))
  | clear (ahead : List Nat) (fd : Nat) (c : ConnectionId)
      (place : shutdown.destructor = .clear (fd :: ahead))
      (entry : shutdown.machine.world.connections_ fd = some c) :
      Destroys shutdown .destructor ((shutdown.setMachine (shutdown.machine.setWorld
        ((shutdown.machine.world.erase fd).release c))).goTo (.clear ahead))
  | closeListen : Destroys shutdown .destructor shutdown.closeListen
  | quit (i : Fin subLoops) (empty : shutdown.machine.stack mainThread = []) :
      Destroys shutdown .destructor ((shutdown.quitThread i).goTo (.join i))

section Cases

variable [DecidableEq User] {shutdown after : Shutdown subLoops User}
  {event : ShutdownEvent subLoops User}

theorem runThread_cases {i : Fin subLoops} (step : shutdown.runThread i = some after) :
    Destroys shutdown (.threadFunc i) after := by
  unfold Shutdown.runThread at step
  split at step
  · rename_i place
    split at step
    · cases step
      exact .threadFunc i .reset (fun same => by cases same) fun _ => by rw [place]; rfl
    · cases step
  · rename_i place
    cases step
    exact .threadFunc i .leave (fun same => by cases same) fun _ => by rw [place]; rfl
  · rename_i place
    cases step
    exact .threadFunc i .destroy (fun same => by cases same) fun intact => by cases intact
  · rename_i place
    cases step
    exact .destroyLoop i place
  · cases step

theorem destructor_cases (empty : shutdown.machine.stack mainThread = [])
    (step : shutdown.destroy = some after) : Destroys shutdown .destructor after := by
  unfold Shutdown.destroy at step
  split at step
  · rename_i visited ahead place
    split at step
    · cases ahead with
      | nil =>
        cases step
        exact .goTo _ fun _ _ same => by cases same
      | cons fd ahead =>
        obtain ⟨c, entry, rfl⟩ := Option.map_eq_some_iff.mp step
        exact .visit visited ahead fd c empty place entry
    · cases step
  · rename_i ahead place
    cases ahead with
    | nil =>
      cases step
      exact .goTo _ fun _ _ same => by cases same
    | cons fd ahead =>
      obtain ⟨c, entry, rfl⟩ := Option.map_eq_some_iff.mp step
      exact .clear ahead fd c place entry
  · cases step
    exact .closeListen
  · split at step
    · cases step
      refine .goTo _ fun _ _ same => ?_
      split at same <;> cases same
    · cases step
      exact .goTo _ fun _ _ same => by cases same
  · split at step
    · cases step
      exact .quit _ empty
    · cases step
  · split at step
    · cases step
      exact .goTo _ fun _ _ same => by cases same
    · cases step
  · cases step

/-- The inversion of `Shutdown.step`. -/
theorem shutdown_cases (step : shutdown.step event = some after) :
    Destroys shutdown event after := by
  cases event with
  | process event =>
    rw [Shutdown.step] at step
    split at step
    · rename_i permitted
      obtain ⟨machine, moved, rfl⟩ := Option.map_eq_some_iff.mp step
      exact .process event machine permitted (step_cases moved)
    · cases step
  | threadFunc i => exact runThread_cases step
  | destructor =>
    rw [Shutdown.step] at step
    split at step
    · rename_i empty
      exact destructor_cases empty step
    · cases step

end Cases

end MultiReactor
