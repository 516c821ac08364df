/-
This file is about the server without sub loops. Every functor then runs where
it is passed on, so a `handleClose` that a channel callback leads to erases the
map's entry and drops the last owner before `Channel::handleEvent` has returned:
the connection is destroyed under its own callbacks. A run in which no event and
no system call leads a callback to `handleClose`, and no user calls `forceClose`,
destroys no connection at all.
-/

import MultiReactor.Confinement
import MultiReactor.Quiescence

namespace MultiReactor

open Transition

variable {subLoops : Nat} {User : Type}

/-! ### What closes a connection -/

/-- Whether the result of the system call a statement makes leads it to `handleClose`. -/
def Statement.fails : Statement → IoResult → Bool
  | .handleRead, .recv .eof => true
  | .handleRead, .recv .error => true
  | .handleWriteLoop totalSent totalLen, .send (.count 0) => totalSent < totalLen
  | .handleWriteLoop totalSent totalLen, .send .error => totalSent < totalLen
  | _, _ => false

/-- Whether a mask leads `Channel::handleEvent` to the error callback. -/
def Events.alarming (events : Events) : Bool :=
  events.epollerr || events.epollhup

/-- A step that leads to no `handleClose`: `epoll_wait` reports no EPOLLERR and no EPOLLHUP on a
connection, `recv` returns neither 0 nor a hard error, `::send` in `handleWrite` returns neither,
and no user calls `forceClose`. -/
def gentle (machine : ServerMachine subLoops User) : ServerEvent subLoops User → Bool
  | .run thread input => match executing machine (.run thread input) with
    | some (.connection _ body) => !body.fails input.ioResult
    | _ => true
  | .advance _ active (.revents mask) =>
    (channelsOf active).all fun ch => ch = .listen || !(mask ch).alarming
  | .advance _ _ _ => true
  | .begin _ (.user call) => call.target.all fun target => target.2 ≠ .forceClose
  | .begin _ _ => true

/-- The guard of the runs whose steps are all gentle. -/
def Gentle : Guard (ServerMachine subLoops User) (ServerEvent subLoops User) :=
  fun machine event => gentle machine event = true

instance (machine : ServerMachine subLoops User) (event : ServerEvent subLoops User) :
    Decidable (Gentle machine event) :=
  inferInstanceAs (Decidable (_ = true))

/-- What leads to a close. -/
def Task.troubled (task : Task) : Bool :=
  task.requesting || task = .statement .handleError

theorem closing_troubled (task : Task) (closing : task.closing = true) :
    task.troubled = true := by
  simp [Task.troubled, Task.requesting, closing]

/-- Nothing has closed a connection or is about to. -/
structure Peaceful (connection : TcpConnection (LoopId subLoops))
    (count : (Task → Bool) → Nat) : Prop where
  opened : connection.closes = 0
  untroubled : count Task.troubled = 0
  calm : connection.channel_.revents_.alarming = false

section Peaceful

variable {connection now : TcpConnection (LoopId subLoops)} {stored storedNow held : Nat}
  {count countNow : (Task → Bool) → Nat} {used left : List Task}

/-- A turn that closes nothing, changes no mask and leaves nothing that leads to a close. -/
theorem Peaceful.keep (peaceful : Peaceful connection count)
    (exchange : Exchanges count countNow used left) (closes : now.closes = connection.closes)
    (revents : now.channel_.revents_.alarming = false)
    (untroubled : left.countP Task.troubled = 0) : Peaceful now countNow where
  opened := closes.trans peaceful.opened
  untroubled := by
    have change := (exchange Task.troubled).2
    have before := peaceful.untroubled
    omega
  calm := revents

/-- Executing a statement keeps the peace, if its system call does not fail. -/
theorem Peaceful.statement {body : Statement} {io : IoResult} {outcome : Outcome (LoopId subLoops)}
    (peaceful : Peaceful connection count) (staying : connection.state_ ≠ .kDisconnecting)
    (succeeds : body.fails io = false) (executes : Executes connection body io outcome)
    (exchange : Exchanges count countNow [.statement body]
      (outcome.next.filterMap Next.task)) : Peaceful outcome.connection countNow := by
  have calm := peaceful.calm
  have noTrouble : Task.troubled (.statement body) = false := by
    have used := (exchange Task.troubled).1
    rw [peaceful.untroubled, List.countP_singleton] at used
    by_contra trouble
    rw [if_pos (by simpa using trouble)] at used
    cases used
  have notStore : body ≠ .handleCloseStore := by
    rintro rfl
    cases noTrouble
  refine peaceful.keep exchange (executes.closes notStore)
    ((congrArg Events.alarming executes.channelCall.revents).trans calm) ?_
  cases executes with
  | errorCallback io masked =>
    rw [show (connection.channel_.revents_.epollerr || connection.channel_.revents_.epollhup) =
      false from calm] at masked
    cases masked
  | handleReadEof => cases succeeds
  | handleReadError => cases succeeds
  | handleWriteZero totalSent totalLen left =>
    exact absurd left (of_decide_eq_false succeeds)
  | handleWriteFailed totalSent totalLen left =>
    exact absurd left (of_decide_eq_false succeeds)
  | handleWriteNothing io empty =>
    rw [stopWriting_next]
    rfl
  | handleWriteDrained totalSent io drained =>
    rw [stopWriting_next, if_neg staying]
    rfl
  | sendInLoopDirect | sendInLoopBlocked | sendInLoopQueued =>
    rw [bufferRemaining_next]
    rfl
  | forceCloseConnected | forceCloseOther | forceCloseRetest | forceCloseSkipped | forceCloseStore
  | forceCloseInLoopConnected | forceCloseInLoopOther | forceCloseInLoopRetest
  | forceCloseInLoopSkipped | handleError | handleClose | handleCloseSkipped | handleCloseStore
  | handleCloseCallback | handleCloseCallbackUnset => cases noTrouble
  | _ => rfl

/-- Every gentle turn keeps the peace. -/
theorem Peaceful.turn {machine : ServerMachine subLoops User} {c : ConnectionId}
    {event : ServerEvent subLoops User} (peaceful : Peaceful connection count)
    (staying : connection.state_ ≠ .kDisconnecting) (permitted : Gentle machine event)
    (turn : Turn machine c event connection stored now storedNow used left)
    (exchange : Exchanges count countNow used left) : Peaceful now countNow := by
  cases turn with
  | statement thread input body rest connection stored outcome top alive executes =>
    refine peaceful.statement staying ?_ executes exchange
    simpa [Gentle, gentle, executing_run top] using permitted
  | reported l active mask connection stored idle place member alive registered =>
    have silent : (mask (.connection c)).alarming = false := by
      simpa using List.all_eq_true.mp permitted _ member
    exact peaceful.keep exchange rfl silent rfl
  | requested t call connection stored body made =>
    rcases target_cases made with rfl | ⟨msg, rfl⟩
    · simp [Gentle, gentle, made] at permitted
    · exact peaceful.keep exchange rfl peaceful.calm rfl
  | dropped event connection stored alive =>
    exact peaceful.keep exchange (closes_drop connection) peaceful.calm rfl
  | _ => exact peaceful.keep exchange rfl peaceful.calm rfl

end Peaceful

/-! ### Runs -/

section Reachable

variable [DecidableEq User] [Fintype User] {listenFd : Nat} {openFds : Nat → Bool}

theorem reachable_peaceful {machine : ServerMachine subLoops User} {c : ConnectionId}
    (reachable : ReachableBy (TcpServer.system subLoops User listenFd openFds) Gentle machine)
    {connection : TcpConnection (LoopId subLoops)}
    (found : machine.world.find c = some connection) :
    Peaceful connection (pending c machine) := by
  refine connection_invariant c (fun connection _ count => Peaceful connection count) ?_ ?_
    reachable found
  · intro subLoop fd _
    exact ⟨rfl, rfl, rfl⟩
  · intro machine event connection stored now storedNow used left after before permitted found
      peaceful turn exchange
    refine peaceful.turn (fun disconnecting => ?_) permitted turn exchange
    -- the close of a disconnecting connection would be ahead
    have ahead := (reachable_lively before.reachable found).closing disconnecting
    have none := (pending_mono closing_troubled).trans_eq peaceful.untroubled
    exact absurd none ahead.not_ge

/-- Without sub loops, a run whose steps are all gentle destroys no connection whose channel is in
the batch the loop iterates over, or being handled. -/
theorem single_reactor_lifetime {machine : ServerMachine 0 User} {c : ConnectionId}
    {l : LoopId 0}
    (reachable : ReachableBy (TcpServer.system 0 User listenFd openFds) Gentle machine)
    (batch : .channel (.connection c) ∈ (machine.loop l).position.batch) :
    ∃ connection, machine.world.find c = some connection ∧ connection.alive = true := by
  have here : machine.world.loopOf c = some l :=
    (reachable_server_placed reachable.reachable).batch l _ batch
  obtain ⟨connection, found, -⟩ := Option.map_eq_some_iff.mp here
  have opened := (reachable_peaceful reachable found).opened
  have stored : machine.world.stored c connection ≠ 0 := fun missing =>
    ((reachable_lively reachable.reachable found).unstored missing).ne' opened
  have counted := (reachable_owned reachable.reachable).counted c connection found
  exact ⟨connection, found, decide_eq_true (by omega)⟩

end Reachable

/-- Without sub loops, the loop accepts fd 7 and registers it. -/
def acceptHere : List (ServerEvent 0 Empty) :=
  [moves baseLoop, moves baseLoop, readable baseLoop [.channel .listen], moves baseLoop,
    steps (.loop baseLoop), .run (.loop baseLoop) (.accept (.client 7 true))] ++
  List.replicate 5 (steps (.loop baseLoop)) ++ [.run (.loop baseLoop) (.accept .again)] ++
  List.replicate 3 (moves baseLoop)

/-- The loop dispatches the connection, which becomes readable. -/
def dispatchHere : List (ServerEvent 0 Empty) :=
  [readable baseLoop [.channel (.connection 0)], moves baseLoop] ++
  List.replicate 2 (steps (.loop baseLoop))

/-- Nothing is left to receive. -/
theorem single_reactor_lifetime_again : ∃ machine : ServerMachine 0 Empty,
    .channel (.connection 0) ∈ (machine.loop baseLoop).position.batch ∧
      ∃ connection, machine.world.find 0 = some connection ∧ connection.alive = true := by
  have handled : ∃ machine, ReachableBy (TcpServer.system 0 Empty 3 fun _ => false) Gentle machine ∧
      .channel (.connection 0) ∈ (machine.loop baseLoop).position.batch :=
    exists_of_replay rfl (acceptHere ++ dispatchHere ++
      [.run (.loop baseLoop) (.io (.recv .again))]) (by decide)
  obtain ⟨machine, reachable, batch⟩ := handled
  exact ⟨machine, batch, single_reactor_lifetime reachable batch⟩

/-- The end of the stream destroys the connection while its `handleEvent` has still to test for
EPOLLOUT. -/
theorem single_reactor_dangling : ∃ machine : ServerMachine 0 Empty,
    Reachable (TcpServer.system 0 Empty 3 fun _ => false) machine ∧
      .channel (.connection 0) ∈ (machine.loop baseLoop).position.batch ∧
      .call (.code (.connection 0 .writeCallback)) ∈ machine.stack (.loop baseLoop) ∧
      ∃ connection ∈ machine.world.find 0, connection.alive = false :=
  exists_of_replay rfl (acceptHere ++ dispatchHere ++
    .run (.loop baseLoop) (.io (.recv .eof)) :: List.replicate 14 (steps (.loop baseLoop)))
    (by decide)

end MultiReactor
