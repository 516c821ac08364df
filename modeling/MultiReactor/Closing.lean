/-
This file is about the end of a connection's life seen through `state_`.
`forceClose` tests the state and stores `kDisconnecting` in separate steps, on
any thread. As long as no such call stands between its test and its store when
the loop's thread stores `kDisconnected`, that store is the last one, and the
close callback is invoked at most once. Otherwise the late store undoes it, and
the functor it queues closes the connection again.
-/

import MultiReactor.Confinement
import MultiReactor.Quiescence

namespace MultiReactor

open Transition

variable {subLoops : Nat} {User : Type}

/-! ### The invariant -/

/-- The store of `handleClose`. -/
def Task.finishing : Task → Bool
  | .statement .handleCloseStore => true
  | _ => false

theorem finishing_inHand (task : Task) (finishing : task.finishing = true) :
    task.inHand = true := by
  rcases task with body | _ | _ | _ <;> first | cases finishing | skip
  cases body <;> first | rfl | cases finishing

/-- A disconnected connection has no store ahead, and it has been closed if and only if it is
disconnected. -/
structure Final (connection : TcpConnection (LoopId subLoops))
    (count : (Task → Bool) → Nat) : Prop where
  storing : connection.state_ = .kDisconnected → count Task.storing = 0
  finishing : connection.state_ = .kDisconnected → count Task.finishing = 0
  closed : 0 < connection.closes → connection.state_ = .kDisconnected
  once : connection.closes ≤ 1

/-- A disconnected connection does not go on to a store. -/
theorem Executes.no_store {connection : TcpConnection (LoopId subLoops)} {body : Statement}
    {io : IoResult} {outcome : Outcome (LoopId subLoops)}
    (executes : Executes connection body io outcome)
    (disconnected : connection.state_ = .kDisconnected) :
    (outcome.next.filterMap Next.task).countP Task.storing = 0 ∧
      (outcome.next.filterMap Next.task).countP Task.finishing = 0 := by
  cases executes with
  | forceCloseConnected io connected =>
    rw [disconnected] at connected
    cases connected
  | forceCloseRetest io disconnecting =>
    rw [disconnected] at disconnecting
    cases disconnecting
  | handleClose io opened => exact absurd disconnected opened
  | sendInLoopDirect msg sent connected empty bounded =>
    rw [disconnected] at connected
    cases connected
  | sendInLoopBlocked msg connected empty =>
    rw [disconnected] at connected
    cases connected
  | sendInLoopQueued msg io connected pending =>
    rw [disconnected] at connected
    cases connected
  | handleWriteNothing io empty =>
    rw [stopWriting_next]
    exact ⟨rfl, rfl⟩
  | handleWriteDrained totalSent io drained =>
    rw [stopWriting_next, if_neg (by rw [disconnected]; nofun)]
    exact ⟨rfl, rfl⟩
  | _ => exact ⟨rfl, rfl⟩

section Final

variable {connection now : TcpConnection (LoopId subLoops)} {stored storedNow held : Nat}
  {count countNow : (Task → Bool) → Nat} {used left : List Task}

/-- A turn that changes neither the state nor the record of closes, and leaves a store ahead only
of a connection that is not disconnected. -/
theorem Final.keep (final : Final connection count) (exchange : Exchanges count countNow used left)
    (state : now.state_ = connection.state_) (closes : now.closes = connection.closes)
    (ahead : connection.state_ = .kDisconnected →
      left.countP Task.storing = 0 ∧ left.countP Task.finishing = 0) : Final now countNow where
  storing disconnected := by
    rw [state] at disconnected
    have before := final.storing disconnected
    have change := exchange Task.storing
    have none := (ahead disconnected).1
    omega
  finishing disconnected := by
    rw [state] at disconnected
    have before := final.finishing disconnected
    have change := exchange Task.finishing
    have none := (ahead disconnected).2
    omega
  closed isClosed := state.trans (final.closed (closes ▸ isClosed))
  once := closes ▸ final.once

/-- A connection that is not disconnected and has not been closed. -/
theorem Final.of_open (state : connection.state_ ≠ .kDisconnected)
    (opened : connection.closes = 0) : Final connection count where
  storing disconnected := absurd disconnected state
  finishing disconnected := absurd disconnected state
  closed closed := absurd closed (opened ▸ Nat.lt_irrefl 0)
  once := opened ▸ Nat.zero_le 1

/-- Executing a statement keeps the invariant, if no store of `forceClose` is ahead when
`handleClose` makes its own. -/
theorem Final.statement {body : Statement} {io : IoResult} {outcome : Outcome (LoopId subLoops)}
    (final : Final connection count) (lively : Lively connection stored count)
    (alone : count Task.finishing ≤ 1)
    (unraced : body = .handleCloseStore → count Task.storing = 0)
    (executes : Executes connection body io outcome)
    (exchange : Exchanges count countNow [.statement body]
      (outcome.next.filterMap Next.task)) : Final outcome.connection countNow := by
  have state := executes.state
  by_cases finishing : body = .handleCloseStore
  · subst finishing
    cases executes with
    | handleCloseStore io =>
      have usedFinishing := (exchange Task.finishing)
      have usedStoring := (exchange Task.storing).2
      have opened : connection.state_ ≠ .kDisconnected := fun disconnected => by
        rw [final.finishing disconnected] at usedFinishing
        exact absurd usedFinishing.1 (by decide)
      have before : connection.closes = 0 :=
        Nat.eq_zero_of_not_pos fun closed => opened (final.closed closed)
      have closes := closes_store connection
      rw [before] at closes
      refine ⟨fun _ => ?_, fun _ => ?_, fun _ => rfl, closes.le⟩
      · rw [unraced rfl] at usedStoring
        exact usedStoring
      · have change := usedFinishing.2
        have one : [Task.statement .handleCloseStore].countP Task.finishing = 1 := rfl
        have none : [Task.statement .handleCloseCallback].countP Task.finishing = 0 := rfl
        simp only [yieldsChannel_next, List.filterMap_cons, Next.task, List.filterMap_nil] at change
        omega
  · have closes := executes.closes finishing
    by_cases storing : body.stores = none
    · rw [storing] at state
      exact final.keep exchange state closes executes.no_store
    · cases body with
      | connectEstablishedInLoop =>
        have connecting := lively.used_establishing exchange Nat.one_pos
        exact .of_open (fun disconnected => by cases state.symm.trans disconnected)
          (closes.trans (lively.opened (.inl connecting)))
      | connectDestroyedInLoopStore =>
        have held := (exchange Task.destroying).1
        rw [lively.destroying] at held
        cases held
      | forceCloseStore =>
        have opened : connection.state_ ≠ .kDisconnected := fun disconnected => by
          have held := (exchange Task.storing).1
          rw [final.storing disconnected] at held
          cases held
        refine .of_open (fun disconnected => by cases state.symm.trans disconnected)
          (closes.trans ?_)
        exact Nat.eq_zero_of_not_pos fun closed => opened (final.closed closed)
      | handleCloseStore => exact absurd rfl finishing
      | _ => exact absurd rfl storing

/-- Every turn keeps the invariant, unless `handleClose` makes its store while one of `forceClose`
is ahead. -/
theorem Final.turn {machine : ServerMachine subLoops User} {c : ConnectionId}
    {event : ServerEvent subLoops User} (final : Final connection count)
    (lively : Lively connection held count) (alone : count Task.finishing ≤ 1)
    (unraced : executing machine event = some (.connection c .handleCloseStore) →
      count Task.storing = 0)
    (turn : Turn machine c event connection stored now storedNow used left)
    (exchange : Exchanges count countNow used left) : Final now countNow := by
  cases turn with
  | statement thread input body rest connection stored outcome top alive executes =>
    refine final.statement lively alone (fun isStore => unraced ?_) executes exchange
    rw [executing_run top, isStore]
  | requested t call connection stored body made =>
    rcases target_cases made with rfl | ⟨msg, rfl⟩ <;>
      exact final.keep exchange rfl rfl fun _ => ⟨rfl, rfl⟩
  | dropped event connection stored alive =>
    exact final.keep exchange rfl (closes_drop connection) fun _ => ⟨rfl, rfl⟩
  | _ => exact final.keep exchange rfl rfl fun _ => ⟨rfl, rfl⟩

/-- A disconnected connection stays so. -/
theorem Final.stays {machine : ServerMachine subLoops User} {c : ConnectionId}
    {event : ServerEvent subLoops User} (final : Final connection count)
    (lively : Lively connection held count) (disconnected : connection.state_ = .kDisconnected)
    (turn : Turn machine c event connection stored now storedNow used left)
    (exchange : Exchanges count countNow used left) : now.state_ = .kDisconnected := by
  cases turn with
  | statement thread input body rest connection stored outcome top alive executes =>
    have state := executes.state
    cases body with
    | connectEstablishedInLoop =>
      have connecting := lively.used_establishing exchange Nat.one_pos
      rw [disconnected] at connecting
      cases connecting
    | forceCloseStore =>
      have used := (exchange Task.storing).1
      rw [final.storing disconnected] at used
      cases used
    | connectDestroyedInLoopStore => exact state
    | handleCloseStore => exact state
    | _ => exact state.trans disconnected
  | _ => exact disconnected

end Final

/-! ### Runs -/

/-- No `forceClose` of the connection stands between its test and its store when the loop's thread
stores `kDisconnected`. -/
def Unraced [Fintype User] (c : ConnectionId) :
    Guard (ServerMachine subLoops User) (ServerEvent subLoops User) :=
  fun machine event => executing machine event = some (.connection c .handleCloseStore) →
    pending c machine Task.storing = 0

instance [Fintype User] (c : ConnectionId) (machine : ServerMachine subLoops User)
    (event : ServerEvent subLoops User) : Decidable (Unraced c machine event) :=
  inferInstanceAs (Decidable (_ → _))

section Reachable

variable [DecidableEq User] [Fintype User] {listenFd : Nat} {openFds : Nat → Bool}
  {machine : ServerMachine subLoops User} {c : ConnectionId}

theorem reachable_final
    (reachable : ReachableBy (TcpServer.system subLoops User listenFd openFds) (Unraced c) machine)
    {connection : TcpConnection (LoopId subLoops)}
    (found : machine.world.find c = some connection) :
    Final connection (pending c machine) := by
  refine connection_invariant c (fun connection _ count => Final connection count) ?_ ?_
    reachable found
  · intro subLoop fd _
    exact .of_open nofun rfl
  · intro machine event connection stored now storedNow used left after before unraced found final
      turn exchange
    have alone := (pending_mono finishing_inHand).trans (reachable_inHand before.reachable c)
    exact final.turn (reachable_lively before.reachable found) alone unraced turn exchange

/-- In a run in which `handleClose` never makes its store while one of `forceClose` is ahead, a
connection that is disconnected stays so, and its close callback is invoked at most once. -/
theorem closing_final
    (reachable : ReachableBy (TcpServer.system subLoops User listenFd openFds) (Unraced c) machine)
    {connection : TcpConnection (LoopId subLoops)}
    (found : machine.world.find c = some connection) :
    connection.history.count .closeCallback ≤ 1 ∧
      (connection.state_ = .kDisconnected → ∀ later,
        ReachableBy ((TcpServer.system subLoops User listenFd openFds).after machine) (Unraced c)
          later →
        ∃ now, later.world.find c = some now ∧ now.state_ = .kDisconnected) := by
  have final := reachable_final reachable found
  refine ⟨?_, fun disconnected later run => ?_⟩
  · have announced := (reachable_lively reachable.reachable found).announced
    have once := final.once
    omega
  · refine (reachable.lasts (fun machine => ∃ connection, machine.world.find c = some connection ∧
      connection.state_ = .kDisconnected) ?_ ⟨connection, found, disconnected⟩ run).2
    rintro machine event after before ⟨connection, found, disconnected⟩ - step
    obtain ⟨now, used, left, nowFound, turn, exchange⟩ := reachable_turn before.reachable step found
    exact ⟨now, nowFound, (reachable_final before found).stays
      (reachable_lively before.reachable found) disconnected turn exchange⟩

end Reachable

/-- A connection that the end of its stream has closed, before any `forceClose`. -/
theorem closing_final_unraced : ∃ machine : ServerMachine 1 Unit,
    ∃ connection, machine.world.find 0 = some connection ∧ connection.state_ = .kDisconnected ∧
      connection.history.count .closeCallback ≤ 1 ∧
      ∀ later, ReachableBy ((TcpServer.system 1 Unit 3 fun _ => false).after machine) (Unraced 0)
          later →
        ∃ now, later.world.find 0 = some now ∧ now.state_ = .kDisconnected := by
  have closed : ∃ machine, ReachableBy (TcpServer.system 1 Unit 3 fun _ => false) (Unraced 0)
      machine ∧ ∃ connection ∈ machine.world.find 0, connection.state_ = .kDisconnected :=
    exists_of_replay rfl (acceptRun ++ registration ++ endOfStream 3) (by decide)
  obtain ⟨machine, reachable, connection, found, disconnected⟩ := closed
  obtain ⟨once, final⟩ := closing_final reachable found
  exact ⟨machine, connection, found, disconnected, once, final disconnected⟩

/-- The first test of a `forceClose` has passed, and the end of the stream is received before its
store. -/
def racedRun : List (ServerEvent 1 Unit) :=
  acceptRun ++ registration ++ closeRequest 1 ++ endOfStream 2

/-- A disconnected connection that does not stay so, and a close callback invoked twice. -/
theorem closing_raced :
    (∃ machine : ServerMachine 1 Unit,
      Reachable (TcpServer.system 1 Unit 3 fun _ => false) machine ∧
        (∃ connection ∈ machine.world.find 0, connection.state_ = .kDisconnected) ∧
        ∃ after ∈ (TcpServer.system 1 Unit 3 fun _ => false).step machine (steps (.user ())),
          ∃ connection ∈ after.world.find 0, connection.state_ = .kDisconnecting) ∧
    ∃ machine : ServerMachine 1 Unit,
      Reachable (TcpServer.system 1 Unit 3 fun _ => false) machine ∧
        ∃ connection ∈ machine.world.find 0, connection.history.count .closeCallback = 2 :=
  ⟨exists_of_replay rfl racedRun (by decide),
    exists_of_replay rfl (racedRun ++ List.replicate 6 (steps (.user ())) ++
      List.replicate 8 (steps (.loop (some 0))) ++
      List.replicate 3 (moves (some 0)) ++ [readable (some 0) [.eventfd]] ++
      List.replicate 4 (moves (some 0)) ++ List.replicate 5 (steps (.loop (some 0))))
      (by decide)⟩

end MultiReactor
