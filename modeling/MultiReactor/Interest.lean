/-
This file is about what a connection is registered for. `sendInLoop` enables
EPOLLOUT when it buffers and `handleWrite` disables it when it has drained the
buffer, so a connection that is registered asks for EPOLLIN, and for EPOLLOUT
exactly while something is buffered. The `epoll_ctl` calls issued for a channel
are one ADD, any number of MODs and one DEL, in this order, and the kernel
refuses none of them.
-/

import MultiReactor.Receiving

namespace MultiReactor

open Transition

variable {subLoops : Nat} {User Loop : Type}

/-! ### Masks and calls -/

/-- What a connection with this much to send asks for. -/
def Events.interest (output : Bytes) : Events :=
  { Events.none with epollin := true, epollout := output ≠ [] }

/-- The operation an occurrence issues, if it issues one. -/
def Occurrence.op : Occurrence → Option CtlOp
  | .ctl op => some op
  | _ => none

/-- The `epoll_ctl` operations issued for the connection's channel, in order. -/
def TcpConnection.ctlOps (connection : TcpConnection Loop) : List CtlOp :=
  connection.history.filterMap Occurrence.op

section Views

variable (connection : TcpConnection Loop)

@[simp] theorem ctlOps_record (occurrence : Occurrence) :
    (connection.record occurrence).ctlOps = connection.ctlOps ++ occurrence.op.toList := by
  rw [TcpConnection.ctlOps, TcpConnection.record, List.filterMap_append]
  cases occurrence <;> rfl

theorem ctlOps_ctlRecord {now : TcpConnection Loop} {call : Option EpollCtl}
    (history : now.history = connection.history ++ ctlRecord call) :
    now.ctlOps = connection.ctlOps ++ (call.map EpollCtl.op).toList := by
  rw [TcpConnection.ctlOps, history, List.filterMap_append]
  cases call <;> rfl

theorem ctlOps_drop : connection.drop.ctlOps = connection.ctlOps := by
  obtain ⟨happened, history, records⟩ := drop_history connection
  rw [TcpConnection.ctlOps, history, List.filterMap_append, TcpConnection.ctlOps,
    List.append_right_eq_self, List.filterMap_eq_nil_iff]
  intro occurrence member
  rw [records occurrence member]
  rfl

@[simp] theorem interest_writing (output : Bytes) :
    (Events.interest output).epollout = true ↔ output ≠ [] :=
  decide_eq_true_iff

theorem interest_ne_none (output : Bytes) : Events.interest output ≠ .none := by
  simp [Events.interest, Events.none]

theorem interest_pending {output : Bytes} (pending : output ≠ []) :
    Events.interest output = { Events.none with epollin := true, epollout := true } := by
  simp [Events.interest, pending]

theorem interest_nil : Events.interest [] = { Events.none with epollin := true } := rfl

/-- Two outputs of which both or none are empty ask for the same. -/
theorem interest_congr {output other : Bytes} (same : output = [] ↔ other = []) :
    Events.interest output = Events.interest other := by
  simp [Events.interest, same]

/-- Buffering for a registered channel asks for what the buffer needs. -/
theorem bufferRemaining_interest (remaining : Bytes) (added : connection.channel_.index_ = 1)
    (asks : connection.channel_.events_ = .interest connection.output_buffer_) :
    (connection.bufferRemaining remaining).connection.channel_.events_ =
        .interest (connection.bufferRemaining remaining).connection.output_buffer_ ∧
      ((connection.bufferRemaining remaining).ctl.map EpollCtl.op = none ∨
        (connection.bufferRemaining remaining).ctl.map EpollCtl.op = some .mod) := by
  unfold TcpConnection.bufferRemaining
  by_cases nothing : remaining = []
  · rw [if_pos nothing]
    exact ⟨asks, .inl rfl⟩
  · have pending : connection.output_buffer_ ++ remaining ≠ [] := by simp [nothing]
    rw [if_neg nothing]
    dsimp only
    by_cases writing : connection.channel_.isWriting = true
    · rw [if_pos writing]
      refine ⟨asks.trans (interest_congr (iff_of_false ?_ pending)), .inl rfl⟩
      rwa [Channel.isWriting, asks, interest_writing] at writing
    · have updated :=
        updateChannel_mod (show connection.channel_.enableWriting.index_ = 1 from added)
        (congrArg Events.epollin asks)
      rw [if_neg writing, updated]
      refine ⟨?_, .inr rfl⟩
      show { connection.channel_.events_ with epollout := true } =
        Events.interest (connection.output_buffer_ ++ remaining)
      rw [asks, interest_pending pending]
      rfl

/-- A registered channel that stops writing asks for what an empty buffer needs. -/
theorem stopWriting_interest (next : List Next) {output : Bytes}
    (added : connection.channel_.index_ = 1)
    (asks : connection.channel_.events_ = .interest output) :
    (connection.stopWriting next).connection.channel_.events_ = .interest [] ∧
      ((connection.stopWriting next).ctl.map EpollCtl.op = none ∨
        (connection.stopWriting next).ctl.map EpollCtl.op = some .mod) := by
  unfold TcpConnection.stopWriting
  by_cases writing : connection.channel_.isWriting = true
  · have updated :=
      updateChannel_mod (show connection.channel_.disableWriting.index_ = 1 from added)
      (congrArg Events.epollin asks)
    rw [if_pos writing, updated]
    refine ⟨?_, .inr rfl⟩
    show { connection.channel_.events_ with epollout := false } = _
    rw [asks]
    rfl
  · rw [if_neg writing]
    rw [Channel.isWriting, asks, interest_writing, not_not] at writing
    exact ⟨asks.trans (congrArg _ writing), .inl rfl⟩

/-- Disabling EPOLLOUT leaves the buffer alone. -/
theorem stopWriting_output (next : List Next) :
    (connection.stopWriting next).connection.output_buffer_ = connection.output_buffer_ := by
  obtain ⟨channel, ctl, equal, -⟩ := stopWriting_eq connection next
  rw [equal]

end Views

/-- The calls a statement issues are on record. -/
theorem Executes.ctlOps {connection : TcpConnection Loop} {body : Statement} {io : IoResult}
    {outcome : Outcome Loop} (executes : Executes connection body io outcome) :
    outcome.connection.ctlOps = connection.ctlOps ++ (outcome.ctl.map EpollCtl.op).toList := by
  have buffered (base : TcpConnection Loop) (remaining : Bytes)
      (same : base.ctlOps = connection.ctlOps) :
      (base.bufferRemaining remaining).connection.ctlOps = connection.ctlOps ++
        ((base.bufferRemaining remaining).ctl.map EpollCtl.op).toList := by
    obtain ⟨channel, ctl, equal, -⟩ := bufferRemaining_eq base remaining
    rw [equal, ← same]
    exact ctlOps_ctlRecord base rfl
  have stopped (base : TcpConnection Loop) (next : List Next)
      (same : base.ctlOps = connection.ctlOps) :
      (base.stopWriting next).connection.ctlOps = connection.ctlOps ++
        ((base.stopWriting next).ctl.map EpollCtl.op).toList := by
    obtain ⟨channel, ctl, equal, -⟩ := stopWriting_eq base next
    rw [equal, ← same]
    exact ctlOps_ctlRecord base rfl
  cases executes with
  | sendInLoopDirect msg sent connected empty bounded =>
    exact buffered _ _ (by simp [Occurrence.op])
  | sendInLoopBlocked msg connected empty => exact buffered _ _ (by simp [Occurrence.op])
  | sendInLoopQueued msg io connected pending => exact buffered _ _ (by simp [Occurrence.op])
  | handleWriteNothing io empty => exact stopped _ _ rfl
  | handleWriteDrained totalSent io drained => exact stopped _ _ rfl
  | connectEstablishedInLoop io => exact ctlOps_ctlRecord connection rfl
  | connectDestroyedInLoopStore io => exact ctlOps_ctlRecord connection rfl
  | handleCloseStore io =>
    refine (ctlOps_ctlRecord (connection.record .closed) rfl).trans ?_
    rw [ctlOps_record]
    exact congrArg (· ++ _) (List.append_nil _)
  | sendInLoopFailed | forceCloseConnected | forceCloseOther | handleReadData | handleReadEof
  | handleReadAgain | handleReadError | handleReadEcho | handleWriteSent | handleWriteZero
  | handleWriteFailed | handleCloseCallback =>
    exact ctlOps_record ..
  | _ => exact (List.append_nil _).symm

/-! ### The invariant -/

/-- What a connection asks for and what has been issued for it, while it is connecting, while it
is registered, and once it has been closed. -/
structure Watched (connection : TcpConnection (LoopId subLoops)) : Prop where
  connecting : connection.state_ = .kConnecting →
    connection.output_buffer_ = [] ∧ connection.ctlOps = []
  opened : connection.state_ ≠ .kConnecting → connection.closes = 0 →
    connection.channel_.events_ = .interest connection.output_buffer_ ∧
      ∃ mods, connection.ctlOps = .add :: List.replicate mods .mod
  closed : 0 < connection.closes →
    ∃ mods, connection.ctlOps = .add :: (List.replicate mods .mod ++ [.del])

section Watched

variable {connection now : TcpConnection (LoopId subLoops)} {stored : Nat}
  {count countNow : (Task → Bool) → Nat} {used left : List Task}

/-- A turn that issues nothing, and neither changes what the channel asks for nor fills an empty
buffer. -/
theorem Watched.keep (watched : Watched connection)
    (connecting : now.state_ = .kConnecting ↔ connection.state_ = .kConnecting)
    (closes : now.closes = connection.closes)
    (events : now.channel_.events_ = connection.channel_.events_)
    (output : connection.closes = 0 →
      (now.output_buffer_ = [] ↔ connection.output_buffer_ = []))
    (early : now.state_ = .kConnecting → now.output_buffer_ = connection.output_buffer_)
    (ops : now.ctlOps = connection.ctlOps) : Watched now where
  connecting state := by
    rw [early state, ops]
    exact watched.connecting (connecting.mp state)
  opened state opened := by
    rw [closes] at opened
    rw [events, ops, interest_congr (output opened)]
    exact watched.opened (mt connecting.mpr state) opened
  closed isClosed := by
    rw [ops]
    exact watched.closed (closes ▸ isClosed)

/-- An update of a registered channel that asks for what the buffer needs. -/
theorem Watched.update {ctl : Option EpollCtl} (watched : Watched connection)
    (established : connection.state_ ≠ .kConnecting) (opened : connection.closes = 0)
    (state : now.state_ = connection.state_) (closes : now.closes = connection.closes)
    (asks : now.channel_.events_ = .interest now.output_buffer_)
    (modifies : ctl.map EpollCtl.op = none ∨ ctl.map EpollCtl.op = some .mod)
    (ops : now.ctlOps = connection.ctlOps ++ (ctl.map EpollCtl.op).toList) : Watched now where
  connecting connecting := absurd (state ▸ connecting) established
  opened _ _ := by
    obtain ⟨-, mods, issued⟩ := watched.opened established opened
    refine ⟨asks, ?_⟩
    rcases modifies with silent | modified
    · refine ⟨mods, ?_⟩
      rw [ops, silent, issued]
      exact List.append_nil _
    · refine ⟨mods + 1, ?_⟩
      rw [ops, modified, issued, List.replicate_succ']
      rfl
  closed isClosed := by
    rw [closes, opened] at isClosed
    exact absurd isClosed (Nat.lt_irrefl 0)

/-- Executing a statement keeps the invariant. -/
theorem Watched.statement {body : Statement} {io : IoResult} {outcome : Outcome (LoopId subLoops)}
    (watched : Watched connection) (lively : Lively connection stored count)
    (executes : Executes connection body io outcome)
    (exchange : Exchanges count countNow [.statement body] left) :
    Watched outcome.connection := by
  have ops := executes.ctlOps
  have state := executes.state
  have closes (silent : body.records .closed = false) :
      outcome.connection.closes = connection.closes :=
    executes.closes fun same => by rw [same] at silent; cases silent
  have past (isPast : 0 < [Task.statement body].countP Task.past) :
      connection.state_ ≠ .kConnecting := lively.used_past exchange isPast
  have registered (established : connection.state_ ≠ .kConnecting)
      (opened : connection.closes = 0) : connection.channel_.index_ = 1 := by
    rcases lively.channel with ⟨added, -⟩ | ⟨-, -, connecting | closed⟩
    · exact added
    · exact absurd connecting established
    · rw [opened] at closed
      cases closed
  have buffered (base : TcpConnection (LoopId subLoops)) (remaining : Bytes)
      (connected : connection.state_ = .kConnected)
      (same : base.channel_ = connection.channel_ ∧
        base.output_buffer_ = connection.output_buffer_)
      (state : (base.bufferRemaining remaining).connection.state_ = connection.state_)
      (closes : (base.bufferRemaining remaining).connection.closes = connection.closes)
      (ops : (base.bufferRemaining remaining).connection.ctlOps = connection.ctlOps ++
        ((base.bufferRemaining remaining).ctl.map EpollCtl.op).toList) :
      Watched (base.bufferRemaining remaining).connection := by
    have established : connection.state_ ≠ .kConnecting := by rw [connected]; decide
    obtain ⟨added, -, opened⟩ := lively.connected connected
    obtain ⟨asks, -⟩ := watched.opened established opened
    rw [← same.1, ← same.2] at asks
    obtain ⟨asked, modifies⟩ := bufferRemaining_interest base remaining (same.1 ▸ added) asks
    exact watched.update established opened state closes asked modifies ops
  -- a channel that is not registered is not writing
  have stopped (base : TcpConnection (LoopId subLoops)) (next : List Next)
      (established : connection.state_ ≠ .kConnecting) (empty : base.output_buffer_ = [])
      (same : base.channel_ = connection.channel_)
      (state : (base.stopWriting next).connection.state_ = connection.state_)
      (closes : (base.stopWriting next).connection.closes = connection.closes)
      (ops : (base.stopWriting next).connection.ctlOps = connection.ctlOps ++
        ((base.stopWriting next).ctl.map EpollCtl.op).toList) :
      Watched (base.stopWriting next).connection := by
    rcases lively.channel with ⟨added, -, -, opened⟩ | ⟨-, silent, connecting | closed⟩
    · obtain ⟨asks, -⟩ := watched.opened established opened
      rw [← same] at added asks
      obtain ⟨asked, modifies⟩ := stopWriting_interest base next added asks
      refine watched.update established opened state closes (asked.trans ?_) modifies ops
      rw [stopWriting_output, empty]
    · exact absurd connecting established
    · have idle : ¬ base.channel_.isWriting = true := by
        rw [same, Channel.isWriting, silent]
        exact Bool.false_ne_true
      rw [TcpConnection.stopWriting, if_neg idle] at state closes ops ⊢
      refine watched.keep (by rw [state]) closes (congrArg _ same) (fun opened => ?_)
        (fun connecting => absurd (state ▸ connecting) established)
        (ops.trans (List.append_nil _))
      rw [opened] at closed
      cases closed
  cases executes with
  | connectEstablishedInLoop io =>
    have connecting := lively.used_establishing exchange Nat.one_pos
    obtain ⟨index, silent⟩ := lively.connecting connecting
    obtain ⟨empty, none⟩ := watched.connecting connecting
    have fresh : connection.channel_.enableReading.index_ = -1 := index
    have asks : connection.channel_.enableReading.events_ = .interest [] := by
      rw [Channel.enableReading, silent, interest_nil]
    have updated := updateChannel_fresh fresh (asks ▸ interest_ne_none [])
    have opened := (closes rfl).trans (lively.opened (.inl connecting))
    rw [yieldsChannel_ctl, none] at ops
    refine ⟨fun again => (by cases again), fun _ _ => ⟨?_, 0, ops.trans (by rw [updated]; rfl)⟩,
      fun closed => ?_⟩
    · show (Epoll.updateChannel connection.channel_.enableReading).1.events_ =
        .interest connection.output_buffer_
      rw [updated, empty]
      exact asks
    · exact absurd opened closed.ne'
  | connectDestroyedInLoopStore io =>
    have held := (exchange Task.destroying).1
    rw [lively.destroying] at held
    cases held
  | sendInLoopDirect msg sent connected empty bounded =>
    exact buffered _ _ connected ⟨rfl, rfl⟩ state (closes rfl) ops
  | sendInLoopBlocked msg connected empty =>
    exact buffered _ _ connected ⟨rfl, rfl⟩ state (closes rfl) ops
  | sendInLoopQueued msg io connected pending =>
    exact buffered _ _ connected ⟨rfl, rfl⟩ state (closes rfl) ops
  | handleWriteNothing io empty =>
    exact stopped _ _ (past Nat.one_pos) empty rfl state (closes rfl) ops
  | handleWriteDrained totalSent io drained =>
    exact stopped _ _ (past Nat.one_pos) rfl rfl state (closes rfl) ops
  | handleWriteKept totalSent io kept =>
    have established := past Nat.one_pos
    refine watched.keep .rfl (closes rfl) rfl (fun _ => iff_of_false kept fun empty => kept ?_)
      (fun connecting => absurd connecting established) (ops.trans (List.append_nil _))
    rw [empty, List.drop_nil]
  | forceCloseStore io =>
    have established := past Nat.one_pos
    exact watched.keep (iff_of_false (fun same => (by cases same)) established) (closes rfl) rfl
      (fun _ => .rfl) (fun same => (by cases same)) (ops.trans (List.append_nil _))
  | handleCloseStore io =>
    have established := past Nat.one_pos
    refine ⟨fun again => (by cases again), fun _ opened => ?_, fun _ => ?_⟩
    · rw [yieldsChannel_connection, closes_store] at opened
      cases opened
    · rw [yieldsChannel_ctl] at ops
      rcases lively.channel with ⟨added, -, -, opened⟩ | ⟨fresh, -, connecting | closed⟩
      · obtain ⟨-, mods, issued⟩ := watched.opened established opened
        refine ⟨mods, ops.trans ?_⟩
        rw [issued, Epoll.removeChannel, Channel.disableAll, if_pos added]
        rfl
      · exact absurd connecting established
      · obtain ⟨mods, issued⟩ := watched.closed closed
        refine ⟨mods, ops.trans ?_⟩
        rw [issued, Epoll.removeChannel, Channel.disableAll, if_neg (by rw [fresh]; decide)]
        exact List.append_nil _
  | _ =>
    exact watched.keep (by rw [state]; rfl) (closes rfl) rfl (fun _ => .rfl) (fun _ => rfl)
      (ops.trans (List.append_nil _))

end Watched

/-! ### Runs -/

/-- The channel is in some interest list. -/
def TcpServer.registered (server : TcpServer subLoops) (c : ConnectionId) : Prop :=
  ∃ l fd events, server.epoll l fd = some (events, .connection c)

section Reachable

variable [DecidableEq User] [Fintype User] {listenFd : Nat} {openFds : Nat → Bool}
  {machine : ServerMachine subLoops User} {c : ConnectionId}
  {connection : TcpConnection (LoopId subLoops)}

theorem reachable_watched
    (reachable : Reachable (TcpServer.system subLoops User listenFd openFds) machine)
    (found : machine.world.find c = some connection) : Watched connection := by
  refine connection_invariant c (fun connection _ _ => Watched connection) ?_ ?_ reachable found
  · intro subLoop fd _
    exact ⟨fun _ => ⟨rfl, rfl⟩, fun established => absurd rfl established, fun closed =>
      absurd closed (Nat.lt_irrefl 0)⟩
  · intro machine event connection stored now storedNow used left after before _ found watched turn
      exchange
    cases turn with
    | statement thread input body rest connection stored outcome top alive executes =>
      exact watched.statement (reachable_lively before found) executes exchange
    | dropped event connection stored alive =>
      exact watched.keep .rfl (closes_drop connection) rfl (fun _ => .rfl) (fun _ => rfl)
        (ctlOps_drop connection)
    | _ => exact watched.keep .rfl rfl rfl (fun _ => .rfl) (fun _ => rfl) rfl

/-- A connection that has not been closed is stored in the map, so it exists. -/
theorem reachable_alive
    (reachable : Reachable (TcpServer.system subLoops User listenFd openFds) machine)
    (found : machine.world.find c = some connection) (opened : connection.closes = 0) :
    0 < connection.useCount := by
  have counted := (reachable_owned reachable).counted c connection found
  have unstored := (reachable_lively reachable found).unstored
  omega

/-- The kernel holds a channel exactly while its connection's channel says so. -/
theorem reachable_registered
    (reachable : Reachable (TcpServer.system subLoops User listenFd openFds) machine)
    (found : machine.world.find c = some connection) :
    machine.world.registered c ↔ connection.channel_.index_ = 1 := by
  have wired := reachable_wired reachable
  constructor
  · rintro ⟨l, fd, events, entry⟩
    obtain ⟨registrant, registrantFound, -, -, -, added⟩ := wired.only l fd events c entry
    rwa [Option.some.inj (found.symm.trans registrantFound)]
  · intro added
    have opened : connection.closes = 0 := by
      rcases (reachable_lively reachable found).channel with ⟨-, -, -, opened⟩ | ⟨fresh, -⟩
      · exact opened
      · rw [added] at fresh
        cases fresh
    exact ⟨_, _, _, wired.own c connection found (reachable_alive reachable found opened) added⟩

/-- What a registered connection is registered for is what it has to wait for: EPOLLIN, and
EPOLLOUT exactly while something is buffered. It holds between the statements of a callback as
well as between callbacks. -/
theorem write_interest
    (reachable : Reachable (TcpServer.system subLoops User listenFd openFds) machine)
    (found : machine.world.find c = some connection)
    (established : connection.state_ ≠ .kConnecting) (opened : connection.closes = 0) :
    machine.world.epoll connection.loop_ connection.fd_ =
      some (.interest connection.output_buffer_, .connection c) := by
  obtain ⟨asks, -⟩ := (reachable_watched reachable found).opened established opened
  rw [← asks]
  refine (reachable_wired reachable).own c connection found (reachable_alive reachable found opened)
    ?_
  rcases (reachable_lively reachable found).channel with ⟨added, -⟩ | ⟨-, -, connecting | closed⟩
  · exact added
  · exact absurd connecting established
  · exact absurd opened closed.ne'

/-- The kernel refuses no operation the connection issues. -/
theorem ctl_accepted
    (reachable : Reachable (TcpServer.system subLoops User listenFd openFds) machine)
    (found : machine.world.find c = some connection) (body : Statement) (io : IoResult)
    (outcome : Outcome (LoopId subLoops)) (call : EpollCtl) (alive : 0 < connection.useCount)
    (executed : connection.execute body io = some outcome) (issued : outcome.ctl = some call) :
    ((machine.world.epoll connection.loop_).ctl connection.fd_ (.connection c) call).isSome := by
  have wired := reachable_wired reachable
  have free := wired.free (reachable_owned reachable) found alive
  have own := wired.own c connection found alive
  have channel := (execute_cases executed).channelCall
  rw [issued] at channel
  rcases channelCall_cases (wired.indexed c connection found) channel with
    ⟨silent, -⟩ | ⟨same, fresh, -⟩ | ⟨same, added, -⟩ | ⟨events, same, added, -⟩
  · cases silent
  · rw [Option.some.inj same, Interest.ctl, free fresh connection.loop_]
    rfl
  · rw [Option.some.inj same, Interest.ctl, own added]
    rfl
  · rw [Option.some.inj same, Interest.ctl, own added]
    rfl

/-- The operations issued for a connection's channel are a prefix of one ADD, any number of MODs
and one DEL. The kernel accepts each, holds the channel from the ADD to the DEL, and does not hold
that of a closed connection. -/
theorem ctl_protocol
    (reachable : Reachable (TcpServer.system subLoops User listenFd openFds) machine)
    (found : machine.world.find c = some connection) :
    (∃ mods, connection.ctlOps <+: .add :: (List.replicate mods .mod ++ [.del])) ∧
      (machine.world.registered c ↔ .add ∈ connection.ctlOps ∧ .del ∉ connection.ctlOps) ∧
      (0 < connection.closes → ¬ machine.world.registered c) ∧
      ∀ body io outcome call, 0 < connection.useCount →
        connection.execute body io = some outcome → outcome.ctl = some call →
        ((machine.world.epoll connection.loop_).ctl connection.fd_ (.connection c)
          call).isSome := by
  have watched := reachable_watched reachable found
  have accepted := ctl_accepted reachable found
  rw [reachable_registered reachable found]
  rcases (reachable_lively reachable found).channel with
    ⟨added, -, established, opened⟩ | ⟨fresh, -, connecting | closed⟩
  · obtain ⟨-, mods, issued⟩ := watched.opened established opened
    refine ⟨⟨mods, ?_⟩, ?_, fun closed => absurd opened closed.ne', accepted⟩
    · rw [issued]
      exact List.prefix_append (CtlOp.add :: List.replicate mods .mod) [.del]
    · simp [added, issued]
  · obtain ⟨-, none⟩ := watched.connecting connecting
    refine ⟨⟨0, none ▸ List.nil_prefix⟩, ?_, fun _ => by simp [fresh], accepted⟩
    simp [fresh, none]
  · obtain ⟨mods, issued⟩ := watched.closed closed
    refine ⟨⟨mods, issued ▸ List.prefix_rfl⟩, ?_, fun _ => by simp [fresh], accepted⟩
    simp [fresh, issued]

end Reachable

/-- A direct `::send` takes part of a message: the rest arms EPOLLOUT. -/
theorem write_interest_buffered : ∃ machine : ServerMachine 1 Unit, ∃ connection,
    machine.world.find 0 = some connection ∧ connection.output_buffer_ = [2, 3] ∧
      machine.world.epoll connection.loop_ connection.fd_ =
        some (.interest connection.output_buffer_, .connection 0) := by
  have buffered : ∃ machine,
      Reachable (TcpServer.system 1 Unit 3 fun _ => false) machine ∧
      ∃ connection ∈ machine.world.find 0, connection.output_buffer_ = [2, 3] ∧
        connection.state_ ≠ .kConnecting ∧ connection.closes = 0 :=
    exists_of_replay rfl (acceptRun ++ registration ++ receives [.data [1, 2, 3], .again] ++
      echoes (.count 1)) (by decide)
  obtain ⟨machine, reachable, connection, found, output, established, opened⟩ := buffered
  exact ⟨machine, connection, found, output, write_interest reachable found established opened⟩

/-- The operations of a connection that buffers and is then closed by its peer. -/
theorem ctl_protocol_closed : ∃ machine : ServerMachine 1 Unit, ∃ connection,
    machine.world.find 0 = some connection ∧ connection.ctlOps = [.add, .mod, .del] ∧
      ¬ machine.world.registered 0 := by
  have closed : ∃ machine,
      Reachable (TcpServer.system 1 Unit 3 fun _ => false) machine ∧
      ∃ connection ∈ machine.world.find 0, connection.ctlOps = [.add, .mod, .del] ∧
        0 < connection.closes :=
    exists_of_replay rfl (acceptRun ++ registration ++ receives [.data [1, 2, 3], .again] ++
      echoes (.count 1) ++ endOfStream 2) (by decide)
  obtain ⟨machine, reachable, connection, found, ops, isClosed⟩ := closed
  exact ⟨machine, connection, found, ops, (ctl_protocol reachable found).2.2.1 isClosed⟩

end MultiReactor
