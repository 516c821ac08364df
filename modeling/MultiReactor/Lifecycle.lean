/-
This file proves what ties the state of a connection to what is still
outstanding for it. A connection that is connecting has its registration ahead,
one that is disconnecting has a close ahead, one that has been closed is out of
epoll and, while the map stores it, has its removal ahead; nothing is left
behind without a task that will take it on. The invariant holds in every
reachable state of every interleaving, and what the process looks like when
nothing is outstanding follows from it.
-/

import MultiReactor.Registration
import MultiReactor.Tasks

namespace MultiReactor

open Transition

variable {subLoops : Nat} {User : Type}

/-! ### Kinds of tasks -/

/-- The registration of a new connection. -/
def Task.establishing : Task → Bool
  | .statement .connectEstablished => true
  | .statement .connectEstablishedInLoop => true
  | _ => false

/-- What can be outstanding while the connection is still connecting. -/
def Task.early : Task → Bool
  | .statement .connectEstablished => true
  | .statement .connectEstablishedInLoop => true
  | .statement (.send _) => true
  | .statement (.sendInLoop _) => true
  | .statement .forceClose => true
  | .statement .forceCloseRetest => true
  | _ => false

/-- What is outstanding only once the connection has been registered. -/
def Task.past (task : Task) : Bool :=
  !task.early

/-- What leads to the close of a connection that is disconnecting. -/
def Task.closing : Task → Bool
  | .statement .forceCloseInLoop => true
  | .statement .forceCloseInLoopRetest => true
  | .statement .handleClose => true
  | .statement .handleCloseStore => true
  | _ => false

/-- What leads from the close to the removal from the map. -/
def Task.removal : Task → Bool
  | .statement .handleCloseCallback => true
  | .removeConnection => true
  | .removeConnectionInLoop => true
  | _ => false

/-- What is outstanding only after a close. -/
def Task.late : Task → Bool
  | .statement .connectDestroyed => true
  | .statement .connectDestroyedInLoop => true
  | .statement .connectDestroyedInLoopStore => true
  | task => task.removal

/-- The call of the close callback. -/
def Task.announcing : Task → Bool
  | .statement .handleCloseCallback => true
  | _ => false

/-- The store in `connectDestroyedInLoop`. -/
def Task.destroying : Task → Bool
  | .statement .connectDestroyedInLoopStore => true
  | _ => false

/-! ### The invariant -/

/-- How often `handleClose` has closed the connection. -/
def TcpConnection.closes (connection : TcpConnection (LoopId subLoops)) : Nat :=
  connection.history.count .closed

/-- The close of a connection and what follows it are accounted for by what is outstanding. -/
structure Accounted (connection : TcpConnection (LoopId subLoops)) (stored : Nat)
    (count : (Task → Bool) → Nat) : Prop where
  late : 0 < count Task.late → 0 < connection.closes
  destroying : count Task.destroying = 0
  unstored : stored = 0 → 0 < connection.closes
  removal : 0 < connection.closes → 0 < stored → 0 < count Task.removal
  announced : connection.closes =
    connection.history.count .closeCallback + count Task.announcing

/-- A connection's state and channel, and its place in the map, fit what is outstanding for it. -/
structure Lively (connection : TcpConnection (LoopId subLoops)) (stored : Nat)
    (count : (Task → Bool) → Nat) : Prop extends Accounted connection stored count where
  establishing : count Task.establishing = if connection.state_ = .kConnecting then 1 else 0
  past : 0 < count Task.past → connection.state_ ≠ .kConnecting
  closing : connection.state_ = .kDisconnecting → 0 < count Task.closing
  disconnected : connection.state_ = .kDisconnected → 0 < connection.closes
  closed : 0 < connection.closes →
    connection.state_ = .kDisconnecting ∨ connection.state_ = .kDisconnected
  callback : connection.closeCallback_ = true
  channel : connection.channel_.index_ = 1 ∧ connection.channel_.events_.epollin = true ∧
      connection.state_ ≠ .kConnecting ∧ connection.closes = 0 ∨
    connection.channel_.index_ = -1 ∧ connection.channel_.events_ = .none ∧
      (connection.state_ = .kConnecting ∨ 0 < connection.closes)

section Lively

variable {connection now : TcpConnection (LoopId subLoops)} {stored storedNow : Nat}
  {count countNow : (Task → Bool) → Nat} {used left : List Task}

/-- A connected connection is in epoll. -/
theorem Lively.connected (lively : Lively connection stored count)
    (connected : connection.state_ = .kConnected) :
    connection.channel_.index_ = 1 ∧ connection.channel_.events_.epollin = true ∧
      connection.closes = 0 := by
  rcases lively.channel with ⟨index, epollin, -, opened⟩ | ⟨-, -, connecting | closed⟩
  · exact ⟨index, epollin, opened⟩
  · rw [connected] at connecting
    cases connecting
  · rcases lively.closed closed with state | state <;> rw [connected] at state <;> cases state

/-- `handleClose` has not closed a connection that is connecting or connected. -/
theorem Lively.opened (lively : Lively connection stored count)
    (state : connection.state_ = .kConnecting ∨ connection.state_ = .kConnected) :
    connection.closes = 0 := by
  refine Nat.eq_zero_of_not_pos fun closed => ?_
  rcases lively.closed closed with now | now <;> rcases state with was | was <;>
    rw [was] at now <;> cases now

/-- A connecting connection is not in epoll. -/
theorem Lively.connecting (lively : Lively connection stored count)
    (connecting : connection.state_ = .kConnecting) :
    connection.channel_.index_ = -1 ∧ connection.channel_.events_ = .none := by
  rcases lively.channel with ⟨-, -, other, -⟩ | ⟨index, events, -⟩
  · exact absurd connecting other
  · exact ⟨index, events⟩

/-- What is outstanding only once the connection has been registered is not used up before. -/
theorem Lively.used_past (lively : Lively connection stored count)
    (exchange : Exchanges count countNow used left) (past : 0 < used.countP Task.past) :
    connection.state_ ≠ .kConnecting :=
  lively.past (Nat.lt_of_lt_of_le past (exchange Task.past).1)

/-- The registration is outstanding only while the connection is connecting. -/
theorem Lively.used_establishing (lively : Lively connection stored count)
    (exchange : Exchanges count countNow used left)
    (establishing : 0 < used.countP Task.establishing) : connection.state_ = .kConnecting := by
  have held := (exchange Task.establishing).1
  rw [lively.establishing] at held
  by_contra other
  rw [if_neg other] at held
  exact absurd (Nat.eq_zero_of_le_zero held) establishing.ne'

/-- What is outstanding only after a close is not used up before. -/
theorem Accounted.used_late (accounted : Accounted connection stored count)
    (exchange : Exchanges count countNow used left) (late : 0 < used.countP Task.late) :
    0 < connection.closes :=
  accounted.late (Nat.lt_of_lt_of_le late (exchange Task.late).1)

/-- A turn that closes nothing and announces nothing keeps the accounts, if what it leaves is
after a close and the removal stays ahead. -/
theorem Accounted.keep (accounted : Accounted connection stored count)
    (exchange : Exchanges count countNow used left) (closes : now.closes = connection.closes)
    (announced : now.history.count .closeCallback = connection.history.count .closeCallback)
    (late : 0 < left.countP Task.late → 0 < connection.closes)
    (destroying : left.countP Task.destroying = 0)
    (unstored : storedNow = 0 → stored = 0 ∨ 0 < connection.closes)
    (removal : 0 < storedNow → 0 < stored ∧ used.countP Task.removal ≤ left.countP Task.removal)
    (announcing : left.countP Task.announcing = used.countP Task.announcing) :
    Accounted now storedNow countNow where
  late outstanding := by
    rw [closes]
    by_cases isLeft : 0 < left.countP Task.late
    · exact late isLeft
    · have change := exchange Task.late
      exact accounted.late (by omega)
  destroying := by
    have change := exchange Task.destroying
    have before := accounted.destroying
    omega
  unstored missing := by
    rw [closes]
    exact (unstored missing).elim accounted.unstored id
  removal isClosed holds := by
    obtain ⟨held, kept⟩ := removal holds
    have change := exchange Task.removal
    have before := accounted.removal (closes ▸ isClosed) held
    omega
  announced := by
    have change := exchange Task.announcing
    have before := accounted.announced
    omega

/-- A turn that does not change the state either keeps the invariant, if the tasks it leaves take
on what the tasks it uses up stood for. -/
theorem Lively.quiet (lively : Lively connection stored count)
    (exchange : Exchanges count countNow used left)
    (accounted : Accounted now storedNow countNow) (closes : now.closes = connection.closes)
    (state : now.state_ = connection.state_)
    (callback : now.closeCallback_ = connection.closeCallback_)
    (index : now.channel_.index_ = connection.channel_.index_)
    (reading : connection.channel_.index_ = 1 → connection.channel_.events_.epollin = true →
      now.channel_.events_.epollin = true)
    (silent : connection.channel_.index_ = -1 → connection.channel_.events_ = .none →
      now.channel_.events_ = .none)
    (establishing : left.countP Task.establishing = used.countP Task.establishing)
    (past : 0 < left.countP Task.past → connection.state_ ≠ .kConnecting)
    (closing : connection.state_ = .kDisconnecting →
      used.countP Task.closing ≤ left.countP Task.closing) :
    Lively now storedNow countNow where
  toAccounted := accounted
  establishing := by
    have change := exchange Task.establishing
    have before := lively.establishing
    rw [state]
    omega
  past outstanding := by
    rw [state]
    by_cases isLeft : 0 < left.countP Task.past
    · exact past isLeft
    · have change := exchange Task.past
      exact lively.past (by omega)
  closing disconnecting := by
    rw [state] at disconnecting
    have change := exchange Task.closing
    have before := lively.closing disconnecting
    have kept := closing disconnecting
    omega
  disconnected disconnected := by
    rw [closes]
    exact lively.disconnected (state ▸ disconnected)
  closed isClosed := by
    rw [state]
    exact lively.closed (closes ▸ isClosed)
  callback := callback.trans lively.callback
  channel := by
    rw [state, closes, index]
    rcases lively.channel with ⟨added, epollin, rest⟩ | ⟨fresh, empty, rest⟩
    · exact .inl ⟨added, reading added epollin, rest⟩
    · exact .inr ⟨fresh, silent fresh empty, rest⟩

/-! ### Statements -/

/-- Recording something else changes neither the number of closes nor that of calls of the
callback. -/
theorem counts_append {happened : List Occurrence}
    (other : .closed ∉ happened ∧ .closeCallback ∉ happened) (history : List Occurrence) :
    (history ++ happened).count .closed = history.count .closed ∧
      (history ++ happened).count .closeCallback = history.count .closeCallback := by
  rw [List.count_append, List.count_append, List.count_eq_zero.mpr other.1,
    List.count_eq_zero.mpr other.2]
  exact ⟨rfl, rfl⟩

theorem counts_ctlRecord (call : Option EpollCtl) (history : List Occurrence) :
    (history ++ ctlRecord call).count .closed = history.count .closed ∧
      (history ++ ctlRecord call).count .closeCallback = history.count .closeCallback := by
  simp

/-- Only the store of `handleClose` is a close. -/
theorem Executes.closes {body : Statement} {io : IoResult} {outcome : Outcome (LoopId subLoops)}
    (executes : Executes connection body io outcome) (other : body ≠ .handleCloseStore) :
    outcome.connection.closes = connection.closes := by
  obtain ⟨happened, history, records⟩ := executes.records
  rw [TcpConnection.closes, history, List.count_append]
  refine Nat.add_eq_left.mpr (List.count_eq_zero.mpr fun member => ?_)
  have recorded := records _ member
  cases body <;> first | exact other rfl | cases recorded

theorem closes_drop (connection : TcpConnection (LoopId subLoops)) :
    connection.drop.closes = connection.closes :=
  drop_count connection nofun

theorem closes_store (connection : TcpConnection (LoopId subLoops)) :
    (((connection.setState .kDisconnected).record .closed).withChannel
      (Epoll.removeChannel connection.channel_.disableAll)).closes = connection.closes + 1 := by
  simp [TcpConnection.closes, TcpConnection.withChannel, TcpConnection.record,
    TcpConnection.setState]

/-- An update of a channel that is in epoll with EPOLLIN modifies its registration. -/
theorem updateChannel_mod {channel : Channel} (added : channel.index_ = 1)
    (reading : channel.events_.epollin = true) :
    Epoll.updateChannel channel = (channel, some { op := .mod, events := channel.events_ }) := by
  have nonempty : channel.events_ ≠ .none := by
    intro empty
    rw [empty] at reading
    cases reading
  have notFresh : channel.index_ ≠ -1 := by
    rw [added]
    decide
  rw [Epoll.updateChannel, if_neg nonempty, if_neg notFresh]

/-- Such an update leaves the channel as it is. -/
theorem updateChannel_added {channel : Channel} (added : channel.index_ = 1)
    (reading : channel.events_.epollin = true) : (Epoll.updateChannel channel).1 = channel := by
  rw [updateChannel_mod added reading]

/-- The first update of a channel that is not in epoll and asks for something adds it. -/
theorem updateChannel_fresh {channel : Channel} (fresh : channel.index_ = -1)
    (nonempty : channel.events_ ≠ .none) :
    Epoll.updateChannel channel =
      (channel.setIndex 1, some { op := .add, events := channel.events_ }) := by
  rw [Epoll.updateChannel, if_neg nonempty, if_pos fresh]

/-- The tasks a statement leaves take on what the statement stood for. -/
structure Relays (connection : TcpConnection (LoopId subLoops)) (body : Statement)
    (tasks : List Task) : Prop where
  past : 0 < tasks.countP Task.past → connection.state_ ≠ .kConnecting
  closing : connection.state_ = .kDisconnecting →
    [Task.statement body].countP Task.closing ≤ tasks.countP Task.closing
  late : 0 < tasks.countP Task.late → 0 < connection.closes
  establishing : tasks.countP Task.establishing = [Task.statement body].countP Task.establishing
  destroying : tasks.countP Task.destroying = 0
  removal : [Task.statement body].countP Task.removal = 0
  announcing : tasks.countP Task.announcing = [Task.statement body].countP Task.announcing

section Statement

variable {body : Statement} {base : TcpConnection (LoopId subLoops)} {tasks : List Task}

/-- A statement that leaves the state as it is and the channel where it is, and closes
nothing. -/
theorem Lively.rewired (lively : Lively connection stored count)
    (exchange : Exchanges count countNow [.statement body] tasks)
    (members : base.state_ = connection.state_ ∧ base.closeCallback_ = connection.closeCallback_)
    (counts : base.closes = connection.closes ∧
      base.history.count .closeCallback = connection.history.count .closeCallback)
    (index : base.channel_.index_ = connection.channel_.index_)
    (reading : connection.channel_.index_ = 1 → connection.channel_.events_.epollin = true →
      base.channel_.events_.epollin = true)
    (silent : connection.channel_.index_ = -1 → connection.channel_.events_ = .none →
      base.channel_.events_ = .none)
    (relays : Relays connection body tasks) :
    Lively base stored countNow := by
  refine lively.quiet exchange ?_ counts.1 members.1 members.2 index reading silent
    relays.establishing relays.past relays.closing
  exact lively.toAccounted.keep exchange counts.1 counts.2 relays.late relays.destroying .inl
    (fun holds => ⟨holds, relays.removal ▸ Nat.zero_le _⟩) relays.announcing

/-- A statement that touches neither the state nor the channel, and closes nothing. -/
theorem Lively.plain (lively : Lively connection stored count)
    (exchange : Exchanges count countNow [.statement body] tasks)
    (members : base.state_ = connection.state_ ∧ base.closeCallback_ = connection.closeCallback_ ∧
      base.channel_ = connection.channel_)
    (counts : base.closes = connection.closes ∧
      base.history.count .closeCallback = connection.history.count .closeCallback)
    (relays : Relays connection body tasks) :
    Lively base stored countNow := by
  obtain ⟨state, callback, channel⟩ := members
  exact lively.rewired exchange ⟨state, callback⟩ counts (congrArg _ channel)
    (fun _ reading => channel ▸ reading) (fun _ silent => channel ▸ silent) relays

/-- A statement that switches EPOLLOUT, of a connection that is in epoll. -/
theorem Lively.switched (asked : Channel) {channel : Channel} {ctl : Option EpollCtl}
    (lively : Lively connection stored count)
    (exchange : Exchanges count countNow [.statement body] tasks)
    (members : base.state_ = connection.state_ ∧ base.closeCallback_ = connection.closeCallback_ ∧
      base.channel_ = channel)
    (counts : base.closes = connection.closes ∧
      base.history.count .closeCallback = connection.history.count .closeCallback)
    (call : (channel, ctl) = (connection.channel_, none) ∨
      connection.channel_.index_ = 1 ∧ (channel, ctl) = Epoll.updateChannel asked)
    (sameIndex : asked.index_ = connection.channel_.index_)
    (sameReading : asked.events_.epollin = connection.channel_.events_.epollin)
    (relays : Relays connection body tasks) :
    Lively base stored countNow := by
  obtain ⟨state, callback, baseChannel⟩ := members
  rcases call with untouched | ⟨added, updated⟩
  · refine lively.plain exchange ⟨state, callback, ?_⟩ counts relays
    rw [baseChannel, (Prod.mk.inj untouched).1]
  · have reading : connection.channel_.events_.epollin = true := by
      rcases lively.channel with ⟨-, reading, -⟩ | ⟨fresh, -⟩
      · exact reading
      · rw [added] at fresh
        cases fresh
    have kept : base.channel_ = asked := by
      rw [baseChannel, ← updateChannel_added (sameIndex.trans added) (sameReading.trans reading),
        ← updated]
    exact lively.rewired exchange ⟨state, callback⟩ counts (kept ▸ sameIndex)
      (fun _ reading => kept ▸ sameReading.trans reading)
      (fun fresh _ => by rw [added] at fresh; cases fresh) relays

/-- The registration in epoll. -/
theorem Lively.establish (lively : Lively connection stored count)
    (exchange : Exchanges count countNow [.statement .connectEstablishedInLoop] []) :
    Lively ((connection.setState .kConnected).withChannel
      (Epoll.updateChannel connection.channel_.enableReading)) stored countNow := by
  have connecting := lively.used_establishing exchange Nat.one_pos
  obtain ⟨index, -⟩ := lively.connecting connecting
  have fresh : connection.channel_.enableReading.index_ = -1 := index
  rw [updateChannel_fresh fresh (by simp [Channel.enableReading, Events.none])]
  obtain ⟨closes, announced⟩ :=
    counts_ctlRecord (some { op := .add, events := connection.channel_.enableReading.events_ })
      connection.history
  have opened := closes.trans (lively.opened (.inl connecting))
  refine {
    toAccounted := lively.toAccounted.keep exchange closes announced nofun rfl .inl
      (fun holds => ⟨holds, Nat.zero_le _⟩) rfl
    establishing := ?_
    past := fun _ => nofun
    closing := nofun
    disconnected := nofun
    closed := fun closed => absurd closed (opened ▸ Nat.lt_irrefl 0)
    callback := lively.callback
    channel := .inl ⟨rfl, rfl, nofun, opened⟩ }
  have change := (exchange Task.establishing).2
  rw [lively.establishing, if_pos connecting] at change
  exact Nat.add_right_cancel (m := 1) change

/-- The store in `forceClose`: the close is ahead. -/
theorem Lively.disconnect (lively : Lively connection stored count)
    (exchange : Exchanges count countNow [.statement .forceCloseStore]
      [.statement .forceCloseInLoop]) :
    Lively (connection.setState .kDisconnecting).share stored countNow := by
  have past := lively.used_past exchange Nat.one_pos
  refine {
    toAccounted := lively.toAccounted.keep exchange rfl rfl nofun rfl .inl
      (fun holds => ⟨holds, Nat.zero_le _⟩) rfl
    establishing := ?_
    past := fun _ => nofun
    closing := fun _ => ?_
    disconnected := nofun
    closed := fun _ => .inl rfl
    callback := lively.callback
    channel := lively.channel.imp
      (fun ⟨index, reading, _, opened⟩ => ⟨index, reading, nofun, opened⟩)
      fun ⟨index, silent, closed⟩ => ⟨index, silent, .inr (closed.resolve_left past)⟩ }
  · have change := (exchange Task.establishing).2
    rw [lively.establishing, if_neg past] at change
    exact change
  · have change := (exchange Task.closing).2
    have left : [Task.statement .forceCloseInLoop].countP Task.closing = 1 := rfl
    have used : [Task.statement .forceCloseStore].countP Task.closing = 0 := rfl
    omega

/-- The store in `handleClose`: the callback and the removal are ahead. -/
theorem Lively.close (lively : Lively connection stored count)
    (exchange : Exchanges count countNow [.statement .handleCloseStore]
      [.statement .handleCloseCallback]) :
    Lively (((connection.setState .kDisconnected).record .closed).withChannel
      (Epoll.removeChannel connection.channel_.disableAll)) stored countNow := by
  have past := lively.used_past exchange Nat.one_pos
  have closes := closes_store connection
  have announced : (((connection.setState .kDisconnected).record .closed).withChannel
      (Epoll.removeChannel connection.channel_.disableAll)).history.count .closeCallback =
        connection.history.count .closeCallback := by
    simp [TcpConnection.withChannel, TcpConnection.record, TcpConnection.setState]
  have removed : (Epoll.removeChannel connection.channel_.disableAll).1.index_ = -1 ∧
      (Epoll.removeChannel connection.channel_.disableAll).1.events_ = .none := by
    unfold Epoll.removeChannel
    split
    · exact ⟨rfl, rfl⟩
    · rename_i fresh
      rcases lively.channel with ⟨added, -⟩ | ⟨index, -⟩
      · exact absurd added fresh
      · exact ⟨index, rfl⟩
  have isClosed : 0 < (((connection.setState .kDisconnected).record .closed).withChannel
      (Epoll.removeChannel connection.channel_.disableAll)).closes :=
    Nat.lt_of_lt_of_eq (Nat.succ_pos _) closes.symm
  refine {
    late := fun _ => isClosed
    destroying := ?_
    unstored := fun _ => isClosed
    removal := fun _ _ => ?_
    announced := ?_
    establishing := ?_
    past := fun _ same => by cases same
    closing := fun same => by cases same
    disconnected := fun _ => isClosed
    closed := fun _ => .inr rfl
    callback := lively.callback
    channel := .inr ⟨removed.1, removed.2, .inr isClosed⟩ }
  · have change := (exchange Task.destroying).2
    rw [lively.destroying] at change
    exact change
  · have change := (exchange Task.removal).2
    have left : [Task.statement .handleCloseCallback].countP Task.removal = 1 := rfl
    have used : [Task.statement .handleCloseStore].countP Task.removal = 0 := rfl
    omega
  · rw [closes, announced]
    have change := (exchange Task.announcing).2
    have left : [Task.statement .handleCloseCallback].countP Task.announcing = 1 := rfl
    have used : [Task.statement .handleCloseStore].countP Task.announcing = 0 := rfl
    have before := lively.announced
    omega
  · have change := (exchange Task.establishing).2
    rw [lively.establishing, if_neg past] at change
    exact change

/-- The call of the close callback. -/
theorem Lively.announce (lively : Lively connection stored count)
    (exchange : Exchanges count countNow [.statement .handleCloseCallback] [.removeConnection]) :
    Lively (connection.record .closeCallback).share stored countNow := by
  have late := lively.toAccounted.used_late exchange Nat.one_pos
  have past := lively.used_past exchange Nat.one_pos
  have closes : (connection.record .closeCallback).share.closes = connection.closes := by
    simp [TcpConnection.closes, TcpConnection.share, TcpConnection.record]
  refine lively.quiet exchange ?_ closes rfl rfl rfl (fun _ reading => reading)
    (fun _ silent => silent) rfl (fun _ => past) fun _ => Nat.zero_le _
  refine {
    late := fun _ => closes ▸ late
    destroying := ?_
    unstored := fun _ => closes ▸ late
    removal := fun isClosed holds => ?_
    announced := ?_ }
  · have change := (exchange Task.destroying).2
    rw [lively.destroying] at change
    exact change
  · have change := (exchange Task.removal).2
    have before := lively.removal (closes ▸ isClosed) holds
    exact Nat.add_right_cancel change ▸ before
  · rw [closes]
    have announced : (connection.record .closeCallback).share.history.count .closeCallback =
        connection.history.count .closeCallback + 1 := by
      simp [TcpConnection.share, TcpConnection.record]
    have change := (exchange Task.announcing).2
    have left : [Task.removeConnection].countP Task.announcing = 0 := rfl
    have used : [Task.statement .handleCloseCallback].countP Task.announcing = 1 := rfl
    have before := lively.announced
    omega

end Statement

/-- Executing a statement keeps the invariant. -/
theorem Lively.statement {body : Statement} {io : IoResult} {outcome : Outcome (LoopId subLoops)}
    (lively : Lively connection stored count) (executes : Executes connection body io outcome)
    (exchange : Exchanges count countNow [.statement body]
      (outcome.next.filterMap Next.task)) : Lively outcome.connection stored countNow := by
  have never {property : Prop} (outstanding : 0 < 0) : property :=
    absurd outstanding (Nat.lt_irrefl 0)
  have past (isPast : 0 < [Task.statement body].countP Task.past) :
      connection.state_ ≠ .kConnecting := lively.used_past exchange isPast
  have buffered (base : TcpConnection (LoopId subLoops)) (msg remaining : Bytes)
      (members : base.state_ = connection.state_ ∧
        base.closeCallback_ = connection.closeCallback_ ∧ base.channel_ = connection.channel_)
      (counts : base.closes = connection.closes ∧
        base.history.count .closeCallback = connection.history.count .closeCallback)
      (connected : connection.state_ = .kConnected)
      (exchange : Exchanges count countNow [.statement (.sendInLoop msg)]
        ((base.bufferRemaining remaining).next.filterMap Next.task)) :
      Lively (base.bufferRemaining remaining).connection stored countNow := by
    obtain ⟨channel, ctl, equal, call⟩ := bufferRemaining_eq base remaining
    rw [equal] at exchange ⊢
    obtain ⟨state, callback, same⟩ := members
    rw [same] at call
    exact lively.switched connection.channel_.enableWriting exchange ⟨state, callback, rfl⟩
      ⟨(counts_ctlRecord ctl _).1.trans counts.1, (counts_ctlRecord ctl _).2.trans counts.2⟩
      (call.imp id fun updated => ⟨(lively.connected connected).1, updated⟩) rfl rfl
      ⟨never, fun _ => Nat.zero_le _, never, rfl, rfl, rfl, rfl⟩
  have stopped (base : TcpConnection (LoopId subLoops)) (next : List Next)
      (members : base.state_ = connection.state_ ∧
        base.closeCallback_ = connection.closeCallback_ ∧ base.channel_ = connection.channel_)
      (counts : base.closes = connection.closes ∧
        base.history.count .closeCallback = connection.history.count .closeCallback)
      (exchange : Exchanges count countNow [.statement body]
        ((base.stopWriting next).next.filterMap Next.task))
      (relays : Relays connection body (next.filterMap Next.task)) :
      Lively (base.stopWriting next).connection stored countNow := by
    obtain ⟨channel, ctl, equal, call⟩ := stopWriting_eq base next
    rw [equal] at exchange ⊢
    obtain ⟨state, callback, same⟩ := members
    rw [same] at call
    refine lively.switched connection.channel_.disableWriting exchange ⟨state, callback, rfl⟩
      ⟨(counts_ctlRecord ctl _).1.trans counts.1, (counts_ctlRecord ctl _).2.trans counts.2⟩
      (call.imp id fun both => ⟨?_, both.2⟩) rfl rfl relays
    rcases lively.channel with ⟨added, -⟩ | ⟨-, silent, -⟩
    · exact added
    · have writing := both.1
      rw [Channel.isWriting, silent] at writing
      cases writing
  cases executes with
  | errorCallback | readCallback | writeCallback | handleWrite | handleWriteBlocked
  | handleWriteDone | handleError =>
    exact lively.plain exchange ⟨rfl, rfl, rfl⟩ ⟨rfl, rfl⟩
      ⟨fun _ => past Nat.one_pos, fun _ => Nat.zero_le _, never, rfl, rfl, rfl, rfl⟩
  | errorIgnored | readIgnored | writeIgnored | connectEstablished | connectDestroyedSkipped | send
  | sendSkipped | sendInLoopSkipped | handleReadNothing | handleWriteKept =>
    exact lively.plain exchange ⟨rfl, rfl, rfl⟩ ⟨rfl, rfl⟩
      ⟨never, fun _ => Nat.zero_le _, never, rfl, rfl, rfl, rfl⟩
  | handleReadData | handleReadEof | handleReadAgain | handleReadError | handleWriteSent
  | handleWriteZero | handleWriteFailed =>
    exact lively.plain exchange ⟨rfl, rfl, rfl⟩ (counts_append (by simp) _)
      ⟨fun _ => past Nat.one_pos, fun _ => Nat.zero_le _, never, rfl, rfl, rfl, rfl⟩
  | sendInLoopFailed | forceCloseOther | handleReadEcho =>
    exact lively.plain exchange ⟨rfl, rfl, rfl⟩ (counts_append (by simp) _)
      ⟨never, fun _ => Nat.zero_le _, never, rfl, rfl, rfl, rfl⟩
  | connectEstablishedInLoop io => exact lively.establish exchange
  | connectDestroyed io =>
    exact lively.plain exchange ⟨rfl, rfl, rfl⟩ ⟨rfl, rfl⟩
      ⟨fun _ => past Nat.one_pos, fun _ => Nat.zero_le _,
        fun _ => lively.toAccounted.used_late exchange Nat.one_pos, rfl, rfl, rfl, rfl⟩
  | connectDestroyedInLoop io connected =>
    -- the connection has been closed, so it is not connected
    have late := lively.toAccounted.used_late exchange Nat.one_pos
    rw [lively.opened (.inr connected)] at late
    cases late
  | connectDestroyedInLoopStore io =>
    have held := (exchange Task.destroying).1
    rw [lively.destroying] at held
    cases held
  | sendInLoopDirect msg sent connected empty bounded =>
    refine buffered _ msg _ ⟨rfl, rfl, rfl⟩ ?_ connected exchange
    simp [TcpConnection.closes, TcpConnection.record]
  | sendInLoopBlocked msg connected empty =>
    exact buffered _ msg _ ⟨rfl, rfl, rfl⟩ (counts_append (by simp) _) connected exchange
  | sendInLoopQueued msg io connected pending =>
    exact buffered _ msg _ ⟨rfl, rfl, rfl⟩ (counts_append (by simp) _) connected exchange
  | forceCloseConnected io connected =>
    exact lively.plain exchange ⟨rfl, rfl, rfl⟩ (counts_append (by simp) _)
      ⟨fun _ => by rw [connected]; decide, fun _ => Nat.zero_le _, never, rfl, rfl, rfl, rfl⟩
  | forceCloseRetest io disconnecting =>
    exact lively.plain exchange ⟨rfl, rfl, rfl⟩ ⟨rfl, rfl⟩
      ⟨fun _ => by rw [disconnecting]; decide, fun _ => Nat.zero_le _, never, rfl, rfl, rfl, rfl⟩
  | forceCloseSkipped =>
    exact lively.plain exchange ⟨rfl, rfl, rfl⟩ ⟨rfl, rfl⟩
      ⟨never, fun _ => Nat.zero_le _, never, rfl, rfl, rfl, rfl⟩
  | forceCloseStore io => exact lively.disconnect exchange
  | forceCloseInLoopConnected | forceCloseInLoopOther | forceCloseInLoopRetest | handleClose =>
    exact lively.plain exchange ⟨rfl, rfl, rfl⟩ ⟨rfl, rfl⟩
      ⟨fun _ => past Nat.one_pos, fun _ => Nat.le_refl 1, never, rfl, rfl, rfl, rfl⟩
  | forceCloseInLoopSkipped io other =>
    exact lively.plain exchange ⟨rfl, rfl, rfl⟩ ⟨rfl, rfl⟩
      ⟨never, fun disconnecting => absurd disconnecting other, never, rfl, rfl, rfl, rfl⟩
  | handleCloseSkipped io closed =>
    exact lively.plain exchange ⟨rfl, rfl, rfl⟩ ⟨rfl, rfl⟩
      ⟨never, fun disconnecting => (by rw [closed] at disconnecting; cases disconnecting), never,
        rfl, rfl, rfl, rfl⟩
  | handleWriteNothing io empty =>
    exact stopped _ _ ⟨rfl, rfl, rfl⟩ ⟨rfl, rfl⟩ exchange
      ⟨never, fun _ => Nat.zero_le _, never, rfl, rfl, rfl, rfl⟩
  | handleWriteDrained totalSent io drained =>
    refine stopped _ _ ⟨rfl, rfl, rfl⟩ ⟨rfl, rfl⟩ exchange ?_
    by_cases disconnecting : connection.state_ = .kDisconnecting
    · rw [if_pos disconnecting]
      exact ⟨fun _ => past Nat.one_pos, fun _ => Nat.zero_le _, never, rfl, rfl, rfl, rfl⟩
    · rw [if_neg disconnecting]
      exact ⟨never, fun _ => Nat.zero_le _, never, rfl, rfl, rfl, rfl⟩
  | handleCloseStore io => exact lively.close exchange
  | handleCloseCallback io set => exact lively.announce exchange
  | handleCloseCallbackUnset io unset =>
    rw [lively.callback] at unset
    cases unset

/-! ### Turns -/

/-- A turn that executes no statement, leaves the state and the channel's place alone and closes
nothing. -/
theorem Lively.stays (lively : Lively connection stored count)
    (exchange : Exchanges count countNow used left)
    (members : now.state_ = connection.state_ ∧ now.closeCallback_ = connection.closeCallback_ ∧
      now.channel_.index_ = connection.channel_.index_ ∧
      now.channel_.events_ = connection.channel_.events_)
    (counts : now.closes = connection.closes ∧
      now.history.count .closeCallback = connection.history.count .closeCallback)
    (past : 0 < left.countP Task.past → connection.state_ ≠ .kConnecting)
    (late : 0 < left.countP Task.late → 0 < connection.closes)
    (unstored : storedNow = 0 → stored = 0 ∨ 0 < connection.closes)
    (removal : 0 < storedNow → 0 < stored ∧ used.countP Task.removal ≤ left.countP Task.removal)
    (same : left.countP Task.establishing = used.countP Task.establishing ∧
      used.countP Task.closing = 0 ∧ left.countP Task.destroying = 0 ∧
      left.countP Task.announcing = used.countP Task.announcing) :
    Lively now storedNow countNow := by
  obtain ⟨state, callback, index, events⟩ := members
  obtain ⟨establishing, closing, destroying, announcing⟩ := same
  refine lively.quiet exchange ?_ counts.1 state callback index (fun _ reading => events ▸ reading)
    (fun _ silent => events ▸ silent) establishing past fun _ => closing ▸ Nat.zero_le _
  exact lively.toAccounted.keep exchange counts.1 counts.2 late destroying unstored removal
    announcing

/-- Every turn keeps the invariant. -/
theorem Lively.turn {machine : ServerMachine subLoops User} {c : ConnectionId}
    {event : ServerEvent subLoops User} (lively : Lively connection stored count)
    (wired : Wired machine.world) (found : machine.world.find c = some connection)
    (turn : Turn machine c event connection stored now storedNow used left)
    (exchange : Exchanges count countNow used left) : Lively now storedNow countNow := by
  have never {property : Prop} (outstanding : 0 < 0) : property :=
    absurd outstanding (Nat.lt_irrefl 0)
  cases turn with
  | statement thread input body rest connection stored outcome top alive executes =>
    exact lively.statement executes exchange
  | removeConnection event connection stored =>
    have late := lively.toAccounted.used_late exchange Nat.one_pos
    exact lively.stays exchange ⟨rfl, rfl, rfl, rfl⟩ ⟨rfl, rfl⟩
      (fun _ => lively.used_past exchange Nat.one_pos) (fun _ => late) .inl
      (fun holds => ⟨holds, Nat.le_refl 1⟩) ⟨rfl, rfl, rfl, rfl⟩
  | removedAlready event connection =>
    exact lively.stays exchange ⟨rfl, rfl, rfl, rfl⟩ ⟨rfl, rfl⟩ never never .inl never
      ⟨rfl, rfl, rfl, rfl⟩
  | removed event connection =>
    have late := lively.toAccounted.used_late exchange Nat.one_pos
    exact lively.stays exchange ⟨rfl, rfl, rfl, rfl⟩ ⟨rfl, rfl⟩
      (fun _ => lively.used_past exchange Nat.one_pos) (fun _ => late) (fun _ => .inr late) never
      ⟨rfl, rfl, rfl, rfl⟩
  | reported l active mask connection stored idle place member alive registered =>
    obtain ⟨registrant, registrantFound, -, -, added⟩ := wired.registrant registered
    obtain rfl := Option.some.inj (found.symm.trans registrantFound)
    have past : connection.state_ ≠ .kConnecting := fun connecting => by
      rw [(lively.connecting connecting).1] at added
      cases added
    exact lively.stays exchange ⟨rfl, rfl, rfl, rfl⟩ ⟨rfl, rfl⟩ (fun _ => past) never .inl
      (fun holds => ⟨holds, Nat.le_refl 0⟩) ⟨rfl, rfl, rfl, rfl⟩
  | delivered event connection stored =>
    exact lively.stays exchange ⟨rfl, rfl, rfl, rfl⟩ ⟨rfl, rfl⟩
      (fun _ => lively.used_past exchange Nat.one_pos) never .inl
      (fun holds => ⟨holds, Nat.le_refl 0⟩) ⟨rfl, rfl, rfl, rfl⟩
  | requested t call connection stored body made =>
    rcases target_cases made with rfl | ⟨msg, rfl⟩ <;>
      exact lively.stays exchange ⟨rfl, rfl, rfl, rfl⟩ ⟨rfl, rfl⟩ never never .inl
        (fun holds => ⟨holds, Nat.le_refl 0⟩) ⟨rfl, rfl, rfl, rfl⟩
  | shared event connection stored =>
    exact lively.stays exchange ⟨rfl, rfl, rfl, rfl⟩ ⟨rfl, rfl⟩ never never .inl
      (fun holds => ⟨holds, Nat.le_refl 0⟩) ⟨rfl, rfl, rfl, rfl⟩
  | dropped event connection stored alive =>
    exact lively.stays exchange ⟨rfl, rfl, rfl, rfl⟩
      ⟨closes_drop connection, drop_count connection nofun⟩ never never .inl
      (fun holds => ⟨holds, Nat.le_refl 0⟩) ⟨rfl, rfl, rfl, rfl⟩
  | bystander event connection stored =>
    exact lively.stays exchange ⟨rfl, rfl, rfl, rfl⟩ ⟨rfl, rfl⟩ never never .inl
      (fun holds => ⟨holds, Nat.le_refl 0⟩) ⟨rfl, rfl, rfl, rfl⟩

/-- Only the store of `handleClose` closes a connection. -/
theorem Turn.closes {machine : ServerMachine subLoops User} {c : ConnectionId}
    {event : ServerEvent subLoops User}
    (turn : Turn machine c event connection stored now storedNow used left) :
    now.closes = connection.closes ∨ ∃ thread rest,
      machine.stack thread = .call (.code (.connection c .handleCloseStore)) :: rest := by
  cases turn with
  | statement thread input body rest connection stored outcome top alive executes =>
    by_cases closing : body = .handleCloseStore
    · subst closing
      exact .inr ⟨thread, rest, top⟩
    · exact .inl (executes.closes closing)
  | dropped event connection stored alive => exact .inl (closes_drop connection)
  | _ => exact .inl rfl

end Lively

section Reachable

variable [DecidableEq User] [Fintype User] {listenFd : Nat} {openFds : Nat → Bool}
  {machine : ServerMachine subLoops User} {c : ConnectionId}

/-- The invariant holds of every connection in every reachable state. -/
theorem reachable_lively
    (reachable : Reachable (TcpServer.system subLoops User listenFd openFds) machine)
    {connection : TcpConnection (LoopId subLoops)}
    (found : machine.world.find c = some connection) :
    Lively connection (machine.world.stored c connection) (pending c machine) := by
  refine connection_invariant c Lively ?_ ?_ reachable found
  · intro subLoop fd _
    exact {
      late := nofun
      destroying := rfl
      unstored := nofun
      removal := nofun
      announced := rfl
      establishing := rfl
      past := nofun
      closing := nofun
      disconnected := nofun
      closed := nofun
      callback := rfl
      channel := .inr ⟨rfl, rfl, .inl rfl⟩ }
  · intro machine event connection stored now storedNow used left after before _ found lively turn
      exchange
    exact lively.turn (reachable_wired before) found turn exchange

end Reachable

end MultiReactor
