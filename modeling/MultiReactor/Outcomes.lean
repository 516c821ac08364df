/-
This file says once what a statement of a `TcpConnection` can do. `Executes`
lists the branches of every statement with their guards and their results,
`execute_cases` inverts `TcpConnection.execute`, and what all statements have in
common is proved by cases on it. The control flow of the member functions is
the relation `follows`.
-/

import MultiReactor.TcpConnection

namespace MultiReactor

variable {Loop : Type}

/-! ### Small results -/

section Members

variable (connection : TcpConnection Loop)

@[simp] theorem yields_connection (next : List Next) :
    (connection.yields next).connection = connection := rfl

@[simp] theorem yields_ctl (next : List Next) : (connection.yields next).ctl = none := rfl

@[simp] theorem yields_next (next : List Next) : (connection.yields next).next = next := rfl

@[simp] theorem yieldsChannel_connection (result : Channel × Option EpollCtl) (next : List Next) :
    (connection.yieldsChannel result next).connection = connection.withChannel result := rfl

@[simp] theorem yieldsChannel_ctl (result : Channel × Option EpollCtl) (next : List Next) :
    (connection.yieldsChannel result next).ctl = result.2 := rfl

@[simp] theorem yieldsChannel_next (result : Channel × Option EpollCtl) (next : List Next) :
    (connection.yieldsChannel result next).next = next := rfl

@[simp] theorem bindInLoop_connection (body : Statement) :
    (connection.bindInLoop body).connection = connection.share := rfl

@[simp] theorem bindInLoop_ctl (body : Statement) : (connection.bindInLoop body).ctl = none := rfl

@[simp] theorem bindInLoop_next (body : Statement) :
    (connection.bindInLoop body).next = [.runInLoop body] := rfl

@[simp] theorem ctlRecord_none : ctlRecord none = [] := rfl

@[simp] theorem ctlRecord_some (call : EpollCtl) : ctlRecord (some call) = [.ctl call.op] := rfl

/-- A view of the history that ignores `epoll_ctl` calls. -/
theorem flatMap_ctlRecord {View : Type} (view : Occurrence → List View)
    (ignores : ∀ op, view (.ctl op) = []) (call : Option EpollCtl) :
    (ctlRecord call).flatMap view = [] := by
  cases call with
  | none => rfl
  | some issued => simp [ignores]

theorem count_ctlRecord {occurrence : Occurrence} (other : ∀ op, occurrence ≠ .ctl op)
    (call : Option EpollCtl) : (ctlRecord call).count occurrence = 0 := by
  cases call with
  | none => rfl
  | some issued =>
    exact List.count_eq_zero.mpr fun member => other issued.op (List.mem_singleton.mp member)

@[simp] theorem fdClosed_ctlRecord (call : Option EpollCtl) :
    (ctlRecord call).count .fdClosed = 0 :=
  count_ctlRecord (by simp) call

@[simp] theorem closed_ctlRecord (call : Option EpollCtl) :
    (ctlRecord call).count .closed = 0 :=
  count_ctlRecord (by simp) call

@[simp] theorem closeCallback_ctlRecord (call : Option EpollCtl) :
    (ctlRecord call).count .closeCallback = 0 :=
  count_ctlRecord (by simp) call

/-- Buffering what was not sent touches the output buffer and the channel. -/
theorem bufferRemaining_eq (remaining : Bytes) :
    ∃ channel ctl, connection.bufferRemaining remaining =
        { connection := { connection with
            output_buffer_ := connection.output_buffer_ ++ remaining
            channel_ := channel
            history := connection.history ++ ctlRecord ctl }
          ctl := ctl
          next := [] } ∧
      ((channel, ctl) = (connection.channel_, none) ∨
        (channel, ctl) = Epoll.updateChannel connection.channel_.enableWriting) := by
  unfold TcpConnection.bufferRemaining
  split
  · rename_i empty
    exact ⟨connection.channel_, none, by simp [empty, TcpConnection.yields], .inl rfl⟩
  · dsimp only
    split
    · exact ⟨connection.channel_, none, by simp [TcpConnection.yields], .inl rfl⟩
    · exact ⟨_, _, rfl, .inr rfl⟩

/-- Disabling EPOLLOUT touches the channel. -/
theorem stopWriting_eq (next : List Next) :
    ∃ channel ctl, connection.stopWriting next =
        { connection := { connection with
            channel_ := channel
            history := connection.history ++ ctlRecord ctl }
          ctl := ctl
          next := next } ∧
      ((channel, ctl) = (connection.channel_, none) ∨
        connection.channel_.isWriting = true ∧
          (channel, ctl) = Epoll.updateChannel connection.channel_.disableWriting) := by
  unfold TcpConnection.stopWriting
  split
  · rename_i writing
    exact ⟨_, _, rfl, .inr ⟨writing, rfl⟩⟩
  · exact ⟨connection.channel_, none, by simp [TcpConnection.yields], .inl rfl⟩

@[simp] theorem bufferRemaining_next (remaining : Bytes) :
    (connection.bufferRemaining remaining).next = [] := by
  obtain ⟨channel, ctl, equal, -⟩ := bufferRemaining_eq connection remaining
  rw [equal]

@[simp] theorem stopWriting_next (next : List Next) :
    (connection.stopWriting next).next = next := by
  obtain ⟨channel, ctl, equal, -⟩ := stopWriting_eq connection next
  rw [equal]

end Members

/-! ### The branches of the statements -/

/-- Every branch of every statement, with its guard and its result. -/
inductive Executes (connection : TcpConnection Loop) :
    Statement → IoResult → Outcome Loop → Prop where
  | errorCallback (io : IoResult)
      (masked : (connection.channel_.revents_.epollerr || connection.channel_.revents_.epollhup) =
        true) :
      Executes connection .errorCallback io (connection.yields [.statement .handleError])
  | errorIgnored (io : IoResult)
      (unmasked : (connection.channel_.revents_.epollerr ||
        connection.channel_.revents_.epollhup) = false) :
      Executes connection .errorCallback io (connection.yields [])
  | readCallback (io : IoResult) (masked : connection.channel_.revents_.epollin = true) :
      Executes connection .readCallback io (connection.yields [.statement .handleRead])
  | readIgnored (io : IoResult) (unmasked : connection.channel_.revents_.epollin = false) :
      Executes connection .readCallback io (connection.yields [])
  | writeCallback (io : IoResult) (masked : connection.channel_.revents_.epollout = true) :
      Executes connection .writeCallback io (connection.yields [.statement .handleWrite])
  | writeIgnored (io : IoResult) (unmasked : connection.channel_.revents_.epollout = false) :
      Executes connection .writeCallback io (connection.yields [])
  | connectEstablished (io : IoResult) :
      Executes connection .connectEstablished io (connection.bindInLoop .connectEstablishedInLoop)
  | connectEstablishedInLoop (io : IoResult) :
      Executes connection .connectEstablishedInLoop io
        ((connection.setState .kConnected).yieldsChannel
          (Epoll.updateChannel connection.channel_.enableReading) [])
  | connectDestroyed (io : IoResult) :
      Executes connection .connectDestroyed io (connection.bindInLoop .connectDestroyedInLoop)
  | connectDestroyedInLoop (io : IoResult) (connected : connection.state_ = .kConnected) :
      Executes connection .connectDestroyedInLoop io
        (connection.yields [.statement .connectDestroyedInLoopStore])
  | connectDestroyedSkipped (io : IoResult) (other : connection.state_ ≠ .kConnected) :
      Executes connection .connectDestroyedInLoop io (connection.yields [])
  | connectDestroyedInLoopStore (io : IoResult) :
      Executes connection .connectDestroyedInLoopStore io
        ((connection.setState .kDisconnected).yieldsChannel
          (Epoll.removeChannel connection.channel_.disableAll) [])
  | send (msg : Bytes) (io : IoResult) (connected : connection.state_ = .kConnected) :
      Executes connection (.send msg) io (connection.bindInLoop (.sendInLoop msg))
  | sendSkipped (msg : Bytes) (io : IoResult) (other : connection.state_ ≠ .kConnected) :
      Executes connection (.send msg) io (connection.yields [])
  | sendInLoopSkipped (msg : Bytes) (io : IoResult) (other : connection.state_ ≠ .kConnected) :
      Executes connection (.sendInLoop msg) io (connection.yields [])
  | sendInLoopDirect (msg : Bytes) (sent : Nat) (connected : connection.state_ = .kConnected)
      (empty : connection.output_buffer_ = []) (bounded : sent ≤ msg.length) :
      Executes connection (.sendInLoop msg) (.send (.count sent))
        (((connection.record (.transmit msg)).record (.accepted (msg.take sent))).bufferRemaining
          (msg.drop sent))
  | sendInLoopBlocked (msg : Bytes) (connected : connection.state_ = .kConnected)
      (empty : connection.output_buffer_ = []) :
      Executes connection (.sendInLoop msg) (.send .again)
        ((connection.record (.transmit msg)).bufferRemaining msg)
  | sendInLoopFailed (msg : Bytes) (connected : connection.state_ = .kConnected)
      (empty : connection.output_buffer_ = []) :
      Executes connection (.sendInLoop msg) (.send .error)
        ((connection.record (.transmit msg)).yields [])
  | sendInLoopQueued (msg : Bytes) (io : IoResult) (connected : connection.state_ = .kConnected)
      (pending : connection.output_buffer_ ≠ []) :
      Executes connection (.sendInLoop msg) io
        ((connection.record (.transmit msg)).bufferRemaining msg)
  | forceCloseConnected (io : IoResult) (connected : connection.state_ = .kConnected) :
      Executes connection .forceClose io
        ((connection.record (.closeRequested connection.state_)).yields
          [.statement .forceCloseStore])
  | forceCloseOther (io : IoResult) (other : connection.state_ ≠ .kConnected) :
      Executes connection .forceClose io
        ((connection.record (.closeRequested connection.state_)).yields
          [.statement .forceCloseRetest])
  | forceCloseRetest (io : IoResult) (disconnecting : connection.state_ = .kDisconnecting) :
      Executes connection .forceCloseRetest io (connection.yields [.statement .forceCloseStore])
  | forceCloseSkipped (io : IoResult) (other : connection.state_ ≠ .kDisconnecting) :
      Executes connection .forceCloseRetest io (connection.yields [])
  | forceCloseStore (io : IoResult) :
      Executes connection .forceCloseStore io
        ((connection.setState .kDisconnecting).bindInLoop .forceCloseInLoop)
  | forceCloseInLoopConnected (io : IoResult) (connected : connection.state_ = .kConnected) :
      Executes connection .forceCloseInLoop io (connection.yields [.statement .handleClose])
  | forceCloseInLoopOther (io : IoResult) (other : connection.state_ ≠ .kConnected) :
      Executes connection .forceCloseInLoop io
        (connection.yields [.statement .forceCloseInLoopRetest])
  | forceCloseInLoopRetest (io : IoResult) (disconnecting : connection.state_ = .kDisconnecting) :
      Executes connection .forceCloseInLoopRetest io (connection.yields [.statement .handleClose])
  | forceCloseInLoopSkipped (io : IoResult) (other : connection.state_ ≠ .kDisconnecting) :
      Executes connection .forceCloseInLoopRetest io (connection.yields [])
  | handleReadData (bytes : Bytes) (nonempty : bytes ≠ []) (bounded : bytes.length ≤ recvSize) :
      Executes connection .handleRead (.recv (.data bytes))
        (({ connection with input_buffer_ := connection.input_buffer_ ++ bytes }.record
          (.received (.data bytes))).yields [.statement .handleRead])
  | handleReadEof :
      Executes connection .handleRead (.recv .eof)
        ((connection.record (.received .eof)).yields [.statement .handleClose])
  | handleReadAgain :
      Executes connection .handleRead (.recv .again)
        ((connection.record (.received .again)).yields [.statement .handleReadEcho])
  | handleReadError :
      Executes connection .handleRead (.recv .error)
        ((connection.record (.received .error)).yields [.statement .handleClose])
  | handleReadEcho (io : IoResult) (nonempty : connection.input_buffer_ ≠ []) :
      Executes connection .handleReadEcho io
        (({ connection with input_buffer_ := [] }.record
          (.echoed connection.state_ connection.input_buffer_)).yields
            [.statement (.send connection.input_buffer_)])
  | handleReadNothing (io : IoResult) (empty : connection.input_buffer_ = []) :
      Executes connection .handleReadEcho io (connection.yields [])
  | handleWriteNothing (io : IoResult) (empty : connection.output_buffer_ = []) :
      Executes connection .handleWrite io (connection.stopWriting [])
  | handleWrite (io : IoResult) (pending : connection.output_buffer_ ≠ []) :
      Executes connection .handleWrite io
        (connection.yields [.statement (.handleWriteLoop 0 connection.output_buffer_.length)])
  | handleWriteSent (totalSent totalLen sent : Nat) (left : totalSent < totalLen)
      (positive : 0 < sent) (bounded : sent ≤ totalLen - totalSent) :
      Executes connection (.handleWriteLoop totalSent totalLen) (.send (.count sent))
        ((connection.record
          (.accepted ((connection.output_buffer_.drop totalSent).take sent))).yields
            [.statement (.handleWriteLoop (totalSent + sent) totalLen)])
  | handleWriteZero (totalSent totalLen : Nat) (left : totalSent < totalLen) :
      Executes connection (.handleWriteLoop totalSent totalLen) (.send (.count 0))
        ((connection.record .writeFailed).yields [.statement .handleClose])
  | handleWriteBlocked (totalSent totalLen : Nat) (left : totalSent < totalLen) :
      Executes connection (.handleWriteLoop totalSent totalLen) (.send .again)
        (connection.yields [.statement (.handleWriteRest totalSent)])
  | handleWriteFailed (totalSent totalLen : Nat) (left : totalSent < totalLen) :
      Executes connection (.handleWriteLoop totalSent totalLen) (.send .error)
        ((connection.record .writeFailed).yields [.statement .handleClose])
  | handleWriteDone (totalSent totalLen : Nat) (io : IoResult) (done : totalLen ≤ totalSent) :
      Executes connection (.handleWriteLoop totalSent totalLen) io
        (connection.yields [.statement (.handleWriteRest totalSent)])
  | handleWriteDrained (totalSent : Nat) (io : IoResult)
      (drained : connection.output_buffer_.drop totalSent = []) :
      Executes connection (.handleWriteRest totalSent) io
        ({ connection with output_buffer_ := [] }.stopWriting
          (if connection.state_ = StateE.kDisconnecting then [.statement .handleClose] else []))
  | handleWriteKept (totalSent : Nat) (io : IoResult)
      (kept : connection.output_buffer_.drop totalSent ≠ []) :
      Executes connection (.handleWriteRest totalSent) io
        ({ connection with output_buffer_ := connection.output_buffer_.drop totalSent }.yields [])
  | handleError (io : IoResult) :
      Executes connection .handleError io (connection.yields [.statement .handleClose])
  | handleClose (io : IoResult) (opened : connection.state_ ≠ .kDisconnected) :
      Executes connection .handleClose io (connection.yields [.statement .handleCloseStore])
  | handleCloseSkipped (io : IoResult) (closed : connection.state_ = .kDisconnected) :
      Executes connection .handleClose io (connection.yields [])
  | handleCloseStore (io : IoResult) :
      Executes connection .handleCloseStore io
        (((connection.setState .kDisconnected).record .closed).yieldsChannel
          (Epoll.removeChannel connection.channel_.disableAll) [.statement .handleCloseCallback])
  | handleCloseCallback (io : IoResult) (set : connection.closeCallback_ = true) :
      Executes connection .handleCloseCallback io
        ((connection.record .closeCallback).share.yields [.closeCallback, .release])
  | handleCloseCallbackUnset (io : IoResult) (unset : connection.closeCallback_ = false) :
      Executes connection .handleCloseCallback io (connection.yields [])

theorem sendInLoop_cases {connection : TcpConnection Loop} {msg : Bytes} {io : IoResult}
    {outcome : Outcome Loop} (executed : connection.sendInLoop msg io = some outcome) :
    Executes connection (.sendInLoop msg) io outcome := by
  unfold TcpConnection.sendInLoop at executed
  split at executed
  · rename_i other
    obtain rfl := Option.some.inj executed
    exact .sendInLoopSkipped msg io other
  · rename_i connected
    have connected : connection.state_ = .kConnected := not_not.mp connected
    dsimp only at executed
    split at executed
    · rename_i empty
      split at executed
      · rename_i sent
        split at executed
        · rename_i bounded
          obtain rfl := Option.some.inj executed
          exact .sendInLoopDirect msg sent connected empty bounded
        · cases executed
      · obtain rfl := Option.some.inj executed
        exact .sendInLoopBlocked msg connected empty
      · obtain rfl := Option.some.inj executed
        exact .sendInLoopFailed msg connected empty
      · cases executed
    · rename_i pending
      obtain rfl := Option.some.inj executed
      exact .sendInLoopQueued msg io connected pending

theorem handleRead_cases {connection : TcpConnection Loop} {io : IoResult}
    {outcome : Outcome Loop} (executed : connection.handleRead io = some outcome) :
    Executes connection .handleRead io outcome := by
  unfold TcpConnection.handleRead at executed
  split at executed
  · rename_i bytes
    split at executed
    · rename_i fits
      obtain rfl := Option.some.inj executed
      exact .handleReadData bytes fits.1 fits.2
    · cases executed
  · obtain rfl := Option.some.inj executed
    exact .handleReadEof
  · obtain rfl := Option.some.inj executed
    exact .handleReadAgain
  · obtain rfl := Option.some.inj executed
    exact .handleReadError
  · cases executed

theorem handleWriteLoop_cases {connection : TcpConnection Loop} {totalSent totalLen : Nat}
    {io : IoResult} {outcome : Outcome Loop}
    (executed : connection.handleWriteLoop totalSent totalLen io = some outcome) :
    Executes connection (.handleWriteLoop totalSent totalLen) io outcome := by
  unfold TcpConnection.handleWriteLoop at executed
  split at executed
  · rename_i left
    split at executed
    · rename_i sent
      split at executed
      · rename_i zero
        subst zero
        obtain rfl := Option.some.inj executed
        exact .handleWriteZero totalSent totalLen left
      · rename_i positive
        split at executed
        · rename_i bounded
          obtain rfl := Option.some.inj executed
          exact .handleWriteSent totalSent totalLen sent left (Nat.pos_of_ne_zero positive) bounded
        · cases executed
    · obtain rfl := Option.some.inj executed
      exact .handleWriteBlocked totalSent totalLen left
    · obtain rfl := Option.some.inj executed
      exact .handleWriteFailed totalSent totalLen left
    · cases executed
  · rename_i done
    obtain rfl := Option.some.inj executed
    exact .handleWriteDone totalSent totalLen io (Nat.not_lt.mp done)

/-- A statement that tests and goes on or not. -/
theorem test_cases {connection : TcpConnection Loop} {body : Statement} {io : IoResult}
    {outcome : Outcome Loop} {test : Prop} [Decidable test] {next : List Next}
    (executed : some (connection.yields (if test then next else [])) = some outcome)
    (passes : test → Executes connection body io (connection.yields next))
    (fails : ¬ test → Executes connection body io (connection.yields [])) :
    Executes connection body io outcome := by
  obtain rfl := Option.some.inj executed
  by_cases holds : test
  · rw [if_pos holds]
    exact passes holds
  · rw [if_neg holds]
    exact fails holds

/-- The inversion of `TcpConnection.execute`. -/
theorem execute_cases {connection : TcpConnection Loop} {body : Statement} {io : IoResult}
    {outcome : Outcome Loop} (executed : connection.execute body io = some outcome) :
    Executes connection body io outcome := by
  cases body with
  | errorCallback =>
    exact test_cases executed (.errorCallback io) fun off => .errorIgnored io (by simpa using off)
  | readCallback =>
    exact test_cases executed (.readCallback io) fun off => .readIgnored io (by simpa using off)
  | writeCallback =>
    exact test_cases executed (.writeCallback io) fun off => .writeIgnored io (by simpa using off)
  | connectEstablished => cases executed; exact .connectEstablished io
  | connectEstablishedInLoop => cases executed; exact .connectEstablishedInLoop io
  | connectDestroyed => cases executed; exact .connectDestroyed io
  | connectDestroyedInLoop =>
    exact test_cases executed (.connectDestroyedInLoop io) (.connectDestroyedSkipped io)
  | connectDestroyedInLoopStore => cases executed; exact .connectDestroyedInLoopStore io
  | send msg =>
    obtain rfl := Option.some.inj executed
    unfold TcpConnection.send
    split
    · rename_i connected
      exact .send msg io connected
    · rename_i other
      exact .sendSkipped msg io other
  | sendInLoop msg => exact sendInLoop_cases executed
  | forceClose =>
    obtain rfl := Option.some.inj executed
    unfold TcpConnection.forceClose
    split
    · rename_i connected
      exact .forceCloseConnected io connected
    · rename_i other
      exact .forceCloseOther io other
  | forceCloseRetest =>
    exact test_cases executed (.forceCloseRetest io) (.forceCloseSkipped io)
  | forceCloseStore => cases executed; exact .forceCloseStore io
  | forceCloseInLoop =>
    obtain rfl := Option.some.inj executed
    unfold TcpConnection.forceCloseInLoop
    split
    · rename_i connected
      exact .forceCloseInLoopConnected io connected
    · rename_i other
      exact .forceCloseInLoopOther io other
  | forceCloseInLoopRetest =>
    exact test_cases executed (.forceCloseInLoopRetest io) (.forceCloseInLoopSkipped io)
  | handleRead => exact handleRead_cases executed
  | handleReadEcho =>
    obtain rfl := Option.some.inj executed
    unfold TcpConnection.handleReadEcho
    split
    · rename_i empty
      exact .handleReadNothing io empty
    · rename_i nonempty
      exact .handleReadEcho io nonempty
  | handleWrite =>
    obtain rfl := Option.some.inj executed
    unfold TcpConnection.handleWrite
    split
    · rename_i empty
      exact .handleWriteNothing io empty
    · rename_i pending
      exact .handleWrite io pending
  | handleWriteLoop totalSent totalLen => exact handleWriteLoop_cases executed
  | handleWriteRest totalSent =>
    obtain rfl := Option.some.inj executed
    unfold TcpConnection.handleWriteRest
    dsimp only
    split
    · rename_i drained
      rw [drained]
      exact .handleWriteDrained totalSent io drained
    · rename_i kept
      exact .handleWriteKept totalSent io kept
  | handleError => cases executed; exact .handleError io
  | handleClose =>
    obtain rfl := Option.some.inj executed
    unfold TcpConnection.handleClose
    split
    · rename_i closed
      exact .handleCloseSkipped io closed
    · rename_i opened
      exact .handleClose io opened
  | handleCloseStore => cases executed; exact .handleCloseStore io
  | handleCloseCallback =>
    obtain rfl := Option.some.inj executed
    unfold TcpConnection.handleCloseCallback
    split
    · rename_i set
      exact .handleCloseCallback io set
    · rename_i unset
      exact .handleCloseCallbackUnset io (by simpa using unset)

/-! ### What happens to the channel -/

/-- A channel stays as it is, or it is handed to one of the functions of `Epoll`. -/
def ChannelCall (channel : Channel) (result : Channel × Option EpollCtl) : Prop :=
  result = (channel, none) ∨
    (∃ events, result = Epoll.updateChannel { channel with events_ := events }) ∨
    result = Epoll.removeChannel channel.disableAll

/-- The functions of `Epoll` leave what `epoll_wait` has reported alone. -/
theorem ChannelCall.revents {channel : Channel} {result : Channel × Option EpollCtl}
    (call : ChannelCall channel result) : result.1.revents_ = channel.revents_ := by
  rcases call with rfl | ⟨events, rfl⟩ | rfl
  · rfl
  · unfold Epoll.updateChannel
    split <;> split <;> rfl
  · unfold Epoll.removeChannel
    split <;> rfl

theorem Executes.channelCall {connection : TcpConnection Loop} {body : Statement} {io : IoResult}
    {outcome : Outcome Loop} (executes : Executes connection body io outcome) :
    ChannelCall connection.channel_ (outcome.connection.channel_, outcome.ctl) := by
  have buffered (base : TcpConnection Loop) (remaining : Bytes)
      (same : base.channel_ = connection.channel_) :
      ChannelCall connection.channel_ ((base.bufferRemaining remaining).connection.channel_,
        (base.bufferRemaining remaining).ctl) := by
    obtain ⟨channel, ctl, equal, call⟩ := bufferRemaining_eq base remaining
    rw [equal, ← same]
    exact call.imp id fun updated => .inl ⟨_, updated⟩
  have stopped (base : TcpConnection Loop) (next : List Next)
      (same : base.channel_ = connection.channel_) :
      ChannelCall connection.channel_ ((base.stopWriting next).connection.channel_,
        (base.stopWriting next).ctl) := by
    obtain ⟨channel, ctl, equal, call⟩ := stopWriting_eq base next
    rw [equal, ← same]
    exact call.imp id fun updated => .inl ⟨_, updated.2⟩
  cases executes with
  | connectEstablishedInLoop io =>
    exact .inr (.inl ⟨{ connection.channel_.events_ with epollin := true }, rfl⟩)
  | connectDestroyedInLoopStore io => exact .inr (.inr rfl)
  | handleCloseStore io => exact .inr (.inr rfl)
  | sendInLoopDirect msg sent connected empty bounded => exact buffered _ _ rfl
  | sendInLoopBlocked msg connected empty => exact buffered _ _ rfl
  | sendInLoopQueued msg io connected pending => exact buffered _ _ rfl
  | handleWriteNothing io empty => exact stopped _ _ rfl
  | handleWriteDrained totalSent io drained => exact stopped _ _ rfl
  | _ => exact .inl rfl

/-! ### State and history -/

/-- What a statement stores in `state_`. -/
def Statement.stores : Statement → Option StateE
  | .connectEstablishedInLoop => some .kConnected
  | .connectDestroyedInLoopStore => some .kDisconnected
  | .forceCloseStore => some .kDisconnecting
  | .handleCloseStore => some .kDisconnected
  | _ => none

theorem Executes.state {connection : TcpConnection Loop} {body : Statement} {io : IoResult}
    {outcome : Outcome Loop} (executes : Executes connection body io outcome) :
    outcome.connection.state_ = body.stores.getD connection.state_ := by
  have buffered (base : TcpConnection Loop) (remaining : Bytes) :
      (base.bufferRemaining remaining).connection.state_ = base.state_ := by
    obtain ⟨channel, ctl, equal, -⟩ := bufferRemaining_eq base remaining
    rw [equal]
  have stopped (base : TcpConnection Loop) (next : List Next) :
      (base.stopWriting next).connection.state_ = base.state_ := by
    obtain ⟨channel, ctl, equal, -⟩ := stopWriting_eq base next
    rw [equal]
  cases executes with
  | sendInLoopDirect msg sent connected empty bounded => exact buffered _ _
  | sendInLoopBlocked msg connected empty => exact buffered _ _
  | sendInLoopQueued msg io connected pending => exact buffered _ _
  | handleWriteNothing io empty => exact stopped _ _
  | handleWriteDrained totalSent io drained => exact stopped _ _
  | _ => rfl

/-- What a statement can record. -/
def Statement.records : Statement → Occurrence → Bool
  | _, .ctl _ => true
  | .sendInLoop msg, .transmit other => msg = other
  | .sendInLoop _, .accepted _ => true
  | .forceClose, .closeRequested _ => true
  | .handleRead, .received _ => true
  | .handleReadEcho, .echoed _ _ => true
  | .handleWriteLoop _ _, .accepted _ => true
  | .handleWriteLoop _ _, .writeFailed => true
  | .handleCloseStore, .closed => true
  | .handleCloseCallback, .closeCallback => true
  | _, _ => false

theorem records_ctlRecord (body : Statement) (call : Option EpollCtl) :
    ∀ occurrence ∈ ctlRecord call, body.records occurrence = true := by
  cases call with
  | none => nofun
  | some issued =>
    intro occurrence member
    obtain rfl := List.mem_singleton.mp member
    cases body <;> rfl

/-- A statement adds to the history what it can record. -/
theorem Executes.records {connection : TcpConnection Loop} {body : Statement} {io : IoResult}
    {outcome : Outcome Loop} (executes : Executes connection body io outcome) :
    ∃ happened, outcome.connection.history = connection.history ++ happened ∧
      ∀ occurrence ∈ happened, body.records occurrence = true := by
  have buffered (base : TcpConnection Loop) (remaining : Bytes) (happened : List Occurrence)
      (history : base.history = connection.history ++ happened)
      (records : ∀ occurrence ∈ happened, body.records occurrence = true) :
      ∃ happened, (base.bufferRemaining remaining).connection.history =
          connection.history ++ happened ∧
        ∀ occurrence ∈ happened, body.records occurrence = true := by
    obtain ⟨channel, ctl, equal, -⟩ := bufferRemaining_eq base remaining
    refine ⟨happened ++ ctlRecord ctl, by rw [equal, history, List.append_assoc], ?_⟩
    exact fun occurrence member => (List.mem_append.mp member).elim (records occurrence)
      (records_ctlRecord body ctl occurrence)
  have stopped (base : TcpConnection Loop) (next : List Next)
      (history : base.history = connection.history) :
      ∃ happened, (base.stopWriting next).connection.history = connection.history ++ happened ∧
        ∀ occurrence ∈ happened, body.records occurrence = true := by
    obtain ⟨channel, ctl, equal, -⟩ := stopWriting_eq base next
    exact ⟨ctlRecord ctl, by rw [equal, history], records_ctlRecord body ctl⟩
  cases executes with
  | sendInLoopDirect msg sent connected empty bounded =>
    exact buffered _ _ _ (List.append_assoc ..) (by simp [Statement.records])
  | sendInLoopBlocked msg connected empty => exact buffered _ _ _ rfl (by simp [Statement.records])
  | sendInLoopQueued msg io connected pending =>
    exact buffered _ _ _ rfl (by simp [Statement.records])
  | handleWriteNothing io empty => exact stopped _ _ rfl
  | handleWriteDrained totalSent io drained => exact stopped _ _ rfl
  | connectEstablishedInLoop io => exact ⟨_, rfl, records_ctlRecord _ _⟩
  | connectDestroyedInLoopStore io => exact ⟨_, rfl, records_ctlRecord _ _⟩
  | handleCloseStore io =>
    refine ⟨_, List.append_assoc .., fun occurrence member => ?_⟩
    rcases List.mem_append.mp member with closed | issued
    · rw [List.mem_singleton.mp closed]
      rfl
    · exact records_ctlRecord _ _ occurrence issued
  | sendInLoopFailed | forceCloseConnected | forceCloseOther | handleReadData | handleReadEof
  | handleReadAgain | handleReadError | handleReadEcho | handleWriteSent | handleWriteZero
  | handleWriteFailed | handleCloseCallback =>
    exact ⟨_, rfl, by simp [Statement.records]⟩
  | _ => exact ⟨[], (List.append_nil _).symm, nofun⟩

/-- Destroying an owner records at most that the fd has been closed. -/
theorem drop_history (connection : TcpConnection Loop) :
    ∃ happened, connection.drop.history = connection.history ++ happened ∧
      ∀ occurrence ∈ happened, occurrence = .fdClosed := by
  unfold TcpConnection.drop
  split
  · exact ⟨[.fdClosed], rfl, fun _ => List.mem_singleton.mp⟩
  · exact ⟨[], (List.append_nil _).symm, nofun⟩

theorem drop_unseen (connection : TcpConnection Loop) {View : Type}
    {view : Occurrence → List View} (blind : view .fdClosed = []) :
    connection.drop.history.flatMap view = connection.history.flatMap view := by
  obtain ⟨happened, history, records⟩ := drop_history connection
  rw [history, List.flatMap_append, List.append_right_eq_self]
  exact List.flatMap_eq_nil_iff.mpr fun occurrence member => records occurrence member ▸ blind

theorem drop_count (connection : TcpConnection Loop) {occurrence : Occurrence}
    (other : occurrence ≠ .fdClosed) :
    connection.drop.history.count occurrence = connection.history.count occurrence := by
  obtain ⟨happened, history, records⟩ := drop_history connection
  rw [history, List.count_append, Nat.add_eq_left]
  exact List.count_eq_zero.mpr fun member => other (records occurrence member)

theorem mem_drop_history (connection : TcpConnection Loop) {occurrence : Occurrence}
    (other : occurrence ≠ .fdClosed) :
    occurrence ∈ connection.drop.history ↔ occurrence ∈ connection.history := by
  rw [← List.count_pos_iff, drop_count connection other, List.count_pos_iff]

/-! ### Control flow -/

/-- What a statement can leave to be done. -/
def Statement.follows : Statement → Next → Bool
  | .errorCallback, .statement .handleError => true
  | .readCallback, .statement .handleRead => true
  | .writeCallback, .statement .handleWrite => true
  | .connectEstablished, .runInLoop .connectEstablishedInLoop => true
  | .connectDestroyed, .runInLoop .connectDestroyedInLoop => true
  | .connectDestroyedInLoop, .statement .connectDestroyedInLoopStore => true
  | .send msg, .runInLoop (.sendInLoop other) => msg = other
  | .forceClose, .statement .forceCloseStore => true
  | .forceClose, .statement .forceCloseRetest => true
  | .forceCloseRetest, .statement .forceCloseStore => true
  | .forceCloseStore, .runInLoop .forceCloseInLoop => true
  | .forceCloseInLoop, .statement .handleClose => true
  | .forceCloseInLoop, .statement .forceCloseInLoopRetest => true
  | .forceCloseInLoopRetest, .statement .handleClose => true
  | .handleRead, .statement .handleRead => true
  | .handleRead, .statement .handleReadEcho => true
  | .handleRead, .statement .handleClose => true
  | .handleReadEcho, .statement (.send _) => true
  | .handleWrite, .statement (.handleWriteLoop _ _) => true
  | .handleWriteLoop _ _, .statement (.handleWriteLoop _ _) => true
  | .handleWriteLoop _ _, .statement (.handleWriteRest _) => true
  | .handleWriteLoop _ _, .statement .handleClose => true
  | .handleWriteRest _, .statement .handleClose => true
  | .handleError, .statement .handleClose => true
  | .handleClose, .statement .handleCloseStore => true
  | .handleCloseStore, .statement .handleCloseCallback => true
  | .handleCloseCallback, .closeCallback => true
  | .handleCloseCallback, .release => true
  | _, _ => false

/-- Whether what is left holds a shared_ptr. -/
def Next.owns : Next → Bool
  | .runInLoop _ => true
  | .release => true
  | _ => false

/-- What every statement keeps. -/
structure Keeps (connection : TcpConnection Loop) (body : Statement)
    (outcome : Outcome Loop) : Prop where
  loop : outcome.connection.loop_ = connection.loop_
  fd : outcome.connection.fd_ = connection.fd_
  closeCallback : outcome.connection.closeCallback_ = connection.closeCallback_
  useCount : outcome.connection.useCount = connection.useCount + outcome.next.countP Next.owns
  fdClosed : outcome.connection.history.count .fdClosed = connection.history.count .fdClosed
  follows : ∀ next ∈ outcome.next, body.follows next = true
  tail : ∀ next ∈ outcome.next.tail, next = .release

theorem Executes.keeps {connection : TcpConnection Loop} {body : Statement} {io : IoResult}
    {outcome : Outcome Loop} (executes : Executes connection body io outcome) :
    Keeps connection body outcome := by
  have buffered (base : TcpConnection Loop) (msg remaining : Bytes)
      (same : { base with history := connection.history } = connection)
      (fdClosed : base.history.count .fdClosed = connection.history.count .fdClosed) :
      Keeps connection (.sendInLoop msg) (base.bufferRemaining remaining) := by
    obtain ⟨channel, ctl, equal, -⟩ := bufferRemaining_eq base remaining
    rw [equal]
    refine ⟨by rw [← same], by rw [← same], by rw [← same], ?_, by simpa using fdClosed, nofun,
      nofun⟩
    rw [← same]
    rfl
  have stopped (base : TcpConnection Loop) (next : List Next)
      (same : { base with output_buffer_ := connection.output_buffer_ } = connection)
      (owns : next.countP Next.owns = 0) (follows : ∀ each ∈ next, body.follows each = true)
      (tail : next.tail = []) : Keeps connection body (base.stopWriting next) := by
    obtain ⟨channel, ctl, equal, -⟩ := stopWriting_eq base next
    rw [equal]
    refine ⟨?_, ?_, ?_, ?_, by rw [← same]; simp, follows, by simp [tail]⟩
    all_goals
      first
      | rw [owns, ← same]; rfl
      | rw [← same]
  cases executes with
  | sendInLoopDirect msg sent connected empty bounded =>
    exact buffered _ msg _ rfl (by simp [TcpConnection.record])
  | sendInLoopBlocked msg connected empty =>
    exact buffered _ msg _ rfl (by simp [TcpConnection.record])
  | sendInLoopQueued msg io connected pending =>
    exact buffered _ msg _ rfl (by simp [TcpConnection.record])
  | handleWriteNothing io empty => exact stopped _ _ rfl rfl nofun rfl
  | handleWriteDrained totalSent io drained =>
    by_cases disconnecting : connection.state_ = .kDisconnecting
    · rw [if_pos disconnecting]
      exact stopped _ _ rfl rfl (by simp [Statement.follows]) rfl
    · rw [if_neg disconnecting]
      exact stopped _ _ rfl rfl nofun rfl
  | _ =>
    refine ⟨rfl, rfl, rfl, rfl, ?_, by simp [Statement.follows], by simp⟩
    simp [TcpConnection.record, TcpConnection.share, TcpConnection.setState,
      TcpConnection.withChannel]

end MultiReactor
