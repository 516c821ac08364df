/-
This file models `TcpConnection` (TcpConnection.h, TcpConnection.cpp) and
`Channel::handleEvent`. A member function is cut at its atomic accesses to
`state_` and at its system calls into statements, each of which one step
executes; a function begins at the statement that carries its name, and what
follows a cut is named after it. What is left of the function, and the calls it
makes, are the statements that come next on the same thread.

`handleRead` and `handleWrite` are loops over `recv` and `send`: the statement
is the head of the loop and comes next until the loop is left.
-/

import MultiReactor.Epoll

namespace MultiReactor

abbrev Bytes := List UInt8

/-! ### Data members -/

/-- `TcpConnection::StateE`. -/
inductive StateE where
  | kConnecting
  | kConnected
  | kDisconnecting
  | kDisconnected
  deriving DecidableEq

/-- What `recv` returns: a positive count and its bytes, 0 (FIN), -1 with EAGAIN or
EWOULDBLOCK, or -1 with another errno. -/
inductive RecvResult where
  | data (bytes : Bytes)
  | eof
  | again
  | error
  deriving DecidableEq

/-- What `send` returns: a count, -1 with EAGAIN or EWOULDBLOCK, or -1 with another errno. -/
inductive SendResult where
  | count (sent : Nat)
  | again
  | error
  deriving DecidableEq

/-- The result of the system call a statement makes, if it makes one. -/
inductive IoResult where
  | none
  | recv (result : RecvResult)
  | send (result : SendResult)
  deriving DecidableEq

/-- What happens on a connection, in order. No function reads it. -/
inductive Occurrence where
  /-- `recv` returned -/
  | received (result : RecvResult)
  /-- `handleRead` passed a message to `send` while `state_` was this -/
  | echoed (seen : StateE) (msg : Bytes)
  /-- `sendInLoop(msg)` ran while the connection was connected -/
  | transmit (msg : Bytes)
  /-- `::send` accepted these bytes -/
  | accepted (bytes : Bytes)
  /-- `::send` in `handleWrite` returned 0 or failed with an errno other than EAGAIN -/
  | writeFailed
  /-- `forceClose` was called, and its first load saw this state -/
  | closeRequested (seen : StateE)
  /-- `handleClose` passed its test and stored `kDisconnected` -/
  | closed
  /-- `closeCallback_` was invoked -/
  | closeCallback
  /-- an `epoll_ctl` call was issued for the channel -/
  | ctl (op : CtlOp)
  /-- the destructor closed the fd -/
  | fdClosed
  deriving DecidableEq

/-- The data members of `TcpConnection`, the strong count of its shared_ptr control block, and
what has happened on it. `closeCallback_` says whether the callback is set. -/
structure TcpConnection (Loop : Type) where
  loop_ : Loop
  fd_ : Nat
  channel_ : Channel
  input_buffer_ : Bytes
  output_buffer_ : Bytes
  state_ : StateE
  closeCallback_ : Bool
  useCount : Nat
  history : List Occurrence

/-- `std::make_shared<TcpConnection>(loop, fd)`. -/
def TcpConnection.new {Loop : Type} (loop : Loop) (fd : Nat) : TcpConnection Loop :=
  { loop_ := loop, fd_ := fd, channel_ := .new fd, input_buffer_ := [], output_buffer_ := [],
    state_ := .kConnecting, closeCallback_ := false, useCount := 1, history := [] }

section Members

variable {Loop : Type}

/-- The object exists: some shared_ptr owns it. -/
def TcpConnection.alive (connection : TcpConnection Loop) : Bool :=
  0 < connection.useCount

/-- One more shared_ptr owns the object (`shared_from_this()`, a copy). -/
def TcpConnection.share (connection : TcpConnection Loop) : TcpConnection Loop :=
  { connection with useCount := connection.useCount + 1 }

/-- One shared_ptr less owns the object; the last one runs `~TcpConnection`, which closes the
fd. -/
def TcpConnection.drop (connection : TcpConnection Loop) : TcpConnection Loop :=
  { connection with
    useCount := connection.useCount - 1
    history := if connection.useCount = 1 then connection.history ++ [.fdClosed]
      else connection.history }

/-- `state_.store(state)`. -/
def TcpConnection.setState (connection : TcpConnection Loop) (state : StateE) :
    TcpConnection Loop :=
  { connection with state_ := state }

def TcpConnection.record (connection : TcpConnection Loop) (occurrence : Occurrence) :
    TcpConnection Loop :=
  { connection with history := connection.history ++ [occurrence] }

/-- What an `epoll_ctl` call leaves on record, if one was issued. -/
def ctlRecord (call : Option EpollCtl) : List Occurrence :=
  (call.map fun issued => Occurrence.ctl issued.op).toList

/-- The channel after an `Epoll` function, with the `epoll_ctl` call it issued on record. -/
def TcpConnection.withChannel (connection : TcpConnection Loop)
    (result : Channel × Option EpollCtl) : TcpConnection Loop :=
  { connection with
    channel_ := result.1
    history := connection.history ++ ctlRecord result.2 }

end Members

/-! ### Statements -/

/-- The statements of the member functions, named after the function and the point in it. -/
inductive Statement where
  /-- the three tests of `Channel::handleEvent` -/
  | errorCallback
  | readCallback
  | writeCallback
  | connectEstablished
  | connectEstablishedInLoop
  | connectDestroyed
  | connectDestroyedInLoop
  /-- `connectDestroyedInLoop` past its test -/
  | connectDestroyedInLoopStore
  | send (msg : Bytes)
  | sendInLoop (msg : Bytes)
  | forceClose
  /-- the second operand of the test in `forceClose` -/
  | forceCloseRetest
  /-- `forceClose` past its test -/
  | forceCloseStore
  | forceCloseInLoop
  /-- the second operand of the test in `forceCloseInLoop` -/
  | forceCloseInLoopRetest
  /-- the head of the receive loop -/
  | handleRead
  /-- `handleRead` after its loop -/
  | handleReadEcho
  | handleWrite
  /-- the head of the send loop -/
  | handleWriteLoop (totalSent totalLen : Nat)
  /-- `handleWrite` after its loop -/
  | handleWriteRest (totalSent : Nat)
  | handleError
  | handleClose
  /-- `handleClose` past its test -/
  | handleCloseStore
  /-- the call of `closeCallback_` in `handleClose` -/
  | handleCloseCallback
  deriving DecidableEq

/-- What a statement leaves to be done on its thread. -/
inductive Next where
  | statement (body : Statement)
  /-- `loop_->runInLoop(std::bind(&TcpConnection::body, shared_from_this()))` -/
  | runInLoop (body : Statement)
  /-- the body of `closeCallback_` -/
  | closeCallback
  /-- a shared_ptr temporary goes out of scope -/
  | release
  deriving DecidableEq

/-- What executing a statement does: the connection afterwards, the `epoll_ctl` call it issues
for its channel, and what is left to do. -/
structure Outcome (Loop : Type) where
  connection : TcpConnection Loop
  ctl : Option EpollCtl
  next : List Next

section Execute

variable {Loop : Type}

/-- The statement touches nothing but the connection's own members. -/
def TcpConnection.yields (connection : TcpConnection Loop) (next : List Next) : Outcome Loop :=
  { connection := connection, ctl := none, next := next }

/-- `loop_->updateChannel(channel_.get())` or `loop_->removeChannel(channel_.get())`. -/
def TcpConnection.yieldsChannel (connection : TcpConnection Loop)
    (result : Channel × Option EpollCtl) (next : List Next) : Outcome Loop :=
  { connection := connection.withChannel result, ctl := result.2, next := next }

/-- `loop_->runInLoop(std::bind(&TcpConnection::body, shared_from_this()))`. -/
def TcpConnection.bindInLoop (connection : TcpConnection Loop) (body : Statement) :
    Outcome Loop :=
  connection.share.yields [.runInLoop body]

def TcpConnection.connectEstablishedInLoop (connection : TcpConnection Loop) : Outcome Loop :=
  (connection.setState .kConnected).yieldsChannel
    (Epoll.updateChannel connection.channel_.enableReading) []

def TcpConnection.connectDestroyedInLoop (connection : TcpConnection Loop) : Outcome Loop :=
  connection.yields
    (if connection.state_ = .kConnected then [.statement .connectDestroyedInLoopStore] else [])

def TcpConnection.connectDestroyedInLoopStore (connection : TcpConnection Loop) : Outcome Loop :=
  (connection.setState .kDisconnected).yieldsChannel
    (Epoll.removeChannel connection.channel_.disableAll) []

def TcpConnection.send (connection : TcpConnection Loop) (msg : Bytes) : Outcome Loop :=
  if connection.state_ = .kConnected then connection.bindInLoop (.sendInLoop msg)
  else connection.yields []

/-- The end of `sendInLoop`: what was not sent goes to the output buffer, and EPOLLOUT is
enabled. -/
def TcpConnection.bufferRemaining (connection : TcpConnection Loop) (remaining : Bytes) :
    Outcome Loop :=
  if remaining = [] then connection.yields []
  else
    let buffered := { connection with output_buffer_ := connection.output_buffer_ ++ remaining }
    if connection.channel_.isWriting then buffered.yields []
    else buffered.yieldsChannel (Epoll.updateChannel connection.channel_.enableWriting) []

def TcpConnection.sendInLoop (connection : TcpConnection Loop) (msg : Bytes) (io : IoResult) :
    Option (Outcome Loop) :=
  if connection.state_ ≠ .kConnected then some (connection.yields [])
  else
    let running := connection.record (.transmit msg)
    if connection.output_buffer_ = [] then
      match io with
      | .send (.count sent) =>
        if sent ≤ msg.length then
          some ((running.record (.accepted (msg.take sent))).bufferRemaining (msg.drop sent))
        else none
      | .send .again => some (running.bufferRemaining msg)
      | .send .error => some (running.yields [])
      | _ => none
    else some (running.bufferRemaining msg)

def TcpConnection.forceClose (connection : TcpConnection Loop) : Outcome Loop :=
  (connection.record (.closeRequested connection.state_)).yields
    (if connection.state_ = .kConnected then [.statement .forceCloseStore]
    else [.statement .forceCloseRetest])

def TcpConnection.forceCloseRetest (connection : TcpConnection Loop) : Outcome Loop :=
  connection.yields
    (if connection.state_ = .kDisconnecting then [.statement .forceCloseStore] else [])

def TcpConnection.forceCloseStore (connection : TcpConnection Loop) : Outcome Loop :=
  (connection.setState .kDisconnecting).bindInLoop .forceCloseInLoop

def TcpConnection.forceCloseInLoop (connection : TcpConnection Loop) : Outcome Loop :=
  connection.yields
    (if connection.state_ = .kConnected then [.statement .handleClose]
    else [.statement .forceCloseInLoopRetest])

def TcpConnection.forceCloseInLoopRetest (connection : TcpConnection Loop) : Outcome Loop :=
  connection.yields
    (if connection.state_ = .kDisconnecting then [.statement .handleClose] else [])

/-- The size `handleRead` passes to `recv`: `sizeof(buffer) - 1`. -/
def recvSize : Nat := 65536 - 1

def TcpConnection.handleRead (connection : TcpConnection Loop) (io : IoResult) :
    Option (Outcome Loop) :=
  match io with
  | .recv (.data bytes) =>
    if bytes ≠ [] ∧ bytes.length ≤ recvSize then
      some (({ connection with
        input_buffer_ := connection.input_buffer_ ++ bytes }.record
          (.received (.data bytes))).yields [.statement .handleRead])
    else none
  | .recv .eof => some ((connection.record (.received .eof)).yields [.statement .handleClose])
  | .recv .again =>
    some ((connection.record (.received .again)).yields [.statement .handleReadEcho])
  | .recv .error => some ((connection.record (.received .error)).yields [.statement .handleClose])
  | _ => none

def TcpConnection.handleReadEcho (connection : TcpConnection Loop) : Outcome Loop :=
  if connection.input_buffer_ = [] then connection.yields []
  else
    ({ connection with input_buffer_ := [] }.record
      (.echoed connection.state_ connection.input_buffer_)).yields
        [.statement (.send connection.input_buffer_)]

/-- `if (channel_->isWriting()) { channel_->disableWriting(); loop_->updateChannel(..); }` -/
def TcpConnection.stopWriting (connection : TcpConnection Loop) (next : List Next) :
    Outcome Loop :=
  if connection.channel_.isWriting then
    connection.yieldsChannel (Epoll.updateChannel connection.channel_.disableWriting) next
  else connection.yields next

def TcpConnection.handleWrite (connection : TcpConnection Loop) : Outcome Loop :=
  if connection.output_buffer_ = [] then connection.stopWriting []
  else connection.yields
    [.statement (.handleWriteLoop 0 connection.output_buffer_.length)]

def TcpConnection.handleWriteLoop (connection : TcpConnection Loop) (totalSent totalLen : Nat)
    (io : IoResult) : Option (Outcome Loop) :=
  if totalSent < totalLen then
    match io with
    | .send (.count sent) =>
      if sent = 0 then
        some ((connection.record .writeFailed).yields [.statement .handleClose])
      else if sent ≤ totalLen - totalSent then
        some ((connection.record
          (.accepted ((connection.output_buffer_.drop totalSent).take sent))).yields
            [.statement (.handleWriteLoop (totalSent + sent) totalLen)])
      else none
    | .send .again => some (connection.yields [.statement (.handleWriteRest totalSent)])
    | .send .error =>
      some ((connection.record .writeFailed).yields [.statement .handleClose])
    | _ => none
  else some (connection.yields [.statement (.handleWriteRest totalSent)])

def TcpConnection.handleWriteRest (connection : TcpConnection Loop) (totalSent : Nat) :
    Outcome Loop :=
  let erased := { connection with output_buffer_ := connection.output_buffer_.drop totalSent }
  if erased.output_buffer_ = [] then
    erased.stopWriting
      (if connection.state_ = .kDisconnecting then [.statement .handleClose] else [])
  else erased.yields []

def TcpConnection.handleClose (connection : TcpConnection Loop) : Outcome Loop :=
  connection.yields
    (if connection.state_ = .kDisconnected then [] else [.statement .handleCloseStore])

def TcpConnection.handleCloseStore (connection : TcpConnection Loop) : Outcome Loop :=
  ((connection.setState .kDisconnected).record .closed).yieldsChannel
    (Epoll.removeChannel connection.channel_.disableAll) [.statement .handleCloseCallback]

/-- `if(closeCallback_) closeCallback_(shared_from_this());` -- the argument is a temporary that
lives until the callback has returned. -/
def TcpConnection.handleCloseCallback (connection : TcpConnection Loop) : Outcome Loop :=
  if connection.closeCallback_ then
    (connection.record .closeCallback).share.yields [.closeCallback, .release]
  else connection.yields []

/-- Executing a statement. It is undefined where the result of the system call does not fit. -/
def TcpConnection.execute (connection : TcpConnection Loop) (body : Statement) (io : IoResult) :
    Option (Outcome Loop) :=
  match body with
  | .errorCallback => some (connection.yields
      (if connection.channel_.revents_.epollerr || connection.channel_.revents_.epollhup then
        [.statement .handleError] else []))
  | .readCallback => some (connection.yields
      (if connection.channel_.revents_.epollin then [.statement .handleRead] else []))
  | .writeCallback => some (connection.yields
      (if connection.channel_.revents_.epollout then [.statement .handleWrite] else []))
  | .connectEstablished => some (connection.bindInLoop .connectEstablishedInLoop)
  | .connectEstablishedInLoop => some connection.connectEstablishedInLoop
  | .connectDestroyed => some (connection.bindInLoop .connectDestroyedInLoop)
  | .connectDestroyedInLoop => some connection.connectDestroyedInLoop
  | .connectDestroyedInLoopStore => some connection.connectDestroyedInLoopStore
  | .send msg => some (connection.send msg)
  | .sendInLoop msg => connection.sendInLoop msg io
  | .forceClose => some connection.forceClose
  | .forceCloseRetest => some connection.forceCloseRetest
  | .forceCloseStore => some connection.forceCloseStore
  | .forceCloseInLoop => some connection.forceCloseInLoop
  | .forceCloseInLoopRetest => some connection.forceCloseInLoopRetest
  | .handleRead => connection.handleRead io
  | .handleReadEcho => some connection.handleReadEcho
  | .handleWrite => some connection.handleWrite
  | .handleWriteLoop totalSent totalLen => connection.handleWriteLoop totalSent totalLen io
  | .handleWriteRest totalSent => some (connection.handleWriteRest totalSent)
  | .handleError => some (connection.yields [.statement .handleClose])
  | .handleClose => some connection.handleClose
  | .handleCloseStore => some connection.handleCloseStore
  | .handleCloseCallback => some connection.handleCloseCallback

end Execute

end MultiReactor
