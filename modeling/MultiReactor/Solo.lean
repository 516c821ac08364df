/-
This file is about a connection on its own. What a `TcpConnection` does on its
loop does not depend on which loop that is, on its fd or on who owns it: it is
decided by its buffers, its state, its channel and the statements under way,
and from outside it takes only the masks `epoll_wait` reports and the results
of `recv` and `send`. So a connection alone, with one stack and no server
around it, is a reading system.
-/

import MultiReactor.Determinacy
import MultiReactor.Sending

namespace MultiReactor

open Transition

variable {Loop : Type}

/-! ### What a connection sees -/

/-- What reaches a connection from outside: a mask `epoll_wait` reports for its channel, or the
result of a `recv` or `send` on its fd. -/
inductive Seen where
  | mask (revents : Events)
  | io (result : IoResult)
  deriving DecidableEq

/-- Whether executing a statement calls `recv` or `send`. -/
def TcpConnection.asks (connection : TcpConnection Loop) : Statement → Bool
  | .handleRead => true
  | .handleWriteLoop totalSent totalLen => totalSent < totalLen
  | .sendInLoop _ => connection.state_ = .kConnected && connection.output_buffer_ = []
  | _ => false

/-- A statement that makes no system call does not look at a result. -/
theorem execute_unasked {connection : TcpConnection Loop} {body : Statement}
    (unasked : connection.asks body = false) (io : IoResult) :
    connection.execute body io = connection.execute body .none := by
  cases body with
  | handleRead => cases unasked
  | handleWriteLoop totalSent totalLen =>
    have done : ¬ totalSent < totalLen := of_decide_eq_false unasked
    simp only [TcpConnection.execute, TcpConnection.handleWriteLoop, if_neg done]
  | sendInLoop msg =>
    simp only [TcpConnection.execute, TcpConnection.sendInLoop]
    split
    · rfl
    · rename_i connected
      have pending : connection.output_buffer_ ≠ [] := by
        simpa [TcpConnection.asks, not_not.mp connected] using unasked
      rw [if_neg pending, if_neg pending]
  | _ => rfl

/-! ### What makes one connection like another -/

/-- The channel without its fd. -/
def Channel.alone (channel : Channel) : Channel :=
  { channel with fd_ := 0 }

/-- A connection without what tells it from another one that has done the same: its loop, its fd,
its owners, and of its history all but the bytes `send` has accepted. -/
def TcpConnection.alone (connection : TcpConnection Loop) : TcpConnection Unit :=
  { connection with
    loop_ := ()
    fd_ := 0
    channel_ := connection.channel_.alone
    useCount := 1
    history := [.accepted connection.acceptedBytes] }

/-- What of an outcome does not depend on which connection it is. -/
def Outcome.alone (outcome : Outcome Loop) : TcpConnection Unit × List Next :=
  (outcome.connection.alone, outcome.next)

/-- Two connections, on whatever loops, that differ in nothing else. -/
structure Alike {Other : Type} (connection : TcpConnection Loop) (other : TcpConnection Other) :
    Prop where
  channel : connection.channel_.alone = other.channel_.alone
  input : connection.input_buffer_ = other.input_buffer_
  output : connection.output_buffer_ = other.output_buffer_
  state : connection.state_ = other.state_
  callback : connection.closeCallback_ = other.closeCallback_
  accepted : connection.acceptedBytes = other.acceptedBytes

section Alike

variable {Other : Type} {connection : TcpConnection Loop} {other : TcpConnection Other}

theorem Alike.alone (alike : Alike connection other) : connection.alone = other.alone := by
  unfold TcpConnection.alone
  rw [alike.channel, alike.input, alike.output, alike.state, alike.callback, alike.accepted]

theorem acceptedBytes_alone (connection : TcpConnection Loop) :
    connection.alone.acceptedBytes = connection.acceptedBytes :=
  List.append_nil _

/-- A connection is like itself alone. -/
theorem alike_alone (connection : TcpConnection Loop) : Alike connection.alone connection :=
  ⟨rfl, rfl, rfl, rfl, rfl, acceptedBytes_alone connection⟩

theorem acceptedBytes_withChannel (connection : TcpConnection Loop)
    (result : Channel × Option EpollCtl) :
    (connection.withChannel result).acceptedBytes = connection.acceptedBytes := by
  rw [TcpConnection.acceptedBytes, TcpConnection.withChannel, List.flatMap_append,
    flatMap_ctlRecord _ (fun _ => rfl), List.append_nil]
  rfl

theorem Alike.record (alike : Alike connection other) (occurrence : Occurrence) :
    Alike (connection.record occurrence) (other.record occurrence) :=
  { alike with accepted := by rw [acceptedBytes_record, acceptedBytes_record, alike.accepted] }

/-- The functions of `Epoll` do not look at the fd. -/
theorem updateChannel_alone {channel asked : Channel} (same : channel.alone = asked.alone) :
    (Epoll.updateChannel channel).1.alone = (Epoll.updateChannel asked).1.alone := by
  obtain ⟨fd, index, events, revents⟩ := channel
  cases same
  unfold Epoll.updateChannel
  split <;> split <;> rfl

theorem removeChannel_alone {channel asked : Channel} (same : channel.alone = asked.alone) :
    (Epoll.removeChannel channel).1.alone = (Epoll.removeChannel asked).1.alone := by
  obtain ⟨fd, index, events, revents⟩ := channel
  cases same
  unfold Epoll.removeChannel
  split <;> rfl

theorem Alike.withChannel (alike : Alike connection other)
    {result given : Channel × Option EpollCtl} (channel : result.1.alone = given.1.alone) :
    Alike (connection.withChannel result) (other.withChannel given) :=
  { alike with
    channel := channel
    accepted := by rw [acceptedBytes_withChannel, acceptedBytes_withChannel, alike.accepted] }

theorem Alike.setState (alike : Alike connection other) (state : StateE) :
    Alike (connection.setState state) (other.setState state) :=
  { alike with state := rfl }

theorem Alike.setInput (alike : Alike connection other) {bytes given : Bytes}
    (same : bytes = given) :
    Alike { connection with input_buffer_ := bytes } { other with input_buffer_ := given } :=
  { alike with input := same }

theorem Alike.setOutput (alike : Alike connection other) {bytes given : Bytes}
    (same : bytes = given) :
    Alike { connection with output_buffer_ := bytes } { other with output_buffer_ := given } :=
  { alike with output := same }

theorem Alike.yields (alike : Alike connection other) (next : List Next) :
    (connection.yields next).alone = (other.yields next).alone :=
  Prod.ext alike.alone rfl

theorem Alike.bindInLoop (alike : Alike connection other) (body : Statement) :
    (connection.bindInLoop body).alone = (other.bindInLoop body).alone :=
  Prod.ext alike.alone rfl

theorem Alike.yieldsChannel (alike : Alike connection other)
    {result given : Channel × Option EpollCtl} (channel : result.1.alone = given.1.alone)
    (next : List Next) :
    (connection.yieldsChannel result next).alone = (other.yieldsChannel given next).alone :=
  Prod.ext (alike.withChannel channel).alone rfl

/-- A test that comes out the same way goes on alike. -/
theorem ite_alone {Result Given View : Type} {test asked : Prop} [Decidable test]
    [Decidable asked] (view : Result → View) (viewToo : Given → View) (same : test ↔ asked)
    {yes no : Result} {yesToo noToo : Given} (passes : view yes = viewToo yesToo)
    (fails : view no = viewToo noToo) :
    view (if test then yes else no) = viewToo (if asked then yesToo else noToo) := by
  by_cases holds : test
  · rw [if_pos holds, if_pos (same.mp holds), passes]
  · rw [if_neg holds, if_neg (mt same.mpr holds), fails]

theorem Alike.isWriting (alike : Alike connection other) :
    connection.channel_.isWriting = other.channel_.isWriting := by
  show connection.channel_.alone.isWriting = other.channel_.alone.isWriting
  rw [alike.channel]

theorem Alike.bufferRemaining (alike : Alike connection other) (remaining : Bytes) :
    (connection.bufferRemaining remaining).alone = (other.bufferRemaining remaining).alone := by
  have appended := alike.setOutput (congrArg (· ++ remaining) alike.output)
  refine ite_alone Outcome.alone Outcome.alone Iff.rfl (alike.yields []) ?_
  refine ite_alone Outcome.alone Outcome.alone (by rw [alike.isWriting]) (appended.yields []) ?_
  refine appended.yieldsChannel (updateChannel_alone ?_) []
  exact congrArg Channel.enableWriting alike.channel

theorem Alike.stopWriting (alike : Alike connection other) (next : List Next) :
    (connection.stopWriting next).alone = (other.stopWriting next).alone := by
  refine ite_alone Outcome.alone Outcome.alone (by rw [alike.isWriting]) ?_ (alike.yields next)
  refine alike.yieldsChannel (updateChannel_alone ?_) next
  exact congrArg Channel.disableWriting alike.channel

end Alike

/-- Executing a statement does the same to connections that are alike. -/
theorem execute_alone (connection : TcpConnection Loop) (body : Statement) (io : IoResult) :
    (connection.alone.execute body io).map Outcome.alone =
      (connection.execute body io).map Outcome.alone := by
  have alike := alike_alone connection
  cases body with
  | errorCallback | readCallback | writeCallback | connectDestroyedInLoop | forceCloseRetest
  | forceCloseInLoop | forceCloseInLoopRetest | handleError | handleClose =>
    exact congrArg some (alike.yields _)
  | connectEstablished | connectDestroyed => exact congrArg some (alike.bindInLoop _)
  | connectEstablishedInLoop =>
    refine congrArg some ((alike.setState _).yieldsChannel (updateChannel_alone ?_) [])
    rfl
  | connectDestroyedInLoopStore =>
    refine congrArg some ((alike.setState _).yieldsChannel (removeChannel_alone ?_) [])
    rfl
  | send msg =>
    exact congrArg some (ite_alone _ _ Iff.rfl (alike.bindInLoop _) (alike.yields []))
  | sendInLoop msg =>
    have running := alike.record (.transmit msg)
    refine ite_alone (Option.map _) (Option.map _) Iff.rfl (congrArg some (alike.yields [])) ?_
    refine ite_alone (Option.map _) (Option.map _) Iff.rfl ?_
      (congrArg some (running.bufferRemaining msg))
    rcases io with _ | received | (sent | _ | _)
    · rfl
    · rfl
    · exact ite_alone (Option.map _) (Option.map _) Iff.rfl
        (congrArg some ((running.record _).bufferRemaining _)) rfl
    · exact congrArg some (running.bufferRemaining msg)
    · exact congrArg some (running.yields [])
  | forceClose => exact congrArg some ((alike.record _).yields _)
  | forceCloseStore => exact congrArg some ((alike.setState _).bindInLoop _)
  | handleRead =>
    rcases io with _ | (bytes | _ | _ | _) | sent
    · rfl
    · have appended := alike.setInput (congrArg (· ++ bytes) alike.input)
      exact ite_alone (Option.map _) (Option.map _) Iff.rfl
        (congrArg some ((appended.record _).yields _)) rfl
    · exact congrArg some ((alike.record _).yields _)
    · exact congrArg some ((alike.record _).yields _)
    · exact congrArg some ((alike.record _).yields _)
    · rfl
  | handleReadEcho =>
    refine congrArg some (ite_alone _ _ Iff.rfl (alike.yields []) ?_)
    exact ((alike.setInput rfl).record _).yields _
  | handleWrite =>
    exact congrArg some (ite_alone _ _ Iff.rfl (alike.stopWriting []) (alike.yields _))
  | handleWriteLoop totalSent totalLen =>
    refine ite_alone (Option.map _) (Option.map _) Iff.rfl ?_ (congrArg some (alike.yields _))
    rcases io with _ | received | (sent | _ | _)
    · rfl
    · rfl
    · refine ite_alone (Option.map _) (Option.map _) Iff.rfl
        (congrArg some ((alike.record _).yields _)) ?_
      exact ite_alone (Option.map _) (Option.map _) Iff.rfl
        (congrArg some ((alike.record _).yields _)) rfl
    · exact congrArg some (alike.yields _)
    · exact congrArg some ((alike.record _).yields _)
  | handleWriteRest totalSent =>
    have erased := alike.setOutput (congrArg (List.drop totalSent) alike.output)
    exact congrArg some (ite_alone _ _ Iff.rfl (erased.stopWriting _) (erased.yields []))
  | handleCloseStore =>
    refine congrArg some
      (((alike.setState _).record _).yieldsChannel (removeChannel_alone ?_) _)
    rfl
  | handleCloseCallback =>
    have called := alike.record .closeCallback
    refine congrArg some (ite_alone _ _ Iff.rfl ?_ (alike.yields []))
    exact Prod.ext called.alone rfl

/-! ### The connection on its own -/

/-- A connection alone, and the statements under way on its loop. -/
structure Solo where
  connection : TcpConnection Unit
  statements : List Statement

/-- The statement a call that is left on the loop leads to. -/
def Next.body : Next → Option Statement
  | .statement body => some body
  | .runInLoop body => some body
  | _ => none

/-- Going on after a statement. Once the connection has been closed nothing more is done. -/
def Outcome.goOn (rest : List Statement) (outcome : Outcome Loop) : Solo :=
  { connection := outcome.connection.alone
    statements := if outcome.connection.state_ = .kDisconnected then []
      else outcome.next.filterMap Next.body ++ rest }

/-- The tests of `Channel::handleEvent`. -/
def handleEventTests : List Statement :=
  [.errorCallback, .readCallback, .writeCallback]

/-- The connection that `handleAccept` has made, about to be registered. -/
def Solo.accepted : Solo :=
  { connection := { TcpConnection.new () 0 with closeCallback_ := true }.alone
    statements := [.connectEstablishedInLoop] }

/-- A step: a statement that makes no system call is executed, one that makes one is executed when
the result is there, and the tests of `handleEvent` come next when a mask is reported while nothing
is under way. -/
def Solo.step (solo : Solo) (seen : Option Seen) : Option Solo :=
  match solo.statements, seen with
  | body :: rest, none =>
    if solo.connection.asks body then none
    else (solo.connection.execute body .none).map (Outcome.goOn rest)
  | body :: rest, some (.io result) =>
    if solo.connection.asks body then
      (solo.connection.execute body result).map (Outcome.goOn rest)
    else none
  | [], some (.mask revents) =>
    if solo.connection.state_ = .kConnected then
      some
        { connection :=
            { solo.connection with channel_ := solo.connection.channel_.setRevents revents }
          statements := handleEventTests }
    else none
  | _, _ => none

/-- The connection on its own as a system, from before it exists. -/
def Solo.system : System (Option Solo) (Option Seen) where
  initial solo := solo = none
  step solo seen := match solo with
    | none => if seen = none then some (some Solo.accepted) else none
    | some solo => (solo.step seen).map some

/-- Executing the next statement of a connection on its own does to it what executing the statement
does to any connection like it. -/
theorem solo_executes {connection : TcpConnection Loop} {body : Statement} {io : IoResult}
    {outcome : Outcome Loop} (executed : connection.execute body io = some outcome)
    (rest : List Statement) :
    Solo.step { connection := connection.alone, statements := body :: rest }
        (if connection.asks body then some (.io io) else none) =
      some (outcome.goOn rest) := by
  have goOn (result : IoResult) :
      (connection.alone.execute body result).map (Outcome.goOn rest) =
        (connection.execute body result).map (Outcome.goOn rest) := by
    have factor := congrArg (Option.map fun alike : TcpConnection Unit × List Next =>
      { connection := alike.1
        statements := if alike.1.state_ = .kDisconnected then []
          else alike.2.filterMap Next.body ++ rest : Solo }) (execute_alone connection body result)
    rwa [Option.map_map, Option.map_map] at factor
  have asked : connection.alone.asks body = connection.asks body := by
    cases body <;> rfl
  cases asks : connection.asks body with
  | true => simp [Solo.step, asked, asks, goOn, executed]
  | false =>
    rw [execute_unasked asks] at executed
    simp [Solo.step, asked, asks, goOn, executed]

/-- A connection on its own is a reading system. -/
theorem solo_reading : Reading Solo.system := by
  intro solo seen silent
  cases solo with
  | none => rfl
  | some solo =>
    obtain ⟨connection, statements⟩ := solo
    cases statements with
    | nil => cases silent
    | cons body rest =>
      have unasked : connection.asks body = false := by
        cases asks : connection.asks body with
        | false => rfl
        | true => simp [Solo.system, Solo.step, asks] at silent
      cases seen with
      | mask revents => rfl
      | io result => simp [Solo.system, Solo.step, unasked]

/-! ### What a connection shows -/

/-- What can be observed of a connection: the bytes `send` has accepted, its buffers, its state and
the mask it is registered for. -/
structure Shown where
  transmitted : Bytes
  input_buffer_ : Bytes
  output_buffer_ : Bytes
  state_ : StateE
  registered : Option Events
  deriving DecidableEq

/-- What a connection shows when it is registered for this mask, if for one. -/
def TcpConnection.shown (connection : TcpConnection Loop) (registered : Option Events) : Shown :=
  { transmitted := connection.acceptedBytes
    input_buffer_ := connection.input_buffer_
    output_buffer_ := connection.output_buffer_
    state_ := connection.state_
    registered := registered }

/-- The mask a channel says it is registered for. -/
def Channel.registered (channel : Channel) : Option Events :=
  if channel.index_ = 1 then some channel.events_ else none

/-- What a connection shows on its own. -/
def Solo.shown (solo : Option Solo) : Option Shown :=
  solo.map fun solo => solo.connection.shown solo.connection.channel_.registered

/-- What is shown when `handleClose` has closed the connection. -/
def Shown.closed (shown : Option Shown) : Bool :=
  shown.any fun shown => shown.state_ = .kDisconnected

end MultiReactor
