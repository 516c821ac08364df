/-
This file puts the load-test client and a connection of the reactor server
(TcpConnection.cpp) together: the connection on its own, as it is on its loop. It is
an echo service. What each stage of its work finds in its buffers, in its channel's
mask and in the socket buffers is the invariant; what each stage has still to do
before the connection waits again bounds its work.

The connection takes in whatever the client sends, and keeps in `output_buffer_` what
does not fit into the socket buffer, so unlike a blocking server it never comes to a
stop together with the client.
-/

import MultiReactor.EchoSession
import MultiReactor.Solo

namespace MultiReactor

open Transition

/-! ### The server -/

/-- The call a statement makes, with what it returns. -/
def TcpConnection.call (connection : TcpConnection Unit) : Statement → IoResult → ServerCall
  | .handleRead, .recv (.data bytes) => .recv bytes
  | .handleRead, .recv .eof => .eof
  | .handleRead, .recv .again => .recvAgain
  | .handleRead, .recv .error => .fails
  | .sendInLoop msg, .send (.count sent) => .send (msg.take sent)
  | .handleWriteLoop totalSent _, .send (.count sent) =>
    .send ((connection.output_buffer_.drop totalSent).take sent)
  | .sendInLoop _, .send .again | .handleWriteLoop _ _, .send .again => .sendAgain
  | .sendInLoop _, .send .error | .handleWriteLoop _ _, .send .error => .fails
  | _, _ => .none

/-- The call a step of the connection makes. An error is reported with EPOLLERR or EPOLLHUP. -/
def Solo.call (solo : Solo) : Option Seen → ServerCall
  | none => .none
  | some (.mask revents) =>
    if revents.epollerr || revents.epollhup then .fails
    else .epoll_wait (solo.connection.channel_.registered.getD .none) revents
  | some (.io result) => match solo.statements with
    | body :: _ => solo.connection.call body result
    | [] => .none

/-- A connection of the reactor server. -/
abbrev reactorServer : ConnectionServer where
  State := Solo
  Input := Option Seen
  start := .accepted
  step := Solo.step
  call := Solo.call

section Steps

variable {connection : TcpConnection Unit} {body : Statement} {rest : List Statement}
  {seen : Option Seen} {after : Solo}

theorem solo_unasked (unasked : connection.asks body = false)
    (step : Solo.step { connection := connection, statements := body :: rest } seen = some after) :
    seen = none ∧ ∃ outcome, connection.execute body .none = some outcome ∧
      after = outcome.goOn rest := by
  cases seen with
  | none =>
    simp only [Solo.step, unasked, Bool.false_eq_true, if_false] at step
    obtain ⟨outcome, executed, rfl⟩ := Option.map_eq_some_iff.mp step
    exact ⟨rfl, outcome, executed, rfl⟩
  | some seen =>
    cases seen with
    | mask revents => cases step
    | io result => simp [Solo.step, unasked] at step

theorem solo_asked (asked : connection.asks body = true)
    (step : Solo.step { connection := connection, statements := body :: rest } seen = some after) :
    ∃ result, seen = some (.io result) ∧ ∃ outcome, connection.execute body result = some outcome ∧
      after = outcome.goOn rest := by
  cases seen with
  | none => simp [Solo.step, asked] at step
  | some seen =>
    cases seen with
    | mask revents => cases step
    | io result =>
      simp only [Solo.step, asked, if_true] at step
      obtain ⟨outcome, executed, rfl⟩ := Option.map_eq_some_iff.mp step
      exact ⟨result, rfl, outcome, executed, rfl⟩

end Steps

/-! ### The bytes in its hands -/

/-- The message of a statement. -/
def Statement.msg : Statement → List UInt8
  | .send msg | .sendInLoop msg => msg
  | _ => []

/-- The bytes a connection may have in its hands. -/
def Solo.bytes (solo : Solo) : List UInt8 :=
  solo.connection.input_buffer_ ++ solo.statements.flatMap Statement.msg ++
    solo.connection.output_buffer_

/-- The messages a statement leaves to be sent. -/
def Outcome.msgs (outcome : Outcome Unit) : List UInt8 :=
  (outcome.next.filterMap Next.body).flatMap Statement.msg

section Bytes

variable {connection : TcpConnection Unit} {outcome : Outcome Unit}

/-- What a statement leaves behind, it has found or received. -/
structure MakesNone (connection : TcpConnection Unit) (body : Statement) (io : IoResult)
    (outcome : Outcome Unit) : Prop where
  input : outcome.connection.input_buffer_ ⊆
    connection.input_buffer_ ++ (connection.call body io).taken
  msgs : outcome.msgs ⊆ connection.input_buffer_ ++ body.msg
  output : outcome.connection.output_buffer_ ⊆ connection.output_buffer_ ++ body.msg

/-- A statement that leaves the buffers as they are and has nothing to send. -/
theorem makesNone_quiet {body : Statement} {io : IoResult}
    (input : outcome.connection.input_buffer_ = connection.input_buffer_)
    (output : outcome.connection.output_buffer_ = connection.output_buffer_)
    (msgs : outcome.msgs = []) : MakesNone connection body io outcome where
  input := input ▸ List.subset_append_left ..
  msgs := msgs ▸ List.nil_subset _
  output := output ▸ List.subset_append_left ..

theorem stopWriting_msgs (connection : TcpConnection Unit) (next : List Next)
    (quiet : (connection.yields next).msgs = []) :
    (connection.stopWriting next).msgs = [] ∧
      (connection.stopWriting next).connection.input_buffer_ = connection.input_buffer_ ∧
      (connection.stopWriting next).connection.output_buffer_ = connection.output_buffer_ := by
  unfold TcpConnection.stopWriting
  split
  · exact ⟨quiet, rfl, rfl⟩
  · exact ⟨quiet, rfl, rfl⟩

/-- What is buffered for later is what was not sent. -/
theorem bufferRemaining_bytes (connection : TcpConnection Unit) (remaining : Bytes) :
    (connection.bufferRemaining remaining).msgs = [] ∧
      (connection.bufferRemaining remaining).connection.input_buffer_ =
        connection.input_buffer_ ∧
      (connection.bufferRemaining remaining).connection.output_buffer_ =
        connection.output_buffer_ ++ remaining := by
  unfold TcpConnection.bufferRemaining
  split
  · rename_i nothing
    rw [nothing, List.append_nil]
    exact ⟨rfl, rfl, rfl⟩
  · simp only
    split
    · exact ⟨rfl, rfl, rfl⟩
    · exact ⟨rfl, rfl, rfl⟩

theorem sendInLoop_makesNone {msg : Bytes} {io : IoResult}
    (executed : connection.sendInLoop msg io = some outcome) :
    MakesNone connection (.sendInLoop msg) io outcome := by
  have buffers (base : TcpConnection Unit) (remaining : Bytes)
      (input : base.input_buffer_ = connection.input_buffer_)
      (output : base.output_buffer_ = connection.output_buffer_) (part : remaining ⊆ msg) :
      MakesNone connection (.sendInLoop msg) io (base.bufferRemaining remaining) := by
    obtain ⟨msgs, kept, buffered⟩ := bufferRemaining_bytes base remaining
    refine ⟨?_, ?_, ?_⟩
    · rw [kept, input]
      exact List.subset_append_left ..
    · rw [msgs]
      exact List.nil_subset _
    · rw [buffered, output]
      exact List.append_subset.mpr
        ⟨List.subset_append_left .., List.subset_append_of_subset_right _ part⟩
  unfold TcpConnection.sendInLoop at executed
  split at executed
  · cases executed
    exact makesNone_quiet rfl rfl rfl
  · simp only at executed
    split at executed
    · split at executed
      · split at executed <;> cases executed
        exact buffers _ _ rfl rfl (List.drop_subset ..)
      · cases executed
        exact buffers _ _ rfl rfl (List.Subset.refl _)
      · cases executed
        exact makesNone_quiet rfl rfl rfl
      · cases executed
    · cases executed
      exact buffers _ _ rfl rfl (List.Subset.refl _)

/-- A statement makes no bytes up. -/
theorem execute_makesNone {body : Statement} {io : IoResult}
    (executed : connection.execute body io = some outcome) :
    MakesNone connection body io outcome := by
  cases body with
  | errorCallback | readCallback | writeCallback | connectDestroyedInLoop | forceClose
  | forceCloseRetest | forceCloseInLoop | forceCloseInLoopRetest | handleClose =>
    cases executed
    refine makesNone_quiet rfl rfl ?_
    simp only [Outcome.msgs, TcpConnection.yields, TcpConnection.connectDestroyedInLoop,
      TcpConnection.forceClose, TcpConnection.forceCloseRetest, TcpConnection.forceCloseInLoop,
      TcpConnection.forceCloseInLoopRetest, TcpConnection.handleClose]
    split <;> rfl
  | connectEstablished | connectEstablishedInLoop | connectDestroyed | connectDestroyedInLoopStore
  | forceCloseStore | handleError | handleCloseStore =>
    cases executed
    exact makesNone_quiet rfl rfl rfl
  | handleCloseCallback =>
    cases executed
    unfold TcpConnection.handleCloseCallback
    split
    · exact makesNone_quiet rfl rfl rfl
    · exact makesNone_quiet rfl rfl rfl
  | send msg =>
    cases executed
    unfold TcpConnection.send
    split
    · refine ⟨List.subset_append_left .., ?_, List.subset_append_left ..⟩
      show msg ++ [] ⊆ connection.input_buffer_ ++ msg
      rw [List.append_nil]
      exact List.subset_append_right ..
    · exact makesNone_quiet rfl rfl rfl
  | sendInLoop msg => exact sendInLoop_makesNone executed
  | handleRead =>
    simp only [TcpConnection.execute] at executed
    unfold TcpConnection.handleRead at executed
    split at executed
    · split at executed <;> cases executed
      exact ⟨List.Subset.refl _, List.nil_subset _, List.subset_append_left ..⟩
    · cases executed
      exact makesNone_quiet rfl rfl rfl
    · cases executed
      exact makesNone_quiet rfl rfl rfl
    · cases executed
      exact makesNone_quiet rfl rfl rfl
    · cases executed
  | handleReadEcho =>
    cases executed
    unfold TcpConnection.handleReadEcho
    split
    · exact makesNone_quiet rfl rfl rfl
    · exact ⟨List.nil_subset _, List.Subset.refl _, List.subset_append_left ..⟩
  | handleWrite =>
    cases executed
    unfold TcpConnection.handleWrite
    split
    · obtain ⟨msgs, input, output⟩ := stopWriting_msgs connection [] rfl
      exact makesNone_quiet input output msgs
    · exact makesNone_quiet rfl rfl rfl
  | handleWriteLoop totalSent totalLen =>
    simp only [TcpConnection.execute] at executed
    unfold TcpConnection.handleWriteLoop at executed
    split at executed
    · split at executed
      · split at executed
        · cases executed
          exact makesNone_quiet rfl rfl rfl
        · split at executed <;> cases executed
          exact makesNone_quiet rfl rfl rfl
      · cases executed
        exact makesNone_quiet rfl rfl rfl
      · cases executed
        exact makesNone_quiet rfl rfl rfl
      · cases executed
    · cases executed
      exact makesNone_quiet rfl rfl rfl
  | handleWriteRest totalSent =>
    cases executed
    unfold TcpConnection.handleWriteRest
    simp only
    split
    · obtain ⟨msgs, input, output⟩ := stopWriting_msgs
        { connection with output_buffer_ := connection.output_buffer_.drop totalSent }
        (if connection.state_ = .kDisconnecting then [.statement .handleClose] else [])
        (by simp only [Outcome.msgs, TcpConnection.yields]; split <;> rfl)
      refine ⟨?_, ?_, ?_⟩
      · rw [input]
        exact List.subset_append_left ..
      · rw [msgs]
        exact List.nil_subset _
      · rw [output]
        exact List.subset_append_of_subset_left _ (List.drop_subset ..)
    · exact ⟨List.subset_append_left .., List.nil_subset _,
        List.subset_append_of_subset_left _ (List.drop_subset ..)⟩

/-- The bytes that a call of a statement sends are there. -/
theorem call_put {body : Statement} {io : IoResult} :
    (connection.call body io).put ⊆ body.msg ++ connection.output_buffer_ := by
  unfold TcpConnection.call
  split
  · exact List.nil_subset _
  · exact List.nil_subset _
  · exact List.nil_subset _
  · exact List.nil_subset _
  · exact List.subset_append_of_subset_left _ (List.take_subset ..)
  · exact List.subset_append_of_subset_right _
      (List.Subset.trans (List.take_subset ..) (List.drop_subset ..))
  all_goals exact List.nil_subset _

/-- Going on after a statement. -/
theorem goOn_bytes {body : Statement} {io : IoResult} (rest : List Statement)
    (executed : connection.execute body io = some outcome) :
    (outcome.goOn rest).bytes ++ (connection.call body io).put ⊆
      Solo.bytes { connection := connection, statements := body :: rest } ++
        (connection.call body io).taken := by
  obtain ⟨input, msgs, output⟩ := execute_makesNone executed
  have put : (connection.call body io).put ⊆ body.msg ++ connection.output_buffer_ := call_put
  have later : (outcome.goOn rest).statements.flatMap Statement.msg ⊆
      outcome.msgs ++ rest.flatMap Statement.msg := by
    unfold Outcome.goOn
    simp only
    split
    · exact List.nil_subset _
    · rw [List.flatMap_append]
      exact List.Subset.refl _
  have first : Solo.bytes { connection := connection, statements := body :: rest } =
      connection.input_buffer_ ++ (body.msg ++ rest.flatMap Statement.msg) ++
        connection.output_buffer_ := by
    rw [Solo.bytes, List.flatMap_cons]
  rw [first, Solo.bytes]
  intro byte known
  simp only [List.mem_append] at known ⊢
  rcases known with ((held | message) | buffered) | sent
  · rcases List.mem_append.mp (input held) with before | now
    · exact .inl (.inl (.inl before))
    · exact .inr now
  · rcases List.mem_append.mp (later message) with new | old
    · rcases List.mem_append.mp (msgs new) with before | same
      · exact .inl (.inl (.inl before))
      · exact .inl (.inl (.inr (.inl same)))
    · exact .inl (.inl (.inr (.inr old)))
  · rcases List.mem_append.mp (output buffered) with before | same
    · exact .inl (.inr before)
    · exact .inl (.inl (.inr (.inl same)))
  · rcases List.mem_append.mp (put sent) with same | before
    · exact .inl (.inl (.inr (.inl same)))
    · exact .inl (.inr before)

end Bytes

/-- The connection makes no bytes up. -/
theorem solo_bytes {solo after : Solo} {seen : Option Seen} (step : solo.step seen = some after) :
    after.bytes ++ (solo.call seen).put ⊆ solo.bytes ++ (solo.call seen).taken := by
  obtain ⟨connection, statements⟩ := solo
  cases statements with
  | nil =>
    cases seen with
    | none => cases step
    | some seen =>
      cases seen with
      | io result => cases step
      | mask revents =>
        simp only [Solo.step] at step
        split at step <;> cases step
        have quiet : (Solo.call { connection := connection, statements := [] }
            (some (.mask revents))).put = [] := by
          unfold Solo.call
          simp only
          split <;> rfl
        rw [quiet, List.append_nil]
        exact List.subset_append_left ..
  | cons body rest =>
    cases asked : connection.asks body with
    | false =>
      obtain ⟨rfl, outcome, executed, rfl⟩ := solo_unasked asked step
      have quiet : connection.call body .none = .none := by
        cases body <;> rfl
      have bytes := goOn_bytes rest executed
      rw [quiet] at bytes
      exact bytes
    | true =>
      obtain ⟨result, rfl, outcome, executed, rfl⟩ := solo_asked asked step
      exact goOn_bytes rest executed

/-! ### The stages of its work -/

/-- There is something to receive: bytes, or the end of the stream. -/
def Streams.More (streams : Streams) : Prop :=
  streams.up ≠ [] ∨ streams.ended = true

/-- There is room to send, and something to send. -/
def Writable (capacity : Nat) (streams : Streams) (connection : TcpConnection Unit) : Prop :=
  streams.down.length < capacity ∧ connection.output_buffer_ ≠ []

/-- The mask of a connection with this in `output_buffer_`: EPOLLOUT where there is something. -/
def interestOf (output : Bytes) : Events :=
  { epollin := true
    epollout := output ≠ []
    epollerr := false
    epollhup := false }

theorem interestOf_present {output : Bytes} (present : output ≠ []) : interestOf output =
    { epollin := true, epollout := true, epollerr := false, epollhup := false } := by
  rw [interestOf, decide_eq_true present]

/-- The connection is registered for what it has to do. -/
structure TcpConnection.Open (connection : TcpConnection Unit) : Prop where
  state : connection.state_ = .kConnected
  index : connection.channel_.index_ = 1
  events : connection.channel_.events_ = interestOf connection.output_buffer_

/-- What has been reported is there. -/
structure Reported (capacity : Nat) (streams : Streams) (connection : TcpConnection Unit) :
    Prop where
  epollerr : connection.channel_.revents_.epollerr = false
  epollhup : connection.channel_.revents_.epollhup = false
  epollin : connection.channel_.revents_.epollin = true → streams.More
  epollout : connection.channel_.revents_.epollout = true → Writable capacity streams connection
  some : connection.channel_.revents_.epollin = true ∨ connection.channel_.revents_.epollout = true

/-- What holds of a connection and the bytes on their way where these statements are under way.
Where EPOLLIN has been reported, a byte has been received before the connection comes to writing;
where it has not, `handleWrite` sends one. -/
inductive SoloStage (capacity : Nat) (streams : Streams) (connection : TcpConnection Unit) :
    List Statement → Prop where
  | connectEstablishedInLoop (accepted : connection = Solo.accepted.connection) :
    SoloStage capacity streams connection [.connectEstablishedInLoop]
  | waiting (opened : connection.Open) (input : connection.input_buffer_ = []) :
    SoloStage capacity streams connection []
  | errorCallback (opened : connection.Open) (input : connection.input_buffer_ = [])
    (reports : Reported capacity streams connection) :
    SoloStage capacity streams connection [.errorCallback, .readCallback, .writeCallback]
  | readCallback (opened : connection.Open) (input : connection.input_buffer_ = [])
    (reports : Reported capacity streams connection) :
    SoloStage capacity streams connection [.readCallback, .writeCallback]
  | handleRead (opened : connection.Open) (reads : connection.channel_.revents_.epollin = true)
    (more : connection.input_buffer_ = [] → streams.More) :
    SoloStage capacity streams connection [.handleRead, .writeCallback]
  | handleReadEcho (opened : connection.Open)
    (reads : connection.channel_.revents_.epollin = true)
    (present : connection.input_buffer_ ≠ []) :
    SoloStage capacity streams connection [.handleReadEcho, .writeCallback]
  | send (msg : Bytes) (opened : connection.Open)
    (reads : connection.channel_.revents_.epollin = true)
    (input : connection.input_buffer_ = []) (present : msg ≠ []) :
    SoloStage capacity streams connection [.send msg, .writeCallback]
  | sendInLoop (msg : Bytes) (opened : connection.Open)
    (reads : connection.channel_.revents_.epollin = true)
    (input : connection.input_buffer_ = []) (present : msg ≠ []) :
    SoloStage capacity streams connection [.sendInLoop msg, .writeCallback]
  | writeCallback (opened : connection.Open) (input : connection.input_buffer_ = [])
    (writes : connection.channel_.revents_.epollin = false →
      connection.channel_.revents_.epollout = true ∧ Writable capacity streams connection) :
    SoloStage capacity streams connection [.writeCallback]
  | handleWrite (opened : connection.Open) (input : connection.input_buffer_ = [])
    (writes : connection.channel_.revents_.epollin = false →
      Writable capacity streams connection) :
    SoloStage capacity streams connection [.handleWrite]
  | handleWriteLoop (totalSent : Nat) (opened : connection.Open)
    (input : connection.input_buffer_ = []) (present : connection.output_buffer_ ≠ [])
    (room : connection.channel_.revents_.epollin = false → totalSent = 0 →
      streams.down.length < capacity) :
    SoloStage capacity streams connection
      [.handleWriteLoop totalSent connection.output_buffer_.length]
  | handleWriteRest (totalSent : Nat) (opened : connection.Open)
    (input : connection.input_buffer_ = []) :
    SoloStage capacity streams connection [.handleWriteRest totalSent]
  | handleClose (state : connection.state_ = .kConnected) (ended : streams.ended = true) :
    SoloStage capacity streams connection [.handleClose, .writeCallback]
  | handleCloseStore (ended : streams.ended = true) :
    SoloStage capacity streams connection [.handleCloseStore, .writeCallback]
  | closed (state : connection.state_ = .kDisconnected) (ended : streams.ended = true) :
    SoloStage capacity streams connection []

/-- How much of `output_buffer_` has been sent and is still to be erased. -/
def Statement.totalSent : Statement → Nat
  | .handleWriteLoop totalSent _ | .handleWriteRest totalSent => totalSent
  | _ => 0

/-- How many bytes the connection has received and not sent. -/
def Solo.held (solo : Solo) : Nat :=
  match solo.statements with
  | [] => solo.connection.input_buffer_.length + solo.connection.output_buffer_.length
  | body :: _ => solo.connection.input_buffer_.length + body.msg.length +
      (solo.connection.output_buffer_.length - body.totalSent)

/-- How many steps are left before the connection waits again or has closed, when no more bytes are
moved than must be. -/
def Statement.remaining (connection : TcpConnection Unit) : Statement → Nat
  | .connectEstablishedInLoop => 7
  | .errorCallback => 5
  | .readCallback => 4
  | .handleRead => if connection.input_buffer_ = [] then 3 else 15
  | .handleReadEcho => 14
  | .send _ => 13
  | .sendInLoop _ => 12
  | .writeCallback => if connection.channel_.revents_.epollin then 11 else 3
  | .handleWrite => if connection.channel_.revents_.epollin then 10 else 2
  | .handleWriteLoop totalSent _ =>
    if 0 < totalSent then 8 else if connection.channel_.revents_.epollin then 9 else 1
  | .handleWriteRest _ => 7
  | .handleClose => 2
  | .handleCloseStore => 1
  | _ => 0

def Solo.remaining (solo : Solo) : Nat :=
  match solo.statements with
  | [] => if solo.connection.state_ = .kDisconnected then 0 else 6
  | body :: _ => body.remaining solo.connection

/-- What a step of the connection does. A byte received pays for what is done before the connection
waits again, and so does a byte sent. -/
structure SoloStep (capacity : Nat) (streams : Streams) (solo after : Solo) (call : ServerCall) :
    Prop where
  stage : SoloStage capacity (streams.after call) after.connection after.statements
  held : after.held + call.put.length = solo.held + call.taken.length
  remaining : after.remaining + 1 ≤
    solo.remaining + 13 * call.taken.length + 8 * call.put.length

section Stages

variable {capacity : Nat} {streams : Streams} {connection : TcpConnection Unit}

/-- A connection with statements under way. -/
abbrev TcpConnection.doing (connection : TcpConnection Unit) (statements : List Statement) : Solo :=
  { connection := connection, statements := statements }

/-- Every step from here does what a step does. -/
def Proceeds (capacity : Nat) (streams : Streams) (solo : Solo) : Prop :=
  ∀ seen after, reactorServer.Succeeds capacity streams solo seen after →
    SoloStep capacity streams solo after (solo.call seen)

/-- A connection that is not closed goes on with what is left. -/
theorem goOn_connected {outcome : Outcome Unit} {rest : List Statement}
    (state : outcome.connection.state_ = .kConnected) :
    outcome.goOn rest = outcome.connection.alone.doing
      (outcome.next.filterMap Next.body ++ rest) := by
  have opened : outcome.connection.state_ ≠ .kDisconnected := fun same => by
    cases state.symm.trans same
  rw [Outcome.goOn, if_neg opened]

/-- Where nothing is asked of the kernel, the bytes on their way stay as they are. -/
theorem after_quiet {call : ServerCall} (taken : call.taken = []) (put : call.put = []) :
    streams.after call = streams := by
  rw [Streams.after, taken, put, List.length_nil, List.drop_zero, List.append_nil]

/-- A step that moves no byte, to the next stage. -/
theorem soloStep_quiet {solo after : Solo} {call : ServerCall} (taken : call.taken = [])
    (put : call.put = []) (stage : SoloStage capacity streams after.connection after.statements)
    (held : after.held = solo.held) (remaining : after.remaining + 1 ≤ solo.remaining) :
    SoloStep capacity streams solo after call := by
  refine ⟨?_, ?_, ?_⟩
  · rw [after_quiet taken put]
    exact stage
  · rw [taken, put, held]
  · rw [taken, put]
    exact remaining

/-- What `epoll_wait` reports is there. -/
theorem reported_of_reports {revents : Events}
    (reports : streams.reports capacity (interestOf connection.output_buffer_) revents = true)
    (some : revents.epollin = true ∨ revents.epollout = true)
    (seen : connection.channel_.revents_ = revents) : Reported capacity streams connection := by
  obtain ⟨reads, writes, -, epollerr, epollhup⟩ := of_decide_eq_true reports
  subst seen
  refine ⟨epollerr, epollhup, fun reported => ?_, fun reported => ?_, some⟩
  · rw [reported] at reads
    have there := (Bool.and_eq_true_iff.mp reads.symm).2
    exact (Bool.or_eq_true_iff.mp there).imp of_decide_eq_true id
  · obtain ⟨asked, room⟩ := writes reported
    exact ⟨room, of_decide_eq_true asked⟩

theorem TcpConnection.Open.alone (opened : connection.Open) : connection.alone.Open :=
  ⟨opened.state, opened.index, opened.events⟩

theorem connectEstablished_proceeds :
    Proceeds capacity streams (Solo.accepted.connection.doing [.connectEstablishedInLoop]) := by
  intro seen after made
  obtain ⟨rfl, outcome, executed, rfl⟩ := solo_unasked rfl made.step
  cases executed
  exact soloStep_quiet rfl rfl (.waiting ⟨rfl, rfl, rfl⟩ rfl) rfl (by decide)

theorem waiting_proceeds (opened : connection.Open) (input : connection.input_buffer_ = []) :
    Proceeds capacity streams (connection.doing []) := by
  intro seen after made
  obtain ⟨permitted, succeeds, step⟩ := made
  cases seen with
  | none => cases step
  | some seen =>
    cases seen with
    | io result => cases step
    | mask revents =>
      have moved : Solo.step (connection.doing []) (some (.mask revents)) = some after := step
      simp only [Solo.step, if_pos opened.state] at moved
      cases moved
      have registered : connection.channel_.registered.getD .none =
          interestOf connection.output_buffer_ := by
        rw [Channel.registered, if_pos opened.index, opened.events]
        rfl
      have call : (connection.doing []).call (some (.mask revents)) =
          .epoll_wait (connection.channel_.registered.getD .none) revents :=
        if_neg fun errors => succeeds (if_pos errors)
      replace permitted : streams.permits capacity
        ((connection.doing []).call (some (.mask revents))) = true := permitted
      rw [call, registered] at permitted
      obtain ⟨reports, some⟩ := of_decide_eq_true permitted
      rw [call]
      refine soloStep_quiet rfl rfl (.errorCallback ⟨opened.state, opened.index, opened.events⟩
        input (reported_of_reports reports some rfl)) (congrArg₂ _ rfl rfl) ?_
      have opened : connection.state_ ≠ .kDisconnected := fun same => by
        cases opened.state.symm.trans same
      show 5 + 1 ≤ if connection.state_ = .kDisconnected then 0 else 6
      rw [if_neg opened]

theorem errorCallback_proceeds (opened : connection.Open) (input : connection.input_buffer_ = [])
    (reports : Reported capacity streams connection) :
    Proceeds capacity streams
      (connection.doing [.errorCallback, .readCallback, .writeCallback]) := by
  intro seen after made
  obtain ⟨rfl, outcome, executed, rfl⟩ := solo_unasked rfl made.step
  cases executed
  have quiet : (connection.channel_.revents_.epollerr || connection.channel_.revents_.epollhup) =
      false := by
    rw [reports.epollerr, reports.epollhup]
    rfl
  rw [goOn_connected opened.state, quiet]
  exact soloStep_quiet rfl rfl (.readCallback opened.alone input
    ⟨reports.epollerr, reports.epollhup, reports.epollin, reports.epollout, reports.some⟩)
    rfl (Nat.le_refl _)

theorem readCallback_proceeds (opened : connection.Open) (input : connection.input_buffer_ = [])
    (reports : Reported capacity streams connection) :
    Proceeds capacity streams (connection.doing [.readCallback, .writeCallback]) := by
  intro seen after made
  obtain ⟨rfl, outcome, executed, rfl⟩ := solo_unasked rfl made.step
  cases executed
  cases reads : connection.channel_.revents_.epollin with
  | true =>
    rw [goOn_connected opened.state]
    refine soloStep_quiet rfl rfl
      (.handleRead opened.alone reads fun _ => reports.epollin reads) rfl ?_
    show (if connection.input_buffer_ = [] then 3 else 15) + 1 ≤ 4
    rw [if_pos input]
  | false =>
    rw [goOn_connected opened.state]
    have writes := reports.some.resolve_left fun same => by cases reads.symm.trans same
    refine soloStep_quiet rfl rfl (.writeCallback opened.alone input fun _ =>
      ⟨writes, reports.epollout writes⟩) rfl ?_
    show (if connection.channel_.revents_.epollin then 11 else 3) + 1 ≤ 4
    rw [reads]
    exact Nat.le_refl _

theorem handleRead_proceeds (opened : connection.Open)
    (reads : connection.channel_.revents_.epollin = true)
    (more : connection.input_buffer_ = [] → streams.More) :
    Proceeds capacity streams (connection.doing [.handleRead, .writeCallback]) := by
  intro seen after made
  obtain ⟨result, rfl, outcome, executed, rfl⟩ := solo_asked rfl made.step
  have permitted : streams.permits capacity (connection.call .handleRead result) = true :=
    made.permitted
  have succeeds : connection.call .handleRead result ≠ .fails := made.succeeds
  show SoloStep capacity streams _ _ (connection.call .handleRead result)
  simp only [TcpConnection.execute] at executed
  unfold TcpConnection.handleRead at executed
  split at executed
  · rename_i bytes
    split at executed <;> cases executed
    rename_i some
    rw [goOn_connected opened.state]
    have present : connection.input_buffer_ ++ bytes ≠ [] := fun nothing =>
      some.1 (List.append_eq_nil_iff.mp nothing).2
    refine ⟨.handleRead ⟨opened.state, opened.index, opened.events⟩ reads fun nothing =>
      absurd nothing present, ?_, ?_⟩
    · show (connection.input_buffer_ ++ bytes).length + 0 + (connection.output_buffer_.length - 0) +
        0 = connection.input_buffer_.length + 0 + (connection.output_buffer_.length - 0) +
          bytes.length
      rw [List.length_append]
      omega
    · show (if connection.input_buffer_ ++ bytes = [] then 3 else 15) + 1 ≤
        (if connection.input_buffer_ = [] then 3 else 15) + 13 * bytes.length + 0
      have one := List.length_pos_iff.mpr some.1
      rw [if_neg present]
      split <;> omega
  · cases executed
    rw [goOn_connected opened.state]
    refine soloStep_quiet rfl rfl (.handleClose opened.state (of_decide_eq_true permitted).2) rfl ?_
    show 2 + 1 ≤ if connection.input_buffer_ = [] then 3 else 15
    split <;> omega
  · cases executed
    have empty : streams.up = [] ∧ (!streams.ended) = true := of_decide_eq_true permitted
    have present : connection.input_buffer_ ≠ [] := fun nothing => by
      rcases more nothing with some | ended
      · exact some empty.1
      · rw [ended] at empty
        cases empty.2
    rw [goOn_connected opened.state]
    refine soloStep_quiet rfl rfl (.handleReadEcho ⟨opened.state, opened.index, opened.events⟩ reads
      present) rfl ?_
    show 14 + 1 ≤ if connection.input_buffer_ = [] then 3 else 15
    rw [if_neg present]
  · exact absurd rfl succeeds
  · cases executed

theorem handleReadEcho_proceeds (opened : connection.Open)
    (reads : connection.channel_.revents_.epollin = true)
    (present : connection.input_buffer_ ≠ []) :
    Proceeds capacity streams (connection.doing [.handleReadEcho, .writeCallback]) := by
  intro seen after made
  obtain ⟨rfl, outcome, executed, rfl⟩ := solo_unasked rfl made.step
  cases executed
  rw [TcpConnection.handleReadEcho, if_neg present, goOn_connected opened.state]
  refine soloStep_quiet rfl rfl (.send _ ⟨opened.state, opened.index, opened.events⟩ reads rfl
    present) ?_ (Nat.le_refl _)
  show 0 + connection.input_buffer_.length + (connection.output_buffer_.length - 0) =
    connection.input_buffer_.length + 0 + (connection.output_buffer_.length - 0)
  omega

theorem send_proceeds {msg : Bytes} (opened : connection.Open)
    (reads : connection.channel_.revents_.epollin = true) (input : connection.input_buffer_ = [])
    (present : msg ≠ []) :
    Proceeds capacity streams (connection.doing [.send msg, .writeCallback]) := by
  intro seen after made
  obtain ⟨rfl, outcome, executed, rfl⟩ := solo_unasked rfl made.step
  cases executed
  rw [TcpConnection.send, if_pos opened.state, goOn_connected (by exact opened.state)]
  exact soloStep_quiet rfl rfl (.sendInLoop msg ⟨opened.state, opened.index, opened.events⟩ reads
    input present) rfl (Nat.le_refl _)

/-- What is not sent is buffered, and the connection is registered for EPOLLOUT. -/
theorem bufferRemaining_open (opened : connection.Open) (remaining : Bytes) :
    ∃ buffered : TcpConnection Unit,
      (connection.bufferRemaining remaining).goOn [.writeCallback] =
        buffered.alone.doing [.writeCallback] ∧
      buffered.Open ∧ buffered.input_buffer_ = connection.input_buffer_ ∧
      buffered.output_buffer_ = connection.output_buffer_ ++ remaining ∧
      buffered.channel_.revents_ = connection.channel_.revents_ := by
  unfold TcpConnection.bufferRemaining
  split
  · rename_i nothing
    refine ⟨connection, goOn_connected opened.state, opened, rfl, ?_, rfl⟩
    rw [nothing, List.append_nil]
  · rename_i some
    have present : connection.output_buffer_ ++ remaining ≠ [] := fun nothing =>
      some (List.append_eq_nil_iff.mp nothing).2
    simp only
    split
    · rename_i writing
      refine ⟨{ connection with output_buffer_ := connection.output_buffer_ ++ remaining },
        goOn_connected opened.state, ⟨opened.state, opened.index, ?_⟩, rfl, rfl, rfl⟩
      have pending : connection.output_buffer_ ≠ [] := by
        rw [Channel.isWriting, opened.events] at writing
        exact of_decide_eq_true writing
      show connection.channel_.events_ = interestOf (connection.output_buffer_ ++ remaining)
      rw [opened.events, interestOf_present pending, interestOf_present present]
    · have registered : (Epoll.updateChannel connection.channel_.enableWriting).1 =
          connection.channel_.enableWriting :=
        updateChannel_added opened.index (congrArg Events.epollin opened.events)
      refine ⟨_, goOn_connected opened.state, ⟨opened.state, ?_, ?_⟩, rfl, rfl, ?_⟩
      · show (Epoll.updateChannel connection.channel_.enableWriting).1.index_ = 1
        rw [registered]
        exact opened.index
      · show (Epoll.updateChannel connection.channel_.enableWriting).1.events_ =
          interestOf (connection.output_buffer_ ++ remaining)
        rw [registered, Channel.enableWriting, opened.events, interestOf_present present]
        rfl
      · show (Epoll.updateChannel connection.channel_.enableWriting).1.revents_ = _
        rw [registered]
        rfl

theorem sendInLoop_proceeds {msg : Bytes} (opened : connection.Open)
    (reads : connection.channel_.revents_.epollin = true) (input : connection.input_buffer_ = []) :
    Proceeds capacity streams (connection.doing [.sendInLoop msg, .writeCallback]) := by
  intro seen after made
  -- what is in hand before and after, when so much of the message is buffered
  have buffers (base : TcpConnection Unit) (remaining : Bytes) (call : ServerCall)
      (opened : base.Open) (kept : base.input_buffer_ = [])
      (same : base.output_buffer_ = connection.output_buffer_)
      (reported : base.channel_.revents_ = connection.channel_.revents_)
      (taken : call.taken = []) (moved : remaining.length + call.put.length = msg.length) :
      SoloStep capacity streams (connection.doing [.sendInLoop msg, .writeCallback])
        ((base.bufferRemaining remaining).goOn [.writeCallback]) call := by
    obtain ⟨buffered, goes, later, empty, output, revents⟩ := bufferRemaining_open opened remaining
    rw [goes]
    refine ⟨.writeCallback later.alone (empty.trans kept) fun unread => ?_, ?_, ?_⟩
    · have read : buffered.channel_.revents_.epollin = true := by rw [revents, reported, reads]
      cases read.symm.trans unread
    · show buffered.input_buffer_.length + 0 + (buffered.output_buffer_.length - 0) +
        call.put.length = connection.input_buffer_.length + msg.length +
          (connection.output_buffer_.length - 0) + call.taken.length
      rw [empty, kept, input, output, same, taken, List.length_append, List.length_nil]
      omega
    · show (if buffered.channel_.revents_.epollin then 11 else 3) + 1 ≤
        12 + 13 * call.taken.length + 8 * call.put.length
      rw [revents, reported, reads]
      show 11 + 1 ≤ _
      omega
  cases asked : connection.asks (.sendInLoop msg) with
  | false =>
    obtain ⟨rfl, outcome, executed, rfl⟩ := solo_unasked asked made.step
    have pending : connection.output_buffer_ ≠ [] := fun nothing => by
      simp [TcpConnection.asks, opened.state, nothing] at asked
    simp only [TcpConnection.execute, TcpConnection.sendInLoop, opened.state, ne_eq,
      not_true_eq_false, if_false, if_neg pending] at executed
    cases executed
    exact buffers _ msg .none ⟨opened.state, opened.index, opened.events⟩ input rfl rfl rfl rfl
  | true =>
    obtain ⟨result, rfl, outcome, executed, rfl⟩ := solo_asked asked made.step
    have nothing : connection.output_buffer_ = [] := by
      simpa [TcpConnection.asks, opened.state] using asked
    have succeeds : connection.call (.sendInLoop msg) result ≠ .fails := made.succeeds
    show SoloStep capacity streams _ _ (connection.call (.sendInLoop msg) result)
    simp only [TcpConnection.execute, TcpConnection.sendInLoop, opened.state, ne_eq,
      not_true_eq_false, if_false, if_pos nothing] at executed
    split at executed
    · rename_i sent
      split at executed <;> cases executed
      rename_i within
      refine buffers _ _ _ ⟨opened.state, opened.index, opened.events⟩ input rfl rfl rfl ?_
      show (msg.drop sent).length + (msg.take sent).length = msg.length
      rw [List.length_drop, List.length_take]
      omega
    · cases executed
      exact buffers _ msg _ ⟨opened.state, opened.index, opened.events⟩ input rfl rfl rfl rfl
    · exact absurd rfl succeeds
    · cases executed

theorem writeCallback_proceeds (opened : connection.Open) (input : connection.input_buffer_ = [])
    (writes : connection.channel_.revents_.epollin = false →
      connection.channel_.revents_.epollout = true ∧ Writable capacity streams connection) :
    Proceeds capacity streams (connection.doing [.writeCallback]) := by
  intro seen after made
  obtain ⟨rfl, outcome, executed, rfl⟩ := solo_unasked rfl made.step
  cases executed
  have opens : connection.state_ ≠ .kDisconnected := fun same => by
    cases opened.state.symm.trans same
  cases reported : connection.channel_.revents_.epollout with
  | true =>
    rw [goOn_connected opened.state]
    refine soloStep_quiet rfl rfl (.handleWrite opened.alone input fun unread => (writes unread).2)
      rfl ?_
    show (if connection.channel_.revents_.epollin then 10 else 2) + 1 ≤
      if connection.channel_.revents_.epollin then 11 else 3
    split <;> exact Nat.le_refl _
  | false =>
    rw [goOn_connected opened.state]
    have read : connection.channel_.revents_.epollin = true := by
      by_contra unread
      cases reported.symm.trans (writes (Bool.eq_false_iff.mpr unread)).1
    refine soloStep_quiet rfl rfl (.waiting opened.alone input) rfl ?_
    show (if connection.state_ = .kDisconnected then 0 else 6) + 1 ≤
      if connection.channel_.revents_.epollin then 11 else 3
    rw [if_neg opens, read]
    show 6 + 1 ≤ 11
    omega

/-- When `output_buffer_` is empty the connection is registered for EPOLLIN only. -/
theorem stopWriting_open (connection : TcpConnection Unit)
    (state : connection.state_ = .kConnected)
    (index : connection.channel_.index_ = 1)
    (nothing : connection.output_buffer_ = [])
    (events : ∃ output, connection.channel_.events_ = interestOf output) :
    ∃ stopped : TcpConnection Unit,
      (connection.stopWriting []).goOn [] = stopped.alone.doing [] ∧ stopped.Open ∧
      stopped.input_buffer_ = connection.input_buffer_ ∧ stopped.output_buffer_ = [] := by
  obtain ⟨output, events⟩ := events
  unfold TcpConnection.stopWriting
  split
  · have registered : (Epoll.updateChannel connection.channel_.disableWriting).1 =
        connection.channel_.disableWriting :=
      updateChannel_added index (congrArg Events.epollin events)
    refine ⟨_, goOn_connected state, ⟨state, ?_, ?_⟩, rfl, nothing⟩
    · show (Epoll.updateChannel connection.channel_.disableWriting).1.index_ = 1
      rw [registered]
      exact index
    · show (Epoll.updateChannel connection.channel_.disableWriting).1.events_ =
        interestOf connection.output_buffer_
      rw [registered, Channel.disableWriting, events, nothing]
      rfl
  · rename_i quiet
    refine ⟨_, goOn_connected state, ⟨state, index, ?_⟩, rfl, nothing⟩
    rw [Channel.isWriting, events] at quiet
    have empty : output = [] := of_not_not fun present => quiet (decide_eq_true present)
    show connection.channel_.events_ = interestOf connection.output_buffer_
    rw [events, empty, nothing]

theorem handleWrite_proceeds (opened : connection.Open) (input : connection.input_buffer_ = [])
    (writes : connection.channel_.revents_.epollin = false →
      Writable capacity streams connection) :
    Proceeds capacity streams (connection.doing [.handleWrite]) := by
  intro seen after made
  obtain ⟨rfl, outcome, executed, rfl⟩ := solo_unasked rfl made.step
  cases executed
  unfold TcpConnection.handleWrite
  split
  · rename_i nothing
    obtain ⟨stopped, goes, later, kept, output⟩ :=
      stopWriting_open connection opened.state opened.index nothing ⟨_, opened.events⟩
    have read : connection.channel_.revents_.epollin = true := by
      by_contra unread
      exact (writes (Bool.eq_false_iff.mpr unread)).2 nothing
    have opens : stopped.state_ ≠ .kDisconnected := fun same => by
      cases later.state.symm.trans same
    rw [goes]
    refine soloStep_quiet rfl rfl (.waiting later.alone (kept.trans input)) ?_ ?_
    · show stopped.input_buffer_.length + stopped.output_buffer_.length =
        connection.input_buffer_.length + 0 + (connection.output_buffer_.length - 0)
      rw [kept, output, nothing]
      rfl
    · show (if stopped.state_ = .kDisconnected then 0 else 6) + 1 ≤
        if connection.channel_.revents_.epollin then 10 else 2
      rw [if_neg opens, read]
      show 6 + 1 ≤ 10
      omega
  · rename_i present
    rw [goOn_connected opened.state]
    refine soloStep_quiet rfl rfl (.handleWriteLoop 0 opened.alone input present
      fun unread _ => (writes unread).1) rfl ?_
    show (if 0 < 0 then 8 else if connection.channel_.revents_.epollin then 9 else 1) + 1 ≤
      if connection.channel_.revents_.epollin then 10 else 2
    rw [if_neg (Nat.lt_irrefl 0)]
    split <;> exact Nat.le_refl _

theorem handleWriteLoop_proceeds {totalSent : Nat} (opened : connection.Open)
    (input : connection.input_buffer_ = []) (present : connection.output_buffer_ ≠ [])
    (room : connection.channel_.revents_.epollin = false → totalSent = 0 →
      streams.down.length < capacity) :
    Proceeds capacity streams
      (connection.doing [.handleWriteLoop totalSent connection.output_buffer_.length]) := by
  intro seen after made
  have some := List.length_pos_iff.mpr present
  cases asked : connection.asks (.handleWriteLoop totalSent connection.output_buffer_.length) with
  | false =>
    obtain ⟨rfl, outcome, executed, rfl⟩ := solo_unasked asked made.step
    have whole : ¬ totalSent < connection.output_buffer_.length := of_decide_eq_false asked
    simp only [TcpConnection.execute, TcpConnection.handleWriteLoop, if_neg whole] at executed
    cases executed
    rw [goOn_connected opened.state]
    refine soloStep_quiet rfl rfl (.handleWriteRest totalSent opened.alone input) rfl ?_
    show 7 + 1 ≤ if 0 < totalSent then 8 else _
    rw [if_pos (by omega)]
  | true =>
    obtain ⟨result, rfl, outcome, executed, rfl⟩ := solo_asked asked made.step
    have more : totalSent < connection.output_buffer_.length := of_decide_eq_true asked
    have permitted : streams.permits capacity
        (connection.call (.handleWriteLoop totalSent connection.output_buffer_.length) result) =
          true := made.permitted
    have succeeds :
        connection.call (.handleWriteLoop totalSent connection.output_buffer_.length) result ≠
          .fails := made.succeeds
    show SoloStep capacity streams _ _
      (connection.call (.handleWriteLoop totalSent connection.output_buffer_.length) result)
    simp only [TcpConnection.execute, TcpConnection.handleWriteLoop, if_pos more] at executed
    split at executed
    · rename_i sent
      have moves : ((connection.output_buffer_.drop totalSent).take sent).length =
          min sent (connection.output_buffer_.length - totalSent) := by
        rw [List.length_take, List.length_drop]
      have one := List.length_pos_iff.mpr (of_decide_eq_true permitted).1
      rw [moves] at one
      split at executed
      · omega
      · split at executed <;> cases executed
        rename_i fits
        rw [goOn_connected opened.state]
        refine ⟨.handleWriteLoop (totalSent + sent) ⟨opened.state, opened.index, opened.events⟩
          input present fun _ nothing => by omega, ?_, ?_⟩
        · show connection.input_buffer_.length + 0 +
            (connection.output_buffer_.length - (totalSent + sent)) +
            ((connection.output_buffer_.drop totalSent).take sent).length =
            connection.input_buffer_.length + 0 + (connection.output_buffer_.length - totalSent) + 0
          rw [moves]
          omega
        · show (if 0 < totalSent + sent then 8 else _) + 1 ≤
            (if 0 < totalSent then 8 else if connection.channel_.revents_.epollin then 9 else 1) +
              0 + 8 * ((connection.output_buffer_.drop totalSent).take sent).length
          rw [if_pos (by omega), moves]
          split
          · omega
          · split <;> omega
    · cases executed
      have full : capacity ≤ streams.down.length := of_decide_eq_true permitted
      rw [goOn_connected opened.state]
      refine soloStep_quiet rfl rfl (.handleWriteRest totalSent opened.alone input) rfl ?_
      show 7 + 1 ≤ if 0 < totalSent then 8 else
        if connection.channel_.revents_.epollin then 9 else 1
      split
      · exact Nat.le_refl _
      · rename_i none
        split
        · omega
        · rename_i unread
          have less := room (Bool.eq_false_iff.mpr unread) (by omega)
          omega
    · exact absurd rfl succeeds
    · cases executed

theorem handleWriteRest_proceeds {totalSent : Nat} (opened : connection.Open)
    (input : connection.input_buffer_ = []) :
    Proceeds capacity streams (connection.doing [.handleWriteRest totalSent]) := by
  intro seen after made
  obtain ⟨rfl, outcome, executed, rfl⟩ := solo_unasked rfl made.step
  cases executed
  have connected : connection.state_ ≠ .kDisconnecting := fun same => by
    cases opened.state.symm.trans same
  have opens : connection.state_ ≠ .kDisconnected := fun same => by
    cases opened.state.symm.trans same
  by_cases nothing : connection.output_buffer_.drop totalSent = []
  · have length : connection.output_buffer_.length - totalSent = 0 := by
      rw [← List.length_drop, nothing]
      rfl
    simp only [TcpConnection.handleWriteRest, if_pos nothing, if_neg connected]
    obtain ⟨stopped, goes, later, kept, output⟩ := stopWriting_open
      { connection with output_buffer_ := connection.output_buffer_.drop totalSent }
      opened.state opened.index nothing ⟨_, opened.events⟩
    have opens : stopped.state_ ≠ .kDisconnected := fun same => by
      cases later.state.symm.trans same
    rw [goes]
    refine soloStep_quiet rfl rfl (.waiting later.alone (kept.trans input)) ?_ ?_
    · show stopped.input_buffer_.length + stopped.output_buffer_.length =
        connection.input_buffer_.length + 0 + (connection.output_buffer_.length - totalSent)
      rw [kept, output, length]
      rfl
    · show (if stopped.state_ = .kDisconnected then 0 else 6) + 1 ≤ 7
      rw [if_neg opens]
  · have present : connection.output_buffer_ ≠ [] := fun empty => by
      rw [empty] at nothing
      exact nothing List.drop_nil
    have events : connection.channel_.events_ =
        interestOf (connection.output_buffer_.drop totalSent) := by
      rw [opened.events, interestOf_present present, interestOf_present nothing]
    simp only [TcpConnection.handleWriteRest, if_neg nothing]
    rw [goOn_connected (by exact opened.state)]
    refine soloStep_quiet rfl rfl (.waiting ⟨opened.state, opened.index, events⟩ input) ?_ ?_
    · show connection.input_buffer_.length + (connection.output_buffer_.drop totalSent).length =
        connection.input_buffer_.length + 0 + (connection.output_buffer_.length - totalSent)
      rw [List.length_drop, Nat.add_zero]
    · show (if connection.state_ = .kDisconnected then 0 else 6) + 1 ≤ 7
      rw [if_neg opens]

theorem handleClose_proceeds (state : connection.state_ = .kConnected)
    (ended : streams.ended = true) :
    Proceeds capacity streams (connection.doing [.handleClose, .writeCallback]) := by
  intro seen after made
  obtain ⟨rfl, outcome, executed, rfl⟩ := solo_unasked rfl made.step
  cases executed
  have opens : connection.state_ ≠ .kDisconnected := fun same => by
    cases state.symm.trans same
  rw [TcpConnection.handleClose, if_neg opens, goOn_connected state]
  exact soloStep_quiet rfl rfl (.handleCloseStore ended) rfl (Nat.le_refl _)

theorem handleCloseStore_proceeds (ended : streams.ended = true) :
    Proceeds capacity streams (connection.doing [.handleCloseStore, .writeCallback]) := by
  intro seen after made
  obtain ⟨rfl, outcome, executed, rfl⟩ := solo_unasked rfl made.step
  cases executed
  exact soloStep_quiet rfl rfl (.closed rfl ended) rfl (Nat.le_refl _)

theorem closed_proceeds (state : connection.state_ = .kDisconnected) :
    Proceeds capacity streams (connection.doing []) := by
  intro seen after made
  have step : Solo.step (connection.doing []) seen = some after := made.step
  cases seen with
  | none => cases step
  | some seen =>
    cases seen with
    | io result => cases step
    | mask revents =>
      simp [Solo.step, state] at step

/-- Whatever stage the connection is at, its next step does what a step does. -/
theorem solo_proceeds {statements : List Statement}
    (stage : SoloStage capacity streams connection statements) :
    Proceeds capacity streams (connection.doing statements) := by
  cases stage with
  | connectEstablishedInLoop accepted => exact accepted ▸ connectEstablished_proceeds
  | waiting opened input => exact waiting_proceeds opened input
  | errorCallback opened input reports => exact errorCallback_proceeds opened input reports
  | readCallback opened input reports => exact readCallback_proceeds opened input reports
  | handleRead opened reads more => exact handleRead_proceeds opened reads more
  | handleReadEcho opened reads present => exact handleReadEcho_proceeds opened reads present
  | send msg opened reads input present => exact send_proceeds opened reads input present
  | sendInLoop msg opened reads input => exact sendInLoop_proceeds opened reads input
  | writeCallback opened input writes => exact writeCallback_proceeds opened input writes
  | handleWrite opened input writes => exact handleWrite_proceeds opened input writes
  | handleWriteLoop totalSent opened input present room =>
    exact handleWriteLoop_proceeds opened input present room
  | handleWriteRest totalSent opened input => exact handleWriteRest_proceeds opened input
  | handleClose state ended => exact handleClose_proceeds state ended
  | handleCloseStore ended => exact handleCloseStore_proceeds ended
  | closed state ended => exact closed_proceeds state

/-- Once there is something to receive there goes on being. -/
theorem Streams.More.later {now : Streams} (more : streams.More) (later : streams.Later now) :
    now.More := by
  rcases more with some | ended
  · exact .inl fun nothing => some (List.prefix_nil.mp (nothing ▸ later.up))
  · exact .inr (later.ended ended)

/-- What the client does leaves the connection where it is. -/
theorem SoloStage.later {now : Streams} {statements : List Statement}
    (stage : SoloStage capacity streams connection statements) (later : streams.Later now) :
    SoloStage capacity now connection statements := by
  have less : now.down.length ≤ streams.down.length := later.down.length_le
  have writable (writable : Writable capacity streams connection) :
      Writable capacity now connection :=
    ⟨less.trans_lt writable.1, writable.2⟩
  have reported (reports : Reported capacity streams connection) :
      Reported capacity now connection :=
    ⟨reports.epollerr, reports.epollhup, fun reads => (reports.epollin reads).later later,
      fun writes => writable (reports.epollout writes), reports.some⟩
  cases stage with
  | connectEstablishedInLoop accepted => exact .connectEstablishedInLoop accepted
  | waiting opened input => exact .waiting opened input
  | errorCallback opened input reports => exact .errorCallback opened input (reported reports)
  | readCallback opened input reports => exact .readCallback opened input (reported reports)
  | handleRead opened reads more =>
    exact .handleRead opened reads fun nothing => (more nothing).later later
  | handleReadEcho opened reads present => exact .handleReadEcho opened reads present
  | send msg opened reads input present => exact .send msg opened reads input present
  | sendInLoop msg opened reads input present =>
    exact .sendInLoop msg opened reads input present
  | writeCallback opened input writes =>
    exact .writeCallback opened input fun unread => (writes unread).imp id writable
  | handleWrite opened input writes =>
    exact .handleWrite opened input fun unread => writable (writes unread)
  | handleWriteLoop totalSent opened input present room =>
    exact .handleWriteLoop totalSent opened input present fun unread none =>
      less.trans_lt (room unread none)
  | handleWriteRest totalSent opened input => exact .handleWriteRest totalSent opened input
  | handleClose state ended => exact .handleClose state (later.ended ended)
  | handleCloseStore ended => exact .handleCloseStore (later.ended ended)
  | closed state ended => exact .closed state (later.ended ended)

end Stages

/-! ### It is an echo service -/

/-- A connection of the reactor server sends back what it receives. -/
def reactorService (capacity : Nat) : EchoService capacity where
  toConnectionServer := reactorServer
  bytes := Solo.bytes
  bytes_start := rfl
  bytes_step step := solo_bytes step
  Sound solo streams := SoloStage capacity streams solo.connection solo.statements
  sound_start := .connectEstablishedInLoop rfl
  sound_step stage made := (solo_proceeds stage _ _ made).stage
  sound_later stage later := stage.later later
  held := Solo.held
  held_start := rfl
  held_step stage made := (solo_proceeds stage _ _ made).held
  cost solo := solo.remaining + 9 * solo.held
  rate := 22
  cost_step {streams solo seen after} stage made := by
    have step : SoloStep capacity streams solo after (solo.call seen) :=
      solo_proceeds stage _ _ made
    obtain ⟨-, held, remaining⟩ := step
    show after.remaining + 9 * after.held + 1 + (solo.call seen).put.length ≤
      solo.remaining + 9 * solo.held + 22 * (solo.call seen).taken.length
    omega

/-- EPOLLIN is reported, and the connection takes in and sends one byte, with this result. -/
def readsOne (result : IoResult) : List (SessionEvent Unit (Option Seen)) :=
  [.server (some (.mask
      { epollin := true, epollout := false, epollerr := false, epollhup := false })),
    .server none, .server none, .server (some (.io (.recv (.data [65])))),
    .server (some (.io (.recv .again))), .server none, .server none,
    .server (if result = .none then none else some (.io result)), .server none]

/-- A round with a message of one byte. -/
def oneRound : List (SessionEvent Unit (Option Seen)) :=
  [.client false .none, .client false (.sent 1), .client false .none] ++
    readsOne (.send (.count 1)) ++
    [.client false (.received [65]), .client false .none, .client false .none,
      .client false .none, .client false .none, .client false (.elapsed ())]

/-- The response to the second request, compared by a client that has been sent the first. -/
theorem response_matches_second : ∃ session : EchoSession Unit Solo,
    session.client.local_latencies.length = 1 ∧ session.client.response = request 1 := by
  obtain ⟨session, reachable, place, once⟩ : ∃ session : EchoSession Unit Solo,
      Reachable (EchoSession.system Unit
        { message_size := 1, upCapacity := 1, downCapacity := 1 } reactorServer) session ∧
      session.client.place = .compare ∧ session.client.local_latencies.length = 1 :=
    exists_of_replay rfl (.server none :: oneRound ++ oneRound.take 14) (by decide)
  exact ⟨session, once, response_matches { message_size := 1, upCapacity := 1, downCapacity := 1 }
    (reactorService 1) reachable place⟩

/-- A run of two rounds, of which the bound leaves most to spare. -/
theorem session_bounded_two :
    ∃ run : Recorded (EchoSession Unit Solo) (SessionEvent Unit (Option Seen)),
      run.past.length = 37 ∧ run.now.client.local_latencies.length = 2 ∧
      37 ≤ (SessionSetup.round { message_size := 1, upCapacity := 1, downCapacity := 1 } 22) * 3 +
        7 := by
  obtain ⟨run, reachable, length, rounds⟩ :
      ∃ run : Recorded (EchoSession Unit Solo) (SessionEvent Unit (Option Seen)),
        ReachableBy (EchoSession.system Unit
          { message_size := 1, upCapacity := 1, downCapacity := 1 } reactorServer).recorded
          (fun run event => nothingFails reactorServer run.now event) run ∧
        run.past.length = 37 ∧ run.now.client.local_latencies.length = 2 :=
    exists_of_replay (initial_recorded rfl) (.server none :: oneRound ++ oneRound) (by decide)
  have bounded : run.past.length ≤
      (SessionSetup.round { message_size := 1, upCapacity := 1, downCapacity := 1 } 22) *
        (run.now.client.local_latencies.length + 1) + 7 :=
    session_bounded { message_size := 1, upCapacity := 1, downCapacity := 1 } (reactorService 1)
      reachable
  rw [length, rounds] at bounded
  exact ⟨run, length, rounds, bounded⟩

/-! ### It never blocks -/

section Blocking

variable {Latency : Type} {setup : SessionSetup} {session : EchoSession Latency Solo}

/-- Of a connection that cannot move, what is next under way cannot be executed. -/
theorem stuck_executes (stuck : session.Stuck setup reactorServer) {body : Statement}
    {rest : List Statement} (statements : session.server.statements = body :: rest)
    (unasked : session.server.connection.asks body = false) :
    session.server.connection.execute body .none = none := by
  have blocked : session.server.step none = none :=
    stuck.server reactorServer none rfl (fun same => by cases same) rfl
  simpa [Solo.step, statements, unasked] using blocked

/-- Nor with any result that its call could return. -/
theorem stuck_asks (stuck : session.Stuck setup reactorServer) {body : Statement}
    {rest : List Statement} (statements : session.server.statements = body :: rest)
    (asked : session.server.connection.asks body = true) (result : IoResult)
    (succeeds : session.server.connection.call body result ≠ .fails)
    (may : session.streams.permits setup.downCapacity
      (session.server.connection.call body result) = true) :
    session.server.connection.execute body result = none := by
  have call : reactorServer.call session.server (some (.io result)) =
      session.server.connection.call body result := by
    simp only [Solo.call, statements]
  have blocked : session.server.step (some (.io result)) = none :=
    stuck.server reactorServer _ call succeeds may
  simpa [Solo.step, statements, asked] using blocked

/-- A waiting connection that cannot move has nothing reported. -/
theorem waiting_waits (stuck : session.Stuck setup reactorServer) (down : 0 < setup.downCapacity)
    (statements : session.server.statements = []) (opened : session.server.connection.Open)
    (input : session.server.connection.input_buffer_ = []) :
    session.up = [] ∧ (session.server.held = 0 ∨ session.down ≠ []) := by
  have registered : session.server.connection.channel_.registered.getD .none =
      interestOf session.server.connection.output_buffer_ := by
    rw [Channel.registered, if_pos opened.index, opened.events]
    rfl
  have quiet (reads writes : Bool) (some : reads = true ∨ writes = true)
      (same : session.streams.reports setup.downCapacity
        (interestOf session.server.connection.output_buffer_)
        { epollin := reads, epollout := writes, epollerr := false, epollhup := false } = true) :
      False := by
    have call : reactorServer.call session.server (Option.some (.mask
          { epollin := reads, epollout := writes, epollerr := false, epollhup := false })) =
        .epoll_wait (interestOf session.server.connection.output_buffer_)
          { epollin := reads, epollout := writes, epollerr := false, epollhup := false } := by
      rw [← registered]
      rfl
    have blocked : session.server.step (Option.some (.mask
        { epollin := reads, epollout := writes, epollerr := false, epollhup := false })) = none :=
      stuck.server reactorServer _ call (fun same => by cases same) (decide_eq_true ⟨same, some⟩)
    simp [Solo.step, statements, opened.state] at blocked
  -- the least that may be reported
  let writes := (interestOf session.server.connection.output_buffer_).epollout &&
    decide (session.down = [])
  have reports : session.streams.reports setup.downCapacity
      (interestOf session.server.connection.output_buffer_)
      { epollin := session.up ≠ [] || session.streams.ended, epollout := writes,
        epollerr := false, epollhup := false } = true := by
    refine decide_eq_true ⟨rfl, fun reported => ?_, fun asked nothing _ => ?_, rfl, rfl⟩
    · obtain ⟨asked, nothing⟩ := Bool.and_eq_true_iff.mp reported
      refine ⟨asked, ?_⟩
      show session.down.length < setup.downCapacity
      rw [of_decide_eq_true nothing]
      exact down
    · exact Bool.and_eq_true_iff.mpr ⟨asked, decide_eq_true nothing⟩
  constructor
  · by_contra present
    exact quiet _ _ (.inl (Bool.or_eq_true_iff.mpr (.inl (decide_eq_true present)))) reports
  · by_contra both
    obtain ⟨holds, nothing⟩ := not_or.mp both
    have present : session.server.connection.output_buffer_ ≠ [] := fun nothing => holds (by
      simp only [Solo.held, statements, input, nothing, List.length_nil])
    exact quiet _ _ (.inr (Bool.and_eq_true_iff.mpr
      ⟨decide_eq_true present, decide_eq_true (not_not.mp nothing)⟩)) reports

/-- A connection that cannot move waits, has received whatever there was, and has nothing to send or
sees the client with something to receive. -/
theorem reactor_waits (stuck : session.Stuck setup reactorServer) (down : 0 < setup.downCapacity)
    (stage : SoloStage setup.downCapacity session.streams session.server.connection
      session.server.statements) :
    session.up = [] ∧ (session.server.held = 0 ∨ session.down ≠ []) := by
  have running : session.streams.ended = false := decide_eq_false stuck.1
  have unended (ended : session.streams.ended = true) : False := by
    cases running.symm.trans ended
  have idle {body : Statement} {rest : List Statement} {outcome : Outcome Unit}
      (statements : session.server.statements = body :: rest)
      (unasked : session.server.connection.asks body = false)
      (executes : session.server.connection.execute body .none = some outcome) : False := by
    cases executes.symm.trans (stuck_executes stuck statements unasked)
  -- a byte can be sent where there is one and room for it
  have sends (msg : Bytes) (present : msg ≠ []) (room : session.down.length < setup.downCapacity) :
      session.streams.permits setup.downCapacity (.send (msg.take 1)) = true := by
    obtain ⟨byte, more, rfl⟩ := List.exists_cons_of_ne_nil present
    exact decide_eq_true ⟨List.cons_ne_nil byte [], Nat.succ_le_of_lt room⟩
  generalize statements : session.server.statements = under at stage
  cases stage with
  | waiting opened input => exact waiting_waits stuck down statements opened input
  | closed state ended => exact (unended ended).elim
  | handleCloseStore ended => exact (unended ended).elim
  | handleClose state ended => exact (unended ended).elim
  | connectEstablishedInLoop | errorCallback | readCallback | handleReadEcho | send | writeCallback
  | handleWrite | handleWriteRest => exact (idle statements rfl rfl).elim
  | handleRead opened reads more =>
    by_cases empty : session.up = []
    · have again := stuck_asks stuck statements rfl (.recv .again) (fun same => by cases same)
        (decide_eq_true ⟨empty, by rw [running]; rfl⟩)
      cases again
    · obtain ⟨byte, rest, there⟩ := List.exists_cons_of_ne_nil empty
      have data := stuck_asks stuck statements rfl (.recv (.data [byte]))
        (fun same => by cases same)
        (decide_eq_true ⟨List.cons_ne_nil byte [], by rw [EchoSession.streams, there]; rfl⟩)
      have fits : [byte] ≠ [] ∧ [byte].length ≤ recvSize :=
        ⟨List.cons_ne_nil byte [], Nat.le_add_left 1 _⟩
      simp only [TcpConnection.execute, TcpConnection.handleRead, if_pos fits] at data
      cases data
  | sendInLoop msg opened reads input present =>
    exfalso
    have some := List.length_pos_iff.mpr present
    by_cases nothing : session.server.connection.output_buffer_ = []
    · have asked : session.server.connection.asks (.sendInLoop msg) = true := by
        simp [TcpConnection.asks, opened.state, nothing]
      by_cases room : session.down.length < setup.downCapacity
      · have count := stuck_asks stuck statements asked (.send (.count 1))
          (fun same => by cases same) (sends msg present room)
        simp only [TcpConnection.execute, TcpConnection.sendInLoop, opened.state, ne_eq,
          not_true_eq_false, if_false, if_pos nothing, if_pos (Nat.succ_le_of_lt some)] at count
        cases count
      · have again := stuck_asks stuck statements asked (.send .again) (fun same => by cases same)
          (decide_eq_true (Nat.le_of_not_lt room))
        simp only [TcpConnection.execute, TcpConnection.sendInLoop, opened.state, ne_eq,
          not_true_eq_false, if_false, if_pos nothing] at again
        cases again
    · have unasked : session.server.connection.asks (.sendInLoop msg) = false := by
        simp [TcpConnection.asks, nothing]
      have buffers := stuck_executes stuck statements unasked
      simp only [TcpConnection.execute, TcpConnection.sendInLoop, opened.state, ne_eq,
        not_true_eq_false, if_false, if_neg nothing] at buffers
      cases buffers
  | handleWriteLoop totalSent opened input present room =>
    exfalso
    by_cases more : totalSent < session.server.connection.output_buffer_.length
    · have left : session.server.connection.output_buffer_.drop totalSent ≠ [] := by
        refine List.length_pos_iff.mp ?_
        rw [List.length_drop]
        omega
      have asked : session.server.connection.asks (.handleWriteLoop totalSent
        session.server.connection.output_buffer_.length) = true := decide_eq_true more
      by_cases free : session.down.length < setup.downCapacity
      · have count := stuck_asks stuck statements asked (.send (.count 1))
          (fun same => by cases same) (sends _ left free)
        have one : 1 ≤ session.server.connection.output_buffer_.length - totalSent := by omega
        simp only [TcpConnection.execute, TcpConnection.handleWriteLoop, if_pos more,
          if_neg Nat.one_ne_zero, if_pos one] at count
        cases count
      · have again := stuck_asks stuck statements asked (.send .again) (fun same => by cases same)
          (decide_eq_true (Nat.le_of_not_lt free))
        simp only [TcpConnection.execute, TcpConnection.handleWriteLoop, if_pos more] at again
        cases again
    · have rest := stuck_executes stuck statements (decide_eq_false more)
      simp only [TcpConnection.execute, TcpConnection.handleWriteLoop, if_neg more] at rest
      cases rest

/-- Against the reactor server the client is never blocked for good: in every state that a run
without failures can come to, one of the two can move until the client has returned, whatever the
size of its message. -/
theorem reactor_never_blocks [Nonempty Latency] (up : 0 < setup.upCapacity)
    (down : 0 < setup.downCapacity)
    (reachable : ReachableBy (EchoSession.system Latency setup reactorServer)
      (nothingFails reactorServer) session) : ¬ session.Stuck setup reactorServer := by
  intro stuck
  have unbroken := reachable_unbroken (reactorService setup.downCapacity) reachable
  obtain ⟨empty, waits⟩ := reactor_waits stuck down unbroken.server
  obtain ⟨full, -⟩ := stuck.sending (reactorService setup.downCapacity) reachable
    (waits.imp_left fun held => ⟨empty, held⟩)
  rw [empty, List.length_nil] at full
  omega

/-- Four bytes over buffers of one byte each: the client sends them all, where a blocking server
would have stopped at three. -/
theorem reactor_never_blocks_four : ∃ session : EchoSession Unit Solo,
    session.client.place = .sendFull 4 ∧ session.down = [65] ∧
      ¬ session.Stuck { message_size := 4, upCapacity := 1, downCapacity := 1 } reactorServer := by
  obtain ⟨session, reachable, place, full⟩ : ∃ session : EchoSession Unit Solo,
      ReachableBy (EchoSession.system Unit
        { message_size := 4, upCapacity := 1, downCapacity := 1 } reactorServer)
        (nothingFails reactorServer) session ∧
      session.client.place = .sendFull 4 ∧ session.down = [65] :=
    exists_of_replay rfl (
      [.client false .none, .client false (.sent 1), .server none] ++ readsOne (.send (.count 1)) ++
      [.client false (.sent 1)] ++ readsOne (.send .again) ++
      [.client false (.sent 1)] ++ readsOne .none ++
      [.client false (.sent 1)]) (by decide)
  exact ⟨session, place, full, reactor_never_blocks (by decide) (by decide) reachable⟩

end Blocking

end MultiReactor
