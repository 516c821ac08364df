/-
This file is about what a connection receives. `handleRead` collects what
`recv` returns in `input_buffer_` and passes it to `send` when `recv` has
nothing more. The receive loop has two more exits, at the end of the stream and
at an error, and these close the connection without a look at the buffer. So at
the end of the stream everything received has been echoed exactly when the
results of `recv` do not run from data straight into it.
-/

import MultiReactor.Confinement
import MultiReactor.Quiescence

namespace MultiReactor

open Transition

variable {subLoops : Nat} {User Loop : Type}

/-! ### What has been received and echoed -/

def Occurrence.recvResult : Occurrence → List RecvResult
  | .received result => [result]
  | _ => []

/-- The message passed to `send`, if the connection was connected. -/
def Occurrence.echo : Occurrence → Bytes
  | .echoed .kConnected msg => msg
  | _ => []

def RecvResult.bytes : RecvResult → Bytes
  | .data bytes => bytes
  | _ => []

def RecvResult.isData : RecvResult → Bool
  | .data _ => true
  | _ => false

/-- The results of `recv` on a connection, in order. -/
def TcpConnection.received (connection : TcpConnection Loop) : List RecvResult :=
  connection.history.flatMap Occurrence.recvResult

def TcpConnection.receivedBytes (connection : TcpConnection Loop) : Bytes :=
  connection.received.flatMap RecvResult.bytes

/-- What `handleRead` has passed to `send` while the connection was connected. -/
def TcpConnection.echoedBytes (connection : TcpConnection Loop) : Bytes :=
  connection.history.flatMap Occurrence.echo

/-- The last `recv` returned data. -/
def TcpConnection.endsInData (connection : TcpConnection Loop) : Bool :=
  connection.received.getLast?.any RecvResult.isData

/-- Neither `forceClose` nor `handleClose` has stored its state. -/
def StateE.opened : StateE → Bool
  | .kConnecting => true
  | .kConnected => true
  | _ => false

theorem connected_of_opened {state : StateE} (opened : state.opened = true)
    (past : state ≠ .kConnecting) : state = .kConnected := by
  cases state <;> first | rfl | exact absurd rfl past | cases opened

@[simp] theorem received_record (connection : TcpConnection Loop) (occurrence : Occurrence) :
    (connection.record occurrence).received =
      connection.received ++ occurrence.recvResult := by
  rw [TcpConnection.received, TcpConnection.record, List.flatMap_append, List.flatMap_singleton]
  rfl

@[simp] theorem echoedBytes_record (connection : TcpConnection Loop) (occurrence : Occurrence) :
    (connection.record occurrence).echoedBytes =
      connection.echoedBytes ++ occurrence.echo := by
  rw [TcpConnection.echoedBytes, TcpConnection.record, List.flatMap_append, List.flatMap_singleton]
  rfl

theorem received_echoed (connection : TcpConnection Loop) (seen : StateE) (msg : Bytes) :
    (connection.record (.echoed seen msg)).received = connection.received :=
  (received_record ..).trans (List.append_nil _)

@[simp] theorem receivedBytes_received (connection : TcpConnection Loop) (result : RecvResult) :
    (connection.record (.received result)).receivedBytes =
      connection.receivedBytes ++ result.bytes := by
  rw [TcpConnection.receivedBytes, received_record, List.flatMap_append]
  exact congrArg _ (List.flatMap_singleton ..)

@[simp] theorem endsInData_received (connection : TcpConnection Loop) (result : RecvResult) :
    (connection.record (.received result)).endsInData = result.isData := by
  rw [TcpConnection.endsInData, received_record]
  exact congrArg (Option.any RecvResult.isData) List.getLast?_concat

/-- Nothing has been received or echoed in between. -/
structure SameReads (now connection : TcpConnection Loop) : Prop where
  received : now.received = connection.received
  echoed : now.echoedBytes = connection.echoedBytes
  input : now.input_buffer_ = connection.input_buffer_

/-- A view of the history that sees nothing of what a statement can record. -/
theorem Executes.unseen {connection : TcpConnection Loop} {body : Statement} {io : IoResult}
    {outcome : Outcome Loop} (executes : Executes connection body io outcome) {View : Type}
    {view : Occurrence → List View}
    (blind : ∀ occurrence, body.records occurrence = true → view occurrence = []) :
    outcome.connection.history.flatMap view = connection.history.flatMap view := by
  obtain ⟨happened, history, records⟩ := executes.records
  rw [history, List.flatMap_append, List.append_right_eq_self]
  exact List.flatMap_eq_nil_iff.mpr fun occurrence member => blind _ (records occurrence member)

/-- Only `handleRead` echoes. -/
theorem Executes.echoed {connection : TcpConnection Loop} {body : Statement} {io : IoResult}
    {outcome : Outcome Loop} (executes : Executes connection body io outcome)
    (notEcho : body ≠ .handleReadEcho) :
    outcome.connection.echoedBytes = connection.echoedBytes := by
  refine executes.unseen fun occurrence recorded => ?_
  cases occurrence with
  | echoed seen msg => cases body <;> first | exact absurd rfl notEcho | cases recorded
  | _ => rfl

/-- Only `handleRead` receives and echoes. -/
theorem Executes.reads {connection : TcpConnection Loop} {body : Statement} {io : IoResult}
    {outcome : Outcome Loop} (executes : Executes connection body io outcome)
    (notHead : body ≠ .handleRead) (notEcho : body ≠ .handleReadEcho) :
    SameReads outcome.connection connection := by
  refine ⟨executes.unseen fun occurrence recorded => ?_, executes.echoed notEcho, ?_⟩
  · cases occurrence with
    | received result => cases body <;> first | exact absurd rfl notHead | cases recorded
    | _ => rfl
  · have buffered (base : TcpConnection Loop) (remaining : Bytes) :
        (base.bufferRemaining remaining).connection.input_buffer_ = base.input_buffer_ := by
      obtain ⟨channel, ctl, equal, -⟩ := bufferRemaining_eq base remaining
      rw [equal]
    have stopped (base : TcpConnection Loop) (next : List Next) :
        (base.stopWriting next).connection.input_buffer_ = base.input_buffer_ := by
      obtain ⟨channel, ctl, equal, -⟩ := stopWriting_eq base next
      rw [equal]
    cases executes with
    | sendInLoopDirect | sendInLoopBlocked | sendInLoopQueued => exact buffered _ _
    | handleWriteNothing | handleWriteDrained => exact stopped _ _
    | handleReadData | handleReadEof | handleReadAgain | handleReadError => exact absurd rfl notHead
    | handleReadEcho | handleReadNothing => exact absurd rfl notEcho
    | _ => rfl

/-! ### The invariant -/

/-- A `handleRead` in progress, and the close it has turned to. -/
def Task.receiving : Task → Bool
  | .statement .handleRead => true
  | .statement .handleReadEcho => true
  | .statement .handleClose => true
  | .statement .handleCloseStore => true
  | _ => false

/-- The head of the receive loop. -/
def Task.reading : Task → Bool
  | .statement .handleRead => true
  | _ => false

/-- `handleRead` after its loop. -/
def Task.echoing : Task → Bool
  | .statement .handleReadEcho => true
  | _ => false

theorem receiving_inHand (task : Task) (receiving : task.receiving = true) :
    task.inHand = true := by
  rcases task with body | _ | _ | _ <;> first | cases receiving | skip
  cases body <;> first | rfl | cases receiving

/-- What an open connection has received is what it has echoed and what waits in `input_buffer_`,
which is empty outside of `handleRead`. -/
structure Receiving (connection : TcpConnection (LoopId subLoops))
    (count : (Task → Bool) → Nat) : Prop where
  echoed : connection.receivedBytes = connection.echoedBytes ++ connection.input_buffer_
  idle : count Task.receiving = 0 →
    connection.input_buffer_ = [] ∧ connection.endsInData = false
  head : 0 < count Task.reading →
    (connection.input_buffer_ = [] ↔ connection.endsInData = false)
  tail : 0 < count Task.echoing → connection.endsInData = false

/-- The task of a loop's statement is all that is in hand while the statement is executed. -/
def Alone (body : Statement) (count : (Task → Bool) → Nat) : Prop :=
  body.inLoop = true → ∀ kind : Task → Bool, (∀ task, kind task = true → task.inHand = true) →
    count kind = [Task.statement body].countP kind

section Receiving

variable {connection now : TcpConnection (LoopId subLoops)} {stored storedNow held : Nat}
  {count countNow : (Task → Bool) → Nat} {used left : List Task}

/-- A connection with an empty buffer that has not received data last is fit for whatever is in
hand. -/
theorem Receiving.of_empty (echoed : connection.receivedBytes = connection.echoedBytes)
    (empty : connection.input_buffer_ = []) (last : connection.endsInData = false) :
    Receiving connection count where
  echoed := by rw [empty, List.append_nil, echoed]
  idle _ := ⟨empty, last⟩
  head _ := iff_of_true empty last
  tail _ := last

/-- `recv` ends the receive loop. -/
theorem Receiving.leave (receiving : Receiving connection count) {result : RecvResult}
    (ends : result.isData = false) (lasts : 0 < countNow Task.receiving)
    (left : countNow Task.reading = 0) :
    Receiving (connection.record (.received result)) countNow where
  echoed := by
    have none : result.bytes = [] := by
      cases result <;> first | rfl | cases ends
    rw [receivedBytes_received, echoedBytes_record, none, List.append_nil]
    rw [show (Occurrence.received result).echo = [] from rfl, List.append_nil]
    exact receiving.echoed
  idle none := absurd none lasts.ne'
  head outstanding := absurd left outstanding.ne'
  tail _ := (endsInData_received ..).trans ends

/-- A turn that receives and echoes nothing and begins no `handleRead`. -/
theorem Receiving.keep (receiving : Receiving connection count)
    (exchange : Exchanges count countNow used left) (same : SameReads now connection)
    (lasts : used.countP Task.receiving ≤ left.countP Task.receiving)
    (begins : left.countP Task.reading = 0 ∧ left.countP Task.echoing = 0) :
    Receiving now countNow where
  echoed := by
    rw [TcpConnection.receivedBytes, same.received, same.echoed, same.input]
    exact receiving.echoed
  idle none := by
    have change := exchange Task.receiving
    rw [TcpConnection.endsInData, same.received, same.input]
    exact receiving.idle (by omega)
  head outstanding := by
    have change := exchange Task.reading
    have fresh := begins.1
    rw [TcpConnection.endsInData, same.received, same.input]
    exact receiving.head (by omega)
  tail outstanding := by
    have change := exchange Task.echoing
    have fresh := begins.2
    rw [TcpConnection.endsInData, same.received]
    exact receiving.tail (by omega)

/-- What a statement of the loop leaves is all that is in hand afterwards. -/
theorem Alone.next {body : Statement} (alone : Alone body count)
    (exchange : Exchanges count countNow [.statement body] left) (inLoop : body.inLoop = true)
    {kind : Task → Bool} (inHand : ∀ task, kind task = true → task.inHand = true) :
    countNow kind = left.countP kind := by
  have change := (exchange kind).2
  have before := alone inLoop kind inHand
  omega

theorem reading_inHand (task : Task) (reading : task.reading = true) : task.inHand = true := by
  rcases task with body | _ | _ | _ <;> first | cases reading | skip
  cases body <;> first | rfl | cases reading

theorem echoing_inHand (task : Task) (echoing : task.echoing = true) : task.inHand = true := by
  rcases task with body | _ | _ | _ <;> first | cases echoing | skip
  cases body <;> first | rfl | cases echoing

/-- A statement that leaves a connection open has found it open. -/
theorem Executes.opened {body : Statement} {io : IoResult} {outcome : Outcome (LoopId subLoops)}
    (executes : Executes connection body io outcome) (lively : Lively connection stored count)
    (exchange : Exchanges count countNow [.statement body] left)
    (opened : outcome.connection.state_.opened = true) : connection.state_.opened = true := by
  rw [executes.state] at opened
  cases body with
  | connectEstablishedInLoop =>
    rw [lively.used_establishing exchange Nat.one_pos]
    rfl
  | connectDestroyedInLoopStore => cases opened
  | forceCloseStore => cases opened
  | handleCloseStore => cases opened
  | _ => exact opened

/-- Executing a statement keeps the invariant. -/
theorem Receiving.statement {body : Statement} {io : IoResult} {outcome : Outcome (LoopId subLoops)}
    (receiving : connection.state_.opened = true → Receiving connection count)
    (lively : Lively connection stored count) (alone : Alone body count)
    (executes : Executes connection body io outcome)
    (exchange : Exchanges count countNow [.statement body] (outcome.next.filterMap Next.task))
    (opened : outcome.connection.state_.opened = true) : Receiving outcome.connection countNow := by
  have wasOpened := executes.opened lively exchange opened
  have before := receiving wasOpened
  have same : body ≠ .handleRead → body ≠ .handleReadEcho →
    SameReads outcome.connection connection := executes.reads
  have outstanding {kind : Task → Bool} (isKind : kind (.statement body) = true) :
      0 < count kind := by
    have held := (exchange kind).1
    rw [List.countP_singleton, if_pos isKind] at held
    exact held
  cases executes with
  | readCallback io masked =>
    obtain ⟨empty, last⟩ := before.idle (alone rfl _ receiving_inHand)
    exact .of_empty (by simpa [empty] using before.echoed) empty last
  | handleReadData bytes nonempty bounded =>
    refine ⟨?_, fun none => ?_, fun _ => ?_, fun echoing => ?_⟩
    · rw [yields_connection, receivedBytes_received, echoedBytes_record]
      show connection.receivedBytes ++ bytes =
        connection.echoedBytes ++ [] ++ (connection.input_buffer_ ++ bytes)
      rw [before.echoed, List.append_nil, List.append_assoc]
    · rw [alone.next exchange rfl receiving_inHand] at none
      cases none
    · rw [yields_connection, endsInData_received]
      exact iff_of_false (fun empty => nonempty (List.append_eq_nil_iff.mp empty).2) nofun
    · rw [alone.next exchange rfl echoing_inHand] at echoing
      cases echoing
  | handleReadEof | handleReadAgain | handleReadError =>
    exact before.leave rfl ((alone.next exchange rfl receiving_inHand).symm ▸ Nat.one_pos)
      (alone.next exchange rfl reading_inHand)
  | handleReadEcho io nonempty =>
    have connected : connection.state_ = .kConnected :=
      connected_of_opened wasOpened (lively.used_past exchange Nat.one_pos)
    have received := received_echoed { connection with input_buffer_ := [] } connection.state_
      connection.input_buffer_
    refine .of_empty ?_ rfl ?_
    · rw [yields_connection, TcpConnection.receivedBytes, received, echoedBytes_record, connected]
      exact before.echoed
    · rw [yields_connection, TcpConnection.endsInData, received]
      exact before.tail (outstanding rfl)
  | handleReadNothing io empty =>
    exact .of_empty (by simpa [empty] using before.echoed) empty (before.tail (outstanding rfl))
  | sendInLoopDirect | sendInLoopBlocked | sendInLoopQueued =>
    rw [bufferRemaining_next] at exchange
    exact before.keep exchange (same nofun nofun) (Nat.zero_le _) ⟨rfl, rfl⟩
  | handleWriteNothing io empty =>
    rw [stopWriting_next] at exchange
    exact before.keep exchange (same nofun nofun) (Nat.zero_le _) ⟨rfl, rfl⟩
  | handleWriteDrained totalSent io drained =>
    rw [stopWriting_next] at exchange
    refine before.keep exchange (same nofun nofun) (Nat.zero_le _) ?_
    split <;> exact ⟨rfl, rfl⟩
  | handleClose => exact before.keep exchange (same nofun nofun) (Nat.le_refl 1) ⟨rfl, rfl⟩
  | handleCloseSkipped io closed =>
    rw [closed] at wasOpened
    cases wasOpened
  | handleCloseStore io => cases opened
  | _ => exact before.keep exchange (same nofun nofun) (Nat.zero_le _) ⟨rfl, rfl⟩

/-- Every turn keeps the invariant. -/
theorem Receiving.turn {machine : ServerMachine subLoops User} {c : ConnectionId}
    {event : ServerEvent subLoops User}
    (receiving : connection.state_.opened = true → Receiving connection count)
    (lively : Lively connection held count)
    (alone : ∀ thread body rest, machine.stack thread = .call (.code (.connection c body)) :: rest →
      Alone body count)
    (turn : Turn machine c event connection stored now storedNow used left)
    (exchange : Exchanges count countNow used left) (opened : now.state_.opened = true) :
    Receiving now countNow := by
  cases turn with
  | statement thread input body rest connection stored outcome top alive executes =>
    exact .statement receiving lively (alone thread body rest top) executes exchange opened
  | requested t call connection stored body made =>
    rcases target_cases made with rfl | ⟨msg, rfl⟩ <;>
      exact (receiving opened).keep exchange ⟨rfl, rfl, rfl⟩ (Nat.zero_le _) ⟨rfl, rfl⟩
  | dropped event connection stored alive =>
    exact (receiving opened).keep exchange
      ⟨drop_unseen connection rfl, drop_unseen connection rfl, rfl⟩ (Nat.zero_le _) ⟨rfl, rfl⟩
  | _ => exact (receiving opened).keep exchange ⟨rfl, rfl, rfl⟩ (Nat.zero_le _) ⟨rfl, rfl⟩

end Receiving

/-! ### Runs -/

section Reachable

variable [DecidableEq User] [Fintype User] {listenFd : Nat} {openFds : Nat → Bool}
  {machine : ServerMachine subLoops User} {c : ConnectionId}

theorem reachable_alone
    (reachable : Reachable (TcpServer.system subLoops User listenFd openFds) machine)
    {thread : Thread (LoopId subLoops) User} {body : Statement}
    {rest : List (Instruction (LoopId subLoops) Functor ServerCode)}
    (top : machine.stack thread = .call (.code (.connection c body)) :: rest) :
    Alone body (pending c machine) :=
  fun inLoop _ inHand => reachable_hand_top reachable top inLoop inHand

theorem reachable_receiving
    (reachable : Reachable (TcpServer.system subLoops User listenFd openFds) machine)
    {connection : TcpConnection (LoopId subLoops)} (found : machine.world.find c = some connection)
    (opened : connection.state_.opened = true) : Receiving connection (pending c machine) := by
  refine connection_invariant c (fun connection _ count =>
    connection.state_.opened = true → Receiving connection count) ?_ ?_ reachable found opened
  · intro subLoop fd _ _
    exact .of_empty rfl rfl rfl
  · intro machine event connection stored now storedNow used left after before _ found receiving
      turn exchange opened
    exact .turn receiving (reachable_lively before found) (fun _ _ _ => reachable_alone before) turn
      exchange opened

omit [Fintype User] in
/-- The step that executes a statement of a connection. -/
theorem step_statement {after : ServerMachine subLoops User}
    {thread : Thread (LoopId subLoops) User} {input : Input subLoops} {body : Statement}
    {rest : List (Instruction (LoopId subLoops) Functor ServerCode)}
    (step : (TcpServer.system subLoops User listenFd openFds).step machine (.run thread input) =
      some after)
    (top : machine.stack thread = .call (.code (.connection c body)) :: rest)
    {connection : TcpConnection (LoopId subLoops)}
    (found : machine.world.find c = some connection) :
    ∃ outcome, Executes connection body input.ioResult outcome ∧
      after.world.find c = some outcome.connection ∧
      after.stack thread =
        (outcome.next.map (Next.toCall c connection.loop_)).map .call ++ rest := by
  have step : Step (TcpServer.client subLoops User) machine (.run thread input) after :=
    step_cases step
  cases step with
  | code thread input other below world calls otherTop executed =>
    obtain ⟨same, rfl⟩ := List.cons.inj (top.symm.trans otherTop)
    obtain rfl := Call.code.inj (Instruction.call.inj same)
    have executed : TcpServer.execute (.connection c body) input machine.world =
      some (world, calls) := executed
    cases serverExecute_cases executed with
    | connection c body input live outcome liveFound alive executes =>
      obtain rfl := Option.some.inj (found.symm.trans liveFound)
      exact ⟨outcome, executes, (commit_find _ c c found outcome).trans (if_pos rfl),
        setStack_stack_self ..⟩
  | runHere l input cb below otherTop => cases top.symm.trans otherTop
  | runQueued thread input l cb below otherTop foreign => cases top.symm.trans otherTop
  | pushBack thread input l cb below otherTop => cases top.symm.trans otherTop
  | quit thread input l below otherTop => cases top.symm.trans otherTop
  | wakeup thread input l below otherTop => cases top.symm.trans otherTop
  | destroy thread input cb below otherTop => cases top.symm.trans otherTop

/-- At the end of the stream `handleRead` goes on to `handleClose`, and by then everything received
has been echoed if and only if the `recv` before did not return data. -/
theorem echoed_at_end_of_stream
    (reachable : Reachable (TcpServer.system subLoops User listenFd openFds) machine)
    {after : ServerMachine subLoops User} {thread : Thread (LoopId subLoops) User}
    {rest : List (Instruction (LoopId subLoops) Functor ServerCode)}
    (top : machine.stack thread = .call (.code (.connection c .handleRead)) :: rest)
    (step : (TcpServer.system subLoops User listenFd openFds).step machine
      (.run thread (.io (.recv .eof))) = some after)
    {connection now : TcpConnection (LoopId subLoops)}
    (found : machine.world.find c = some connection) (connected : connection.state_ = .kConnected)
    (nowFound : after.world.find c = some now) :
    after.stack thread = .call (.code (.connection c .handleClose)) :: rest ∧
      (now.echoedBytes = now.receivedBytes ↔ connection.endsInData = false) := by
  obtain ⟨outcome, executes, sameFound, stack⟩ := step_statement step top found
  obtain rfl := Option.some.inj (sameFound.symm.trans nowFound)
  have receiving := reachable_receiving reachable found (by rw [connected]; rfl)
  have outstanding : pending c machine Task.reading = 1 :=
    reachable_hand_top reachable top rfl reading_inHand
  cases executes with
  | handleReadEof =>
    refine ⟨stack, ?_⟩
    have echoed : (connection.record (.received .eof)).echoedBytes = connection.echoedBytes :=
      (echoedBytes_record ..).trans (List.append_nil _)
    have received : (connection.record (.received .eof)).receivedBytes =
        connection.echoedBytes ++ connection.input_buffer_ :=
      (receivedBytes_received ..).trans ((List.append_nil _).trans receiving.echoed)
    rw [← receiving.head (outstanding ▸ Nat.one_pos), yields_connection, echoed, received]
    exact List.self_eq_append_right

end Reachable

/-- The sub loop sends what it has received, and the direct call of `::send` returns this. -/
def echoes (result : SendResult) : List (ServerEvent 1 Unit) :=
  List.replicate 3 (steps (.loop firstLoop)) ++ [.run (.loop firstLoop) (.io (.send result))] ++
  List.replicate 2 (steps (.loop firstLoop)) ++ List.replicate 2 (moves firstLoop)

/-- The end of the stream in a `handleRead` of its own. -/
theorem echoed_at_end_of_stream_apart : ∃ machine after : ServerMachine 1 Unit,
    ∃ connection now rest, machine.world.find 0 = some connection ∧
      after.world.find 0 = some now ∧ now.receivedBytes = [1] ∧ connection.endsInData = false ∧
      after.stack (.loop (some 0)) = .call (.code (.connection 0 .handleClose)) :: rest ∧
      (now.echoedBytes = now.receivedBytes ↔ connection.endsInData = false) := by
  have ends : ∃ machine, Reachable (TcpServer.system 1 Unit 3 fun _ => false) machine ∧
      ∃ connection ∈ machine.world.find 0, connection.state_ = .kConnected ∧
        connection.endsInData = false ∧
        (machine.stack (.loop (some 0))).head? = some (.call (.code (.connection 0 .handleRead))) ∧
        ∃ after ∈ (TcpServer.system 1 Unit 3 fun _ => false).step machine
            (.run (.loop (some 0)) (.io (.recv .eof))),
          ∃ now ∈ after.world.find 0, now.receivedBytes = [1] :=
    exists_of_replay rfl (acceptRun ++ registration ++ receives [.data [1], .again] ++
      echoes (.count 1) ++ receives []) (by decide)
  obtain ⟨machine, reachable, connection, found, connected, apart, head, after, step, now, nowFound,
    received⟩ := ends
  obtain ⟨rest, top⟩ := List.head?_eq_some_iff.mp head
  have found : machine.world.find 0 = some connection := found
  have nowFound : after.world.find 0 = some now := nowFound
  exact ⟨machine, after, connection, now, rest, found, nowFound, received, apart,
    echoed_at_end_of_stream reachable top step found connected nowFound⟩

/-- Data and the end of the stream in one `handleRead`: nothing is echoed. -/
theorem end_of_stream_drops_data : ∃ machine : ServerMachine 1 Unit,
    Reachable (TcpServer.system 1 Unit 3 fun _ => false) machine ∧
      ∃ connection ∈ machine.world.find 0, connection.state_ = .kDisconnected ∧
        connection.received = [.data [1], .eof] ∧ connection.echoedBytes = [] :=
  exists_of_replay rfl (acceptRun ++ registration ++ receives [.data [1], .eof] ++
    List.replicate 2 (steps (.loop (some 0)))) (by decide)

end MultiReactor
