/-
This file is about what a connection sends. `sendInLoop` gives a message to the
kernel at once when nothing is buffered, and appends what is left of it to
`output_buffer_`, which `handleWrite` drains. What the kernel has accepted and
the buffer beyond what `handleWrite` has sent of it make up everything
transmitted. When `handleWrite` fails it closes the connection, so nothing is
transmitted after the gap. A direct `::send` that fails leaves the connection
open without the message: where that never happens, the kernel has accepted a
prefix of everything transmitted.
-/

import MultiReactor.Receiving

namespace MultiReactor

open Transition

variable {subLoops : Nat} {User Loop : Type}

/-! ### What has been transmitted and accepted -/

/-- The message `sendInLoop` ran for, if the connection was connected. -/
def Occurrence.transmitted : Occurrence → Bytes
  | .transmit msg => msg
  | _ => []

/-- The bytes a call of `::send` has accepted. -/
def Occurrence.sent : Occurrence → Bytes
  | .accepted bytes => bytes
  | _ => []

/-- The messages for which `sendInLoop` ran while the connection was connected, one after the
other. -/
def TcpConnection.transmittedBytes (connection : TcpConnection Loop) : Bytes :=
  connection.history.flatMap Occurrence.transmitted

/-- What the kernel has accepted on the connection. -/
def TcpConnection.acceptedBytes (connection : TcpConnection Loop) : Bytes :=
  connection.history.flatMap Occurrence.sent

/-- A `::send` in `handleWrite` has failed. -/
def TcpConnection.failed (connection : TcpConnection Loop) : Prop :=
  .writeFailed ∈ connection.history

/-- The statements that transmit, send or erase. -/
def Statement.writes : Statement → Bool
  | .sendInLoop _ => true
  | .handleWriteLoop _ _ => true
  | .handleWriteRest _ => true
  | _ => false

/-- Nothing has been transmitted, accepted or buffered in between. -/
structure SameWrites (now connection : TcpConnection Loop) : Prop where
  transmitted : now.transmittedBytes = connection.transmittedBytes
  accepted : now.acceptedBytes = connection.acceptedBytes
  failed : now.failed ↔ connection.failed
  output : now.output_buffer_ = connection.output_buffer_

section Views

variable (connection : TcpConnection Loop)

@[simp] theorem transmittedBytes_record (occurrence : Occurrence) :
    (connection.record occurrence).transmittedBytes =
      connection.transmittedBytes ++ occurrence.transmitted := by
  rw [TcpConnection.transmittedBytes, TcpConnection.record, List.flatMap_append,
    List.flatMap_singleton]
  rfl

@[simp] theorem acceptedBytes_record (occurrence : Occurrence) :
    (connection.record occurrence).acceptedBytes =
      connection.acceptedBytes ++ occurrence.sent := by
  rw [TcpConnection.acceptedBytes, TcpConnection.record, List.flatMap_append,
    List.flatMap_singleton]
  rfl

@[simp] theorem failed_record (occurrence : Occurrence) :
    (connection.record occurrence).failed ↔ connection.failed ∨ .writeFailed = occurrence :=
  List.mem_append.trans (or_congr_right List.mem_singleton)

theorem acceptedBytes_transmit (msg : Bytes) :
    (connection.record (.transmit msg)).acceptedBytes = connection.acceptedBytes :=
  (acceptedBytes_record ..).trans (List.append_nil _)

theorem failed_transmit (msg : Bytes) :
    (connection.record (.transmit msg)).failed ↔ connection.failed :=
  (failed_record ..).trans (or_iff_left nofun)

/-- A call of `epoll_ctl` on record is no write. -/
theorem sameWrites_ctl {now : TcpConnection Loop} {call : Option EpollCtl}
    (history : now.history = connection.history ++ ctlRecord call)
    (output : now.output_buffer_ = connection.output_buffer_) : SameWrites now connection where
  transmitted := by
    rw [TcpConnection.transmittedBytes, history, List.flatMap_append,
      flatMap_ctlRecord _ (fun _ => rfl), List.append_nil]
    rfl
  accepted := by
    rw [TcpConnection.acceptedBytes, history, List.flatMap_append,
      flatMap_ctlRecord _ (fun _ => rfl), List.append_nil]
    rfl
  failed := by
    rw [TcpConnection.failed, history, List.mem_append, or_iff_left_of_imp]
    · rfl
    · intro member
      cases call <;> simp at member
  output := output

theorem bufferRemaining_writes (remaining : Bytes) :
    SameWrites (connection.bufferRemaining remaining).connection
      { connection with output_buffer_ := connection.output_buffer_ ++ remaining } := by
  obtain ⟨channel, ctl, equal, -⟩ := bufferRemaining_eq connection remaining
  rw [equal]
  exact sameWrites_ctl _ rfl rfl

theorem stopWriting_writes (next : List Next) :
    SameWrites (connection.stopWriting next).connection connection := by
  obtain ⟨channel, ctl, equal, -⟩ := stopWriting_eq connection next
  rw [equal]
  exact sameWrites_ctl _ rfl rfl

end Views

/-- Only `sendInLoop` transmits. -/
theorem Executes.transmitted {connection : TcpConnection Loop} {body : Statement} {io : IoResult}
    {outcome : Outcome Loop} (executes : Executes connection body io outcome)
    (other : ∀ msg, body ≠ .sendInLoop msg) :
    outcome.connection.transmittedBytes = connection.transmittedBytes := by
  refine executes.unseen fun occurrence recorded => ?_
  cases occurrence with
  | transmit msg => cases body <;> first | exact absurd rfl (other _) | cases recorded
  | _ => rfl

/-- Only `sendInLoop` and the send loop of `handleWrite` write. -/
theorem Executes.writes {connection : TcpConnection Loop} {body : Statement} {io : IoResult}
    {outcome : Outcome Loop} (executes : Executes connection body io outcome)
    (other : body.writes = false) : SameWrites outcome.connection connection := by
  refine ⟨executes.transmitted ?_, executes.unseen fun occurrence recorded => ?_, ?_, ?_⟩
  · rintro msg rfl
    cases other
  · cases occurrence with
    | accepted bytes => cases body <;> first | (cases recorded; done) | cases other
    | _ => rfl
  · obtain ⟨happened, history, records⟩ := executes.records
    rw [TcpConnection.failed, history, List.mem_append]
    refine or_iff_left fun member => ?_
    have recorded := records _ member
    cases body <;> first | (cases recorded; done) | cases other
  · cases executes with
    | handleWriteNothing io empty => exact (stopWriting_writes _ _).output
    | sendInLoopSkipped | sendInLoopDirect | sendInLoopBlocked | sendInLoopFailed
    | sendInLoopQueued | handleWriteSent | handleWriteZero | handleWriteBlocked
    | handleWriteFailed | handleWriteDone | handleWriteDrained | handleWriteKept => cases other
    | _ => rfl

/-! ### Failures -/

/-- `sendInLoop` gives the kernel a message that is not empty, and the call fails with an errno
other than EAGAIN. -/
def loses (c : ConnectionId) (machine : ServerMachine subLoops User) :
    ServerEvent subLoops User → Bool
  | .run thread (.io (.send .error)) => match machine.stack thread with
    | .call (.code (.connection d (.sendInLoop msg))) :: _ => c = d && msg ≠ [] &&
      (machine.world.find c).any fun connection =>
        connection.state_ = .kConnected && connection.output_buffer_ = []
    | _ => false
  | _ => false

/-- No direct `::send` of a message of the connection fails. -/
def Delivers (c : ConnectionId) : Guard (ServerMachine subLoops User) (ServerEvent subLoops User) :=
  fun machine event => loses c machine event = false

instance (c : ConnectionId) (machine : ServerMachine subLoops User)
    (event : ServerEvent subLoops User) : Decidable (Delivers c machine event) :=
  inferInstanceAs (Decidable (_ = _))

/-! ### The invariant -/

/-- What leads to the end of a `handleWrite`. -/
def Task.writing : Task → Bool
  | .ready => true
  | .statement .writeCallback => true
  | .statement .handleWrite => true
  | .statement (.handleWriteLoop _ _) => true
  | .statement (.handleWriteRest _) => true
  | _ => false

/-- How much of the output buffer a `handleWrite` in progress has sent. -/
def Task.totalSent : Task → Option Nat
  | .statement (.handleWriteLoop totalSent _) => some totalSent
  | .statement (.handleWriteRest totalSent) => some totalSent
  | _ => none

/-- A `handleWrite` in progress. -/
def Task.sending (task : Task) : Bool :=
  task.totalSent.isSome

/-- A `handleWrite` in progress that has sent so much. -/
def Task.hasSent (totalSent : Nat) (task : Task) : Bool :=
  task.totalSent = some totalSent

/-- A `handleClose` in progress. -/
def Task.ending : Task → Bool
  | .statement .handleClose => true
  | .statement .handleCloseStore => true
  | _ => false

theorem hasSent_sending {totalSent : Nat} (task : Task) (hasSent : task.hasSent totalSent = true) :
    task.sending = true := by
  rw [Task.sending, of_decide_eq_true hasSent]
  rfl

theorem hasSent_loop (totalSent totalLen : Nat) :
    0 < [Task.statement (.handleWriteLoop totalSent totalLen)].countP (Task.hasSent totalSent) := by
  simp [Task.hasSent, Task.totalSent]

theorem hasSent_rest (totalSent : Nat) :
    0 < [Task.statement (.handleWriteRest totalSent)].countP (Task.hasSent totalSent) := by
  simp [Task.hasSent, Task.totalSent]

theorem sending_inHand (task : Task) (sending : task.sending = true) : task.inHand = true := by
  rcases task with body | _ | _ | _ <;> first | cases sending | skip
  cases body <;> first | rfl | cases sending

theorem hasSent_inHand {totalSent : Nat} (task : Task) (hasSent : task.hasSent totalSent = true) :
    task.inHand = true :=
  sending_inHand task (hasSent_sending task hasSent)

theorem ending_inHand (task : Task) (ending : task.ending = true) : task.inHand = true := by
  rcases task with body | _ | _ | _ <;> first | cases ending | skip
  cases body <;> first | rfl | cases ending

theorem writing_onLoop (task : Task) (writing : task.writing = true) : task.onLoop = true := by
  rcases task with body | _ | _ | _ <;> first | rfl | cases writing | skip
  cases body <;> first | rfl | cases writing

/-- What has been transmitted is what has been accepted and the buffer beyond what `handleWrite`
has sent of it. After a failure in `handleWrite` nothing is written any more, and the connection
is closed or about to be. -/
structure Flowing (connection : TcpConnection (LoopId subLoops))
    (count : (Task → Bool) → Nat) : Prop where
  single : count Task.writing ≤ 1
  idle : ¬ connection.failed → count Task.sending = 0 →
    connection.transmittedBytes = connection.acceptedBytes ++ connection.output_buffer_
  unsent : ∀ totalSent, 0 < count (Task.hasSent totalSent) →
    connection.transmittedBytes =
      connection.acceptedBytes ++ connection.output_buffer_.drop totalSent
  sent : connection.acceptedBytes <+: connection.transmittedBytes
  broken : connection.failed → count Task.writing = 0 ∧
    (0 < connection.closes ∨ 0 < count Task.ending)

section Flowing

variable {connection now : TcpConnection (LoopId subLoops)} {stored storedNow held : Nat}
  {count countNow : (Task → Bool) → Nat} {used left : List Task}

/-- A turn that writes nothing and begins no send loop. -/
theorem Flowing.keep (flowing : Flowing connection count)
    (exchange : Exchanges count countNow used left) (same : SameWrites now connection)
    (sending : used.countP Task.sending = 0 ∧ left.countP Task.sending = 0)
    (writing : left.countP Task.writing ≤ used.countP Task.writing)
    (closes : connection.closes ≤ now.closes)
    (ending : used.countP Task.ending ≤ left.countP Task.ending ∨ 0 < now.closes) :
    Flowing now countNow where
  single := by
    have change := exchange Task.writing
    have before := flowing.single
    omega
  idle whole none := by
    have change := exchange Task.sending
    rw [same.transmitted, same.accepted, same.output]
    exact flowing.idle (mt same.failed.mpr whole) (by omega)
  unsent totalSent outstanding := by
    have change := exchange (Task.hasSent totalSent)
    have fresh : left.countP (Task.hasSent totalSent) ≤ left.countP Task.sending :=
      List.countP_mono_left fun task _ => hasSent_sending task
    rw [same.transmitted, same.accepted, same.output]
    exact flowing.unsent totalSent (by omega)
  sent := by
    rw [same.transmitted, same.accepted]
    exact flowing.sent
  broken failed := by
    obtain ⟨none, closing⟩ := flowing.broken (same.failed.mp failed)
    have change := exchange Task.writing
    have closed := exchange Task.ending
    omega

/-- No send loop of a connected connection has failed while nothing is closing it. -/
theorem Flowing.whole (flowing : Flowing connection count)
    (lively : Lively connection stored count) (connected : connection.state_ = .kConnected)
    (ending : count Task.ending = 0) : ¬ connection.failed := by
  intro failed
  have opened := lively.opened (.inr connected)
  have closing := (flowing.broken failed).2
  omega

/-- Nothing has failed, and no send loop is in progress. -/
theorem Flowing.of_idle (whole : ¬ connection.failed) (single : count Task.writing ≤ 1)
    (idle : ∀ totalSent, count (Task.hasSent totalSent) = 0)
    (flow : connection.transmittedBytes =
      connection.acceptedBytes ++ connection.output_buffer_) : Flowing connection count where
  single := single
  idle _ _ := flow
  unsent totalSent outstanding := absurd (idle totalSent) outstanding.ne'
  sent := flow ▸ List.prefix_append ..
  broken failed := absurd failed whole

/-- Nothing has failed, and a send loop has sent so much. -/
theorem Flowing.of_sending (totalSent : Nat) (whole : ¬ connection.failed)
    (single : count Task.writing ≤ 1) (sending : 0 < count Task.sending)
    (only : ∀ other, 0 < count (Task.hasSent other) → other = totalSent)
    (flow : connection.transmittedBytes =
      connection.acceptedBytes ++ connection.output_buffer_.drop totalSent) :
    Flowing connection count where
  single := single
  idle _ none := absurd none sending.ne'
  unsent other outstanding := only other outstanding ▸ flow
  sent := flow ▸ List.prefix_append ..
  broken failed := absurd failed whole

/-- While a `handleWrite` is ahead or in progress nothing has failed. -/
theorem Flowing.unbroken (flowing : Flowing connection count)
    (exchange : Exchanges count countNow used left) (writing : 0 < used.countP Task.writing) :
    ¬ connection.failed := by
  intro failed
  have none := (flowing.broken failed).1
  have held := (exchange Task.writing).1
  omega

/-- What the send loop has not sent is what is transmitted and not accepted. -/
theorem Flowing.beyond (flowing : Flowing connection count)
    (exchange : Exchanges count countNow used left) {totalSent : Nat}
    (hasSent : 0 < used.countP (Task.hasSent totalSent)) :
    connection.transmittedBytes =
      connection.acceptedBytes ++ connection.output_buffer_.drop totalSent :=
  flowing.unsent totalSent (hasSent.trans_le (exchange _).1)

/-- A `handleWrite` goes on to a statement of its send loop. -/
theorem Flowing.proceed {body next : Statement} (totalSent : Nat)
    (flowing : Flowing connection count) (alone : Alone body count)
    (exchange : Exchanges count countNow [.statement body] [.statement next])
    (inLoop : body.inLoop = true) (carries : Task.totalSent (.statement next) = some totalSent)
    (writing : [Task.statement next].countP Task.writing ≤
      [Task.statement body].countP Task.writing)
    (whole : ¬ now.failed)
    (flow : now.transmittedBytes = now.acceptedBytes ++ now.output_buffer_.drop totalSent) :
    Flowing now countNow := by
  refine .of_sending totalSent whole ?_ ?_ (fun other outstanding => ?_) flow
  · have change := exchange Task.writing
    have single := flowing.single
    omega
  · rw [alone.next exchange inLoop sending_inHand, List.countP_singleton, Task.sending, carries]
    exact Nat.one_pos
  · rw [alone.next exchange inLoop hasSent_inHand, List.countP_singleton, Task.hasSent,
      carries] at outstanding
    by_contra different
    rw [if_neg (by simpa using Ne.symm different)] at outstanding
    cases outstanding

/-- A `handleWrite` is over. -/
theorem Flowing.finish {body : Statement} (flowing : Flowing connection count)
    (alone : Alone body count) (exchange : Exchanges count countNow [.statement body] left)
    (inLoop : body.inLoop = true) (writing : left.countP Task.writing = 0)
    (none : ∀ totalSent, left.countP (Task.hasSent totalSent) = 0) (whole : ¬ now.failed)
    (flow : now.transmittedBytes = now.acceptedBytes ++ now.output_buffer_) :
    Flowing now countNow := by
  refine .of_idle whole ?_ (fun totalSent => ?_) flow
  · have change := exchange Task.writing
    have single := flowing.single
    omega
  · exact (alone.next exchange inLoop hasSent_inHand).trans (none totalSent)

/-- The send loop fails, and the close of the connection is ahead. -/
theorem Flowing.fail {totalSent totalLen : Nat} (flowing : Flowing connection count)
    (alone : Alone (.handleWriteLoop totalSent totalLen) count)
    (exchange : Exchanges count countNow [.statement (.handleWriteLoop totalSent totalLen)]
      [.statement .handleClose]) :
    Flowing (connection.record .writeFailed) countNow := by
  have failed : (connection.record .writeFailed).failed := (failed_record ..).mpr (.inr rfl)
  have change := exchange Task.writing
  have used : [Task.statement (.handleWriteLoop totalSent totalLen)].countP Task.writing = 1 := rfl
  have left : [Task.statement .handleClose].countP Task.writing = 0 := rfl
  have single := flowing.single
  refine {
    single := by omega
    idle := fun whole => absurd failed whole
    unsent := fun other outstanding => ?_
    sent := ?_
    broken := fun _ => ⟨by omega, .inr ?_⟩ }
  · rw [alone.next exchange rfl hasSent_inHand] at outstanding
    cases outstanding
  · rw [transmittedBytes_record, acceptedBytes_record,
      show Occurrence.writeFailed.sent = [] from rfl, List.append_nil]
    exact flowing.sent.trans (List.prefix_append ..)
  · rw [alone.next exchange rfl ending_inHand]
    exact Nat.one_pos

/-- `sendInLoop` runs for a message: it is accepted or buffered behind what is buffered. -/
theorem Flowing.transmit {msg : Bytes} (flowing : Flowing connection count)
    (lively : Lively connection stored count) (connected : connection.state_ = .kConnected)
    (alone : Alone (.sendInLoop msg) count)
    (exchange : Exchanges count countNow [.statement (.sendInLoop msg)] [])
    (failed : now.failed ↔ connection.failed)
    (transmitted : now.transmittedBytes = connection.transmittedBytes ++ msg)
    (kept : now.acceptedBytes ++ now.output_buffer_ =
      connection.acceptedBytes ++ (connection.output_buffer_ ++ msg)) : Flowing now countNow := by
  have whole := flowing.whole lively connected (alone rfl _ ending_inHand)
  refine .of_idle (mt failed.mp whole) ?_ (fun _ => alone.next exchange rfl hasSent_inHand) ?_
  · have change : countNow Task.writing + 0 = count Task.writing + 0 := (exchange Task.writing).2
    have single := flowing.single
    omega
  · rw [transmitted, flowing.idle whole (alone rfl _ sending_inHand), kept, List.append_assoc]

/-- What is left of the message is buffered. -/
theorem Flowing.buffer {msg remaining : Bytes} {base : TcpConnection (LoopId subLoops)}
    (flowing : Flowing connection count) (lively : Lively connection stored count)
    (connected : connection.state_ = .kConnected) (alone : Alone (.sendInLoop msg) count)
    (exchange : Exchanges count countNow [.statement (.sendInLoop msg)]
      ((base.bufferRemaining remaining).next.filterMap Next.task))
    (failed : base.failed ↔ connection.failed)
    (transmitted : base.transmittedBytes = connection.transmittedBytes ++ msg)
    (kept : base.acceptedBytes ++ (base.output_buffer_ ++ remaining) =
      connection.acceptedBytes ++ (connection.output_buffer_ ++ msg)) :
    Flowing (base.bufferRemaining remaining).connection countNow := by
  have writes := bufferRemaining_writes base remaining
  rw [bufferRemaining_next] at exchange
  refine flowing.transmit lively connected alone exchange (writes.failed.trans failed)
    (writes.transmitted.trans transmitted) ?_
  rw [writes.accepted, writes.output]
  exact kept

/-- Executing a statement keeps the invariant, if no direct `::send` of a message fails. -/
theorem Flowing.statement {body : Statement} {io : IoResult} {outcome : Outcome (LoopId subLoops)}
    (flowing : Flowing connection count) (lively : Lively connection stored count)
    (alone : Alone body count)
    (delivers : ∀ msg, body = .sendInLoop msg → io = .send .error →
      connection.state_ = .kConnected → connection.output_buffer_ = [] → msg = [])
    (executes : Executes connection body io outcome)
    (exchange : Exchanges count countNow [.statement body] (outcome.next.filterMap Next.task)) :
    Flowing outcome.connection countNow := by
  have same : body.writes = false → SameWrites outcome.connection connection := executes.writes
  have closes : body ≠ .handleCloseStore → outcome.connection.closes = connection.closes :=
    executes.closes
  cases executes with
  | sendInLoopSkipped msg io other =>
    exact flowing.keep exchange ⟨rfl, rfl, .rfl, rfl⟩ ⟨rfl, rfl⟩ (Nat.zero_le _) (closes nofun).ge
      (.inl (Nat.zero_le _))
  | sendInLoopDirect msg sent connected empty bounded =>
    refine flowing.buffer lively connected alone exchange (by simp)
      (by simp [Occurrence.transmitted]) ?_
    show ((connection.record (.transmit msg)).record (.accepted (msg.take sent))).acceptedBytes ++
      (connection.output_buffer_ ++ msg.drop sent) = _
    rw [acceptedBytes_record, acceptedBytes_transmit, empty, List.nil_append, List.nil_append,
      List.append_assoc]
    exact congrArg _ (List.take_append_drop sent msg)
  | sendInLoopBlocked msg connected empty =>
    exact flowing.buffer lively connected alone exchange (failed_transmit ..)
      (transmittedBytes_record ..) (congrArg (· ++ _) (acceptedBytes_transmit ..))
  | sendInLoopQueued msg io connected pending =>
    exact flowing.buffer lively connected alone exchange (failed_transmit ..)
      (transmittedBytes_record ..) (congrArg (· ++ _) (acceptedBytes_transmit ..))
  | sendInLoopFailed msg connected empty =>
    obtain rfl := delivers msg rfl rfl connected empty
    refine flowing.transmit lively connected alone exchange (failed_transmit ..)
      (transmittedBytes_record ..) ?_
    rw [List.append_nil]
    exact congrArg (· ++ _) (acceptedBytes_transmit ..)
  | handleWrite io pending =>
    have whole := flowing.unbroken exchange Nat.one_pos
    exact flowing.proceed 0 alone exchange rfl rfl (Nat.le_refl 1) whole
      (flowing.idle whole (alone rfl _ sending_inHand))
  | handleWriteSent totalSent totalLen sent left positive bounded =>
    have whole := flowing.unbroken exchange Nat.one_pos
    refine flowing.proceed (totalSent + sent) alone exchange rfl rfl (Nat.le_refl 1)
      (mt (failed_record ..).mp (by simpa using whole)) ?_
    have transmitted : (connection.record (.accepted
        ((connection.output_buffer_.drop totalSent).take sent))).transmittedBytes =
          connection.transmittedBytes :=
      (transmittedBytes_record ..).trans (List.append_nil _)
    rw [yields_connection, transmitted, acceptedBytes_record,
      flowing.beyond exchange (hasSent_loop totalSent totalLen), List.append_assoc]
    show _ = connection.acceptedBytes ++ ((connection.output_buffer_.drop totalSent).take sent ++
      connection.output_buffer_.drop (totalSent + sent))
    rw [← List.drop_drop, List.take_append_drop]
  | handleWriteZero totalSent totalLen left => exact flowing.fail alone exchange
  | handleWriteFailed totalSent totalLen left => exact flowing.fail alone exchange
  | handleWriteBlocked totalSent totalLen left =>
    exact flowing.proceed totalSent alone exchange rfl rfl (Nat.le_refl 1)
      (flowing.unbroken exchange Nat.one_pos)
      (flowing.beyond exchange (hasSent_loop totalSent totalLen))
  | handleWriteDone totalSent totalLen io done =>
    exact flowing.proceed totalSent alone exchange rfl rfl (Nat.le_refl 1)
      (flowing.unbroken exchange Nat.one_pos)
      (flowing.beyond exchange (hasSent_loop totalSent totalLen))
  | handleWriteDrained totalSent io drained =>
    have writes := stopWriting_writes { connection with output_buffer_ := [] }
      (if connection.state_ = .kDisconnecting then [.statement .handleClose] else [])
    rw [stopWriting_next] at exchange
    refine flowing.finish alone exchange rfl ?_ (fun other => ?_)
      (mt writes.failed.mp (flowing.unbroken exchange Nat.one_pos)) ?_
    · split <;> rfl
    · split <;> rfl
    · rw [writes.transmitted, writes.accepted, writes.output, ← drained]
      exact flowing.beyond exchange (hasSent_rest totalSent)
  | handleWriteKept totalSent io kept =>
    exact flowing.finish alone exchange rfl rfl (fun _ => rfl)
      (flowing.unbroken exchange Nat.one_pos) (flowing.beyond exchange (hasSent_rest totalSent))
  | handleWriteNothing io empty =>
    rw [stopWriting_next] at exchange
    exact flowing.keep exchange (same rfl) ⟨rfl, rfl⟩ (Nat.zero_le _) (closes nofun).ge
      (.inl (Nat.zero_le _))
  | writeCallback io masked =>
    exact flowing.keep exchange (same rfl) ⟨rfl, rfl⟩ (Nat.le_refl 1) (closes nofun).ge
      (.inl (Nat.zero_le _))
  | handleClose io opened =>
    exact flowing.keep exchange (same rfl) ⟨rfl, rfl⟩ (Nat.zero_le _) (closes nofun).ge
      (.inl (Nat.le_refl 1))
  | handleCloseSkipped io closed =>
    exact flowing.keep exchange (same rfl) ⟨rfl, rfl⟩ (Nat.zero_le _) (closes nofun).ge
      (.inr (lively.disconnected closed))
  | handleCloseStore io =>
    have closed := closes_store connection
    exact flowing.keep exchange (same rfl) ⟨rfl, rfl⟩ (Nat.zero_le _)
      ((Nat.le_succ _).trans_eq closed.symm) (.inr ((Nat.succ_pos _).trans_eq closed.symm))
  | _ =>
    exact flowing.keep exchange (same rfl) ⟨rfl, rfl⟩ (Nat.zero_le _) (closes nofun).ge
      (.inl (Nat.zero_le _))

end Flowing

/-! ### Runs -/

section Reachable

variable [DecidableEq User] [Fintype User] {listenFd : Nat} {openFds : Nat → Bool}
  {machine : ServerMachine subLoops User} {c : ConnectionId}
  {connection now : TcpConnection (LoopId subLoops)} {stored storedNow : Nat}
  {countNow : (Task → Bool) → Nat} {used left : List Task}

/-- When `epoll_wait` reports a connection, no `handleWrite` is in progress, and nothing has
failed. -/
theorem Flowing.reported
    (reachable : Reachable (TcpServer.system subLoops User listenFd openFds) machine)
    (found : machine.world.find c = some connection)
    (flowing : Flowing connection (pending c machine)) {l : LoopId subLoops}
    (idle : machine.stack (.loop l) = []) (place : (machine.loop l).position = .poll)
    (registered : ((machine.world.epoll l) connection.fd_).map Prod.snd = some (.connection c))
    (exchange : Exchanges (pending c machine) countNow [] [.ready])
    (same : SameWrites now connection) : Flowing now countNow := by
  obtain ⟨registrant, registrantFound, isLoop, -, added⟩ :=
    (reachable_wired reachable).registrant registered
  obtain rfl := Option.some.inj (found.symm.trans registrantFound)
  have opened : connection.closes = 0 := by
    rcases (reachable_lively reachable found).channel with ⟨-, -, -, opened⟩ | ⟨fresh, -⟩
    · exact opened
    · rw [added] at fresh
      cases fresh
  have here : machine.world.loopOf c = some l := isLoop ▸ loopOf_eq found
  have nothing : pending c machine Task.onLoop = 0 :=
    onLoop_eq_zero (reachable_server_placed reachable) here idle
      (by rw [place]; exact List.not_mem_nil)
  have none {kind : Task → Bool} (onLoop : ∀ task, kind task = true → task.onLoop = true) :
      pending c machine kind = 0 :=
    Nat.eq_zero_of_le_zero ((pending_mono onLoop).trans_eq nothing)
  have whole : ¬ connection.failed := fun failed => by
    have closing := (flowing.broken failed).2
    have ending := none fun task ending => inHand_onLoop task (ending_inHand task ending)
    omega
  refine .of_idle (mt same.failed.mp whole) ?_ (fun totalSent => ?_) ?_
  · have change := exchange Task.writing
    have writing := none writing_onLoop
    have one : [Task.ready].countP Task.writing = 1 := rfl
    omega
  · have change := (exchange (Task.hasSent totalSent)).2
    have sending : pending c machine (Task.hasSent totalSent) = 0 :=
      none fun task hasSent => inHand_onLoop task (hasSent_inHand task hasSent)
    have ready : [Task.ready].countP (Task.hasSent totalSent) = 0 := rfl
    rw [sending, ready] at change
    exact change
  · rw [same.transmitted, same.accepted, same.output]
    exact flowing.idle whole
      (none fun task sending => inHand_onLoop task (sending_inHand task sending))

/-- Every turn keeps the invariant, if no direct `::send` of a message fails. -/
theorem Flowing.turn {event : ServerEvent subLoops User}
    (reachable : Reachable (TcpServer.system subLoops User listenFd openFds) machine)
    (found : machine.world.find c = some connection)
    (flowing : Flowing connection (pending c machine)) (delivers : Delivers c machine event)
    (turn : Turn machine c event connection stored now storedNow used left)
    (exchange : Exchanges (pending c machine) countNow used left) : Flowing now countNow := by
  have lively := reachable_lively reachable found
  cases turn with
  | statement thread input body rest connection stored outcome top alive executes =>
    refine flowing.statement lively (reachable_alone reachable top)
      (fun msg isSend failure connected empty => ?_) executes exchange
    subst isSend
    cases input with
    | io result =>
      obtain rfl : result = .send .error := failure
      simpa [Delivers, loses, top, found, connected, empty] using delivers
    | _ => cases failure
  | reported l active mask connection stored idle place member alive registered =>
    exact flowing.reported reachable found idle place registered exchange ⟨rfl, rfl, .rfl, rfl⟩
  | delivered event connection stored =>
    exact flowing.keep exchange ⟨rfl, rfl, .rfl, rfl⟩ ⟨rfl, rfl⟩ (Nat.le_refl 1) (Nat.le_refl _)
      (.inl (Nat.zero_le _))
  | requested t call connection stored body made =>
    rcases target_cases made with rfl | ⟨msg, rfl⟩ <;>
      exact flowing.keep exchange ⟨rfl, rfl, .rfl, rfl⟩ ⟨rfl, rfl⟩ (Nat.le_refl 0) (Nat.le_refl _)
        (.inl (Nat.zero_le _))
  | dropped event connection stored alive =>
    exact flowing.keep exchange ⟨drop_unseen connection rfl, drop_unseen connection rfl,
      mem_drop_history connection nofun, rfl⟩ ⟨rfl, rfl⟩ (Nat.le_refl 0)
      (closes_drop connection).ge (.inl (Nat.zero_le _))
  | _ =>
    exact flowing.keep exchange ⟨rfl, rfl, .rfl, rfl⟩ ⟨rfl, rfl⟩ (Nat.le_refl 0) (Nat.le_refl _)
      (.inl (Nat.zero_le _))

theorem reachable_flowing
    (reachable : ReachableBy (TcpServer.system subLoops User listenFd openFds) (Delivers c) machine)
    (found : machine.world.find c = some connection) : Flowing connection (pending c machine) := by
  refine connection_invariant c (fun connection _ count => Flowing connection count) ?_ ?_ reachable
    found
  · intro subLoop fd _
    exact .of_idle nofun (Nat.zero_le 1) (fun _ => rfl) rfl
  · intro machine event connection stored now storedNow used left after before delivers found
      flowing turn exchange
    exact flowing.turn before.reachable found delivers turn exchange

/-- In a run in which no direct `::send` of a message of a connection fails, what the kernel has
accepted on it is a prefix of what has been transmitted. -/
theorem accepted_prefix
    (reachable : ReachableBy (TcpServer.system subLoops User listenFd openFds) (Delivers c) machine)
    (found : machine.world.find c = some connection) :
    connection.acceptedBytes <+: connection.transmittedBytes :=
  (reachable_flowing reachable found).sent

end Reachable

/-- A direct `::send` that takes part of the message. -/
theorem accepted_prefix_partial : ∃ machine : ServerMachine 1 Unit,
    ∃ connection, machine.world.find 0 = some connection ∧ connection.acceptedBytes = [1] ∧
      connection.acceptedBytes <+: connection.transmittedBytes := by
  have sent : ∃ machine,
      ReachableBy (TcpServer.system 1 Unit 3 fun _ => false) (Delivers 0) machine ∧
      ∃ connection ∈ machine.world.find 0, connection.acceptedBytes = [1] :=
    exists_of_replay rfl (acceptRun ++ registration ++ receives [.data [1, 2, 3], .again] ++
      echoes (.count 1)) (by decide)
  obtain ⟨machine, reachable, connection, found, accepted⟩ := sent
  exact ⟨machine, connection, found, accepted, accepted_prefix reachable found⟩

/-- A direct `::send` fails, and the next one does not: the kernel accepts a message after a
gap. -/
theorem accepted_after_gap : ∃ machine : ServerMachine 1 Unit,
    Reachable (TcpServer.system 1 Unit 3 fun _ => false) machine ∧
      ∃ connection ∈ machine.world.find 0, connection.transmittedBytes = [1, 2] ∧
        connection.acceptedBytes = [2] ∧
        ¬ connection.acceptedBytes <+: connection.transmittedBytes :=
  exists_of_replay rfl (acceptRun ++ registration ++ receives [.data [1], .again] ++
    echoes .error ++ receives [.data [2], .again] ++ echoes (.count 1)) (by decide)

end MultiReactor
