/-
This file is about several threads sending on one connection. What `send`
leaves on a thread, the functors in the queue of the connection's loop and the
`sendInLoop` the loop has in hand are a mailbox: the calling threads are its
senders, the loop's thread is its owner, and a call of `send` on the loop itself
overtakes what is queued. Every step of the process is a move of the mailbox as
long as the connection is connected, so messages are transmitted whole, one at a
time, and those of one thread in the order of its calls.
-/

import MultiReactor.Mailbox
import MultiReactor.Queue
import MultiReactor.Sending

namespace MultiReactor

open Transition

variable {subLoops : Nat} {User Loop : Type}

/-! ### Where a message can be -/

/-- The message a functor passes to `sendInLoop` of the connection. -/
def Functor.message (c : ConnectionId) : Functor → List Bytes
  | .bind d (.sendInLoop msg) => if d = c then [msg] else []
  | _ => []

/-- The message of a call of `send` on the connection that has not returned: what the call still
does is to run or to queue its functor. -/
def carries (c : ConnectionId) : Instruction (LoopId subLoops) Functor ServerCode → List Bytes
  | .call (.runInLoop _ cb) => cb.message c
  | .call (.queueInLoop _ cb) => cb.message c
  | _ => []

/-- The message of a call of `sendInLoop` on the connection that has not returned. -/
def holds (c : ConnectionId) : Instruction (LoopId subLoops) Functor ServerCode → List Bytes
  | .call (.code (.connection d (.sendInLoop msg))) => if d = c then [msg] else []
  | _ => []

/-- The messages for which `sendInLoop` ran while the connection was connected, in order. -/
def TcpConnection.transmitted (connection : TcpConnection Loop) : List Bytes :=
  connection.history.flatMap fun occurrence => match occurrence with
    | .transmit msg => [msg]
    | _ => []

/-- The message a step submits, and the thread that does: it calls `send` while the connection is
connected. -/
def submits (c : ConnectionId) (step : ServerMachine subLoops User × ServerEvent subLoops User) :
    List (Thread (LoopId subLoops) User × Bytes) :=
  match instructionOf step with
  | some (thread, .call (.code (.connection d (.send msg)))) =>
    if d = c ∧ (step.1.world.find c).map TcpConnection.state_ = some .kConnected then
      [(thread, msg)]
    else []
  | _ => []

/-- The messages submitted in a run, in the order of the calls of `send`. -/
def submitted (c : ConnectionId)
    (past : List (ServerMachine subLoops User × ServerEvent subLoops User)) :
    List (Thread (LoopId subLoops) User × Bytes) :=
  past.flatMap (submits c)

/-- The recorded runs of the server. -/
abbrev ServerRun (subLoops : Nat) (User : Type) :=
  Recorded (ServerMachine subLoops User) (ServerEvent subLoops User)

/-- The mailbox of a connection: the calling threads are its senders, and its loop is its owner. -/
def mailbox (c : ConnectionId) (connection : TcpConnection (LoopId subLoops))
    (run : ServerRun subLoops User) : Mailbox.State (Thread (LoopId subLoops) User) Bytes where
  submitted := submitted c run.past
  carried thread := (run.now.stack thread).flatMap (carries c)
  queued := (run.now.loop connection.loop_).waiting.flatMap (Functor.message c)
  held := (run.now.stack (.loop connection.loop_)).flatMap (holds c)
  delivered := connection.transmitted

/-! ### What an instruction does to its message -/

theorem flatten_transmitted (connection : TcpConnection Loop) :
    connection.transmitted.flatten = connection.transmittedBytes := by
  rw [TcpConnection.transmitted, TcpConnection.transmittedBytes, List.flatten_eq_flatMap,
    List.flatMap_assoc]
  refine congrArg (connection.history.flatMap ·) (funext fun occurrence => ?_)
  cases occurrence <;> simp [Occurrence.transmitted]

/-- A functor of a message belongs to `sendInLoop`. -/
theorem message_cases (c : ConnectionId) (cb : Functor) :
    cb.message c = [] ∨ ∃ msg, cb = .bind c (.sendInLoop msg) ∧ cb.message c = [msg] := by
  unfold Functor.message
  split
  · rename_i d msg
    split
    · rename_i same
      exact .inr ⟨msg, same ▸ rfl, rfl⟩
    · exact .inl rfl
  · exact .inl rfl

/-- What rests on a stack neither carries nor holds a message. -/
theorem resting_silent (c : ConnectionId)
    {instruction : Instruction (LoopId subLoops) Functor ServerCode}
    (rests : serverDiscipline.instruction instruction) :
    carries c instruction = [] ∧ holds c instruction = [] := by
  cases instruction with
  | call made =>
    cases made with
    | code body =>
      cases body with
      | connection d body => cases body <;> first | exact ⟨rfl, rfl⟩ | exact False.elim rests
      | _ => exact ⟨rfl, rfl⟩
    | _ => exact False.elim rests
  | wakeup l => exact ⟨rfl, rfl⟩
  | destroy cb => exact ⟨rfl, rfl⟩

/-- Calling a functor turns what it carries into what is held. -/
theorem invoke_message (subLoops : Nat) (c : ConnectionId) (cb : Functor) :
    ((cb.invoke : List (Call (LoopId subLoops) Functor ServerCode)).map .call).flatMap (carries c) =
        [] ∧
      ((cb.invoke : List (Call (LoopId subLoops) Functor ServerCode)).map .call).flatMap (holds c) =
        cb.message c := by
  cases cb with
  | bind d body => cases body <;> exact ⟨rfl, List.append_nil _⟩
  | removeConnectionInLoop d => exact ⟨rfl, rfl⟩

/-- No statement leaves a call of `sendInLoop`, and only `send` on the connection leaves the functor
of one. -/
theorem next_message (c d : ConnectionId) (l : LoopId subLoops)
    {connection : TcpConnection (LoopId subLoops)} {body : Statement} {io : IoResult}
    {outcome : Outcome (LoopId subLoops)} (executes : Executes connection body io outcome) :
    ((∀ msg, body = .send msg → d ≠ c) →
        ((outcome.next.map (Next.toCall d l)).map .call).flatMap (carries c) = []) ∧
      ((outcome.next.map (Next.toCall d l)).map .call).flatMap (holds c) = [] := by
  have follows := executes.keeps.follows
  rw [List.map_map, List.flatMap_map, List.flatMap_map, List.flatMap_eq_nil_iff,
    List.flatMap_eq_nil_iff]
  refine ⟨fun other next member => ?_, fun next member => ?_⟩
  · cases next with
    | runInLoop after =>
      have isNext := follows _ member
      cases after with
      | sendInLoop msg => cases body <;> first | exact if_neg (other _ rfl) | cases isNext
      | _ => rfl
    | _ => rfl
  · cases next with
    | statement after =>
      have unbound := follows_not_bound (follows _ member)
      cases after <;> first | rfl | cases unbound
    | _ => rfl

/-- What the server's other code leaves carries and holds nothing. -/
theorem server_message (c : ConnectionId) {server after : TcpServer subLoops} {body : ServerCode}
    {input : Input subLoops} {calls : List (Call (LoopId subLoops) Functor ServerCode)}
    (executes : ServerExecutes server body input after calls)
    (other : ∀ msg, body ≠ .connection c (.send msg)) :
    (calls.map .call).flatMap (carries c) = [] ∧ (calls.map .call).flatMap (holds c) = [] := by
  cases executes with
  | connection d body input connection outcome found alive executes =>
    obtain ⟨carried, held⟩ := next_message c d connection.loop_ executes
    exact ⟨carried fun msg isSend isSame => other msg (by rw [isSend, isSame]), held⟩
  | _ => exact ⟨rfl, rfl⟩

/-- A call a user thread begins submits nothing yet. -/
theorem begin_message (c : ConnectionId) {server after : TcpServer subLoops}
    {thread : Thread (LoopId subLoops) User} {input : Input subLoops}
    {calls : List (Call (LoopId subLoops) Functor ServerCode)}
    (begins : ServerBegins server thread input after calls) :
    (calls.map .call).flatMap (carries c) = [] ∧ (calls.map .call).flatMap (holds c) = [] := by
  cases begins with
  | member t call d body connection made found alive =>
    rcases target_cases made with rfl | ⟨msg, rfl⟩ <;> exact ⟨rfl, rfl⟩
  | bound t call l d body connection made found alive =>
    rcases target_cases made with rfl | ⟨msg, rfl⟩ <;> exact ⟨rfl, rfl⟩
  | quit t l => exact ⟨rfl, rfl⟩

/-- What a callback begins with carries and holds nothing. -/
theorem handleEvent_message (subLoops : Nat) (c : ConnectionId) (ch : ChannelId) :
    ((ch.handleEvent : List (Call (LoopId subLoops) Functor ServerCode)).map .call).flatMap
        (carries c) = [] ∧
      ((ch.handleEvent : List (Call (LoopId subLoops) Functor ServerCode)).map .call).flatMap
        (holds c) = [] := by
  cases ch <;> exact ⟨rfl, rfl⟩

/-! ### What a step transmits and submits -/

/-- `sendInLoop` on a connected connection transmits its message. -/
theorem Executes.transmits_message {connection : TcpConnection Loop} {msg : Bytes} {io : IoResult}
    {outcome : Outcome Loop} (executes : Executes connection (.sendInLoop msg) io outcome)
    (connected : connection.state_ = .kConnected) :
    outcome.connection.transmitted = connection.transmitted ++ [msg] := by
  have buffered (base : TcpConnection Loop) (remaining : Bytes)
      (transmitted : base.transmitted = connection.transmitted ++ [msg]) :
      (base.bufferRemaining remaining).connection.transmitted =
        connection.transmitted ++ [msg] := by
    obtain ⟨channel, ctl, equal, -⟩ := bufferRemaining_eq base remaining
    rw [equal, ← transmitted, TcpConnection.transmitted, List.flatMap_append,
      flatMap_ctlRecord _ (fun _ => rfl), List.append_nil]
    rfl
  cases executes with
  | sendInLoopSkipped msg io other => exact absurd connected other
  | sendInLoopDirect msg sent connected empty bounded =>
    exact buffered _ _ (by simp [TcpConnection.transmitted, TcpConnection.record])
  | sendInLoopBlocked msg connected empty =>
    exact buffered _ _ (by simp [TcpConnection.transmitted, TcpConnection.record])
  | sendInLoopFailed msg connected empty =>
    simp [TcpConnection.transmitted, TcpConnection.record]
  | sendInLoopQueued msg io connected pending =>
    exact buffered _ _ (by simp [TcpConnection.transmitted, TcpConnection.record])

/-- Nothing but `sendInLoop` transmits. -/
theorem Turn.transmits {machine : ServerMachine subLoops User} {c : ConnectionId}
    {event : ServerEvent subLoops User} {connection now : TcpConnection (LoopId subLoops)}
    {stored storedNow : Nat} {used left : List Task}
    (turn : Turn machine c event connection stored now storedNow used left)
    (other : ∀ msg, executing machine event ≠ some (.connection c (.sendInLoop msg))) :
    now.transmitted = connection.transmitted := by
  cases turn with
  | statement thread input body rest connection stored outcome top alive executes =>
    refine executes.unseen fun occurrence recorded => ?_
    cases occurrence with
    | transmit msg =>
      cases body with
      | sendInLoop msg => exact absurd (executing_run top input) (other _)
      | _ => cases recorded
    | _ => rfl
  | dropped event connection stored alive => exact drop_unseen connection rfl
  | _ => rfl

/-- A connection that is connecting has been so from the beginning. -/
theorem Turn.connecting {machine : ServerMachine subLoops User} {c : ConnectionId}
    {event : ServerEvent subLoops User} {connection now : TcpConnection (LoopId subLoops)}
    {stored storedNow : Nat} {used left : List Task}
    (turn : Turn machine c event connection stored now storedNow used left)
    (connecting : now.state_ = .kConnecting) : connection.state_ = .kConnecting := by
  cases turn with
  | statement thread input body rest connection stored outcome top alive executes =>
    rw [executes.state] at connecting
    cases body <;> first | exact connecting | cases connecting
  | _ => exact connecting

/-- A connection that is open has been so from the beginning. -/
theorem Turn.opened {machine : ServerMachine subLoops User} {c : ConnectionId}
    {event : ServerEvent subLoops User} {connection now : TcpConnection (LoopId subLoops)}
    {stored storedNow : Nat} {count countNow : (Task → Bool) → Nat} {used left : List Task}
    (turn : Turn machine c event connection stored now storedNow used left)
    (lively : Lively connection stored count) (exchange : Exchanges count countNow used left)
    (opened : now.state_.opened = true) : connection.state_.opened = true := by
  cases turn with
  | statement thread input body rest connection stored outcome top alive executes =>
    exact executes.opened lively exchange opened
  | _ => exact opened

/-- Nothing is submitted to a connection that is not connected. -/
theorem submits_eq_nil (c : ConnectionId)
    {step : ServerMachine subLoops User × ServerEvent subLoops User}
    (other : (step.1.world.find c).map TcpConnection.state_ ≠ some .kConnected) :
    submits c step = [] := by
  unfold submits
  split
  · exact if_neg fun submitted => other submitted.2
  · rfl

/-- Only a call of `send` submits. -/
theorem submits_run (c : ConnectionId) {machine : ServerMachine subLoops User}
    {thread : Thread (LoopId subLoops) User}
    {top : Instruction (LoopId subLoops) Functor ServerCode}
    {rest : List (Instruction (LoopId subLoops) Functor ServerCode)}
    (stack : machine.stack thread = top :: rest) (input : Input subLoops)
    (other : ∀ msg, top ≠ .call (.code (.connection c (.send msg)))) :
    submits c (machine, .run thread input) = [] := by
  unfold submits
  rw [instructionOf_run stack]
  split
  · rename_i sender d msg found
    obtain rfl := (Prod.mk.inj (Option.some.inj found)).2
    exact if_neg fun submitted => other msg (by rw [submitted.1])
  · rfl

/-! ### Who queues -/

/-- The server's code calls `runInLoop` and never `queueInLoop`: only `runInLoop` does, on a thread
that is not the loop's. -/
def foreignPlacement (subLoops : Nat) (User : Type) :
    Placement (LoopId subLoops) User Functor ChannelId ServerCode (TcpServer subLoops) where
  grows _ _ := True
  call _ thread made := ∀ l cb, made = .queueInLoop l cb → thread ≠ .loop l
  functor _ _ _ := True
  channel _ _ _ := True

theorem foreign_respects (subLoops : Nat) (User : Type) :
    Respects (TcpServer.client subLoops User) (foreignPlacement subLoops User) (fun _ _ => True)
      fun _ => True where
  keepCall _ _ _ _ _ placed := placed
  keepFunctor _ _ _ _ _ _ := trivial
  keepChannel _ _ _ _ _ _ := trivial
  execute _ _ _ _ _ _ executed := by
    refine ⟨trivial, fun _ made member l cb queues => ?_⟩
    subst queues
    cases serverExecute_cases executed with
    | connection c body input connection outcome found alive executes =>
      obtain ⟨next, -, same⟩ := List.mem_map.mp member
      cases next <;> cases same
    | _ => simp at member
  runHere _ _ cb _ made member l other queues := by
    subst queues
    cases cb <;> simp [TcpServer.client, Functor.invoke] at member
  runQueued _ _ _ _ foreign _ _ _ same := by
    cases same
    exact foreign
  pushBack _ _ _ _ _ := trivial
  invoke _ _ cb _ made member l other queues := by
    subst queues
    cases cb <;> simp [TcpServer.client, Functor.invoke] at member
  handleEvent _ _ ch _ made member l cb queues := by
    subst queues
    cases ch <;> simp [TcpServer.client, ChannelId.handleEvent] at member
  copy _ _ := trivial
  destroy _ _ := trivial
  poll _ _ _ _ _ _ _ := ⟨trivial, fun _ _ => trivial⟩
  begin _ _ _ _ _ _ begun := by
    refine ⟨trivial, fun made member l cb queues => ?_⟩
    subst queues
    cases serverBegin_cases begun <;> simp at member

/-! ### The process refines the mailbox -/

section Mailbox

variable [DecidableEq User] {c : ConnectionId} {connection now : TcpConnection (LoopId subLoops)}
  {run : ServerRun subLoops User} {event : ServerEvent subLoops User}
  {after : ServerMachine subLoops User} {thread : Thread (LoopId subLoops) User}
  {instructions : List (Instruction (LoopId subLoops) Functor ServerCode)}

/-- The mailbox after a step that replaces the stack of one thread. -/
theorem mailbox_replaced (loop : now.loop_ = connection.loop_)
    (stack : after.stack = Function.update run.now.stack thread instructions) :
    mailbox c now { past := run.past ++ [(run.now, event)], now := after } =
      { submitted := (mailbox c connection run).submitted ++ submits c (run.now, event)
        carried := Function.update (mailbox c connection run).carried thread
          (instructions.flatMap (carries c))
        queued := (after.loop connection.loop_).waiting.flatMap (Functor.message c)
        held := if thread = .loop connection.loop_ then instructions.flatMap (holds c)
          else (mailbox c connection run).held
        delivered := now.transmitted } := by
  ext : 1
  · exact List.flatMap_append.trans (congrArg _ (List.flatMap_singleton ..))
  · funext other
    show (after.stack other).flatMap (carries c) =
      Function.update (mailbox c connection run).carried thread
        (instructions.flatMap (carries c)) other
    rw [stack]
    by_cases same : other = thread
    · subst same
      rw [Function.update_self, Function.update_self]
    · rw [Function.update_of_ne same, Function.update_of_ne same]
      rfl
  · exact congrArg (fun l => ((after.loop l).waiting).flatMap _) loop
  · show (after.stack (.loop now.loop_)).flatMap (holds c) = _
    rw [loop, stack]
    by_cases same : thread = .loop connection.loop_
    · rw [same, Function.update_self, if_pos rfl]
    · rw [Function.update_of_ne (Ne.symm same), if_neg same]
      rfl
  · rfl

/-- What the owner holds, when the thread that moves holds what it held. -/
theorem unheld
    (same : instructions.flatMap (holds c) = (run.now.stack thread).flatMap (holds c)) :
    (if thread = .loop connection.loop_ then instructions.flatMap (holds c)
      else (mailbox c connection run).held) = (mailbox c connection run).held := by
  split
  · rename_i isOwner
    rw [same, isOwner]
    rfl
  · rfl

/-- What is known of one step where the mailbox of a connection is concerned. -/
structure MailboxStep (c : ConnectionId) (connection now : TcpConnection (LoopId subLoops))
    (run : ServerRun subLoops User) (event : ServerEvent subLoops User)
    (after : ServerMachine subLoops User) : Prop where
  found : run.now.world.find c = some connection
  foundNow : after.world.find c = some now
  loop : now.loop_ = connection.loop_
  placed : Placed (serverPlacement subLoops User) run.now
  foreign : ∀ thread l cb rest, run.now.stack thread = .call (.queueInLoop l cb) :: rest →
    thread ≠ .loop l
  resting : ∀ thread top rest, run.now.stack thread = top :: rest →
    rest.flatMap (carries c) = [] ∧ rest.flatMap (holds c) = []
  queue : (calls connection.loop_ (run.now, event)).flatMap (Functor.message c) ++
      (after.loop connection.loop_).waiting.flatMap (Functor.message c) =
    (run.now.loop connection.loop_).waiting.flatMap (Functor.message c) ++
      (pushes connection.loop_ (run.now, event)).flatMap (Functor.message c)
  transmits : (∀ msg, executing run.now event ≠ some (.connection c (.sendInLoop msg))) →
    now.transmitted = connection.transmitted

section Step

variable {top : Instruction (LoopId subLoops) Functor ServerCode}
  {rest : List (Instruction (LoopId subLoops) Functor ServerCode)} {cb : Functor}
  {l : LoopId subLoops} {active : List (Ready ChannelId)} {input : Input subLoops}

omit [DecidableEq User] in
theorem MailboxStep.below (facts : MailboxStep c connection now run event after)
    (stack : run.now.stack thread = top :: rest) :
    rest.flatMap (carries c) = [] ∧ rest.flatMap (holds c) = [] :=
  facts.resting thread top rest stack

omit [DecidableEq User] in
/-- Only the top of a stack carries a message. -/
theorem MailboxStep.carried (facts : MailboxStep c connection now run event after)
    (stack : run.now.stack thread = top :: rest) :
    (run.now.stack thread).flatMap (carries c) = carries c top := by
  rw [stack, List.flatMap_cons, (facts.below stack).1, List.append_nil]

omit [DecidableEq User] in
/-- Only the top of a stack holds a message. -/
theorem MailboxStep.held (facts : MailboxStep c connection now run event after)
    (stack : run.now.stack thread = top :: rest) :
    (run.now.stack thread).flatMap (holds c) = holds c top := by
  rw [stack, List.flatMap_cons, (facts.below stack).2, List.append_nil]

omit [DecidableEq User] in
/-- What waits stays when the loop's thread moves on without calling a functor. -/
theorem MailboxStep.uncalled (facts : MailboxStep c connection now run event after)
    (isAdvance : event = .advance l active input)
    (none : (run.now.loop l).position.head = []) :
    (after.loop connection.loop_).waiting.flatMap (Functor.message c) =
      (run.now.loop connection.loop_).waiting.flatMap (Functor.message c) := by
  subst isAdvance
  refine Eq.trans ?_ (facts.queue.trans (List.append_nil _))
  rw [calls]
  split
  · rename_i isLoop
    rw [← isLoop, none]
    rfl
  · rfl

/-- A step that moves no message. -/
theorem MailboxStep.silent (facts : MailboxStep c connection now run event after)
    (stack : after.stack = Function.update run.now.stack thread instructions)
    (submits : submits c (run.now, event) = [])
    (carried : instructions.flatMap (carries c) = (run.now.stack thread).flatMap (carries c))
    (held : instructions.flatMap (holds c) = (run.now.stack thread).flatMap (holds c))
    (queued : (after.loop connection.loop_).waiting.flatMap (Functor.message c) =
      (run.now.loop connection.loop_).waiting.flatMap (Functor.message c))
    (delivered : now.transmitted = connection.transmitted) :
    Mailbox.Moves (.loop connection.loop_) (mailbox c connection run)
      (mailbox c now { past := run.past ++ [(run.now, event)], now := after }) := by
  refine .trans_eq .stay ?_
  rw [mailbox_replaced facts.loop stack, submits, List.append_nil, queued, delivered, held,
    show instructions.flatMap (carries c) = (mailbox c connection run).carried thread from carried,
    Function.update_eq_self]
  by_cases same : thread = .loop connection.loop_
  · subst same
    rw [if_pos rfl]
    rfl
  · rw [if_neg same]
    rfl

omit [DecidableEq User] in
/-- What rests below what a thread is left with carries and holds nothing. -/
theorem MailboxStep.above (facts : MailboxStep c connection now run event after)
    (calls : List (Call (LoopId subLoops) Functor ServerCode))
    (stack : run.now.stack thread = top :: rest) :
    (calls.map Instruction.call ++ rest).flatMap (carries c) =
        (calls.map Instruction.call).flatMap (carries c) ∧
      (calls.map Instruction.call ++ rest).flatMap (holds c) =
        (calls.map Instruction.call).flatMap (holds c) := by
  rw [List.flatMap_append, List.flatMap_append, (facts.below stack).1, (facts.below stack).2,
    List.append_nil, List.append_nil]
  exact ⟨rfl, rfl⟩

section Code

variable {msg : Bytes} {body : ServerCode} {world : TcpServer subLoops}
  {calls : List (Call (LoopId subLoops) Functor ServerCode)}

/-- A call of `send` submits its message to a connected connection, and does nothing otherwise. -/
theorem MailboxStep.send
    (facts : MailboxStep c connection now run (.run thread input)
      ((run.now.setWorld world).setStack thread (calls.map .call ++ rest)))
    (top : run.now.stack thread = .call (.code (.connection c (.send msg))) :: rest)
    (executes : ServerExecutes run.now.world (.connection c (.send msg)) input world calls) :
    Mailbox.Moves (.loop connection.loop_) (mailbox c connection run)
      (mailbox c now ⟨run.past ++ [(run.now, .run thread input)],
        (run.now.setWorld world).setStack thread (calls.map .call ++ rest)⟩) := by
  have kept := facts.transmits (by simp [executing, top])
  obtain ⟨carriesCalls, holdsCalls⟩ := facts.above calls top
  cases executes with
  | connection _ _ _ sending outcome sendingFound alive executes =>
    obtain rfl := Option.some.inj (facts.found.symm.trans sendingFound)
    cases executes with
    | send msg io connected =>
      refine .trans_eq (.submit thread msg (facts.carried top)) ?_
      rw [mailbox_replaced facts.loop rfl]
      ext : 1
      · refine congrArg (_ ++ ·) ?_
        simp [submits, instructionOf_run top, facts.found, connected]
      · refine congrArg (Function.update _ _) (carriesCalls.trans ?_)
        simp [Next.toCall, carries, Functor.message]
      · rfl
      · exact unheld (holdsCalls.trans (facts.held top).symm)
      · exact kept
    | sendSkipped msg io disconnected =>
      refine facts.silent rfl ?_ (carriesCalls.trans (facts.carried top).symm)
        (holdsCalls.trans (facts.held top).symm) rfl kept
      simp [submits, instructionOf_run top, facts.found, disconnected]

/-- `sendInLoop` delivers the message the loop's thread holds. -/
theorem MailboxStep.sendInLoop
    (facts : MailboxStep c connection now run (.run thread input)
      ((run.now.setWorld world).setStack thread (calls.map .call ++ rest)))
    (accepts : connection.state_ = .kConnected ∨ (mailbox c connection run).held = [])
    (top : run.now.stack thread = .call (.code (.connection c (.sendInLoop msg))) :: rest)
    (executes : ServerExecutes run.now.world (.connection c (.sendInLoop msg)) input world
      calls) :
    Mailbox.Moves (.loop connection.loop_) (mailbox c connection run)
      (mailbox c now ⟨run.past ++ [(run.now, .run thread input)],
        (run.now.setWorld world).setStack thread (calls.map .call ++ rest)⟩) := by
  obtain ⟨carriesCalls, holdsCalls⟩ := facts.above calls top
  obtain ⟨carriesNone, holdsNone⟩ := server_message c executes fun _ same => by cases same
  have holding : (run.now.stack thread).flatMap (holds c) = [msg] :=
    (facts.held top).trans (if_pos rfl)
  obtain ⟨l, here, rfl⟩ := facts.placed.top top rfl
  obtain rfl := Option.some.inj (here.symm.trans (loopOf_eq facts.found))
  -- a message is not in hand of a connection that holds none
  have connected : connection.state_ = .kConnected :=
    accepts.resolve_right fun none => by cases holding.symm.trans none
  cases executes with
  | connection _ _ _ sending outcome sendingFound alive executes =>
    obtain rfl := Option.some.inj (facts.found.symm.trans sendingFound)
    have isNow := (commit_find run.now.world c c facts.found outcome).trans (if_pos rfl)
    obtain rfl := Option.some.inj (isNow.symm.trans facts.foundNow)
    refine .trans_eq (.deliver msg holding) ?_
    rw [mailbox_replaced facts.loop rfl]
    ext : 1
    · rw [submits_run c top input fun _ same => by cases same]
      exact List.append_nil _
    · refine (congrArg (Function.update _ _) ?_).trans (Function.update_eq_self _ _)
      exact (carriesCalls.trans carriesNone).trans (facts.carried top).symm
    · rfl
    · exact (if_pos rfl).trans (holdsCalls.trans holdsNone)
    · exact executes.transmits_message connected

/-- A statement of the server's code. -/
theorem MailboxStep.code
    (facts : MailboxStep c connection now run (.run thread input)
      ((run.now.setWorld world).setStack thread (calls.map .call ++ rest)))
    (accepts : connection.state_ = .kConnected ∨ (mailbox c connection run).held = [])
    (top : run.now.stack thread = .call (.code body) :: rest)
    (executes : ServerExecutes run.now.world body input world calls) :
    Mailbox.Moves (.loop connection.loop_) (mailbox c connection run)
      (mailbox c now ⟨run.past ++ [(run.now, .run thread input)],
        (run.now.setWorld world).setStack thread (calls.map .call ++ rest)⟩) := by
  by_cases sends : ∃ msg, body = .connection c (.send msg)
  · obtain ⟨msg, rfl⟩ := sends
    exact facts.send top executes
  by_cases transmits : ∃ msg, body = .connection c (.sendInLoop msg)
  · obtain ⟨msg, rfl⟩ := transmits
    exact facts.sendInLoop accepts top executes
  obtain ⟨carriesCalls, holdsCalls⟩ := facts.above calls top
  obtain ⟨carriesNone, holdsNone⟩ := server_message c executes fun msg same => sends ⟨msg, same⟩
  have kept := facts.transmits fun msg same => transmits ⟨msg, by
    rw [executing_run top] at same
    exact Option.some.inj same⟩
  refine facts.silent rfl (submits_run c top input fun msg same => sends ⟨msg, by cases same; rfl⟩)
    (carriesCalls.trans (carriesNone.trans (facts.carried top).symm))
    (holdsCalls.trans (holdsNone.trans ?_)) rfl kept
  rw [facts.held top]
  unfold holds
  split
  · rename_i d msg same
    refine (if_neg fun isSame => transmits ⟨msg, ?_⟩).symm
    cases same
    rw [isSame]
  · rfl

end Code

/-- `runInLoop` on the loop's thread: the message goes from the sender to the owner's hand. -/
theorem MailboxStep.runHere
    (facts : MailboxStep c connection now run (.run (.loop l) input)
      (run.now.setStack (.loop l) (cb.invoke.map .call ++ .destroy cb :: rest)))
    (top : run.now.stack (.loop l) = .call (.runInLoop l cb) :: rest) :
    Mailbox.Moves (.loop connection.loop_) (mailbox c connection run)
      (mailbox c now ⟨run.past ++ [(run.now, .run (.loop l) input)],
        run.now.setStack (.loop l) (cb.invoke.map .call ++ .destroy cb :: rest)⟩) := by
  have silent : submits c (run.now, .run (.loop l) input) = [] :=
    submits_run c top input fun _ same => by cases same
  have kept := facts.transmits (by simp [executing, top])
  obtain ⟨invokeCarries, invokeHolds⟩ := invoke_message subLoops c cb
  have carriesNone : (cb.invoke.map Instruction.call ++ Instruction.destroy cb :: rest).flatMap
      (carries c) = [] := by
    rw [List.flatMap_append, invokeCarries, List.flatMap_cons, (facts.below top).1]
    rfl
  have holdsMessage : (cb.invoke.map Instruction.call ++ Instruction.destroy cb :: rest).flatMap
      (holds c) = cb.message c := by
    rw [List.flatMap_append, invokeHolds, List.flatMap_cons, (facts.below top).2]
    exact List.append_nil _
  rcases message_cases c cb with none | ⟨msg, rfl, message⟩
  · exact facts.silent rfl silent (carriesNone.trans ((facts.carried top).trans none).symm)
      (holdsMessage.trans (none.trans (facts.held top).symm)) rfl kept
  · obtain ⟨-, here⟩ := (facts.placed.top top).1 rfl
    obtain rfl := Option.some.inj (here.symm.trans (loopOf_eq facts.found))
    refine .trans_eq (.keep msg ((facts.carried top).trans message) (facts.held top)) ?_
    rw [mailbox_replaced facts.loop rfl]
    ext : 1
    · rw [silent]
      exact List.append_nil _
    · exact congrArg (Function.update _ _) carriesNone
    · rfl
    · exact (if_pos rfl).trans (holdsMessage.trans message)
    · exact kept

/-- The critical section of `queueInLoop`: the message goes from the sender to the queue. -/
theorem MailboxStep.pushBack
    (facts : MailboxStep c connection now run (.run thread input)
      ((run.now.setLoop l ((run.now.loop l).pushBack cb)).setStack thread (.wakeup l :: rest)))
    (top : run.now.stack thread = .call (.queueInLoop l cb) :: rest) :
    Mailbox.Moves (.loop connection.loop_) (mailbox c connection run)
      (mailbox c now ⟨run.past ++ [(run.now, .run thread input)],
        (run.now.setLoop l ((run.now.loop l).pushBack cb)).setStack thread
          (.wakeup l :: rest)⟩) := by
  have silent : submits c (run.now, .run thread input) = [] :=
    submits_run c top input fun _ same => by cases same
  have kept := facts.transmits (by simp [executing, top])
  have carriesNone : (Instruction.wakeup l :: rest).flatMap (carries c) = [] := by
    rw [List.flatMap_cons, (facts.below top).1]
    rfl
  have holdsNone : (Instruction.wakeup l :: rest).flatMap (holds c) = [] := by
    rw [List.flatMap_cons, (facts.below top).2]
    rfl
  have pushed : pushes connection.loop_ (run.now, .run thread input) =
      if l = connection.loop_ then [cb] else [] := by
    rw [pushes, instructionOf_run top]
  have queue := facts.queue
  rw [pushed] at queue
  rcases message_cases c cb with none | ⟨msg, rfl, message⟩
  · refine facts.silent rfl silent (carriesNone.trans ((facts.carried top).trans none).symm)
      (holdsNone.trans (facts.held top).symm) (queue.trans ?_) kept
    split
    · rw [List.flatMap_singleton, none, List.append_nil]
    · exact List.append_nil _
  · obtain ⟨-, here⟩ := (facts.placed.top top).1 rfl
    obtain rfl := Option.some.inj (here.symm.trans (loopOf_eq facts.found))
    rw [if_pos rfl, List.flatMap_singleton, message] at queue
    have foreign := facts.foreign thread _ _ rest top
    refine .trans_eq (.post thread msg foreign ((facts.carried top).trans message)) ?_
    rw [mailbox_replaced facts.loop rfl]
    ext : 1
    · rw [silent]
      exact List.append_nil _
    · exact congrArg (Function.update _ _) carriesNone
    · exact queue
    · exact if_neg foreign
    · exact kept

/-- The loop's thread calls a functor: its message goes from the queue to the owner's hand. -/
theorem MailboxStep.invoke {executed waiting : List Functor} {next : List (Ready ChannelId)}
    (facts : MailboxStep c connection now run (.advance l active input)
      ((run.now.setLoop l ((run.now.loop l).at (.execute (executed ++ [cb]) waiting next))).setStack
        (.loop l) (cb.invoke.map .call)))
    (idle : run.now.stack (.loop l) = [])
    (place : (run.now.loop l).position = .execute executed (cb :: waiting) next) :
    Mailbox.Moves (.loop connection.loop_) (mailbox c connection run)
      (mailbox c now ⟨run.past ++ [(run.now, .advance l active input)],
        (run.now.setLoop l
          ((run.now.loop l).at (.execute (executed ++ [cb]) waiting next))).setStack (.loop l)
            (cb.invoke.map .call)⟩) := by
  obtain ⟨invokeCarries, invokeHolds⟩ := invoke_message subLoops c cb
  have kept := facts.transmits fun _ same => by cases same
  have called : calls connection.loop_ (run.now, .advance l active input) =
      if l = connection.loop_ then [cb] else [] := by
    rw [calls]
    split
    · rename_i isLoop
      rw [← isLoop, place]
      rfl
    · rfl
  have queue := facts.queue
  rw [called] at queue
  have waits : cb ∈ (run.now.loop l).waiting := by
    rw [EventLoop.waiting, place]
    exact List.mem_cons_self
  rcases message_cases c cb with none | ⟨msg, rfl, message⟩
  · refine facts.silent rfl rfl (invokeCarries.trans (by rw [idle]; rfl))
      (invokeHolds.trans (none.trans (by rw [idle]; rfl))) ?_ kept
    refine Eq.trans ?_ (queue.trans (List.append_nil _))
    split
    · rw [List.flatMap_singleton, none]
      rfl
    · rfl
  · obtain ⟨-, here⟩ := facts.placed.queue l _ waits rfl
    obtain rfl := Option.some.inj (here.symm.trans (loopOf_eq facts.found))
    rw [if_pos rfl, List.flatMap_singleton, message] at queue
    refine .trans_eq (.take msg _ (queue.trans (List.append_nil _)).symm ?_) ?_
    · show (run.now.stack (.loop connection.loop_)).flatMap (holds c) = []
      rw [idle]
      rfl
    · rw [mailbox_replaced facts.loop rfl]
      ext : 1
      · exact List.append_nil _
      · refine (congrArg (Function.update _ _) ?_).trans (Function.update_eq_self _ _)
        refine invokeCarries.trans ?_
        show [] = (run.now.stack (.loop connection.loop_)).flatMap (carries c)
        rw [idle]
        rfl
      · rfl
      · exact (if_pos rfl).trans (invokeHolds.trans message)
      · exact kept

end Step

end Mailbox

section Reachable

variable [DecidableEq User] [Fintype User] {listenFd : Nat} {openFds : Nat → Bool}
  {c : ConnectionId}

omit [Fintype User] in
/-- No thread queues to its own loop. -/
theorem reachable_foreign {machine : ServerMachine subLoops User}
    (reachable : Reachable (TcpServer.system subLoops User listenFd openFds) machine)
    {thread : Thread (LoopId subLoops) User} {l : LoopId subLoops} {cb : Functor}
    {rest : List (Instruction (LoopId subLoops) Functor ServerCode)}
    (top : machine.stack thread = .call (.queueInLoop l cb) :: rest) : thread ≠ .loop l :=
  (reachable_placed (foreign_respects subLoops User) (fun _ _ _ _ => trivial)
    (fun _ _ => trivial) reachable).top top l cb rfl

/-- The invariants of the server say all this of every step. -/
theorem reachable_mailboxStep {run : ServerRun subLoops User} {event : ServerEvent subLoops User}
    {after : ServerMachine subLoops User} {connection now : TcpConnection (LoopId subLoops)}
    (reachable : Reachable (TcpServer.system subLoops User listenFd openFds) run.now)
    (step : (TcpServer.system subLoops User listenFd openFds).step run.now event = some after)
    (found : run.now.world.find c = some connection) (foundNow : after.world.find c = some now) :
    MailboxStep c connection now run event after := by
  obtain ⟨same, used, left, sameFound, turn, -⟩ := reachable_turn reachable step found
  obtain rfl := Option.some.inj (sameFound.symm.trans foundNow)
  refine ⟨found, foundNow, turn.loop, reachable_server_placed reachable,
    fun thread l cb rest => reachable_foreign reachable, fun thread top rest stack => ?_, ?_,
    turn.transmits⟩
  · have resting instruction (member : instruction ∈ rest) := resting_silent c
      ((reachable_server_orderly reachable).tail thread instruction (by rw [stack]; exact member))
    exact ⟨List.flatMap_eq_nil_iff.mpr fun instruction member => (resting instruction member).1,
      List.flatMap_eq_nil_iff.mpr fun instruction member => (resting instruction member).2⟩
  · rw [← List.flatMap_append, (step_loop (step_cases step) connection.loop_).queue,
      List.flatMap_append]

/-- Every step is a move of the mailbox of a connected connection, and of one that holds no
message. -/
theorem mailbox_moves {run : ServerRun subLoops User} {event : ServerEvent subLoops User}
    {after : ServerMachine subLoops User} {connection now : TcpConnection (LoopId subLoops)}
    (reachable : Reachable (TcpServer.system subLoops User listenFd openFds) run.now)
    (step : (TcpServer.system subLoops User listenFd openFds).step run.now event = some after)
    (found : run.now.world.find c = some connection) (foundNow : after.world.find c = some now)
    (accepts : connection.state_ = .kConnected ∨ (mailbox c connection run).held = []) :
    Mailbox.Moves (.loop connection.loop_) (mailbox c connection run)
      (mailbox c now { past := run.past ++ [(run.now, event)], now := after }) := by
  have facts := reachable_mailboxStep reachable step found foundNow
  cases step_cases step with
  | code thread input body rest world calls top executed =>
    exact facts.code accepts top (serverExecute_cases executed)
  | runHere l input cb rest top => exact facts.runHere top
  | runQueued thread input l cb rest top foreign =>
    refine facts.silent rfl (submits_run c top input fun _ same => (by cases same)) ?_ ?_ rfl
      (facts.transmits (by simp [executing, top]))
    · rw [facts.carried top, List.flatMap_cons, List.flatMap_cons, (facts.below top).1]
      exact List.append_nil _
    · rw [facts.held top, List.flatMap_cons, List.flatMap_cons, (facts.below top).2]
      rfl
  | pushBack thread input l cb rest top => exact facts.pushBack top
  | quit thread input l rest top =>
    refine facts.silent rfl (submits_run c top input fun _ same => (by cases same)) ?_ ?_
      (facts.queue.trans (by simp [pushes, instructionOf_run top]))
      (facts.transmits (by simp [executing, top]))
    · rw [facts.carried top, List.flatMap_cons, (facts.below top).1]
      rfl
    · rw [facts.held top, List.flatMap_cons, (facts.below top).2]
      rfl
  | wakeup thread input l rest top =>
    refine facts.silent rfl (submits_run c top input fun _ same => (by cases same)) ?_ ?_
      (facts.queue.trans (by simp [pushes, instructionOf_run top]))
      (facts.transmits (by simp [executing, top]))
    · rw [facts.carried top, (facts.below top).1]
      rfl
    · rw [facts.held top, (facts.below top).2]
      rfl
  | destroy thread input cb rest top =>
    refine facts.silent rfl (submits_run c top input fun _ same => (by cases same)) ?_ ?_ rfl
      (facts.transmits (by simp [executing, top]))
    · rw [facts.carried top, (facts.below top).1]
      rfl
    · rw [facts.held top, (facts.below top).2]
      rfl
  | move l active input eventLoop idle moved =>
    exact facts.silent (Function.update_eq_self (.loop l) _).symm rfl rfl rfl
      (facts.uncalled rfl (head_of_move moved)) (facts.transmits fun _ same => by cases same)
  | poll l active input world idle place distinct bounded counted polled =>
    exact facts.silent (Function.update_eq_self (.loop l) _).symm rfl rfl rfl
      (facts.uncalled rfl (by rw [place]; rfl)) (facts.transmits fun _ same => by cases same)
  | dispatch l active input ch rest idle place =>
    obtain ⟨carriesNone, holdsNone⟩ := handleEvent_message subLoops c ch
    exact facts.silent rfl rfl (carriesNone.trans (by rw [idle]; rfl))
      (holdsNone.trans (by rw [idle]; rfl)) (facts.uncalled rfl (by rw [place]; rfl))
      (facts.transmits fun _ same => by cases same)
  | invoke l active input executed cb rest next idle place => exact facts.invoke idle place
  | clear l active input cb rest next idle place =>
    exact facts.silent (Function.update_eq_self (.loop l) _).symm rfl rfl rfl
      (facts.uncalled rfl (by rw [place]; rfl)) (facts.transmits fun _ same => by cases same)
  | begin thread input world calls idle outside begun =>
    obtain ⟨carriesNone, holdsNone⟩ := begin_message c (serverBegin_cases begun)
    exact facts.silent rfl rfl (carriesNone.trans (by rw [idle]; rfl))
      (holdsNone.trans (by rw [idle]; rfl)) rfl (facts.transmits fun _ same => by cases same)

/-- A `sendInLoop` that is outstanding. -/
def Task.transmits : Task → Bool
  | .statement (.sendInLoop _) => true
  | _ => false

omit [DecidableEq User] in
/-- The mailbox of a connection that nothing has been submitted to is empty. -/
theorem mailbox_empty {run : ServerRun subLoops User} {connection : TcpConnection (LoopId subLoops)}
    (fresh : submitted c run.past = []) (none : pending c run.now Task.transmits = 0)
    (unsent : connection.transmitted = []) : mailbox c connection run = .empty := by
  have queued {cb : Functor} (outstanding : isTask c Task.transmits (.queued cb) = true → False) :
      cb.message c = [] := by
    refine (message_cases c cb).resolve_right fun ⟨msg, same, _⟩ => outstanding ?_
    rw [same]
    simp [isTask, taskOf, Task.transmits]
  ext : 1
  · exact fresh
  · funext thread
    refine List.flatMap_eq_nil_iff.mpr fun instruction member => ?_
    have outstanding {item : ServerItem} (inItems : item ∈ instruction.items) :
        isTask c Task.transmits item = true → False := fun counted =>
      (tally_pos_of_stack thread (List.mem_flatMap.mpr ⟨instruction, member, inItems⟩) counted).ne'
        none
    cases instruction with
    | call made =>
      cases made with
      | runInLoop l cb => exact queued (outstanding List.mem_cons_self)
      | queueInLoop l cb => exact queued (outstanding List.mem_cons_self)
      | _ => rfl
    | _ => rfl
  · refine List.flatMap_eq_nil_iff.mpr fun cb member => queued fun counted => ?_
    refine (tally_pos_of_loop connection.loop_ ?_ counted).ne' none
    rcases List.mem_append.mp member with uncalled | pending
    · exact List.mem_append_right _ (List.mem_append_left _
        (List.mem_append_right _ (List.mem_map_of_mem uncalled)))
    · exact List.mem_append_left _ (List.mem_map_of_mem pending)
  · refine List.flatMap_eq_nil_iff.mpr fun instruction member => ?_
    unfold holds
    split
    · rename_i d msg
      refine if_neg fun same => ?_
      refine (tally_pos_of_stack _
        (List.mem_flatMap.mpr ⟨_, member, List.mem_cons_self⟩) ?_).ne' none
      simp [isTask, taskOf, Task.transmits, same]
    · rfl
  · exact unsent

/-- The mailbox of an open connection is ordered, and nothing has been submitted to it before the
connection is registered. -/
theorem reachable_mailbox
    {guard : Guard (ServerRun subLoops User) (ServerEvent subLoops User)}
    {run : ServerRun subLoops User}
    (reachable : ReachableBy (TcpServer.system subLoops User listenFd openFds).recorded guard run) :
    (∀ connection, run.now.world.find c = some connection → connection.state_.opened = true →
        Mailbox.Ordered (.loop connection.loop_) (mailbox c connection run)) ∧
      ((∀ connection, run.now.world.find c = some connection → connection.state_ = .kConnecting) →
        submitted c run.past = []) := by
  refine reachable.invariant (fun run => (∀ connection, run.now.world.find c = some connection →
      connection.state_.opened = true →
        Mailbox.Ordered (.loop connection.loop_) (mailbox c connection run)) ∧
    ((∀ connection, run.now.world.find c = some connection → connection.state_ = .kConnecting) →
      submitted c run.past = [])) ?_ ?_
  · rintro run ⟨fresh, initial⟩
    refine ⟨fun connection found => ?_, fun _ => by rw [fresh]; rfl⟩
    rw [show run.now = _ from initial] at found
    cases found
  · intro run event after before ⟨ordered, unsubmitted⟩ _ step
    have reached : Reachable (TcpServer.system subLoops User listenFd openFds) run.now :=
      before.now fun _ _ _ => trivial
    obtain ⟨taken, past⟩ := recorded_step step
    have isAfter : after = { past := run.past ++ [(run.now, event)], now := after.now } := by
      rw [← past]
    have grows : submitted c after.past = submitted c run.past ++ submits c (run.now, event) := by
      rw [past, submitted, List.flatMap_append, List.flatMap_singleton]
      rfl
    cases found : run.now.world.find c with
    | none =>
      have fresh : submitted c after.past = [] := by
        have before : submitted c run.past = [] :=
          unsubmitted fun connection same => by cases found.symm.trans same
        rw [grows, before, submits_eq_nil c (by rw [found]; nofun)]
        rfl
      refine ⟨fun now foundNow _ => ?_, fun _ => fresh⟩
      rcases reachable_birth reached taken found (reachable_unborn reached found) with
        ⟨still, -⟩ | ⟨subLoop, fd, born, -, -, tasks⟩
      · cases still.symm.trans foundNow
      · obtain rfl := Option.some.inj (born.symm.trans foundNow)
        rw [mailbox_empty fresh (tasks _) rfl]
        exact Mailbox.ordered_empty _
    | some connection =>
      obtain ⟨now, used, left, isNow, turn, exchange⟩ := reachable_turn reached taken found
      have connecting (kept : now.state_ = .kConnecting) : submitted c run.past = [] :=
        unsubmitted fun other same => by
          rw [← Option.some.inj (found.symm.trans same)]
          exact turn.connecting kept
      refine ⟨fun other foundNow opened => ?_, fun kept => ?_⟩
      · obtain rfl := Option.some.inj (isNow.symm.trans foundNow)
        have wasOpened := turn.opened (reachable_lively reached found) exchange opened
        have wasOrdered := ordered connection found wasOpened
        rw [isAfter, turn.loop]
        refine wasOrdered.moves (mailbox_moves reached taken found isNow ?_)
        by_cases early : connection.state_ = .kConnecting
        · refine .inr (wasOrdered.unheld (unsubmitted fun other same => ?_))
          rw [← Option.some.inj (found.symm.trans same)]
          exact early
        · exact .inl (connected_of_opened wasOpened early)
      · rw [grows, connecting (kept now isNow), submits_eq_nil c]
        · rfl
        · rw [found, Option.map_some, turn.connecting (kept now isNow)]
          nofun

/-- The steps of a run in which no direct `::send` of a message of the connection fails. -/
abbrev DeliversIn (c : ConnectionId) :
    Guard (ServerRun subLoops User) (ServerEvent subLoops User) :=
  fun run event => Delivers c run.now event

/-- However many threads call `send` on a connection and however they interleave with its loop:
while the connection is connected, between two callbacks, what the kernel has accepted and what is
buffered are whole messages one after the other. Those of one thread appear in the order of its
calls, those that do not appear yet are behind them in functors that are queued, and behind these is
the message of a call that has not returned. -/
theorem sends_in_order {run : ServerRun subLoops User}
    {connection : TcpConnection (LoopId subLoops)}
    (reachable : ReachableBy (TcpServer.system subLoops User listenFd openFds).recorded
      (DeliversIn c) run)
    (found : run.now.world.find c = some connection) (connected : connection.state_ = .kConnected)
    (idle : run.now.stack (.loop connection.loop_) = []) :
    ∃ appeared queued : List (Thread (LoopId subLoops) User × Bytes),
      connection.acceptedBytes ++ connection.output_buffer_ = appeared.flatMap Prod.snd ∧
        queued.map Prod.snd =
          (run.now.loop connection.loop_).waiting.flatMap (Functor.message c) ∧
        ∀ thread, Mailbox.sentBy thread (appeared ++ queued) ++
          (run.now.stack thread).flatMap (carries c) =
            Mailbox.sentBy thread (submitted c run.past) := by
  have delivers : ReachableBy (TcpServer.system subLoops User listenFd openFds) (Delivers c)
      run.now := reachable.now fun _ _ permitted => permitted
  obtain ⟨appeared, held, queued, isAppeared, isHeld, isQueued, -, order⟩ :=
    (reachable_mailbox reachable).1 connection found (by rw [connected]; rfl)
  have flowing := reachable_flowing delivers found
  have unused {kind : Task → Bool} (inHand : ∀ task, kind task = true → task.inHand = true) :
      pending c run.now kind = 0 :=
    reachable_hand_idle delivers.reachable (loopOf_eq found) idle inHand
  have whole := flowing.whole (reachable_lively delivers.reachable found) connected
    (unused ending_inHand)
  have unheld : (run.now.stack (.loop connection.loop_)).flatMap (holds c) = [] := by
    rw [idle]
    rfl
  obtain rfl := List.map_eq_nil_iff.mp (isHeld.trans unheld)
  simp only [List.append_nil] at order
  refine ⟨appeared, queued, ?_, isQueued, order⟩
  rw [← flowing.idle whole (unused sending_inHand), ← flatten_transmitted,
    show connection.transmitted = appeared.map Prod.snd from isAppeared.symm, List.flatMap_def]

end Reachable

/-- A message that the loop echoes overtakes one that a user thread has queued. -/
theorem sends_in_order_overtaken : ∃ run : ServerRun 1 Unit, ∃ connection appeared queued,
    run.now.world.find 0 = some connection ∧ connection.output_buffer_ = [2, 3] ∧
      submitted 0 run.past = [(.user (), [9]), (.loop (some 0), [1, 2, 3])] ∧
      connection.acceptedBytes ++ connection.output_buffer_ = appeared.flatMap Prod.snd ∧
      queued.map Prod.snd = [[9]] ∧
      ∀ thread, Mailbox.sentBy thread (appeared ++ queued) ++
        (run.now.stack thread).flatMap (carries 0) =
          Mailbox.sentBy thread (submitted 0 run.past) := by
  have overtaken : ∃ run, ReachableBy (TcpServer.system 1 Unit 3 fun _ => false).recorded
        (DeliversIn 0) run ∧
      ∃ connection ∈ run.now.world.find 0, connection.output_buffer_ = [2, 3] ∧
        submitted 0 run.past = [(.user (), [9]), (.loop (some 0), [1, 2, 3])] ∧
        connection.state_ = .kConnected ∧ run.now.stack (.loop connection.loop_) = [] ∧
        (run.now.loop connection.loop_).waiting.flatMap (Functor.message 0) = [[9]] :=
    exists_of_replay (initial_recorded rfl)
      (acceptRun ++ registration ++ receives [.data [1, 2, 3], .again] ++
        .begin (.user ()) (.user (.send 0 [9])) :: List.replicate 6 (steps (.user ())) ++
        echoes (.count 1)) (by decide)
  obtain ⟨run, reachable, connection, found, output, submits, connected, idle, waits⟩ := overtaken
  obtain ⟨appeared, queued, bytes, isQueued, order⟩ :=
    sends_in_order reachable found connected idle
  exact ⟨run, connection, appeared, queued, found, output, submits, bytes, isQueued.trans waits,
    order⟩

end MultiReactor
