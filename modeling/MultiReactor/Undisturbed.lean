/-
This file is about a connection on which no user thread makes a call. Nothing
but its registration is outstanding for it while it is connecting, nobody asks
for it to be closed, and while it is connected all that is under way of it lies
on the stack of its loop or in the batch of its loop. Nothing of it waits in a
queue then, so what the loop does next of it does not depend on any other
thread.
-/

import MultiReactor.Batches
import MultiReactor.Echo
import MultiReactor.Interest
import MultiReactor.Solo

namespace MultiReactor

open Transition

variable {subLoops : Nat} {User : Type}

/-! ### The guard -/

/-- The call is not about the connection. -/
def UserCall.avoids (c : ConnectionId) (call : UserCall subLoops) : Bool :=
  match call.target with
  | some (d, _) => c ≠ d
  | none => true

def Input.avoids (c : ConnectionId) : Input subLoops → Bool
  | .user call => call.avoids c
  | _ => true

/-- The event is no call of a user thread on the connection. -/
def avoids (c : ConnectionId) : ServerEvent subLoops User → Bool
  | .begin _ input => input.avoids c
  | _ => true

/-- No user thread makes a call on the connection. -/
def Undisturbed (c : ConnectionId) :
    Guard (ServerMachine subLoops User) (ServerEvent subLoops User) :=
  fun _ event => avoids c event = true

instance (c : ConnectionId) (machine : ServerMachine subLoops User)
    (event : ServerEvent subLoops User) : Decidable (Undisturbed c machine event) :=
  inferInstanceAs (Decidable (_ = true))

theorem avoids_spares {c : ConnectionId} {input : Input subLoops}
    (avoids : input.avoids c = true) : input.spares c = true := by
  cases input with
  | user call =>
    unfold Input.spares UserCall.spares
    unfold Input.avoids UserCall.avoids at avoids
    dsimp only at avoids ⊢
    split at avoids
    · rename_i d body target
      rw [target]
      cases body <;> first | rfl | exact avoids
    · rename_i target
      rw [target]
  | _ => rfl

/-- A user thread begins no call on the connection. -/
theorem Undisturbed.other {c : ConnectionId} {machine : ServerMachine subLoops User} {t : User}
    {call : UserCall subLoops} (undisturbed : Undisturbed c machine (.begin (.user t) (.user call)))
    {body : Statement} : call.target ≠ some (c, body) := by
  intro target
  have avoids : call.avoids c = true := undisturbed
  simp [UserCall.avoids, target] at avoids

/-! ### Nobody asks for the close -/

/-- The calls of `forceClose` and what they lead to before `handleClose`. -/
def Task.forcing : Task → Bool
  | .statement .forceClose => true
  | .statement .forceCloseRetest => true
  | .statement .forceCloseStore => true
  | .statement .forceCloseInLoop => true
  | .statement .forceCloseInLoopRetest => true
  | _ => false

/-- Only what comes from a call of `forceClose` leaves such a task. -/
theorem follows_forcing {body : Statement} {next : Next} {task : Task}
    (follows : body.follows next = true) (isTask : next.task = some task)
    (forcing : task.forcing = true) : Task.forcing (.statement body) = true := by
  cases next with
  | statement after | runInLoop after =>
    obtain rfl := Option.some.inj isTask
    cases after <;> first | (cases forcing; done) | (cases body <;> first | rfl | cases follows)
  | closeCallback =>
    obtain rfl := Option.some.inj isTask
    cases forcing
  | release => cases isTask

/-- A connection on which no user thread makes a call. -/
structure Calm (connection : TcpConnection (LoopId subLoops)) (count : (Task → Bool) → Nat) :
    Prop where
  forcing : count Task.forcing = 0
  state : connection.state_ ≠ .kDisconnecting
  connecting : connection.state_ = .kConnecting →
    ∃ task, task.establishing = true ∧ ∀ kind, count kind = [task].countP kind

section Calm

variable {connection now : TcpConnection (LoopId subLoops)} {stored storedNow : Nat}
  {count countNow : (Task → Bool) → Nat} {used left : List Task} {c : ConnectionId}
  {machine : ServerMachine subLoops User} {event : ServerEvent subLoops User}

/-- The one task of a connection that is connecting. -/
theorem Calm.only (calm : Calm connection count) (connecting : connection.state_ = .kConnecting)
    {task : Task} (outstanding : ∀ kind, kind task = true → 0 < count kind) :
    task.establishing = true ∧ ∀ kind, count kind = [task].countP kind := by
  obtain ⟨only, establishing, counts⟩ := calm.connecting connecting
  have held := outstanding (fun other => decide (other = task)) (decide_eq_true rfl)
  rw [counts] at held
  obtain ⟨other, member, same⟩ := List.countP_pos_iff.mp held
  obtain rfl := List.mem_singleton.mp member
  obtain rfl := of_decide_eq_true same
  exact ⟨establishing, counts⟩

/-- A task that is used up is outstanding. -/
theorem Exchanges.outstanding (exchange : Exchanges count countNow used left) {task : Task}
    (member : task ∈ used) {kind : Task → Bool} (counted : kind task = true) : 0 < count kind :=
  (List.countP_pos_iff.mpr ⟨task, member, counted⟩).trans_le (exchange kind).1

/-- Executing a statement keeps the connection calm. -/
theorem Calm.statement {body : Statement} {io : IoResult} {outcome : Outcome (LoopId subLoops)}
    (calm : Calm connection count) (executes : Executes connection body io outcome)
    (exchange : Exchanges count countNow [.statement body] (outcome.next.filterMap Next.task)) :
    Calm outcome.connection countNow := by
  have unforced : Task.forcing (.statement body) = false := by
    by_contra forcing
    have held := exchange.outstanding List.mem_cons_self (Bool.eq_true_of_not_eq_false forcing)
    rw [calm.forcing] at held
    cases held
  have state := executes.state
  refine ⟨?_, ?_, fun connecting => ?_⟩
  · have leaves : (outcome.next.filterMap Next.task).countP Task.forcing = 0 := by
      refine List.countP_eq_zero.mpr fun task member forcing => ?_
      obtain ⟨next, inNext, isTask⟩ := List.mem_filterMap.mp member
      have forced := follows_forcing (executes.keeps.follows next inNext) isTask forcing
      rw [unforced] at forced
      cases forced
    have change := exchange Task.forcing
    have before := calm.forcing
    omega
  · intro disconnecting
    rw [disconnecting] at state
    cases body <;>
      first | exact calm.state state.symm | (cases unforced; done) | cases state
  · rw [connecting] at state
    have before : connection.state_ = .kConnecting := by
      cases body <;> first | exact state.symm | cases state
    obtain ⟨establishing, counts⟩ :=
      calm.only before fun kind => exchange.outstanding List.mem_cons_self
    -- the registration is handed to the loop
    cases executes with
    | connectEstablished io =>
      refine ⟨.statement .connectEstablishedInLoop, rfl, fun kind => ?_⟩
      have change := (exchange kind).2
      rw [counts] at change
      have kept : countNow kind = [Task.statement .connectEstablishedInLoop].countP kind :=
        Nat.add_right_cancel (change.trans (Nat.add_comm ..))
      exact kept
    | connectEstablishedInLoop io => cases connecting
    | _ => cases establishing

/-- A turn that executes no statement and leaves no other task than it uses up keeps the connection
calm. -/
theorem Calm.stays (calm : Calm connection count) (exchange : Exchanges count countNow used left)
    (state : now.state_ = connection.state_) (unforced : left.countP Task.forcing = 0)
    (connected : connection.state_ = .kConnecting → used = [] ∧ left = []) :
    Calm now countNow := by
  refine ⟨?_, state ▸ calm.state, fun connecting => ?_⟩
  · have change := exchange Task.forcing
    have before := calm.forcing
    omega
  · rw [state] at connecting
    obtain ⟨rfl, rfl⟩ := connected connecting
    refine (calm.connecting connecting).imp fun task only => only.imp_right fun counts kind => ?_
    exact (exchange kind).2.trans (counts kind)

/-- Every turn without a call of a user thread keeps the connection calm. -/
theorem Calm.turn (calm : Calm connection count) (wired : Wired machine.world)
    (fresh : connection.state_ = .kConnecting → connection.channel_.index_ = -1)
    (found : machine.world.find c = some connection) (undisturbed : Undisturbed c machine event)
    (turn : Turn machine c event connection stored now storedNow used left)
    (exchange : Exchanges count countNow used left) : Calm now countNow := by
  -- nothing but the registration is used up while the connection is connecting
  have settled {task : Task} (member : task ∈ used) (other : task.establishing = false) :
      connection.state_ ≠ .kConnecting := fun connecting => by
    have only := (calm.only connecting fun kind => exchange.outstanding member).1
    rw [other] at only
    cases only
  cases turn with
  | statement thread input body rest connection stored outcome top alive executes =>
    exact calm.statement executes exchange
  | removeConnection | removedAlready | removed | delivered =>
    exact calm.stays exchange rfl rfl fun connecting =>
      absurd connecting (settled List.mem_cons_self rfl)
  | reported l active mask connection stored idle place member alive registered =>
    obtain ⟨registrant, registrantFound, -, -, added⟩ := wired.registrant registered
    obtain rfl := Option.some.inj (found.symm.trans registrantFound)
    refine calm.stays exchange rfl rfl fun connecting => ?_
    rw [fresh connecting] at added
    cases added
  | requested t call connection stored body made => exact absurd made undisturbed.other
  | shared | dropped | bystander => exact calm.stays exchange rfl rfl fun _ => ⟨rfl, rfl⟩

/-- A turn of a connection that has been closed and is not being registered leaves it closed. -/
theorem Calm.closed (calm : Calm connection count) (established : count Task.establishing = 0)
    (closed : connection.state_ = .kDisconnected)
    (turn : Turn machine c event connection stored now storedNow used left)
    (exchange : Exchanges count countNow used left) : now.state_ = .kDisconnected := by
  cases turn with
  | statement thread input body rest connection stored outcome top alive executes =>
    rw [executes.state, closed]
    have unused (kind : Task → Bool) (none : count kind = 0) : kind (.statement body) = false := by
      by_contra counted
      have held := exchange.outstanding List.mem_cons_self (Bool.eq_true_of_not_eq_false counted)
      rw [none] at held
      cases held
    cases body with
    | connectEstablishedInLoop => cases unused Task.establishing established
    | forceCloseStore => cases unused Task.forcing calm.forcing
    | _ => rfl
  | _ => exact closed

end Calm

section Reachable

variable [DecidableEq User] [Fintype User] {listenFd : Nat} {openFds : Nat → Bool}
  {machine : ServerMachine subLoops User} {c : ConnectionId}
  {connection : TcpConnection (LoopId subLoops)}

/-- A connection on which no user thread makes a call is calm. -/
theorem reachable_calm
    (reachable : ReachableBy (TcpServer.system subLoops User listenFd openFds) (Undisturbed c)
      machine) (found : machine.world.find c = some connection) :
    Calm connection (pending c machine) := by
  refine connection_invariant c (fun connection _ => Calm connection) ?_ ?_ reachable found
  · exact fun subLoop fd _ => ⟨rfl, nofun, fun _ => ⟨_, rfl, fun _ => rfl⟩⟩
  · intro machine event connection stored now storedNow used left after before undisturbed found
      calm turn exchange
    have lively := reachable_lively before.reachable found
    exact calm.turn (reachable_wired before.reachable)
      (fun connecting => (lively.connecting connecting).1) found undisturbed turn exchange

/-- Nothing that sends on the connection is queued. -/
theorem reachable_undisturbed_placed
    (reachable : ReachableBy (TcpServer.system subLoops User listenFd openFds) (Undisturbed c)
      machine) : Placed (echoPlacement subLoops User c) machine :=
  reachable_placed (echo_respects subLoops User c)
    (fun _ _ _ undisturbed => avoids_spares undisturbed)
    (fun _ before => reachable_wired before.reachable) reachable

/-- A connected connection is neither being registered nor asked to close, and nothing that comes
after a close is outstanding for it. -/
theorem connected_task
    (reachable : ReachableBy (TcpServer.system subLoops User listenFd openFds) (Undisturbed c)
      machine) (found : machine.world.find c = some connection)
    (connected : connection.state_ = .kConnected) {task : Task}
    (outstanding : ∀ kind, kind task = true → 0 < pending c machine kind) :
    task.establishing = false ∧ task.late = false ∧ task.forcing = false := by
  have lively := reachable_lively reachable.reachable found
  refine ⟨?_, ?_, ?_⟩
  · by_contra establishing
    have held := outstanding _ (Bool.eq_true_of_not_eq_false establishing)
    rw [lively.establishing, connected] at held
    cases held
  · by_contra late
    have closed := lively.late (outstanding _ (Bool.eq_true_of_not_eq_false late))
    rw [lively.opened (.inr connected)] at closed
    cases closed
  · by_contra forcing
    have held := outstanding _ (Bool.eq_true_of_not_eq_false forcing)
    rw [(reachable_calm reachable found).forcing] at held
    cases held

end Reachable

/-! ### Where it lies -/

/-- The task an instruction of a stack is, is outstanding. -/
theorem outstanding_of_stack [Fintype User] {machine : ServerMachine subLoops User}
    {c : ConnectionId} {thread : Thread (LoopId subLoops) User}
    {instruction : Instruction (LoopId subLoops) Functor ServerCode} {item : ServerItem}
    {task : Task} (onStack : instruction ∈ machine.stack thread)
    (inItems : item ∈ instruction.items) (isTask : taskOf item = some (c, task))
    (kind : Task → Bool) (counted : kind task = true) : 0 < pending c machine kind :=
  tally_pos_of_stack thread (List.mem_flatMap.mpr ⟨instruction, onStack, inItems⟩)
    (by simp [MultiReactor.isTask, isTask, counted])

/-- The task an item of a loop is, is outstanding. -/
theorem outstanding_of_loop [Fintype User] {machine : ServerMachine subLoops User}
    {c : ConnectionId} {l : LoopId subLoops} {item : ServerItem} {task : Task}
    (member : item ∈ (machine.loop l).items) (isTask : taskOf item = some (c, task))
    (kind : Task → Bool) (counted : kind task = true) : 0 < pending c machine kind :=
  tally_pos_of_loop l member (by simp [MultiReactor.isTask, isTask, counted])

/-- A functor that is neither part of the registration nor of a close, and that belongs in the
queue of the connection's loop if it must run there, sends on the connection. -/
theorem sends_of_plain {c : ConnectionId} {body : Statement}
    (plain : Task.establishing (.statement body) = false ∧
      Task.late (.statement body) = false ∧ Task.forcing (.statement body) = false)
    (bound : body.inLoop = true → body.bound = true) : (Functor.bind c body).sends c = true := by
  obtain ⟨established, early, unforced⟩ := plain
  cases body with
  | send msg | sendInLoop msg => exact decide_eq_true rfl
  | connectEstablished | connectEstablishedInLoop => cases established
  | connectDestroyed | connectDestroyedInLoop => cases early
  | forceClose | forceCloseRetest | forceCloseStore | forceCloseInLoop => cases unforced
  | _ => cases bound rfl

section Connected

variable [DecidableEq User] [Fintype User] {listenFd : Nat} {openFds : Nat → Bool}
  {machine : ServerMachine subLoops User} {c : ConnectionId}
  {connection : TcpConnection (LoopId subLoops)}

/-- What a thread hands to a loop for a connected connection, the connection's loop hands to
itself. -/
theorem handed_here
    (reachable : ReachableBy (TcpServer.system subLoops User listenFd openFds) (Undisturbed c)
      machine) (found : machine.world.find c = some connection)
    (connected : connection.state_ = .kConnected) {thread : Thread (LoopId subLoops) User}
    {l : LoopId subLoops} {body : Statement}
    (onStack : .call (.runInLoop l (.bind c body)) ∈ machine.stack thread) :
    thread = .loop l := by
  obtain ⟨⟨belongs, -⟩, echoes⟩ :=
    (reachable_undisturbed_placed reachable).stack thread _ onStack
  have plain := connected_task reachable found connected
    (outstanding_of_stack onStack List.mem_cons_self rfl)
  exact (echoes (sends_of_plain plain fun inLoop => (belongs inLoop).1)).2

/-- No functor for a connected connection waits to be called. -/
theorem none_waiting
    (reachable : ReachableBy (TcpServer.system subLoops User listenFd openFds) (Undisturbed c)
      machine) (found : machine.world.find c = some connection)
    (connected : connection.state_ = .kConnected) {l : LoopId subLoops} {cb : Functor}
    (waiting : cb ∈ (machine.loop l).waiting) (body : Statement) : cb ≠ .bind c body := by
  rintro rfl
  obtain ⟨belongs, unsent⟩ := (reachable_undisturbed_placed reachable).queue l _ waiting
  have member : (.queued (.bind c body) : ServerItem) ∈ (machine.loop l).items := by
    simpa [EventLoop.items, Position.items, EventLoop.waiting, or_comm] using waiting
  have plain := connected_task reachable found connected (outstanding_of_loop member rfl)
  rw [sends_of_plain plain fun inLoop => (belongs inLoop).1] at unsent
  cases unsent

/-- A statement of a connected connection is executed by the thread of its loop. -/
theorem executed_here
    (reachable : ReachableBy (TcpServer.system subLoops User listenFd openFds) (Undisturbed c)
      machine) (found : machine.world.find c = some connection)
    (connected : connection.state_ = .kConnected) {thread : Thread (LoopId subLoops) User}
    {body : Statement} (onStack : .call (.code (.connection c body)) ∈ machine.stack thread) :
    thread = .loop connection.loop_ := by
  obtain ⟨placed, echoes⟩ := (reachable_undisturbed_placed reachable).stack thread _ onStack
  obtain ⟨established, -, unforced⟩ := connected_task reachable found connected
    (outstanding_of_stack onStack List.mem_cons_self rfl)
  have here : ∃ l, machine.world.loopOf c = some l ∧ thread = .loop l := by
    cases body with
    | send msg => exact echoes rfl
    | connectEstablished => cases established
    | forceClose | forceCloseRetest | forceCloseStore => cases unforced
    | _ => exact placed rfl
  obtain ⟨l, isLoop, rfl⟩ := here
  rw [Option.some.inj (isLoop.symm.trans (loopOf_eq found))]

end Connected

/-! ### What is under way -/

/-- The statement of the connection that an instruction leads to. -/
def Instruction.bodyOf (c : ConnectionId) :
    Instruction (LoopId subLoops) Functor ServerCode → Option Statement
  | .call (.code (.connection d body)) => if d = c then some body else none
  | .call (.runInLoop _ (.bind d body)) => if d = c then some body else none
  | _ => none

/-- The statements of the connection that lie on a stack. -/
def bodiesOf (c : ConnectionId)
    (stack : List (Instruction (LoopId subLoops) Functor ServerCode)) : List Statement :=
  stack.filterMap (Instruction.bodyOf c)

/-- What a loop has under way of a connection: what lies on its stack, and the tests of
`handleEvent` if the channel is ahead in the batch. -/
def underWay (c : ConnectionId) (machine : ServerMachine subLoops User) (l : LoopId subLoops) :
    List Statement :=
  bodiesOf c (machine.stack (.loop l)) ++
    if .channel (.connection c) ∈ (machine.loop l).position.active then handleEventTests else []

section UnderWay

variable {machine after : ServerMachine subLoops User} {c : ConnectionId} {l : LoopId subLoops}

theorem bodiesOf_cons_none {instruction : Instruction (LoopId subLoops) Functor ServerCode}
    (silent : instruction.bodyOf c = none)
    (rest : List (Instruction (LoopId subLoops) Functor ServerCode)) :
    bodiesOf c (instruction :: rest) = bodiesOf c rest :=
  List.filterMap_cons_none silent

theorem bodiesOf_append (stack more : List (Instruction (LoopId subLoops) Functor ServerCode)) :
    bodiesOf c (stack ++ more) = bodiesOf c stack ++ bodiesOf c more :=
  List.filterMap_append

/-- What a statement of the connection leaves. -/
theorem bodiesOf_next (next : List Next) :
    bodiesOf c ((next.map (Next.toCall c l)).map .call) = next.filterMap Next.body := by
  unfold bodiesOf
  rw [List.map_map, List.filterMap_map]
  refine congrArg (List.filterMap · next) (funext fun each => ?_)
  cases each <;> simp [Next.toCall, Instruction.bodyOf, Next.body]

/-- What a statement of another connection leaves. -/
theorem bodiesOf_other {d : ConnectionId} (other : d ≠ c) (next : List Next) :
    bodiesOf c ((next.map (Next.toCall d l)).map .call) = [] := by
  refine List.filterMap_eq_nil_iff.mpr fun instruction member => ?_
  obtain ⟨call, inCalls, rfl⟩ := List.mem_map.mp member
  obtain ⟨next, -, rfl⟩ := List.mem_map.mp inCalls
  cases next <;> first | exact if_neg other | rfl

/-- What dispatching a channel leaves. -/
theorem bodiesOf_handleEvent (ch : ChannelId) :
    bodiesOf c (ch.handleEvent.map .call :
        List (Instruction (LoopId subLoops) Functor ServerCode)) =
      if ch = .connection c then handleEventTests else [] := by
  cases ch with
  | listen => rfl
  | connection d =>
    by_cases own : d = c <;>
      simp [bodiesOf, ChannelId.handleEvent, Instruction.bodyOf, handleEventTests, own]

/-- Other code than the connection's own leaves nothing of the connection, as long as it is not
being removed. -/
theorem bodiesOf_executes {server now : TcpServer subLoops} {body : ServerCode}
    {input : Input subLoops} {calls : List (Call (LoopId subLoops) Functor ServerCode)}
    {connection : TcpConnection (LoopId subLoops)}
    (executes : ServerExecutes server body input now calls)
    (found : server.find c = some connection) (other : ∀ own, body ≠ .connection c own)
    (kept : body ≠ .removeConnectionInLoop c) : bodiesOf c (calls.map .call) = [] := by
  cases executes with
  | connection d own input acting outcome =>
    refine bodiesOf_other (fun same => ?_) outcome.next
    subst same
    exact other own rfl
  | accepted fd fresh subLoop dealt deal =>
    obtain ⟨next, rfl⟩ := getNextLoop_eq server deal
    have born : c < server.connections.length := (List.getElem?_eq_some_iff.mp found).1
    simp [bodiesOf, Instruction.bodyOf, born.ne']
  | removeConnectionInLoop d =>
    have different : d ≠ c := fun same => kept (same ▸ rfl)
    simp [bodiesOf, Instruction.bodyOf, different]
  | _ => rfl

variable [DecidableEq User]

/-- What a thread's new stack does to what a loop has under way of the connection. -/
theorem bodiesOf_setStack {thread : Thread (LoopId subLoops) User}
    {instructions : List (Instruction (LoopId subLoops) Functor ServerCode)}
    (same : thread = .loop l → bodiesOf c instructions = bodiesOf c (machine.stack thread)) :
    bodiesOf c ((machine.setStack thread instructions).stack (.loop l)) =
      bodiesOf c (machine.stack (.loop l)) := by
  by_cases isThread : thread = .loop l
  · subst isThread
    rw [setStack_stack_self, same rfl]
  · rw [setStack_stack_of_ne _ _ (Ne.symm isThread)]

end UnderWay

/-! ### The steps of others -/

/-- The step executes a statement of the connection. -/
def ActsOn (c : ConnectionId) (machine : ServerMachine subLoops User)
    (event : ServerEvent subLoops User) : Prop :=
  ∃ thread input body rest, event = .run thread input ∧
    machine.stack thread = .call (.code (.connection c body)) :: rest

/-- In the step `epoll_wait` reports the connection's channel. -/
def Reports (c : ConnectionId) (machine : ServerMachine subLoops User)
    (event : ServerEvent subLoops User) : Prop :=
  ∃ l active mask, event = .advance l active (.revents mask) ∧
    (machine.loop l).position = .poll ∧ .channel (.connection c) ∈ active

section Others

variable [DecidableEq User] [Fintype User] {listenFd : Nat} {openFds : Nat → Bool}
  {machine after : ServerMachine subLoops User} {event : ServerEvent subLoops User}
  {c : ConnectionId} {connection : TcpConnection (LoopId subLoops)}

/-- A move of the loop's thread keeps the channel ahead in the batch. -/
theorem move_active {eventLoop moved : EventLoop Functor ChannelId}
    (move : LoopMove eventLoop moved) (ch : ChannelId) :
    .channel ch ∈ moved.position.active ↔ .channel ch ∈ eventLoop.position.active := by
  cases move <;> rename_i place <;> simp_all [EventLoop.at]

omit [DecidableEq User] [Fintype User] in
theorem underWay_congr {l : LoopId subLoops}
    (stack : bodiesOf c (after.stack (.loop l)) = bodiesOf c (machine.stack (.loop l)))
    (batch : .channel (.connection c) ∈ (after.loop l).position.active ↔
      .channel (.connection c) ∈ (machine.loop l).position.active) :
    underWay c after l = underWay c machine l := by
  unfold underWay
  rw [stack]
  exact congrArg _ (if_congr batch rfl rfl)

omit [DecidableEq User] [Fintype User] in
/-- A loop whose thread stays where it is keeps its batch. -/
theorem active_of_setLoop {l m : LoopId subLoops} (eventLoop : EventLoop Functor ChannelId)
    (position : eventLoop.position = (machine.loop m).position) :
    ((machine.setLoop m eventLoop).loop l).position.active = (machine.loop l).position.active :=
  congrArg Position.active (setLoop_position eventLoop position l)

omit [Fintype User] in
/-- Dispatching the connection's channel puts the tests that were ahead on the stack. -/
theorem underWay_dispatch {l : LoopId subLoops} {ch : ChannelId} {rest : List (Ready ChannelId)}
    (distinct : (machine.loop l).position.whole.Nodup) (idle : machine.stack (.loop l) = [])
    (place : (machine.loop l).position = .dispatch (.channel ch :: rest)) (m : LoopId subLoops) :
    underWay c ((machine.setLoop l ((machine.loop l).at (.handleEvent ch rest))).setStack
      (.loop l) (ch.handleEvent.map .call)) m = underWay c machine m := by
  by_cases same : m = l
  · subst same
    rw [place] at distinct
    obtain ⟨unrepeated, -⟩ := List.nodup_cons.mp distinct
    unfold underWay
    rw [setStack_stack_self, setStack_loop, setLoop_loop_self, idle, place,
      bodiesOf_handleEvent]
    by_cases own : ch = .connection c
    · subst own
      rw [if_pos rfl, if_neg (by exact unrepeated), if_pos (by exact List.mem_cons_self)]
      exact List.append_nil _
    · have ahead : .channel (.connection c) ∈ Ready.channel ch :: rest ↔
          .channel (.connection c) ∈ rest := by
        simp [Ne.symm own]
      rw [if_neg own]
      exact congrArg _ (if_congr ahead.symm rfl rfl)
  · unfold underWay
    rw [setStack_stack_of_ne _ _ fun equal => same (Thread.loop.inj equal), setStack_loop,
      setLoop_loop_of_ne _ _ same]
    rfl

/-- A step that neither executes a statement of a connected connection nor reports its channel
leaves alone what is under way of it. -/
theorem underWay_kept
    (reachable : ReachableBy (TcpServer.system subLoops User listenFd openFds) (Undisturbed c)
      machine) (found : machine.world.find c = some connection)
    (connected : connection.state_ = .kConnected)
    (step : Step (TcpServer.client subLoops User) machine event after)
    (foreign : ¬ ActsOn c machine event) (unreported : ¬ Reports c machine event) :
    underWay c after connection.loop_ = underWay c machine connection.loop_ := by
  have below {thread : Thread (LoopId subLoops) User}
      {top : Instruction (LoopId subLoops) Functor ServerCode}
      {rest instructions : List (Instruction (LoopId subLoops) Functor ServerCode)}
      {before : ServerMachine subLoops User} (same : before.stack = machine.stack)
      (stack : machine.stack thread = top :: rest)
      (leaves : thread = .loop connection.loop_ →
        bodiesOf c instructions = bodiesOf c (top :: rest)) :
      bodiesOf c ((before.setStack thread instructions).stack (.loop connection.loop_)) =
        bodiesOf c (machine.stack (.loop connection.loop_)) := by
    rw [← same]
    exact bodiesOf_setStack fun isThread => by rw [same, stack, leaves isThread]
  cases step with
  | code thread input body rest world calls top executed =>
    refine underWay_congr (below rfl top fun _ => ?_) Iff.rfl
    have other : ∀ own, body ≠ .connection c own := by
      rintro own rfl
      exact foreign ⟨thread, input, own, rest, rfl, top⟩
    have kept : body ≠ .removeConnectionInLoop c := by
      rintro rfl
      have onStack : .call (.code (.removeConnectionInLoop c)) ∈ machine.stack thread := by
        rw [top]
        exact List.mem_cons_self
      have plain := connected_task reachable found connected
        (outstanding_of_stack onStack List.mem_cons_self rfl)
      cases plain.2.1
    rw [bodiesOf_append, bodiesOf_executes (serverExecute_cases executed) found other kept]
    refine (bodiesOf_cons_none ?_ rest).symm
    cases body with
    | connection d own =>
      refine if_neg fun same => ?_
      subst same
      exact other own rfl
    | _ => rfl
  | runHere l input cb rest top =>
    refine underWay_congr (below rfl top fun _ => ?_) Iff.rfl
    cases cb <;> rfl
  | runQueued thread input l cb rest top here =>
    refine underWay_congr (below rfl top fun isThread => ?_) Iff.rfl
    cases cb with
    | bind d body =>
      have other : d ≠ c := by
        rintro rfl
        exact here (handed_here reachable found connected (by rw [top]; exact List.mem_cons_self))
      have silent : Instruction.bodyOf c (.call (.runInLoop l (.bind d body)) :
          Instruction (LoopId subLoops) Functor ServerCode) = none := if_neg other
      exact (bodiesOf_cons_none silent rest).symm
    | removeConnectionInLoop d => rfl
  | pushBack thread input l cb rest top =>
    refine underWay_congr (below (setLoop_stack ..) top fun _ => rfl) ?_
    rw [setStack_loop, active_of_setLoop ((machine.loop l).pushBack cb) rfl]
  | quit thread input l rest top =>
    refine underWay_congr (below (setLoop_stack ..) top fun _ => rfl) ?_
    rw [setStack_loop, active_of_setLoop (machine.loop l).storeQuit rfl]
  | wakeup thread input l rest top =>
    refine underWay_congr (below (setLoop_stack ..) top fun _ => rfl) ?_
    rw [setStack_loop, active_of_setLoop (machine.loop l).wakeup rfl]
  | destroy thread input cb rest top => exact underWay_congr (below rfl top fun _ => rfl) Iff.rfl
  | move l active input eventLoop idle moved =>
    refine underWay_congr rfl ?_
    by_cases same : connection.loop_ = l
    · subst same
      rw [setLoop_loop_self, move_active moved]
    · rw [setLoop_loop_of_ne _ _ same]
  | poll l active input world idle place distinct bounded counted polled =>
    refine underWay_congr rfl ?_
    by_cases same : connection.loop_ = l
    · subst same
      obtain ⟨mask, rfl, -⟩ := serverPoll_cases polled
      have absent : .channel (.connection c) ∉ active := fun member =>
        unreported ⟨_, active, mask, rfl, place, member⟩
      rw [setLoop_loop_self, place]
      simp [EventLoop.at, absent]
    · rw [setLoop_loop_of_ne _ _ same]
      rfl
  | dispatch l active input ch rest idle place =>
    exact underWay_dispatch (reachable_distinct reachable.reachable l) idle place _
  | invoke l active input executed cb rest next idle place =>
    by_cases same : connection.loop_ = l
    · subst same
      have waiting : cb ∈ (machine.loop connection.loop_).waiting := by
        rw [EventLoop.waiting, place]
        exact List.mem_cons_self
      have unleft : bodiesOf c ((cb.invoke).map .call :
          List (Instruction (LoopId subLoops) Functor ServerCode)) = [] := by
        cases cb with
        | bind d body =>
          have other : d ≠ c := by
            rintro rfl
            exact none_waiting reachable found connected waiting body rfl
          have silent : Instruction.bodyOf c (.call (.code (.connection d body)) :
              Instruction (LoopId subLoops) Functor ServerCode) = none := if_neg other
          exact bodiesOf_cons_none silent []
        | removeConnectionInLoop d => rfl
      refine underWay_congr ?_ ?_
      · rw [setStack_stack_self, idle]
        exact unleft
      · rw [setStack_loop, setLoop_loop_self, place]
        rfl
    · refine underWay_congr ?_ ?_
      · rw [setStack_stack_of_ne _ _ fun equal => same (Thread.loop.inj equal)]
        rfl
      · rw [setStack_loop, setLoop_loop_of_ne _ _ same]
  | clear l active input cb rest next idle place =>
    refine underWay_congr rfl ?_
    by_cases same : connection.loop_ = l
    · subst same
      rw [setLoop_loop_self, place]
      rfl
    · rw [setLoop_loop_of_ne _ _ same]
      rfl
  | begin thread input world calls idle outside begun =>
    refine underWay_congr ?_ Iff.rfl
    have user : thread ≠ .loop connection.loop_ := by
      cases serverBegin_cases begun <;> exact fun same => by cases same
    rw [setStack_stack_of_ne _ _ user.symm]
    rfl

end Others

end MultiReactor
