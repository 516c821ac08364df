/-
This file proves that an open connection echoes what it receives, byte for byte
and in order. As long as no user sends on a connection, what is passed to `send`
comes from `handleRead` on the connection's own loop, where `runInLoop` calls
`sendInLoop` at once: no message waits in a queue, and there is one at most on
its way. So between two callbacks everything received has been echoed,
everything echoed has been transmitted, and everything transmitted has been
accepted or is in the output buffer.
-/

import MultiReactor.Sending

namespace MultiReactor

open Transition

variable {subLoops : Nat} {User : Type}

/-! ### Messages stay on the loop -/

/-- A functor that sends on the connection. -/
def Functor.sends (c : ConnectionId) : Functor → Bool
  | .bind d (.send _) => c = d
  | .bind d (.sendInLoop _) => c = d
  | _ => false

/-- A call that sends on the connection is made by the thread of its loop, and is not put in a
queue. -/
def Call.echoes (c : ConnectionId) (server : TcpServer subLoops)
    (thread : Thread (LoopId subLoops) User) : Call (LoopId subLoops) Functor ServerCode → Prop
  | .code (.connection d (.send _)) => c = d → ∃ l, server.loopOf c = some l ∧ thread = .loop l
  | .runInLoop l cb => cb.sends c = true → server.loopOf c = some l ∧ thread = .loop l
  | .queueInLoop _ cb => cb.sends c = false
  | _ => True

/-- Where everything belongs while the connection's own loop is the only one that sends on it: no
functor that does so is queued. -/
def echoPlacement (subLoops : Nat) (User : Type) (c : ConnectionId) :
    Placement (LoopId subLoops) User Functor ChannelId ServerCode (TcpServer subLoops) where
  grows := (serverPlacement subLoops User).grows
  call server thread made :=
    (serverPlacement subLoops User).call server thread made ∧ made.echoes c server thread
  functor server l cb := cb.belongs server l ∧ cb.sends c = false
  channel := (serverPlacement subLoops User).channel

section Echoes

variable {c : ConnectionId} {server after : TcpServer subLoops}
  {thread : Thread (LoopId subLoops) User}

theorem echoes_statement {d : ConnectionId} {body : Statement}
    (here : ∀ msg, body = .send msg → c = d → ∃ l, server.loopOf c = some l ∧ thread = .loop l) :
    (Call.code (.connection d body) : Call (LoopId subLoops) Functor ServerCode).echoes c server
      thread := by
  cases body with
  | send msg => exact here msg rfl
  | _ => trivial

theorem echoes_grows (grows : ∀ c l, server.loopOf c = some l → after.loopOf c = some l)
    {made : Call (LoopId subLoops) Functor ServerCode} (echoes : made.echoes c server thread) :
    made.echoes c after thread := by
  cases made with
  | code body =>
    cases body with
    | connection d body =>
      refine echoes_statement fun msg isSend same => ?_
      subst isSend
      exact (echoes same).imp fun l here => here.imp_left (grows c l)
    | _ => trivial
  | runInLoop l cb => exact fun sends => (echoes sends).imp_left (grows c l)
  | queueInLoop l cb => exact echoes
  | quit l => trivial

/-- The call of a functor on the connection's loop. -/
theorem echoes_invoke {l : LoopId subLoops} {cb : Functor}
    (here : cb.sends c = true → server.loopOf c = some l) :
    ∀ made ∈ (cb.invoke : List (Call (LoopId subLoops) Functor ServerCode)),
      made.echoes c server (.loop l : Thread _ User) := by
  intro made member
  cases cb with
  | bind d body =>
    obtain rfl := List.mem_singleton.mp member
    refine echoes_statement fun msg isSend same => ?_
    subst isSend
    exact ⟨l, here (decide_eq_true same), rfl⟩
  | removeConnectionInLoop d =>
    obtain rfl := List.mem_singleton.mp member
    trivial

/-- What a statement leaves stays on the connection's loop. -/
theorem echoes_executes {body : ServerCode} {input : Input subLoops}
    {calls : List (Call (LoopId subLoops) Functor ServerCode)}
    (executes : ServerExecutes server body input after calls)
    (grows : ∀ c l, server.loopOf c = some l → after.loopOf c = some l)
    (placed : (echoPlacement subLoops User c).call server thread (.code body)) :
    ∀ made ∈ calls, made.echoes c after thread := by
  intro made member
  cases executes with
  | connection d body input connection outcome found alive executes =>
    obtain ⟨next, inNext, rfl⟩ := List.mem_map.mp member
    have follows := executes.keeps.follows next inNext
    cases next with
    | statement next =>
      refine echoes_statement fun msg isSend same => ?_
      subst isSend same
      -- only `handleRead`, on the connection's loop, calls `send`
      cases body with
      | handleReadEcho => exact (placed.1 rfl).imp fun l here => here.imp_left (grows c l)
      | _ => cases follows
    | runInLoop next =>
      intro sends
      cases next with
      | send msg => cases body <;> cases follows
      | sendInLoop msg =>
        obtain rfl : c = d := of_decide_eq_true sends
        cases body with
        | send other =>
          obtain ⟨l, here, isThread⟩ := placed.2 rfl
          obtain rfl := Option.some.inj (here.symm.trans (loopOf_eq found))
          exact ⟨grows _ _ here, isThread⟩
        | _ => cases follows
      | _ => cases sends
    | closeCallback => trivial
    | release => trivial
  | listenCallback input masked =>
    obtain rfl := List.mem_singleton.mp member
    trivial
  | listenIgnored input => cases member
  | acceptEnds result ends => cases member
  | acceptRefused fd fresh =>
    obtain rfl := List.mem_singleton.mp member
    trivial
  | accepted fd fresh subLoop dealt deal =>
    simp only [List.mem_cons, List.not_mem_nil, or_false] at member
    rcases member with rfl | rfl | rfl <;> trivial
  | removeConnection d input connection found alive =>
    obtain rfl := List.mem_singleton.mp member
    exact nofun
  | removedAlready d input connection found alive missing => cases member
  | removeConnectionInLoop d input connection erased found alive entry =>
    obtain rfl := List.mem_singleton.mp member
    exact nofun
  | release d input => cases member

end Echoes

/-- The user does not send on the connection. -/
def UserCall.spares (c : ConnectionId) (call : UserCall subLoops) : Bool :=
  match call.target with
  | some (d, .send _) => c ≠ d
  | _ => true

def Input.spares (c : ConnectionId) : Input subLoops → Bool
  | .user call => call.spares c
  | _ => true

theorem echo_respects (subLoops : Nat) (User : Type) (c : ConnectionId) :
    Respects (TcpServer.client subLoops User) (echoPlacement subLoops User c)
      (fun _ input => input.spares c = true) Wired := by
  have base := server_respects subLoops User
  refine {
    keepCall := fun before after thread made grows placed =>
      ⟨base.keepCall _ _ _ _ grows placed.1, echoes_grows grows placed.2⟩
    keepFunctor := fun before after l cb grows placed =>
      ⟨base.keepFunctor _ _ _ _ grows placed.1, placed.2⟩
    keepChannel := base.keepChannel
    execute := fun server after thread body input calls executed => ?_
    runHere := fun server l cb placed made member =>
      ⟨base.runHere _ _ _ placed.1 made member,
        echoes_invoke (fun sends => (placed.2 sends).1) made member⟩
    runQueued := fun server thread l cb foreign placed =>
      ⟨base.runQueued _ _ _ _ foreign placed.1,
        Bool.eq_false_iff.mpr fun sends => foreign (placed.2 sends).2⟩
    pushBack := fun server thread l cb placed => ⟨base.pushBack _ thread _ _ placed.1, placed.2⟩
    invoke := fun server l cb belongs made member =>
      ⟨base.invoke _ _ _ belongs.1 made member,
        echoes_invoke (fun sends => absurd sends (Bool.eq_false_iff.mp belongs.2)) made member⟩
    handleEvent := fun server l ch placed made member =>
      ⟨base.handleEvent _ _ _ placed made member, ?_⟩
    copy := base.copy
    destroy := base.destroy
    poll := base.poll
    begin := fun server after thread input calls spares begun =>
      (base.begin _ _ _ _ _ trivial begun).imp_right fun leaves made member =>
        ⟨leaves made member, ?_⟩ }
  · obtain ⟨grows, leaves⟩ := base.execute _ _ thread _ _ _ executed
    exact ⟨grows, fun placed made member => ⟨leaves placed.1 made member,
      echoes_executes (serverExecute_cases executed) grows placed made member⟩⟩
  · cases ch with
    | listen =>
      obtain rfl := List.mem_singleton.mp member
      trivial
    | connection d =>
      simp only [TcpServer.client, ChannelId.handleEvent, List.mem_cons, List.not_mem_nil,
        or_false] at member
      rcases member with rfl | rfl | rfl <;> trivial
  · cases serverBegin_cases begun with
    | member t call d body connection made found alive =>
      simp only [List.mem_cons, List.not_mem_nil, or_false] at member
      rcases member with rfl | rfl
      · refine echoes_statement fun msg isSend same => absurd same ?_
        subst isSend
        simpa [Input.spares, UserCall.spares, made] using spares
      · trivial
    | bound t call l d body connection made found alive =>
      obtain rfl := List.mem_singleton.mp member
      intro sends
      rcases target_cases made with rfl | ⟨msg, rfl⟩
      · cases sends
      · refine absurd (of_decide_eq_true sends) ?_
        simpa [Input.spares, UserCall.spares, made] using spares
    | quit t l =>
      obtain rfl := List.mem_singleton.mp member
      trivial

/-! ### Messages on their way -/

/-- A message on its way to the kernel or the buffer. -/
def Task.passing : Task → Bool
  | .statement (.send _) => true
  | .statement (.sendInLoop _) => true
  | _ => false

/-- This message is on its way. -/
def Task.passes (msg : Bytes) : Task → Bool
  | .statement (.send other) => msg = other
  | .statement (.sendInLoop other) => msg = other
  | _ => false

theorem passes_passing {msg : Bytes} (task : Task) (passes : task.passes msg = true) :
    task.passing = true := by
  rcases task with body | _ | _ | _ <;> first | cases passes | skip
  cases body <;> first | rfl | cases passes

/-- A message on its way is a call of `send` or `sendInLoop`, or a functor that sends. -/
theorem isTask_passing {c : ConnectionId} {item : ServerItem}
    (counted : isTask c Task.passing item = true) :
    (∃ body, item = .code (.connection c body) ∧ Task.passing (.statement body) = true) ∨
      ∃ cb, item = .queued cb ∧ cb.sends c = true := by
  cases item with
  | code body =>
    rcases isTask_code counted with ⟨statement, rfl, passing⟩ | ⟨-, passing⟩ | ⟨-, passing⟩
    · exact .inl ⟨statement, rfl, passing⟩
    · cases passing
    · cases passing
  | queued cb =>
    rcases isTask_queued counted with ⟨body, rfl, passing⟩ | ⟨-, passing⟩
    · refine .inr ⟨_, rfl, ?_⟩
      cases body <;> first | exact decide_eq_true rfl | cases passing
    · cases passing
  | spent cb => cases counted
  | ready ch => cases ch <;> simp [isTask, taskOf, Task.passing] at counted

/-- No direct `::send` on the connection fails, and no user sends on it. -/
def Sole (c : ConnectionId) : Guard (ServerMachine subLoops User) (ServerEvent subLoops User) :=
  fun machine event => Delivers c machine event ∧
    match event with
    | .begin _ input => input.spares c = true
    | _ => True

instance (c : ConnectionId) (machine : ServerMachine subLoops User)
    (event : ServerEvent subLoops User) : Decidable (Sole c machine event) := by
  unfold Sole
  cases event <;> infer_instance

section Reachable

variable [DecidableEq User] [Fintype User] {listenFd : Nat} {openFds : Nat → Bool}
  {machine : ServerMachine subLoops User} {c : ConnectionId} {l : LoopId subLoops}

theorem reachable_echo_placed
    (reachable : ReachableBy (TcpServer.system subLoops User listenFd openFds) (Sole c) machine) :
    Placed (echoPlacement subLoops User c) machine :=
  reachable_placed (echo_respects subLoops User c) (fun _ _ _ sole => sole.2)
    (fun _ before => reachable_wired before.reachable) reachable

/-- A message on its way is on top of the stack of the connection's loop. -/
theorem reachable_passing
    (reachable : ReachableBy (TcpServer.system subLoops User listenFd openFds) (Sole c) machine)
    (here : machine.world.loopOf c = some l) {kind : Task → Bool}
    (passing : ∀ task, kind task = true → task.passing = true) :
    pending c machine kind =
      (stackItems ((machine.stack (.loop l)).take 1)).countP (isTask c kind) := by
  have placed := reachable_echo_placed reachable
  refine (reachable_server_orderly reachable.reachable).tally_eq_top (.loop l)
    (fun m item member => ?_) fun other instruction onStack item inItems counted => ?_
  · refine Bool.eq_false_iff.mpr fun counted => ?_
    simp only [EventLoop.items, Position.items, List.mem_append, List.mem_map] at member
    rcases isTask_passing (isTask_mono passing counted) with ⟨body, rfl, -⟩ | ⟨cb, rfl, sends⟩
    · simp at member
    · have waiting : cb ∈ (machine.loop m).waiting := by
        simpa [EventLoop.waiting, or_comm] using member
      rw [(placed.queue m cb waiting).2] at sends
      cases sends
  · have isPlaced := placed.stack other instruction onStack
    rcases isTask_passing (isTask_mono passing counted) with
      ⟨body, rfl, isPassing⟩ | ⟨cb, rfl, sends⟩
    · obtain rfl := eq_of_code_mem inItems
      have onLoop : ∃ m, machine.world.loopOf c = some m ∧ other = .loop m := by
        cases body with
        | send msg => exact isPlaced.2 rfl
        | sendInLoop msg => exact isPlaced.1 rfl
        | _ => cases isPassing
      obtain ⟨m, found, isThread⟩ := onLoop
      obtain rfl := Option.some.inj (here.symm.trans found)
      refine ⟨isThread, fun rests => ?_⟩
      cases body <;> first | exact rests | cases isPassing
    · obtain ⟨m, rfl | rfl⟩ := eq_of_queued_mem inItems
      · obtain ⟨found, isThread⟩ := isPlaced.2 sends
        obtain rfl := Option.some.inj (here.symm.trans found)
        exact ⟨isThread, id⟩
      · rw [show cb.sends c = false from isPlaced.2] at sends
        cases sends

/-- While a statement on the connection's loop is executed, no other message is on its way. -/
theorem reachable_passing_top
    (reachable : ReachableBy (TcpServer.system subLoops User listenFd openFds) (Sole c) machine)
    {thread : Thread (LoopId subLoops) User} {body : Statement}
    {rest : List (Instruction (LoopId subLoops) Functor ServerCode)}
    (top : machine.stack thread = .call (.code (.connection c body)) :: rest)
    (onLoop : body.inLoop = true ∨ ∃ msg, body = .send msg) {kind : Task → Bool}
    (passing : ∀ task, kind task = true → task.passing = true) :
    pending c machine kind = [Task.statement body].countP kind := by
  have isPlaced := (reachable_echo_placed reachable).top top
  have here : ∃ l, machine.world.loopOf c = some l ∧ thread = .loop l := by
    rcases onLoop with inLoop | ⟨msg, rfl⟩
    · exact isPlaced.1 inLoop
    · exact isPlaced.2 rfl
  obtain ⟨l, here, rfl⟩ := here
  exact (reachable_passing reachable here passing).trans (tasks_of_top top kind)

end Reachable

/-! ### The invariant -/

/-- What an open connection has echoed is what it has transmitted and the message on its way. -/
structure Echoing (connection : TcpConnection (LoopId subLoops))
    (count : (Task → Bool) → Nat) : Prop where
  past : 0 < count Task.passing → connection.state_ ≠ .kConnecting
  settled : connection.state_.opened = true → count Task.passing = 0 →
    connection.echoedBytes = connection.transmittedBytes
  onItsWay : connection.state_.opened = true → ∀ msg, 0 < count (Task.passes msg) →
    connection.echoedBytes = connection.transmittedBytes ++ msg

section Echoing

variable {connection now : TcpConnection (LoopId subLoops)} {stored storedNow held : Nat}
  {count countNow : (Task → Bool) → Nat} {used left : List Task}

/-- A turn that echoes and transmits nothing and leaves the messages on their way alone. -/
theorem Echoing.keep (echoing : Echoing connection count)
    (exchange : Exchanges count countNow used left)
    (echoed : now.echoedBytes = connection.echoedBytes)
    (transmitted : now.transmittedBytes = connection.transmittedBytes)
    (opened : now.state_.opened = true → connection.state_.opened = true)
    (past : now.state_ = .kConnecting → connection.state_ = .kConnecting)
    (none : used.countP Task.passing = 0 ∧ left.countP Task.passing = 0) :
    Echoing now countNow where
  past outstanding connecting := by
    have change := exchange Task.passing
    exact echoing.past (by omega) (past connecting)
  settled isOpened idle := by
    have change := exchange Task.passing
    rw [echoed, transmitted]
    exact echoing.settled (opened isOpened) (by omega)
  onItsWay isOpened msg outstanding := by
    have change := exchange (Task.passes msg)
    have fresh : left.countP (Task.passes msg) ≤ left.countP Task.passing :=
      List.countP_mono_left fun task _ => passes_passing task
    rw [echoed, transmitted]
    exact echoing.onItsWay (opened isOpened) msg (by omega)

/-- No message is on its way. -/
theorem Echoing.of_settled (none : ∀ kind : Task → Bool,
      (∀ task, kind task = true → task.passing = true) → count kind = 0)
    (settled : connection.state_.opened = true →
      connection.echoedBytes = connection.transmittedBytes) : Echoing connection count where
  past outstanding := absurd (none _ fun _ => id) outstanding.ne'
  settled opened _ := settled opened
  onItsWay _ _ outstanding := absurd (none _ passes_passing) outstanding.ne'

/-- This message is on its way. -/
theorem Echoing.of_passing {next : Task} (msg : Bytes)
    (one : ∀ kind : Task → Bool, (∀ task, kind task = true → task.passing = true) →
      count kind = [next].countP kind) (passing : next.passing = true)
    (only : ∀ other, next.passes other = true → other = msg)
    (past : connection.state_ ≠ .kConnecting)
    (onItsWay : connection.state_.opened = true →
      connection.echoedBytes = connection.transmittedBytes ++ msg) :
    Echoing connection count where
  past _ := past
  settled _ idle := by
    rw [one _ fun _ => id, List.countP_singleton, if_pos passing] at idle
    cases idle
  onItsWay opened other outstanding := by
    rw [one _ passes_passing, List.countP_singleton] at outstanding
    obtain rfl := only other (by by_contra different; simp [different] at outstanding)
    exact onItsWay opened

/-- `sendInLoop` of a connected connection transmits the message. -/
theorem Executes.transmits {msg : Bytes} {io : IoResult} {outcome : Outcome (LoopId subLoops)}
    (executes : Executes connection (.sendInLoop msg) io outcome)
    (connected : connection.state_ = .kConnected) :
    outcome.connection.transmittedBytes = connection.transmittedBytes ++ msg := by
  cases executes with
  | sendInLoopSkipped msg io other => exact absurd connected other
  | sendInLoopDirect msg sent connected empty bounded =>
    refine (bufferRemaining_writes ..).transmitted.trans ((transmittedBytes_record ..).trans ?_)
    exact (List.append_nil _).trans (transmittedBytes_record ..)
  | sendInLoopBlocked msg connected empty =>
    exact (bufferRemaining_writes ..).transmitted.trans (transmittedBytes_record ..)
  | sendInLoopFailed msg connected empty => exact transmittedBytes_record ..
  | sendInLoopQueued msg io connected pending =>
    exact (bufferRemaining_writes ..).transmitted.trans (transmittedBytes_record ..)

/-- Only `handleRead` and `send` pass a message on. -/
theorem Executes.passing {body : Statement} {io : IoResult} {outcome : Outcome (LoopId subLoops)}
    (executes : Executes connection body io outcome) (notEcho : body ≠ .handleReadEcho)
    (notSend : ∀ msg, body ≠ .send msg) :
    (outcome.next.filterMap Next.task).countP Task.passing = 0 := by
  refine List.countP_eq_zero.mpr fun task member passing => ?_
  obtain ⟨next, inNext, isTask⟩ := List.mem_filterMap.mp member
  have follows := executes.keeps.follows next inNext
  have never (after : Statement) (isNext : next = .statement after ∨ next = .runInLoop after) :
      Task.passing (.statement after) = false := by
    cases after with
    | send msg =>
      rcases isNext with rfl | rfl <;> cases body <;>
        first | exact absurd rfl notEcho | cases follows
    | sendInLoop msg =>
      rcases isNext with rfl | rfl <;> cases body <;>
        first | exact absurd rfl (notSend _) | cases follows
    | _ => rfl
  cases next with
  | statement after =>
    cases isTask
    rw [never after (.inl rfl)] at passing
    cases passing
  | runInLoop after =>
    cases isTask
    rw [never after (.inr rfl)] at passing
    cases passing
  | closeCallback =>
    cases isTask
    cases passing
  | release => cases isTask

theorem Executes.connecting {body : Statement} {io : IoResult} {outcome : Outcome (LoopId subLoops)}
    (executes : Executes connection body io outcome)
    (connecting : outcome.connection.state_ = .kConnecting) : connection.state_ = .kConnecting := by
  rw [executes.state] at connecting
  cases body <;> first | exact connecting | cases connecting

theorem sendInLoop_next {msg : Bytes} {io : IoResult} {outcome : Outcome (LoopId subLoops)}
    (executes : Executes connection (.sendInLoop msg) io outcome) : outcome.next = [] := by
  cases executes with
  | sendInLoopDirect | sendInLoopBlocked | sendInLoopQueued => exact bufferRemaining_next ..
  | _ => rfl

/-- Executing a statement keeps the invariant, if no other message is on its way. -/
theorem Echoing.statement {body : Statement} {io : IoResult} {outcome : Outcome (LoopId subLoops)}
    (echoing : Echoing connection count) (lively : Lively connection stored count)
    (alone : body.inLoop = true ∨ (∃ msg, body = .send msg) → ∀ kind : Task → Bool,
      (∀ task, kind task = true → task.passing = true) →
      count kind = [Task.statement body].countP kind)
    (executes : Executes connection body io outcome)
    (exchange : Exchanges count countNow [.statement body] (outcome.next.filterMap Next.task)) :
    Echoing outcome.connection countNow := by
  have opened : outcome.connection.state_.opened = true → connection.state_.opened = true :=
    executes.opened lively exchange
  have next (onLoop : body.inLoop = true ∨ ∃ msg, body = .send msg) (kind : Task → Bool)
      (passing : ∀ task, kind task = true → task.passing = true) :
      countNow kind = (outcome.next.filterMap Next.task).countP kind := by
    have change := (exchange kind).2
    have before := alone onLoop kind passing
    omega
  have outstanding {kind : Task → Bool} (isKind : kind (.statement body) = true) :
      0 < count kind := by
    have held := (exchange kind).1
    rw [List.countP_singleton, if_pos isKind] at held
    exact held
  cases body with
  | handleReadEcho =>
    have transmitted : outcome.connection.transmittedBytes = connection.transmittedBytes :=
      executes.transmitted nofun
    cases executes with
    | handleReadEcho io nonempty =>
      have past := lively.used_past exchange Nat.one_pos
      refine .of_passing connection.input_buffer_ (next (.inl rfl)) rfl
        (fun other same => of_decide_eq_true same) past fun isOpened => ?_
      have connected : connection.state_ = .kConnected := connected_of_opened isOpened past
      rw [transmitted, yields_connection, echoedBytes_record, connected]
      exact congrArg (· ++ _) (echoing.settled (opened isOpened) (alone (.inl rfl) _ fun _ => id))
    | handleReadNothing io empty =>
      exact echoing.keep exchange rfl transmitted opened id ⟨rfl, rfl⟩
  | send msg =>
    have past := echoing.past (outstanding rfl)
    cases executes with
    | send msg io connected =>
      exact .of_passing msg (next (.inr ⟨msg, rfl⟩)) rfl (fun other same => of_decide_eq_true same)
        past fun isOpened => echoing.onItsWay isOpened msg (outstanding (decide_eq_true rfl))
    | sendSkipped msg io other =>
      exact .of_settled (next (.inr ⟨msg, rfl⟩))
        fun isOpened => absurd (connected_of_opened isOpened past) other
  | sendInLoop msg =>
    have past := echoing.past (outstanding rfl)
    refine .of_settled (fun kind passing => ?_) fun isOpened => ?_
    · rw [next (.inl rfl) kind passing, sendInLoop_next executes]
      rfl
    · have connected := connected_of_opened (opened isOpened) past
      rw [executes.echoed nofun, executes.transmits connected]
      exact echoing.onItsWay (opened isOpened) msg (outstanding (decide_eq_true rfl))
  | _ =>
    exact echoing.keep exchange (executes.echoed nofun) (executes.transmitted nofun) opened
      executes.connecting ⟨rfl, executes.passing nofun nofun⟩

end Echoing

/-! ### Runs -/

section Reachable

variable [DecidableEq User] [Fintype User] {listenFd : Nat} {openFds : Nat → Bool}
  {machine : ServerMachine subLoops User} {c : ConnectionId}
  {connection now : TcpConnection (LoopId subLoops)} {stored storedNow : Nat}
  {countNow : (Task → Bool) → Nat} {used left : List Task}

/-- Every turn keeps the invariant. -/
theorem Echoing.turn {event : ServerEvent subLoops User}
    (reachable : ReachableBy (TcpServer.system subLoops User listenFd openFds) (Sole c) machine)
    (found : machine.world.find c = some connection)
    (echoing : Echoing connection (pending c machine)) (sole : Sole c machine event)
    (turn : Turn machine c event connection stored now storedNow used left)
    (exchange : Exchanges (pending c machine) countNow used left) : Echoing now countNow := by
  cases turn with
  | statement thread input body rest connection stored outcome top alive executes =>
    exact echoing.statement (reachable_lively reachable.reachable found)
      (fun onLoop kind passing => reachable_passing_top reachable top onLoop passing) executes
      exchange
  | requested t call connection stored body made =>
    rcases target_cases made with rfl | ⟨msg, rfl⟩
    · exact echoing.keep exchange rfl rfl id id ⟨rfl, rfl⟩
    · -- no user sends on the connection
      have spares := sole.2
      simp [Input.spares, UserCall.spares, made] at spares
  | dropped event connection stored alive =>
    exact echoing.keep exchange (drop_unseen connection rfl) (drop_unseen connection rfl) id id
      ⟨rfl, rfl⟩
  | _ => exact echoing.keep exchange rfl rfl id id ⟨rfl, rfl⟩

theorem reachable_echoing
    (reachable : ReachableBy (TcpServer.system subLoops User listenFd openFds) (Sole c) machine)
    (found : machine.world.find c = some connection) : Echoing connection (pending c machine) := by
  refine connection_invariant c (fun connection _ count => Echoing connection count) ?_ ?_ reachable
    found
  · intro subLoop fd _
    exact ⟨nofun, fun _ _ => rfl, fun _ _ => nofun⟩
  · intro machine event connection stored now storedNow used left after before sole found echoing
      turn exchange
    exact echoing.turn before found sole turn exchange

/-- In a run in which no direct `::send` on a connection fails and no user sends on it, whenever it
is connected and its loop is between two callbacks, what the kernel has accepted and the output
buffer are what has been received, and the input buffer is empty. -/
theorem echo_fidelity
    (reachable : ReachableBy (TcpServer.system subLoops User listenFd openFds) (Sole c) machine)
    (found : machine.world.find c = some connection) (connected : connection.state_ = .kConnected)
    (between : machine.stack (.loop connection.loop_) = []) :
    connection.acceptedBytes ++ connection.output_buffer_ = connection.receivedBytes ∧
      connection.input_buffer_ = [] := by
  have here := loopOf_eq found
  have nothing {kind : Task → Bool} (inHand : ∀ task, kind task = true → task.inHand = true) :
      pending c machine kind = 0 := reachable_hand_idle reachable.reachable here between inHand
  have opened : connection.state_.opened = true := by
    rw [connected]
    rfl
  have receiving := reachable_receiving reachable.reachable found opened
  have empty := (receiving.idle (nothing receiving_inHand)).1
  have echoing := reachable_echoing reachable found
  have idle : pending c machine Task.passing = 0 := by
    rw [reachable_passing reachable here fun _ => id, between]
    rfl
  have flowing := reachable_flowing (reachable.mono fun _ _ sole => sole.1) found
  have whole := flowing.whole (reachable_lively reachable.reachable found) connected
    (nothing ending_inHand)
  refine ⟨?_, empty⟩
  calc connection.acceptedBytes ++ connection.output_buffer_
      = connection.transmittedBytes := (flowing.idle whole (nothing sending_inHand)).symm
    _ = connection.echoedBytes := (echoing.settled opened idle).symm
    _ = connection.receivedBytes := by rw [receiving.echoed, empty, List.append_nil]

end Reachable

/-- Two chunks are received; the kernel takes part of them, then nothing. -/
theorem echo_fidelity_partial : ∃ machine : ServerMachine 1 Unit,
    ∃ connection, machine.world.find 0 = some connection ∧
      connection.receivedBytes = [1, 2, 3] ∧ connection.acceptedBytes = [1] ∧
      connection.acceptedBytes ++ connection.output_buffer_ = connection.receivedBytes ∧
      connection.input_buffer_ = [] := by
  have between : ∃ machine,
      ReachableBy (TcpServer.system 1 Unit 3 fun _ => false) (Sole 0) machine ∧
      ∃ connection ∈ machine.world.find 0, connection.state_ = .kConnected ∧
        machine.stack (.loop connection.loop_) = [] ∧ connection.receivedBytes = [1, 2, 3] ∧
        connection.acceptedBytes = [1] :=
    exists_of_replay rfl (acceptRun ++ registration ++ receives [.data [1, 2], .data [3], .again] ++
      echoes (.count 1)) (by decide)
  obtain ⟨machine, reachable, connection, found, connected, idle, received, accepted⟩ := between
  exact ⟨machine, connection, found, received, accepted,
    echo_fidelity reachable found connected idle⟩

end MultiReactor
