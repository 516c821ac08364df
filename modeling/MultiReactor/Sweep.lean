/-
This file proves when the sweep of `~TcpServer` leaves the map it iterates over
alone. `connections_` is changed on the main thread only, by an accept or by
`removeConnectionInLoop`. A connection of a sub loop is closed on the sub loop's
thread, which hands the removal to the base loop, where nobody runs it any more.
So the sweep finds every entry and calls `forceClose` on each exactly once. A
connection of the base loop is closed at once: its close callback runs within
`forceClose` and erases the entry the range-for stands on.
-/

import MultiReactor.Confinement
import MultiReactor.Quiescence
import MultiReactor.Shutdown

namespace MultiReactor

open Transition

variable {subLoops : Nat} {User : Type}

/-! ### Worlds with the same map -/

/-- Where a channel that an interest list points to belongs. -/
def TcpServer.pointsTo (server : TcpServer subLoops) (l : LoopId subLoops) : ChannelId → Prop
  | .listen => l = baseLoop
  | .connection c => server.loopOf c = some l

/-- Every interest list points to the channels of its own loop. -/
def TcpServer.Pointed (server : TcpServer subLoops) : Prop :=
  ∀ l fd entry, server.epoll l fd = some entry → server.pointsTo l entry.2

/-- A change of the server in which no connection changes its loop, and the interest lists keep
pointing to the channels of their loops. -/
structure Beside (server after : TcpServer subLoops) : Prop where
  loops : ∀ c l, server.loopOf c = some l → after.loopOf c = some l
  pointed : server.Pointed → after.Pointed

/-- Such a change that has nothing to do with the map. -/
structure Aside (server after : TcpServer subLoops) : Prop extends Beside server after where
  map : after.connections_ = server.connections_

section Aside

variable {server after : TcpServer subLoops} {c : ConnectionId}

theorem pointsTo_grows (loops : ∀ c l, server.loopOf c = some l → after.loopOf c = some l)
    {l : LoopId subLoops} {ch : ChannelId} (points : server.pointsTo l ch) :
    after.pointsTo l ch := by
  cases ch with
  | listen => exact points
  | connection c => exact loops c l points

/-- A change that adds entries of a loop's own channels to its interest list, if it adds any. -/
theorem Beside.of_epoll (loops : ∀ c l, server.loopOf c = some l → after.loopOf c = some l)
    (epoll : ∀ l fd entry, after.epoll l fd = some entry →
      server.epoll l fd = some entry ∨ after.pointsTo l entry.2) : Beside server after where
  loops := loops
  pointed before l fd entry registered := by
    rcases epoll l fd entry registered with old | new
    · exact pointsTo_grows loops (before l fd entry old)
    · exact new

theorem aside_same : Aside server server :=
  ⟨⟨fun _ _ here => here, fun before => before⟩, rfl⟩

theorem aside_share : Aside server (server.share c) :=
  ⟨.of_epoll (fun d _ here => (loopOf_share server c d).trans here)
    fun _ _ _ entry => .inl entry, rfl⟩

theorem aside_release : Aside server (server.release c) := by
  have loops d l (here : server.loopOf d = some l) : (server.release c).loopOf d = some l :=
    (loopOf_release server c d).trans here
  cases found : server.find c with
  | none =>
    have same : server.release c = server := by
      rw [TcpServer.release, found]
    rw [same]
    exact aside_same
  | some connection =>
    obtain ⟨map, -, -, epoll⟩ := release_members server c found
    refine ⟨.of_epoll loops fun l fd entry registered => .inl ?_, map⟩
    rw [epoll] at registered
    split at registered
    · have registered : Function.update (server.epoll l) connection.fd_ none fd = some entry :=
        registered
      by_cases same : fd = connection.fd_
      · rw [same, Function.update_self] at registered
        cases registered
      · rwa [Function.update_of_ne same] at registered
    · exact registered

theorem aside_setRevents (active : List ChannelId) (mask : ChannelId → Events) :
    Aside server (server.setRevents active mask) :=
  ⟨.of_epoll (fun d _ here => (loopOf_setRevents server d active mask).trans here)
    fun _ _ _ entry => .inl entry, rfl⟩

/-- The epoll instance of a loop is closed. -/
theorem aside_setEpoll (l : LoopId subLoops) : Aside server (server.setEpoll l fun _ => none) := by
  refine ⟨.of_epoll (fun _ _ here => here) fun m fd entry registered => .inl ?_, rfl⟩
  have registered : Function.update server.epoll l (fun _ => none) m fd = some entry := registered
  by_cases same : m = l
  · rw [same, Function.update_self] at registered
    cases registered
  · rwa [Function.update_of_ne same] at registered

/-- `epoll_ctl` adds no pointer but the channel's. -/
theorem update_entry {interest : Interest ChannelId} {fd key : Nat} {pointer : ChannelId}
    {call : Option EpollCtl} {entry : Events × ChannelId}
    (registered : interest.update fd pointer call key = some entry) :
    interest key = some entry ∨ entry.2 = pointer := by
  have updated {new : Option (Events × ChannelId)}
      (registered : Function.update interest fd new key = some entry) :
      interest key = some entry ∨ new = some entry := by
    by_cases same : key = fd
    · rw [same, Function.update_self] at registered
      exact .inr registered
    · rw [Function.update_of_ne same] at registered
      exact .inl registered
  cases call with
  | none => exact .inl registered
  | some call =>
    unfold Interest.update Interest.ctl at registered
    dsimp only at registered
    split at registered
    · exact (updated registered).imp_right fun new => by cases new; rfl
    · exact (updated registered).imp_right fun new => by cases new; rfl
    · exact (updated registered).imp_right fun new => by cases new
    · exact .inl registered

theorem aside_commit {connection : TcpConnection (LoopId subLoops)}
    (found : server.find c = some connection) (outcome : Outcome (LoopId subLoops))
    (loop : outcome.connection.loop_ = connection.loop_) :
    Aside server (server.commit c outcome) := by
  have same d := loopOf_commit server c d found outcome loop
  refine ⟨.of_epoll (fun d _ here => (same d).trans here) fun l fd entry registered => ?_, rfl⟩
  have registered : Function.update server.epoll outcome.connection.loop_
      ((server.epoll outcome.connection.loop_).update outcome.connection.fd_ (.connection c)
        outcome.ctl) l fd = some entry := registered
  by_cases here : l = outcome.connection.loop_
  · rw [here, Function.update_self] at registered
    refine (update_entry registered).imp (fun old => here ▸ old) fun new => ?_
    rw [new]
    exact (same c).trans ((loopOf_eq found).trans (congrArg some (here.trans loop).symm))
  · rw [Function.update_of_ne here] at registered
    exact .inl registered

end Aside

/-! ### The main thread in the sweep -/

/-- The statements of `forceClose`. -/
def Statement.forces : Statement → Bool
  | .forceClose => true
  | .forceCloseRetest => true
  | .forceCloseStore => true
  | _ => false

/-- What the main thread has to do for the sweep, when the connections are those of sub loops. -/
def Sweeps (server : TcpServer subLoops) :
    Instruction (LoopId subLoops) Functor ServerCode → Prop
  | .call (.code (.connection c body)) =>
    body.forces = true ∧ ∃ i : Fin subLoops, server.loopOf c = some (some i)
  | .call (.code (.release _)) => True
  | .call (.code _) => False
  | .call (.runInLoop l _) => l ≠ baseLoop
  | .call (.queueInLoop _ _) => True
  | .call (.quit _) => True
  | .wakeup _ => True
  | .destroy _ => True

theorem Sweeps.grows {server after : TcpServer subLoops}
    {instruction : Instruction (LoopId subLoops) Functor ServerCode}
    (sweeps : Sweeps server instruction) (beside : Beside server after) :
    Sweeps after instruction := by
  cases instruction with
  | call made =>
    cases made with
    | code body =>
      cases body with
      | connection c body => exact sweeps.imp_right fun here => here.imp fun _ => beside.loops c _
      | _ => exact sweeps
    | _ => exact sweeps
  | _ => exact sweeps

/-- What follows within `forceClose`. -/
theorem forces_follows {body : Statement} {next : Next} (forces : body.forces = true)
    (follows : body.follows next = true) :
    next = .statement .forceCloseRetest ∨ next = .statement .forceCloseStore ∨
      next = .runInLoop .forceCloseInLoop := by
  cases body with
  | forceClose =>
    cases next with
    | statement after =>
      cases after with
      | forceCloseRetest => exact .inl rfl
      | forceCloseStore => exact .inr (.inl rfl)
      | _ => cases follows
    | _ => cases follows
  | forceCloseRetest =>
    cases next with
    | statement after =>
      cases after with
      | forceCloseStore => exact .inr (.inl rfl)
      | _ => cases follows
    | _ => cases follows
  | forceCloseStore =>
    cases next with
    | runInLoop after =>
      cases after with
      | forceCloseInLoop => exact .inr (.inr rfl)
      | _ => cases follows
    | _ => cases follows
  | _ => cases forces

/-- What a statement of `forceClose` leaves: the rest of it, or a functor for the sub loop. -/
theorem sweeps_next {server : TcpServer subLoops} {c : ConnectionId} {i : Fin subLoops}
    {body : Statement} {next : Next} (here : server.loopOf c = some (some i))
    (forces : body.forces = true) (follows : body.follows next = true) :
    Sweeps server (.call (next.toCall c (some i))) := by
  rcases forces_follows forces follows with rfl | rfl | rfl
  · exact ⟨rfl, i, here⟩
  · exact ⟨rfl, i, here⟩
  · exact fun isBase => by cases isBase

/-- While the main thread sweeps, everything lies where it belongs, and the main thread has nothing
to do but to close connections of sub loops. -/
structure Sweeping (machine : ServerMachine subLoops User) : Prop where
  placed : Placed (serverPlacement subLoops User) machine
  pointed : machine.world.Pointed
  main : ∀ instruction ∈ machine.stack mainThread, Sweeps machine.world instruction

/-- The placement is respected in worlds whose interest lists point to the channels of their
loops. -/
theorem server_respects_pointed (subLoops : Nat) (User : Type) :
    Respects (TcpServer.client subLoops User) (serverPlacement subLoops User) (fun _ _ => True)
      TcpServer.Pointed :=
  { server_respects subLoops User with
    poll := by
      intro server after l active input pointed polled
      have polled : TcpServer.poll l active input server = some after := polled
      obtain ⟨mask, -, reported, rfl⟩ := serverPoll_cases polled
      have aside : Aside server (server.setRevents active mask) := aside_setRevents active mask
      have placed {fd : Nat} {ch : ChannelId}
          (registered : ((server.epoll l) fd).map Prod.snd = some ch) :
          server.pointsTo l ch := by
        obtain ⟨entry, here, rfl⟩ := Option.map_eq_some_iff.mp registered
        exact pointed l _ entry here
      refine ⟨aside.loops, fun ch member => ?_⟩
      have registered := reported ch member
      cases ch with
      | listen => exact placed (of_decide_eq_true registered)
      | connection c =>
        unfold TcpServer.reports at registered
        dsimp only at registered
        split at registered
        · exact aside.loops c l (placed (of_decide_eq_true registered))
        · cases registered }

section Step

variable [DecidableEq User] {machine after : ServerMachine subLoops User}
  {event : ServerEvent subLoops User}

/-- The call of `forceClose` on a connection. -/
abbrev forceCloseCall (c : ConnectionId) : Instruction (LoopId subLoops) Functor ServerCode :=
  .call (.code (.connection c .forceClose))

/-- What a step does to the stack of the main thread: nothing, or its top instruction is replaced
by others that sweep, none of them the call of `forceClose`. -/
inductive MainStack (machine after : ServerMachine subLoops User) :
    ServerEvent subLoops User → Prop where
  | other (event : ServerEvent subLoops User) (foreign : ∀ input, event ≠ .run mainThread input)
      (same : after.stack mainThread = machine.stack mainThread) : MainStack machine after event
  | run (input : Input subLoops)
      (top : Instruction (LoopId subLoops) Functor ServerCode)
      (pushed rest : List (Instruction (LoopId subLoops) Functor ServerCode))
      (before : machine.stack mainThread = top :: rest)
      (left : after.stack mainThread = pushed ++ rest)
      (sweeps : ∀ instruction ∈ pushed, Sweeps after.world instruction ∧
        ∀ c, instruction ≠ forceCloseCall c) : MainStack machine after (.run mainThread input)

/-- A thread replaces the top of its stack. -/
theorem mainStack_setStack {thread : Thread (LoopId subLoops) User} {input : Input subLoops}
    {middle : ServerMachine subLoops User}
    {top : Instruction (LoopId subLoops) Functor ServerCode}
    {rest : List (Instruction (LoopId subLoops) Functor ServerCode)}
    (pushed : List (Instruction (LoopId subLoops) Functor ServerCode))
    (before : machine.stack thread = top :: rest) (same : middle.stack = machine.stack)
    (sweeps : thread = mainThread → ∀ instruction ∈ pushed, Sweeps middle.world instruction ∧
      ∀ c, instruction ≠ forceCloseCall c) :
    MainStack machine (middle.setStack thread (pushed ++ rest)) (.run thread input) := by
  by_cases isMain : thread = mainThread
  · subst isMain
    exact .run input top pushed rest before (setStack_stack_self ..) (sweeps rfl)
  · refine .other _ (fun input run => ?_) ?_
    · cases run
      exact isMain rfl
    · rw [setStack_stack_of_ne _ _ (Ne.symm isMain), same]

omit [DecidableEq User] in
/-- The server's code, when the main thread only sweeps. -/
theorem execute_aside {thread : Thread (LoopId subLoops) User} {body : ServerCode}
    {input : Input subLoops} {world : TcpServer subLoops}
    {calls : List (Call (LoopId subLoops) Functor ServerCode)}
    (placed : (serverPlacement subLoops User).call machine.world thread (.code body))
    (sweeps : thread = mainThread → Sweeps machine.world (.call (.code body)))
    (executed : ServerExecutes machine.world body input world calls) :
    Aside machine.world world ∧ (thread = mainThread →
      ∀ instruction ∈ calls.map Instruction.call, Sweeps world instruction ∧
        ∀ c, instruction ≠ forceCloseCall c) := by
  cases executed with
  | connection c body input connection outcome found alive executes =>
    have keeps := executes.keeps
    have aside := aside_commit found outcome keeps.loop
    refine ⟨aside, fun isMain instruction member => ?_⟩
    obtain ⟨forces, i, here⟩ := sweeps isMain
    obtain ⟨call, isCall, rfl⟩ := List.mem_map.mp member
    obtain ⟨next, isNext, rfl⟩ := List.mem_map.mp isCall
    have isLoop : connection.loop_ = some i := Option.some.inj ((loopOf_eq found).symm.trans here)
    have follows := keeps.follows next isNext
    rw [isLoop]
    refine ⟨sweeps_next (aside.loops c _ here) forces follows, fun d same => ?_⟩
    rcases forces_follows forces follows with rfl | rfl | rfl <;> cases same
  | listenCallback input masked => exact (sweeps placed).elim
  | listenIgnored input => exact (sweeps placed).elim
  | acceptEnds result ends => exact (sweeps placed).elim
  | acceptRefused fd fresh => exact (sweeps placed).elim
  | accepted fd fresh subLoop dealt deal => exact (sweeps placed).elim
  | removeConnection c input connection found alive =>
    exact ⟨aside_share, fun isMain => (sweeps isMain).elim⟩
  | removedAlready c input connection found alive missing => exact (sweeps placed).elim
  | removeConnectionInLoop c input connection erased found alive entry =>
    exact (sweeps placed).elim
  | release c input => exact ⟨aside_release, fun _ _ member => by cases member⟩

/-- What a step of the process does while the main thread sweeps: it leaves the map alone, and adds
nothing to what the main thread has to do but the rest of a `forceClose`. -/
theorem sweep_cases (sweeping : Sweeping machine)
    (step : Step (TcpServer.client subLoops User) machine event after)
    (left : ∀ active input, event ≠ .advance baseLoop active input) :
    Aside machine.world after.world ∧ MainStack machine after event := by
  have top {thread : Thread (LoopId subLoops) User}
      {instruction : Instruction (LoopId subLoops) Functor ServerCode}
      {rest : List (Instruction (LoopId subLoops) Functor ServerCode)}
      (here : machine.stack thread = instruction :: rest) (isMain : thread = mainThread) :
      Sweeps machine.world instruction := by
    refine sweeping.main instruction ?_
    rw [← isMain, here]
    exact .head _
  have foreign {l : LoopId subLoops} {active : List (Ready ChannelId)} {input : Input subLoops}
      (moves : event = .advance l active input) :
      (mainThread : Thread (LoopId subLoops) User) ≠ .loop l := by
    intro same
    cases same
    exact left _ _ moves
  cases step with
  | code thread input body rest world calls here executed =>
    obtain ⟨aside, sweeps⟩ := execute_aside (sweeping.placed.top here) (top here)
      (serverExecute_cases executed)
    exact ⟨aside, mainStack_setStack _ here rfl sweeps⟩
  | runHere l input cb rest here =>
    refine ⟨aside_same, ?_⟩
    rw [← List.singleton_append, ← List.append_assoc]
    refine mainStack_setStack _ here rfl fun isMain => ?_
    cases isMain
    exact absurd rfl (top here rfl)
  | runQueued thread input l cb rest here _ =>
    refine ⟨aside_share, mainStack_setStack [_, _] here rfl fun _ => ?_⟩
    intro instruction member
    simp only [List.mem_cons, List.not_mem_nil, or_false] at member
    rcases member with rfl | rfl <;> exact ⟨trivial, fun c same => by cases same⟩
  | pushBack thread input l cb rest here =>
    refine ⟨aside_same, mainStack_setStack [_] here rfl fun _ => ?_⟩
    intro instruction member
    obtain rfl := List.mem_singleton.mp member
    exact ⟨trivial, fun c same => by cases same⟩
  | quit thread input l rest here =>
    refine ⟨aside_same, mainStack_setStack [_] here rfl fun _ => ?_⟩
    intro instruction member
    obtain rfl := List.mem_singleton.mp member
    exact ⟨trivial, fun c same => by cases same⟩
  | wakeup thread input l rest here =>
    exact ⟨aside_same, mainStack_setStack [] here rfl fun _ _ member => by cases member⟩
  | destroy thread input cb rest here =>
    exact ⟨aside_release,
      mainStack_setStack [] here rfl fun _ _ member => by cases member⟩
  | move l active input eventLoop idle moved =>
    exact ⟨aside_same, .other _ (fun _ run => by cases run) rfl⟩
  | poll l active input world idle place distinct bounded counted polled =>
    obtain ⟨mask, -, -, rfl⟩ := serverPoll_cases polled
    exact ⟨aside_setRevents _ mask, .other _ (fun _ run => by cases run) rfl⟩
  | dispatch l active input ch rest idle place =>
    exact ⟨aside_same, .other _ (fun _ run => by cases run)
      (setStack_stack_of_ne _ _ (foreign rfl))⟩
  | invoke l active input executed cb rest next idle place =>
    exact ⟨aside_same, .other _ (fun _ run => by cases run)
      (setStack_stack_of_ne _ _ (foreign rfl))⟩
  | clear l active input cb rest next idle place =>
    exact ⟨aside_release, .other _ (fun _ run => by cases run) rfl⟩
  | begin thread input world calls idle outside begun =>
    have other {t : User} : (mainThread : Thread (LoopId subLoops) User) ≠ .user t :=
      fun same => by cases same
    cases serverBegin_cases begun with
    | member => exact ⟨aside_share, .other _ (fun _ run => by cases run)
        (setStack_stack_of_ne _ _ other)⟩
    | bound => exact ⟨aside_share, .other _ (fun _ run => by cases run)
        (setStack_stack_of_ne _ _ other)⟩
    | quit => exact ⟨aside_same, .other _ (fun _ run => by cases run)
        (setStack_stack_of_ne _ _ other)⟩

omit [DecidableEq User] in
/-- A change that is none of the main thread's. -/
theorem Sweeping.setWorld {world : TcpServer subLoops} (sweeping : Sweeping machine)
    (beside : Beside machine.world world) : Sweeping (machine.setWorld world) where
  placed := sweeping.placed.grow (server_respects_pointed subLoops User) beside.loops
  pointed := beside.pointed sweeping.pointed
  main instruction member := (sweeping.main instruction member).grows beside

/-- A step of the process keeps the main thread sweeping. -/
theorem Sweeping.step (sweeping : Sweeping machine)
    (step : Step (TcpServer.client subLoops User) machine event after)
    (outside : ∀ active input, event ≠ .advance baseLoop active input) : Sweeping after := by
  obtain ⟨aside, main⟩ := sweep_cases sweeping step outside
  refine ⟨sweeping.placed.step (server_respects_pointed subLoops User) sweeping.pointed step
    fun _ _ _ => trivial, aside.pointed sweeping.pointed, fun instruction member => ?_⟩
  cases main with
  | other _ _ same =>
    rw [same] at member
    exact (sweeping.main instruction member).grows aside.toBeside
  | run input top pushed rest before left sweeps =>
    rw [left] at member
    rcases List.mem_append.mp member with new | old
    · exact (sweeps instruction new).1
    · refine (sweeping.main instruction ?_).grows aside.toBeside
      rw [before]
      exact .tail _ old

end Step

/-! ### The sweep -/

section Sweep

variable [DecidableEq User] {shutdown after : Shutdown subLoops User}

omit [DecidableEq User] in
/-- The destruction of a loop leaves the main thread where it is. -/
theorem destroyLoop_keeps (i : Fin subLoops) :
    (shutdown.destroyLoop i).machine.stack = shutdown.machine.stack ∧
      (shutdown.destroyLoop i).destructor = shutdown.destructor := by
  unfold Shutdown.destroyLoop
  dsimp only
  split <;> exact ⟨rfl, rfl⟩

omit [DecidableEq User] in
/-- What is left in the queue of a destroyed loop is destroyed. -/
theorem destroyLoop_sweeping {i : Fin subLoops} (sweeping : Sweeping shutdown.machine) :
    Sweeping (shutdown.destroyLoop i).machine ∧
      Aside shutdown.machine.world (shutdown.destroyLoop i).machine.world := by
  unfold Shutdown.destroyLoop
  dsimp only
  split
  · exact ⟨sweeping.setWorld (aside_setEpoll _).toBeside, aside_setEpoll _⟩
  · rename_i cb rest queue
    have released := sweeping.setWorld (aside_release (c := cb.connection)).toBeside
    refine ⟨⟨released.placed.setLoop ?_ (released.placed.batch (some i)), released.pointed,
      released.main⟩, aside_release⟩
    intro other member
    refine released.placed.queue (some i) other ?_
    rw [EventLoop.waiting, setWorld_loop, queue]
    rcases List.mem_append.mp member with uncalled | behind
    · exact List.mem_append_left _ uncalled
    · exact List.mem_append_right _ (.tail _ behind)

/-- The sweep calls `forceClose` on the next entry, a connection of a sub loop. -/
theorem visit_sweeping {c : ConnectionId} {i : Fin subLoops} (sweeping : Sweeping shutdown.machine)
    (here : shutdown.machine.world.loopOf c = some (some i)) :
    Sweeping (shutdown.visit c).machine := by
  have shared := sweeping.setWorld (aside_share (c := c)).toBeside
  have stays := (aside_share (c := c)).loops c (some i) here
  refine ⟨shared.placed.setStack fun instruction member => ?_, shared.pointed,
    fun instruction member => ?_⟩
  · simp only [List.mem_cons, List.not_mem_nil, or_false] at member
    rcases member with rfl | rfl
    · exact fun inLoop => by cases inLoop
    · trivial
  · rw [Shutdown.visit, Shutdown.setMachine, setStack_stack_self] at member
    simp only [List.mem_cons, List.not_mem_nil, or_false] at member
    rcases member with rfl | rfl
    · exact ⟨rfl, i, stays⟩
    · trivial

/-- Whether the main thread moves on in what it executes. -/
def ShutdownEvent.runsMain : ShutdownEvent subLoops User → Bool
  | .process (.run (.loop none) _) => true
  | _ => false

/-- Whether the main thread calls `forceClose` on a connection in a step of a run. -/
def forceCloses (c : ConnectionId)
    (step : Shutdown subLoops User × ShutdownEvent subLoops User) : Bool :=
  step.2.runsMain ∧ (step.1.machine.stack mainThread).head? = some (forceCloseCall c)

/-- What holds in a run of the sweep. `calls` balances the calls that have been made, and the one
that is about to be, with the entries that have been visited. -/
structure InSweep (first : Shutdown subLoops User)
    (run : Recorded (Shutdown subLoops User) (ShutdownEvent subLoops User))
    (visited ahead : List Nat) : Prop where
  sweeping : Sweeping run.now.machine
  map : run.now.machine.world.connections_ = first.machine.world.connections_
  order : first.destructor = .sweep [] (visited ++ ahead)
  away : ∀ fd c, first.machine.world.connections_ fd = some c →
    ∃ i : Fin subLoops, run.now.machine.world.loopOf c = some (some i)
  calls : ∀ c, run.past.countP (forceCloses c) +
    (run.now.machine.stack mainThread).countP (fun instruction => instruction = forceCloseCall c) =
      visited.countP fun fd => first.machine.world.connections_ fd = some c

variable {first : Shutdown subLoops User}
  {run : Recorded (Shutdown subLoops User) (ShutdownEvent subLoops User)} {visited ahead : List Nat}

omit [DecidableEq User] in
/-- A step in which the main thread does not move on. -/
theorem InSweep.other {event : ShutdownEvent subLoops User}
    (inSweep : InSweep first run visited ahead) (sweeping : Sweeping after.machine)
    (aside : Aside run.now.machine.world after.machine.world) (foreign : event.runsMain = false)
    (stack : after.machine.stack mainThread = run.now.machine.stack mainThread) :
    InSweep first ⟨run.past ++ [(run.now, event)], after⟩ visited ahead where
  sweeping := sweeping
  map := aside.map.trans inSweep.map
  order := inSweep.order
  away fd c entry := (inSweep.away fd c entry).imp fun _ => aside.loops c _
  calls c := by
    have quiet : forceCloses c (run.now, event) = false := by simp [forceCloses, foreign]
    rw [List.countP_append, List.countP_singleton, quiet, stack]
    exact inSweep.calls c

/-- A step of the process. -/
theorem InSweep.process {event : ServerEvent subLoops User} {machine : ServerMachine subLoops User}
    (inSweep : InSweep first run visited ahead) (permitted : run.now.permits event = true)
    (step : Step (TcpServer.client subLoops User) run.now.machine event machine) :
    InSweep first ⟨run.past ++ [(run.now, .process event)], run.now.setMachine machine⟩
      visited ahead := by
  have outside : ∀ active input, event ≠ .advance baseLoop active input := by
    rintro active input rfl
    cases permitted
  have sweeping := inSweep.sweeping.step step outside
  obtain ⟨aside, main⟩ := sweep_cases inSweep.sweeping step outside
  cases main with
  | other _ foreign same =>
    refine inSweep.other sweeping aside ?_ same
    cases event with
    | run thread input =>
      cases thread with
      | loop l =>
        cases l with
        | none => exact absurd rfl (foreign input)
        | some i => rfl
      | user t => rfl
    | _ => rfl
  | run input top pushed rest before left sweeps =>
    refine ⟨sweeping, aside.map.trans inSweep.map, inSweep.order,
      fun fd c entry => (inSweep.away fd c entry).imp fun _ => aside.loops c _, fun c => ?_⟩
    have balance := inSweep.calls c
    have new : pushed.countP (fun instruction => instruction = forceCloseCall c) = 0 :=
      List.countP_eq_zero.mpr fun instruction member => by
        simpa using (sweeps instruction member).2 c
    have made : forceCloses c (run.now, .process (.run mainThread input)) =
        decide (top = forceCloseCall c) := by
      simp [forceCloses, ShutdownEvent.runsMain, before]
    rw [before, List.countP_cons] at balance
    rw [List.countP_append, List.countP_singleton, made, ← balance]
    change _ + (machine.stack mainThread).countP _ = _
    rw [left, List.countP_append, new]
    omega

/-- The sweep comes to the next entry. -/
theorem InSweep.visit {fd : Nat} {c : ConnectionId}
    (inSweep : InSweep first run visited (fd :: ahead))
    (empty : run.now.machine.stack mainThread = [])
    (entry : run.now.machine.world.connections_ fd = some c) :
    InSweep first ⟨run.past ++ [(run.now, .destructor)],
      (run.now.visit c).goTo (.sweep (visited ++ [fd]) ahead)⟩ (visited ++ [fd]) ahead := by
  have stored : first.machine.world.connections_ fd = some c := inSweep.map ▸ entry
  obtain ⟨i, here⟩ := inSweep.away fd c stored
  have shared : Aside run.now.machine.world (run.now.machine.world.share c) := aside_share
  refine ⟨visit_sweeping inSweep.sweeping here, inSweep.map, ?_,
    fun fd d entry => (inSweep.away fd d entry).imp fun _ => shared.loops d _, fun d => ?_⟩
  · rw [inSweep.order, List.append_assoc, List.singleton_append]
  · have balance := inSweep.calls d
    have stack :
        ((run.now.visit c).goTo (.sweep (visited ++ [fd]) ahead)).machine.stack mainThread =
        [forceCloseCall c, .call (.code (.release c))] :=
      setStack_stack_self ..
    have quiet : forceCloses d (run.now, .destructor) = false := rfl
    have called : [forceCloseCall c, .call (.code (.release c))].countP (fun instruction =>
        (instruction : Instruction (LoopId subLoops) Functor ServerCode) = forceCloseCall d) =
          if c = d then 1 else 0 := by
      by_cases same : c = d <;> simp [same]
    rw [empty, List.countP_nil] at balance
    rw [stack, called, List.countP_append, List.countP_append, ← balance]
    simp [quiet, stored]

section Runs

variable [Fintype User] {listenFd : Nat} {openFds : Nat → Bool}

/-- Everything lies where it belongs where the sweep begins. -/
theorem initial_sweeping
    (initial : (Shutdown.system subLoops User listenFd openFds).initial first) :
    Sweeping first.machine := by
  obtain ⟨reachable, -, empty, -⟩ := initial
  have wired := reachable_wired reachable
  refine ⟨reachable_server_placed reachable, ?_, ?_⟩
  · rintro l fd ⟨events, ch⟩ registered
    cases ch with
    | listen => exact (wired.listen l fd events registered).1
    | connection c =>
      obtain ⟨connection, found, -, isLoop, -⟩ := wired.only l fd events c registered
      exact (loopOf_eq found).trans (congrArg some isLoop)
  · intro instruction member
    rw [empty] at member
    cases member

/-- No entry is a connection of the base loop where the sweep begins. -/
theorem initial_inSweep (initial : (Shutdown.system subLoops User listenFd openFds).initial first)
    (settled : 0 < subLoops ∨ ∀ fd, first.machine.world.connections_ fd = none)
    (start : first.destructor = .sweep visited ahead) :
    InSweep first ⟨[], first⟩ visited ahead := by
  have sweeping := initial_sweeping initial
  obtain ⟨reachable, -, empty, -, order, begins, -, -⟩ := initial
  rw [begins] at start
  cases start
  refine ⟨sweeping, rfl, begins, ?_, ?_⟩
  · intro fd c entry
    rcases settled with multi | none
    · obtain ⟨connection, found, -⟩ := (reachable_owned reachable).entry fd c entry
      cases loop : connection.loop_ with
      | none => exact absurd loop (reachable_loop_ne_base multi reachable found)
      | some i => exact ⟨i, (loopOf_eq found).trans (congrArg some loop)⟩
    · rw [none fd] at entry
      cases entry
  · intro c
    rw [empty]
    rfl

/-- Throughout the sweep. -/
theorem reachable_inSweep (initial : (Shutdown.system subLoops User listenFd openFds).initial first)
    (settled : 0 < subLoops ∨ ∀ fd, first.machine.world.connections_ fd = none)
    (reachable : Reachable ((Shutdown.system subLoops User listenFd openFds).after first).recorded
      run) :
    ∀ visited ahead, run.now.destructor = .sweep visited ahead →
      InSweep first run visited ahead := by
  refine reachable.invariant (fun run => ∀ visited ahead,
    run.now.destructor = .sweep visited ahead → InSweep first run visited ahead) ?_ ?_
  · rintro ⟨past, now⟩ ⟨begins, same⟩ visited ahead place
    obtain rfl : past = [] := begins
    obtain rfl : now = first := same
    exact initial_inSweep initial settled place
  · intro run event next _ before _ step
    obtain ⟨after, taken, rfl⟩ := Option.map_eq_some_iff.mp step
    have taken : run.now.step event = some after := taken
    intro visited ahead place
    have place : after.destructor = .sweep visited ahead := place
    cases shutdown_cases taken with
    | process event machine permitted moved =>
      exact (before visited ahead place).process permitted moved
    | threadFunc i stood left moved =>
      have inSweep := before visited ahead place
      exact inSweep.other inSweep.sweeping aside_same rfl rfl
    | destroyLoop i stood =>
      obtain ⟨stack, stays⟩ := destroyLoop_keeps i
      have inSweep := before visited ahead (stays ▸ place)
      obtain ⟨sweeping, aside⟩ := destroyLoop_sweeping inSweep.sweeping
      exact inSweep.other sweeping aside rfl (congrFun stack mainThread)
    | goTo destructor left => exact absurd place (left visited ahead)
    | visit swept behind fd c empty stood entry =>
      cases place
      exact (before swept (fd :: ahead) stood).visit empty entry
    | _ => cases place

/-- The visits of entries that hold a connection: the map holds it under one fd at most. -/
theorem visits_eq (initial : (Shutdown.system subLoops User listenFd openFds).initial first)
    {fd : Nat} {c : ConnectionId} (entry : first.machine.world.connections_ fd = some c) :
    (visited.countP fun other => first.machine.world.connections_ other = some c) =
      visited.count fd := by
  have owned := reachable_owned initial.1
  refine List.countP_congr fun other _ => ?_
  rw [decide_eq_true_iff, beq_iff_eq]
  refine ⟨fun same => ?_, fun same => same ▸ entry⟩
  obtain ⟨connection, found, isFd⟩ := owned.entry fd c entry
  obtain ⟨stored, foundAgain, isOther⟩ := owned.entry other c same
  obtain rfl := Option.some.inj (found.symm.trans foundAgain)
  rw [← isOther, isFd]

/-- With sub loops, and also without them when no connection is left, the sweep iterates over a map
that does not change, always stands on an entry of it, and has called `forceClose` exactly once on
each connection when it ends. -/
theorem sweep_leaves_map (initial : (Shutdown.system subLoops User listenFd openFds).initial first)
    (settled : 0 < subLoops ∨ ∀ fd, first.machine.world.connections_ fd = none)
    (reachable : Reachable ((Shutdown.system subLoops User listenFd openFds).after first).recorded
      run) :
    (∀ visited ahead, run.now.destructor = .sweep visited ahead →
      run.now.machine.world.connections_ = first.machine.world.connections_ ∧
        run.now.machine.world.standsOn visited = true ∧
        ∀ c, run.past.countP (forceCloses c) ≤ 1) ∧
    ∀ visited, run.now.destructor = .sweep visited [] → run.now.machine.stack mainThread = [] →
      ∀ fd c, first.machine.world.connections_ fd = some c →
        run.past.countP (forceCloses c) = 1 := by
  have ⟨_, _, _, _, order, begins, distinct, complete⟩ := initial
  constructor
  · intro visited ahead place
    have inSweep := reachable_inSweep initial settled reachable visited ahead place
    obtain rfl : visited ++ ahead = order := by simpa [begins] using inSweep.order.symm
    refine ⟨inSweep.map, ?_, fun c => ?_⟩
    · rw [TcpServer.standsOn, inSweep.map]
      cases last : visited.getLast? with
      | none => rfl
      | some fd =>
        exact (complete fd).mp (List.mem_append_left _ (List.mem_of_getLast? last))
    · have balance := inSweep.calls c
      suffices once : (visited.countP fun fd => first.machine.world.connections_ fd = some c) ≤ 1 by
        omega
      by_cases held : ∃ fd, first.machine.world.connections_ fd = some c
      · obtain ⟨fd, entry⟩ := held
        rw [visits_eq initial entry]
        exact List.nodup_iff_count_le_one.mp (distinct.sublist (List.sublist_append_left ..)) fd
      · rw [List.countP_eq_zero.mpr fun fd _ same => held ⟨fd, of_decide_eq_true same⟩]
        exact Nat.zero_le 1
  · intro visited place empty fd c entry
    have inSweep := reachable_inSweep initial settled reachable visited [] place
    obtain rfl : visited = order := by simpa [begins] using inSweep.order.symm
    have member : fd ∈ visited := (complete fd).mpr (by rw [entry]; rfl)
    have balance := inSweep.calls c
    rwa [empty, List.countP_nil, Nat.add_zero, visits_eq initial entry, distinct.count,
      if_pos member] at balance

end Runs

end Sweep

/-! ### Runs of the sweep -/

/-- A user thread tells the base loop to quit, and the base loop does. -/
def leaves {subLoops : Nat} : List (ServerEvent subLoops Unit) :=
  [.begin (.user ()) (.user (.quit baseLoop)), steps (.user ()), moves baseLoop]

/-- The process where `~TcpServer` begins, with one connection in the map. -/
def Shutdown.begun (machine : ServerMachine subLoops Unit) (fd : Nat) : Shutdown subLoops Unit :=
  { machine := machine, threadFunc := fun _ => .loop, destructor := .sweep [] [fd] }

/-- A state in which `~TcpServer` can begin with one connection. -/
theorem begun_initial {machine : ServerMachine subLoops Unit} {listenFd fd : Nat}
    {openFds : Nat → Bool}
    (reachable : Reachable (TcpServer.system subLoops Unit listenFd openFds) machine)
    (left : (machine.loop baseLoop).position = .outside)
    (empty : machine.stack mainThread = []) (entry : machine.world.connections_ fd = some 0)
    (only : machine.world.connections.map TcpConnection.fd_ = [fd]) :
    (Shutdown.system subLoops Unit listenFd openFds).initial (.begun machine fd) := by
  refine ⟨reachable, left, empty, fun _ => rfl, [fd], rfl, List.nodup_singleton fd, fun other => ?_⟩
  rw [List.mem_singleton]
  refine ⟨?_, fun stored => ?_⟩
  · rintro rfl
    exact Option.isSome_of_mem entry
  · obtain ⟨c, held⟩ := Option.isSome_iff_exists.mp stored
    obtain ⟨connection, found, rfl⟩ := (reachable_owned reachable).entry other c held
    exact List.mem_singleton.mp (only ▸ List.mem_map_of_mem (List.mem_of_getElem? found))

/-- A thread that is outside `loop()` has left it. -/
theorem position_of_outside {machine : ServerMachine subLoops User} {l : LoopId subLoops}
    (left : machine.outside (.loop l) = true) : (machine.loop l).position = .outside := by
  unfold Machine.outside at left
  dsimp only at left
  split at left
  · assumption
  · cases left

/-- A run of the sweep over one connection, from where the server's run `labels` ends. -/
theorem sweep_of_replay (labels : List (ServerEvent subLoops Unit))
    (events : List (ShutdownEvent subLoops Unit))
    {property : Recorded (Shutdown subLoops Unit) (ShutdownEvent subLoops Unit) → Prop}
    [DecidablePred property]
    (holds : (replay (TcpServer.system subLoops Unit 3 fun _ => false) anyStep
      (.start (.started subLoops 3 fun _ => false)) labels).any (fun machine =>
        machine.outside mainThread ∧ machine.stack mainThread = [] ∧
        machine.world.connections_ 7 = some 0 ∧
        machine.world.connections.map TcpConnection.fd_ = [7] ∧
        (replay ((Shutdown.system subLoops Unit 3 fun _ => false).after (.begun machine 7)).recorded
          anyStep ⟨[], .begun machine 7⟩ events).any property) = true) :
    ∃ first run, (Shutdown.system subLoops Unit 3 fun _ => false).initial first ∧
      Reachable ((Shutdown.system subLoops Unit 3 fun _ => false).after first).recorded run ∧
      first.machine.world.connections_ 7 = some 0 ∧ property run := by
  obtain ⟨machine, served, checked⟩ := (Option.any_eq_true _ _).mp holds
  obtain ⟨left, empty, entry, only, swept⟩ := of_decide_eq_true checked
  obtain ⟨run, returned, reached⟩ := (Option.any_eq_true _ _).mp swept
  exact ⟨.begun machine 7, run, begun_initial (reachableBy_of_replay labels (.start rfl) served)
    (position_of_outside left) empty entry only,
    reachableBy_of_replay events (.start (initial_recorded rfl)) returned, entry,
    of_decide_eq_true reached⟩

/-- With a sub loop, the sweep closes the connection and ends. -/
theorem sweep_leaves_map_one :
    ∃ (first : Shutdown 1 Unit) (run : Recorded (Shutdown 1 Unit) (ShutdownEvent 1 Unit)),
      first.machine.world.connections_ 7 = some 0 ∧ run.now.destructor = .sweep [7] [] ∧
        run.now.machine.world.connections_ = first.machine.world.connections_ ∧
        run.past.countP (forceCloses 0) = 1 := by
  have swept : ∃ first run, (Shutdown.system 1 Unit 3 fun _ => false).initial first ∧
      Reachable ((Shutdown.system 1 Unit 3 fun _ => false).after first).recorded run ∧
      first.machine.world.connections_ 7 = some 0 ∧ run.now.destructor = .sweep [7] [] ∧
        run.now.machine.stack mainThread = [] :=
    sweep_of_replay (acceptRun.dropLast ++ registration ++ leaves)
      (.destructor :: List.replicate 7 (.process (steps mainThread))) (by decide)
  obtain ⟨first, run, initial, reachable, entry, place, empty⟩ := swept
  obtain ⟨during, ended⟩ := sweep_leaves_map initial (.inl Nat.one_pos) reachable
  exact ⟨first, run, entry, place, (during [7] [] place).1, ended [7] place empty 7 0 entry⟩

/-- Without sub loops, the loop has accepted fd 7. -/
def acceptAlone : List (ServerEvent 0 Unit) :=
  [moves baseLoop, moves baseLoop, readable baseLoop [.channel .listen], moves baseLoop,
    steps (.loop baseLoop), .run (.loop baseLoop) (.accept (.client 7 true))] ++
  List.replicate 5 (steps (.loop baseLoop)) ++ [.run (.loop baseLoop) (.accept .again)] ++
  List.replicate 2 (moves baseLoop)

/-- Without sub loops, the call of `forceClose` on the connection erases its entry, on which the
sweep stands. -/
theorem sweep_erases_entry : ∃ first run,
    (Shutdown.system 0 Unit 3 fun _ => false).initial first ∧
      Reachable ((Shutdown.system 0 Unit 3 fun _ => false).after first).recorded run ∧
      first.machine.world.connections_ 7 = some 0 ∧ run.now.destructor = .sweep [7] [] ∧
        run.now.machine.world.connections_ 7 = none ∧
        run.now.machine.world.standsOn [7] = false :=
  sweep_of_replay (acceptAlone ++ leaves)
    (.destructor :: List.replicate 14 (.process (steps mainThread))) (by decide)

end MultiReactor
