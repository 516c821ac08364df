/-
This file proves that a connection does not notice the server around it. Every
step of the process is, for a connection on which no user thread makes a call,
a step of that connection on its own, or no step of it at all. So whatever else
goes on, and whether the connection lives on the base loop or on a sub loop,
where the same masks and the same results of `recv` and `send` reach it, it
goes through the same buffers, states and registrations and transmits the same
bytes until `handleClose` has closed it.
-/

import MultiReactor.Quiescence
import MultiReactor.SingleReactor
import MultiReactor.Undisturbed

namespace MultiReactor

open Transition

variable {subLoops : Nat} {User : Type}

/-! ### What a connection sees and shows in a run -/

/-- The statement of the connection that an instruction executes. -/
def Instruction.statementOf (c : ConnectionId) :
    Instruction (LoopId subLoops) Functor ServerCode → Option Statement
  | .call (.code (.connection d body)) => if d = c then some body else none
  | _ => none

/-- What a step lets a connection see, as long as the connection has not been closed: the result of
the system call of its statement that is executed, or the mask `epoll_wait` reports for its
channel. -/
def sees (c : ConnectionId) (machine : ServerMachine subLoops User)
    (event : ServerEvent subLoops User) : Option Seen :=
  (machine.world.find c).bind fun connection =>
    if connection.state_ = .kDisconnected then none
    else match event with
      | .run thread input =>
        if ((machine.stack thread).head?.bind (Instruction.statementOf c)).any connection.asks then
          some (.io input.ioResult)
        else none
      | .advance l active (.revents mask) =>
        if (machine.loop l).position = .poll ∧ active.contains (.channel (.connection c)) then
          some (.mask (mask (.connection c)))
        else none
      | _ => none

/-- What can be observed of a connection of the server, once it exists. The mask is the one its
loop's epoll instance has it registered for. -/
def TcpServer.shown (server : TcpServer subLoops) (c : ConnectionId) : Option Shown :=
  (server.find c).map fun connection =>
    connection.shown ((server.epoll connection.loop_ connection.fd_).map Prod.fst)

/-- The values that can be observed of a connection in a run, one after the other, up to and
including its close. -/
def values (c : ConnectionId)
    (run : Recorded (ServerMachine subLoops User) (ServerEvent subLoops User)) :
    List (Option Shown) :=
  noted Shown.closed (run.views fun machine => machine.world.shown c)

/-- The connection has been closed, or it is connected and what its loop does next of it waits for
a mask or for the result of a system call. -/
def awaits (c : ConnectionId) (machine : ServerMachine subLoops User) : Bool :=
  (machine.world.find c).any fun connection => match connection.state_ with
    | .kDisconnected => true
    | .kConnected => (underWay c machine connection.loop_).head?.all connection.asks
    | _ => false

/-! ### The steps -/

section Sees

variable {machine : ServerMachine subLoops User} {event : ServerEvent subLoops User}
  {c : ConnectionId} {connection : TcpConnection (LoopId subLoops)}

theorem sees_acts (found : machine.world.find c = some connection)
    (opened : connection.state_ ≠ .kDisconnected) {thread : Thread (LoopId subLoops) User}
    {body : Statement} {rest : List (Instruction (LoopId subLoops) Functor ServerCode)}
    (top : machine.stack thread = .call (.code (.connection c body)) :: rest)
    (input : Input subLoops) :
    sees c machine (.run thread input) =
      if connection.asks body then some (.io input.ioResult) else none := by
  simp [sees, found, opened, top, Instruction.statementOf]

theorem sees_reports (found : machine.world.find c = some connection)
    (opened : connection.state_ ≠ .kDisconnected) {l : LoopId subLoops}
    {active : List (Ready ChannelId)} (mask : ChannelId → Events)
    (place : (machine.loop l).position = .poll) (member : .channel (.connection c) ∈ active) :
    sees c machine (.advance l active (.revents mask)) = some (.mask (mask (.connection c))) := by
  simp [sees, found, opened, place, member]

/-- A thread that is about to execute a statement of the connection acts on it. -/
theorem actsOn_of_statementOf {thread : Thread (LoopId subLoops) User} {input : Input subLoops}
    {body : Statement}
    (next : (machine.stack thread).head?.bind (Instruction.statementOf c) = some body) :
    ActsOn c machine (.run thread input) := by
  obtain ⟨instruction, head, statement⟩ := Option.bind_eq_some_iff.mp next
  obtain ⟨rest, top⟩ := List.head?_eq_some_iff.mp head
  unfold Instruction.statementOf at statement
  split at statement
  · split at statement
    · rename_i own
      subst own
      exact ⟨thread, input, _, rest, rfl, top⟩
    · cases statement
  · cases statement

/-- Other steps let the connection see nothing. -/
theorem sees_nothing (foreign : ¬ ActsOn c machine event) (unreported : ¬ Reports c machine event) :
    sees c machine event = none := by
  refine Option.bind_eq_none_iff.mpr fun connection _ => ?_
  split
  · rfl
  · split
    · refine if_neg fun asked => ?_
      obtain ⟨body, next, -⟩ := (Option.any_eq_true _ _).mp asked
      exact foreign (actsOn_of_statementOf next)
    · rename_i l active mask
      refine if_neg fun reported => ?_
      exact unreported ⟨l, active, mask, rfl, reported.1, List.contains_iff_mem.mp reported.2⟩
    · rfl

/-- A turn that executes no statement of the connection and reports no mask leaves the connection
like it was. -/
theorem Turn.alike {now : TcpConnection (LoopId subLoops)} {stored storedNow : Nat}
    {used left : List Task}
    (turn : Turn machine c event connection stored now storedNow used left)
    (foreign : ¬ ActsOn c machine event) (unreported : ¬ Reports c machine event) :
    Alike now connection := by
  cases turn with
  | statement thread input body rest connection stored outcome top alive executes =>
    exact absurd ⟨thread, input, body, rest, rfl, top⟩ foreign
  | reported l active mask connection stored idle place member alive registered =>
    exact absurd ⟨l, active, mask, rfl, place, mem_channelsOf.mp member⟩ unreported
  | dropped event connection stored alive =>
    exact ⟨rfl, rfl, rfl, rfl, rfl, drop_unseen connection rfl⟩
  | _ => exact ⟨rfl, rfl, rfl, rfl, rfl, rfl⟩

end Sees

/-! ### The connection on its own in the process -/

/-- What the connection does next on its loop. -/
def ahead (c : ConnectionId) (machine : ServerMachine subLoops User)
    (connection : TcpConnection (LoopId subLoops)) : List Statement :=
  if connection.state_ = .kConnecting then [.connectEstablishedInLoop]
  else underWay c machine connection.loop_

/-- The connection of the process is in the state of the connection on its own, until both have been
closed. -/
inductive Matches (c : ConnectionId) (machine : ServerMachine subLoops User) :
    Option Solo → Prop where
  | unborn (missing : machine.world.find c = none) : Matches c machine none
  | opened (connection : TcpConnection (LoopId subLoops))
      (found : machine.world.find c = some connection)
      (opened : connection.state_ ≠ .kDisconnected) :
      Matches c machine
        (some { connection := connection.alone, statements := ahead c machine connection })
  | closed (connection : TcpConnection (LoopId subLoops)) (solo : Solo)
      (found : machine.world.find c = some connection)
      (closed : connection.state_ = .kDisconnected)
      (done : solo.connection.state_ = .kDisconnected ∧ solo.statements = []) :
      Matches c machine (some solo)

/-- A step of the process is a step of the connection on its own on what is seen in it, or none. -/
def Mirrored (c : ConnectionId) (machine : ServerMachine subLoops User)
    (event : ServerEvent subLoops User) (after : ServerMachine subLoops User)
    (abstract : Option Solo) : Prop :=
  sees c machine event = none ∧ Matches c after abstract ∨
    ∃ next, Solo.system.step abstract (sees c machine event) = some next ∧ Matches c after next ∧
      after.world.shown c = Solo.shown next

section Shown

variable {server : TcpServer subLoops} {c : ConnectionId} {Loop Other : Type}

/-- A live connection is registered for the mask its channel says. -/
theorem shown_eq {owners : ConnectionId → Nat} {connection : TcpConnection (LoopId subLoops)}
    (wired : Wired server) (owned : Owned server owners)
    (found : server.find c = some connection) (alive : 0 < connection.useCount) :
    server.shown c = some (connection.shown connection.channel_.registered) := by
  have registered : (server.epoll connection.loop_ connection.fd_).map Prod.fst =
      connection.channel_.registered := by
    rcases wired.indexed c connection found with added | fresh
    · rw [wired.own c connection found alive added, Channel.registered, if_pos added]
      rfl
    · rw [wired.free owned found alive fresh, Channel.registered, fresh]
      rfl
  rw [TcpServer.shown, found, Option.map_some, registered]

/-- Connections that are alike show the same. -/
theorem Alike.shown {connection : TcpConnection Loop} {other : TcpConnection Other}
    (alike : Alike connection other) :
    connection.shown connection.channel_.registered = other.shown other.channel_.registered := by
  have registered : connection.channel_.registered = other.channel_.registered := by
    show connection.channel_.alone.registered = other.channel_.alone.registered
    rw [alike.channel]
  unfold TcpConnection.shown
  rw [alike.accepted, alike.input, alike.output, alike.state, registered]

/-- An open connection on its own shows what it shows in the process. -/
theorem shown_opened (connection : TcpConnection Loop) (statements : List Statement) :
    Solo.shown (some { connection := connection.alone, statements := statements }) =
      some (connection.shown connection.channel_.registered) :=
  congrArg some (alike_alone connection).shown

end Shown

section Reachable

variable [DecidableEq User] [Fintype User] {listenFd : Nat} {openFds : Nat → Bool}
  {machine after : ServerMachine subLoops User} {event : ServerEvent subLoops User}
  {c : ConnectionId} {connection : TcpConnection (LoopId subLoops)}

omit [Fintype User] in
/-- What executing a statement of the connection does. -/
theorem acts_cases {thread : Thread (LoopId subLoops) User} {body : Statement}
    {rest : List (Instruction (LoopId subLoops) Functor ServerCode)} {input : Input subLoops}
    (found : machine.world.find c = some connection)
    (top : machine.stack thread = .call (.code (.connection c body)) :: rest)
    (step : (TcpServer.system subLoops User listenFd openFds).step machine (.run thread input) =
      some after) :
    ∃ outcome, connection.execute body input.ioResult = some outcome ∧
      0 < connection.useCount ∧ after.world.find c = some outcome.connection ∧
      after.loop = machine.loop ∧ after.stack thread =
        (outcome.next.map (Next.toCall c connection.loop_)).map .call ++ rest := by
  obtain ⟨world, calls, executed, rfl⟩ := step_code top step
  obtain ⟨acting, live, mapped⟩ := Option.bind_eq_some_iff.mp executed
  obtain ⟨actingFound, alive⟩ := live_eq_some.mp live
  obtain rfl := Option.some.inj (found.symm.trans actingFound)
  obtain ⟨outcome, run, same⟩ := Option.map_eq_some_iff.mp mapped
  cases same
  refine ⟨outcome, run, alive, ?_, rfl, setStack_stack_self ..⟩
  exact (commit_find machine.world c c found outcome).trans (if_pos rfl)

/-- Executing the statement that comes next of an open connection is a step of the connection on its
own. -/
theorem acts_step {body : Statement} {statements : List Statement} {io : IoResult}
    {outcome : Outcome (LoopId subLoops)}
    (reachable : Reachable (TcpServer.system subLoops User listenFd openFds) after)
    (next : ahead c machine connection = body :: statements)
    (executed : connection.execute body io = some outcome)
    (now : after.world.find c = some outcome.connection)
    (alive : 0 < outcome.connection.useCount)
    (goesOn : outcome.connection.state_ ≠ .kDisconnected →
      outcome.next.filterMap Next.body ++ statements = ahead c after outcome.connection) :
    ∃ solo, Solo.system.step
        (some { connection := connection.alone, statements := ahead c machine connection })
        (if connection.asks body then some (.io io) else none) = some solo ∧
      Matches c after solo ∧ after.world.shown c = Solo.shown solo := by
  have shown := shown_eq (reachable_wired reachable) (reachable_owned reachable) now alive
  refine ⟨some (outcome.goOn statements), ?_, ?_, shown.trans (shown_opened _ _).symm⟩
  · rw [next]
    exact congrArg (Option.map some) (solo_executes executed statements)
  · by_cases closed : outcome.connection.state_ = .kDisconnected
    · exact .closed outcome.connection _ now closed ⟨closed, if_pos closed⟩
    · have same : outcome.goOn statements = { connection := outcome.connection.alone
                                              statements := ahead c after outcome.connection } := by
        unfold Outcome.goOn
        rw [if_neg closed, goesOn closed]
      rw [same]
      exact .opened outcome.connection now closed

omit [DecidableEq User] in
/-- Nothing is under way of a connection for which nothing is outstanding. -/
theorem underWay_eq_nil (idle : ∀ kind, pending c machine kind = 0) (l : LoopId subLoops) :
    underWay c machine l = [] := by
  have never (task : Task)
      (outstanding : ∀ kind, kind task = true → 0 < pending c machine kind) : False := by
    have held := outstanding (fun _ => true) rfl
    rw [idle] at held
    cases held
  have stack : bodiesOf c (machine.stack (.loop l)) = [] := by
    refine List.filterMap_eq_nil_iff.mpr fun instruction onStack => ?_
    cases led : instruction.bodyOf c with
    | none => rfl
    | some body =>
      refine (never (.statement body) ?_).elim
      unfold Instruction.bodyOf at led
      split at led
      · split at led
        · rename_i own
          obtain rfl := Option.some.inj led
          exact outstanding_of_stack onStack List.mem_cons_self (own ▸ rfl)
        · cases led
      · split at led
        · rename_i own
          obtain rfl := Option.some.inj led
          exact outstanding_of_stack onStack List.mem_cons_self (own ▸ rfl)
        · cases led
      · cases led
  unfold underWay
  rw [stack, if_neg]
  · rfl
  · intro member
    have isReady : (.ready (.connection c) : ServerItem) ∈ (machine.loop l).items := by
      simpa [EventLoop.items, Position.items] using mem_channelsOf.mpr member
    exact never .ready (outstanding_of_loop isReady rfl)

omit [Fintype User] in
/-- What a step does in which `epoll_wait` returns. -/
theorem reports_cases {l : LoopId subLoops} {active : List (Ready ChannelId)}
    {input : Input subLoops} (place : (machine.loop l).position = .poll)
    (step : Step (TcpServer.client subLoops User) machine (.advance l active input) after) :
    machine.stack (.loop l) = [] ∧ after.stack = machine.stack ∧
      after.loop l = (machine.loop l).at (.dispatch active) ∧
      TcpServer.poll l (channelsOf active) input machine.world = some after.world := by
  cases step with
  | poll _ _ _ world idle _ distinct bounded counted polled =>
    exact ⟨idle, rfl, setLoop_loop_self .., polled⟩
  | move _ _ _ eventLoop idle moved => cases moved <;> simp_all
  | dispatch | invoke | clear => simp_all

omit [DecidableEq User] [Fintype User] in
/-- A turn in which a statement of the connection changes its state is the statement's. -/
theorem Turn.acts {now : TcpConnection (LoopId subLoops)} {stored storedNow : Nat}
    {used left : List Task} {thread : Thread (LoopId subLoops) User} {input : Input subLoops}
    {body : Statement} {rest : List (Instruction (LoopId subLoops) Functor ServerCode)}
    (turn : Turn machine c (.run thread input) connection stored now storedNow used left)
    (top : machine.stack thread = .call (.code (.connection c body)) :: rest)
    (changed : now.state_ ≠ connection.state_) :
    used = [.statement body] ∧ ∃ outcome, Executes connection body input.ioResult outcome ∧
      left = outcome.next.filterMap Next.task := by
  cases turn with
  | statement _ _ acting below _ _ outcome onTop alive executes =>
    cases top.symm.trans onTop
    exact ⟨rfl, outcome, executes, rfl⟩
  | _ => exact absurd rfl changed

/-- What `epoll_wait` reports is registered by the loop it reports it to. -/
theorem reports_registered
    (reachable : Reachable (TcpServer.system subLoops User listenFd openFds) machine)
    (found : machine.world.find c = some connection) {l : LoopId subLoops}
    {active : List ChannelId} {input : Input subLoops} {world : TcpServer subLoops}
    (polled : TcpServer.poll l active input machine.world = some world)
    (member : .connection c ∈ active) :
    connection.loop_ = l ∧ connection.channel_.index_ = 1 := by
  obtain ⟨mask, -, reported, -⟩ := serverPoll_cases polled
  have registered := reported _ member
  unfold TcpServer.reports at registered
  dsimp only at registered
  split at registered
  · obtain ⟨registrant, same, isLoop, -, added⟩ :=
      (reachable_wired reachable).registrant (of_decide_eq_true registered)
    obtain rfl := Option.some.inj (found.symm.trans same)
    exact ⟨isLoop, added⟩
  · cases registered

omit [DecidableEq User] [Fintype User] in
/-- An open connection that is like it was, with the same ahead of it, still matches. -/
theorem matches_alike {now : TcpConnection (LoopId subLoops)}
    (nowFound : after.world.find c = some now) (alike : Alike now connection)
    (opened : connection.state_ ≠ .kDisconnected)
    (same : ahead c after now = ahead c machine connection) :
    Matches c after
      (some { connection := connection.alone, statements := ahead c machine connection }) := by
  rw [← alike.alone, ← same]
  exact .opened now nowFound (alike.state ▸ opened)

omit [DecidableEq User] [Fintype User] in
/-- A step that neither executes a statement of the connection nor reports its channel, nor changes
what is ahead of it, is none of the connection on its own. -/
theorem mirrored_alike {now : TcpConnection (LoopId subLoops)} {stored storedNow : Nat}
    {used left : List Task} (nowFound : after.world.find c = some now)
    (turn : Turn machine c event connection stored now storedNow used left)
    (foreign : ¬ ActsOn c machine event) (unreported : ¬ Reports c machine event)
    (opened : connection.state_ ≠ .kDisconnected)
    (same : connection.state_ ≠ .kConnecting →
      underWay c after connection.loop_ = underWay c machine connection.loop_) :
    Mirrored c machine event after
      (some { connection := connection.alone, statements := ahead c machine connection }) := by
  have alike := turn.alike foreign unreported
  refine .inl ⟨sees_nothing foreign unreported, matches_alike nowFound alike opened ?_⟩
  unfold ahead
  rw [alike.state, turn.loop]
  by_cases connecting : connection.state_ = .kConnecting
  · rw [if_pos connecting, if_pos connecting]
  · rw [if_neg connecting, if_neg connecting, same connecting]

/-- The registration of a new connection is its first step, and every other step leaves a connecting
connection as it is. -/
theorem connecting_step
    (reachable : ReachableBy (TcpServer.system subLoops User listenFd openFds) (Undisturbed c)
      machine)
    (reachableAfter : Reachable (TcpServer.system subLoops User listenFd openFds) after)
    (found : machine.world.find c = some connection)
    (connecting : connection.state_ = .kConnecting)
    (step : (TcpServer.system subLoops User listenFd openFds).step machine event = some after) :
    Mirrored c machine event after
      (some { connection := connection.alone, statements := ahead c machine connection }) := by
  have opened : connection.state_ ≠ .kDisconnected := by
    rw [connecting]
    decide
  have calm := reachable_calm reachable found
  obtain ⟨now, used, left, nowFound, turn, exchange⟩ :=
    reachable_turn reachable.reachable step found
  by_cases acts : ActsOn c machine event
  · obtain ⟨thread, input, body, rest, rfl, top⟩ := acts
    obtain ⟨establishing, counts⟩ := calm.only connecting
      (outstanding_of_stack (by rw [top]; exact List.mem_cons_self) List.mem_cons_self rfl)
    obtain ⟨outcome, executed, alive, outcomeFound, -, -⟩ := acts_cases found top step
    rw [Mirrored, sees_acts found opened top]
    obtain same := Option.some.inj (nowFound.symm.trans outcomeFound)
    cases body with
    | connectEstablished =>
      cases executed
      refine .inl ⟨rfl, matches_alike outcomeFound ⟨rfl, rfl, rfl, rfl, rfl, rfl⟩ opened ?_⟩
      exact (if_pos connecting).trans (if_pos connecting).symm
    | connectEstablishedInLoop =>
      have changed : now.state_ ≠ connection.state_ := by
        cases executed
        rw [same, connecting]
        exact fun equal => by cases equal
      obtain ⟨rfl, executing, executes, leaves⟩ := turn.acts top changed
      -- the registration was the only task, and it is done
      have done (kind : Task → Bool) : pending c after kind = 0 := by
        have change := exchange kind
        have only := counts kind
        cases executes
        simp only [leaves, yieldsChannel_next, List.filterMap_nil, List.countP_nil] at change
        omega
      cases executed
      refine .inr (acts_step reachableAfter (if_pos connecting) rfl outcomeFound alive fun _ => ?_)
      exact (underWay_eq_nil done _).symm
    | _ => cases establishing
  · by_cases reports : Reports c machine event
    · obtain ⟨l, active, mask, rfl, place, member⟩ := reports
      have taken : (TcpServer.client subLoops User).step machine
        (.advance l active (.revents mask)) = some after := step
      obtain ⟨-, -, -, polled⟩ := reports_cases place (step_cases taken)
      have added := (reports_registered reachable.reachable found polled
        (mem_channelsOf.mpr member)).2
      rw [((reachable_lively reachable.reachable found).connecting connecting).1] at added
      cases added
    · exact mirrored_alike nowFound turn acts reports opened (absurd connecting)

/-- What a connected connection does is what it does on its own. -/
theorem connected_step
    (reachable : ReachableBy (TcpServer.system subLoops User listenFd openFds) (Undisturbed c)
      machine)
    (reachableAfter : Reachable (TcpServer.system subLoops User listenFd openFds) after)
    (found : machine.world.find c = some connection)
    (connected : connection.state_ = .kConnected)
    (step : (TcpServer.system subLoops User listenFd openFds).step machine event = some after) :
    Mirrored c machine event after
      (some { connection := connection.alone, statements := ahead c machine connection }) := by
  have opened : connection.state_ ≠ .kDisconnected := by
    rw [connected]
    decide
  have established : connection.state_ ≠ .kConnecting := by
    rw [connected]
    decide
  have taken : (TcpServer.client subLoops User).step machine event = some after := step
  obtain ⟨now, used, left, nowFound, turn, -⟩ := reachable_turn reachable.reachable step found
  by_cases acts : ActsOn c machine event
  · obtain ⟨thread, input, body, rest, rfl, top⟩ := acts
    obtain rfl := executed_here reachable found connected
      (by rw [top]; exact List.mem_cons_self)
    obtain ⟨outcome, executed, alive, outcomeFound, loops, stack⟩ := acts_cases found top step
    have executes := execute_cases executed
    have keeps := executes.keeps
    rw [Mirrored, sees_acts found opened top]
    have next : ahead c machine connection = body :: (bodiesOf c rest ++
        if .channel (.connection c) ∈ (machine.loop connection.loop_).position.active then
          handleEventTests else []) := by
      unfold ahead underWay
      rw [if_neg established, top]
      simp [bodiesOf, Instruction.bodyOf]
    refine .inr (acts_step reachableAfter next executed outcomeFound ?_ fun still => ?_)
    · rw [keeps.useCount]
      exact Nat.add_pos_left alive _
    · have stillEstablished : outcome.connection.state_ ≠ .kConnecting := by
        rw [executes.state]
        cases body <;> first | exact established | exact fun same => by cases same
      unfold ahead underWay
      rw [if_neg stillEstablished, keeps.loop, loops, stack, bodiesOf_append, bodiesOf_next,
        List.append_assoc]
  · by_cases reports : Reports c machine event
    · obtain ⟨l, active, mask, rfl, place, member⟩ := reports
      obtain ⟨idle, stack, loop, polled⟩ := reports_cases place (step_cases taken)
      obtain ⟨rfl, -⟩ := reports_registered reachable.reachable found polled
        (mem_channelsOf.mpr member)
      have masked : after.world.find c = some { connection with
          channel_ := connection.channel_.setRevents (mask (.connection c)) } := by
        obtain ⟨given, same, -, setting⟩ := serverPoll_cases polled
        cases same
        rw [setting, setRevents_find, found, Option.map_some, if_pos (mem_channelsOf.mpr member)]
      have nothing : ahead c machine connection = [] := by
        unfold ahead underWay
        rw [if_neg established, idle, place]
        rfl
      have tests : ahead c after { connection with
          channel_ := connection.channel_.setRevents (mask (.connection c)) } =
          handleEventTests := by
        unfold ahead underWay
        rw [if_neg established, stack, idle, loop]
        exact if_pos member
      have alive := reachable_alive reachable.reachable found
        ((reachable_lively reachable.reachable found).opened (.inr connected))
      have shown := shown_eq (reachable_wired reachableAfter) (reachable_owned reachableAfter)
        masked alive
      rw [Mirrored, sees_reports found opened mask place member, nothing]
      refine .inr ⟨_, congrArg (Option.map some) (if_pos connected), ?_,
        shown.trans (shown_opened _ _).symm⟩
      rw [← tests]
      exact .opened _ masked opened
    · exact mirrored_alike nowFound turn acts reports opened fun _ =>
        underWay_kept reachable found connected (step_cases taken) acts reports

/-- An open connection is connecting or connected. -/
theorem opened_cases
    (reachable : ReachableBy (TcpServer.system subLoops User listenFd openFds) (Undisturbed c)
      machine) (found : machine.world.find c = some connection)
    (opened : connection.state_ ≠ .kDisconnected) :
    connection.state_ = .kConnecting ∨ connection.state_ = .kConnected := by
  have requested := (reachable_calm reachable found).state
  cases state : connection.state_ with
  | kConnecting => exact .inl rfl
  | kConnected => exact .inr rfl
  | kDisconnecting => exact absurd state requested
  | kDisconnected => exact absurd state opened

/-- A connection that has been closed stays so. -/
theorem closed_stays
    (reachable : ReachableBy (TcpServer.system subLoops User listenFd openFds) (Undisturbed c)
      machine) (found : machine.world.find c = some connection)
    (closed : connection.state_ = .kDisconnected)
    (step : (TcpServer.system subLoops User listenFd openFds).step machine event = some after) :
    ∃ now, after.world.find c = some now ∧ now.state_ = .kDisconnected := by
  obtain ⟨now, used, left, nowFound, turn, exchange⟩ :=
    reachable_turn reachable.reachable step found
  have established := (reachable_lively reachable.reachable found).establishing
  rw [closed] at established
  exact ⟨now, nowFound, (reachable_calm reachable found).closed established closed turn exchange⟩

/-- As long as a connection shows that it is open, it shows what it shows on its own. -/
theorem Matches.shown {abstract : Option Solo}
    (reachable : ReachableBy (TcpServer.system subLoops User listenFd openFds) (Undisturbed c)
      machine) (matched : Matches c machine abstract)
    (opened : Shown.closed (Solo.shown abstract) = false) :
    machine.world.shown c = Solo.shown abstract := by
  cases matched with
  | unborn missing =>
    rw [TcpServer.shown, missing]
    rfl
  | opened connection found isOpen =>
    have state := opened_cases reachable found isOpen
    have alive := reachable_alive reachable.reachable found
      ((reachable_lively reachable.reachable found).opened state)
    exact (shown_eq (reachable_wired reachable.reachable) (reachable_owned reachable.reachable)
      found alive).trans (shown_opened _ _).symm
  | closed connection solo found isClosed done =>
    have closed : Shown.closed (Solo.shown (some solo)) = true := decide_eq_true done.1
    rw [closed] at opened
    cases opened

/-- The server, seen from a connection on which no user thread makes a call, follows the connection
on its own. -/
theorem server_follows (subLoops : Nat) (User : Type) [DecidableEq User] [Fintype User]
    (listenFd : Nat) (openFds : Nat → Bool) (c : ConnectionId) :
    Follows (TcpServer.system subLoops User listenFd openFds) (Undisturbed c) Solo.system none
      (sees c) (Matches c) (fun machine => machine.world.shown c) Solo.shown Shown.closed where
  start := by
    rintro _ rfl
    exact ⟨.unborn rfl, rfl⟩
  step := by
    intro machine event after abstract reachable matched undisturbed step
    have reachableAfter := ReachableBy.next reachable undisturbed step
    have settle {abstract : Option Solo} (unseen : sees c machine event = none)
        (matched : Matches c after abstract) :
        sees c machine event = none ∧ Matches c after abstract ∧
          (Shown.closed (Solo.shown abstract) = false →
            after.world.shown c = Solo.shown abstract) :=
      ⟨unseen, matched, matched.shown reachableAfter⟩
    cases matched with
    | unborn missing =>
      have unseen : sees c machine event = none := by
        rw [sees, missing]
        rfl
      rcases reachable_birth reachable.reachable step missing
        (reachable_unborn reachable.reachable missing) with
        ⟨still, -⟩ | ⟨subLoop, fd, born, -⟩
      · exact .inl (settle unseen (.unborn still))
      · have shown := shown_eq (reachable_wired reachableAfter.reachable)
          (reachable_owned reachableAfter.reachable) born (Nat.succ_pos _)
        refine .inr ⟨some Solo.accepted, rfl, ?_, .opened _ born nofun, shown⟩
        rw [unseen]
        rfl
    | opened connection found isOpen =>
      have isShown : Shown.closed (Solo.shown (some
          { connection := connection.alone
            statements := ahead c machine connection })) = false :=
        decide_eq_false isOpen
      have mirrored : Mirrored c machine event after (some
          { connection := connection.alone, statements := ahead c machine connection }) := by
        rcases opened_cases reachable found isOpen with connecting | connected
        · exact connecting_step reachable reachableAfter.reachable found connecting step
        · exact connected_step reachable reachableAfter.reachable found connected step
      rcases mirrored with ⟨unseen, matched⟩ | ⟨next, moves, matched, shown⟩
      · exact .inl (settle unseen matched)
      · exact .inr ⟨next, isShown, moves, matched, shown⟩
    | closed connection solo found isClosed done =>
      obtain ⟨now, nowFound, nowClosed⟩ := closed_stays reachable found isClosed step
      refine .inl (settle ?_ (.closed now solo nowFound nowClosed done))
      rw [sees, found, Option.bind_some, if_pos isClosed]

omit [DecidableEq User] [Fintype User] in
/-- A connection that awaits something takes no silent step on its own. -/
theorem Matches.rests {abstract : Option Solo} (matched : Matches c machine abstract)
    (rests : awaits c machine = true) : Solo.system.step abstract none = none := by
  obtain ⟨waiting, found, state⟩ := (Option.any_eq_true _ _).mp rests
  cases matched with
  | unborn missing => cases missing.symm.trans found
  | opened connection isFound opened =>
    obtain rfl := Option.some.inj (found.symm.trans isFound)
    cases connected : waiting.state_ with
    | kConnected =>
      rw [connected] at state
      have next : ahead c machine waiting = underWay c machine waiting.loop_ := by
        rw [ahead, if_neg (by rw [connected]; decide)]
      rw [next]
      cases way : underWay c machine waiting.loop_ with
      | nil => rfl
      | cons body rest =>
        simp only [way] at state
        have asked : waiting.alone.asks body = true := by
          cases body <;> exact state
        exact congrArg (Option.map some) (if_pos asked)
    | kDisconnected => exact absurd connected opened
    | kConnecting | kDisconnecting =>
      rw [connected] at state
      cases state
  | closed connection solo isFound closed done =>
    have nothing : solo.step none = none := by
      unfold Solo.step
      rw [done.2]
    exact congrArg (Option.map some) nothing

end Reachable

/-- Connection independence. Take two runs of the server, each with any number of sub loops, any
other connections and any interleaving, and a connection in each on which no user thread makes a
call. As long as what the two connections see agrees, the values observed of one are the first of
those observed of the other; and when both have seen the same and await more, or have been closed,
they are the same values. -/
theorem connection_independence {subLoops subLoopsToo : Nat} {User UserToo : Type}
    [DecidableEq User] [Fintype User] [DecidableEq UserToo] [Fintype UserToo]
    {listenFd listenFdToo : Nat} {openFds openFdsToo : Nat → Bool} {c d : ConnectionId}
    {run : Recorded (ServerMachine subLoops User) (ServerEvent subLoops User)}
    {runToo : Recorded (ServerMachine subLoopsToo UserToo) (ServerEvent subLoopsToo UserToo)}
    (reachable : ReachableBy (TcpServer.system subLoops User listenFd openFds).recorded
      (fun run event => Undisturbed c run.now event) run)
    (reachableToo : ReachableBy
      (TcpServer.system subLoopsToo UserToo listenFdToo openFdsToo).recorded
      (fun run event => Undisturbed d run.now event) runToo)
    (agree : run.seen (sees c) <+: runToo.seen (sees d)) :
    (values c run <+: values d runToo ∨ values d runToo <+: values c run) ∧
      (run.seen (sees c) = runToo.seen (sees d) → awaits c run.now = true →
        awaits d runToo.now = true → values c run = values d runToo) := by
  have follows := server_follows subLoops User listenFd openFds c
  have followsToo := server_follows subLoopsToo UserToo listenFdToo openFdsToo d
  refine ⟨follows.agree solo_reading followsToo reachable reachableToo agree,
    fun same rests restsToo => ?_⟩
  exact follows.agree_at_rest solo_reading followsToo reachable reachableToo same
    (fun _ matched => matched.rests rests) fun _ matched => matched.rests restsToo

/-- The same two bytes reach a connection of a server without sub loops and one of a server with a
sub loop, and the kernel takes one of them back. -/
theorem connection_independence_modes :
    ∃ (run : Recorded (ServerMachine 0 Empty) (ServerEvent 0 Empty))
      (runToo : Recorded (ServerMachine 1 Unit) (ServerEvent 1 Unit)),
      (values 0 run).length = 6 ∧ values 0 run = values 0 runToo := by
  have single : ∃ run, ReachableBy (TcpServer.system 0 Empty 3 fun _ => false).recorded
      (fun run event => Undisturbed 0 run.now event) run ∧
      run.seen (sees 0) = [.mask { Events.none with epollin := true },
        .io (.recv (.data [1, 2])), .io (.recv .again), .io (.send (.count 1))] ∧
      awaits 0 run.now = true ∧ (values 0 run).length = 6 :=
    exists_of_replay (initial_recorded rfl) (acceptHere ++ dispatchHere ++
      [.run (.loop baseLoop) (.io (.recv (.data [1, 2]))),
        .run (.loop baseLoop) (.io (.recv .again))] ++
      List.replicate 3 (steps (.loop baseLoop)) ++
      .run (.loop baseLoop) (.io (.send (.count 1))) ::
        List.replicate 2 (steps (.loop baseLoop))) (by decide)
  have multi : ∃ run, ReachableBy (TcpServer.system 1 Unit 3 fun _ => false).recorded
      (fun run event => Undisturbed 0 run.now event) run ∧
      run.seen (sees 0) = [.mask { Events.none with epollin := true },
        .io (.recv (.data [1, 2])), .io (.recv .again), .io (.send (.count 1))] ∧
      awaits 0 run.now = true :=
    exists_of_replay (initial_recorded rfl) (acceptRun ++ registration ++
      receives [.data [1, 2], .again] ++ echoes (.count 1)) (by decide)
  obtain ⟨run, reachable, seen, rests, length⟩ := single
  obtain ⟨runToo, reachableToo, seenToo, restsToo⟩ := multi
  have same := seen.trans seenToo.symm
  exact ⟨run, runToo, length, (connection_independence reachable reachableToo
    (same ▸ List.prefix_rfl)).2 same rests restsToo⟩

end MultiReactor
