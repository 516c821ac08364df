/-
This file follows the close of a connection from the request to the base loop,
and who owns the connection on the way besides the map. The functor of
`forceCloseInLoop` does, before it is called and while it runs; the temporary
that `handleClose` passes to the close callback does; the functor of
`removeConnectionInLoop` does. Only a `handleClose` that a callback of the
channel has called has none of them, until it comes to the close callback. If
nothing else has asked for the close, the connection is out of epoll by then and
its entry in the batch is the one that is being handled.
-/

import MultiReactor.Handover
import MultiReactor.Renaming

namespace MultiReactor

open Transition

variable {subLoops : Nat} {User : Type}

/-! ### What a thread holds -/

/-- The functors a thread is calling in `doPendingFunctors`, or has called there. -/
def Machine.calledBy (machine : ServerMachine subLoops User) :
    Thread (LoopId subLoops) User → List Functor
  | .loop l => (machine.loop l).position.called
  | .user _ => []

/-- Whether a thread holds a shared_ptr to a connection: on its stack, or in a functor it was
called through. -/
def Machine.holds (machine : ServerMachine subLoops User) (thread : Thread (LoopId subLoops) User)
    (c : ConnectionId) : Bool :=
  (stackItems (machine.stack thread)).any (owner c) ||
    (machine.calledBy thread).any fun cb => owner c (.spent cb)

section Holds

variable {machine after : ServerMachine subLoops User} {thread : Thread (LoopId subLoops) User}
  {c : ConnectionId}

theorem holds_of_stack {instruction : Instruction (LoopId subLoops) Functor ServerCode}
    {item : ServerItem} (onStack : instruction ∈ machine.stack thread)
    (inItems : item ∈ instruction.items) (owns : owner c item = true) :
    machine.holds thread c = true := by
  rw [Machine.holds, Bool.or_eq_true]
  exact .inl (List.any_eq_true.mpr ⟨item, List.mem_flatMap.mpr ⟨_, onStack, inItems⟩, owns⟩)

theorem holds_of_called {cb : Functor} (called : cb ∈ machine.calledBy thread)
    (holds : cb.connection = c) : machine.holds thread c = true := by
  rw [Machine.holds, Bool.or_eq_true]
  exact .inr (List.any_eq_true.mpr ⟨cb, called, (owner_spent c cb).mpr holds.symm⟩)

/-- What a thread holds owns the connection. -/
theorem owners_of_holds [Fintype User] (holds : machine.holds thread c = true) :
    0 < owners machine c := by
  rw [Machine.holds, Bool.or_eq_true] at holds
  rcases holds with onStack | called
  · obtain ⟨item, member, owns⟩ := List.any_eq_true.mp onStack
    exact tally_pos_of_stack thread member owns
  · obtain ⟨cb, member, owns⟩ := List.any_eq_true.mp called
    cases thread with
    | loop l =>
      refine tally_pos_of_loop l (List.mem_append_right _ ?_) owns
      exact List.mem_append_left _ (List.mem_append_left _ (List.mem_map_of_mem member))
    | user t => cases member

end Holds

section Step

variable [DecidableEq User] {machine after : ServerMachine subLoops User}
  {event : ServerEvent subLoops User} {thread : Thread (LoopId subLoops) User} {c : ConnectionId}

omit [DecidableEq User] in
/-- What a thread has called stays while its loop stands where it does. -/
theorem calledBy_eq (same : ∀ l, thread = .loop l →
    (after.loop l).position = (machine.loop l).position) :
    after.calledBy thread = machine.calledBy thread := by
  cases thread with
  | loop l => exact congrArg Position.called (same l rfl)
  | user t => rfl

/-- A statement is the next thing of a thread that holds its connection. -/
def Covered (machine : ServerMachine subLoops User) (c : ConnectionId) (body : Statement) : Prop :=
  ∃ thread rest, machine.stack thread = .call (.code (.connection c body)) :: rest ∧
    machine.holds thread c = true

/-- A statement that was executed: what it leaves is covered too. -/
structure Uncovers (machine after : ServerMachine subLoops User) (c : ConnectionId)
    (body : Statement) (connection : TcpConnection (LoopId subLoops)) (io : IoResult)
    (outcome : Outcome (LoopId subLoops)) : Prop where
  found : machine.world.find c = some connection
  executes : Executes connection body io outcome
  now : after.world.find c = some outcome.connection
  statement : ∀ next, outcome.next.head? = some (.statement next) → Covered after c next

/-- A thread that executes a statement goes on to hold what it held. -/
theorem holds_of_executed {body : ServerCode} {world : TcpServer subLoops}
    {calls : List (Call (LoopId subLoops) Functor ServerCode)}
    {rest : List (Instruction (LoopId subLoops) Functor ServerCode)}
    (top : machine.stack thread = .call (.code body) :: rest)
    (silent : owner c (.code body) = false) (holds : machine.holds thread c = true) :
    ((machine.setWorld world).setStack thread (calls.map .call ++ rest)).holds thread c = true := by
  rw [Machine.holds, Bool.or_eq_true] at holds ⊢
  refine holds.imp (fun onStack => ?_) fun called => ?_
  · obtain ⟨item, member, owns⟩ := List.any_eq_true.mp onStack
    rw [top, stackItems_cons] at member
    refine List.any_eq_true.mpr ⟨item, ?_, owns⟩
    rw [setStack_stack_self, stackItems_append]
    rcases List.mem_append.mp member with isTop | below
    · obtain rfl := List.mem_singleton.mp isTop
      rw [silent] at owns
      cases owns
    · exact List.mem_append_right _ below
  · rw [calledBy_eq fun _ _ => rfl]
    exact called

/-- Executing a covered statement. -/
theorem uncovers {body : Statement} {input : Input subLoops}
    {rest : List (Instruction (LoopId subLoops) Functor ServerCode)}
    (top : machine.stack thread = .call (.code (.connection c body)) :: rest)
    (holds : machine.holds thread c = true)
    (step : Step (TcpServer.client subLoops User) machine (.run thread input) after) :
    ∃ connection outcome, Uncovers machine after c body connection input.ioResult outcome := by
  obtain ⟨world, calls, executed, rfl⟩ := step_code top step.taken
  have executed : TcpServer.execute (.connection c body) input machine.world =
    some (world, calls) := executed
  have kept : ((machine.setWorld world).setStack thread (calls.map .call ++ rest)).holds thread c =
    true := holds_of_executed top rfl holds
  cases serverExecute_cases executed with
  | connection c body input connection outcome found alive executes =>
    refine ⟨connection, outcome, found, executes, ?_, fun next isNext => ?_⟩
    · exact (commit_find _ c c found outcome).trans (if_pos rfl)
    · obtain ⟨more, isOutcome⟩ := List.head?_eq_some_iff.mp isNext
      refine ⟨thread, more.map (fun next => .call (next.toCall c connection.loop_)) ++ rest, ?_,
        kept⟩
      rw [setStack_stack_self, isOutcome]
      simp [Next.toCall]

/-- A covered statement stays so until it is executed. -/
theorem Covered.step {body : Statement} (covered : Covered machine c body)
    (step : Step (TcpServer.client subLoops User) machine event after) :
    Covered after c body ∨
      ∃ connection io outcome, Uncovers machine after c body connection io outcome := by
  obtain ⟨thread, rest, top, holds⟩ := covered
  by_cases runs : ∃ input, event = .run thread input
  · obtain ⟨input, rfl⟩ := runs
    obtain ⟨connection, outcome, uncovers⟩ := uncovers top holds step
    exact .inr ⟨connection, _, outcome, uncovers⟩
  · have busy : machine.stack thread ≠ [] := by
      rw [top]
      exact List.cons_ne_nil _ _
    obtain ⟨stack, position⟩ := step_busy step busy fun input same => runs ⟨input, same⟩
    refine .inl ⟨thread, rest, stack.trans top, ?_⟩
    rw [Machine.holds, stack, calledBy_eq position]
    exact holds

end Step

/-! ### Requests on their way -/

/-- The functor of `forceClose`. -/
def Task.asking : Task → Bool
  | .statement .forceCloseInLoop => true
  | _ => false

/-- What `forceCloseInLoop` goes on to before the state is `kDisconnected`. -/
def Statement.closing : Statement → Bool
  | .forceCloseInLoopRetest => true
  | .handleClose => true
  | .handleCloseStore => true
  | _ => false

section Reachable

variable [DecidableEq User] [Fintype User] {listenFd : Nat} {openFds : Nat → Bool}
  {machine after : ServerMachine subLoops User} {event : ServerEvent subLoops User}
  {c : ConnectionId} {connection : TcpConnection (LoopId subLoops)}

omit [Fintype User] in
/-- A statement that does not rest lies on top of a stack. -/
theorem top_of_code
    (reachable : Reachable (TcpServer.system subLoops User listenFd openFds) machine)
    {thread : Thread (LoopId subLoops) User} {body : ServerCode}
    (onStack : .call (.code body) ∈ machine.stack thread)
    (rests : ¬ serverDiscipline.resting body) :
    ∃ rest, machine.stack thread = .call (.code body) :: rest := by
  cases stack : machine.stack thread with
  | nil =>
    rw [stack] at onStack
    cases onStack
  | cons top rest =>
    rw [stack] at onStack
    rcases List.mem_cons.mp onStack with rfl | below
    · exact ⟨rest, rfl⟩
    · refine absurd ((reachable_server_orderly reachable).tail thread (.call (.code body)) ?_) rests
      rw [stack]
      exact below

omit [Fintype User] in
/-- The functor through which a statement was called covers it. -/
theorem holds_of_entry
    (reachable : Reachable (TcpServer.system subLoops User listenFd openFds) machine)
    {thread : Thread (LoopId subLoops) User} {body : Statement}
    {rest : List (Instruction (LoopId subLoops) Functor ServerCode)}
    (top : machine.stack thread = .call (.code (.connection c body)) :: rest)
    (bound : body.bound = true) : machine.holds thread c = true := by
  have entry : serverDiscipline.entry (.connection c body) = some (.bind c body) := if_pos bound
  rcases (reachable_server_orderly reachable).entry thread _ rest _ top entry with
    below | ⟨l, rfl, called⟩
  · have onStack : .destroy (.bind c body) ∈ machine.stack thread := by
      rw [top]
      exact List.mem_cons_of_mem _ below
    exact holds_of_stack onStack (List.mem_singleton_self _) ((owner_spent c _).mpr rfl)
  · exact holds_of_called called rfl

/-- The functor of `forceClose` is on its way to the loop, or what it has called is covered. -/
def Asked (machine : ServerMachine subLoops User) (c : ConnectionId) : Prop :=
  0 < pending c machine Task.asking ∨ ∃ body : Statement, body.closing = true ∧
    Covered machine c body

/-- A step leaves the request on its way, or it executes a statement that goes on to none of
these. -/
theorem Asked.step (asked : Asked machine c)
    (reachable : Reachable (TcpServer.system subLoops User listenFd openFds) machine)
    (step : (TcpServer.system subLoops User listenFd openFds).step machine event = some after)
    (found : machine.world.find c = some connection) :
    Asked after c ∨ ∃ body io outcome, body.closing = true ∧ Covered machine c body ∧
      Uncovers machine after c body connection io outcome ∧
      ∀ next, outcome.next.head? = some (.statement next) → next.closing = false := by
  rcases asked with asking | ⟨body, closing, covered⟩
  · obtain ⟨now, used, left, nowFound, turn, exchange⟩ := reachable_turn reachable step found
    have change := exchange Task.asking
    by_cases kept : used.countP Task.asking = 0
    · exact .inl (.inl (by omega))
    · generalize after.world.stored c now = storedNow at turn
      generalize machine.world.stored c connection = stored at turn
      cases turn with
      | statement thread input body rest connection stored outcome top alive executes =>
        have isBody : body = .forceCloseInLoop := by
          cases body <;> first | rfl | exact absurd rfl kept
        subst isBody
        obtain ⟨connection, outcome, uncovers⟩ :=
          uncovers top (holds_of_entry reachable top rfl) (step_cases step)
        obtain ⟨-, executes, -, statement⟩ := uncovers
        cases executes with
        | forceCloseInLoopConnected io connected =>
          exact .inl (.inr ⟨.handleClose, rfl, statement _ rfl⟩)
        | forceCloseInLoopOther io other =>
          exact .inl (.inr ⟨.forceCloseInLoopRetest, rfl, statement _ rfl⟩)
      | _ => exact absurd rfl kept
  · rcases covered.step (step_cases step) with kept | ⟨same, io, outcome, uncovers⟩
    · exact .inl (.inr ⟨body, closing, kept⟩)
    · obtain rfl := Option.some.inj (uncovers.found.symm.trans found)
      by_cases goesOn : ∃ next, outcome.next.head? = some (.statement next) ∧ next.closing = true
      · obtain ⟨next, isNext, closingNext⟩ := goesOn
        exact .inl (.inr ⟨next, closingNext, uncovers.statement next isNext⟩)
      · refine .inr ⟨body, io, outcome, closing, covered, uncovers, fun next isNext => ?_⟩
        exact Bool.eq_false_iff.mpr fun closingNext => goesOn ⟨next, isNext, closingNext⟩

/-- A connection that is disconnecting has its request on the way. -/
theorem reachable_asked
    (reachable : Reachable (TcpServer.system subLoops User listenFd openFds) machine)
    (found : machine.world.find c = some connection)
    (disconnecting : connection.state_ = .kDisconnecting) : Asked machine c := by
  refine reachable.invariant (fun machine => ∀ connection,
    machine.world.find c = some connection → connection.state_ = .kDisconnecting →
      Asked machine c) ?_ ?_ connection found disconnecting
  · rintro _ rfl connection found
    cases found
  · intro machine event after before inductionHypothesis _ step now nowFound disconnecting
    cases found : machine.world.find c with
    | none =>
      rcases reachable_birth before step found (reachable_unborn before found) with
        ⟨still, -⟩ | ⟨subLoop, fd, born, -⟩
      · cases still.symm.trans nowFound
      · obtain rfl := Option.some.inj (born.symm.trans nowFound)
        cases disconnecting
    | some connection =>
      obtain ⟨same, used, left, sameFound, turn, exchange⟩ := reachable_turn before step found
      obtain rfl := Option.some.inj (sameFound.symm.trans nowFound)
      by_cases was : connection.state_ = .kDisconnecting
      · rcases (inductionHypothesis connection found was).step before step found with
          asked | ⟨body, io, outcome, closing, -, uncovers, ends⟩
        · exact asked
        · obtain rfl := Option.some.inj (uncovers.now.symm.trans nowFound)
          have executes := uncovers.executes
          cases executes with
          | forceCloseInLoopRetest io disconnecting => cases ends _ rfl
          | forceCloseInLoopSkipped io other => exact absurd was other
          | handleClose io opened => cases ends _ rfl
          | handleCloseSkipped io closed => cases was.symm.trans closed
          | handleCloseStore io => cases disconnecting
          | _ => cases closing
      · -- only the store of `forceClose` makes it so
        have stores {body : Statement} {io : IoResult} {outcome : Outcome (LoopId subLoops)}
            (executes : Executes connection body io outcome)
            (now : outcome.connection.state_ = .kDisconnecting) : body = .forceCloseStore := by
          have state := executes.state
          rw [now] at state
          cases body <;> first | rfl | exact absurd state.symm was | cases state
        generalize after.world.stored c same = storedNow at turn
        generalize machine.world.stored c connection = stored at turn
        cases turn with
        | statement thread input body rest _ _ outcome top alive executes =>
          obtain rfl := stores executes disconnecting
          cases executes with
          | forceCloseStore io =>
            have change := (exchange Task.asking).2
            have left : [Task.statement .forceCloseInLoop].countP Task.asking = 1 := rfl
            have used : [Task.statement .forceCloseStore].countP Task.asking = 0 := rfl
            simp only [bindInLoop_next, List.filterMap_cons, Next.task,
              List.filterMap_nil] at change
            exact .inl (by omega)
        | _ => exact absurd disconnecting was

end Reachable

/-! ### The close callback -/

/-- Whatever a sub loop has to do with a connection, it does for the channel it is handling or for a
functor it has called. -/
def Engaged (machine : ServerMachine subLoops User) (l : LoopId subLoops) (c : ConnectionId) :
    Prop :=
  ∀ made, .call made ∈ machine.stack (.loop l) → made.about c →
    (∃ ahead, (machine.loop l).position = .handleEvent (.connection c) ahead) ∨
      ∃ cb ∈ (machine.loop l).position.called, cb.connection = c

/-- When the close callback is about to be called, the thread still holds the connection it was
given: the temporary in `handleClose` is destroyed when the callback has returned. -/
def Announced (machine : ServerMachine subLoops User) (c : ConnectionId) : Prop :=
  ∀ thread rest, machine.stack thread = .call (.code (.removeConnection c)) :: rest →
    .call (.code (.release c)) ∈ rest

section Callback

variable [DecidableEq User] {machine after : ServerMachine subLoops User}
  {event : ServerEvent subLoops User} {c : ConnectionId}

theorem Engaged.step {i : Fin subLoops} (engaged : Engaged machine (some i) c)
    (placed : Placed (serverPlacement subLoops User) machine)
    (step : Step (TcpServer.client subLoops User) machine event after) :
    Engaged after (some i) c := by
  intro made onStack about
  have busy {instruction : Instruction (LoopId subLoops) Functor ServerCode}
      (member : instruction ∈ machine.stack (.loop (some i))) :
      (after.loop (some i)).position = (machine.loop (some i)).position := by
    refine step_position step fun active input advances => ?_
    subst advances
    have idle := step_idle step fun input same => by cases same
    exact List.not_mem_nil (idle ▸ member)
  have before {call : Call (LoopId subLoops) Functor ServerCode}
      (member : .call call ∈ machine.stack (.loop (some i))) (about : call.about c) :
      (∃ ahead, (after.loop (some i)).position = .handleEvent (.connection c) ahead) ∨
        ∃ cb ∈ (after.loop (some i)).position.called, cb.connection = c := by
    rw [busy member]
    exact engaged call member about
  cases step_pushed step onStack with
  | kept onStack => exact before onStack about
  | executed body input calls onStack executed isCall =>
    have executed : TcpServer.execute body input machine.world = some (after.world, calls) :=
      executed
    refine before onStack (about_of_executes (serverExecute_cases executed) ?_ isCall about)
    rintro rfl
    cases (placed.stack (.loop (some i)) _ onStack : Thread.loop (some i) = .loop baseLoop)
  | ran m cb onStack isCall => exact before onStack (about_of_invoke isCall about)
  | queued m cb passedOn same =>
    subst same
    exact before passedOn about
  | dispatched m ch rest here position isCall =>
    obtain rfl := Thread.loop.inj here
    obtain rfl := about_of_handleEvent isCall about
    exact .inl ⟨rest, position⟩
  | invoked m executed cb rest active here position isCall =>
    obtain rfl := Thread.loop.inj here
    rw [position]
    exact .inr ⟨cb, List.mem_append_right _ (List.mem_singleton_self _),
      about_of_invoke isCall about⟩
  | begun input calls begun isCall =>
    have begun : TcpServer.begin (.loop (some i) : Thread _ User) input machine.world =
      some (after.world, calls) := begun
    cases serverBegin_cases begun

omit [DecidableEq User] in
/-- `handleClose` keeps its temporary until the close callback has returned. -/
theorem announced_of_executes {server world : TcpServer subLoops} {body : ServerCode}
    {input : Input subLoops} {more : List (Call (LoopId subLoops) Functor ServerCode)}
    (executes : ServerExecutes server body input world (.code (.removeConnection c) :: more)) :
    .code (.release c) ∈ more := by
  generalize calls : Call.code (.removeConnection c) :: more = made at executes
  cases executes with
  | connection d body input connection outcome found alive executes =>
    have follows := executes.keeps.follows
    cases next : outcome.next with
    | nil =>
      rw [next] at calls
      cases calls
    | cons first tail =>
      rw [next] at calls follows
      obtain ⟨isFirst, rfl⟩ := List.cons.inj calls
      cases first with
      | closeCallback =>
        cases isFirst
        have isBody := follows .closeCallback List.mem_cons_self
        generalize input.ioResult = io at executes
        cases executes with
        | handleCloseCallback io set =>
          cases next
          exact List.mem_singleton_self _
        | _ => first | cases isBody; done | cases next
      | _ => cases isFirst
  | _ => cases calls

theorem Announced.step (announced : Announced machine c)
    (orderly : Orderly serverDiscipline machine)
    (step : Step (TcpServer.client subLoops User) machine event after) : Announced after c := by
  intro thread rest top
  by_cases here : thread = event.thread
  swap
  · exact announced thread rest ((step_stack step here).symm.trans top)
  subst here
  -- whatever lies below the top of a stack rests, which the call of the close callback does not
  have rests {instruction : Instruction (LoopId subLoops) Functor ServerCode}
      {below : List (Instruction (LoopId subLoops) Functor ServerCode)}
      (before : machine.stack event.thread = instruction :: below) :
      .call (.code (.removeConnection c)) ∉ below := by
    intro member
    refine orderly.tail event.thread (.call (.code (.removeConnection c))) ?_
    rw [before]
    exact member
  cases step with
  | code thread input body below world calls before executed =>
    have executed : TcpServer.execute body input machine.world = some (world, calls) := executed
    have executes := serverExecute_cases executed
    rw [Event.thread, setStack_stack_self] at top
    cases calls with
    | nil =>
      have top : below = _ :: rest := top
      exact absurd (top ▸ List.mem_cons_self) (rests before)
    | cons first more =>
      obtain ⟨same, rfl⟩ := List.cons.inj top
      obtain rfl := Instruction.call.inj same
      exact List.mem_append_left _ (List.mem_map_of_mem (announced_of_executes executes))
  | runHere l input cb below before =>
    rw [Event.thread, setStack_stack_self] at top
    cases cb <;> cases top
  | runQueued thread input l cb below before foreign =>
    rw [Event.thread, setStack_stack_self] at top
    cases top
  | pushBack thread input l cb below before =>
    rw [Event.thread, setStack_stack_self] at top
    cases top
  | quit thread input l below before =>
    rw [Event.thread, setStack_stack_self] at top
    cases top
  | wakeup thread input l below before =>
    rw [Event.thread, setStack_stack_self] at top
    exact absurd (top ▸ List.mem_cons_self) (rests before)
  | destroy thread input cb below before =>
    rw [Event.thread, setStack_stack_self] at top
    exact absurd (top ▸ List.mem_cons_self) (rests before)
  | move l active input eventLoop idle moved => cases idle.symm.trans top
  | poll l active input world idle place distinct bounded counted polled =>
    cases idle.symm.trans top
  | dispatch l active input ch rest idle place =>
    rw [Event.thread, setStack_stack_self] at top
    cases ch <;> cases top
  | invoke l active input executed cb rest next idle place =>
    rw [Event.thread, setStack_stack_self] at top
    cases cb <;> cases top
  | clear l active input cb rest next idle place => cases idle.symm.trans top
  | begin thread input world calls idle outside begun =>
    have begun : TcpServer.begin thread input machine.world = some (world, calls) := begun
    rw [Event.thread, setStack_stack_self] at top
    cases serverBegin_cases begun <;> cases top

variable [Fintype User] {listenFd : Nat} {openFds : Nat → Bool}

theorem reachable_engaged
    (reachable : Reachable (TcpServer.system subLoops User listenFd openFds) machine)
    (i : Fin subLoops) (c : ConnectionId) : Engaged machine (some i) c := by
  refine reachable.invariant (fun machine => Engaged machine (some i) c) ?_ ?_
  · rintro _ rfl made onStack
    cases onStack
  · intro machine event after before engaged _ step
    exact engaged.step (reachable_server_placed before) (step_cases step)

omit [Fintype User] in
theorem reachable_announced
    (reachable : Reachable (TcpServer.system subLoops User listenFd openFds) machine)
    (c : ConnectionId) : Announced machine c := by
  refine reachable.invariant (fun machine => Announced machine c) ?_ ?_
  · rintro _ rfl thread rest top
    cases top
  · intro machine event after before announced _ step
    exact announced.step (reachable_server_orderly before) (step_cases step)

end Callback

/-! ### Owners besides the map -/

/-- The states of a connection whose close has been asked for or is done. -/
def StateE.closing : StateE → Bool
  | .kConnecting => false
  | .kConnected => false
  | .kDisconnecting => true
  | .kDisconnected => true

/-- Whether the close of a connection has been asked for or is done. -/
def TcpConnection.closing (connection : TcpConnection (LoopId subLoops)) : Bool :=
  connection.state_.closing

/-- Something besides the map owns a connection: a thread holds it, or a functor does that waits in
the queue of its own loop or of the base loop. -/
inductive Retained (machine : ServerMachine subLoops User) (c : ConnectionId)
    (l : LoopId subLoops) : Prop where
  | held (thread : Thread (LoopId subLoops) User) (holds : machine.holds thread c = true)
  | queued (m : LoopId subLoops) (cb : Functor) (place : m = baseLoop ∨ m = l)
      (waiting : cb ∈ (machine.loop m).waiting) (holds : cb.connection = c)

/-- Where an item lies: it is code on a stack, a thread holds its functor, or a loop has still to
call it. -/
theorem item_located [Fintype User] {machine : ServerMachine subLoops User} {c : ConnectionId}
    {kind : ServerItem → Bool} (entry : ∀ ch, kind (.ready ch) = false)
    (spent : ∀ cb, kind (.spent cb) = false)
    (functor : ∀ cb, kind (.queued cb) = true → cb.connection = c)
    (outstanding : 0 < tally kind machine) :
    (∃ thread body, .call (.code body) ∈ machine.stack thread ∧ kind (.code body) = true) ∨
    (∃ thread, machine.holds thread c = true) ∨
    ∃ l, ∃ cb ∈ (machine.loop l).waiting, kind (.queued cb) = true := by
  by_contra nowhere
  push Not at nowhere
  obtain ⟨code, held, queued⟩ := nowhere
  refine outstanding.ne' (tally_eq_zero _ (fun thread => ?_) fun l => ?_)
  · refine List.countP_eq_zero.mpr fun item member counted => ?_
    obtain ⟨instruction, onStack, inItems⟩ := List.mem_flatMap.mp member
    cases item with
    | code body =>
      obtain rfl := eq_of_code_mem inItems
      exact code thread body onStack counted
    | queued cb =>
      exact held thread (holds_of_stack onStack inItems
        ((owner_queued c cb).mpr (functor cb counted).symm))
    | spent cb => cases (spent cb).symm.trans counted
    | ready ch => cases (entry ch).symm.trans counted
  · refine List.countP_eq_zero.mpr fun item member counted => ?_
    simp only [EventLoop.items, Position.items, List.mem_append, List.mem_map] at member
    rcases member with
      ⟨cb, waits, rfl⟩ | (⟨cb, called, rfl⟩ | ⟨cb, waits, rfl⟩) | ⟨ch, active, rfl⟩
    · exact queued l cb (List.mem_append_right _ waits) counted
    · cases (spent cb).symm.trans counted
    · exact queued l cb (List.mem_append_left _ waits) counted
    · cases (entry ch).symm.trans counted

/-- Where a task lies that is no entry of a batch. -/
theorem task_located [Fintype User] {machine : ServerMachine subLoops User} {c : ConnectionId}
    {kind : Task → Bool} (noEntry : kind .ready = false)
    (outstanding : 0 < pending c machine kind) :
    (∃ thread body, .call (.code body) ∈ machine.stack thread ∧
      isTask c kind (.code body) = true) ∨
    (∃ thread, machine.holds thread c = true) ∨
    ∃ l, ∃ cb ∈ (machine.loop l).waiting, isTask c kind (.queued cb) = true := by
  refine item_located (fun ch => ?_) (fun cb => rfl) (fun cb counted => ?_) outstanding
  · cases ch with
    | listen => rfl
    | connection d => simp [isTask, taskOf, noEntry]
  · rcases isTask_queued counted with ⟨body, rfl, -⟩ | ⟨rfl, -⟩ <;> rfl

section Reachable

variable [DecidableEq User] [Fintype User] {listenFd : Nat} {openFds : Nat → Bool}
  {machine : ServerMachine subLoops User} {c : ConnectionId} {l : LoopId subLoops}
  {connection : TcpConnection (LoopId subLoops)}

/-- While the request to close a connection is on its way, something besides the map owns it. -/
theorem retained_of_asked
    (reachable : Reachable (TcpServer.system subLoops User listenFd openFds) machine)
    (here : machine.world.loopOf c = some l) (asked : Asked machine c) : Retained machine c l := by
  rcases asked with asking | ⟨body, -, thread, rest, -, holds⟩
  · rcases task_located rfl asking with
      ⟨thread, body, onStack, counted⟩ | ⟨thread, holds⟩ | ⟨m, cb, waiting, counted⟩
    · rcases isTask_code counted with ⟨statement, rfl, isAsking⟩ | ⟨-, none⟩ | ⟨-, none⟩
      · obtain rfl : statement = .forceCloseInLoop := by
          cases statement <;> first | rfl | cases isAsking
        obtain ⟨rest, top⟩ := top_of_code reachable onStack fun rests => rests
        exact .held thread (holds_of_entry reachable top rfl)
      · cases none
      · cases none
    · exact .held thread holds
    · have belongs : cb.belongs machine.world m :=
        (reachable_server_placed reachable).queue m cb waiting
      rcases isTask_queued counted with ⟨statement, rfl, isAsking⟩ | ⟨-, none⟩
      · obtain rfl : statement = .forceCloseInLoop := by
          cases statement <;> first | rfl | cases isAsking
        have isLoop := (belongs rfl).2
        exact .queued m _ (.inr (Option.some.inj (isLoop.symm.trans here))) waiting rfl
      · cases none
  · exact .held thread holds

/-- While the removal of a connection from the map is ahead and the base loop executes nothing,
something besides the map owns it, or `handleClose` has still to call the close callback. -/
theorem retained_of_removal
    (reachable : Reachable (TcpServer.system subLoops User listenFd openFds) machine)
    (idle : machine.stack (.loop baseLoop) = []) (here : machine.world.loopOf c = some l)
    (removal : 0 < pending c machine Task.removal) : Retained machine c l ∨
      .call (.code (.connection c .handleCloseCallback)) ∈ machine.stack (.loop l) := by
  have placed := reachable_server_placed reachable
  rcases task_located rfl removal with
    ⟨thread, body, onStack, counted⟩ | ⟨thread, holds⟩ | ⟨m, cb, waiting, counted⟩
  · rcases isTask_code counted with ⟨statement, rfl, isRemoval⟩ | ⟨rfl, -⟩ | ⟨rfl, -⟩
    · obtain rfl : statement = .handleCloseCallback := by
        cases statement <;> first | rfl | cases isRemoval
      obtain ⟨m, isLoop, rfl⟩ := placed.stack thread _ onStack rfl
      obtain rfl := Option.some.inj (isLoop.symm.trans here)
      exact .inr onStack
    · obtain ⟨rest, top⟩ := top_of_code reachable onStack fun rests => rests
      have released : .call (.code (.release c)) ∈ machine.stack thread := by
        rw [top]
        exact List.mem_cons_of_mem _ (reachable_announced reachable c thread rest top)
      exact .inl (.held thread (holds_of_stack released (List.mem_singleton_self _)
        ((owner_release c c).mpr rfl)))
    · obtain rfl : thread = .loop baseLoop := placed.stack thread _ onStack
      rw [idle] at onStack
      cases onStack
  · exact .inl (.held thread holds)
  · have belongs : cb.belongs machine.world m := placed.queue m cb waiting
    rcases isTask_queued counted with ⟨statement, rfl, isRemoval⟩ | ⟨rfl, -⟩
    · obtain rfl : statement = .handleCloseCallback := by
        cases statement <;> first | rfl | cases isRemoval
      cases (belongs rfl).1
    · exact .inl (.queued m _ (.inl belongs) waiting rfl)

/-- A connection that is being handed over to its loop has an owner besides the map. -/
theorem retained_of_handover
    (reachable : Reachable (TcpServer.system subLoops User listenFd openFds) machine)
    (here : machine.world.loopOf c = some l) (handed : 0 < tally (handover c) machine) :
    Retained machine c l := by
  have isHandover {cb : Functor} (counted : handover c (.queued cb) = true) :
      cb = .bind c .connectDestroyed := Item.queued.inj (of_decide_eq_true counted)
  rcases item_located (fun ch => rfl) (fun cb => rfl)
      (fun cb counted => congrArg Functor.connection (isHandover counted)) handed with
    ⟨thread, body, -, counted⟩ | ⟨thread, holds⟩ | ⟨m, cb, waiting, counted⟩
  · cases of_decide_eq_true counted
  · exact .held thread holds
  · obtain rfl := isHandover counted
    have belongs : (Functor.bind c .connectDestroyed).belongs machine.world m :=
      (reachable_server_placed reachable).queue m _ waiting
    have isLoop := (belongs rfl).2
    exact .queued m _ (.inr (Option.some.inj (isLoop.symm.trans here))) waiting rfl

/-- A connection that is disconnecting or disconnected stays so. -/
theorem closing_stays {after : ServerMachine subLoops User} {event : ServerEvent subLoops User}
    (reachable : Reachable (TcpServer.system subLoops User listenFd openFds) machine)
    (step : (TcpServer.system subLoops User listenFd openFds).step machine event = some after)
    {now : TcpConnection (LoopId subLoops)} (found : machine.world.find c = some connection)
    (nowFound : after.world.find c = some now) (closing : connection.closing = true) :
    now.closing = true := by
  obtain ⟨same, used, left, sameFound, turn, exchange⟩ := reachable_turn reachable step found
  obtain rfl := Option.some.inj (sameFound.symm.trans nowFound)
  have lively := reachable_lively reachable found
  generalize after.world.stored c same = storedNow at turn
  generalize machine.world.stored c connection = stored at turn lively
  cases turn with
  | statement thread input body rest _ _ outcome top alive executes =>
    have state := executes.state
    cases body with
    | connectEstablishedInLoop =>
      -- the connection was connecting
      have connecting := lively.used_establishing exchange Nat.one_pos
      rw [TcpConnection.closing, connecting] at closing
      cases closing
    | connectDestroyedInLoopStore => exact congrArg StateE.closing state
    | forceCloseStore => exact congrArg StateE.closing state
    | handleCloseStore => exact congrArg StateE.closing state
    | _ => exact (congrArg StateE.closing state).trans closing
  | _ => exact closing

/-- A connection that is disconnecting or disconnected has an owner besides the map, or it has been
closed and its loop does not come to it again. -/
theorem retained_of_closing {i : Fin subLoops}
    (reachable : Reachable (TcpServer.system subLoops User listenFd openFds) machine)
    (idle : machine.stack (.loop baseLoop) = [])
    (found : machine.world.find c = some connection) (here : connection.loop_ = some i)
    (stored : 0 < machine.world.stored c connection) (closing : connection.closing = true) :
    Retained machine c (some i) ∨ 0 < connection.closes ∧
      .channel (.connection c) ∉ (machine.loop (some i)).position.active := by
  have isLoop : machine.world.loopOf c = some (some i) :=
    (loopOf_eq found).trans (congrArg some here)
  have lively := reachable_lively reachable found
  cases state : connection.state_ with
  | kDisconnecting =>
    exact .inl (retained_of_asked reachable isLoop (reachable_asked reachable found state))
  | kDisconnected =>
    have closed := lively.disconnected state
    have removal := lively.removal closed stored
    rcases retained_of_removal reachable idle isLoop removal with retained | onStack
    · exact .inl retained
    · rcases reachable_engaged reachable i c _ onStack rfl with ⟨ahead, place⟩ | ⟨cb, called, holds⟩
      · refine .inr ⟨closed, ?_⟩
        have distinct := reachable_distinct reachable (some i)
        rw [place] at distinct ⊢
        exact (List.nodup_cons.mp distinct).1
      · exact .inl (.held (.loop (some i)) (holds_of_called called holds))
  | _ =>
    rw [TcpConnection.closing, state] at closing
    cases closing

end Reachable

end MultiReactor
