/-
This file proves that with sub loops the server never touches a connection that
is gone. Every statement and call a thread has to execute is backed: under it on
the stack lies the temporary, the local or the functor that holds a shared_ptr
to its connection, or the stack stands on the functor the loop has called, or on
the channel it is handling. The last of these owns nothing, but the connection
of an entry of the batch outlives its turn: it is in the map, or its handover is
still ahead.
-/

import MultiReactor.Backing
import MultiReactor.Interest
import MultiReactor.Shelter

namespace MultiReactor

open Transition Backing

variable {subLoops : Nat} {User : Type}

/-! ### What backs an instruction -/

/-- Whether an instruction is about a connection. -/
def Instruction.uses (c : ConnectionId) : Instruction (LoopId subLoops) Functor ServerCode → Prop
  | .call made => made.about c
  | _ => False

/-- Whether an instruction holds a shared_ptr to a connection. -/
def Instruction.owns (c : ConnectionId)
    (instruction : Instruction (LoopId subLoops) Functor ServerCode) : Prop :=
  ∃ item : ServerItem, item ∈ instruction.items ∧ owner c item = true

/-- Whether a thread's stack stands on a connection: its loop is handling the channel, or has called
a functor that holds a shared_ptr. -/
def Machine.standsOn (machine : ServerMachine subLoops User)
    (thread : Thread (LoopId subLoops) User) (c : ConnectionId) : Prop :=
  (∃ cb ∈ machine.calledBy thread, cb.connection = c) ∨
    ∃ l ahead, thread = .loop l ∧ (machine.loop l).position = .handleEvent (.connection c) ahead

/-- Everything a thread has to do with a connection is backed. -/
def Machine.backs (machine : ServerMachine subLoops User)
    (thread : Thread (LoopId subLoops) User) (c : ConnectionId) : Prop :=
  Backed (Instruction.uses c) (Instruction.owns c) (machine.standsOn thread c)
    (machine.stack thread)

section Backs

variable {machine after : ServerMachine subLoops User} {thread : Thread (LoopId subLoops) User}
  {c : ConnectionId}

/-- What a thread's stack stands on stays while its loop stands where it does. -/
theorem standsOn_eq (same : ∀ l, thread = .loop l →
    (after.loop l).position = (machine.loop l).position) :
    after.standsOn thread c = machine.standsOn thread c := by
  rw [Machine.standsOn, Machine.standsOn, calledBy_eq same]
  refine congrArg (Or _) (propext (exists_congr fun l => exists_congr fun ahead => ?_))
  exact and_congr_right fun here => by rw [same l here]

theorem not_uses_release (d : ConnectionId) : ¬ Instruction.uses c
    (.call (.code (.release d)) : Instruction (LoopId subLoops) Functor ServerCode) := by
  intro used
  cases used

theorem not_uses_handleAccept : ¬ Instruction.uses c
    (.call (.code .handleAccept) : Instruction (LoopId subLoops) Functor ServerCode) := by
  intro used
  cases used

/-- Executing a statement leaves the stack backed. -/
theorem backed_executed {server world : TcpServer subLoops} {body : ServerCode}
    {input : Input subLoops} {calls : List (Call (LoopId subLoops) Functor ServerCode)}
    {rest : List (Instruction (LoopId subLoops) Functor ServerCode)} {ground : Prop}
    (executes : ServerExecutes server body input world calls)
    (backed : Backed (Instruction.uses c) (Instruction.owns c) ground
      (.call (.code body) :: rest)) :
    Backed (Instruction.uses c) (Instruction.owns c) ground (calls.map .call ++ rest) := by
  by_cases accepts : body = .handleAccept
  · subst accepts
    cases executes with
    | acceptEnds => exact backed.2
    | acceptRefused => exact backed.2.unused not_uses_handleAccept
    | accepted fd fresh subLoop dealt deal =>
      refine ⟨fun used => .inr ?_,
        (backed.2.unused not_uses_handleAccept).unused (not_uses_release _)⟩
      -- the local `conn` outlives the call of `connectEstablished`
      obtain rfl : dealt.connections.length = c := used
      exact ⟨_, List.mem_cons_of_mem _ List.mem_cons_self, _, List.mem_singleton_self _,
        (owner_release _ _).mpr rfl⟩
  · refine backed.replace (fun used ⟨item, member, owned⟩ => ?_) fun frame member used => ?_
    · obtain rfl := List.mem_singleton.mp member
      cases body with
      | release d => cases used
      | _ => cases owned
    · obtain ⟨made, isCall, rfl⟩ := List.mem_map.mp member
      exact about_of_executes executes (fun isAccept => absurd isAccept accepts) isCall used

/-- What a functor leaves is backed by the functor. -/
theorem backed_invoked {cb : Functor}
    {rest : List (Instruction (LoopId subLoops) Functor ServerCode)} {ground : Prop}
    (backed : Backed (Instruction.uses c) (Instruction.owns c) ground rest)
    (backs : cb.connection = c → ground ∨ ∃ holder ∈ rest, Instruction.owns c holder) :
    Backed (Instruction.uses c) (Instruction.owns c) ground (cb.invoke.map .call ++ rest) := by
  refine backed.push fun frame member used => .inr (backs ?_)
  obtain ⟨made, isCall, rfl⟩ := List.mem_map.mp member
  exact about_of_invoke isCall used

variable [DecidableEq User]

/-- A thread that executes the top of its stack leaves the rest backed. -/
theorem Machine.backs.run {input : Input subLoops} (backs : machine.backs thread c)
    (step : Step (TcpServer.client subLoops User) machine (.run thread input) after) :
    after.backs thread c := by
  have ground : after.standsOn thread c = machine.standsOn thread c :=
    standsOn_eq fun l _ => step_position step fun active input advances => by cases advances
  rw [Machine.backs] at backs ⊢
  rw [ground]
  cases step with
  | code thread input body rest world calls top executed =>
    rw [top] at backs
    rw [setStack_stack_self]
    exact backed_executed (serverExecute_cases executed) backs
  | runHere l input cb rest top =>
    rw [top] at backs
    rw [setStack_stack_self]
    have destroys : Backed (Instruction.uses c) (Instruction.owns c)
      (machine.standsOn (.loop l) c) (.destroy cb :: rest) := backs.2.unused id
    refine backed_invoked destroys fun holds => .inr ⟨_, List.mem_cons_self, _,
      List.mem_singleton_self _, (owner_spent c cb).mpr holds.symm⟩
  | runQueued thread input l cb rest top foreign =>
    rw [top] at backs
    rw [setStack_stack_self]
    refine ⟨fun used => .inr ⟨_, List.mem_cons_self, _, List.mem_singleton_self _, ?_⟩,
      backs.2.unused id⟩
    exact (owner_queued c cb).mpr (Eq.symm used)
  | pushBack thread input l cb rest top =>
    rw [top] at backs
    rw [setStack_stack_self]
    exact backs.2.unused id
  | quit thread input l rest top =>
    rw [top] at backs
    rw [setStack_stack_self]
    exact backs.2.unused id
  | wakeup thread input l rest top =>
    rw [top] at backs
    rw [setStack_stack_self]
    exact backs.2
  | destroy thread input cb rest top =>
    rw [top] at backs
    rw [setStack_stack_self]
    exact backs.2

/-- What an idle thread is given to do is backed. -/
theorem backs_begun {event : ServerEvent subLoops User}
    (step : Step (TcpServer.client subLoops User) machine event after)
    (waits : ∀ input, event ≠ .run event.thread input) : after.backs event.thread c := by
  have idle := step_idle step waits
  rw [Machine.backs]
  cases step with
  | move l active input eventLoop idle moved =>
    rw [setLoop_stack, show machine.stack _ = [] from idle]
    trivial
  | poll l active input world idle =>
    rw [setLoop_stack, setWorld_stack, show machine.stack _ = [] from idle]
    trivial
  | clear l active input cb rest next idle =>
    rw [setLoop_stack, setWorld_stack, show machine.stack _ = [] from idle]
    trivial
  | dispatch l active input ch rest idle place =>
    rw [show (Event.advance l active input : ServerEvent subLoops User).thread = .loop l from rfl,
      setStack_stack_self, ← List.append_nil (List.map _ _)]
    refine Backed.push trivial fun frame member used => .inr (.inl (.inr ⟨l, rest, rfl, ?_⟩))
    obtain ⟨made, isCall, rfl⟩ := List.mem_map.mp member
    obtain rfl := about_of_handleEvent isCall used
    rw [setStack_loop, setLoop_loop_self]
    rfl
  | invoke l active input executed cb rest next idle place =>
    rw [show (Event.advance l active input : ServerEvent subLoops User).thread = .loop l from rfl,
      setStack_stack_self, ← List.append_nil (List.map _ _)]
    refine backed_invoked trivial fun holds => .inl (.inl ⟨cb, ?_, holds⟩)
    rw [Machine.calledBy, setStack_loop, setLoop_loop_self]
    exact List.mem_append_right _ (List.mem_singleton_self _)
  | begin thread input world calls idle outside begun =>
    rw [show (Event.begin thread input : ServerEvent subLoops User).thread = thread from rfl,
      setStack_stack_self]
    have begun : TcpServer.begin thread input machine.world = some (world, calls) := begun
    cases serverBegin_cases begun with
    | member t call d body connection made found alive =>
      refine ⟨fun used => .inr ?_, Backed.unused trivial (not_uses_release _)⟩
      obtain rfl : d = c := used
      exact ⟨_, List.mem_cons_of_mem _ List.mem_cons_self, _, List.mem_singleton_self _,
        (owner_release _ _).mpr rfl⟩
    | bound t call l d body connection made found alive =>
      refine ⟨fun used => .inr ⟨_, List.mem_cons_self, _, List.mem_singleton_self _, ?_⟩, trivial⟩
      exact (owner_queued c _).mpr (Eq.symm used)
    | quit t l => exact Backed.unused trivial id
  | _ => exact absurd rfl (waits _)

/-- Every step leaves every stack backed. -/
theorem Machine.backs.step {event : ServerEvent subLoops User} (backs : machine.backs thread c)
    (step : Step (TcpServer.client subLoops User) machine event after) : after.backs thread c := by
  by_cases runs : ∃ input, event = .run thread input
  · obtain ⟨input, rfl⟩ := runs
    exact backs.run step
  · have waits (input : Input subLoops) : event ≠ .run thread input :=
      fun same => runs ⟨input, same⟩
    by_cases own : thread = event.thread
    · subst own
      exact backs_begun step waits
    · have stack := step_stack step own
      rw [Machine.backs] at backs ⊢
      rw [stack, standsOn_eq fun l here => step_position step fun active input advances => own ?_]
      · exact backs
      · rw [here, advances]
        rfl

end Backs

/-! ### Nothing dangles -/

section Reachable

variable [DecidableEq User] [Fintype User] {listenFd : Nat} {openFds : Nat → Bool}
  {machine : ServerMachine subLoops User} {thread : Thread (LoopId subLoops) User}
  {c : ConnectionId}

omit [Fintype User] in
theorem reachable_backs
    (reachable : Reachable (TcpServer.system subLoops User listenFd openFds) machine)
    (thread : Thread (LoopId subLoops) User) (c : ConnectionId) : machine.backs thread c := by
  refine reachable.invariant (fun machine => machine.backs thread c) ?_ ?_
  · rintro _ rfl
    trivial
  · intro machine event after _ backs _ step
    exact backs.step (step_cases step)

theorem live_of_owners
    (reachable : Reachable (TcpServer.system subLoops User listenFd openFds) machine)
    (owned : 0 < owners machine c) : (machine.world.live c).isSome = true := by
  obtain ⟨connection, found, alive⟩ := (reachable_owned reachable).owner_alive owned
  exact Option.isSome_iff_exists.mpr ⟨connection, live_eq_some.mpr ⟨found, alive⟩⟩

/-- With sub loops, a connection that lies ahead in a batch or is being handled is alive. -/
theorem live_of_watched (multi : 0 < subLoops)
    (reachable : Reachable (TcpServer.system subLoops User listenFd openFds) machine)
    {l : LoopId subLoops} (watched : .channel (.connection c) ∈ (machine.loop l).position.batch) :
    (machine.world.live c).isSome = true := by
  have here : machine.world.loopOf c = some l :=
    (reachable_server_placed reachable).batch l _ watched
  obtain ⟨connection, found, -⟩ := Option.map_eq_some_iff.mp here
  by_cases stored : machine.world.stored c connection = 0
  · have ahead := reachable_handover multi reachable watched found stored
    have owned : tally (handover c) machine ≤ owners machine c :=
      tally_mono (fun item isHandover => by
        obtain rfl := of_decide_eq_true isHandover
        exact (owner_queued ..).mpr rfl) machine
    exact live_of_owners reachable (ahead.trans_le owned)
  · have counted := (reachable_owned reachable).counted c connection found
    exact Option.isSome_iff_exists.mpr ⟨connection, live_eq_some.mpr ⟨found, by omega⟩⟩

/-- With sub loops, what an instruction is about is alive. -/
theorem live_of_uses (multi : 0 < subLoops)
    (reachable : Reachable (TcpServer.system subLoops User listenFd openFds) machine)
    {instruction : Instruction (LoopId subLoops) Functor ServerCode}
    (onStack : instruction ∈ machine.stack thread) (uses : instruction.uses c) :
    (machine.world.live c).isSome = true := by
  rcases (reachable_backs reachable thread c).held onStack uses with
    (⟨cb, called, holds⟩ | ⟨l, ahead, -, position⟩) | ⟨holder, inStack, item, member, owned⟩
  · exact live_of_owners reachable (owners_of_holds (holds_of_called called holds))
  · refine live_of_watched multi reachable (l := l) ?_
    rw [position]
    exact List.mem_cons_self
  · exact live_of_owners reachable (owners_of_holds (holds_of_stack inStack member owned))

/-- With sub loops, nothing of the server dangles: what a thread has to execute, anywhere on its
stack, is about connections that are alive, and so are the channels of every batch and of every
interest list. -/
theorem nothing_dangles (multi : 0 < subLoops)
    (reachable : Reachable (TcpServer.system subLoops User listenFd openFds) machine) :
    (∀ thread made, .call made ∈ machine.stack thread → made.about c →
        (machine.world.live c).isSome = true) ∧
      (∀ l, .channel (.connection c) ∈ (machine.loop l).position.batch →
        (machine.world.live c).isSome = true) ∧
      ∀ l fd, (machine.world.epoll l fd).map Prod.snd = some (.connection c) →
        (machine.world.live c).isSome = true := by
  refine ⟨fun thread made onStack about => live_of_uses multi reachable onStack about,
    fun l watched => live_of_watched multi reachable watched, fun l fd registered => ?_⟩
  obtain ⟨connection, found, -, -, added⟩ := (reachable_wired reachable).registrant registered
  have lively := reachable_lively reachable found
  have opened : connection.closes = 0 := by
    rcases lively.channel with ⟨-, -, -, opened⟩ | ⟨fresh, -⟩
    · exact opened
    · rw [added] at fresh
      cases fresh
  exact Option.isSome_iff_exists.mpr
    ⟨connection, live_eq_some.mpr ⟨found, reachable_alive reachable found opened⟩⟩

end Reachable

/-- The base loop erases the closed connection while the sub loop has yet to test for EPOLLOUT. -/
theorem erased_while_handled : ∃ machine : ServerMachine 1 Unit,
    Reachable (TcpServer.system 1 Unit 3 fun _ => false) machine ∧
      machine.world.connections_ 7 = none ∧
      machine.stack (.loop firstLoop) = [.call (.code (.connection 0 .writeCallback))] :=
  exists_of_replay rfl (acceptRun ++ registration ++ endOfStream 9 ++
    [readable baseLoop [.eventfd]] ++ List.replicate 4 (moves baseLoop) ++
    List.replicate 5 (steps (.loop baseLoop))) (by decide)

theorem nothing_dangles_erased : ∃ machine : ServerMachine 1 Unit,
    machine.world.connections_ 7 = none ∧
      machine.stack (.loop firstLoop) = [.call (.code (.connection 0 .writeCallback))] ∧
      (machine.world.live 0).isSome = true := by
  obtain ⟨machine, reachable, erased, stack⟩ := erased_while_handled
  obtain ⟨onStacks, -, -⟩ := nothing_dangles (c := 0) Nat.one_pos reachable
  have handled :
      .call (.code (.connection 0 .writeCallback)) ∈ machine.stack (.loop firstLoop) := by
    rw [stack]
    exact List.mem_singleton_self _
  exact ⟨machine, erased, stack, onStacks _ _ handled rfl⟩

end MultiReactor
