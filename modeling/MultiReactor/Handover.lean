/-
This file proves that with sub loops no connection is destroyed under its loop's
feet. The last owner hops from the map to the base loop's functor, from there to
the queue of the connection's own loop, and dies with the functor that has run
there. While an entry of the connection lies in its loop's batch, that hop is
still ahead: as long as the loop has not swapped its queue in this batch nothing
of the connection runs on it, so a connection that lies ahead in the batch has
not been closed, and the functor it will be handed over with is not among those
the swap takes.
-/

import MultiReactor.Batches
import MultiReactor.Confinement
import MultiReactor.Lifecycle
import MultiReactor.Quiescence

namespace MultiReactor

open Transition

variable {subLoops : Nat} {User : Type}

/-! ### What is about a connection -/

/-- Whether a call is about a connection. -/
def Call.about (c : ConnectionId) : Call (LoopId subLoops) Functor ServerCode → Prop
  | .code (.connection d _) => d = c
  | .code (.removeConnection d) => d = c
  | .code (.removeConnectionInLoop d) => d = c
  | .runInLoop _ cb => cb.connection = c
  | .queueInLoop _ cb => cb.connection = c
  | _ => False

/-- What a statement leaves is about its own connection, or about one that did not exist. -/
theorem about_of_executes {server after : TcpServer subLoops} {body : ServerCode}
    {input : Input subLoops} {calls : List (Call (LoopId subLoops) Functor ServerCode)}
    {c : ConnectionId} (executes : ServerExecutes server body input after calls)
    (known : body = .handleAccept → server.find c ≠ none)
    {made : Call (LoopId subLoops) Functor ServerCode} (member : made ∈ calls)
    (about : made.about c) :
    (Call.code body : Call (LoopId subLoops) Functor ServerCode).about c := by
  cases executes with
  | connection d body input connection outcome found alive executes =>
    obtain ⟨next, -, rfl⟩ := List.mem_map.mp member
    cases next with
    | statement body => exact about
    | runInLoop body => exact about
    | closeCallback => exact about
    | release => cases about
  | listenCallback input masked =>
    obtain rfl := List.mem_singleton.mp member
    cases about
  | listenIgnored input => cases member
  | acceptEnds result ends => cases member
  | acceptRefused fd fresh =>
    obtain rfl := List.mem_singleton.mp member
    cases about
  | accepted fd fresh subLoop dealt deal =>
    obtain ⟨next, rfl⟩ := getNextLoop_eq server deal
    simp only [List.mem_cons, List.not_mem_nil, or_false] at member
    rcases member with rfl | rfl | rfl
    · obtain rfl : server.connections.length = c := about
      exact absurd (List.getElem?_eq_none (Nat.le_refl _)) (known rfl)
    · cases about
    · cases about
  | removeConnection d input connection found alive =>
    obtain rfl := List.mem_singleton.mp member
    exact about
  | removedAlready d input connection found alive missing => cases member
  | removeConnectionInLoop d input connection erased found alive entry =>
    obtain rfl := List.mem_singleton.mp member
    exact about
  | release d input => cases member

theorem about_of_invoke {cb : Functor} {c : ConnectionId}
    {made : Call (LoopId subLoops) Functor ServerCode} (member : made ∈ cb.invoke)
    (about : made.about c) : cb.connection = c := by
  cases cb <;> obtain rfl := List.mem_singleton.mp member <;> exact about

theorem about_of_handleEvent {ch : ChannelId} {c : ConnectionId}
    {made : Call (LoopId subLoops) Functor ServerCode} (member : made ∈ ch.handleEvent)
    (about : made.about c) : ch = .connection c := by
  cases ch with
  | listen =>
    obtain rfl := List.mem_singleton.mp member
    cases about
  | connection d =>
    simp only [ChannelId.handleEvent, List.mem_cons, List.not_mem_nil, or_false] at member
    rcases member with rfl | rfl | rfl <;> exact congrArg ChannelId.connection about

/-! ### Before the swap -/

/-- While the swap of a loop's queue is ahead in the batch, nothing on the loop's stack is about a
connection whose entry is ahead too. -/
def Apart (machine : ServerMachine subLoops User) (l : LoopId subLoops) (c : ConnectionId) : Prop :=
  (machine.loop l).position.unswapped →
    .channel (.connection c) ∈ (machine.loop l).position.active →
      ∀ made, .call made ∈ machine.stack (.loop l) → ¬ made.about c

theorem Apart.step [DecidableEq User] {machine after : ServerMachine subLoops User}
    {event : ServerEvent subLoops User} {l : LoopId subLoops} {c : ConnectionId}
    (apart : Apart machine l c) (placed : Placed (serverPlacement subLoops User) machine)
    (distinct : (after.loop l).position.whole.Nodup)
    (step : Step (TcpServer.client subLoops User) machine event after) : Apart after l c := by
  intro unswapped member made onStack about
  rcases (step_advanced step l).unswapped unswapped member with ⟨ahead, active⟩ | ⟨idle, stack, -⟩
  swap
  · rw [stack, idle] at onStack
    cases onStack
  have nothing (made : Call (LoopId subLoops) Functor ServerCode)
      (onStack : .call made ∈ machine.stack (.loop l)) (about : made.about c) : False :=
    apart ahead active made onStack about
  have known : machine.world.find c ≠ none := fun unborn => by
    have here : machine.world.loopOf c = some l := placed.batch l _ (active_subset_batch active)
    rw [TcpServer.loopOf, unborn] at here
    cases here
  cases step_pushed step onStack with
  | kept onStack => exact nothing made onStack about
  | executed body input calls onStack executed isCall =>
    have executed : TcpServer.execute body input machine.world = some (after.world, calls) :=
      executed
    exact nothing _ onStack
      (about_of_executes (serverExecute_cases executed) (fun _ => known) isCall about)
  | ran m cb onStack isCall => exact nothing _ onStack (about_of_invoke isCall about)
  | queued m cb passedOn same =>
    subst same
    exact nothing _ passedOn about
  | dispatched m ch rest here position isCall =>
    obtain rfl := Thread.loop.inj here
    obtain rfl := about_of_handleEvent isCall about
    rw [position] at distinct member
    exact (List.nodup_cons.mp distinct).1 member
  | invoked m executed cb rest active here position isCall =>
    obtain rfl := Thread.loop.inj here
    rw [position] at distinct unswapped
    exact not_unswapped_of_execute distinct unswapped
  | begun input calls begun isCall =>
    have begun : TcpServer.begin (.loop l : Thread _ User) input machine.world =
      some (after.world, calls) := begun
    cases serverBegin_cases begun

section Reachable

variable [DecidableEq User] [Fintype User] {listenFd : Nat} {openFds : Nat → Bool}
  {machine : ServerMachine subLoops User} {c : ConnectionId} {l : LoopId subLoops}

theorem reachable_apart
    (reachable : Reachable (TcpServer.system subLoops User listenFd openFds) machine)
    (l : LoopId subLoops) (c : ConnectionId) : Apart machine l c := by
  refine reachable.invariant (fun machine => Apart machine l c) ?_ ?_
  · rintro _ rfl - -
    exact nofun
  · intro machine event after before apart permitted step
    exact apart.step (reachable_server_placed before)
      (reachable_distinct (.next before permitted step) l) (step_cases step)

/-- A connection that `epoll_wait` has just reported has not been closed. -/
theorem opened_of_polls
    (reachable : Reachable (TcpServer.system subLoops User listenFd openFds) machine)
    {after : ServerMachine subLoops User}
    (polls : Polls (TcpServer.client subLoops User) machine after l (.connection c)) :
    ∃ now, after.world.find c = some now ∧ now.closes = 0 := by
  obtain ⟨-, -, active, input, member, polled⟩ := polls
  have polled : TcpServer.poll l active input machine.world = some after.world := polled
  obtain ⟨mask, -, reported, world⟩ := serverPoll_cases polled
  have registered := reported _ member
  unfold TcpServer.reports at registered
  dsimp only at registered
  split at registered
  · obtain ⟨connection, found, -, -, added⟩ :=
      (reachable_wired reachable).registrant (of_decide_eq_true registered)
    rw [world, setRevents_find, found, Option.map_some, if_pos member]
    refine ⟨_, rfl, ?_⟩
    rcases (reachable_lively reachable found).channel with ⟨-, -, -, opened⟩ | ⟨fresh, -⟩
    · exact opened
    · rw [added] at fresh
      cases fresh
  · cases registered

/-- While the swap of a loop's queue is ahead in the batch, a connection whose entry is ahead too
has not been closed. -/
theorem reachable_opened
    (reachable : Reachable (TcpServer.system subLoops User listenFd openFds) machine)
    (unswapped : (machine.loop l).position.unswapped)
    (member : .channel (.connection c) ∈ (machine.loop l).position.active)
    {connection : TcpConnection (LoopId subLoops)}
    (found : machine.world.find c = some connection) :
    connection.closes = 0 := by
  refine reachable.invariant (fun machine => (machine.loop l).position.unswapped →
    .channel (.connection c) ∈ (machine.loop l).position.active →
    ∀ connection, machine.world.find c = some connection → connection.closes = 0) ?_ ?_ unswapped
    member connection found
  · rintro _ rfl _ member
    cases member
  · intro machine event after before inductionHypothesis _ step unswapped member now nowFound
    have placed := reachable_server_placed before
    rcases (step_advanced (step_cases step) l).unswapped unswapped member with
      ⟨ahead, active⟩ | polls
    · have here : machine.world.loopOf c = some l :=
        placed.batch l (.connection c) (active_subset_batch active)
      obtain ⟨connection, found, -⟩ := Option.map_eq_some_iff.mp here
      obtain ⟨same, used, left, sameFound, turn, -⟩ := reachable_turn before step found
      obtain rfl := Option.some.inj (sameFound.symm.trans nowFound)
      rcases turn.closes with closes | ⟨thread, rest, top⟩
      · exact closes.trans (inductionHypothesis ahead active connection found)
      · -- only the loop's thread closes the connection, which has nothing of it on its stack
        obtain ⟨m, loop, rfl⟩ := placed.top top rfl
        obtain rfl := Option.some.inj (loop.symm.trans here)
        refine absurd rfl (reachable_apart before m c ahead active
          (.code (.connection c .handleCloseStore)) ?_)
        rw [top]
        exact List.mem_cons_self
    · obtain ⟨same, sameFound, opened⟩ := opened_of_polls before polls
      obtain rfl := Option.some.inj (sameFound.symm.trans nowFound)
      exact opened

/-! ### After the swap -/

/-- A functor that hands a connection over and has been swapped out finds no entry of the
connection ahead in the batch. -/
theorem reachable_swapped
    (reachable : Reachable (TcpServer.system subLoops User listenFd openFds) machine)
    {executed rest : List Functor} {active : List (Ready ChannelId)}
    (place : (machine.loop l).position = .execute executed rest active)
    (member : .bind c .connectDestroyed ∈ rest) : .channel (.connection c) ∉ active := by
  refine reachable.invariant (fun machine => ∀ executed rest active,
    (machine.loop l).position = .execute executed rest active →
    .bind c .connectDestroyed ∈ rest → .channel (.connection c) ∉ active) ?_ ?_ executed rest active
    place member
  · rintro _ rfl executed rest active place
    cases place
  · intro machine event after before inductionHypothesis _ step executed rest active place member
    cases step_advanced (step_cases step) l with
    | stays position => exact inductionHypothesis executed rest active (position ▸ place) member
    | moved idle stack world move =>
      generalize after.loop l = eventLoop at move place
      cases move with
      | swap unreached waiting =>
        cases place
        -- the connection of a queued functor has been closed
        intro ahead
        have here : machine.world.loopOf c = some l :=
          (reachable_server_placed before).batch l (.connection c)
            (active_subset_batch (by rwa [waiting]))
        obtain ⟨connection, found, -⟩ := Option.map_eq_some_iff.mp here
        have opened := reachable_opened before (by rw [waiting]; trivial) (by rwa [waiting]) found
        have outstanding : 0 < pending c machine Task.late :=
          tally_pos_of_loop l (List.mem_append_left _ (List.mem_map_of_mem member))
            (by simp [isTask, taskOf, Task.late])
        exact ((reachable_lively before found).late outstanding).ne' opened
      | _ => cases place
    | polled active input same idle stack waiting distinct polled position =>
      rw [position] at place
      cases place
    | dispatched ch rest waiting position stack =>
      rw [position] at place
      cases place
    | invoked called cb left next waiting position stack =>
      rw [position] at place
      cases place
      exact inductionHypothesis _ _ _ waiting (List.mem_cons_of_mem _ member)
    | cleared cb rest active idle stack waiting position =>
      rw [position] at place
      cases place

/-! ### The handover -/

/-- The functor that hands a connection over to its loop, where it has not been called. -/
def handover (c : ConnectionId) (item : ServerItem) : Bool :=
  item = .queued (.bind c .connectDestroyed)

/-- The functor of the handover is called with no entry of the connection in a batch: it never runs
on the base loop, where it is passed on. -/
theorem unwatched_of_calls (multi : 0 < subLoops)
    (reachable : Reachable (TcpServer.system subLoops User listenFd openFds) machine)
    (called : machine.calls (.bind c .connectDestroyed)) (l : LoopId subLoops) :
    .channel (.connection c) ∉ (machine.loop l).position.batch := by
  intro watched
  have placed := reachable_server_placed reachable
  have here : machine.world.loopOf c = some l := placed.batch l _ watched
  rcases called with ⟨m, rest, top⟩ | ⟨m, executed, rest, active, place⟩
  · obtain ⟨belongs, onBase⟩ := placed.top top
    obtain ⟨connection, found, isLoop⟩ := Option.map_eq_some_iff.mp (belongs rfl).2
    exact reachable_loop_ne_base multi reachable found
      (isLoop.trans (Thread.loop.inj (onBase c rfl)))
  · have loop : machine.world.loopOf c = some m :=
      (placed.queue m (.bind c .connectDestroyed) (by
        rw [EventLoop.waiting, place]
        exact List.mem_cons_self) rfl).2
    obtain rfl := Option.some.inj (loop.symm.trans here)
    rw [place] at watched
    exact reachable_swapped reachable place List.mem_cons_self watched

omit [DecidableEq User] [Fintype User] in
/-- The functor of the handover stays until it is called. -/
theorem effect_handover {event : ServerEvent subLoops User} {after : TcpServer subLoops}
    {used left : List ServerItem} (effect : ServerEffect machine event after used left)
    (c : ConnectionId) : used.countP (handover c) ≤ left.countP (handover c) ∨
      machine.calls (.bind c .connectDestroyed) := by
  cases effect with
  | invoke event cb called connection found alive =>
    by_cases same : cb = .bind c .connectDestroyed
    · exact .inr (same ▸ called)
    · exact .inl (by simp [handover, same])
  | copy event cb connection found alive => exact .inl (by simp [List.countP_cons])
  | _ => exact .inl (by simp [handover])

omit [DecidableEq User] [Fintype User] in
/-- The step that takes a connection out of the map leaves the functor of its handover. -/
theorem effect_erased {event : ServerEvent subLoops User} {after : TcpServer subLoops}
    {used left : List ServerItem} (effect : ServerEffect machine event after used left) {fd : Nat}
    (entry : machine.world.connections_ fd = some c) (erased : after.connections_ fd ≠ some c) :
    0 < left.countP (handover c) := by
  cases effect with
  | accepted event newFd subLoop next fresh missing dealt =>
    by_cases same : fd = newFd
    · subst same
      rw [missing] at entry
      cases entry
    · exact absurd ((Function.update_of_ne same ..).trans entry) erased
  | removeConnectionInLoop event d connection found shared stored =>
    by_cases same : fd = connection.fd_
    · subst same
      obtain rfl := Option.some.inj (entry.symm.trans stored)
      simp [handover]
    · exact absurd ((Function.update_of_ne same ..).trans entry) erased
  | release event d connection found alive =>
    rw [(release_members machine.world d found).1] at erased
    exact absurd entry erased
  | destroy event cb connection found alive =>
    rw [(release_members machine.world cb.connection found).1] at erased
    exact absurd entry erased
  | begin thread input after calls begun => cases begun <;> exact absurd entry erased
  | _ => exact absurd entry erased

/-- While a connection out of the map has an entry in the batch of its loop, its handover is
ahead. -/
theorem reachable_handover (multi : 0 < subLoops)
    (reachable : Reachable (TcpServer.system subLoops User listenFd openFds) machine)
    (watched : .channel (.connection c) ∈ (machine.loop l).position.batch)
    {connection : TcpConnection (LoopId subLoops)} (found : machine.world.find c = some connection)
    (unstored : machine.world.stored c connection = 0) : 0 < tally (handover c) machine := by
  refine reachable.invariant (fun machine => .channel (.connection c) ∈
    (machine.loop l).position.batch → ∀ connection, machine.world.find c = some connection →
      machine.world.stored c connection = 0 → 0 < tally (handover c) machine) ?_ ?_ watched
    connection found unstored
  · rintro _ rfl watched
    cases watched
  · intro machine event after before inductionHypothesis permitted step watched now nowFound
      unstored
    rcases (step_advanced (step_cases step) l).batch watched with wasWatched | polls
    · obtain ⟨used, left, effect, tallies⟩ := reachable_effect before step
      have change := tallies (handover c)
      have here : machine.world.loopOf c = some l :=
        (reachable_server_placed before).batch l _ wasWatched
      obtain ⟨connection, found, -⟩ := Option.map_eq_some_iff.mp here
      obtain ⟨same, _, _, sameFound, turn, -⟩ := reachable_turn before step found
      obtain rfl := Option.some.inj (sameFound.symm.trans nowFound)
      by_cases entry : machine.world.connections_ connection.fd_ = some c
      · -- this step has taken it out of the map
        have erased : after.world.connections_ connection.fd_ ≠ some c := by
          intro kept
          rw [stored_eq (turn.fd ▸ kept), if_pos rfl] at unstored
          cases unstored
        have leaves := effect_erased effect entry erased
        omega
      · have ahead := inductionHypothesis wasWatched connection found (if_neg entry)
        rcases effect_handover effect c with kept | called
        · omega
        · exact absurd wasWatched (unwatched_of_calls multi before called l)
    · -- a connection that has been reported is stored
      obtain ⟨same, sameFound, opened⟩ := opened_of_polls before polls
      obtain rfl := Option.some.inj (sameFound.symm.trans nowFound)
      exact absurd opened
        ((reachable_lively (.next before permitted step) nowFound).unstored unstored).ne'

/-! ### Destruction -/

/-- With sub loops, a connection is destroyed only when no epoll instance has its channel and no
entry of it is ahead in a batch or being handled. -/
theorem destroyed_unwatched (multi : 0 < subLoops)
    (reachable : Reachable (TcpServer.system subLoops User listenFd openFds) machine)
    {event : ServerEvent subLoops User} {after : ServerMachine subLoops User}
    (step : (TcpServer.system subLoops User listenFd openFds).step machine event = some after)
    {connection now : TcpConnection (LoopId subLoops)}
    (found : machine.world.find c = some connection) (alive : connection.alive = true)
    (nowFound : after.world.find c = some now) (destroyed : now.alive = false) :
    (∀ l fd, (machine.world.epoll l fd).map Prod.snd ≠ some (.connection c)) ∧
      ∀ l, .channel (.connection c) ∉ (machine.loop l).position.batch := by
  obtain ⟨same, _, _, sameFound, turn, -⟩ := reachable_turn reachable step found
  obtain rfl := Option.some.inj (sameFound.symm.trans nowFound)
  have alive : 0 < connection.useCount := of_decide_eq_true alive
  have destroyed : same.useCount = 0 := Nat.eq_zero_of_not_pos (of_decide_eq_false destroyed)
  have reached := ReachableBy.next reachable trivial step
  have counted : same.useCount = tally (owner c) after + after.world.stored c same :=
    (reachable_owned reached).counted c same nowFound
  have unstored : machine.world.stored c connection = 0 := by
    rw [← turn.destroys alive destroyed]
    omega
  have lively := reachable_lively reachable found
  refine ⟨fun l fd registered => ?_, fun l watched => ?_⟩
  · obtain ⟨member, memberFound, -, -, added⟩ := (reachable_wired reachable).registrant registered
    obtain rfl := Option.some.inj (memberFound.symm.trans found)
    have closed := lively.unstored unstored
    rcases lively.channel with ⟨-, -, -, opened⟩ | ⟨fresh, -⟩
    · exact closed.ne' opened
    · rw [added] at fresh
      cases fresh
  · rcases (step_advanced (step_cases step) l).remains watched with remains | world
    · -- the functor of the handover is still there, and owns the connection
      have ahead := reachable_handover multi reached remains nowFound
        ((turn.destroys alive destroyed).trans unstored)
      have owned : tally (handover c) after ≤ tally (owner c) after :=
        tally_mono (fun item isHandover => by
          obtain rfl := of_decide_eq_true isHandover
          exact (owner_queued ..).mpr rfl) after
      omega
    · rw [world] at nowFound
      obtain rfl := Option.some.inj (found.symm.trans nowFound)
      exact alive.ne' destroyed

end Reachable

/-- The sub loop destroys the closed connection with the functor that handed it over. -/
theorem destroyed_unwatched_closed : ∃ machine after : ServerMachine 1 Unit,
    (TcpServer.system 1 Unit 3 fun _ => false).step machine (moves (some 0)) = some after ∧
      (machine.world.find 0).map TcpConnection.alive = some true ∧
      (after.world.find 0).map TcpConnection.alive = some false ∧
      (∀ l fd, (machine.world.epoll l fd).map Prod.snd ≠ some (.connection 0)) ∧
        ∀ l, .channel (.connection 0) ∉ (machine.loop l).position.batch := by
  have destroys : ∃ machine, Reachable (TcpServer.system 1 Unit 3 fun _ => false) machine ∧
      ∃ connection ∈ machine.world.find 0, connection.alive = true ∧
        ∃ after ∈ (TcpServer.system 1 Unit 3 fun _ => false).step machine (moves (some 0)),
          ∃ now ∈ after.world.find 0, now.alive = false :=
    exists_of_replay rfl
      ((acceptRun ++ registration ++ endOfStream 10 ++ removal 3).take 72) (by decide)
  obtain ⟨machine, reachable, connection, found, alive, after, step, now, nowFound, destroyed⟩ :=
    destroys
  have found : machine.world.find 0 = some connection := found
  have nowFound : after.world.find 0 = some now := nowFound
  exact ⟨machine, after, step, by rw [found, Option.map_some, alive],
    by rw [nowFound, Option.map_some, destroyed],
    destroyed_unwatched Nat.one_pos reachable step found alive nowFound destroyed⟩

end MultiReactor
