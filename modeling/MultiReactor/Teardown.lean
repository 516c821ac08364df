/-
This file proves when `~TcpServer` may drop the connections of sub loops that
are still running. The sweep asks every connection it finds connected to close,
and then the map is cleared: from there on a connection lives as long as its
close takes, in the functor of `forceCloseInLoop`, in the temporary of
`handleClose` and in the functor of `removeConnectionInLoop`, which nobody runs
any more. By the time the last of them is gone the channel is out of epoll. A
connection that has not been asked to close when its entry is dropped has none
of these: it dies with whatever functor holds it last, registered as it is.
-/

import MultiReactor.Mirror
import MultiReactor.Shelter

namespace MultiReactor

open Transition

variable {subLoops : Nat} {User : Type}

/-! ### What the destruction does next -/

/-- The connection whose entry `connections_.clear()` destroys in the next step. -/
def Shutdown.clears (shutdown : Shutdown subLoops User) :
    ShutdownEvent subLoops User → Option ConnectionId
  | .destructor => match shutdown.destructor with
    | .clear (fd :: _) => shutdown.machine.world.connections_ fd
    | _ => none
  | _ => none

section Ahead

variable {Loop Functor Channel Code Input World : Type} [DecidableEq Loop] [DecidableEq User]
  {client : Client Loop User Functor Channel Code Input World}
  {machine after : Machine Loop User Functor Channel Code World}
  {event : Event Loop User Channel Input}

/-- What a loop has ahead in its batch stays ahead, unless the step does nothing to the world. -/
theorem step_ahead (step : Step client machine event after) {l : Loop} {ready : Ready Channel}
    (ahead : ready ∈ (machine.loop l).position.active) :
    ready ∈ (after.loop l).position.active ∨ after.world = machine.world := by
  cases step with
  | poll m active input world idle place distinct bounded counted polled =>
    by_cases same : l = m
    · subst same
      rw [place] at ahead
      cases ahead
    · left
      rwa [setLoop_loop_of_ne _ _ same]
  | clear m active input cb rest next idle place =>
    left
    by_cases same : l = m
    · subst same
      rw [place] at ahead
      rwa [setLoop_loop_self]
    · rwa [setLoop_loop_of_ne _ _ same]
  | code | destroy | runQueued => exact .inl ahead
  | begin => exact .inl ahead
  | _ => exact .inr rfl

end Ahead

section Step

variable [DecidableEq User] {shutdown after : Shutdown subLoops User}
  {event : ShutdownEvent subLoops User}

omit [DecidableEq User] in
/-- The destruction of one loop leaves another alone. -/
theorem destroyLoop_elsewhere {i j : Fin subLoops} (other : j ≠ i) :
    (shutdown.destroyLoop i).threadFunc j = shutdown.threadFunc j ∧
      (shutdown.destroyLoop i).machine.loop (some j) = shutdown.machine.loop (some j) := by
  unfold Shutdown.destroyLoop
  dsimp only
  split
  · exact ⟨Function.update_of_ne other .., rfl⟩
  · exact ⟨rfl, setLoop_loop_of_ne _ _ fun same => other (Option.some.inj same)⟩

/-- A sub loop is still in `loop()` after a step, unless it has just returned. -/
theorem Destroys.looping (destroys : Destroys shutdown event after) {i : Fin subLoops}
    (looping : shutdown.threadFunc i = .loop) :
    after.threadFunc i = .loop ∨ after.machine = shutdown.machine := by
  cases destroys with
  | threadFunc j place left moved => exact .inr rfl
  | destroyLoop j place =>
    refine .inl ((destroyLoop_elsewhere ?_).1.trans looping)
    rintro rfl
    cases place.symm.trans looping
  | _ => exact .inl looping

/-- A sub loop does not come back to `loop()`. -/
theorem Destroys.looped (destroys : Destroys shutdown event after) {i : Fin subLoops}
    (looping : after.threadFunc i = .loop) : shutdown.threadFunc i = .loop := by
  cases destroys with
  | threadFunc j place left moved =>
    have looping : Function.update shutdown.threadFunc j place i = .loop := looping
    by_cases same : i = j
    · subst same
      rw [Function.update_self] at looping
      exact absurd looping left
    · rwa [Function.update_of_ne same] at looping
  | destroyLoop j place =>
    by_cases same : i = j
    · subst same
      unfold Shutdown.destroyLoop at looping
      dsimp only at looping
      split at looping
      · exact absurd (looping.symm.trans (Function.update_self ..)) fun same => by cases same
      · exact looping
    · exact (destroyLoop_elsewhere same).1.symm.trans looping
  | _ => exact looping

/-- What a sub loop in `loop()` has ahead in its batch stays ahead, or the server is left alone. -/
theorem Destroys.ahead (destroys : Destroys shutdown event after) {i : Fin subLoops}
    (looping : shutdown.threadFunc i = .loop) {ready : Ready ChannelId}
    (ahead : ready ∈ (shutdown.machine.loop (some i)).position.active) :
    ready ∈ (after.machine.loop (some i)).position.active ∨
      after.machine.world = shutdown.machine.world := by
  cases destroys with
  | process event machine permitted step => exact step_ahead step ahead
  | destroyLoop j place =>
    refine .inl ?_
    rw [(destroyLoop_elsewhere ?_).2]
    · exact ahead
    · rintro rfl
      cases place.symm.trans looping
  | _ => exact .inl ahead

/-- Only `connections_.clear()` drops an entry. -/
theorem Destroys.dropped (destroys : Destroys shutdown event after)
    (sweeping : Sweeping shutdown.machine) {fd : Nat} {c : ConnectionId}
    (entry : shutdown.machine.world.connections_ fd = some c)
    (dropped : after.machine.world.connections_ fd ≠ some c) : shutdown.clears event = some c := by
  have kept (map : after.machine.world.connections_ = shutdown.machine.world.connections_) :
      shutdown.clears event = some c := absurd ((congrFun map fd).trans entry) dropped
  cases destroys with
  | process event machine permitted step =>
    refine kept (sweep_cases sweeping step ?_).1.map
    rintro active input rfl
    cases permitted
  | destroyLoop j place => exact kept (destroyLoop_sweeping sweeping).2.map
  | clear ahead key d place stands =>
    have aside : Aside (shutdown.machine.world.erase key)
      ((shutdown.machine.world.erase key).release d) := aside_release
    have dropped : ((shutdown.machine.world.erase key).release d).connections_ fd ≠ some c :=
      dropped
    rw [aside.map] at dropped
    by_cases same : fd = key
    · subst same
      obtain rfl := Option.some.inj (stands.symm.trans entry)
      simp only [Shutdown.clears, place, stands]
    · exact absurd ((Function.update_of_ne same ..).trans entry) dropped
  | _ => exact kept rfl

end Step

/-! ### The image of the destruction -/

/-- Only a turn that drops an owner leaves fewer, and it closes nothing. -/
theorem Turn.fewer {machine : ServerMachine subLoops User} {c : ConnectionId}
    {event : ServerEvent subLoops User} {connection now : TcpConnection (LoopId subLoops)}
    {stored storedNow : Nat} {used left : List Task}
    (turn : Turn machine c event connection stored now storedNow used left)
    (fewer : now.useCount < connection.useCount) : now.closes = connection.closes := by
  cases turn with
  | statement thread input body rest connection stored outcome top alive executes =>
    have counted := executes.keeps.useCount
    omega
  | dropped event connection stored alive => exact closes_drop connection
  | _ => rfl

section Image

variable [DecidableEq User] [Fintype User] {listenFd : Nat} {openFds : Nat → Bool}
  {shutdown after : Shutdown subLoops User} {event : ShutdownEvent subLoops User}
  {image view : ServerMachine subLoops (Option User)}
  {lost lostNow : LoopId subLoops → List Functor} {spare spareNow : ConnectionId → Nat}
  {c : ConnectionId} {connection now : TcpConnection (LoopId subLoops)}

/-- Every step of the destruction is a step of the image or leaves it as it is. -/
theorem Mirror.next (mirror : Mirror listenFd openFds shutdown image lost spare)
    (multi : 0 < subLoops) (destroys : Destroys shutdown event after) :
    ∃ view lostNow spareNow, Mirror listenFd openFds after view lostNow spareNow ∧
      ImageMoves image view ∧ (view = image ∨ spareNow = spare) := by
  have rests : ImageMoves image image := ⟨.inl rfl, rfl⟩
  cases destroys with
  | process event machine permitted step =>
    obtain ⟨view, moves, mirror⟩ := mirror.process permitted step
    exact ⟨view, lost, spare, mirror, moves, .inr rfl⟩
  | threadFunc i place left moved =>
    exact ⟨image, lost, spare, mirror.still rfl (intact_setThread moved), rests, .inl rfl⟩
  | destroyLoop i place =>
    obtain ⟨lostNow, spareNow, mirror⟩ := mirror.destroyLoop place
    exact ⟨image, lostNow, spareNow, mirror, rests, .inl rfl⟩
  | goTo destructor left =>
    exact ⟨image, lost, spare, mirror.still rfl fun _ intact => intact, rests, .inl rfl⟩
  | visit visited ahead fd c empty place entry =>
    obtain ⟨view, moves, mirror⟩ := mirror.visit multi entry empty
    exact ⟨view, lost, spare, mirror.still rfl fun _ intact => intact, moves, .inr rfl⟩
  | clear ahead fd c place entry =>
    exact ⟨image, lost, _, (mirror.clear multi entry).still rfl fun _ intact => intact, rests,
      .inl rfl⟩
  | closeListen => exact ⟨image, lost, spare, mirror.closeListen, rests, .inl rfl⟩
  | quit i empty =>
    obtain ⟨view, moves, mirror⟩ := mirror.quitThread i empty
    exact ⟨view, lost, spare, mirror.still rfl fun _ intact => intact, moves, .inr rfl⟩

omit [Fintype User] in
/-- What a thread of the image holds, a thread of the process holds. -/
theorem Mirror.holds (mirror : Mirror listenFd openFds shutdown image lost spare)
    {other : Thread (LoopId subLoops) (Option User)} (holds : image.holds other c = true) :
    ∃ thread, shutdown.machine.holds thread c = true := by
  have base : (image.loop baseLoop).position = .outside :=
    (congrArg EventLoop.position (mirror.isImage.loop baseLoop)).trans mirror.base
  have user {thread : Thread (LoopId subLoops) User} (isUser : ∃ t, thread.standIn = .user t)
      (holds : image.holds thread.standIn c = true) : shutdown.machine.holds thread c = true := by
    obtain ⟨t, isUser⟩ := isUser
    rw [Machine.holds, mirror.isImage.stack, isUser] at holds
    rw [Machine.holds, Bool.or_eq_true]
    exact .inl ((Bool.or_false _).symm.trans holds)
  rcases other with (_ | i) | (_ | t)
  · rw [Machine.holds, mirror.idle, Machine.calledBy, base] at holds
    cases holds
  · refine ⟨.loop (some i), ?_⟩
    have stack : image.stack (.loop (some i)) = shutdown.machine.stack (.loop (some i)) :=
      mirror.isImage.stack (.loop (some i))
    rw [Machine.holds, stack, Machine.calledBy, mirror.isImage.loop] at holds
    exact holds
  · exact ⟨mainThread, user ⟨none, rfl⟩ holds⟩
  · exact ⟨.user t, user ⟨some t, rfl⟩ holds⟩

/-- What owns a connection besides the map in the image owns it in the process, as long as its
loop is there. -/
theorem Mirror.owners_of_retained (mirror : Mirror listenFd openFds shutdown image lost spare)
    {l : LoopId subLoops} (intact : shutdown.intact l = true) (retained : Retained image c l) :
    0 < owners shutdown.machine c := by
  cases retained with
  | held other holds =>
    obtain ⟨thread, holds⟩ := mirror.holds holds
    exact owners_of_holds holds
  | queued m cb place waiting holds =>
    have there : shutdown.intact m = true := by
      rcases place with rfl | rfl
      · rfl
      · exact intact
    rw [mirror.isImage.intact (mirror.intact m there)] at waiting
    have member : (.queued cb : ServerItem) ∈ (shutdown.machine.loop m).items := by
      rcases List.mem_append.mp waiting with uncalled | queued
      · exact List.mem_append_right _
          (List.mem_append_left _ (List.mem_append_right _ (List.mem_map_of_mem uncalled)))
      · exact List.mem_append_left _ (List.mem_map_of_mem queued)
    exact tally_pos_of_loop m member ((owner_queued c cb).mpr holds.symm)

/-- A step that destroys a connection does not close it. -/
theorem Mirror.closes_of_destroyed (mirror : Mirror listenFd openFds shutdown image lost spare)
    (mirrorNow : Mirror listenFd openFds after view lostNow spareNow)
    (moves : ImageMoves image view) (spares : view = image ∨ spareNow = spare)
    (found : shutdown.machine.world.find c = some connection) (alive : 0 < connection.useCount)
    (nowFound : after.machine.world.find c = some now) (destroyed : now.useCount = 0)
    {seen seenNow : TcpConnection (LoopId subLoops)} (seenFound : image.world.find c = some seen)
    (seenNowFound : view.world.find c = some seenNow) :
    seenNow.closes = seen.closes ∧ seenNow.loop_ = seen.loop_ := by
  have still (same : view = image) : seenNow.closes = seen.closes ∧ seenNow.loop_ = seen.loop_ := by
    rw [same, seenFound] at seenNowFound
    cases seenNowFound
    exact ⟨rfl, rfl⟩
  rcases spares with same | same
  · exact still same
  rcases moves.moved with same | ⟨event, step⟩
  · exact still same
  obtain ⟨_, sameFound, faded⟩ := mirror.isImage.world.found c connection found
  obtain rfl := Option.some.inj (sameFound.symm.trans seenFound)
  obtain ⟨_, sameFound, fadedNow⟩ := mirrorNow.isImage.world.found c now nowFound
  obtain rfl := Option.some.inj (sameFound.symm.trans seenNowFound)
  obtain ⟨_, used, left, sameFound, turn, -⟩ := reachable_turn mirror.reachable step.taken seenFound
  obtain rfl := Option.some.inj (sameFound.symm.trans seenNowFound)
  refine ⟨turn.fewer ?_, turn.loop⟩
  rw [faded.useCount, fadedNow.useCount, destroyed, same]
  omega

end Image

/-! ### The clearing of the map -/

/-- `connections_.clear()` drops no connection of a sub loop in `loop()` that is still connecting or
connected. -/
def ClearsClosing : Guard (Shutdown subLoops User) (ShutdownEvent subLoops User) :=
  fun shutdown event => ∀ c ∈ shutdown.clears event, ∀ connection ∈ shutdown.machine.world.find c,
    ∀ i : Fin subLoops, connection.loop_ = some i → shutdown.threadFunc i = .loop →
      connection.closing = true

instance (shutdown : Shutdown subLoops User) (event : ShutdownEvent subLoops User) :
    Decidable (ClearsClosing shutdown event) :=
  inferInstanceAs (Decidable (∀ c ∈ shutdown.clears event,
    ∀ connection ∈ shutdown.machine.world.find c, ∀ i : Fin subLoops,
      connection.loop_ = some i → shutdown.threadFunc i = .loop → connection.closing = true))

/-- The process next to its image, when the map has been cleared of no connection that was
connecting or connected. -/
structure Torn [DecidableEq User] (listenFd : Nat) (openFds : Nat → Bool)
    (shutdown : Shutdown subLoops User) (image : ServerMachine subLoops (Option User))
    (lost : LoopId subLoops → List Functor) (spare : ConnectionId → Nat) : Prop
    extends Mirror listenFd openFds shutdown image lost spare where
  closing : ∀ fd c seen (i : Fin subLoops), image.world.connections_ fd = some c →
    shutdown.machine.world.connections_ fd ≠ some c → image.world.find c = some seen →
      seen.loop_ = some i → shutdown.threadFunc i = .loop → seen.closing = true

section Torn

variable [DecidableEq User] [Fintype User] {listenFd : Nat} {openFds : Nat → Bool}
  {shutdown after : Shutdown subLoops User} {event : ShutdownEvent subLoops User}
  {image view : ServerMachine subLoops (Option User)}
  {lost lostNow : LoopId subLoops → List Functor} {spare spareNow : ConnectionId → Nat}
  {c : ConnectionId} {connection now : TcpConnection (LoopId subLoops)}

theorem Torn.step (torn : Torn listenFd openFds shutdown image lost spare)
    (multi : 0 < subLoops) (destroys : Destroys shutdown event after)
    (clears : ClearsClosing shutdown event) (moves : ImageMoves image view)
    (mirror : Mirror listenFd openFds after view lostNow spareNow) :
    Torn listenFd openFds after view lostNow spareNow := by
  refine ⟨mirror, fun fd c now i entry gone nowFound here looping => ?_⟩
  have stored : image.world.connections_ fd = some c := moves.map ▸ entry
  have wasLooping := destroys.looped looping
  obtain ⟨seen, seenFound, -⟩ := (reachable_owned torn.reachable).entry fd c stored
  have closing (isLoop : seen.loop_ = some i) : seen.closing = true := by
    by_cases kept : shutdown.machine.world.connections_ fd = some c
    · obtain ⟨connection, found, alive, -⟩ := torn.entry_alive multi kept
      obtain ⟨same, sameFound, faded⟩ := torn.isImage.world.found c connection found
      obtain rfl := Option.some.inj (sameFound.symm.trans seenFound)
      rw [faded.loop] at isLoop
      rw [faded.alive alive]
      exact clears c (destroys.dropped torn.sweeping kept gone) connection found i isLoop wasLooping
    · exact torn.closing fd c seen i stored kept seenFound isLoop wasLooping
  rcases moves.moved with rfl | ⟨event, step⟩
  · obtain rfl := Option.some.inj (nowFound.symm.trans seenFound)
    exact closing here
  · obtain ⟨same, _, _, sameFound, turn, -⟩ :=
      reachable_turn torn.reachable step.taken seenFound
    obtain rfl := Option.some.inj (sameFound.symm.trans nowFound)
    exact closing_stays torn.reachable step.taken seenFound nowFound (closing (turn.loop ▸ here))

/-- The destruction has its image throughout. -/
theorem reachable_torn (multi : 0 < subLoops)
    (reachable : ReachableBy (Shutdown.system subLoops User listenFd openFds) ClearsClosing
      shutdown) : ∃ image lost spare, Torn listenFd openFds shutdown image lost spare := by
  refine reachable.invariant (fun shutdown =>
    ∃ image lost spare, Torn listenFd openFds shutdown image lost spare) ?_ ?_
  · intro shutdown initial
    obtain ⟨image, map, mirror⟩ := initial_mirror initial
    exact ⟨image, _, _, mirror, fun fd c _ _ entry gone => absurd (map ▸ entry) gone⟩
  · rintro shutdown event after - ⟨image, lost, spare, torn⟩ clears step
    have destroys := shutdown_cases step
    obtain ⟨view, lostNow, spareNow, mirror, moves, -⟩ := torn.next multi destroys
    exact ⟨view, lostNow, spareNow, torn.step multi destroys clears moves mirror⟩

/-- A connection without owners has been closed, and its loop does not come to it again. -/
theorem Torn.closed (torn : Torn listenFd openFds shutdown image lost spare)
    (multi : 0 < subLoops) {i : Fin subLoops} (looping : shutdown.threadFunc i = .loop)
    (found : shutdown.machine.world.find c = some connection) (destroyed : connection.useCount = 0)
    {seen : TcpConnection (LoopId subLoops)} (seenFound : image.world.find c = some seen)
    (here : seen.loop_ = some i) : 0 < seen.closes ∧
      .channel (.connection c) ∉ (image.loop (some i)).position.active := by
  have counted := torn.counted found
  have unowned (retained : Retained image c (some i)) : False := by
    have intact : shutdown.intact (some i) = true := by
      rw [Shutdown.intact, looping]
      rfl
    have owned := torn.owners_of_retained intact retained
    omega
  by_cases stored : image.world.connections_ seen.fd_ = some c
  · obtain ⟨same, sameFound, faded⟩ := torn.isImage.world.found c connection found
    obtain rfl := Option.some.inj (sameFound.symm.trans seenFound)
    have gone : shutdown.machine.world.connections_ same.fd_ ≠ some c := by
      intro kept
      rw [TcpServer.stored, ← faded.fd, if_pos kept] at counted
      omega
    have closing := torn.closing same.fd_ c same i stored gone seenFound here looping
    have isStored : 0 < image.world.stored c same := by
      rw [TcpServer.stored, if_pos stored]
      exact Nat.one_pos
    exact (retained_of_closing torn.reachable torn.idle seenFound here isStored
      closing).resolve_left unowned
  · have unstored : image.world.stored c seen = 0 := if_neg stored
    refine ⟨(reachable_lively torn.reachable seenFound).unstored unstored, fun ahead => unowned ?_⟩
    exact retained_of_handover torn.reachable ((loopOf_eq seenFound).trans (congrArg some here))
      (reachable_handover multi torn.reachable (active_subset_batch ahead) seenFound unstored)

/-- With sub loops, `~TcpServer` destroys no connection that a sub loop in `loop()` can still
dispatch to, if `connections_.clear()` drops none whose close has not been asked for: the channel
of a connection that is destroyed is in the epoll instance of no such loop and not ahead in its
batch. -/
theorem destroyed_apart (multi : 0 < subLoops)
    (reachable : ReachableBy (Shutdown.system subLoops User listenFd openFds) ClearsClosing
      shutdown) (clears : ClearsClosing shutdown event)
    (step : (Shutdown.system subLoops User listenFd openFds).step shutdown event = some after)
    (found : shutdown.machine.world.find c = some connection) (alive : connection.alive = true)
    (nowFound : after.machine.world.find c = some now) (destroyed : now.alive = false)
    {i : Fin subLoops} (looping : shutdown.threadFunc i = .loop) :
    (∀ fd, (shutdown.machine.world.epoll (some i) fd).map Prod.snd ≠ some (.connection c)) ∧
      .channel (.connection c) ∉ (shutdown.machine.loop (some i)).position.active := by
  have alive : 0 < connection.useCount := of_decide_eq_true alive
  have destroyed : now.useCount = 0 := Nat.eq_zero_of_not_pos (of_decide_eq_false destroyed)
  have changed : after.machine.world ≠ shutdown.machine.world := by
    intro same
    rw [same, found] at nowFound
    obtain rfl := Option.some.inj nowFound
    omega
  obtain ⟨image, lost, spare, torn⟩ := reachable_torn multi reachable
  have destroys := shutdown_cases step
  obtain ⟨view, lostNow, spareNow, mirror, moves, spares⟩ := torn.next multi destroys
  have tornNow := torn.step multi destroys clears moves mirror
  have stays : after.threadFunc i = .loop :=
    (destroys.looping looping).resolve_right fun same => changed (congrArg Machine.world same)
  obtain ⟨seen, seenFound, faded⟩ := torn.isImage.world.found c connection found
  obtain ⟨seenNow, seenNowFound, fadedNow⟩ := mirror.isImage.world.found c now nowFound
  obtain ⟨closes, loop⟩ := torn.closes_of_destroyed mirror moves spares found alive nowFound
    destroyed seenFound seenNowFound
  have closed := tornNow.closed multi stays nowFound destroyed seenNowFound (i := i)
  constructor
  · intro fd registered
    have watched : (image.world.epoll (some i) fd).map Prod.snd = some (.connection c) := by
      obtain ⟨entry, here, pointer⟩ := Option.map_eq_some_iff.mp registered
      rw [torn.isImage.world.epoll (some i) fd entry here]
      exact congrArg some pointer
    obtain ⟨same, sameFound, isLoop, -, added⟩ :=
      (reachable_wired torn.reachable).registrant watched
    obtain rfl := Option.some.inj (sameFound.symm.trans seenFound)
    have wasClosed := (closed (loop.trans isLoop)).1
    rcases (reachable_lively torn.reachable seenFound).channel with ⟨-, -, -, opened⟩ | ⟨fresh, -⟩
    · omega
    · cases added.symm.trans fresh
  · intro ahead
    have ahead := (destroys.ahead looping ahead).resolve_right changed
    have position : (view.loop (some i)).position = (after.machine.loop (some i)).position := by
      rw [mirror.isImage.loop]
      rfl
    rw [← position] at ahead
    have here : view.world.loopOf c = some (some i) :=
      (reachable_server_placed mirror.reachable).batch (some i) _ (active_subset_batch ahead)
    have isLoop := Option.some.inj ((loopOf_eq seenNowFound).symm.trans here)
    exact (closed isLoop).2 ahead

end Torn

/-! ### Runs of the destruction -/

/-- A run of the destruction, from where the server's run `labels` ends. -/
theorem destruction_of_replay {guard : Guard (Shutdown subLoops Unit) (ShutdownEvent subLoops Unit)}
    [∀ shutdown event, Decidable (guard shutdown event)]
    (labels : List (ServerEvent subLoops Unit)) (events : List (ShutdownEvent subLoops Unit))
    {property : Shutdown subLoops Unit → Prop} [DecidablePred property]
    (holds : (replay (TcpServer.system subLoops Unit 3 fun _ => false) anyStep
      (.start (.started subLoops 3 fun _ => false)) labels).any (fun machine =>
        machine.outside mainThread ∧ machine.stack mainThread = [] ∧
        (machine.world.connections.map TcpConnection.fd_).Nodup ∧
        (replay (Shutdown.system subLoops Unit 3 fun _ => false) guard
          { machine := machine
            threadFunc := fun _ => .loop
            destructor := .sweep [] ((machine.world.connections.map TcpConnection.fd_).filter
              fun fd => (machine.world.connections_ fd).isSome) } events).any property) = true) :
    ∃ shutdown, ReachableBy (Shutdown.system subLoops Unit 3 fun _ => false) guard shutdown ∧
      property shutdown := by
  obtain ⟨machine, served, checked⟩ := (Option.any_eq_true _ _).mp holds
  obtain ⟨left, empty, distinct, swept⟩ := of_decide_eq_true checked
  obtain ⟨shutdown, returned, reached⟩ := (Option.any_eq_true _ _).mp swept
  have reachable : Reachable (TcpServer.system subLoops Unit 3 fun _ => false) machine :=
    reachableBy_of_replay labels (.start rfl) served
  refine ⟨shutdown, reachableBy_of_replay events (.start ⟨reachable, position_of_outside left,
    empty, fun _ => rfl, _, rfl, distinct.filter _, fun fd => ?_⟩) returned,
    of_decide_eq_true reached⟩
  rw [List.mem_filter]
  refine ⟨And.right, fun stored => ⟨?_, stored⟩⟩
  obtain ⟨c, entry⟩ := Option.isSome_iff_exists.mp stored
  obtain ⟨connection, found, rfl⟩ := (reachable_owned reachable).entry fd c entry
  exact List.mem_map_of_mem (List.mem_of_getElem? found)

/-- The base loop erases the entry of a closed connection and quits; the sub loop destroys the
connection, with the functor that handed it over, when the main thread has cleared the map. Or the
base loop quits while the connection is being closed, and it goes with its entry. -/
theorem destroyed_apart_closed :
    (∃ shutdown after : Shutdown 1 Unit,
      (Shutdown.system 1 Unit 3 fun _ => false).step shutdown (.process (moves (some 0))) =
          some after ∧
        (shutdown.machine.world.find 0).map TcpConnection.alive = some true ∧
        (after.machine.world.find 0).map TcpConnection.alive = some false ∧
        shutdown.threadFunc 0 = .loop ∧
        (∀ fd, (shutdown.machine.world.epoll (some 0) fd).map Prod.snd ≠ some (.connection 0)) ∧
          .channel (.connection 0) ∉ (shutdown.machine.loop (some 0)).position.active) ∧
      ∃ shutdown after : Shutdown 1 Unit,
        (Shutdown.system 1 Unit 3 fun _ => false).step shutdown .destructor = some after ∧
          shutdown.clears .destructor = some 0 ∧
          (after.machine.world.find 0).map TcpConnection.alive = some false ∧
          (∀ fd, (shutdown.machine.world.epoll (some 0) fd).map Prod.snd ≠ some (.connection 0)) ∧
            .channel (.connection 0) ∉ (shutdown.machine.loop (some 0)).position.active := by
  constructor
  · have destroys : ∃ shutdown,
        ReachableBy (Shutdown.system 1 Unit 3 fun _ => false) ClearsClosing shutdown ∧
        (ClearsClosing shutdown (.process (moves (some 0))) ∧ shutdown.threadFunc 0 = .loop) ∧
        ∃ connection ∈ shutdown.machine.world.find 0, connection.alive = true ∧
          ∃ after ∈ (Shutdown.system 1 Unit 3 fun _ => false).step shutdown
              (.process (moves (some 0))),
            ∃ now ∈ after.machine.world.find 0, now.alive = false :=
      destruction_of_replay
        ((acceptRun ++ registration ++ endOfStream 10 ++ removal 3).take 58 ++ leaves)
        (List.replicate 2 .destructor ++ (((acceptRun ++ registration ++ endOfStream 10 ++
          removal 3).take 72).drop 59).map .process) (by decide)
    obtain ⟨shutdown, reachable, ⟨clears, looping⟩, connection, found, alive, after, step, now,
      nowFound, destroyed⟩ := destroys
    have found : shutdown.machine.world.find 0 = some connection := found
    have nowFound : after.machine.world.find 0 = some now := nowFound
    exact ⟨shutdown, after, step, by rw [found, Option.map_some, alive],
      by rw [nowFound, Option.map_some, destroyed], looping,
      destroyed_apart Nat.one_pos reachable clears step found alive nowFound destroyed looping⟩
  · have destroys : ∃ shutdown,
        ReachableBy (Shutdown.system 1 Unit 3 fun _ => false) ClearsClosing shutdown ∧
        (ClearsClosing shutdown .destructor ∧ shutdown.threadFunc 0 = .loop ∧
          shutdown.clears .destructor = some 0) ∧
        ∃ connection ∈ shutdown.machine.world.find 0, connection.alive = true ∧
          ∃ after ∈ (Shutdown.system 1 Unit 3 fun _ => false).step shutdown .destructor,
            ∃ now ∈ after.machine.world.find 0, now.alive = false :=
      destruction_of_replay (acceptRun.dropLast ++ registration ++ endOfStream 2 ++ leaves)
        (.destructor :: List.replicate 3 (.process (steps mainThread)) ++ [.destructor])
        (by decide)
    obtain ⟨shutdown, reachable, ⟨clears, looping, drops⟩, connection, found, alive, after, step,
      now, nowFound, destroyed⟩ := destroys
    have nowFound : after.machine.world.find 0 = some now := nowFound
    exact ⟨shutdown, after, step, drops, by rw [nowFound, Option.map_some, destroyed],
      destroyed_apart Nat.one_pos reachable clears step found alive nowFound destroyed looping⟩

/-- The registration of a connection is still queued when the main thread calls `forceClose` on it
and drops its entry. The sub loop registers the channel, and destroys the connection with the
functor of the registration. -/
theorem destroyed_registered : ∃ shutdown after : Shutdown 1 Unit,
    Reachable (Shutdown.system 1 Unit 3 fun _ => false) shutdown ∧
      (Shutdown.system 1 Unit 3 fun _ => false).step shutdown (.process (moves (some 0))) =
        some after ∧
      (shutdown.machine.world.find 0).map TcpConnection.alive = some true ∧
      (after.machine.world.find 0).map TcpConnection.alive = some false ∧
      shutdown.threadFunc 0 = .loop ∧
      (shutdown.machine.world.epoll (some 0) 7).map Prod.snd = some (.connection 0) := by
  have destroys : ∃ shutdown, Reachable (Shutdown.system 1 Unit 3 fun _ => false) shutdown ∧
      (shutdown.threadFunc 0 = .loop ∧
        (shutdown.machine.world.find 0).map TcpConnection.alive = some true ∧
        (shutdown.machine.world.epoll (some 0) 7).map Prod.snd = some (.connection 0)) ∧
      ∃ after ∈ (Shutdown.system 1 Unit 3 fun _ => false).step shutdown
          (.process (moves (some 0))),
        (after.machine.world.find 0).map TcpConnection.alive = some false :=
    destruction_of_replay (acceptRun.dropLast ++ leaves)
      (.destructor :: List.replicate 3 (.process (steps mainThread)) ++
        List.replicate 2 .destructor ++ (registration.take 9).map .process) (by decide)
  obtain ⟨shutdown, reachable, ⟨looping, alive, registered⟩, after, step, destroyed⟩ := destroys
  exact ⟨shutdown, after, reachable, step, alive, destroyed, looping, registered⟩

end MultiReactor
