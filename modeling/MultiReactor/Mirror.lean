/-
This file runs an ordinary server next to one that is being destroyed. What the
main thread does in `~TcpServer` a user thread could do: it calls `forceClose`
on each connection and tells the sub loops to quit. In the *image* a further
user thread does so while the base loop rests, the map keeps its entries, and
the functors that die with a loop stay in its queue. The image is an ordinary
run of the server, and whatever is proved about those holds of it. The two
differ in the owners of the connections, and their difference is known.
-/

import MultiReactor.Fading
import MultiReactor.Handover
import MultiReactor.Renaming
import MultiReactor.Sweep

namespace MultiReactor

open Transition

variable {subLoops : Nat} {User : Type}

/-! ### One more user -/

/-- A thread among the threads with one more user. -/
def Thread.widen {Loop : Type} : Thread Loop User → Thread Loop (Option User)
  | .loop l => .loop l
  | .user t => .user (some t)

/-- The thread that does in the image what a thread does: the further user does it for the main
thread. -/
def Thread.standIn : Thread (LoopId subLoops) User → Thread (LoopId subLoops) (Option User)
  | .loop none => .user none
  | .loop (some i) => .loop (some i)
  | .user t => .user (some t)

theorem widen_injective {Loop : Type} :
    Function.Injective (Thread.widen : Thread Loop User → Thread Loop (Option User)) := by
  intro first second same
  cases first <;> cases second <;> cases same <;> rfl

theorem standIn_injective : Function.Injective
    (Thread.standIn : Thread (LoopId subLoops) User → Thread (LoopId subLoops) (Option User)) := by
  intro first second same
  rcases first with (_ | i) | t <;> rcases second with (_ | j) | u <;> cases same <;> rfl

/-- Nobody does anything for the base loop. -/
theorem standIn_ne_base (thread : Thread (LoopId subLoops) User) :
    thread.standIn ≠ .loop baseLoop := by
  rcases thread with (_ | i) | t <;> exact fun same => by cases same

/-- Which user begins a call makes no difference. -/
theorem begin_user {Other : Type} (t : User) (other : Other) (input : Input subLoops)
    (server : TcpServer subLoops) : TcpServer.begin (.user t) input server =
      TcpServer.begin (.user other) input server := by
  rcases input with result | result | mask | call
  · rfl
  · rfl
  · rfl
  · cases call <;> rfl

/-- Only user threads begin calls. -/
theorem begin_isUser {thread : Thread (LoopId subLoops) User} {input : Input subLoops}
    {server : TcpServer subLoops}
    {begun : TcpServer subLoops × List (Call (LoopId subLoops) Functor ServerCode)}
    (begins : TcpServer.begin thread input server = some begun) : ∃ t, thread = .user t := by
  cases thread with
  | loop l => cases begins
  | user t => exact ⟨t, rfl⟩

section Users

variable [DecidableEq User] {listenFd : Nat} {openFds : Nat → Bool}
  {machine : ServerMachine subLoops User}

/-- A further user that does nothing makes no difference. -/
theorem reachable_widen
    (reachable : Reachable (TcpServer.system subLoops User listenFd openFds) machine) :
    ∃ image, Reachable (TcpServer.system subLoops (Option User) listenFd openFds) image ∧
      Image Thread.widen Eq (fun _ => []) machine image := by
  refine reachable.invariant (fun machine => ∃ image,
    Reachable (TcpServer.system subLoops (Option User) listenFd openFds) image ∧
      Image Thread.widen Eq (fun _ => []) machine image) ?_ ?_
  · rintro _ rfl
    exact ⟨_, .start rfl, rfl, fun _ => rfl, fun _ => rfl, fun _ _ => rfl⟩
  · rintro machine event after _ ⟨image, before, isImage⟩ - step
    have tracks : Tracks (TcpServer.client subLoops User) (TcpServer.client subLoops (Option User))
        Thread.widen Eq machine image := by
      obtain ⟨world, -, -, -⟩ := isImage
      refine ⟨?_, ?_, fun _ => rfl, fun _ => rfl, ?_, ?_, ?_, ?_⟩
      · intro thread body rest input result calls _ executed
        exact ⟨result, world ▸ executed, rfl⟩
      · intro thread l cb rest _
        cases thread with
        | loop m => exact ⟨fun same => congrArg _ (Thread.loop.inj same),
            fun same => congrArg _ (Thread.loop.inj same)⟩
        | user t => exact ⟨fun same => (by cases same), fun same => by cases same⟩
      · intro thread l cb rest _
        rw [world]
        rfl
      · intro cb _
        rw [world]
        rfl
      · intro l active input result polled
        exact ⟨result, world ▸ polled, rfl⟩
      · intro thread input result calls begun
        obtain ⟨t, rfl⟩ := begin_isUser begun
        exact ⟨rfl, result, world ▸ (begin_user t (some t) ..).symm.trans begun, rfl⟩
    have spares : Spares Thread.widen (fun _ => []) machine event := by
      cases event with
      | run thread input => exact fun _ _ => rfl
      | advance l active input => exact ⟨rfl, rfl⟩
      | begin thread input => trivial
    obtain ⟨seen, taken, seenImage⟩ :=
      isImage.step widen_injective tracks spares (step_cases step)
    exact ⟨seen, .next before trivial taken.taken, seenImage⟩

end Users

/-! ### The image of a server that is being destroyed -/

/-- The number of functors that hold a connection among those that died with their loops. -/
def lostOwners (lost : LoopId subLoops → List Functor) (c : ConnectionId) : Nat :=
  ∑ l, (lost l).countP fun cb => owner c (.queued cb)

/-- An ordinary run of the server has come to the image of this state. `lost` are the functors that
died with their loops, and `spare` counts the owners a connection has in the image only: the map's
entry, where it has been dropped, and the functors lost. -/
structure Mirror [DecidableEq User] (listenFd : Nat) (openFds : Nat → Bool)
    (shutdown : Shutdown subLoops User) (image : ServerMachine subLoops (Option User))
    (lost : LoopId subLoops → List Functor) (spare : ConnectionId → Nat) : Prop where
  reachable : Reachable (TcpServer.system subLoops (Option User) listenFd openFds) image
  isImage : Image Thread.standIn (Fades spare) lost shutdown.machine image
  entries : ∀ fd c, shutdown.machine.world.connections_ fd = some c →
    image.world.connections_ fd = some c
  stored : ∀ fd c, image.world.connections_ fd = some c → spare c =
    lostOwners lost c + if shutdown.machine.world.connections_ fd = some c then 0 else 1
  unstored : ∀ c, (∀ fd, image.world.connections_ fd ≠ some c) → spare c = lostOwners lost c
  intact : ∀ l, shutdown.intact l = true → lost l = []
  sweeping : Sweeping shutdown.machine
  base : (shutdown.machine.loop baseLoop).position = .outside

section Mirror

variable [DecidableEq User] {listenFd : Nat} {openFds : Nat → Bool}
  {shutdown after : Shutdown subLoops User} {image : ServerMachine subLoops (Option User)}
  {lost : LoopId subLoops → List Functor} {spare : ConnectionId → Nat} {c : ConnectionId}
  {connection : TcpConnection (LoopId subLoops)}

/-- Nobody does anything for the base loop in the image. -/
theorem Mirror.idle (mirror : Mirror listenFd openFds shutdown image lost spare) :
    image.stack (.loop baseLoop) = [] :=
  mirror.isImage.idle _ standIn_ne_base

/-- A connection of the image. -/
theorem Mirror.found (mirror : Mirror listenFd openFds shutdown image lost spare)
    {seen : TcpConnection (LoopId subLoops)} (seenFound : image.world.find c = some seen) :
    ∃ connection, shutdown.machine.world.find c = some connection ∧
      Faded (spare c) connection seen := by
  cases found : shutdown.machine.world.find c with
  | none => cases (mirror.isImage.world.missing c found).symm.trans seenFound
  | some connection =>
    obtain ⟨same, sameFound, faded⟩ := mirror.isImage.world.found c connection found
    obtain rfl := Option.some.inj (sameFound.symm.trans seenFound)
    exact ⟨connection, rfl, faded⟩

section Counts

variable [Fintype User]

/-- The image's owners of a connection are those it has and those that were lost. -/
theorem Mirror.owners_eq (mirror : Mirror listenFd openFds shutdown image lost spare)
    (c : ConnectionId) : owners image c = owners shutdown.machine c + lostOwners lost c :=
  mirror.isImage.tally_eq standIn_injective (owner c)

/-- The counts of the server that is being destroyed are right. -/
theorem Mirror.counted (mirror : Mirror listenFd openFds shutdown image lost spare)
    (found : shutdown.machine.world.find c = some connection) :
    connection.useCount =
      owners shutdown.machine c + shutdown.machine.world.stored c connection := by
  obtain ⟨seen, seenFound, faded⟩ := mirror.isImage.world.found c connection found
  have owned := reachable_owned mirror.reachable
  have counted := owned.counted c seen seenFound
  rw [faded.useCount, mirror.owners_eq, TcpServer.stored, faded.fd] at counted
  rw [TcpServer.stored]
  by_cases entry : image.world.connections_ connection.fd_ = some c
  · have spares := mirror.stored connection.fd_ c entry
    rw [if_pos entry] at counted
    split at spares <;> rename_i kept
    · rw [if_pos kept]
      omega
    · rw [if_neg kept]
      omega
  · have spares := mirror.unstored c fun fd other => entry <| by
      obtain ⟨same, sameFound, isFd⟩ := owned.entry fd c other
      obtain rfl := Option.some.inj (sameFound.symm.trans seenFound)
      rw [← faded.fd, isFd, other]
    rw [if_neg entry] at counted
    rw [if_neg fun kept => entry (mirror.entries _ c kept)]
    omega

/-- What has an owner is alive. -/
theorem Mirror.alive (mirror : Mirror listenFd openFds shutdown image lost spare)
    (held : 0 < owners shutdown.machine c) :
    ∃ connection, shutdown.machine.world.find c = some connection ∧
      0 < connection.useCount := by
  cases found : shutdown.machine.world.find c with
  | none =>
    have unborn := (reachable_owned mirror.reachable).unborn c
      (mirror.isImage.world.missing c found)
    rw [mirror.owners_eq] at unborn
    omega
  | some connection =>
    refine ⟨connection, rfl, ?_⟩
    rw [mirror.counted found]
    omega

/-- A functor on a stack, or a statement that ends a shared_ptr's life, owns its connection. -/
theorem Mirror.alive_of_stack (mirror : Mirror listenFd openFds shutdown image lost spare)
    {thread : Thread (LoopId subLoops) User}
    {instruction : Instruction (LoopId subLoops) Functor ServerCode}
    {rest : List (Instruction (LoopId subLoops) Functor ServerCode)} {item : ServerItem}
    (top : shutdown.machine.stack thread = instruction :: rest)
    (member : item ∈ instruction.items) (owns : owner c item = true) :
    ∃ connection, shutdown.machine.world.find c = some connection ∧
      0 < connection.useCount := by
  refine mirror.alive (tally_pos_of_stack thread ?_ owns)
  rw [top, stackItems_cons]
  exact List.mem_append_left _ member

/-! ### Steps of the process -/

/-- The map of the server, and the map of its image. -/
abbrev MirrorShadows (shutdown : Shutdown subLoops User)
    (image : ServerMachine subLoops (Option User)) (spare : ConnectionId → Nat) :
    TcpServer subLoops → TcpServer subLoops → Prop :=
  Shadows spare shutdown.machine.world.connections_ image.world.connections_

/-- What the code of the server does, the code of the image does. -/
theorem Mirror.tracks (mirror : Mirror listenFd openFds shutdown image lost spare) :
    Tracks (TcpServer.client subLoops User) (TcpServer.client subLoops (Option User))
      Thread.standIn (MirrorShadows shutdown image spare) shutdown.machine image := by
  have shadows : MirrorShadows shutdown image spare shutdown.machine.world image.world :=
    ⟨mirror.isImage.world, rfl, rfl⟩
  have placed := reachable_server_placed mirror.reachable
  refine ⟨?_, ?_, fun _ => rfl, fun _ => rfl, ?_, ?_, ?_, ?_⟩
  · intro thread body rest input world calls top executed
    -- whatever belongs on the base loop's thread is not there
    have seenTop := placed.top ((mirror.isImage.stack thread).trans top)
    refine shadows.execute (reachable_wired mirror.reachable) (reachable_owned mirror.reachable)
      ?_ (fun c isRelease => ?_) executed
    · cases body with
      | connection c body => rfl
      | removeConnection c => rfl
      | release c => rfl
      | _ => exact absurd seenTop (standIn_ne_base thread)
    · subst isRelease
      exact mirror.alive_of_stack top (List.mem_singleton_self _) ((owner_release c c).mpr rfl)
  · intro thread l cb rest top
    rcases thread with (_ | i) | t
    · refine ⟨fun same => (by cases same), fun same => ?_⟩
      obtain rfl := Thread.loop.inj same
      have sweeps : Sweeps shutdown.machine.world (.call (.runInLoop baseLoop cb)) :=
        mirror.sweeping.main _ (by rw [top]; exact List.mem_cons_self)
      exact absurd rfl sweeps
    · exact ⟨fun same => congrArg _ (Thread.loop.inj same),
        fun same => congrArg _ (Thread.loop.inj same)⟩
    · exact ⟨fun same => (by cases same), fun same => by cases same⟩
  · intro thread l cb rest top
    obtain ⟨connection, found, alive⟩ := mirror.alive_of_stack top (List.mem_singleton_self _)
      ((owner_queued cb.connection cb).mpr rfl)
    exact shadows.share found alive
  · intro cb place
    have held : 0 < owners shutdown.machine cb.connection := by
      rcases place with ⟨thread, rest, top⟩ | ⟨l, rest, active, place⟩
      · refine tally_pos_of_stack thread ?_ ((owner_spent cb.connection cb).mpr rfl)
        rw [top, stackItems_cons]
        exact List.mem_cons_self
      · refine tally_pos_of_loop l (List.mem_append_right _ ?_)
          ((owner_spent cb.connection cb).mpr rfl)
        rw [place]
        exact List.mem_cons_self
    obtain ⟨connection, found, alive⟩ := mirror.alive held
    exact shadows.release found alive
  · intro l active input world polled
    exact shadows.poll polled
  · intro thread input world calls begun
    obtain ⟨t, rfl⟩ := begin_isUser begun
    exact ⟨rfl, shadows.begin (some t) begun⟩

omit [Fintype User] in
/-- A step that the process can take touches no loop that has lost functors, and moves none but
the sub loops. -/
theorem Mirror.permitted (mirror : Mirror listenFd openFds shutdown image lost spare)
    {event : ServerEvent subLoops User} (permitted : shutdown.permits event = true) :
    Spares Thread.standIn lost shutdown.machine event := by
  cases event with
  | run thread input =>
    intro l accessed
    exact mirror.intact l ((Option.all_eq_true _ _).mp permitted l accessed)
  | advance l active input =>
    cases l with
    | none => cases permitted
    | some i =>
      have place : shutdown.threadFunc i = .loop := of_decide_eq_true permitted
      refine ⟨mirror.intact (some i) ?_, rfl⟩
      rw [Shutdown.intact, place]
      rfl
  | begin thread input => trivial

/-- The image stands still or takes a step, and it keeps its map. -/
structure ImageMoves (image view : ServerMachine subLoops (Option User)) : Prop where
  moved : view = image ∨ ∃ event, Step (TcpServer.client subLoops (Option User)) image event view
  map : view.world.connections_ = image.world.connections_

/-- A step of the process is a step of the image. -/
theorem Mirror.process (mirror : Mirror listenFd openFds shutdown image lost spare)
    {event : ServerEvent subLoops User} {machine : ServerMachine subLoops User}
    (permitted : shutdown.permits event = true)
    (step : Step (TcpServer.client subLoops User) shutdown.machine event machine) :
    ∃ view, ImageMoves image view ∧
      Mirror listenFd openFds (shutdown.setMachine machine) view lost spare := by
  have shadowed : Image Thread.standIn (MirrorShadows shutdown image spare) lost shutdown.machine
      image := mirror.isImage.relate ⟨mirror.isImage.world, rfl, rfl⟩
  obtain ⟨seen, seenStep, seenImage⟩ :=
    shadowed.step standIn_injective mirror.tracks (mirror.permitted permitted) step
  have outside : ∀ active input, event ≠ .advance baseLoop active input := by
    rintro active input rfl
    cases permitted
  obtain ⟨fades, entries, seenEntries⟩ := seenImage.world
  have entries : machine.world.connections_ = shutdown.machine.world.connections_ := entries
  refine ⟨seen, ⟨.inr ⟨_, seenStep⟩, seenEntries⟩, .next mirror.reachable trivial seenStep.taken,
    seenImage.relate fades, fun fd c entry => ?_, fun fd c entry => ?_, fun c none => ?_,
    mirror.intact, mirror.sweeping.step step outside,
    (step_position step outside).trans mirror.base⟩
  · rw [seenEntries]
    exact mirror.entries fd c (entries ▸ entry)
  · rw [seenEntries] at entry
    exact (mirror.stored fd c entry).trans (by rw [← entries]; rfl)
  · exact mirror.unstored c fun fd => seenEntries ▸ none fd

/-! ### Steps of a sub loop's thread in `threadFunc` -/

omit [Fintype User] in
/-- A step that leaves the process alone. -/
theorem Mirror.still (mirror : Mirror listenFd openFds shutdown image lost spare)
    (machine : after.machine = shutdown.machine)
    (intact : ∀ l, after.intact l = true → shutdown.intact l = true) :
    Mirror listenFd openFds after image lost spare := by
  obtain ⟨reachable, isImage, entries, stored, unstored, held, sweeping, base⟩ := mirror
  rw [← machine] at isImage entries stored sweeping base
  exact ⟨reachable, isImage, entries, stored, unstored, fun l here => held l (intact l here),
    sweeping, base⟩

omit [DecidableEq User] [Fintype User] in
/-- The thread of a sub loop comes to another place, where its `EventLoop` exists only if it did
before. -/
theorem intact_setThread {i : Fin subLoops} {place : ThreadFunc}
    (moved : place.intact = true → (shutdown.threadFunc i).intact = true) (l : LoopId subLoops)
    (intact : (shutdown.setThread i place).intact l = true) : shutdown.intact l = true := by
  cases l with
  | none => rfl
  | some j =>
    by_cases same : j = i
    · subst same
      have here : (shutdown.setThread j place).threadFunc j = place := Function.update_self ..
      exact moved (here ▸ intact)
    · have elsewhere : (shutdown.setThread i place).threadFunc j = shutdown.threadFunc j :=
        Function.update_of_ne same ..
      exact (congrArg ThreadFunc.intact elsewhere).symm.trans intact

/-- A functor dies with its loop: it counts as lost, and its owner as one the image has left. -/
theorem lostOwners_append (lost : LoopId subLoops → List Functor) (l : LoopId subLoops)
    (cb : Functor) (c : ConnectionId) :
    lostOwners (Function.update lost l (lost l ++ [cb])) c =
      lostOwners lost c + if c = cb.connection then 1 else 0 := by
  have moved := Ledger.sum_update
    (fun _ (each : List Functor) => each.countP fun cb => owner c (.queued cb)) lost l
    (lost l ++ [cb])
  rw [List.countP_append, List.countP_singleton] at moved
  unfold lostOwners
  simp only [owner_queued] at moved ⊢
  omega

/-- What `~EventLoop` destroys, the image keeps. -/
theorem Mirror.destroyLoop (mirror : Mirror listenFd openFds shutdown image lost spare)
    {i : Fin subLoops} (place : shutdown.threadFunc i = .destroy) :
    ∃ lostNow spareNow,
      Mirror listenFd openFds (shutdown.destroyLoop i) image lostNow spareNow := by
  have sweeping := (destroyLoop_sweeping mirror.sweeping (i := i)).1
  cases queue : (shutdown.machine.loop (some i)).pendingFunctors_ with
  | nil =>
    have destroyed : shutdown.destroyLoop i = (shutdown.setMachine (shutdown.machine.setWorld
        (shutdown.machine.world.setEpoll (some i) fun _ => none))).setThread i .returned := by
      simp only [Shutdown.destroyLoop, queue]
    rw [destroyed] at sweeping ⊢
    have fades : Fades spare (shutdown.machine.world.setEpoll (some i) fun _ => none)
        image.world := by
      refine mirror.isImage.world.fewer (fun _ => rfl) rfl fun l fd entry registered => ?_
      have registered : Function.update shutdown.machine.world.epoll (some i) (fun _ => none) l fd =
        some entry := registered
      by_cases here : l = some i
      · rw [here, Function.update_self] at registered
        cases registered
      · rwa [Function.update_of_ne here] at registered
    refine ⟨lost, spare, mirror.reachable, mirror.isImage.setWorld fades, mirror.entries,
      mirror.stored, mirror.unstored, fun l intact => ?_, sweeping, mirror.base⟩
    exact mirror.intact l (intact_setThread (fun here => by cases here) l intact)
  | cons cb rest =>
    have destroyed : shutdown.destroyLoop i = shutdown.setMachine ((shutdown.machine.setWorld
        (shutdown.machine.world.release cb.connection)).setLoop (some i)
          { shutdown.machine.loop (some i) with pendingFunctors_ := rest }) := by
      simp only [Shutdown.destroyLoop, queue]
    rw [destroyed] at sweeping ⊢
    have held : 0 < owners shutdown.machine cb.connection := by
      refine tally_pos_of_loop (some i) (List.mem_append_left _ ?_)
        ((owner_queued cb.connection cb).mpr rfl)
      rw [queue]
      exact List.mem_cons_self
    obtain ⟨connection, found, alive⟩ := mirror.alive held
    have map := (release_members shutdown.machine.world cb.connection found).1
    have counts (c : ConnectionId) :
        Function.update spare cb.connection (spare cb.connection + 1) c +
          lostOwners lost c = spare c +
            lostOwners (Function.update lost (some i) (lost (some i) ++ [cb])) c := by
      rw [lostOwners_append]
      by_cases same : c = cb.connection
      · rw [if_pos same, same, Function.update_self]
        omega
      · rw [if_neg same, Function.update_of_ne same]
        omega
    refine ⟨Function.update lost (some i) (lost (some i) ++ [cb]),
      Function.update spare cb.connection (spare cb.connection + 1), mirror.reachable,
      ⟨mirror.isImage.world.lose found alive, fun l => ?_, mirror.isImage.stack,
        mirror.isImage.idle⟩, fun fd c entry => mirror.entries fd c (map ▸ entry),
      fun fd c entry => ?_, fun c none => ?_, fun l intact => ?_, sweeping, ?_⟩
    · by_cases here : l = some i
      · subst here
        have loop : (((shutdown.machine.setWorld _).setLoop (some i)
            { shutdown.machine.loop (some i) with pendingFunctors_ := rest }).loop (some i)) =
            { shutdown.machine.loop (some i) with pendingFunctors_ := rest } :=
          setLoop_loop_self (shutdown.machine.setWorld
            (shutdown.machine.world.release cb.connection)) (some i) _
        rw [mirror.isImage.loop, Function.update_self]
        refine Eq.trans ?_ (congrArg (EventLoop.restore · _) loop.symm)
        simp only [EventLoop.restore, queue, List.append_assoc, List.singleton_append]
      · rw [mirror.isImage.loop, Function.update_of_ne here]
        exact congrArg (EventLoop.restore · _) (setLoop_loop_of_ne _ _ here).symm
    · have before := mirror.stored fd c entry
      have after := counts c
      show _ = _ + if (shutdown.machine.world.release cb.connection).connections_ fd = some c
        then 0 else 1
      rw [map]
      omega
    · have before := mirror.unstored c none
      have after := counts c
      omega
    · have elsewhere : l ≠ some i := by
        rintro rfl
        have intact : (shutdown.threadFunc i).intact = true := intact
        rw [place] at intact
        cases intact
      rw [Function.update_of_ne elsewhere]
      exact mirror.intact l intact
    · have elsewhere : (baseLoop : LoopId subLoops) ≠ some i := fun same => by cases same
      exact (congrArg EventLoop.position (setLoop_loop_of_ne _ _ elsewhere)).trans mirror.base

/-! ### Steps of the main thread in `~TcpServer` -/

/-- The connection of an entry of the map is alive, and lives on a sub loop. -/
theorem Mirror.entry_alive (mirror : Mirror listenFd openFds shutdown image lost spare)
    (multi : 0 < subLoops) {fd : Nat}
    (entry : shutdown.machine.world.connections_ fd = some c) :
    ∃ connection, shutdown.machine.world.find c = some connection ∧ 0 < connection.useCount ∧
      connection.fd_ = fd ∧ ∃ i : Fin subLoops, connection.loop_ = some i := by
  obtain ⟨seen, seenFound, isFd⟩ :=
    (reachable_owned mirror.reachable).entry fd c (mirror.entries fd c entry)
  obtain ⟨connection, found, faded⟩ := mirror.found seenFound
  have sameFd : connection.fd_ = fd := faded.fd ▸ isFd
  refine ⟨connection, found, ?_, sameFd, ?_⟩
  · rw [mirror.counted found, TcpServer.stored, sameFd, if_pos entry]
    exact Nat.succ_pos _
  · have sub := reachable_loop_ne_base multi mirror.reachable seenFound
    rw [faded.loop] at sub
    exact Option.ne_none_iff_exists'.mp sub

omit [Fintype User] in
/-- What the main thread calls, the further user calls. -/
theorem Mirror.begin (mirror : Mirror listenFd openFds shutdown image lost spare)
    {input : Input subLoops} {world seen : TcpServer subLoops}
    {calls : List (Call (LoopId subLoops) Functor ServerCode)}
    (empty : shutdown.machine.stack mainThread = [])
    (begun : TcpServer.begin (.user (none : Option User)) input image.world = some (seen, calls))
    (fades : Fades spare world seen)
    (entries : world.connections_ = shutdown.machine.world.connections_)
    (seenEntries : seen.connections_ = image.world.connections_)
    (sweeping : Sweeping ((shutdown.machine.setWorld world).setStack mainThread
      (calls.map .call))) :
    ∃ view, ImageMoves image view ∧
      Mirror listenFd openFds (shutdown.setMachine ((shutdown.machine.setWorld world).setStack
        mainThread (calls.map .call))) view lost spare := by
  have step : Step (TcpServer.client subLoops (Option User)) image (.begin (.user none) input)
      ((image.setWorld seen).setStack (.user none) (calls.map .call)) :=
    .begin (.user none) input seen calls ((mirror.isImage.stack mainThread).trans empty) rfl begun
  have taken : (TcpServer.system subLoops (Option User) listenFd openFds).step image
      (.begin (.user none) input) = some _ := step.taken
  refine ⟨_, ⟨.inr ⟨_, step⟩, seenEntries⟩, .next mirror.reachable trivial taken,
    (mirror.isImage.setWorld fades).setStack standIn_injective mainThread _, fun fd c entry => ?_,
    fun fd c entry => ?_, fun c none => ?_, mirror.intact, sweeping, mirror.base⟩
  · exact seenEntries ▸ mirror.entries fd c (entries ▸ entry)
  · refine (mirror.stored fd c (seenEntries ▸ entry)).trans ?_
    rw [← entries]
    rfl
  · exact mirror.unstored c fun fd same => none fd (seenEntries ▸ same)

/-- The sweep calls `forceClose` on an entry. -/
theorem Mirror.visit (mirror : Mirror listenFd openFds shutdown image lost spare)
    (multi : 0 < subLoops) {fd : Nat}
    (entry : shutdown.machine.world.connections_ fd = some c)
    (empty : shutdown.machine.stack mainThread = []) :
    ∃ view, ImageMoves image view ∧
      Mirror listenFd openFds (shutdown.visit c) view lost spare := by
  obtain ⟨connection, found, alive, -, i, isLoop⟩ := mirror.entry_alive multi entry
  have live : image.world.live c = some (connection.more (spare c)) :=
    live_eq_some.mpr ⟨mirror.isImage.world.same found alive, Nat.add_pos_left alive _⟩
  have begun : TcpServer.begin (.user (none : Option User)) (.user (.forceClose c)) image.world =
      some (image.world.share c, [.code (.connection c .forceClose), .code (.release c)]) := by
    rw [TcpServer.begin, live]
    rfl
  exact mirror.begin empty begun (mirror.isImage.world.share found alive) rfl rfl
    (visit_sweeping mirror.sweeping ((loopOf_eq found).trans (congrArg some isLoop)))

omit [Fintype User] in
/-- `quit()` of a sub loop. -/
theorem Mirror.quitThread (mirror : Mirror listenFd openFds shutdown image lost spare)
    (i : Fin subLoops) (empty : shutdown.machine.stack mainThread = []) :
    ∃ view, ImageMoves image view ∧
      Mirror listenFd openFds (shutdown.quitThread i) view lost spare := by
  have sweeping : Sweeping ((shutdown.machine.setWorld shutdown.machine.world).setStack
      mainThread [.call (.quit (some i))]) := by
    refine ⟨mirror.sweeping.placed.setStack fun instruction member => ?_,
      mirror.sweeping.pointed, fun instruction member => ?_⟩
    · obtain rfl := List.mem_singleton.mp member
      trivial
    · rw [setStack_stack_self] at member
      obtain rfl := List.mem_singleton.mp member
      trivial
  have begun : TcpServer.begin (.user (none : Option User)) (.user (.quit (some i))) image.world =
    some (image.world, [.quit (some i)]) := rfl
  exact mirror.begin empty begun mirror.isImage.world rfl rfl sweeping

omit [Fintype User] in
/-- `close(listen_fd_)`. -/
theorem Mirror.closeListen (mirror : Mirror listenFd openFds shutdown image lost spare) :
    Mirror listenFd openFds shutdown.closeListen image lost spare := by
  have fewer (l : LoopId subLoops) : ((shutdown.machine.world.closeFd
      shutdown.machine.world.listen_channel_.fd_).epoll l).Within
        (shutdown.machine.world.epoll l) :=
    within_close (fun _ _ registered => registered) _
  have beside : Beside shutdown.machine.world (shutdown.machine.world.closeFd
      shutdown.machine.world.listen_channel_.fd_) :=
    .of_epoll (fun _ _ here => here) fun l fd entry registered => .inl (fewer l fd entry registered)
  exact ⟨mirror.reachable,
    mirror.isImage.setWorld (mirror.isImage.world.fewer (fun _ => rfl) rfl fewer), mirror.entries,
    mirror.stored, mirror.unstored, mirror.intact, mirror.sweeping.setWorld beside, mirror.base⟩

/-- `connections_.clear()` drops an entry, which the image keeps. -/
theorem Mirror.clear (mirror : Mirror listenFd openFds shutdown image lost spare)
    (multi : 0 < subLoops) {fd : Nat}
    (entry : shutdown.machine.world.connections_ fd = some c) :
    Mirror listenFd openFds (shutdown.setMachine (shutdown.machine.setWorld
        ((shutdown.machine.world.erase fd).release c))) image lost
      (Function.update spare c (spare c + 1)) := by
  obtain ⟨connection, found, alive, isFd, -⟩ := mirror.entry_alive multi entry
  have owned := reachable_owned mirror.reachable
  have map : ((shutdown.machine.world.erase fd).release c).connections_ =
      Function.update shutdown.machine.world.connections_ fd none :=
    (release_members (shutdown.machine.world.erase fd) c found).1
  have erased : Fades spare (shutdown.machine.world.erase fd) image.world :=
    mirror.isImage.world.fewer (fun _ => rfl) rfl fun _ _ _ registered => registered
  have beside : Beside shutdown.machine.world
      ((shutdown.machine.world.erase fd).release c) := by
    have aside : Aside (shutdown.machine.world.erase fd)
      ((shutdown.machine.world.erase fd).release c) := aside_release
    exact ⟨aside.loops, aside.pointed⟩
  have isEntry (key : Nat) (d : ConnectionId) (other : image.world.connections_ key = some d) :
      d = c ↔ key = fd := by
    have here := mirror.entries fd c entry
    refine ⟨fun same => ?_, fun same => ?_⟩
    · obtain ⟨first, firstFound, rfl⟩ := owned.entry key d other
      obtain ⟨second, secondFound, rfl⟩ := owned.entry fd c here
      rw [same] at firstFound
      exact congrArg _ (Option.some.inj (firstFound.symm.trans secondFound))
    · exact Option.some.inj (other.symm.trans (same ▸ here))
  refine ⟨mirror.reachable, ⟨erased.lose found alive, mirror.isImage.loop, mirror.isImage.stack,
    mirror.isImage.idle⟩, fun key d kept => ?_, fun key d other => ?_, fun d none => ?_,
    mirror.intact, mirror.sweeping.setWorld beside, mirror.base⟩
  · have kept : ((shutdown.machine.world.erase fd).release c).connections_ key = some d := kept
    rw [map] at kept
    by_cases same : key = fd
    · rw [same, Function.update_self] at kept
      cases kept
    · rw [Function.update_of_ne same] at kept
      exact mirror.entries key d kept
  · have before := mirror.stored key d other
    show _ = _ + if ((shutdown.machine.world.erase fd).release c).connections_ key = some d
      then 0 else 1
    rw [map]
    by_cases same : key = fd
    · obtain rfl := (isEntry key d other).mpr same
      rw [same, entry, if_pos rfl] at before
      rw [same, Function.update_self, Function.update_self, if_neg (fun none => by cases none),
        before]
    · rw [Function.update_of_ne same, Function.update_of_ne fun isC => same
        ((isEntry key d other).mp isC)]
      exact before
  · rw [Function.update_of_ne]
    · exact mirror.unstored d none
    · rintro rfl
      exact none fd (mirror.entries fd d entry)

/-! ### Where the destruction begins -/

/-- Where the destruction begins, nothing has been lost. -/
theorem initial_mirror
    (initial : (Shutdown.system subLoops User listenFd openFds).initial shutdown) :
    ∃ image, image.world.connections_ = shutdown.machine.world.connections_ ∧
      Mirror listenFd openFds shutdown image (fun _ => []) fun _ => 0 := by
  have sweeping := initial_sweeping initial
  obtain ⟨reachable, base, empty, -⟩ := initial
  obtain ⟨image, seenReachable, isImage⟩ := reachable_widen reachable
  have world := isImage.world
  have lostNone (c : ConnectionId) : lostOwners (fun _ : LoopId subLoops => []) c = 0 :=
    Finset.sum_eq_zero fun _ _ => rfl
  refine ⟨image, congrArg _ world.symm, seenReachable, ⟨?_, isImage.loop, fun thread => ?_,
    fun other unnamed => ?_⟩, fun fd c entry => world ▸ entry, fun fd c entry => ?_,
    fun c none => ?_, fun _ _ => rfl, sweeping, base⟩
  · rw [← world]
    exact ⟨fun _ none => none, fun c connection found => ⟨connection, found, rfl, rfl, rfl,
      fun _ => rfl⟩, rfl, fun _ _ _ registered => registered⟩
  · rcases thread with (_ | i) | t
    · exact (isImage.idle _ fun thread same => by cases thread <;> cases same).trans empty.symm
    · exact isImage.stack (.loop (some i))
    · exact isImage.stack (.user t)
  · rcases other with (_ | i) | (_ | t)
    · exact (isImage.stack mainThread).trans empty
    · exact absurd rfl (unnamed (.loop (some i)))
    · exact absurd rfl (unnamed mainThread)
    · exact absurd rfl (unnamed (.user t))
  · rw [← world] at entry
    rw [if_pos entry, lostNone c]
  · exact (lostNone c).symm

end Counts

end Mirror

end MultiReactor
