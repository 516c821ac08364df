/-
This file proves two rules about where instructions lie, for any client that
obeys them locally. A *placement* says on which thread a call may be made, in
which loop's queue a functor may lie and in which loop's batch a channel may
appear; if executing, calling and polling respect it, every reachable state
does. A *discipline* says which statements may rest below the top of a stack
and which statements only the call of a functor leaves. If the client obeys it,
a statement that does not rest is the very next thing its thread executes, so
there is at most one of a kind that belongs on one thread, and the functor a
statement was called through still exists when it is executed.
-/

import MultiReactor.Outstanding

namespace MultiReactor

open Ledger Transition

section Rules

variable {Loop User Functor Channel Code Input World : Type}

/-- The functors a loop has still to call. -/
def EventLoop.waiting (eventLoop : EventLoop Functor Channel) : List Functor :=
  eventLoop.position.uncalled ++ eventLoop.pendingFunctors_

/-- The entries of `active_channels` a loop has still to reach, and the one it is handling. -/
def Position.batch (position : Position Functor Channel) : List (Ready Channel) :=
  match position with
  | .handleEvent ch active => .channel ch :: active
  | _ => position.active

/-! ### Placement -/

/-- Where calls, functors and channels belong, in a given world. `grows` is the relation between
worlds under which nothing loses its place. -/
structure Placement (Loop User Functor Channel Code World : Type) where
  grows : World → World → Prop
  call : World → Thread Loop User → Call Loop Functor Code → Prop
  functor : World → Loop → Functor → Prop
  channel : World → Loop → Channel → Prop

/-- An instruction belongs on a thread. -/
def Placement.instruction (placement : Placement Loop User Functor Channel Code World)
    (world : World) (thread : Thread Loop User) : Instruction Loop Functor Code → Prop
  | .call made => placement.call world thread made
  | .wakeup _ => True
  | .destroy _ => True

/-- Everything lies where it belongs. -/
structure Placed (placement : Placement Loop User Functor Channel Code World)
    (machine : Machine Loop User Functor Channel Code World) : Prop where
  stack : ∀ thread, ∀ instruction ∈ machine.stack thread,
    placement.instruction machine.world thread instruction
  queue : ∀ l, ∀ cb ∈ (machine.loop l).waiting, placement.functor machine.world l cb
  batch : ∀ l ch, .channel ch ∈ (machine.loop l).position.batch →
    placement.channel machine.world l ch

/-- A client whose every operation respects a placement, as long as threads begin only what is
permitted and polls happen in sound worlds only. -/
structure Respects (client : Client Loop User Functor Channel Code Input World)
    (placement : Placement Loop User Functor Channel Code World)
    (permitted : Thread Loop User → Input → Prop) (sound : World → Prop) : Prop where
  keepCall : ∀ world after thread made, placement.grows world after →
    placement.call world thread made → placement.call after thread made
  keepFunctor : ∀ world after l cb, placement.grows world after →
    placement.functor world l cb → placement.functor after l cb
  keepChannel : ∀ world after l ch, placement.grows world after →
    placement.channel world l ch → placement.channel after l ch
  execute : ∀ world after thread body input calls,
    client.execute body input world = some (after, calls) →
    placement.grows world after ∧ (placement.call world thread (.code body) →
      ∀ made ∈ calls, placement.call after thread made)
  runHere : ∀ world l cb, placement.call world (.loop l) (.runInLoop l cb) →
    ∀ made ∈ client.invoke cb, placement.call world (.loop l) made
  runQueued : ∀ world thread l cb, thread ≠ .loop l →
    placement.call world thread (.runInLoop l cb) →
    placement.call world thread (.queueInLoop l cb)
  pushBack : ∀ world thread l cb, placement.call world thread (.queueInLoop l cb) →
    placement.functor world l cb
  invoke : ∀ world l cb, placement.functor world l cb → ∀ made ∈ client.invoke cb,
    placement.call world (.loop l) made
  handleEvent : ∀ world l ch, placement.channel world l ch → ∀ made ∈ client.handleEvent ch,
    placement.call world (.loop l) made
  copy : ∀ world cb, placement.grows world (client.copy cb world)
  destroy : ∀ world cb, placement.grows world (client.destroy cb world)
  poll : ∀ world after l active input, sound world →
    client.poll l active input world = some after →
    placement.grows world after ∧ ∀ ch ∈ active, placement.channel after l ch
  begin : ∀ world after thread input calls, permitted thread input →
    client.begin thread input world = some (after, calls) →
    placement.grows world after ∧ ∀ made ∈ calls, placement.call after thread made

section Placed

variable {client : Client Loop User Functor Channel Code Input World}
  {placement : Placement Loop User Functor Channel Code World}
  {permitted : Thread Loop User → Input → Prop} {sound : World → Prop}
  {machine : Machine Loop User Functor Channel Code World}

/-- What is placed stays so when the world grows. -/
theorem Placed.grow (respects : Respects client placement permitted sound) {after : World}
    (placed : Placed placement machine) (grown : placement.grows machine.world after) :
    Placed placement (machine.setWorld after) where
  stack thread instruction member := by
    have before := placed.stack thread instruction member
    cases instruction with
    | call made => exact respects.keepCall _ _ _ _ grown before
    | wakeup l => trivial
    | destroy cb => trivial
  queue l cb member := respects.keepFunctor _ _ _ _ grown (placed.queue l cb member)
  batch l ch member := respects.keepChannel _ _ _ _ grown (placed.batch l ch member)

/-- The instruction on top of a stack is placed. -/
theorem Placed.top (placed : Placed placement machine) {thread : Thread Loop User}
    {instruction : Instruction Loop Functor Code} {rest : List (Instruction Loop Functor Code)}
    (top : machine.stack thread = instruction :: rest) :
    placement.instruction machine.world thread instruction :=
  placed.stack thread instruction (by rw [top]; exact List.mem_cons_self)

/-- The instructions below the top of a stack are placed. -/
theorem Placed.below (placed : Placed placement machine) {thread : Thread Loop User}
    {above instruction : Instruction Loop Functor Code}
    {rest : List (Instruction Loop Functor Code)} (top : machine.stack thread = above :: rest)
    (member : instruction ∈ rest) : placement.instruction machine.world thread instruction :=
  placed.stack thread instruction (by rw [top]; exact List.mem_cons_of_mem _ member)

/-- A move of a loop's thread brings no new functor. -/
theorem move_waiting {eventLoop moved : EventLoop Functor Channel} (move : LoopMove eventLoop moved)
    {cb : Functor} (member : cb ∈ moved.waiting) : cb ∈ eventLoop.waiting := by
  cases move <;> rename_i place <;> simp_all [EventLoop.waiting, EventLoop.at]

/-- A move of a loop's thread brings no new channel. -/
theorem move_batch {eventLoop moved : EventLoop Functor Channel} (move : LoopMove eventLoop moved)
    {ch : Channel} (member : .channel ch ∈ moved.position.batch) :
    .channel ch ∈ eventLoop.position.batch := by
  cases move <;> rename_i place <;> simp_all [Position.batch, EventLoop.at]

variable [DecidableEq Loop]

theorem Placed.setLoop {l : Loop} {eventLoop : EventLoop Functor Channel}
    (placed : Placed placement machine)
    (queue : ∀ cb ∈ eventLoop.waiting, placement.functor machine.world l cb)
    (batch : ∀ ch, .channel ch ∈ eventLoop.position.batch → placement.channel machine.world l ch) :
    Placed placement (machine.setLoop l eventLoop) where
  stack := placed.stack
  queue other cb member := by
    by_cases same : other = l
    · subst same
      rw [setLoop_loop_self] at member
      exact queue cb member
    · rw [setLoop_loop_of_ne _ _ same] at member
      exact placed.queue other cb member
  batch other ch member := by
    by_cases same : other = l
    · subst same
      rw [setLoop_loop_self] at member
      exact batch ch member
    · rw [setLoop_loop_of_ne _ _ same] at member
      exact placed.batch other ch member

variable [DecidableEq User]

theorem Placed.setStack {thread : Thread Loop User}
    {instructions : List (Instruction Loop Functor Code)} (placed : Placed placement machine)
    (each : ∀ instruction ∈ instructions, placement.instruction machine.world thread instruction) :
    Placed placement (machine.setStack thread instructions) where
  stack other instruction member := by
    by_cases same : other = thread
    · subst same
      rw [setStack_stack_self] at member
      exact each instruction member
    · rw [setStack_stack_of_ne _ _ same] at member
      exact placed.stack other instruction member
  queue := placed.queue
  batch := placed.batch

theorem Placed.step (respects : Respects client placement permitted sound)
    {after : Machine Loop User Functor Channel Code World} {event : Event Loop User Channel Input}
    (placed : Placed placement machine) (sounds : sound machine.world)
    (step : Step client machine event after)
    (allowed : ∀ thread input, event = .begin thread input → permitted thread input) :
    Placed placement after := by
  cases step with
  | code thread input body rest world calls top executed =>
    obtain ⟨grown, leaves⟩ := respects.execute _ _ thread _ _ _ executed
    have grownPlaced := placed.grow respects grown
    refine grownPlaced.setStack fun instruction member => ?_
    rcases List.mem_append.mp member with pushed | kept
    · obtain ⟨made, isMade, rfl⟩ := List.mem_map.mp pushed
      exact leaves (placed.top top) made isMade
    · exact grownPlaced.below top kept
  | runHere l input cb rest top =>
    refine placed.setStack fun instruction member => ?_
    rcases List.mem_append.mp member with pushed | kept
    · obtain ⟨made, isMade, rfl⟩ := List.mem_map.mp pushed
      exact respects.runHere _ l cb (placed.top top) made isMade
    · rcases List.mem_cons.mp kept with rfl | below
      · trivial
      · exact placed.below top below
  | runQueued thread input l cb rest top foreign =>
    have grownPlaced := placed.grow respects (respects.copy machine.world cb)
    refine grownPlaced.setStack fun instruction member => ?_
    rcases List.mem_cons.mp member with rfl | kept
    · exact respects.runQueued _ thread l cb foreign (grownPlaced.top top)
    · rcases List.mem_cons.mp kept with rfl | below
      · trivial
      · exact grownPlaced.below top below
  | pushBack thread input l cb rest top =>
    have pushed : Placed placement (machine.setLoop l ((machine.loop l).pushBack cb)) := by
      refine placed.setLoop (fun other member => ?_) (placed.batch l)
      rw [EventLoop.waiting, EventLoop.pushBack, ← List.append_assoc] at member
      rcases List.mem_append.mp member with old | new
      · exact placed.queue l other old
      · obtain rfl := List.mem_singleton.mp new
        exact respects.pushBack _ thread l other (placed.top top)
    refine pushed.setStack fun instruction member => ?_
    rcases List.mem_cons.mp member with rfl | below
    · trivial
    · exact placed.below top below
  | quit thread input l rest top =>
    have stored : Placed placement (machine.setLoop l (machine.loop l).storeQuit) :=
      placed.setLoop (placed.queue l) (placed.batch l)
    refine stored.setStack fun instruction member => ?_
    rcases List.mem_cons.mp member with rfl | below
    · trivial
    · exact placed.below top below
  | wakeup thread input l rest top =>
    have written : Placed placement (machine.setLoop l (machine.loop l).wakeup) :=
      placed.setLoop (placed.queue l) (placed.batch l)
    exact written.setStack fun instruction member => placed.below top member
  | destroy thread input cb rest top =>
    have grownPlaced := placed.grow respects (respects.destroy machine.world cb)
    exact grownPlaced.setStack fun instruction member => grownPlaced.below top member
  | move l active input eventLoop idle moved =>
    exact placed.setLoop (fun cb member => placed.queue l cb (move_waiting moved member))
      fun ch member => placed.batch l ch (move_batch moved member)
  | poll l active input world idle place distinct bounded counted polled =>
    obtain ⟨grown, reported⟩ := respects.poll _ _ _ _ _ sounds polled
    have grownPlaced := placed.grow respects grown
    refine grownPlaced.setLoop (fun cb member => grownPlaced.queue l cb ?_) fun ch member => ?_
    · rw [EventLoop.waiting, setWorld_loop, place]
      exact member
    · exact reported ch (mem_channelsOf.mpr member)
  | dispatch l active input ch rest idle place =>
    have moved :
        Placed placement (machine.setLoop l ((machine.loop l).at (.handleEvent ch rest))) := by
      refine placed.setLoop (fun cb member => placed.queue l cb ?_) fun other member =>
        placed.batch l other (by rw [place]; exact member)
      rw [EventLoop.waiting, place]
      exact member
    refine moved.setStack fun instruction member => ?_
    obtain ⟨made, isMade, rfl⟩ := List.mem_map.mp member
    exact respects.handleEvent _ l ch (placed.batch l ch (by rw [place]; exact List.mem_cons_self))
      made isMade
  | invoke l active input executed cb rest next idle place =>
    have moved : Placed placement
        (machine.setLoop l ((machine.loop l).at (.execute (executed ++ [cb]) rest next))) := by
      refine placed.setLoop (fun other member => placed.queue l other ?_) fun other member =>
        placed.batch l other (by rw [place]; exact member)
      rw [EventLoop.waiting, place]
      exact List.mem_cons_of_mem _ member
    refine moved.setStack fun instruction member => ?_
    obtain ⟨made, isMade, rfl⟩ := List.mem_map.mp member
    refine respects.invoke _ l cb (placed.queue l cb ?_) made isMade
    rw [EventLoop.waiting, place]
    exact List.mem_cons_self
  | clear l active input cb rest next idle place =>
    have grownPlaced := placed.grow respects (respects.destroy machine.world cb)
    refine grownPlaced.setLoop (fun other member => grownPlaced.queue l other ?_)
      fun other member => grownPlaced.batch l other (by rw [setWorld_loop, place]; exact member)
    rw [EventLoop.waiting, setWorld_loop, place]
    exact member
  | begin thread input world calls idle outside begun =>
    obtain ⟨grown, leaves⟩ := respects.begin _ _ _ _ _ (allowed thread input rfl) begun
    refine (placed.grow respects grown).setStack fun instruction member => ?_
    obtain ⟨made, isMade, rfl⟩ := List.mem_map.mp member
    exact leaves made isMade

variable [DecidableEq Channel]

/-- Everything lies where it belongs in every state a run reaches whose threads begin only what
is permitted. -/
theorem reachable_placed (respects : Respects client placement permitted sound) {world : World}
    {guard : Guard (Machine Loop User Functor Channel Code World) (Event Loop User Channel Input)}
    (allowed : ∀ state thread input, guard state (.begin thread input) → permitted thread input)
    (sounds : ∀ state, ReachableBy (client.system world) guard state → sound state.world)
    (reachable : ReachableBy (client.system world) guard machine) : Placed placement machine := by
  refine reachable.invariant _ ?_ ?_
  · rintro _ rfl
    exact ⟨nofun, nofun, nofun⟩
  · rintro state event _ before placed permits step
    refine placed.step respects (sounds state before) (step_cases step) fun thread input same => ?_
    subst same
    exact allowed state thread input permits

end Placed

/-! ### What rests on a stack -/

/-- Which statements may lie below the top of a stack, and which are left only by the call of a
functor. -/
structure Discipline (Functor Code : Type) where
  resting : Code → Prop
  entry : Code → Option Functor

/-- A call may lie below the top of a stack. -/
def Discipline.call (discipline : Discipline Functor Code) : Call Loop Functor Code → Prop
  | .code body => discipline.resting body
  | _ => False

/-- An instruction may lie below the top of a stack. -/
def Discipline.instruction (discipline : Discipline Functor Code) :
    Instruction Loop Functor Code → Prop
  | .call made => discipline.call made
  | .wakeup _ => False
  | .destroy _ => True

/-- Calls that may be put on a stack: those after the first rest, and none is left only by the
call of a functor. -/
structure Discipline.Admits (discipline : Discipline Functor Code)
    (calls : List (Call Loop Functor Code)) : Prop where
  tail : ∀ made ∈ calls.tail, discipline.call made
  entry : ∀ body, .code body ∈ calls → discipline.entry body = none

/-- A client that obeys a discipline. -/
structure Obeys (client : Client Loop User Functor Channel Code Input World)
    (discipline : Discipline Functor Code) : Prop where
  execute : ∀ world after body input calls,
    client.execute body input world = some (after, calls) → discipline.Admits calls
  handleEvent : ∀ ch, discipline.Admits (client.handleEvent ch)
  begin : ∀ world after thread input calls,
    client.begin thread input world = some (after, calls) → discipline.Admits calls
  invokeTail : ∀ cb, ∀ made ∈ (client.invoke cb).tail, discipline.call made
  invokeEntry : ∀ cb body, .code body ∈ client.invoke cb →
    discipline.entry body = none ∨ discipline.entry body = some cb
  resting : ∀ body, discipline.resting body → discipline.entry body = none

/-- Whatever lies below the top of a stack rests, and the functor through which the statement on
top was called is still to be destroyed. -/
structure Orderly (discipline : Discipline Functor Code)
    (machine : Machine Loop User Functor Channel Code World) : Prop where
  tail : ∀ thread, ∀ instruction ∈ (machine.stack thread).tail, discipline.instruction instruction
  entry : ∀ thread body below cb, machine.stack thread = .call (.code body) :: below →
    discipline.entry body = some cb →
    .destroy cb ∈ below ∨ ∃ l, thread = .loop l ∧ cb ∈ (machine.loop l).position.called

section Orderly

variable {client : Client Loop User Functor Channel Code Input World}
  {discipline : Discipline Functor Code}
  {machine : Machine Loop User Functor Channel Code World}

/-- A statement that is left only by the call of a functor does not rest. -/
theorem Obeys.entry_of_rests (obeys : Obeys client discipline) {body : Code}
    (rests : discipline.instruction (.call (.code body) : Instruction Loop Functor Code)) :
    discipline.entry body = none :=
  obeys.resting body rests

/-- Replacing the top of a stack by admitted calls leaves only what rests below the top. -/
theorem tail_of_admits {calls : List (Call Loop Functor Code)}
    {rest : List (Instruction Loop Functor Code)}
    (tail : ∀ made ∈ calls.tail, discipline.call made)
    (rests : ∀ instruction ∈ rest, discipline.instruction instruction) :
    ∀ instruction ∈ (calls.map Instruction.call ++ rest).tail,
      discipline.instruction instruction := by
  intro instruction member
  cases calls with
  | nil => exact rests instruction (List.mem_of_mem_tail member)
  | cons first others =>
    rcases List.mem_append.mp member with pushed | kept
    · obtain ⟨made, isMade, rfl⟩ := List.mem_map.mp pushed
      exact tail made isMade
    · exact rests instruction kept

/-- The statement on top after the top of a stack was replaced by admitted calls is not one that
only the call of a functor leaves. -/
theorem entry_of_admits (obeys : Obeys client discipline) {calls : List (Call Loop Functor Code)}
    {rest below : List (Instruction Loop Functor Code)} {body : Code}
    (admits : discipline.Admits calls)
    (rests : ∀ instruction ∈ rest, discipline.instruction instruction)
    (top : calls.map .call ++ rest = .call (.code body) :: below) :
    discipline.entry body = none := by
  cases calls with
  | nil =>
    refine obeys.entry_of_rests (rests _ ?_)
    rw [show rest = .call (.code body) :: below from top]
    exact List.mem_cons_self
  | cons first others =>
    obtain ⟨same, -⟩ := List.cons.inj top
    obtain rfl := Instruction.call.inj same
    exact admits.entry body List.mem_cons_self

variable [DecidableEq Loop] [DecidableEq User]

omit [DecidableEq User] in
/-- A loop whose members change where its thread stands. -/
theorem setLoop_position {l : Loop} (eventLoop : EventLoop Functor Channel)
    (same : eventLoop.position = (machine.loop l).position) (m : Loop) :
    ((machine.setLoop l eventLoop).loop m).position = (machine.loop m).position := by
  by_cases isLoop : m = l
  · subst isLoop
    rw [setLoop_loop_self, same]
  · rw [setLoop_loop_of_ne _ _ isLoop]

/-- A step that gives one thread a new stack and keeps the vectors of functors already called
keeps the machine orderly. -/
theorem Orderly.setStack {after : Machine Loop User Functor Channel Code World}
    (thread : Thread Loop User) {instructions : List (Instruction Loop Functor Code)}
    (orderly : Orderly discipline machine)
    (same : after.stack thread = instructions)
    (others : ∀ other, other ≠ thread → after.stack other = machine.stack other)
    (called : ∀ l, thread ≠ .loop l →
      (after.loop l).position.called = (machine.loop l).position.called)
    (tail : ∀ instruction ∈ instructions.tail, discipline.instruction instruction)
    (entry : ∀ body below cb, instructions = .call (.code body) :: below →
      discipline.entry body = some cb →
      .destroy cb ∈ below ∨ ∃ l, thread = .loop l ∧ cb ∈ (after.loop l).position.called) :
    Orderly discipline after where
  tail other instruction member := by
    by_cases isThread : other = thread
    · subst isThread
      exact tail instruction (same ▸ member)
    · rw [others other isThread] at member
      exact orderly.tail other instruction member
  entry other body below cb top needs := by
    by_cases isThread : other = thread
    · subst isThread
      exact entry body below cb (same.symm.trans top) needs
    · rw [others other isThread] at top
      rcases orderly.entry other body below cb top needs with inStack | ⟨l, isLoop, member⟩
      · exact .inl inStack
      · exact .inr ⟨l, isLoop, (called l (isLoop ▸ Ne.symm isThread)).symm ▸ member⟩

/-- A step of a loop's thread that puts nothing on its stack keeps the machine orderly. -/
theorem Orderly.setLoop {world : World} {l : Loop} {eventLoop : EventLoop Functor Channel}
    (orderly : Orderly discipline machine) (idle : machine.stack (.loop l) = []) :
    Orderly discipline ((machine.setWorld world).setLoop l eventLoop) :=
  orderly.setStack (.loop l) idle (fun _ _ => rfl)
    (fun other different => by
      rw [setLoop_loop_of_ne _ _ fun same : other = l => different (congrArg _ same.symm),
        setWorld_loop])
    nofun nofun

/-- Replacing the top of a stack by admitted calls keeps the machine orderly. -/
theorem Orderly.replace (obeys : Obeys client discipline) {thread : Thread Loop User}
    (calls : List (Call Loop Functor Code)) (rest : List (Instruction Loop Functor Code))
    {after : Machine Loop User Functor Channel Code World}
    (orderly : Orderly discipline machine) (admits : discipline.Admits calls)
    (rests : ∀ instruction ∈ rest, discipline.instruction instruction)
    (same : after.stack thread = calls.map .call ++ rest)
    (others : ∀ other, other ≠ thread → after.stack other = machine.stack other)
    (called : ∀ l, thread ≠ .loop l →
      (after.loop l).position.called = (machine.loop l).position.called) :
    Orderly discipline after :=
  orderly.setStack thread same others called (tail_of_admits admits.tail rests)
    fun _ _ cb top needs => by
      rw [entry_of_admits obeys admits rests top] at needs
      cases needs

theorem Orderly.step (obeys : Obeys client discipline)
    {after : Machine Loop User Functor Channel Code World} {event : Event Loop User Channel Input}
    (orderly : Orderly discipline machine) (step : Step client machine event after) :
    Orderly discipline after := by
  have below {thread : Thread Loop User} {top : Instruction Loop Functor Code}
      {rest : List (Instruction Loop Functor Code)} (stack : machine.stack thread = top :: rest) :
      ∀ instruction ∈ rest, discipline.instruction instruction := fun instruction member =>
    orderly.tail thread instruction (by rw [stack]; exact member)
  -- the statement a functor's call puts on top
  have called {cb : Functor} {rest : List (Instruction Loop Functor Code)} {body : Code}
      {under : List (Instruction Loop Functor Code)} {other : Functor}
      (noCode : ∀ body, rest.head? ≠ some (.call (.code body)))
      (top : (client.invoke cb).map .call ++ rest = .call (.code body) :: under)
      (needs : discipline.entry body = some other) :
      other = cb ∧ ∀ instruction ∈ rest, instruction ∈ under := by
    cases calls : client.invoke cb with
    | nil =>
      rw [calls] at top
      exact absurd (by rw [show rest = _ from top]; rfl) (noCode body)
    | cons first others =>
      rw [calls] at top
      obtain ⟨same, rfl⟩ := List.cons.inj top
      obtain rfl := Instruction.call.inj same
      have entry := obeys.invokeEntry cb body (by rw [calls]; exact List.mem_cons_self)
      rw [needs] at entry
      exact ⟨Option.some.inj (entry.resolve_left nofun), fun _ => List.mem_append_right _⟩
  cases step with
  | code thread input body rest world calls top executed =>
    exact orderly.replace obeys calls rest (obeys.execute _ _ _ _ _ executed) (below top)
      (setStack_stack_self ..) (fun _ => setStack_stack_of_ne _ _) fun _ _ => rfl
  | runHere l input cb rest top =>
    refine orderly.setStack _ (setStack_stack_self ..) (fun _ => setStack_stack_of_ne _ _)
      (fun _ _ => rfl) (tail_of_admits (obeys.invokeTail cb) fun instruction member => ?_)
      fun body under other head needs => ?_
    · rcases List.mem_cons.mp member with rfl | kept
      · trivial
      · exact below top instruction kept
    · obtain ⟨rfl, kept⟩ := called (by simp) head needs
      exact .inl (kept _ List.mem_cons_self)
  | runQueued thread input l cb rest top foreign =>
    refine orderly.setStack _ (setStack_stack_self ..) (fun _ => setStack_stack_of_ne _ _)
      (fun _ _ => rfl) (fun instruction member => ?_) nofun
    rcases List.mem_cons.mp member with rfl | kept
    · trivial
    · exact below top instruction kept
  | pushBack thread input l cb rest top =>
    refine orderly.setStack _ (setStack_stack_self ..) (fun _ => setStack_stack_of_ne _ _)
      (fun m _ => ?_) (below top) nofun
    exact congrArg Position.called (setLoop_position ((machine.loop l).pushBack cb) rfl m)
  | quit thread input l rest top =>
    refine orderly.setStack _ (setStack_stack_self ..) (fun _ => setStack_stack_of_ne _ _)
      (fun m _ => ?_) (below top) nofun
    exact congrArg Position.called (setLoop_position (machine.loop l).storeQuit rfl m)
  | wakeup thread input l rest top =>
    refine orderly.replace obeys [] rest ⟨nofun, nofun⟩ (below top) (setStack_stack_self ..)
      (fun _ => setStack_stack_of_ne _ _) fun m _ => ?_
    exact congrArg Position.called (setLoop_position (machine.loop l).wakeup rfl m)
  | destroy thread input cb rest top =>
    exact orderly.replace obeys [] rest ⟨nofun, nofun⟩ (below top) (setStack_stack_self ..)
      (fun _ => setStack_stack_of_ne _ _) fun _ _ => rfl
  | move l active input eventLoop idle moved => exact orderly.setLoop idle
  | poll l active input world idle place distinct bounded counted polled =>
    exact orderly.setLoop idle
  | dispatch l active input ch rest idle place =>
    refine orderly.replace obeys _ [] (obeys.handleEvent ch) nofun
      ((setStack_stack_self ..).trans (List.append_nil _).symm)
      (fun _ => setStack_stack_of_ne _ _) fun m different => ?_
    rw [setStack_loop, setLoop_loop_of_ne _ _ fun same : m = l => different (congrArg _ same.symm)]
  | invoke l active input executed cb rest next idle place =>
    refine orderly.setStack _ ((setStack_stack_self ..).trans (List.append_nil _).symm)
      (fun _ => setStack_stack_of_ne _ _) (fun m different => ?_)
      (tail_of_admits (obeys.invokeTail cb) nofun) fun body under other head needs => ?_
    · rw [setStack_loop,
        setLoop_loop_of_ne _ _ fun same : m = l => different (congrArg _ same.symm)]
    · obtain ⟨rfl, -⟩ := called (by simp) head needs
      refine .inr ⟨l, rfl, ?_⟩
      rw [setStack_loop, setLoop_loop_self]
      exact List.mem_append_right _ List.mem_cons_self
  | clear l active input cb rest next idle place => exact orderly.setLoop idle
  | begin thread input world calls idle outside begun =>
    exact orderly.replace obeys _ [] (obeys.begin _ _ _ _ _ begun) nofun
      ((setStack_stack_self ..).trans (List.append_nil _).symm)
      (fun _ => setStack_stack_of_ne _ _) fun _ _ => rfl

variable [DecidableEq Channel]

/-- Every reachable state is orderly. -/
theorem reachable_orderly (obeys : Obeys client discipline) {world : World}
    (reachable : Reachable (client.system world) machine) : Orderly discipline machine := by
  refine reachable.invariant _ ?_ ?_
  · rintro _ rfl
    exact ⟨nofun, nofun⟩
  · intro _ _ _ _ orderly _ step
    exact orderly.step obeys (step_cases step)

end Orderly

/-! ### What the discipline gives -/

section Consequences

variable [Fintype Loop] [Fintype User] {discipline : Discipline Functor Code}
  {machine : Machine Loop User Functor Channel Code World}
  {kind : Item Functor Channel Code → Bool}

omit [Fintype Loop] [Fintype User] in
/-- An instruction is one item at most. -/
theorem items_length_le (instruction : Instruction Loop Functor Code) :
    (instruction.items : List (Item Functor Channel Code)).length ≤ 1 := by
  rcases instruction with (body | cb | cb | l) | l | cb <;>
    first | exact Nat.le_refl 1 | exact Nat.zero_le 1

/-- A functor through which the statement on top of a stack was called is outstanding. -/
theorem Orderly.entry_outstanding (orderly : Orderly discipline machine) {thread : Thread Loop User}
    {body : Code} {rest : List (Instruction Loop Functor Code)} {cb : Functor}
    (top : machine.stack thread = .call (.code body) :: rest)
    (needs : discipline.entry body = some cb) (counted : kind (.spent cb) = true) :
    0 < tally kind machine := by
  rcases orderly.entry thread body rest cb top needs with below | ⟨l, -, called⟩
  · refine tally_pos_of_stack thread (List.mem_flatMap.mpr ⟨.destroy cb, ?_, ?_⟩) counted
    · rw [top]
      exact List.mem_cons_of_mem _ below
    · exact List.mem_singleton_self _
  · refine tally_pos_of_loop l (List.mem_append_right _ ?_) counted
    exact List.mem_append_left _ (List.mem_append_left _ (List.mem_map_of_mem called))

/-- The items of a kind that lies only on one thread's stack, and does not rest there, are on top of
the stack. -/
theorem Orderly.tally_eq_top (orderly : Orderly discipline machine) (thread : Thread Loop User)
    (loops : ∀ l, ∀ item ∈ (machine.loop l).items, kind item = false)
    (confined : ∀ other, ∀ instruction ∈ machine.stack other, ∀ item ∈ instruction.items,
      kind item = true → other = thread ∧ ¬ discipline.instruction instruction) :
    tally kind machine = (stackItems ((machine.stack thread).take 1)).countP kind := by
  have noLoop (l : Loop) : (machine.loop l).items.countP kind = 0 :=
    List.countP_eq_zero.mpr fun item member => by simp [loops l item member]
  have others (other : Thread Loop User) (different : other ≠ thread) :
      (stackItems (machine.stack other)).countP kind = 0 := by
    refine List.countP_eq_zero.mpr fun item member counted => ?_
    obtain ⟨instruction, onStack, inItems⟩ := List.mem_flatMap.mp member
    exact different (confined other instruction onStack item inItems counted).1
  have below : (stackItems (machine.stack thread).tail).countP kind = 0 := by
    refine List.countP_eq_zero.mpr fun item member counted => ?_
    obtain ⟨instruction, inTail, inItems⟩ := List.mem_flatMap.mp member
    have onStack := List.mem_of_mem_tail inTail
    exact (confined thread instruction onStack item inItems counted).2
      (orderly.tail thread instruction inTail)
  rw [tally, sum_eq_zero _ noLoop, Nat.add_zero,
    Finset.sum_eq_single thread (fun other _ => others other) (by simp)]
  cases stack : machine.stack thread with
  | nil => rfl
  | cons top rest =>
    rw [stack] at below
    rw [stackItems_cons, List.countP_append, show (stackItems rest).countP kind = 0 from below,
      List.take_succ_cons, List.take_zero, stackItems_cons, List.countP_append]
    rfl

omit [Fintype Loop] [Fintype User] in
/-- There is one item at most on top of a stack. -/
theorem stackItems_take_one (stack : List (Instruction Loop Functor Code)) :
    (stackItems (stack.take 1)).countP kind ≤ 1 := by
  cases stack with
  | nil => exact Nat.zero_le 1
  | cons top rest =>
    rw [List.take_succ_cons, List.take_zero, stackItems_cons, List.countP_append]
    exact List.countP_le_length.trans (items_length_le top)

end Consequences

end Rules

end MultiReactor
