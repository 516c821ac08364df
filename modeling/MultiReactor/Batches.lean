/-
This file looks at the machine from one loop, for any client: where a step
takes the loop's thread in `EventLoop::loop`, which channels it can bring into
the batch the loop iterates over, and what it can leave on a stack. The entries
of a batch are distinct, so the loop swaps its queue at most once while it
iterates over one.
-/

import MultiReactor.Discipline

namespace MultiReactor

open Transition

variable {Loop User Functor Channel Code Input World : Type}

/-! ### Entries -/

/-- The entries of a batch that are not done with. -/
def Position.whole : Position Functor Channel → List (Ready Channel)
  | .outside => []
  | .test => []
  | .poll => []
  | .dispatch active => active
  | .handleEvent ch active => .channel ch :: active
  | .handleReadEventFd active => .eventfd :: active
  | .swap active => .eventfd :: active
  | .execute _ _ active => .eventfd :: active
  | .clear _ active => .eventfd :: active

/-- Whether the swap of the queue is still ahead in the batch. -/
def Position.unswapped : Position Functor Channel → Prop
  | .handleReadEventFd _ => True
  | .swap _ => True
  | position => .eventfd ∈ position.active

/-- While `doPendingFunctors` executes functors, no swap is ahead in the batch. -/
theorem not_unswapped_of_execute {executed rest : List Functor} {active : List (Ready Channel)}
    (distinct : (Position.execute executed rest active).whole.Nodup) :
    ¬ (Position.execute executed rest active).unswapped :=
  (List.nodup_cons.mp distinct).1

theorem active_subset_batch {position : Position Functor Channel} {ready : Ready Channel}
    (member : ready ∈ position.active) : ready ∈ position.batch := by
  unfold Position.batch
  split
  · exact List.mem_cons_of_mem _ member
  · exact member

/-- A move keeps the entries distinct. -/
theorem move_whole {eventLoop moved : EventLoop Functor Channel} (move : LoopMove eventLoop moved)
    (distinct : eventLoop.position.whole.Nodup) : moved.position.whole.Nodup := by
  cases move with
  | enter | leave | wait | endBatch => exact List.nodup_nil
  | takeEventfd active place | read active place | swap active place
  | executed functors active place =>
    rw [place] at distinct
    exact distinct
  | returned ch active place =>
    rw [place] at distinct
    exact (List.nodup_cons.mp distinct).2
  | readFailed active place | cleared active place =>
    rw [place] at distinct
    exact (List.nodup_cons.mp distinct).2

/-- While the swap is ahead, a move only takes entries. -/
theorem move_unswapped {eventLoop moved : EventLoop Functor Channel}
    (move : LoopMove eventLoop moved) {ready : Ready Channel}
    (unswapped : moved.position.unswapped) (member : ready ∈ moved.position.active) :
    eventLoop.position.unswapped ∧ ready ∈ eventLoop.position.active := by
  cases move with
  | enter | leave | wait | endBatch => cases member
  | takeEventfd active place =>
    rw [place]
    exact ⟨List.mem_cons_self, List.mem_cons_of_mem _ member⟩
  | returned ch active place =>
    rw [place]
    exact ⟨unswapped, member⟩
  | read active place | readFailed active place =>
    rw [place]
    exact ⟨trivial, member⟩
  | swap active place =>
    rw [place]
    exact ⟨trivial, member⟩
  | executed functors active place | cleared active place =>
    rw [place]
    exact ⟨unswapped, member⟩

/-! ### What a step does to the batch of a loop -/

section Step

/-- Where a step takes the thread of a loop. -/
inductive Advanced (client : Client Loop User Functor Channel Code Input World)
    (machine after : Machine Loop User Functor Channel Code World)
    (event : Event Loop User Channel Input) (l : Loop) : Prop where
  /-- the step leaves the thread's place in `loop()` alone -/
  | stays (position : (after.loop l).position = (machine.loop l).position)
  /-- a move that calls no client code -/
  | moved (idle : machine.stack (.loop l) = []) (stack : after.stack = machine.stack)
      (world : after.world = machine.world) (move : LoopMove (machine.loop l) (after.loop l))
  /-- `epoll_wait` returns -/
  | polled (active : List (Ready Channel)) (input : Input) (same : event = .advance l active input)
      (idle : machine.stack (.loop l) = []) (stack : after.stack = machine.stack)
      (place : (machine.loop l).position = .poll) (distinct : active.Nodup)
      (polled : client.poll l (channelsOf active) input machine.world = some after.world)
      (position : (after.loop l).position = .dispatch active)
  /-- the next entry is a client channel -/
  | dispatched (ch : Channel) (rest : List (Ready Channel))
      (place : (machine.loop l).position = .dispatch (.channel ch :: rest))
      (position : (after.loop l).position = .handleEvent ch rest)
      (stack : after.stack (.loop l) = (client.handleEvent ch).map .call)
  /-- the next functor is called -/
  | invoked (executed : List Functor) (cb : Functor) (rest : List Functor)
      (active : List (Ready Channel))
      (place : (machine.loop l).position = .execute executed (cb :: rest) active)
      (position : (after.loop l).position = .execute (executed ++ [cb]) rest active)
      (stack : after.stack (.loop l) = (client.invoke cb).map .call)
  /-- a functor that has been called is destroyed -/
  | cleared (cb : Functor) (rest : List Functor) (active : List (Ready Channel))
      (idle : machine.stack (.loop l) = []) (stack : after.stack = machine.stack)
      (place : (machine.loop l).position = .clear (cb :: rest) active)
      (position : (after.loop l).position = .clear rest active)

variable {client : Client Loop User Functor Channel Code Input World}
  {machine after : Machine Loop User Functor Channel Code World}
  {event : Event Loop User Channel Input}

/-- Where a call that is on a stack after a step comes from. -/
inductive Pushed (client : Client Loop User Functor Channel Code Input World)
    (machine after : Machine Loop User Functor Channel Code World)
    (event : Event Loop User Channel Input) (thread : Thread Loop User)
    (made : Call Loop Functor Code) : Prop where
  /-- it was there before -/
  | kept (onStack : .call made ∈ machine.stack thread)
  /-- a statement has left it -/
  | executed (body : Code) (input : Input) (calls : List (Call Loop Functor Code))
      (onStack : .call (.code body) ∈ machine.stack thread)
      (executed : client.execute body input machine.world = some (after.world, calls))
      (member : made ∈ calls)
  /-- `runInLoop` has called a functor on the spot -/
  | ran (l : Loop) (cb : Functor) (onStack : .call (.runInLoop l cb) ∈ machine.stack thread)
      (member : made ∈ client.invoke cb)
  /-- `runInLoop` has passed a functor on -/
  | queued (l : Loop) (cb : Functor) (onStack : .call (.runInLoop l cb) ∈ machine.stack thread)
      (same : made = .queueInLoop l cb)
  /-- a channel of the batch has been reached -/
  | dispatched (l : Loop) (ch : Channel) (rest : List (Ready Channel)) (here : thread = .loop l)
      (position : (after.loop l).position = .handleEvent ch rest)
      (member : made ∈ client.handleEvent ch)
  /-- a functor of the vector has been called -/
  | invoked (l : Loop) (executed : List Functor) (cb : Functor) (rest : List Functor)
      (active : List (Ready Channel)) (here : thread = .loop l)
      (position : (after.loop l).position = .execute (executed ++ [cb]) rest active)
      (member : made ∈ client.invoke cb)
  /-- the thread has begun a call -/
  | begun (input : Input) (calls : List (Call Loop Functor Code))
      (begun : client.begin thread input machine.world = some (after.world, calls))
      (member : made ∈ calls)

variable {l : Loop}

/-- The entries of a batch stay distinct. -/
theorem Advanced.distinct (advanced : Advanced client machine after event l)
    (distinct : (machine.loop l).position.whole.Nodup) :
    (after.loop l).position.whole.Nodup := by
  cases advanced with
  | stays position => rwa [position]
  | moved idle stack world move => exact move_whole move distinct
  | polled active input same idle stack place unique polled position => rwa [position]
  | dispatched ch rest place position stack =>
    rw [place] at distinct
    rwa [position]
  | invoked executed cb rest active place position stack =>
    rw [place] at distinct
    rwa [position]
  | cleared cb rest active idle stack place position =>
    rw [place] at distinct
    rwa [position]

/-- What `epoll_wait` returns for a loop. -/
def Polls (client : Client Loop User Functor Channel Code Input World)
    (machine after : Machine Loop User Functor Channel Code World) (l : Loop) (ch : Channel) :
    Prop :=
  machine.stack (.loop l) = [] ∧ after.stack = machine.stack ∧ ∃ active input, ch ∈ active ∧
    client.poll l active input machine.world = some after.world

/-- A channel comes into the batch of a loop only by being polled. -/
theorem Advanced.batch (advanced : Advanced client machine after event l) {ch : Channel}
    (member : .channel ch ∈ (after.loop l).position.batch) :
    .channel ch ∈ (machine.loop l).position.batch ∨ Polls client machine after l ch := by
  cases advanced with
  | stays position => exact .inl (position ▸ member)
  | moved idle stack world move => exact .inl (move_batch move member)
  | polled active input same idle stack place unique polled position =>
    rw [position] at member
    exact .inr ⟨idle, stack, _, input, mem_channelsOf.mpr member, polled⟩
  | dispatched first rest place position stack =>
    rw [position] at member
    rw [place]
    exact .inl member
  | invoked executed cb rest active place position stack =>
    rw [position] at member
    rw [place]
    exact .inl member
  | cleared cb rest active idle stack place position =>
    rw [position] at member
    rw [place]
    exact .inl member

/-- An entry leaves the batch of a loop with no client code run. -/
theorem Advanced.remains (advanced : Advanced client machine after event l) {ch : Channel}
    (member : .channel ch ∈ (machine.loop l).position.batch) :
    .channel ch ∈ (after.loop l).position.batch ∨ after.world = machine.world := by
  cases advanced with
  | stays position => exact .inl (position.symm ▸ member)
  | moved idle stack world move => exact .inr world
  | polled active input same idle stack place unique polled position =>
    rw [place] at member
    cases member
  | dispatched first rest place position stack =>
    rw [place] at member
    rw [position]
    exact .inl member
  | invoked executed cb rest active place position stack =>
    rw [place] at member
    rw [position]
    exact .inl member
  | cleared cb rest active idle stack place position =>
    rw [place] at member
    rw [position]
    exact .inl member

/-- While the swap is ahead, the entries to be reached are those of before, unless the batch is
new. -/
theorem Advanced.unswapped (advanced : Advanced client machine after event l) {ch : Channel}
    (unswapped : (after.loop l).position.unswapped)
    (member : .channel ch ∈ (after.loop l).position.active) :
    (machine.loop l).position.unswapped ∧ .channel ch ∈ (machine.loop l).position.active ∨
      Polls client machine after l ch := by
  cases advanced with
  | stays position => exact .inl (position ▸ ⟨unswapped, member⟩)
  | moved idle stack world move => exact .inl (move_unswapped move unswapped member)
  | polled active input same idle stack place unique polled position =>
    rw [position] at member
    exact .inr ⟨idle, stack, _, input, mem_channelsOf.mpr member, polled⟩
  | dispatched first rest place position stack =>
    rw [position] at unswapped member
    rw [place]
    exact .inl ⟨List.mem_cons_of_mem _ unswapped, List.mem_cons_of_mem _ member⟩
  | invoked executed cb rest active place position stack =>
    rw [position] at unswapped member
    rw [place]
    exact .inl ⟨unswapped, member⟩
  | cleared cb rest active idle stack place position =>
    rw [position] at unswapped member
    rw [place]
    exact .inl ⟨unswapped, member⟩

variable [DecidableEq Loop] [DecidableEq User]

/-- Every step takes the thread of each loop somewhere. -/
theorem step_advanced (step : Step client machine event after) (l : Loop) :
    Advanced client machine after event l := by
  cases step with
  | code | runHere | runQueued | destroy | begin => exact .stays rfl
  | pushBack thread input m cb rest top =>
    exact .stays (setLoop_position ((machine.loop m).pushBack cb) rfl l)
  | quit thread input m rest top =>
    exact .stays (setLoop_position (machine.loop m).storeQuit rfl l)
  | wakeup thread input m rest top =>
    exact .stays (setLoop_position (machine.loop m).wakeup rfl l)
  | move m active input eventLoop idle moved =>
    by_cases same : l = m
    · subst same
      exact .moved idle rfl rfl (by rwa [setLoop_loop_self])
    · exact .stays (by rw [setLoop_loop_of_ne _ _ same])
  | poll m active input world idle place distinct bounded counted polled =>
    by_cases same : l = m
    · subst same
      exact .polled active input rfl idle rfl place distinct polled (by rw [setLoop_loop_self]; rfl)
    · exact .stays (by rw [setLoop_loop_of_ne _ _ same, setWorld_loop])
  | dispatch m active input ch rest idle place =>
    by_cases same : l = m
    · subst same
      exact .dispatched ch rest place (by rw [setStack_loop, setLoop_loop_self]; rfl)
        (setStack_stack_self ..)
    · exact .stays (by rw [setStack_loop, setLoop_loop_of_ne _ _ same])
  | invoke m active input executed cb rest next idle place =>
    by_cases same : l = m
    · subst same
      exact .invoked executed cb rest next place (by rw [setStack_loop, setLoop_loop_self]; rfl)
        (setStack_stack_self ..)
    · exact .stays (by rw [setStack_loop, setLoop_loop_of_ne _ _ same])
  | clear m active input cb rest next idle place =>
    by_cases same : l = m
    · subst same
      exact .cleared cb rest next idle rfl place (by rw [setLoop_loop_self]; rfl)
    · exact .stays (by rw [setLoop_loop_of_ne _ _ same, setWorld_loop])

/-- The calls on a stack after a step. -/
theorem step_pushed (step : Step client machine event after) {thread : Thread Loop User}
    {made : Call Loop Functor Code} (onStack : .call made ∈ after.stack thread) :
    Pushed client machine after event thread made := by
  -- only the stack of one thread changes, which is what a step replaces it by
  have elsewhere {other : Thread Loop User} {instructions : List (Instruction Loop Functor Code)}
      {before : Machine Loop User Functor Channel Code World}
      (stack : before.stack = machine.stack) (different : thread ≠ other)
      (onStack : .call made ∈ (before.setStack other instructions).stack thread) :
      Pushed client machine after event thread made := by
    rw [setStack_stack_of_ne _ _ different, stack] at onStack
    exact .kept onStack
  have below {top : Instruction Loop Functor Code} {rest : List (Instruction Loop Functor Code)}
      (stack : machine.stack thread = top :: rest) (member : .call made ∈ rest) :
      Pushed client machine after event thread made :=
    .kept (by rw [stack]; exact List.mem_cons_of_mem _ member)
  cases step with
  | code other input body rest world calls top executed =>
    by_cases same : thread = other
    · subst same
      rw [setStack_stack_self] at onStack
      rcases List.mem_append.mp onStack with pushed | kept
      · obtain ⟨call, isCall, equal⟩ := List.mem_map.mp pushed
        obtain rfl := Instruction.call.inj equal
        exact .executed body input calls (by rw [top]; exact List.mem_cons_self) executed isCall
      · exact below top kept
    · exact elsewhere rfl same onStack
  | runHere l input cb rest top =>
    by_cases same : thread = .loop l
    · subst same
      rw [setStack_stack_self] at onStack
      rcases List.mem_append.mp onStack with pushed | kept
      · obtain ⟨call, isCall, equal⟩ := List.mem_map.mp pushed
        obtain rfl := Instruction.call.inj equal
        exact .ran l cb (by rw [top]; exact List.mem_cons_self) isCall
      · exact below top ((List.mem_cons.mp kept).resolve_left nofun)
    · exact elsewhere rfl same onStack
  | runQueued other input l cb rest top foreign =>
    by_cases same : thread = other
    · subst same
      rw [setStack_stack_self] at onStack
      rcases List.mem_cons.mp onStack with equal | kept
      · exact .queued l cb (by rw [top]; exact List.mem_cons_self) (Instruction.call.inj equal)
      · exact below top ((List.mem_cons.mp kept).resolve_left nofun)
    · exact elsewhere rfl same onStack
  | pushBack other input l cb rest top | quit other input l rest top =>
    by_cases same : thread = other
    · subst same
      rw [setStack_stack_self] at onStack
      exact below top ((List.mem_cons.mp onStack).resolve_left nofun)
    · exact elsewhere (setLoop_stack ..) same onStack
  | wakeup other input l rest top | destroy other input cb rest top =>
    by_cases same : thread = other
    · subst same
      rw [setStack_stack_self] at onStack
      exact below top onStack
    · exact elsewhere rfl same onStack
  | move | poll | clear => exact .kept onStack
  | dispatch l active input ch rest idle place =>
    by_cases same : thread = .loop l
    · subst same
      rw [setStack_stack_self] at onStack
      obtain ⟨call, isCall, equal⟩ := List.mem_map.mp onStack
      obtain rfl := Instruction.call.inj equal
      exact .dispatched l ch rest rfl (by rw [setStack_loop, setLoop_loop_self]; rfl) isCall
    · exact elsewhere rfl same onStack
  | invoke l active input executed cb rest next idle place =>
    by_cases same : thread = .loop l
    · subst same
      rw [setStack_stack_self] at onStack
      obtain ⟨call, isCall, equal⟩ := List.mem_map.mp onStack
      obtain rfl := Instruction.call.inj equal
      exact .invoked l executed cb rest next rfl
        (by rw [setStack_loop, setLoop_loop_self]; rfl) isCall
    · exact elsewhere rfl same onStack
  | begin other input world calls idle outside begun =>
    by_cases same : thread = other
    · subst same
      rw [setStack_stack_self] at onStack
      obtain ⟨call, isCall, equal⟩ := List.mem_map.mp onStack
      obtain rfl := Instruction.call.inj equal
      exact .begun input calls begun isCall
    · exact elsewhere rfl same onStack

variable [DecidableEq Channel]

/-- The entries of a batch are distinct in every reachable state. -/
theorem reachable_distinct {world : World} (reachable : Reachable (client.system world) machine)
    (l : Loop) : (machine.loop l).position.whole.Nodup := by
  refine reachable.invariant (fun machine => (machine.loop l).position.whole.Nodup) ?_ ?_
  · rintro _ rfl
    exact List.nodup_nil
  · intro machine event after _ distinct _ step
    exact (step_advanced (step_cases step) l).distinct distinct

end Step

end MultiReactor
