/-
This file forgets where things lie. An *item* is a statement, a functor still to
be called, a functor that has been called and is still to be destroyed, or a
channel of a batch still to be dispatched; the items of a process lie on its
stacks, in its queues and in the vectors the range-fors of its loops iterate.
`Effect` lists what a step does to the client's world together with the items
it uses up and the items it leaves, and `step_effect` shows that every step of
the machine is one of these: the tally of any kind of item changes by what is
left minus what is used up. A counting invariant of the process is proved over
`Effect`, without looking at stacks again.
-/

import MultiReactor.Ledger
import MultiReactor.Step

namespace MultiReactor

open Ledger

/-- Something outstanding. -/
inductive Item (Functor Channel Code : Type) where
  | code (body : Code)
  | queued (cb : Functor)
  | spent (cb : Functor)
  | ready (ch : Channel)
  deriving DecidableEq

section Items

variable {Loop User Functor Channel Code Input World : Type}

/-- The entries of `active_channels` a loop's range-for has not reached. -/
@[simp] def Position.active : Position Functor Channel → List (Ready Channel)
  | .outside => []
  | .test => []
  | .poll => []
  | .dispatch active => active
  | .handleEvent _ active => active
  | .handleReadEventFd active => active
  | .swap active => active
  | .execute _ _ active => active
  | .clear _ active => active

/-- The functors of the vector in `doPendingFunctors` that have been called. -/
@[simp] def Position.called : Position Functor Channel → List Functor
  | .execute executed _ _ => executed
  | .clear functors _ => functors
  | _ => []

/-- The functors of the vector in `doPendingFunctors` still to be called. -/
@[simp] def Position.uncalled : Position Functor Channel → List Functor
  | .execute _ rest _ => rest
  | _ => []

def Call.items : Call Loop Functor Code → List (Item Functor Channel Code)
  | .code body => [.code body]
  | .runInLoop _ cb => [.queued cb]
  | .queueInLoop _ cb => [.queued cb]
  | .quit _ => []

def Instruction.items : Instruction Loop Functor Code → List (Item Functor Channel Code)
  | .call made => made.items
  | .wakeup _ => []
  | .destroy cb => [.spent cb]

def Position.items (position : Position Functor Channel) : List (Item Functor Channel Code) :=
  position.called.map .spent ++ position.uncalled.map .queued ++
    (channelsOf position.active).map .ready

def EventLoop.items (eventLoop : EventLoop Functor Channel) : List (Item Functor Channel Code) :=
  eventLoop.pendingFunctors_.map .queued ++ eventLoop.position.items

/-- The items calls leave. -/
def itemsOf (calls : List (Call Loop Functor Code)) : List (Item Functor Channel Code) :=
  calls.flatMap Call.items

/-- A statement is outstanding where it is called. -/
theorem eq_of_code_mem {instruction : Instruction Loop Functor Code} {body : Code}
    (member : (Item.code body : Item Functor Channel Code) ∈ instruction.items) :
    instruction = .call (.code body) := by
  rcases instruction with (other | cb | cb | l) | l | cb
  · cases List.mem_singleton.mp member
    rfl
  · cases List.mem_singleton.mp member
  · cases List.mem_singleton.mp member
  · cases member
  · cases member
  · cases List.mem_singleton.mp member

/-- A functor that has not been called is outstanding where it is passed on. -/
theorem eq_of_queued_mem {instruction : Instruction Loop Functor Code} {cb : Functor}
    (member : (Item.queued cb : Item Functor Channel Code) ∈ instruction.items) :
    ∃ l, instruction = .call (.runInLoop l cb) ∨ instruction = .call (.queueInLoop l cb) := by
  rcases instruction with (body | ⟨l, other⟩ | ⟨l, other⟩ | l) | l | other
  · cases List.mem_singleton.mp member
  · cases List.mem_singleton.mp member
    exact ⟨l, .inl rfl⟩
  · cases List.mem_singleton.mp member
    exact ⟨l, .inr rfl⟩
  · cases member
  · cases member
  · cases List.mem_singleton.mp member

/-- The items on a stack. -/
def stackItems (stack : List (Instruction Loop Functor Code)) : List (Item Functor Channel Code) :=
  stack.flatMap Instruction.items

@[simp] theorem itemsOf_nil :
    (itemsOf ([] : List (Call Loop Functor Code)) : List (Item Functor Channel Code)) = [] := rfl

@[simp] theorem itemsOf_cons (made : Call Loop Functor Code)
    (calls : List (Call Loop Functor Code)) :
    (itemsOf (made :: calls) : List (Item Functor Channel Code)) = made.items ++ itemsOf calls :=
  rfl

@[simp] theorem stackItems_nil :
    (stackItems ([] : List (Instruction Loop Functor Code)) : List (Item Functor Channel Code)) =
      [] := rfl

@[simp] theorem stackItems_cons (instruction : Instruction Loop Functor Code)
    (stack : List (Instruction Loop Functor Code)) :
    (stackItems (instruction :: stack) : List (Item Functor Channel Code)) =
      instruction.items ++ stackItems stack := rfl

@[simp] theorem stackItems_append (front back : List (Instruction Loop Functor Code)) :
    (stackItems (front ++ back) : List (Item Functor Channel Code)) =
      stackItems front ++ stackItems back :=
  List.flatMap_append ..

@[simp] theorem stackItems_calls (calls : List (Call Loop Functor Code)) :
    (stackItems (calls.map .call) : List (Item Functor Channel Code)) = itemsOf calls :=
  List.flatMap_map ..

/-- The number of outstanding items of a kind. -/
def tally [Fintype Loop] [Fintype User] (kind : Item Functor Channel Code → Bool)
    (machine : Machine Loop User Functor Channel Code World) : Nat :=
  (∑ thread, (stackItems (machine.stack thread)).countP kind) +
    ∑ l, (machine.loop l).items.countP kind

/-- The thread of a loop is about to call a functor, in `runInLoop` or in `doPendingFunctors`. -/
def Machine.calls (machine : Machine Loop User Functor Channel Code World) (cb : Functor) : Prop :=
  (∃ l rest, machine.stack (.loop l) = .call (.runInLoop l cb) :: rest) ∨
    ∃ l executed rest active, (machine.loop l).position = .execute executed (cb :: rest) active

/-- What a step does to the client's world, the items it uses up, and the items it leaves. -/
inductive Effect (client : Client Loop User Functor Channel Code Input World)
    (machine : Machine Loop User Functor Channel Code World) :
    Event Loop User Channel Input → World → List (Item Functor Channel Code) →
      List (Item Functor Channel Code) → Prop where
  | execute (thread : Thread Loop User) (input : Input) (body : Code)
      (rest : List (Instruction Loop Functor Code)) (after : World)
      (calls : List (Call Loop Functor Code))
      (top : machine.stack thread = .call (.code body) :: rest)
      (executed : client.execute body input machine.world = some (after, calls)) :
      Effect client machine (.run thread input) after [.code body] (itemsOf calls)
  | invoke (event : Event Loop User Channel Input) (cb : Functor) (called : machine.calls cb) :
      Effect client machine event machine.world [.queued cb]
        (.spent cb :: itemsOf (client.invoke cb))
  | copy (event : Event Loop User Channel Input) (cb : Functor) :
      Effect client machine event (client.copy cb machine.world) [.queued cb]
        [.queued cb, .spent cb]
  | destroy (event : Event Loop User Channel Input) (cb : Functor) :
      Effect client machine event (client.destroy cb machine.world) [.spent cb] []
  | poll (l : Loop) (active : List (Ready Channel)) (input : Input) (after : World)
      (idle : machine.stack (.loop l) = []) (place : (machine.loop l).position = .poll)
      (distinct : (channelsOf active).Nodup)
      (polled : client.poll l (channelsOf active) input machine.world = some after) :
      Effect client machine (.advance l active input) after [] ((channelsOf active).map .ready)
  | deliver (event : Event Loop User Channel Input) (ch : Channel) :
      Effect client machine event machine.world [.ready ch] (itemsOf (client.handleEvent ch))
  | begin (thread : Thread Loop User) (input : Input) (after : World)
      (calls : List (Call Loop Functor Code)) (idle : machine.stack thread = [])
      (begun : client.begin thread input machine.world = some (after, calls)) :
      Effect client machine (.begin thread input) after [] (itemsOf calls)
  | silent (event : Event Loop User Channel Input) :
      Effect client machine event machine.world [] []

@[simp] theorem channelsOf_nil : channelsOf ([] : List (Ready Channel)) = [] := rfl

@[simp] theorem channelsOf_eventfd (active : List (Ready Channel)) :
    channelsOf (.eventfd :: active) = channelsOf active := rfl

@[simp] theorem channelsOf_channel (ch : Channel) (active : List (Ready Channel)) :
    channelsOf (.channel ch :: active) = ch :: channelsOf active := rfl

theorem mem_channelsOf {ch : Channel} {active : List (Ready Channel)} :
    ch ∈ channelsOf active ↔ .channel ch ∈ active := by
  induction active with
  | nil => simp
  | cons ready rest inductionHypothesis => cases ready <;> simp [inductionHypothesis]

theorem channelsOf_nodup {active : List (Ready Channel)} (distinct : active.Nodup) :
    (channelsOf active).Nodup := by
  induction active with
  | nil => exact List.nodup_nil
  | cons ready rest inductionHypothesis =>
    obtain ⟨fresh, restDistinct⟩ := List.nodup_cons.mp distinct
    cases ready with
    | eventfd => exact inductionHypothesis restDistinct
    | channel ch =>
      exact List.nodup_cons.mpr ⟨fun member => fresh (mem_channelsOf.mp member),
        inductionHypothesis restDistinct⟩

/-! ### How tallies change -/

variable [Fintype Loop] [Fintype User]

@[simp] theorem tally_setWorld (kind : Item Functor Channel Code → Bool)
    (machine : Machine Loop User Functor Channel Code World) (world : World) :
    tally kind (machine.setWorld world) = tally kind machine := rfl

/-- Nothing of a kind is outstanding where nothing of it lies. -/
theorem tally_eq_zero (kind : Item Functor Channel Code → Bool)
    {machine : Machine Loop User Functor Channel Code World}
    (emptyStacks : ∀ thread, (stackItems (machine.stack thread)).countP kind = 0)
    (emptyLoops : ∀ l, (machine.loop l).items.countP kind = 0) : tally kind machine = 0 := by
  rw [tally, sum_eq_zero _ emptyStacks, sum_eq_zero _ emptyLoops]

/-- The items on a stack are outstanding. -/
theorem stack_le_tally (kind : Item Functor Channel Code → Bool)
    (machine : Machine Loop User Functor Channel Code World) (thread : Thread Loop User) :
    (stackItems (machine.stack thread)).countP kind ≤ tally kind machine :=
  (le_sum (fun each => (stackItems (machine.stack each)).countP kind) thread).trans
    (Nat.le_add_right ..)

/-- The items of a loop are outstanding. -/
theorem loop_le_tally (kind : Item Functor Channel Code → Bool)
    (machine : Machine Loop User Functor Channel Code World) (l : Loop) :
    (machine.loop l).items.countP kind ≤ tally kind machine :=
  (le_sum (fun each => (machine.loop each).items.countP kind) l).trans (Nat.le_add_left ..)

theorem tally_pos_of_stack {kind : Item Functor Channel Code → Bool}
    {machine : Machine Loop User Functor Channel Code World} (thread : Thread Loop User)
    {item : Item Functor Channel Code} (member : item ∈ stackItems (machine.stack thread))
    (counted : kind item = true) : 0 < tally kind machine :=
  (List.countP_pos_iff.mpr ⟨item, member, counted⟩).trans_le (stack_le_tally kind machine thread)

theorem tally_pos_of_loop {kind : Item Functor Channel Code → Bool}
    {machine : Machine Loop User Functor Channel Code World} (l : Loop)
    {item : Item Functor Channel Code} (member : item ∈ (machine.loop l).items)
    (counted : kind item = true) : 0 < tally kind machine :=
  (List.countP_pos_iff.mpr ⟨item, member, counted⟩).trans_le (loop_le_tally kind machine l)

/-- A narrower kind has fewer items. -/
theorem tally_mono {narrow wide : Item Functor Channel Code → Bool}
    (implied : ∀ item, narrow item = true → wide item = true)
    (machine : Machine Loop User Functor Channel Code World) :
    tally narrow machine ≤ tally wide machine :=
  Nat.add_le_add (Finset.sum_le_sum fun _ _ => List.countP_mono_left fun item _ => implied item)
    (Finset.sum_le_sum fun _ _ => List.countP_mono_left fun item _ => implied item)

variable [DecidableEq Loop]

theorem tally_setLoop (kind : Item Functor Channel Code → Bool)
    (machine : Machine Loop User Functor Channel Code World) (l : Loop)
    (eventLoop : EventLoop Functor Channel) :
    tally kind (machine.setLoop l eventLoop) + (machine.loop l).items.countP kind =
      tally kind machine + eventLoop.items.countP kind := by
  have moved := sum_update (fun _ (each : EventLoop Functor Channel) => each.items.countP kind)
    machine.loop l eventLoop
  simp only [tally, Machine.setLoop]
  omega

variable [DecidableEq User]

theorem tally_setStack (kind : Item Functor Channel Code → Bool)
    (machine : Machine Loop User Functor Channel Code World) (thread : Thread Loop User)
    (stack : List (Instruction Loop Functor Code)) :
    tally kind (machine.setStack thread stack) +
        (stackItems (machine.stack thread)).countP kind =
      tally kind machine + (stackItems stack).countP kind := by
  have moved := sum_update
    (fun _ (each : List (Instruction Loop Functor Code)) => (stackItems each).countP kind)
    machine.stack thread stack
  simp only [tally, Machine.setStack]
  omega

theorem move_items {eventLoop moved : EventLoop Functor Channel}
    (move : LoopMove eventLoop moved) (kind : Item Functor Channel Code → Bool) :
    moved.items.countP kind = eventLoop.items.countP kind := by
  cases move <;> rename_i place <;>
    simp_all [EventLoop.items, EventLoop.at, Position.items]

/-- Every step is an effect on the world that uses up items which were outstanding, and the tally
of every kind of item changes by the items left minus the items used up. -/
theorem step_effect {client : Client Loop User Functor Channel Code Input World}
    {machine after : Machine Loop User Functor Channel Code World}
    {event : Event Loop User Channel Input} (step : Step client machine event after) :
    ∃ used left, Effect client machine event after.world used left ∧
      ∀ kind, used.countP kind ≤ tally kind machine ∧
        tally kind after + used.countP kind = tally kind machine + left.countP kind := by
  cases step with
  | code thread input body rest world calls top executed =>
    refine ⟨_, _, .execute thread input body rest world calls top executed, fun kind => ?_⟩
    have held := stack_le_tally kind machine thread
    have moved := tally_setStack kind (machine.setWorld world) thread (calls.map .call ++ rest)
    simp only [tally_setWorld, setWorld_stack, top, stackItems_cons, stackItems_append,
      stackItems_calls, Instruction.items, Call.items, List.countP_append] at held moved ⊢
    omega
  | runHere l input cb rest top =>
    refine ⟨_, _, .invoke _ cb (.inl ⟨l, rest, top⟩), fun kind => ?_⟩
    have held := stack_le_tally kind machine (.loop l)
    have moved := tally_setStack kind machine (.loop l)
      ((client.invoke cb).map .call ++ .destroy cb :: rest)
    simp only [top, stackItems_cons, stackItems_append, stackItems_calls, Instruction.items,
      Call.items, List.countP_append, List.countP_cons, List.countP_nil] at held moved ⊢
    omega
  | runQueued thread input l cb rest top foreign =>
    refine ⟨_, _, .copy _ cb, fun kind => ?_⟩
    have held := stack_le_tally kind machine thread
    have moved := tally_setStack kind (machine.setWorld (client.copy cb machine.world)) thread
      (.call (.queueInLoop l cb) :: .destroy cb :: rest)
    simp only [tally_setWorld, setWorld_stack, top, stackItems_cons, Instruction.items,
      Call.items, List.countP_append, List.countP_cons, List.countP_nil] at held moved ⊢
    omega
  | pushBack thread input l cb rest top =>
    refine ⟨_, _, .silent _, fun kind => ?_⟩
    have pushed := tally_setLoop kind machine l ((machine.loop l).pushBack cb)
    have moved := tally_setStack kind (machine.setLoop l ((machine.loop l).pushBack cb)) thread
      (.wakeup l :: rest)
    simp only [setLoop_stack, top, stackItems_cons, Instruction.items, Call.items,
      EventLoop.pushBack, EventLoop.items, List.map_append, List.map_cons, List.map_nil,
      List.countP_append, List.countP_cons, List.countP_nil] at pushed moved ⊢
    omega
  | quit thread input l rest top =>
    refine ⟨_, _, .silent _, fun kind => ?_⟩
    have stored := tally_setLoop kind machine l (machine.loop l).storeQuit
    have moved := tally_setStack kind (machine.setLoop l (machine.loop l).storeQuit) thread
      (.wakeup l :: rest)
    simp only [setLoop_stack, top, stackItems_cons, Instruction.items, Call.items,
      EventLoop.storeQuit, EventLoop.items, List.countP_append, List.countP_nil] at stored moved ⊢
    omega
  | wakeup thread input l rest top =>
    refine ⟨_, _, .silent _, fun kind => ?_⟩
    have written := tally_setLoop kind machine l (machine.loop l).wakeup
    have moved := tally_setStack kind (machine.setLoop l (machine.loop l).wakeup) thread rest
    simp only [setLoop_stack, top, stackItems_cons, Instruction.items, EventLoop.wakeup,
      EventLoop.items, List.countP_append, List.countP_nil] at written moved ⊢
    omega
  | destroy thread input cb rest top =>
    refine ⟨_, _, .destroy _ cb, fun kind => ?_⟩
    have held := stack_le_tally kind machine thread
    have moved := tally_setStack kind (machine.setWorld (client.destroy cb machine.world)) thread
      rest
    simp only [tally_setWorld, setWorld_stack, top, stackItems_cons, Instruction.items,
      List.countP_append, List.countP_cons, List.countP_nil] at held moved ⊢
    omega
  | move l active input eventLoop idle moved =>
    refine ⟨_, _, .silent _, fun kind => ?_⟩
    have changed := tally_setLoop kind machine l eventLoop
    rw [move_items moved kind] at changed
    simp only [List.countP_nil]
    omega
  | poll l active input world idle place distinct bounded counted polled =>
    refine ⟨_, _, .poll l active input world idle place (channelsOf_nodup distinct) polled,
      fun kind => ?_⟩
    have changed := tally_setLoop kind (machine.setWorld world) l
      ((machine.loop l).at (.dispatch active))
    simp only [tally_setWorld, setWorld_loop, EventLoop.at, EventLoop.items, place,
      Position.items, Position.active, Position.called, Position.uncalled, channelsOf_nil,
      List.map_nil, List.countP_append, List.countP_nil] at changed ⊢
    omega
  | dispatch l active input ch rest idle place =>
    refine ⟨_, _, .deliver _ ch, fun kind => ?_⟩
    have held := loop_le_tally kind machine l
    have changed := tally_setLoop kind machine l ((machine.loop l).at (.handleEvent ch rest))
    have moved := tally_setStack kind
      (machine.setLoop l ((machine.loop l).at (.handleEvent ch rest))) (.loop l)
      ((client.handleEvent ch).map .call)
    simp only [setLoop_stack, idle, stackItems_nil, stackItems_calls, EventLoop.at,
      EventLoop.items, place, Position.items, Position.active, Position.called, Position.uncalled,
      channelsOf_channel, List.map_cons, List.countP_append, List.countP_cons, List.countP_nil]
      at held changed moved ⊢
    omega
  | invoke l active input executed cb rest next idle place =>
    refine ⟨_, _, .invoke _ cb (.inr ⟨l, executed, rest, next, place⟩), fun kind => ?_⟩
    have held := loop_le_tally kind machine l
    have changed := tally_setLoop kind machine l
      ((machine.loop l).at (.execute (executed ++ [cb]) rest next))
    have moved := tally_setStack kind
      (machine.setLoop l ((machine.loop l).at (.execute (executed ++ [cb]) rest next))) (.loop l)
      ((client.invoke cb).map .call)
    simp only [setLoop_stack, idle, stackItems_nil, stackItems_calls, EventLoop.at,
      EventLoop.items, place, Position.items, Position.active, Position.called,
      Position.uncalled, List.map_append, List.map_cons, List.map_nil,
      List.countP_append, List.countP_cons, List.countP_nil] at held changed moved ⊢
    omega
  | clear l active input cb rest next idle place =>
    refine ⟨_, _, .destroy _ cb, fun kind => ?_⟩
    have held := loop_le_tally kind machine l
    have changed := tally_setLoop kind (machine.setWorld (client.destroy cb machine.world)) l
      ((machine.loop l).at (.clear rest next))
    simp only [tally_setWorld, setWorld_loop, EventLoop.at, EventLoop.items, place,
      Position.items, Position.active, Position.called, Position.uncalled, List.map_cons,
      List.map_nil, List.countP_append, List.countP_cons, List.countP_nil]
      at held changed ⊢
    omega
  | begin thread input world calls idle outside begun =>
    refine ⟨_, _, .begin thread input world calls idle begun, fun kind => ?_⟩
    have moved := tally_setStack kind (machine.setWorld world) thread (calls.map .call)
    simp only [tally_setWorld, setWorld_stack, idle, stackItems_nil, stackItems_calls,
      List.countP_nil] at moved ⊢
    omega

end Items

end MultiReactor
