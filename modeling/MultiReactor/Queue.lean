/-
This file proves that the functor queue of an event loop loses nothing, whatever
the client and however the threads interleave. `doPendingFunctors` swaps the
queue out under the mutex and calls the functors outside it, while other threads
and the functors themselves push more. What holds in between is a law of
conservation: the functors called so far, the rest of the vector swapped out and
`pendingFunctors_`, one after the other, are the functors pushed so far in the
order in which `push_back` took the mutex.
-/

import MultiReactor.Discipline

namespace MultiReactor

open Transition

section Queue

variable {Loop User Functor Channel Code Input World : Type} [DecidableEq Loop]

/-- The steps of a run: the process before each, and the event. -/
abbrev Past (Loop User Functor Channel Code Input World : Type) :=
  List (Machine Loop User Functor Channel Code World × Event Loop User Channel Input)

/-! ### What goes into a queue and what comes out of it -/

/-- The instruction a step executes, and the thread it is on. -/
def instructionOf : Machine Loop User Functor Channel Code World × Event Loop User Channel Input →
    Option (Thread Loop User × Instruction Loop Functor Code)
  | (machine, .run thread _) => (machine.stack thread).head?.map fun top => (thread, top)
  | _ => none

/-- The functor a step pushes into a loop's queue. -/
def pushes (l : Loop)
    (step : Machine Loop User Functor Channel Code World × Event Loop User Channel Input) :
    List Functor :=
  match instructionOf step with
  | some (_, .call (.queueInLoop m cb)) => if m = l then [cb] else []
  | _ => []

/-- The functor the range-for over `functors` calls next. -/
@[simp] def Position.head : Position Functor Channel → List Functor
  | .execute _ (cb :: _) _ => [cb]
  | _ => []

/-- The functor of a loop's queue that a step calls. -/
def calls (l : Loop) :
    Machine Loop User Functor Channel Code World × Event Loop User Channel Input → List Functor
  | (machine, .advance m _ _) => if m = l then (machine.loop l).position.head else []
  | _ => []

/-- The functors pushed into a loop's queue, in order. -/
def pushed (l : Loop) (past : Past Loop User Functor Channel Code Input World) : List Functor :=
  past.flatMap (pushes l)

/-- The functors of a loop's queue that have been called, in order. -/
def called (l : Loop) (past : Past Loop User Functor Channel Code Input World) : List Functor :=
  past.flatMap (calls l)

/-- The functors of a loop's queue whose calls have not returned. They have when nothing is left on
the stack of the loop's thread. -/
def running (l : Loop) (past : Past Loop User Functor Channel Code Input World) : List Functor :=
  past.foldl
    (fun under step => (if step.1.stack (.loop l) = [] then [] else under) ++ calls l step) []

/-! ### What a step does to one loop -/

/-- The loop whose members an instruction changes. -/
def Instruction.loop : Instruction Loop Functor Code → Option Loop
  | .call (.queueInLoop l _) => some l
  | .call (.quit l) => some l
  | .wakeup l => some l
  | _ => none

/-- The loop whose members a step changes. -/
def changed : Machine Loop User Functor Channel Code World × Event Loop User Channel Input →
    Option Loop
  | (_, .advance l _ _) => some l
  | step => (instructionOf step).bind fun executed => executed.2.loop

omit [DecidableEq Loop] in
theorem instructionOf_run {machine : Machine Loop User Functor Channel Code World}
    {thread : Thread Loop User} {top : Instruction Loop Functor Code}
    {rest : List (Instruction Loop Functor Code)} (stack : machine.stack thread = top :: rest)
    (input : Input) :
    instructionOf (machine, (.run thread input : Event Loop User Channel Input)) =
      some (thread, top) := by
  rw [instructionOf, stack]
  rfl

omit [DecidableEq Loop] in
theorem changed_run {machine : Machine Loop User Functor Channel Code World}
    {thread : Thread Loop User} {top : Instruction Loop Functor Code}
    {rest : List (Instruction Loop Functor Code)} (stack : machine.stack thread = top :: rest)
    (input : Input) :
    changed (machine, (.run thread input : Event Loop User Channel Input)) = top.loop := by
  show (instructionOf _).bind _ = _
  rw [instructionOf_run stack]
  rfl

/-- What a step does to a loop. -/
inductive LoopChange (machine : Machine Loop User Functor Channel Code World) (l : Loop) :
    Event Loop User Channel Input → EventLoop Functor Channel → Prop where
  /-- the step is about something else -/
  | same (event : Event Loop User Channel Input) (other : changed (machine, event) ≠ some l) :
      LoopChange machine l event (machine.loop l)
  | pushBack (thread : Thread Loop User) (input : Input) (cb : Functor)
      (rest : List (Instruction Loop Functor Code))
      (top : machine.stack thread = .call (.queueInLoop l cb) :: rest) :
      LoopChange machine l (.run thread input) ((machine.loop l).pushBack cb)
  | quit (thread : Thread Loop User) (input : Input) (rest : List (Instruction Loop Functor Code))
      (top : machine.stack thread = .call (.quit l) :: rest) :
      LoopChange machine l (.run thread input) (machine.loop l).storeQuit
  | wakeup (thread : Thread Loop User) (input : Input)
      (rest : List (Instruction Loop Functor Code))
      (top : machine.stack thread = .wakeup l :: rest) :
      LoopChange machine l (.run thread input) (machine.loop l).wakeup
  | move (active : List (Ready Channel)) (input : Input) (eventLoop : EventLoop Functor Channel)
      (moved : LoopMove (machine.loop l) eventLoop) :
      LoopChange machine l (.advance l active input) eventLoop
  | poll (active : List (Ready Channel)) (input : Input)
      (place : (machine.loop l).position = .poll) (distinct : active.Nodup)
      (counted : .eventfd ∈ active → 0 < (machine.loop l).eventfd_) :
      LoopChange machine l (.advance l active input) ((machine.loop l).at (.dispatch active))
  | dispatch (active : List (Ready Channel)) (input : Input) (ch : Channel)
      (rest : List (Ready Channel))
      (place : (machine.loop l).position = .dispatch (.channel ch :: rest)) :
      LoopChange machine l (.advance l active input) ((machine.loop l).at (.handleEvent ch rest))
  | invoke (active : List (Ready Channel)) (input : Input) (executed : List Functor)
      (cb : Functor) (rest : List Functor) (after : List (Ready Channel))
      (place : (machine.loop l).position = .execute executed (cb :: rest) after) :
      LoopChange machine l (.advance l active input)
        ((machine.loop l).at (.execute (executed ++ [cb]) rest after))
  | clear (active : List (Ready Channel)) (input : Input) (cb : Functor) (rest : List Functor)
      (after : List (Ready Channel))
      (place : (machine.loop l).position = .clear (cb :: rest) after) :
      LoopChange machine l (.advance l active input) ((machine.loop l).at (.clear rest after))

/-- A step that changes one loop does so to that loop and to no other. -/
theorem LoopChange.of_setLoop {machine : Machine Loop User Functor Channel Code World}
    {event : Event Loop User Channel Input} {m : Loop} {eventLoop : EventLoop Functor Channel}
    (own : LoopChange machine m event eventLoop) (isChanged : changed (machine, event) = some m)
    (l : Loop) : LoopChange machine l event ((machine.setLoop m eventLoop).loop l) := by
  by_cases isLoop : l = m
  · subst isLoop
    rw [setLoop_loop_self]
    exact own
  · rw [setLoop_loop_of_ne _ _ isLoop]
    refine .same event fun same => isLoop ?_
    exact Option.some.inj (same.symm.trans isChanged)

/-- Every step does one of these to each loop. -/
theorem step_loop [DecidableEq User] {client : Client Loop User Functor Channel Code Input World}
    {machine after : Machine Loop User Functor Channel Code World}
    {event : Event Loop User Channel Input} (step : Step client machine event after) (l : Loop) :
    LoopChange machine l event (after.loop l) := by
  cases step with
  | code thread input body rest world calls top executed =>
    exact .same _ (by rw [changed_run top]; nofun)
  | runHere m input cb rest top => exact .same _ (by rw [changed_run top]; nofun)
  | runQueued thread input m cb rest top foreign =>
    exact .same _ (by rw [changed_run top]; nofun)
  | destroy thread input cb rest top => exact .same _ (by rw [changed_run top]; nofun)
  | begin thread input world calls idle outside begun => exact .same _ nofun
  | pushBack thread input m cb rest top =>
    exact .of_setLoop (.pushBack thread input cb rest top) (changed_run top input) l
  | quit thread input m rest top =>
    exact .of_setLoop (.quit thread input rest top) (changed_run top input) l
  | wakeup thread input m rest top =>
    exact .of_setLoop (.wakeup thread input rest top) (changed_run top input) l
  | move m active input eventLoop idle moved =>
    exact .of_setLoop (.move active input eventLoop moved) rfl l
  | poll m active input world idle place distinct bounded counted polled =>
    exact .of_setLoop (.poll active input place distinct counted) rfl l
  | dispatch m active input ch rest idle place =>
    exact .of_setLoop (.dispatch active input ch rest place) rfl l
  | invoke m active input executed cb rest next idle place =>
    exact .of_setLoop (.invoke active input executed cb rest next place) rfl l
  | clear m active input cb rest next idle place =>
    exact .of_setLoop (.clear active input cb rest next place) rfl l

/-! ### Conservation -/

/-- A move of a loop's own thread calls no functor and keeps the queue and the rest of the vector
in order. -/
theorem waiting_of_move {eventLoop moved : EventLoop Functor Channel}
    (move : LoopMove eventLoop moved) :
    eventLoop.position.head ++ moved.waiting = eventLoop.waiting := by
  cases move <;> rename_i place <;> simp_all [EventLoop.waiting, EventLoop.at]

/-- A move of a loop's own thread calls no functor. -/
theorem head_of_move {eventLoop moved : EventLoop Functor Channel}
    (move : LoopMove eventLoop moved) : eventLoop.position.head = [] := by
  cases move <;> rename_i place <;> simp_all

/-- A step that leaves a loop alone pushes nothing into its queue. -/
theorem pushes_of_other {machine : Machine Loop User Functor Channel Code World} {l : Loop}
    {event : Event Loop User Channel Input} (other : changed (machine, event) ≠ some l) :
    pushes l (machine, event) = [] := by
  unfold pushes
  split
  · rename_i thread m cb executed
    refine if_neg fun isLoop => other ?_
    cases event with
    | run t input =>
      show (instructionOf _).bind _ = _
      rw [executed, isLoop]
      rfl
    | advance m active input => cases executed
    | begin t input => cases executed
  · rfl

/-- A step that leaves a loop alone calls no functor of its queue. -/
theorem calls_of_other {machine : Machine Loop User Functor Channel Code World} {l : Loop}
    {event : Event Loop User Channel Input} (other : changed (machine, event) ≠ some l) :
    calls l (machine, event) = [] := by
  cases event with
  | run thread input => rfl
  | advance m active input => exact if_neg fun isLoop => other (congrArg some isLoop)
  | begin thread input => rfl

/-- What a step calls comes off the front of what waits, and what it pushes goes to the back. -/
theorem LoopChange.queue {machine : Machine Loop User Functor Channel Code World} {l : Loop}
    {event : Event Loop User Channel Input} {after : EventLoop Functor Channel}
    (change : LoopChange machine l event after) :
    calls l (machine, event) ++ after.waiting =
      (machine.loop l).waiting ++ pushes l (machine, event) := by
  have calls_advance (active : List (Ready Channel)) (input : Input) :
      calls l (machine, (.advance l active input : Event Loop User Channel Input)) =
        (machine.loop l).position.head := if_pos rfl
  have pushes_advance (active : List (Ready Channel)) (input : Input) :
      pushes l (machine, (.advance l active input : Event Loop User Channel Input)) = [] := rfl
  cases change with
  | same event other =>
    rw [pushes_of_other other, calls_of_other other, List.append_nil]
    rfl
  | pushBack thread input cb rest top =>
    simp [pushes, calls, instructionOf_run top, EventLoop.waiting, EventLoop.pushBack]
  | quit thread input rest top =>
    simp [pushes, calls, instructionOf_run top, EventLoop.waiting, EventLoop.storeQuit]
  | wakeup thread input rest top =>
    simp [pushes, calls, instructionOf_run top, EventLoop.waiting, EventLoop.wakeup]
  | move active input eventLoop moved =>
    rw [calls_advance, waiting_of_move moved, pushes_advance, List.append_nil]
  | poll active input place distinct counted =>
    simp [calls_advance, pushes_advance, place, EventLoop.waiting, EventLoop.at]
  | dispatch active input ch rest place =>
    simp [calls_advance, pushes_advance, place, EventLoop.waiting, EventLoop.at]
  | invoke active input executed cb rest next place =>
    simp [calls_advance, pushes_advance, place, EventLoop.waiting, EventLoop.at]
  | clear active input cb rest next place =>
    simp [calls_advance, pushes_advance, place, EventLoop.waiting, EventLoop.at]

/-! ### Runs -/

section Reachable

variable [DecidableEq User] [DecidableEq Channel]
  {client : Client Loop User Functor Channel Code Input World} {world : World}
  {run : Recorded (Machine Loop User Functor Channel Code World) (Event Loop User Channel Input)}

/-- What has been called and what waits is what has been pushed. -/
theorem reachable_queue (reachable : Reachable (client.system world).recorded run) (l : Loop) :
    called l run.past ++ (run.now.loop l).waiting = pushed l run.past := by
  refine reachable.invariant
    (fun run => called l run.past ++ (run.now.loop l).waiting = pushed l run.past) ?_ ?_
  · rintro run ⟨fresh, initial⟩
    rw [fresh, show run.now = _ from initial]
    rfl
  · intro run event after _ conserved _ step
    obtain ⟨taken, past⟩ := recorded_step step
    have change := (step_loop (step_cases taken) l).queue
    rw [past, called, pushed, List.flatMap_append, List.flatMap_append, List.flatMap_singleton,
      List.flatMap_singleton, List.append_assoc, change, ← List.append_assoc]
    exact congrArg (· ++ _) conserved

/-- A functor of the queue is called only when nothing is left on the stack of the thread. -/
theorem idle_of_calls {machine after : Machine Loop User Functor Channel Code World}
    {event : Event Loop User Channel Input} (step : client.step machine event = some after)
    {l : Loop} (called : calls l (machine, event) ≠ []) : machine.stack (.loop l) = [] := by
  cases event with
  | run thread input => exact absurd rfl called
  | advance m active input =>
    have same : m = l := by
      by_contra other
      exact called (if_neg other)
    simp only [Client.step] at step
    split at step
    · rename_i idle
      exact same ▸ idle
    · cases step
  | begin thread input => exact absurd rfl called

/-- At most one functor of a queue is running. -/
theorem reachable_running (reachable : Reachable (client.system world).recorded run) (l : Loop) :
    (running l run.past).length ≤ 1 := by
  refine reachable.invariant (fun run => (running l run.past).length ≤ 1) ?_ ?_
  · rintro run ⟨fresh, -⟩
    rw [fresh]
    exact Nat.zero_le 1
  · intro run event after _ single _ step
    obtain ⟨taken, past⟩ := recorded_step step
    rw [past, running, List.foldl_append, ← running, List.foldl_cons, List.foldl_nil,
      List.length_append]
    have one : (calls l (run.now, event)).length ≤ 1 := by
      unfold calls
      split
      · split
        · unfold Position.head
          split <;> simp
        · simp
      · simp
    by_cases idle : run.now.stack (.loop l) = []
    · rw [if_pos idle]
      simpa using one
    · have none : calls l (run.now, event) = [] := by
        by_contra called
        exact idle (idle_of_calls taken called)
      rw [if_neg idle, none]
      exact single

/-- Queued functors are called exactly once and in order, one at a time: in every state of a run,
the functors of a loop's queue called so far, the rest of the vector swapped out and
`pendingFunctors_` are the functors pushed so far, in the order of the pushes, and at most one of
those called has not returned. -/
theorem queued_in_order (client : Client Loop User Functor Channel Code Input World) (world : World)
    (reachable : Reachable (client.system world).recorded run) (l : Loop) :
    called l run.past ++ (run.now.loop l).position.uncalled ++
        (run.now.loop l).pendingFunctors_ = pushed l run.past ∧
      (running l run.past).length ≤ 1 := by
  rw [List.append_assoc]
  exact ⟨reachable_queue reachable l, reachable_running reachable l⟩

end Reachable

end Queue

/-- One loop, and a thread that makes the calls the input lists. A functor that is called queues the
next smaller one, and the world is not used. -/
def countdown : Client Unit Unit Nat Empty Empty (List (Call Unit Nat Empty)) Unit :=
  { execute := nofun
    invoke := fun left => match left with
      | 0 => []
      | less + 1 => [.queueInLoop () less]
    handleEvent := nofun
    copy := fun _ world => world
    destroy := fun _ world => world
    poll := fun _ _ _ world => some world
    begin := fun _ made world => some (world, made) }

/-- The runs of `countdown`. -/
abbrev CountdownRun :=
  Recorded (Machine Unit Unit Nat Empty Empty Unit)
    (Event Unit Unit Empty (List (Call Unit Nat Empty)))

/-- The first of two functors has queued another one behind the second. -/
theorem queued_in_order_countdown :
    ∃ run : CountdownRun,
      called () run.past = [3] ∧ (run.now.loop ()).position.uncalled = [5] ∧
        (run.now.loop ()).pendingFunctors_ = [2] ∧ pushed () run.past = [3, 5, 2] ∧
        (running () run.past).length ≤ 1 := by
  have queued : ∃ run, Reachable (countdown.system ()).recorded run ∧ called () run.past = [3] ∧
      (run.now.loop ()).position.uncalled = [5] ∧ (run.now.loop ()).pendingFunctors_ = [2] :=
    exists_of_replay (initial_recorded rfl)
      (.begin (.user ()) [.queueInLoop () 3, .queueInLoop () 5] ::
        List.replicate 4 (.run (.user ()) []) ++ List.replicate 2 (.advance () [] []) ++
        [.advance () [.eventfd] []] ++ List.replicate 4 (.advance () [] []) ++
        [.run (.loop ()) []]) (by decide)
  obtain ⟨run, reachable, front, rest, back⟩ := queued
  obtain ⟨conserved, single⟩ := queued_in_order countdown () reachable ()
  rw [front, rest, back] at conserved
  exact ⟨run, front, rest, back, conserved.symm, single⟩

end MultiReactor
