/-
This file says once what a step of the process can do. `LoopMove` lists the
moves of a loop's thread inside `EventLoop::loop` that touch nothing but that
loop; `Step` lists every step of the machine with its guard and its result.
`step_cases` is the inversion of `Client.step`; every invariant of the
development is proved by cases on `Step`, and no later proof unfolds the step
function.
-/

import MultiReactor.EventLoop

namespace MultiReactor

open Transition

/-! ### The moves of a loop's thread -/

/-- The moves inside `EventLoop::loop` and `doPendingFunctors` that call no client code. -/
inductive LoopMove {Functor Channel : Type} :
    EventLoop Functor Channel → EventLoop Functor Channel → Prop where
  | enter (eventLoop : EventLoop Functor Channel) (place : eventLoop.position = .outside) :
      LoopMove eventLoop (eventLoop.at .test)
  | leave (eventLoop : EventLoop Functor Channel) (place : eventLoop.position = .test)
      (stopped : eventLoop.quit_ = true) : LoopMove eventLoop (eventLoop.at .outside)
  | wait (eventLoop : EventLoop Functor Channel) (place : eventLoop.position = .test)
      (running : eventLoop.quit_ = false) : LoopMove eventLoop (eventLoop.at .poll)
  | endBatch (eventLoop : EventLoop Functor Channel) (place : eventLoop.position = .dispatch []) :
      LoopMove eventLoop (eventLoop.at .test)
  | takeEventfd (eventLoop : EventLoop Functor Channel) (active : List (Ready Channel))
      (place : eventLoop.position = .dispatch (.eventfd :: active)) :
      LoopMove eventLoop (eventLoop.at (.handleReadEventFd active))
  | returned (eventLoop : EventLoop Functor Channel) (ch : Channel)
      (active : List (Ready Channel)) (place : eventLoop.position = .handleEvent ch active) :
      LoopMove eventLoop (eventLoop.at (.dispatch active))
  | read (eventLoop : EventLoop Functor Channel) (active : List (Ready Channel))
      (place : eventLoop.position = .handleReadEventFd active)
      (counted : 0 < eventLoop.eventfd_) :
      LoopMove eventLoop { eventLoop with eventfd_ := 0, position := .swap active }
  | readFailed (eventLoop : EventLoop Functor Channel) (active : List (Ready Channel))
      (place : eventLoop.position = .handleReadEventFd active)
      (empty : eventLoop.eventfd_ = 0) : LoopMove eventLoop (eventLoop.at (.dispatch active))
  | swap (eventLoop : EventLoop Functor Channel) (active : List (Ready Channel))
      (place : eventLoop.position = .swap active) :
      LoopMove eventLoop { eventLoop with
        pendingFunctors_ := [], position := .execute [] eventLoop.pendingFunctors_ active }
  | executed (eventLoop : EventLoop Functor Channel) (functors : List Functor)
      (active : List (Ready Channel))
      (place : eventLoop.position = .execute functors [] active) :
      LoopMove eventLoop (eventLoop.at (.clear functors active))
  | cleared (eventLoop : EventLoop Functor Channel) (active : List (Ready Channel))
      (place : eventLoop.position = .clear [] active) :
      LoopMove eventLoop (eventLoop.at (.dispatch active))

section Step

variable {Loop User Functor Channel Code Input World : Type} [DecidableEq Loop]
  [DecidableEq User]

/-! ### The steps of the machine -/

/-- Every step, with its guard and its result. -/
inductive Step (client : Client Loop User Functor Channel Code Input World)
    (machine : Machine Loop User Functor Channel Code World) :
    Event Loop User Channel Input → Machine Loop User Functor Channel Code World → Prop where
  | code (thread : Thread Loop User) (input : Input) (body : Code)
      (rest : List (Instruction Loop Functor Code)) (world : World)
      (calls : List (Call Loop Functor Code))
      (top : machine.stack thread = .call (.code body) :: rest)
      (executed : client.execute body input machine.world = some (world, calls)) :
      Step client machine (.run thread input)
        ((machine.setWorld world).setStack thread (calls.map .call ++ rest))
  | runHere (l : Loop) (input : Input) (cb : Functor)
      (rest : List (Instruction Loop Functor Code))
      (top : machine.stack (.loop l) = .call (.runInLoop l cb) :: rest) :
      Step client machine (.run (.loop l) input)
        (machine.setStack (.loop l) ((client.invoke cb).map .call ++ .destroy cb :: rest))
  | runQueued (thread : Thread Loop User) (input : Input) (l : Loop) (cb : Functor)
      (rest : List (Instruction Loop Functor Code))
      (top : machine.stack thread = .call (.runInLoop l cb) :: rest)
      (foreign : thread ≠ .loop l) :
      Step client machine (.run thread input)
        ((machine.setWorld (client.copy cb machine.world)).setStack thread
          (.call (.queueInLoop l cb) :: .destroy cb :: rest))
  | pushBack (thread : Thread Loop User) (input : Input) (l : Loop) (cb : Functor)
      (rest : List (Instruction Loop Functor Code))
      (top : machine.stack thread = .call (.queueInLoop l cb) :: rest) :
      Step client machine (.run thread input)
        ((machine.setLoop l ((machine.loop l).pushBack cb)).setStack thread (.wakeup l :: rest))
  | quit (thread : Thread Loop User) (input : Input) (l : Loop)
      (rest : List (Instruction Loop Functor Code))
      (top : machine.stack thread = .call (.quit l) :: rest) :
      Step client machine (.run thread input)
        ((machine.setLoop l (machine.loop l).storeQuit).setStack thread (.wakeup l :: rest))
  | wakeup (thread : Thread Loop User) (input : Input) (l : Loop)
      (rest : List (Instruction Loop Functor Code))
      (top : machine.stack thread = .wakeup l :: rest) :
      Step client machine (.run thread input)
        ((machine.setLoop l (machine.loop l).wakeup).setStack thread rest)
  | destroy (thread : Thread Loop User) (input : Input) (cb : Functor)
      (rest : List (Instruction Loop Functor Code))
      (top : machine.stack thread = .destroy cb :: rest) :
      Step client machine (.run thread input)
        ((machine.setWorld (client.destroy cb machine.world)).setStack thread rest)
  | move (l : Loop) (active : List (Ready Channel)) (input : Input)
      (eventLoop : EventLoop Functor Channel) (idle : machine.stack (.loop l) = [])
      (moved : LoopMove (machine.loop l) eventLoop) :
      Step client machine (.advance l active input) (machine.setLoop l eventLoop)
  | poll (l : Loop) (active : List (Ready Channel)) (input : Input) (world : World)
      (idle : machine.stack (.loop l) = []) (place : (machine.loop l).position = .poll)
      (distinct : active.Nodup) (bounded : active.length ≤ maxEvents)
      (counted : .eventfd ∈ active → 0 < (machine.loop l).eventfd_)
      (polled : client.poll l (channelsOf active) input machine.world = some world) :
      Step client machine (.advance l active input)
        ((machine.setWorld world).setLoop l ((machine.loop l).at (.dispatch active)))
  | dispatch (l : Loop) (active : List (Ready Channel)) (input : Input) (ch : Channel)
      (rest : List (Ready Channel)) (idle : machine.stack (.loop l) = [])
      (place : (machine.loop l).position = .dispatch (.channel ch :: rest)) :
      Step client machine (.advance l active input)
        ((machine.setLoop l ((machine.loop l).at (.handleEvent ch rest))).setStack (.loop l)
          ((client.handleEvent ch).map .call))
  | invoke (l : Loop) (active : List (Ready Channel)) (input : Input) (executed : List Functor)
      (cb : Functor) (rest : List Functor) (after : List (Ready Channel))
      (idle : machine.stack (.loop l) = [])
      (place : (machine.loop l).position = .execute executed (cb :: rest) after) :
      Step client machine (.advance l active input)
        ((machine.setLoop l ((machine.loop l).at (.execute (executed ++ [cb]) rest after))).setStack
          (.loop l) ((client.invoke cb).map .call))
  | clear (l : Loop) (active : List (Ready Channel)) (input : Input) (cb : Functor)
      (rest : List Functor) (after : List (Ready Channel)) (idle : machine.stack (.loop l) = [])
      (place : (machine.loop l).position = .clear (cb :: rest) after) :
      Step client machine (.advance l active input)
        ((machine.setWorld (client.destroy cb machine.world)).setLoop l
          ((machine.loop l).at (.clear rest after)))
  | begin (thread : Thread Loop User) (input : Input) (world : World)
      (calls : List (Call Loop Functor Code)) (idle : machine.stack thread = [])
      (outside : machine.outside thread = true)
      (begun : client.begin thread input machine.world = some (world, calls)) :
      Step client machine (.begin thread input)
        ((machine.setWorld world).setStack thread (calls.map .call))

theorem run_cases {client : Client Loop User Functor Channel Code Input World}
    {machine after : Machine Loop User Functor Channel Code World} {thread : Thread Loop User}
    {input : Input} (step : client.run machine thread input = some after) :
    Step client machine (.run thread input) after := by
  unfold Client.run at step
  split at step
  · cases step
  · rename_i body rest top
    obtain ⟨⟨world, calls⟩, executed, rfl⟩ := Option.map_eq_some_iff.mp step
    exact .code thread input body rest world calls top executed
  · rename_i l cb rest top
    split at step
    · rename_i same
      subst same
      obtain rfl := Option.some.inj step
      exact .runHere l input cb rest top
    · rename_i foreign
      obtain rfl := Option.some.inj step
      exact .runQueued thread input l cb rest top foreign
  · rename_i l cb rest top
    obtain rfl := Option.some.inj step
    exact .pushBack thread input l cb rest top
  · rename_i l rest top
    obtain rfl := Option.some.inj step
    exact .quit thread input l rest top
  · rename_i l rest top
    obtain rfl := Option.some.inj step
    exact .wakeup thread input l rest top
  · rename_i cb rest top
    obtain rfl := Option.some.inj step
    exact .destroy thread input cb rest top

variable [DecidableEq Channel]

theorem advance_cases {client : Client Loop User Functor Channel Code Input World}
    {machine after : Machine Loop User Functor Channel Code World} {l : Loop}
    {active : List (Ready Channel)} {input : Input} (idle : machine.stack (.loop l) = [])
    (step : client.advance machine l active input = some after) :
    Step client machine (.advance l active input) after := by
  unfold Client.advance at step
  dsimp only at step
  split at step
  · rename_i place
    obtain rfl := Option.some.inj step
    exact .move l active input _ idle (.enter _ place)
  · rename_i place
    split at step
    · rename_i stopped
      obtain rfl := Option.some.inj step
      exact .move l active input _ idle (.leave _ place stopped)
    · rename_i running
      obtain rfl := Option.some.inj step
      exact .move l active input _ idle (.wait _ place (by simpa using running))
  · rename_i place
    split at step
    · rename_i allowed
      obtain ⟨world, polled, rfl⟩ := Option.map_eq_some_iff.mp step
      exact .poll l active input world idle place allowed.1 allowed.2.1 allowed.2.2 polled
    · cases step
  · rename_i place
    obtain rfl := Option.some.inj step
    exact .move l active input _ idle (.endBatch _ place)
  · rename_i rest place
    obtain rfl := Option.some.inj step
    exact .move l active input _ idle (.takeEventfd _ rest place)
  · rename_i ch rest place
    obtain rfl := Option.some.inj step
    exact .dispatch l active input ch rest idle place
  · rename_i ch rest place
    obtain rfl := Option.some.inj step
    exact .move l active input _ idle (.returned _ ch rest place)
  · rename_i rest place
    split at step
    · rename_i counted
      obtain rfl := Option.some.inj step
      exact .move l active input _ idle (.read _ rest place counted)
    · rename_i empty
      obtain rfl := Option.some.inj step
      exact .move l active input _ idle (.readFailed _ rest place (by omega))
  · rename_i rest place
    obtain rfl := Option.some.inj step
    exact .move l active input _ idle (.swap _ rest place)
  · rename_i executed cb rest next place
    obtain rfl := Option.some.inj step
    exact .invoke l active input executed cb rest next idle place
  · rename_i executed next place
    obtain rfl := Option.some.inj step
    exact .move l active input _ idle (.executed _ executed next place)
  · rename_i cb rest next place
    obtain rfl := Option.some.inj step
    exact .clear l active input cb rest next idle place
  · rename_i next place
    obtain rfl := Option.some.inj step
    exact .move l active input _ idle (.cleared _ next place)

/-- The inversion of the step function. -/
theorem step_cases {client : Client Loop User Functor Channel Code Input World}
    {machine after : Machine Loop User Functor Channel Code World}
    {event : Event Loop User Channel Input} (step : client.step machine event = some after) :
    Step client machine event after := by
  cases event with
  | run thread input => exact run_cases step
  | advance l active input =>
    simp only [Client.step] at step
    split at step
    · rename_i idle
      exact advance_cases idle step
    · cases step
  | begin thread input =>
    simp only [Client.step] at step
    split at step
    · rename_i idle
      obtain ⟨⟨world, calls⟩, begun, rfl⟩ := Option.map_eq_some_iff.mp step
      exact .begin thread input world calls idle.1 idle.2 begun
    · cases step

/-- A step of a thread whose next instruction is a statement executes it. -/
theorem step_code {client : Client Loop User Functor Channel Code Input World}
    {machine after : Machine Loop User Functor Channel Code World} {thread : Thread Loop User}
    {input : Input} {body : Code} {rest : List (Instruction Loop Functor Code)}
    (top : machine.stack thread = .call (.code body) :: rest)
    (step : client.step machine (.run thread input) = some after) :
    ∃ world calls, client.execute body input machine.world = some (world, calls) ∧
      after = (machine.setWorld world).setStack thread (calls.map .call ++ rest) := by
  simp only [Client.step, Client.run, top] at step
  obtain ⟨⟨world, calls⟩, executed, rfl⟩ := Option.map_eq_some_iff.mp step
  exact ⟨world, calls, executed, rfl⟩

end Step

end MultiReactor
