/-
This file proves that no wakeup of an event loop is lost, whatever the client
and however the threads interleave. Pushing a functor and writing to the
eventfd are two steps, reading the eventfd and swapping the queue are two more,
and nothing locks across either pair. What survives every order is that a
non-empty queue is *signalled*: the counter is positive, or some thread still
has its write ahead of it, or the loop has read the counter and is about to
swap. A set `quit_` is signalled whenever the loop is inside `epoll_wait`,
because the loop went in with the flag clear and does not lower the counter
while it is there.
-/

import MultiReactor.Step

namespace MultiReactor

open Transition

variable {Loop User Functor Channel Code Input World : Type}

/-- The eventfd of a loop is readable, or a thread is about to make it so. -/
def Signalled (machine : Machine Loop User Functor Channel Code World) (l : Loop) : Prop :=
  0 < (machine.loop l).eventfd_ ∨ ∃ thread, .wakeup l ∈ machine.stack thread

/-- What keeps a loop from sleeping on work. -/
structure Armed (machine : Machine Loop User Functor Channel Code World) (l : Loop) : Prop where
  pending : (machine.loop l).pendingFunctors_ ≠ [] →
    Signalled machine l ∨ ∃ active, (machine.loop l).position = .swap active
  quit : (machine.loop l).quit_ = true → (machine.loop l).position = .poll → Signalled machine l

theorem wakeup_eventfd_pos (eventLoop : EventLoop Functor Channel) :
    0 < eventLoop.wakeup.eventfd_ := by
  unfold EventLoop.wakeup eventfdMax
  dsimp only
  split <;> omega

/-! ### What keeps a loop signalled -/

/-- A step that leaves the counter of a loop alone and takes no wakeup of it off a stack keeps
it signalled. -/
theorem Signalled.keep {machine after : Machine Loop User Functor Channel Code World} {l : Loop}
    (signalled : Signalled machine l)
    (counter : (after.loop l).eventfd_ = (machine.loop l).eventfd_)
    (kept : ∀ thread, .wakeup l ∈ machine.stack thread → .wakeup l ∈ after.stack thread) :
    Signalled after l := by
  rcases signalled with positive | ⟨thread, member⟩
  · exact .inl (counter ▸ positive)
  · exact .inr ⟨thread, kept thread member⟩

/-- A step that leaves a loop alone and takes no wakeup of it off a stack keeps it armed. -/
theorem Armed.keep {machine after : Machine Loop User Functor Channel Code World} {l : Loop}
    (armed : Armed machine l) (same : after.loop l = machine.loop l)
    (kept : ∀ thread, .wakeup l ∈ machine.stack thread → .wakeup l ∈ after.stack thread) :
    Armed after l where
  pending waiting := by
    rw [same] at waiting ⊢
    exact (armed.pending waiting).imp_left (·.keep (by rw [same]) kept)
  quit stopped place := by
    rw [same] at stopped place
    exact (armed.quit stopped place).keep (by rw [same]) kept

/-- A loop that is signalled is armed. -/
theorem Signalled.armed {machine : Machine Loop User Functor Channel Code World} {l : Loop}
    (signalled : Signalled machine l) : Armed machine l where
  pending _ := .inl signalled
  quit _ _ := signalled

/-- A loop whose thread leaves a place other than the swap and keeps its members stays armed: it
enters `epoll_wait` only with `quit_` clear. -/
theorem Armed.place {machine after : Machine Loop User Functor Channel Code World} {l : Loop}
    {position : Position Functor Channel} (armed : Armed machine l)
    (same : after.loop l = (machine.loop l).at position)
    (noSwap : ∀ active, (machine.loop l).position ≠ .swap active)
    (running : position = .poll → (machine.loop l).quit_ = false)
    (kept : ∀ thread, .wakeup l ∈ machine.stack thread → .wakeup l ∈ after.stack thread) :
    Armed after l where
  pending waiting := by
    rw [same] at waiting
    rcases armed.pending waiting with signalled | ⟨active, place⟩
    · exact .inl (signalled.keep (by rw [same]; rfl) kept)
    · exact absurd place (noSwap active)
  quit stopped place := by
    rw [same] at stopped place
    rw [EventLoop.at, running place] at stopped
    cases stopped

/-- A loop that waits in `epoll_wait` and is not signalled has nothing to do. -/
theorem Armed.idle {machine : Machine Loop User Functor Channel Code World} {l : Loop}
    (armed : Armed machine l) (waiting : (machine.loop l).position = .poll)
    (silent : ¬ Signalled machine l) :
    (machine.loop l).pendingFunctors_ = [] ∧ (machine.loop l).quit_ = false := by
  constructor
  · by_contra pending
    rcases armed.pending pending with signalled | ⟨active, place⟩
    · exact silent signalled
    · rw [waiting] at place
      cases place
  · by_contra stopped
    exact silent (armed.quit (by simpa using stopped) waiting)

variable [DecidableEq Loop]

/-! ### The invariant -/

/-- A move of a loop's own thread keeps the loop armed. -/
theorem Armed.move {machine : Machine Loop User Functor Channel Code World} {l : Loop}
    {eventLoop : EventLoop Functor Channel} (armed : Armed machine l)
    (moved : LoopMove (machine.loop l) eventLoop) : Armed (machine.setLoop l eventLoop) l := by
  have elsewhere (position : Position Functor Channel)
      (same : eventLoop = (machine.loop l).at position)
      (noSwap : ∀ active, (machine.loop l).position ≠ .swap active)
      (running : position = .poll → (machine.loop l).quit_ = false) :
      Armed (machine.setLoop l eventLoop) l :=
    armed.place (by rw [setLoop_loop_self, same]) noSwap running fun _ member => member
  cases moved with
  | enter place => exact elsewhere .test rfl (by simp [place]) nofun
  | leave place stopped => exact elsewhere .outside rfl (by simp [place]) nofun
  | wait place running => exact elsewhere .poll rfl (by simp [place]) fun _ => running
  | endBatch place => exact elsewhere .test rfl (by simp [place]) nofun
  | takeEventfd active place =>
    exact elsewhere (.handleReadEventFd active) rfl (by simp [place]) nofun
  | returned ch active place => exact elsewhere (.dispatch active) rfl (by simp [place]) nofun
  | readFailed active place => exact elsewhere (.dispatch active) rfl (by simp [place]) nofun
  | executed functors active place =>
    exact elsewhere (.clear functors active) rfl (by simp [place]) nofun
  | cleared active place => exact elsewhere (.dispatch active) rfl (by simp [place]) nofun
  | read active place counted =>
    refine ⟨fun _ => .inr ⟨active, by rw [setLoop_loop_self]⟩, fun _ place => ?_⟩
    rw [setLoop_loop_self] at place
    cases place
  | swap active place =>
    refine ⟨fun waiting => ?_, fun _ place => ?_⟩
    · rw [setLoop_loop_self] at waiting
      exact absurd rfl waiting
    · rw [setLoop_loop_self] at place
      cases place

variable [DecidableEq User]

/-- What stays on a stack whose top is taken off and replaced. -/
theorem mem_setStack {machine : Machine Loop User Functor Channel Code World}
    {thread other : Thread Loop User} {top instruction : Instruction Loop Functor Code}
    {rest instructions : List (Instruction Loop Functor Code)}
    (stack : machine.stack thread = top :: rest) (different : instruction ≠ top)
    (kept : instruction ∈ rest → instruction ∈ instructions)
    (member : instruction ∈ machine.stack other) :
    instruction ∈ (machine.setStack thread instructions).stack other := by
  by_cases same : other = thread
  · subst same
    rw [setStack_stack_self]
    rw [stack] at member
    exact kept (List.mem_of_ne_of_mem different member)
  · rwa [setStack_stack_of_ne _ _ same]

/-- What stays on the stacks when an empty one is filled. -/
theorem mem_setStack_of_idle {machine : Machine Loop User Functor Channel Code World}
    {thread other : Thread Loop User} {instruction : Instruction Loop Functor Code}
    (instructions : List (Instruction Loop Functor Code)) (idle : machine.stack thread = [])
    (member : instruction ∈ machine.stack other) :
    instruction ∈ (machine.setStack thread instructions).stack other := by
  by_cases same : other = thread
  · subst same
    rw [idle] at member
    cases member
  · rwa [setStack_stack_of_ne _ _ same]

/-- Every step keeps every loop armed. -/
theorem Armed.step {client : Client Loop User Functor Channel Code Input World}
    {machine after : Machine Loop User Functor Channel Code World}
    {event : Event Loop User Channel Input} {l : Loop} (armed : Armed machine l)
    (step : Step client machine event after) : Armed after l := by
  cases step with
  | code thread input body rest world calls top executed =>
    exact armed.keep rfl fun other => mem_setStack top nofun fun member =>
      List.mem_append_right _ member
  | runHere m input cb rest top =>
    exact armed.keep rfl fun other => mem_setStack top nofun fun member =>
      List.mem_append_right _ (List.mem_cons_of_mem _ member)
  | runQueued thread input m cb rest top foreign =>
    exact armed.keep rfl fun other => mem_setStack top nofun fun member =>
      List.mem_cons_of_mem _ (List.mem_cons_of_mem _ member)
  | pushBack thread input m cb rest top =>
    by_cases same : l = m
    · subst same
      exact Signalled.armed (.inr ⟨thread, by rw [setStack_stack_self]; exact List.mem_cons_self⟩)
    · exact armed.keep (setLoop_loop_of_ne _ _ same) fun other =>
        mem_setStack top nofun fun member => List.mem_cons_of_mem _ member
  | quit thread input m rest top =>
    by_cases same : l = m
    · subst same
      exact Signalled.armed (.inr ⟨thread, by rw [setStack_stack_self]; exact List.mem_cons_self⟩)
    · exact armed.keep (setLoop_loop_of_ne _ _ same) fun other =>
        mem_setStack top nofun fun member => List.mem_cons_of_mem _ member
  | wakeup thread input m rest top =>
    by_cases same : l = m
    · subst same
      refine Signalled.armed (.inl ?_)
      rw [setStack_loop, setLoop_loop_self]
      exact wakeup_eventfd_pos _
    · exact armed.keep (setLoop_loop_of_ne _ _ same) fun other =>
        mem_setStack top (by simp [same]) id
  | destroy thread input cb rest top =>
    exact armed.keep rfl fun other => mem_setStack top nofun id
  | move m active input eventLoop idle moved =>
    by_cases same : l = m
    · subst same
      exact armed.move moved
    · exact armed.keep (setLoop_loop_of_ne _ _ same) fun _ member => member
  | poll m active input world idle place distinct bounded counted polled =>
    by_cases same : l = m
    · subst same
      exact armed.place (setLoop_loop_self ..) (by simp [place]) nofun fun _ member => member
    · exact armed.keep (setLoop_loop_of_ne _ _ same) fun _ member => member
  | dispatch m active input ch rest idle place =>
    by_cases same : l = m
    · subst same
      exact armed.place (setLoop_loop_self ..) (by simp [place]) nofun
        fun _ => mem_setStack_of_idle _ idle
    · exact armed.keep (setLoop_loop_of_ne _ _ same) fun _ => mem_setStack_of_idle _ idle
  | invoke m active input executed cb rest next idle place =>
    by_cases same : l = m
    · subst same
      exact armed.place (setLoop_loop_self ..) (by simp [place]) nofun
        fun _ => mem_setStack_of_idle _ idle
    · exact armed.keep (setLoop_loop_of_ne _ _ same) fun _ => mem_setStack_of_idle _ idle
  | clear m active input cb rest next idle place =>
    by_cases same : l = m
    · subst same
      exact armed.place (setLoop_loop_self ..) (by simp [place]) nofun fun _ member => member
    · exact armed.keep (setLoop_loop_of_ne _ _ same) fun _ member => member
  | begin thread input world calls idle outside begun =>
    exact armed.keep rfl fun _ => mem_setStack_of_idle _ idle

variable [DecidableEq Channel]

theorem reachable_armed {client : Client Loop User Functor Channel Code Input World}
    {world : World} {machine : Machine Loop User Functor Channel Code World}
    (reachable : Reachable (client.system world) machine) (l : Loop) : Armed machine l := by
  refine reachable.invariant (Armed · l) ?_ ?_
  · rintro _ rfl
    exact ⟨fun waiting => absurd rfl waiting, nofun⟩
  · intro _ _ _ _ armed _ step
    exact armed.step (step_cases step)

/-- No wakeup is lost. Whenever the thread of a loop is inside `epoll_wait` with the counter at
zero and no thread stands between its `push_back` or its store of `quit_` and the eventfd write
that follows, the queue is empty and `quit_` is clear. -/
theorem no_lost_wakeup (client : Client Loop User Functor Channel Code Input World)
    (world : World) {machine : Machine Loop User Functor Channel Code World}
    (reachable : Reachable (client.system world) machine) (l : Loop)
    (waiting : (machine.loop l).position = .poll) (drained : (machine.loop l).eventfd_ = 0)
    (settled : ∀ thread, .wakeup l ∉ machine.stack thread) :
    (machine.loop l).pendingFunctors_ = [] ∧ (machine.loop l).quit_ = false := by
  refine (reachable_armed reachable l).idle waiting ?_
  rintro (positive | ⟨thread, member⟩)
  · exact positive.ne' drained
  · exact settled thread member

/-- One loop and a thread that runs a functor in it, which prints a line. The world is the number
of lines printed. -/
def printer : Client Unit Unit Unit Empty Unit Unit Nat :=
  { execute := fun _ _ printed => some (printed + 1, [])
    invoke := fun _ => [.code ()]
    handleEvent := nofun
    copy := fun _ printed => printed
    destroy := fun _ printed => printed
    poll := fun _ _ _ printed => some printed
    begin := fun _ _ printed => some (printed, [.runInLoop () ()]) }

/-- The loop is back in `epoll_wait` after it has printed a line for the other thread. -/
theorem no_lost_wakeup_printed : ∃ machine : Machine Unit Unit Unit Empty Unit Nat,
    machine.world = 1 ∧ (machine.loop ()).position = .poll ∧
      (machine.loop ()).pendingFunctors_ = [] ∧ (machine.loop ()).quit_ = false := by
  have printed : ∃ machine, Reachable (printer.system 0) machine ∧ machine.world = 1 ∧
      (machine.loop ()).position = .poll ∧ (machine.loop ()).eventfd_ = 0 ∧
      ∀ thread, .wakeup () ∉ machine.stack thread :=
    exists_of_replay rfl (.begin (.user ()) () :: List.replicate 4 (.run (.user ()) ()) ++
      List.replicate 2 (.advance () [] ()) ++ [.advance () [.eventfd] ()] ++
      List.replicate 4 (.advance () [] ()) ++ [.run (.loop ()) ()] ++
      List.replicate 5 (.advance () [] ())) (by decide)
  obtain ⟨machine, reachable, lines, waiting, drained, settled⟩ := printed
  exact ⟨machine, lines, waiting,
    no_lost_wakeup printer 0 reachable () waiting drained settled⟩

end MultiReactor
