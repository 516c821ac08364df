/-
This file bounds the work of event loops, over arbitrary client code. A client
is priced when every statement and every functor has a price that pays for all
it leads to, on whatever thread, until the environment prompts the process
again: `epoll_wait` reports a channel of the client or is interrupted, a thread
enters `loop()` or begins a call, or a system call hands something over. That
`epoll_wait` reports the eventfd, which only the process itself writes to, is no
prompt: the write pays for what the loop does when it wakes up. The prices of
what lies on the stacks and in the queues, the counts of the eventfds and what
the loops still have to do with their batches are the work ahead. Every step that
is no prompt lowers it, so a run takes no more than so many steps for each prompt.
-/

import MultiReactor.Ledger
import MultiReactor.Step

namespace MultiReactor

open Transition Ledger

variable {Loop User Functor Channel Code Input World : Type}

/-! ### Waking up -/

def Ready.isEventfd : Ready Channel → Bool
  | .eventfd => true
  | .channel _ => false

/-- `epoll_wait` has returned the eventfd and nothing else. -/
def wokenUp : List (Ready Channel) → Bool
  | [.eventfd] => true
  | _ => false

theorem eq_of_wokenUp {active : List (Ready Channel)} (woken : wokenUp active = true) :
    active = [.eventfd] := by
  unfold wokenUp at woken
  split at woken
  · rfl
  · cases woken

/-- The eventfd has been reported, and its counter has not been read since. -/
def Position.eventfdReported : Position Functor Channel → Bool
  | .outside | .test | .poll => false
  | .handleReadEventFd _ => true
  | .dispatch active | .handleEvent _ active | .swap active | .execute _ _ active
  | .clear _ active => active.any Ready.isEventfd

/-- What a loop's eventfd counts, but for the write that the current batch is for. -/
def EventLoop.unreported (eventLoop : EventLoop Functor Channel) : Nat :=
  eventLoop.eventfd_ - eventLoop.position.eventfdReported.toNat

/-- A write adds at most one. -/
theorem unreported_wakeup (eventLoop : EventLoop Functor Channel) :
    eventLoop.wakeup.unreported ≤ eventLoop.unreported + 1 := by
  have counts : eventLoop.wakeup.eventfd_ ≤ eventLoop.eventfd_ + 1 := by
    unfold EventLoop.wakeup
    dsimp only
    split <;> omega
  show eventLoop.wakeup.eventfd_ - eventLoop.position.eventfdReported.toNat ≤ _
  unfold EventLoop.unreported
  omega

/-- A place before the read of the counter is as good as another. -/
theorem unreported_at {eventLoop : EventLoop Functor Channel} {position : Position Functor Channel}
    (same : position.eventfdReported = eventLoop.position.eventfdReported) :
    (eventLoop.at position).unreported = eventLoop.unreported := by
  rw [EventLoop.unreported, EventLoop.unreported, EventLoop.at, same]

/-! ### Prices -/

/-- What a write to the eventfd leads to: `epoll_wait` returns, the loop reads the counter, swaps
the queue, comes to the end of its batch and waits again. -/
def wakeupPrice : Nat := 8

/-- The price of a call, given those of statements and functors. A functor that is queued is pushed
back, the eventfd is written, the functor is called and destroyed, and so is the parameter. -/
def Call.price (code : Code → Nat) (functor : Functor → Nat) : Call Loop Functor Code → Nat
  | .code body => code body
  | .runInLoop _ cb => functor cb + 6 + wakeupPrice
  | .queueInLoop _ cb => functor cb + 4 + wakeupPrice
  | .quit _ => 2 + wakeupPrice

/-- Prices that pay for what a client's code leads to. `prompted` says where a system call hands
something over, and `fee` what a prompt pays. -/
structure Pricing (client : Client Loop User Functor Channel Code Input World) where
  code : Code → Nat
  functor : Functor → Nat
  channel : Nat
  fee : Nat
  prompted : Code → Input → Bool
  execute : ∀ body input world after calls,
    client.execute body input world = some (after, calls) →
      total (Call.price code functor) calls + 1 ≤
        code body + if prompted body input then fee else 0
  invoke : ∀ cb, total (Call.price code functor) (client.invoke cb) ≤ functor cb
  handleEvent : ∀ ch, total (Call.price code functor) (client.handleEvent ch) ≤ channel
  begin : ∀ thread input world after calls,
    client.begin thread input world = some (after, calls) →
      total (Call.price code functor) calls ≤ fee

section Pricing

variable {client : Client Loop User Functor Channel Code Input World} (pricing : Pricing client)

/-- The price of an instruction. -/
def Pricing.instruction : Instruction Loop Functor Code → Nat
  | .call made => made.price pricing.code pricing.functor
  | .wakeup _ => 1 + wakeupPrice
  | .destroy _ => 1

/-- The price of an entry of a batch. -/
def Pricing.entry : Ready Channel → Nat
  | .eventfd => 5
  | .channel _ => pricing.channel + 2

/-- The price of a functor that waits to be called. -/
def Pricing.waiting (cb : Functor) : Nat := pricing.functor cb + 2

/-- The work a loop's thread has ahead of it in `loop()`, until it waits in `epoll_wait`. -/
def Pricing.position : Position Functor Channel → Nat
  | .outside => 0
  | .test => 1
  | .poll => 0
  | .dispatch active => total pricing.entry active + 2
  | .handleEvent _ active => total pricing.entry active + 3
  | .handleReadEventFd active => total pricing.entry active + 6
  | .swap active => total pricing.entry active + 5
  | .execute executed rest active =>
    total pricing.entry active + 4 + executed.length + total pricing.waiting rest
  | .clear functors active => total pricing.entry active + 3 + functors.length

/-- The work ahead of a loop: what it is doing, its queue, and how often it will be woken up. -/
def Pricing.loop (eventLoop : EventLoop Functor Channel) : Nat :=
  total pricing.waiting eventLoop.pendingFunctors_ + pricing.position eventLoop.position +
    wakeupPrice * eventLoop.unreported

/-- The work ahead of the process. -/
def Pricing.workload [Fintype Loop] [Fintype User]
    (machine : Machine Loop User Functor Channel Code World) : Nat :=
  (∑ thread, total pricing.instruction (machine.stack thread)) +
    ∑ l, pricing.loop (machine.loop l)

/-- Whether the environment prompts the process in a step. A loop that is woken up by a write to its
eventfd, and by nothing else, is not prompted. -/
def Pricing.prompts (machine : Machine Loop User Functor Channel Code World) :
    Event Loop User Channel Input → Bool
  | .run thread input => match machine.stack thread with
    | .call (.code body) :: _ => pricing.prompted body input
    | _ => false
  | .advance l active _ => match (machine.loop l).position with
    | .outside => true
    | .poll => !wokenUp active
    | _ => false
  | .begin _ _ => true

/-- What a prompt can add to the work ahead. -/
def Pricing.round : Nat := maxEvents * (pricing.channel + 5) + pricing.fee + 3

theorem entry_le (ready : Ready Channel) : pricing.entry ready ≤ pricing.channel + 5 := by
  cases ready with
  | eventfd => exact Nat.le_add_left ..
  | channel ch => exact Nat.add_le_add_left (by decide) _

theorem total_calls (calls : List (Call Loop Functor Code)) :
    total pricing.instruction (calls.map .call) =
      total (Call.price pricing.code pricing.functor) calls :=
  total_map pricing.instruction Instruction.call calls

theorem loop_pushBack (eventLoop : EventLoop Functor Channel) (cb : Functor) :
    pricing.loop (eventLoop.pushBack cb) = pricing.loop eventLoop + pricing.functor cb + 2 := by
  simp only [Pricing.loop, EventLoop.unreported, EventLoop.pushBack, total_append, total_cons,
    total_nil, Pricing.waiting]
  omega

theorem loop_storeQuit (eventLoop : EventLoop Functor Channel) :
    pricing.loop eventLoop.storeQuit = pricing.loop eventLoop := rfl

theorem loop_wakeup (eventLoop : EventLoop Functor Channel) :
    pricing.loop eventLoop.wakeup ≤ pricing.loop eventLoop + wakeupPrice := by
  have more := Nat.mul_le_mul_left wakeupPrice (unreported_wakeup eventLoop)
  rw [Nat.mul_succ] at more
  exact (Nat.add_le_add_left more _).trans_eq (Nat.add_assoc ..).symm

theorem loop_at (eventLoop : EventLoop Functor Channel) (position : Position Functor Channel)
    (same : position.eventfdReported = eventLoop.position.eventfdReported) :
    pricing.loop (eventLoop.at position) + pricing.position eventLoop.position =
      pricing.loop eventLoop + pricing.position position := by
  simp only [Pricing.loop, unreported_at same]
  simp only [EventLoop.at]
  omega

/-- What `epoll_wait` returns is work. -/
theorem loop_dispatch {eventLoop : EventLoop Functor Channel} (active : List (Ready Channel))
    (place : eventLoop.position = .poll) :
    pricing.loop (eventLoop.at (.dispatch active)) ≤
      pricing.loop eventLoop + total pricing.entry active + 2 := by
  have fewer : (eventLoop.at (.dispatch active)).unreported ≤ eventLoop.unreported := by
    simp only [EventLoop.unreported, EventLoop.at, place, Position.eventfdReported]
    exact Nat.sub_le _ _
  have least := Nat.mul_le_mul_left wakeupPrice fewer
  simp only [Pricing.loop, place, Pricing.position] at least ⊢
  simp only [EventLoop.at] at least ⊢
  omega

/-- The write that has woken a loop up has paid for it. -/
theorem loop_wokenUp {eventLoop : EventLoop Functor Channel} {active : List (Ready Channel)}
    (place : eventLoop.position = .poll) (woken : wokenUp active = true)
    (counted : 0 < eventLoop.eventfd_) :
    pricing.loop (eventLoop.at (.dispatch active)) + 1 ≤ pricing.loop eventLoop := by
  obtain rfl := eq_of_wokenUp woken
  have taken : (eventLoop.at (.dispatch [.eventfd])).unreported + 1 = eventLoop.unreported := by
    simp only [EventLoop.unreported, EventLoop.at, place, Position.eventfdReported]
    exact Nat.sub_add_cancel counted
  simp only [Pricing.loop, ← taken, place, Pricing.position, Pricing.entry, total_cons, total_nil,
    EventLoop.at, wakeupPrice]
  omega

/-- A move inside `loop()` lowers the work ahead; entering it is a prompt. -/
theorem loopMove_lowers {eventLoop moved : EventLoop Functor Channel}
    (move : LoopMove eventLoop moved) :
    (eventLoop.position = .outside ∧ moved = eventLoop.at .test) ∨
      pricing.loop moved + 1 ≤ pricing.loop eventLoop := by
  have lowers {position : Position Functor Channel}
      (same : position.eventfdReported = eventLoop.position.eventfdReported)
      (lower : pricing.position position + 1 ≤ pricing.position eventLoop.position) :
      pricing.loop (eventLoop.at position) + 1 ≤ pricing.loop eventLoop := by
    have moved := loop_at pricing _ _ same
    omega
  cases move with
  | enter place => exact .inl ⟨place, rfl⟩
  | leave place => exact .inr (lowers (place ▸ rfl) (place ▸ Nat.le_refl 1))
  | wait place => exact .inr (lowers (place ▸ rfl) (place ▸ Nat.le_refl 1))
  | endBatch place => exact .inr (lowers (place ▸ rfl) (place ▸ Nat.le_refl 2))
  | takeEventfd active place =>
    refine .inr (lowers (place ▸ rfl) ?_)
    simp only [place, Pricing.position, Pricing.entry, total_cons]
    omega
  | returned ch active place =>
    refine .inr (lowers (place ▸ rfl) ?_)
    simp only [place, Pricing.position]
    omega
  | read active place counted =>
    refine .inr ?_
    simp only [Pricing.loop, EventLoop.unreported, place, Pricing.position, Nat.zero_sub]
    omega
  | readFailed active place empty =>
    refine .inr ?_
    simp only [Pricing.loop, EventLoop.unreported, EventLoop.at, empty, place, Pricing.position,
      Nat.zero_sub]
    omega
  | swap active place =>
    refine .inr ?_
    simp only [Pricing.loop, EventLoop.unreported, place, Pricing.position,
      Position.eventfdReported, total_nil, List.length_nil]
    omega
  | executed functors active place =>
    refine .inr (lowers (place ▸ rfl) ?_)
    simp only [place, Pricing.position, total_nil]
    omega
  | cleared active place =>
    refine .inr (lowers (place ▸ rfl) ?_)
    simp only [place, Pricing.position, List.length_nil]
    omega

end Pricing

/-! ### What a step does to the work ahead -/

section Workload

variable [Fintype Loop] [Fintype User]
  {client : Client Loop User Functor Channel Code Input World} (pricing : Pricing client)
  (machine : Machine Loop User Functor Channel Code World)

@[simp] theorem workload_setWorld (world : World) :
    pricing.workload (machine.setWorld world) = pricing.workload machine := rfl

variable [DecidableEq Loop]

theorem workload_setLoop (l : Loop) (eventLoop : EventLoop Functor Channel) :
    pricing.workload (machine.setLoop l eventLoop) + pricing.loop (machine.loop l) =
      pricing.workload machine + pricing.loop eventLoop := by
  have moved := sum_update (fun _ => pricing.loop) machine.loop l eventLoop
  simp only [Pricing.workload, Machine.setLoop]
  omega

variable [DecidableEq User]

theorem workload_setStack (thread : Thread Loop User)
    (stack : List (Instruction Loop Functor Code)) :
    pricing.workload (machine.setStack thread stack) +
        total pricing.instruction (machine.stack thread) =
      pricing.workload machine + total pricing.instruction stack := by
  have moved := sum_update (fun _ => total pricing.instruction) machine.stack thread stack
  simp only [Pricing.workload, Machine.setStack]
  omega

variable {machine} {after : Machine Loop User Functor Channel Code World}
  {event : Event Loop User Channel Input}

/-- Every step lowers the work ahead, but for what a prompt adds to it. -/
theorem workload_step [DecidableEq Channel] (step : Step client machine event after) :
    pricing.workload after + 1 ≤
      pricing.workload machine + if pricing.prompts machine event then pricing.round else 0 := by
  cases step with
  | code thread input body rest world calls top executed =>
    have paid := pricing.execute body input machine.world world calls executed
    have moved := workload_setStack pricing (machine.setWorld world) thread
      (calls.map .call ++ rest)
    have enough : (if pricing.prompted body input then pricing.fee else 0) ≤
        if pricing.prompted body input then pricing.round else 0 := by
      split
      · exact (Nat.le_add_left _ _).trans (Nat.le_add_right _ 3)
      · exact Nat.le_refl 0
    simp only [Pricing.prompts, top, workload_setWorld, setWorld_stack, total_append, total_calls,
      total_cons, Pricing.instruction, Call.price] at moved ⊢
    omega
  | runHere l input cb rest top =>
    have paid := pricing.invoke cb
    have moved := workload_setStack pricing machine (.loop l)
      ((client.invoke cb).map .call ++ .destroy cb :: rest)
    simp only [top, total_append, total_calls, total_cons, Pricing.instruction, Call.price]
      at moved
    omega
  | runQueued thread input l cb rest top foreign =>
    have moved := workload_setStack pricing (machine.setWorld (client.copy cb machine.world))
      thread (.call (.queueInLoop l cb) :: .destroy cb :: rest)
    simp only [workload_setWorld, setWorld_stack, top, total_cons, Pricing.instruction,
      Call.price] at moved
    omega
  | pushBack thread input l cb rest top =>
    have queued := workload_setLoop pricing machine l ((machine.loop l).pushBack cb)
    have moved := workload_setStack pricing (machine.setLoop l ((machine.loop l).pushBack cb))
      thread (.wakeup l :: rest)
    rw [loop_pushBack] at queued
    simp only [setLoop_stack, top, total_cons, Pricing.instruction, Call.price] at moved
    omega
  | quit thread input l rest top =>
    have stored := workload_setLoop pricing machine l (machine.loop l).storeQuit
    have moved := workload_setStack pricing (machine.setLoop l (machine.loop l).storeQuit)
      thread (.wakeup l :: rest)
    rw [loop_storeQuit] at stored
    simp only [setLoop_stack, top, total_cons, Pricing.instruction, Call.price] at moved
    omega
  | wakeup thread input l rest top =>
    have written := workload_setLoop pricing machine l (machine.loop l).wakeup
    have moved := workload_setStack pricing (machine.setLoop l (machine.loop l).wakeup) thread rest
    have paid := loop_wakeup pricing (machine.loop l)
    simp only [setLoop_stack, top, total_cons, Pricing.instruction] at moved
    omega
  | destroy thread input cb rest top =>
    have moved := workload_setStack pricing (machine.setWorld (client.destroy cb machine.world))
      thread rest
    simp only [workload_setWorld, setWorld_stack, top, total_cons, Pricing.instruction] at moved
    omega
  | move l active input eventLoop idle moved =>
    have changed := workload_setLoop pricing machine l eventLoop
    rcases loopMove_lowers pricing moved with ⟨outside, rfl⟩ | lower
    · have entered := loop_at pricing (machine.loop l) .test (outside ▸ rfl)
      simp only [outside, Pricing.position] at entered
      simp only [Pricing.prompts, outside, if_true, Pricing.round]
      omega
    · omega
  | poll l active input world idle place distinct bounded counted polled =>
    have changed := workload_setLoop pricing (machine.setWorld world) l
      ((machine.loop l).at (.dispatch active))
    simp only [workload_setWorld, setWorld_loop] at changed
    by_cases woken : wokenUp active = true
    · have reported : .eventfd ∈ active := eq_of_wokenUp woken ▸ List.mem_cons_self
      have paid := loop_wokenUp pricing place woken (counted reported)
      omega
    · have returned := loop_dispatch pricing active place
      have entries := total_le pricing.entry (entry_le pricing) active
      have most : active.length * (pricing.channel + 5) ≤ maxEvents * (pricing.channel + 5) :=
        Nat.mul_le_mul_right _ bounded
      simp only [Pricing.prompts, place, woken, Bool.not_false, if_true, Pricing.round]
      omega
  | dispatch l active input ch rest idle place =>
    have paid := pricing.handleEvent ch
    have changed := workload_setLoop pricing machine l ((machine.loop l).at (.handleEvent ch rest))
    have dispatched := loop_at pricing (machine.loop l) (.handleEvent ch rest) (place ▸ rfl)
    have moved := workload_setStack pricing
      (machine.setLoop l ((machine.loop l).at (.handleEvent ch rest))) (.loop l)
      ((client.handleEvent ch).map .call)
    simp only [place, Pricing.position, Pricing.entry, total_cons] at dispatched
    simp only [setLoop_stack, idle, total_nil, total_calls] at moved
    omega
  | invoke l active input executed cb rest next idle place =>
    have paid := pricing.invoke cb
    have changed := workload_setLoop pricing machine l
      ((machine.loop l).at (.execute (executed ++ [cb]) rest next))
    have called := loop_at pricing (machine.loop l) (.execute (executed ++ [cb]) rest next)
      (place ▸ rfl)
    have moved := workload_setStack pricing
      (machine.setLoop l ((machine.loop l).at (.execute (executed ++ [cb]) rest next))) (.loop l)
      ((client.invoke cb).map .call)
    simp only [place, Pricing.position, Pricing.waiting, total_cons, List.length_append,
      List.length_singleton] at called
    simp only [setLoop_stack, idle, total_nil, total_calls] at moved
    omega
  | clear l active input cb rest next idle place =>
    have changed := workload_setLoop pricing
      (machine.setWorld (client.destroy cb machine.world)) l
      ((machine.loop l).at (.clear rest next))
    have destroyed := loop_at pricing (machine.loop l) (.clear rest next) (place ▸ rfl)
    simp only [workload_setWorld, setWorld_loop] at changed
    simp only [place, Pricing.position, List.length_cons] at destroyed
    omega
  | begin thread input world calls idle outside begun =>
    have paid := pricing.begin thread input machine.world world calls begun
    have moved := workload_setStack pricing (machine.setWorld world) thread (calls.map .call)
    simp only [workload_setWorld, setWorld_stack, idle, total_nil, total_calls] at moved
    simp only [Pricing.prompts, if_true, Pricing.round]
    omega

/-! ### Runs -/

variable [DecidableEq Channel] {world : World}

/-- The prompts of a run. -/
def Pricing.promptsIn
    (past : List (Machine Loop User Functor Channel Code World × Event Loop User Channel Input)) :
    Nat :=
  past.countP fun step => pricing.prompts step.1 step.2

omit [Fintype Loop] [Fintype User] [DecidableEq Loop] [DecidableEq User] [DecidableEq Channel] in
theorem promptsIn_concat
    (past : List (Machine Loop User Functor Channel Code World × Event Loop User Channel Input)) :
    pricing.promptsIn (past ++ [(machine, event)]) =
      pricing.promptsIn past + if pricing.prompts machine event then 1 else 0 := by
  rw [Pricing.promptsIn, List.countP_append, List.countP_singleton]
  rfl

omit [DecidableEq Loop] [DecidableEq User] [DecidableEq Channel] in
theorem workload_start :
    pricing.workload (Machine.start world : Machine Loop User Functor Channel Code World) = 0 := by
  have threads : ∑ thread, total pricing.instruction
      ((Machine.start world : Machine Loop User Functor Channel Code World).stack thread) = 0 :=
    sum_eq_zero _ fun _ => rfl
  have loops : ∑ l, pricing.loop
      ((Machine.start world : Machine Loop User Functor Channel Code World).loop l) = 0 :=
    sum_eq_zero _ fun _ => rfl
  rw [Pricing.workload, threads, loops]

/-- A run takes no more than so many steps for each prompt. -/
theorem length_le_of_prompts
    {run : Recorded (Machine Loop User Functor Channel Code World) (Event Loop User Channel Input)}
    (reachable : Reachable (client.system world).recorded run) :
    run.past.length + pricing.workload run.now ≤ pricing.round * pricing.promptsIn run.past := by
  have permitted : ReachableBy (client.system world).recorded
    (fun run event => anyStep run.now event) run := reachable
  refine length_le_of_budget pricing.workload
    (fun run => pricing.round * pricing.promptsIn run.past) ?_ ?_ permitted
  · rintro _ rfl
    rw [workload_start]
    exact Nat.zero_le _
  · intro run event after _ _ step
    obtain ⟨taken, past⟩ := recorded_step step
    have lower := workload_step pricing (step_cases taken)
    simp only [past, promptsIn_concat, Nat.mul_add]
    by_cases prompted : pricing.prompts run.now event = true
    · rw [if_pos prompted] at lower ⊢
      omega
    · rw [if_neg prompted] at lower ⊢
      omega

end Workload

end MultiReactor
