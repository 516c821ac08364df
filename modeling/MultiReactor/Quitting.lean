/-
This file is about functors that wait when `quit` is called. `loop()` tests the
flag alone, so a functor runs before `loop()` returns only if the loop is on its
way to a swap when the flag is stored: inside `epoll_wait`, which then reports
the eventfd, or with the eventfd's entry of the current batch still ahead. In a
run in which every store of the flag finds the loop so, or finds no functor
waiting whose `queueInLoop` has returned, no task is dropped. A store at any
other place loses what waits.
-/

import MultiReactor.Batches
import MultiReactor.Queue
import MultiReactor.Wakeup

namespace MultiReactor

open Transition

variable {Loop User Functor Channel Code Input World : Type}

/-! ### Calls that have returned -/

section Calls

variable [DecidableEq Loop] [DecidableEq User]

/-- The thread has pushed the functor at this place in the order of the pushes into the loop's
queue. -/
def hasPushed (l : Loop) (thread : Thread Loop User) (place : Nat)
    (past : Past Loop User Functor Channel Code Input World) : Bool :=
  occurs (fun before step => match instructionOf step with
    | some (t, .call (.queueInLoop m _)) =>
      t = thread && m = l && (pushed l before).length = place
    | _ => false) [] past

/-- The call of `queueInLoop` that pushed the functor at this place has returned: its thread has
written to the eventfd since. -/
def hasReturned (l : Loop) (place : Nat)
    (past : Past Loop User Functor Channel Code Input World) : Bool :=
  occurs (fun before step => match instructionOf step with
    | some (t, .wakeup m) => m = l && hasPushed l t place before
    | _ => false) [] past

/-- The call of `queueInLoop` that pushed the functor at this place had returned when `quit` was
called. -/
def owed (l : Loop) (place : Nat)
    (past : Past Loop User Functor Channel Code Input World) : Bool :=
  occurs (fun before step => match instructionOf step with
    | some (_, .call (.quit m)) => m = l && hasReturned l place before
    | _ => false) [] past

end Calls

/-- The functor at this place in the order of the pushes lies in `pendingFunctors_`. -/
def waits [DecidableEq Loop] (l : Loop) (place : Nat)
    (run : Recorded (Machine Loop User Functor Channel Code World)
      (Event Loop User Channel Input)) : Bool :=
  (pushed l run.past).length ≤ place + (run.now.loop l).pendingFunctors_.length

/-- The thread of a loop is inside `epoll_wait`, or the swap of the queue is ahead in its batch. -/
def Position.attends [DecidableEq Channel] : Position Functor Channel → Bool
  | .poll => true
  | .handleReadEventFd _ => true
  | .swap _ => true
  | position => position.active.contains .eventfd

/-- The thread of a loop is about to return from `loop()`; nothing is left on its stack, so the
functors it has called have returned. -/
def Returning (machine : Machine Loop User Functor Channel Code World) (l : Loop) : Prop :=
  (machine.loop l).position = .test ∧ (machine.loop l).quit_ = true ∧ machine.stack (.loop l) = []

instance [DecidableEq Functor] [DecidableEq Channel]
    (machine : Machine Loop User Functor Channel Code World) (l : Loop) :
    Decidable (Returning machine l) :=
  inferInstanceAs (Decidable (_ ∧ _ ∧ _))

section Condition

variable [DecidableEq Loop] [DecidableEq User]

/-- The functors whose `queueInLoop` has returned have left the queue. -/
def settled (l : Loop)
    (run : Recorded (Machine Loop User Functor Channel Code World)
      (Event Loop User Channel Input)) : Bool :=
  (List.range (pushed l run.past).length).all fun place =>
    !(hasReturned l place run.past && waits l place run)

/-- The functors that were queued before `quit` have left the queue. -/
def discharged (l : Loop)
    (run : Recorded (Machine Loop User Functor Channel Code World)
      (Event Loop User Channel Input)) : Bool :=
  (List.range (pushed l run.past).length).all fun place =>
    !(owed l place run.past && waits l place run)

/-- Whoever calls `quit` finds the loop attending or its queue settled, and an `epoll_wait` that
does not report the eventfd returns when the functors queued before `quit` have left the queue. -/
def heeds [DecidableEq Channel] (l : Loop)
    (run : Recorded (Machine Loop User Functor Channel Code World) (Event Loop User Channel Input))
    (event : Event Loop User Channel Input) : Bool :=
  (match instructionOf (run.now, event) with
    | some (_, .call (.quit m)) => m ≠ l || (run.now.loop l).position.attends || settled l run
    | _ => true) &&
  match event, (run.now.loop l).position with
    | .advance m active _, .poll => m ≠ l || active.contains .eventfd || discharged l run
    | _, _ => true

/-- The condition under which a loop drops no task. -/
def Heeds [DecidableEq Channel] (l : Loop) :
    Guard (Recorded (Machine Loop User Functor Channel Code World) (Event Loop User Channel Input))
      (Event Loop User Channel Input) :=
  fun run event => heeds l run event = true

instance [DecidableEq Channel] (l : Loop)
    (run : Recorded (Machine Loop User Functor Channel Code World) (Event Loop User Channel Input))
    (event : Event Loop User Channel Input) : Decidable (Heeds l run event) :=
  inferInstanceAs (Decidable (_ = _))

section Heeds

variable [DecidableEq Channel] {l : Loop} {place : Nat}
  {run : Recorded (Machine Loop User Functor Channel Code World) (Event Loop User Channel Input)}
  {event : Event Loop User Channel Input}

/-- What the condition says of a call of `quit`. -/
theorem Heeds.quit (heeds : Heeds l run event) {thread : Thread Loop User}
    (executed : instructionOf (run.now, event) = some (thread, .call (.quit l)))
    (isPushed : place < (pushed l run.past).length)
    (returned : hasReturned l place run.past = true) :
    (run.now.loop l).position.attends = true ∨ waits l place run = false := by
  have heeded := ((Bool.and_eq_true ..).mp heeds).1
  rw [executed] at heeded
  simp only [ne_eq, not_true_eq_false, decide_false, Bool.false_or, Bool.or_eq_true, settled,
    List.all_eq_true, List.mem_range] at heeded
  refine heeded.imp_right fun settled => ?_
  simpa [returned] using settled place isPushed

/-- What the condition says of what `epoll_wait` returns. -/
theorem Heeds.poll {active : List (Ready Channel)} {input : Input}
    (heeds : Heeds l run (.advance l active input))
    (polling : (run.now.loop l).position = .poll) (isPushed : place < (pushed l run.past).length)
    (isOwed : owed l place run.past = true) :
    .eventfd ∈ active ∨ waits l place run = false := by
  have heeded := ((Bool.and_eq_true ..).mp heeds).2
  rw [polling] at heeded
  simp only [ne_eq, not_true_eq_false, decide_false, Bool.false_or, Bool.or_eq_true, discharged,
    List.all_eq_true, List.mem_range, List.contains_iff_mem] at heeded
  refine heeded.imp_right fun discharged => ?_
  simpa [isOwed] using discharged place isPushed

end Heeds

end Condition

/-! ### The counter -/

/-- The eventfd's entry of the batch is ahead, or its `read`. -/
def Position.unread : Position Functor Channel → Prop
  | .handleReadEventFd _ => True
  | .swap _ => False
  | position => .eventfd ∈ position.active

/-- A move lowers the counter only by the `read`, which is behind afterwards. -/
theorem move_unread {eventLoop moved : EventLoop Functor Channel} (move : LoopMove eventLoop moved)
    (distinct : eventLoop.position.whole.Nodup) (unread : moved.position.unread) :
    eventLoop.position.unread ∧ moved.eventfd_ = eventLoop.eventfd_ := by
  cases move with
  | enter | leave | wait | endBatch => cases unread
  | takeEventfd active place =>
    rw [place]
    exact ⟨List.mem_cons_self, rfl⟩
  | returned ch active place =>
    rw [place]
    exact ⟨unread, rfl⟩
  | read active place counted => cases unread
  | readFailed active place empty =>
    rw [place]
    exact ⟨trivial, rfl⟩
  | swap active place =>
    rw [place] at distinct
    exact absurd unread (List.nodup_cons.mp distinct).1
  | executed functors active place | cleared active place =>
    rw [place]
    exact ⟨unread, rfl⟩

section Counter

variable {client : Client Loop User Functor Channel Code Input World}
  {machine after : Machine Loop User Functor Channel Code World}
  {event : Event Loop User Channel Input} {l : Loop}

/-- The counter of a loop whose eventfd is still to be read stays positive. -/
theorem LoopChange.counted {eventLoop : EventLoop Functor Channel}
    (change : LoopChange machine l event eventLoop)
    (distinct : (machine.loop l).position.whole.Nodup)
    (counted : (machine.loop l).position.unread → 0 < (machine.loop l).eventfd_)
    (unread : eventLoop.position.unread) : 0 < eventLoop.eventfd_ := by
  cases change with
  | same | pushBack | quit => exact counted unread
  | wakeup => exact wakeup_eventfd_pos _
  | move active input eventLoop moved =>
    obtain ⟨before, kept⟩ := move_unread moved distinct unread
    rw [kept]
    exact counted before
  | poll active input place unique positive => exact positive unread
  | dispatch active input ch rest place =>
    exact counted (by rw [place]; exact List.mem_cons_of_mem _ unread)
  | invoke active input executed cb rest next place =>
    exact counted (by rw [place]; exact unread)
  | clear active input cb rest next place => exact counted (by rw [place]; exact unread)

/-- While the eventfd's entry of the batch is ahead, the counter is positive. -/
theorem reachable_counted [DecidableEq Loop] [DecidableEq User] [DecidableEq Channel]
    {world : World} (reachable : Reachable (client.system world) machine) (l : Loop)
    (unread : (machine.loop l).position.unread) : 0 < (machine.loop l).eventfd_ := by
  refine reachable.invariant
    (fun machine => (machine.loop l).position.unread → 0 < (machine.loop l).eventfd_) ?_ ?_ unread
  · rintro _ rfl member
    cases member
  · intro machine event after before counted _ step unread
    exact (step_loop (step_cases step) l).counted (reachable_distinct before l) counted unread

end Counter

/-! ### Places -/

section Places

variable [DecidableEq Loop] {past : Past Loop User Functor Channel Code Input World} {l : Loop}
  {place : Nat}

theorem pushed_concat (step : Machine Loop User Functor Channel Code World ×
      Event Loop User Channel Input) :
    pushed l (past ++ [step]) = pushed l past ++ pushes l step := by
  rw [pushed, List.flatMap_append, List.flatMap_singleton]
  rfl

/-- A place that is among those of the functors pushed once something has happened remains so. -/
theorem lt_of_occurs {happens : Past Loop User Functor Channel Code Input World →
      Machine Loop User Functor Channel Code World × Event Loop User Channel Input → Bool}
    (begins : ∀ past step, happens past step = true →
      place < (pushed l past).length + (pushes l step).length)
    (occurred : occurs happens [] past = true) : place < (pushed l past).length := by
  refine of_occurs (fun past => place < (pushed l past).length) (fun past step now => ?_)
    (fun past step before => ?_) occurred
  · rw [pushed_concat, List.length_append]
    exact begins past step now
  · rw [pushed_concat, List.length_append]
    exact Nat.lt_add_right _ before

variable [DecidableEq User]

/-- The place of a functor that has been pushed is among those of the functors pushed. -/
theorem lt_of_hasPushed {thread : Thread Loop User}
    (isPushed : hasPushed l thread place past = true) : place < (pushed l past).length := by
  refine lt_of_occurs (fun past step now => ?_) isPushed
  split at now
  · rename_i t m cb executed
    simp only [Bool.and_eq_true, decide_eq_true_eq] at now
    obtain ⟨⟨-, rfl⟩, rfl⟩ := now
    simp [pushes, executed]
  · cases now

theorem lt_of_hasReturned (returned : hasReturned l place past = true) :
    place < (pushed l past).length := by
  refine lt_of_occurs (fun past step now => ?_) returned
  split at now
  · exact Nat.lt_add_right _ (lt_of_hasPushed (Bool.and_eq_true .. ▸ now).2)
  · cases now

theorem lt_of_owed (isOwed : owed l place past = true) : place < (pushed l past).length := by
  refine lt_of_occurs (fun past step now => ?_) isOwed
  split at now
  · exact Nat.lt_add_right _ (lt_of_hasReturned (Bool.and_eq_true .. ▸ now).2)
  · cases now

end Places

/-! ### The invariant -/

section Change

variable {machine : Machine Loop User Functor Channel Code World} {l : Loop}
  {event : Event Loop User Channel Input} {after : EventLoop Functor Channel}

/-- What a step pushes goes to the back of `pendingFunctors_`, unless it empties the queue. -/
theorem LoopChange.pending [DecidableEq Loop] (change : LoopChange machine l event after) :
    after.pendingFunctors_ = (machine.loop l).pendingFunctors_ ++ pushes l (machine, event) ∨
      after.pendingFunctors_ = [] ∧ pushes l (machine, event) = [] := by
  cases change with
  | same event other => exact .inl (by rw [pushes_of_other other, List.append_nil])
  | pushBack thread input cb rest top =>
    exact .inl (by simp [pushes, instructionOf_run top, EventLoop.pushBack])
  | quit thread input rest top =>
    exact .inl (by simp [pushes, instructionOf_run top, EventLoop.storeQuit])
  | wakeup thread input rest top =>
    exact .inl (by simp [pushes, instructionOf_run top, EventLoop.wakeup])
  | move active input eventLoop moved =>
    cases moved with
    | swap rest place => exact .inr ⟨rfl, rfl⟩
    | _ => exact .inl (List.append_nil _).symm
  | _ => exact .inl (List.append_nil _).symm

/-- `quit_` is never cleared. -/
theorem LoopChange.stopped (change : LoopChange machine l event after)
    (stopped : (machine.loop l).quit_ = true) : after.quit_ = true := by
  cases change with
  | quit => rfl
  | move active input eventLoop moved => cases moved <;> exact stopped
  | _ => exact stopped

/-- A call of `quit` stores the flag. -/
theorem LoopChange.stores (change : LoopChange machine l event after) {thread : Thread Loop User}
    (executed : instructionOf (machine, event) = some (thread, .call (.quit l))) :
    after = (machine.loop l).storeQuit := by
  cases change with
  | quit => rfl
  | same event other =>
    cases event with
    | run t input =>
      refine absurd ?_ other
      show (instructionOf _).bind _ = _
      rw [executed]
      rfl
    | advance | begin => cases executed
  | pushBack t input cb rest top => cases (instructionOf_run top input).symm.trans executed
  | wakeup t input rest top => cases (instructionOf_run top input).symm.trans executed
  | _ => cases executed

/-- A loop that is to stop and attends goes on attending until it has emptied the queue, if
`epoll_wait` reports the eventfd. -/
theorem LoopChange.attends [DecidableEq Channel] (change : LoopChange machine l event after)
    (stopped : (machine.loop l).quit_ = true)
    (counted : (machine.loop l).position.unread → 0 < (machine.loop l).eventfd_)
    (reports : ∀ active input, event = .advance l active input →
      (machine.loop l).position = .poll → .eventfd ∈ active)
    (attends : (machine.loop l).position.attends = true) :
    after.position.attends = true ∨ after.pendingFunctors_ = [] := by
  cases change with
  | same | pushBack | quit | wakeup => exact .inl attends
  | move active input eventLoop moved =>
    cases moved with
    | enter place | leave place stopped | endBatch place | cleared active place
    | executed functors active place | returned ch active place =>
      rw [place] at attends
      exact .inl attends
    | wait place running =>
      rw [running] at stopped
      cases stopped
    | takeEventfd active place => exact .inl rfl
    | read active place => exact .inl rfl
    | readFailed active place empty =>
      rw [place, empty] at counted
      exact absurd (counted trivial) (Nat.lt_irrefl 0)
    | swap active place => exact .inr rfl
  | poll active input place distinct counted =>
    exact .inl (List.contains_iff_mem.mpr (reports active input rfl place))
  | dispatch active input ch rest place =>
    rw [place] at attends
    have ahead : (Ready.channel ch :: rest).contains .eventfd = true := attends
    have member := (List.mem_cons.mp (List.contains_iff_mem.mp ahead)).resolve_left nofun
    exact .inl (List.contains_iff_mem.mpr member)
  | invoke active input executed cb rest next place =>
    rw [place] at attends
    exact .inl attends
  | clear active input cb rest next place =>
    rw [place] at attends
    exact .inl attends

end Change

/-! ### Runs -/

section Waits

variable [DecidableEq Loop] {l : Loop} {place : Nat}
  {run after : Recorded (Machine Loop User Functor Channel Code World)
    (Event Loop User Channel Input)}

/-- A functor that has left the queue does not come back. -/
theorem waits_step {event : Event Loop User Channel Input}
    (change : LoopChange run.now l event (after.now.loop l))
    (past : after.past = run.past ++ [(run.now, event)]) (left : waits l place run = false) :
    waits l place after = false := by
  simp only [waits, decide_eq_false_iff_not, Nat.not_le] at left ⊢
  rw [past, pushed_concat, List.length_append]
  rcases change.pending with grown | ⟨empty, none⟩
  · rw [grown, List.length_append]
    omega
  · rw [empty, List.length_nil]
    omega

/-- A queue that has been emptied holds no functor that was pushed. -/
theorem waits_of_empty (isPushed : place < (pushed l run.past).length)
    (empty : (run.now.loop l).pendingFunctors_ = []) : waits l place run = false := by
  simp only [waits, decide_eq_false_iff_not, Nat.not_le]
  rwa [empty]

end Waits

section Reachable

variable [DecidableEq Loop] [DecidableEq User] [DecidableEq Channel] {l : Loop}
  {run after : Recorded (Machine Loop User Functor Channel Code World)
    (Event Loop User Channel Input)}

/-- A functor that was queued before `quit` has left the queue, or the loop is to stop and
attends. -/
def Kept (l : Loop)
    (run : Recorded (Machine Loop User Functor Channel Code World)
      (Event Loop User Channel Input)) : Prop :=
  ∀ place, owed l place run.past = true → (run.now.loop l).quit_ = true ∧
    (waits l place run = false ∨ (run.now.loop l).position.attends = true)

/-- A step that heeds the condition keeps every functor that was queued before `quit`. -/
theorem Kept.step {event : Event Loop User Channel Input} (kept : Kept l run)
    (counted : (run.now.loop l).position.unread → 0 < (run.now.loop l).eventfd_)
    (heeds : Heeds l run event) (change : LoopChange run.now l event (after.now.loop l))
    (past : after.past = run.past ++ [(run.now, event)]) : Kept l after := by
  intro place isOwed
  rw [owed, past, occurs_concat, Bool.or_eq_true] at isOwed
  rcases isOwed with before | now
  · -- the functor was queued before an earlier `quit`
    have isPushed := lt_of_owed before
    obtain ⟨stopped, left | attends⟩ := kept place before
    · exact ⟨change.stopped stopped, .inl (waits_step change past left)⟩
    · refine ⟨change.stopped stopped, ?_⟩
      by_cases left : waits l place run = false
      · exact .inl (waits_step change past left)
      · have reports (active : List (Ready Channel)) (input : Input)
            (isPoll : event = .advance l active input)
            (polling : (run.now.loop l).position = .poll) : .eventfd ∈ active := by
          subst isPoll
          exact (heeds.poll polling isPushed before).resolve_right left
        rcases change.attends stopped counted reports attends with still | empty
        · exact .inr still
        · refine .inl (waits_of_empty ?_ empty)
          rw [past, pushed_concat, List.length_append]
          exact Nat.lt_add_right _ isPushed
  · -- `quit` is called in this step
    simp only [List.nil_append] at now
    split at now
    · rename_i thread m executed
      rw [Bool.and_eq_true, decide_eq_true_eq] at now
      obtain ⟨rfl, returned⟩ := now
      have stores := change.stores executed
      refine ⟨by rw [stores]; rfl, ?_⟩
      rcases heeds.quit executed (lt_of_hasReturned returned) returned with attends | left
      · exact .inr (by rw [stores]; exact attends)
      · exact .inl (waits_step change past left)
    · cases now

variable {client : Client Loop User Functor Channel Code Input World} {world : World}

theorem reachable_kept (reachable : ReachableBy (client.system world).recorded (Heeds l) run) :
    Kept l run := by
  refine reachable.invariant (Kept l) ?_ ?_
  · rintro run ⟨fresh, -⟩ place isOwed
    rw [fresh] at isOwed
    cases isOwed
  · intro run event after before kept heeds step
    obtain ⟨taken, past⟩ := recorded_step step
    have counted := reachable_counted (before.now fun _ _ _ => trivial) l
    exact kept.step counted heeds (step_loop (step_cases taken) l) past

/-- In a run in which whoever calls `quit` finds the loop attending or its queue settled, and
`epoll_wait` then reports the eventfd, every functor whose `queueInLoop` had returned when `quit`
was called has been executed when `loop()` returns. -/
theorem no_task_dropped_by_quit (client : Client Loop User Functor Channel Code Input World)
    (world : World) (l : Loop)
    (reachable : ReachableBy (client.system world).recorded (Heeds l) run)
    (returning : Returning run.now l) (place : Nat) (isOwed : owed l place run.past = true) :
    place < (called l run.past).length := by
  obtain ⟨atTest, -, -⟩ := returning
  have left : waits l place run = false := by
    refine (reachable_kept reachable place isOwed).2.resolve_right fun attends => ?_
    rw [atTest] at attends
    cases attends
  have conserved := congrArg List.length (reachable_queue reachable.reachable l)
  rw [List.length_append, EventLoop.waiting, atTest] at conserved
  simp only [waits, decide_eq_false_iff_not, Nat.not_le] at left
  simp only [Position.uncalled, List.nil_append] at conserved
  omega

end Reachable

/-- `quit` is called after a functor has been queued, while the loop is inside `epoll_wait`. -/
theorem no_task_dropped_by_quit_polling : ∃ run : CountdownRun,
    Returning run.now () ∧ owed () 0 run.past = true ∧ pushed () run.past = [0] ∧
      0 < (called () run.past).length := by
  have heeded : ∃ run, ReachableBy (countdown.system ()).recorded (Heeds ()) run ∧
      Returning run.now () ∧ owed () 0 run.past = true ∧ pushed () run.past = [0] :=
    exists_of_replay (initial_recorded rfl)
      (.begin (.user ()) [.queueInLoop () 0, .quit ()] :: List.replicate 2 (.advance () [] []) ++
        List.replicate 4 (.run (.user ()) []) ++ [.advance () [.eventfd] []] ++
        List.replicate 8 (.advance () [] [])) (by decide)
  obtain ⟨run, reachable, returning, isOwed, single⟩ := heeded
  exact ⟨run, returning, isOwed, single,
    no_task_dropped_by_quit countdown () () reachable returning 0 isOwed⟩

/-- A functor is queued and `quit` is called before the loop's first iteration: `loop()` returns
without having called it. -/
theorem quit_drops_task : ∃ run : CountdownRun,
    Reachable (countdown.system ()).recorded run ∧ Returning run.now () ∧
      owed () 0 run.past = true ∧ ¬ 0 < (called () run.past).length :=
  exists_of_replay (initial_recorded rfl)
    (.begin (.user ()) [.queueInLoop () 0, .quit ()] :: List.replicate 4 (.run (.user ()) []) ++
      [.advance () [] []]) (by decide)

end MultiReactor
