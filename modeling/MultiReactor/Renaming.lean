/-
This file compares two processes that do the same under different thread names.
An *image* of a machine has its stacks under the names a map gives their
threads, worlds that are related, and loops whose queues may hold some functors
that the machine has lost. A step that touches no loop with lost functors is a
step of the image, if what the client does in it keeps the worlds related. The
clients are arbitrary; which threads and worlds are compared is left to the use.
-/

import MultiReactor.Discipline
import MultiReactor.EventLoopThread

namespace MultiReactor

open Transition

section Renaming

variable {Loop User Other Functor Channel Code Input World View : Type} [DecidableEq Loop]
  [DecidableEq User] [DecidableEq Other]

/-! ### The steps are complete -/

/-- The converse of the inversion: every step listed is a step of the machine. -/
theorem Step.taken [DecidableEq Channel]
    {client : Client Loop User Functor Channel Code Input World}
    {machine after : Machine Loop User Functor Channel Code World}
    {event : Event Loop User Channel Input} (step : Step client machine event after) :
    client.step machine event = some after := by
  cases step with
  | code thread input body rest world calls top executed =>
    simp only [Client.step, Client.run, top, executed, Option.map_some]
  | runHere l input cb rest top => simp only [Client.step, Client.run, top, if_true]
  | runQueued thread input l cb rest top foreign =>
    simp only [Client.step, Client.run, top, if_neg foreign]
  | pushBack thread input l cb rest top => simp only [Client.step, Client.run, top]
  | quit thread input l rest top => simp only [Client.step, Client.run, top]
  | wakeup thread input l rest top => simp only [Client.step, Client.run, top]
  | destroy thread input cb rest top => simp only [Client.step, Client.run, top]
  | move l active input eventLoop idle moved =>
    simp only [Client.step, Client.advance, if_pos idle]
    generalize machine.loop l = before at moved
    cases moved with
    | read place counted => simp only [*, if_true]
    | readFailed place empty => simp only [*, Nat.lt_irrefl, if_false]
    | leave place stopped => simp only [*, if_true]
    | wait place running => simp only [*, Bool.false_eq_true, if_false]
    | _ => simp only [*]
  | poll l active input world idle place distinct bounded counted polled =>
    have allowed : active.Nodup ∧ active.length ≤ maxEvents ∧
        (.eventfd ∈ active → 0 < (machine.loop l).eventfd_) := ⟨distinct, bounded, counted⟩
    simp only [Client.step, Client.advance, if_pos idle, place, if_pos allowed, polled,
      Option.map_some]
  | dispatch l active input ch rest idle place =>
    simp only [Client.step, Client.advance, if_pos idle, place]
  | invoke l active input executed cb rest next idle place =>
    simp only [Client.step, Client.advance, if_pos idle, place]
  | clear l active input cb rest next idle place =>
    simp only [Client.step, Client.advance, if_pos idle, place]
  | begin thread input world calls idle outside begun =>
    have allowed : machine.stack thread = [] ∧ machine.outside thread = true := ⟨idle, outside⟩
    simp only [Client.step, if_pos allowed, begun, Option.map_some]

/-! ### Steps of one thread -/

variable {client : Client Loop User Functor Channel Code Input World}
  {machine after : Machine Loop User Functor Channel Code World}
  {event : Event Loop User Channel Input} {thread : Thread Loop User}

/-- A thread that has nothing to execute comes to something else. -/
theorem step_idle (step : Step client machine event after)
    (waits : ∀ input, event ≠ .run event.thread input) : machine.stack event.thread = [] := by
  cases step with
  | move l active input eventLoop idle moved => exact idle
  | poll l active input world idle place distinct bounded counted polled => exact idle
  | dispatch l active input ch rest idle place => exact idle
  | invoke l active input executed cb rest next idle place => exact idle
  | clear l active input cb rest next idle place => exact idle
  | begin thread input world calls idle outside begun => exact idle
  | _ => exact absurd rfl (waits _)

/-- A step changes no other thread's stack. -/
theorem step_stack (step : Step client machine event after) (other : thread ≠ event.thread) :
    after.stack thread = machine.stack thread := by
  cases step with
  | move => rfl
  | poll => rfl
  | clear => rfl
  | _ => exact setStack_stack_of_ne _ _ other

/-- Only a step of its own moves a loop's thread on in `loop()`. -/
theorem step_position (step : Step client machine event after) {l : Loop}
    (other : ∀ active input, event ≠ .advance l active input) :
    (after.loop l).position = (machine.loop l).position := by
  have elsewhere {m : Loop} {active : List (Ready Channel)} {input : Input}
      (eventLoop : EventLoop Functor Channel) (advances : event = .advance m active input) :
      ((machine.setLoop m eventLoop).loop l).position = (machine.loop l).position := by
    have different : l ≠ m := by
      rintro rfl
      exact other _ _ advances
    rw [setLoop_loop_of_ne _ _ different]
  cases step with
  | pushBack thread input m cb rest top =>
    exact setLoop_position ((machine.loop m).pushBack cb) rfl l
  | quit thread input m rest top => exact setLoop_position (machine.loop m).storeQuit rfl l
  | wakeup thread input m rest top => exact setLoop_position (machine.loop m).wakeup rfl l
  | move => exact elsewhere _ rfl
  | poll => exact elsewhere _ rfl
  | dispatch => exact elsewhere _ rfl
  | invoke => exact elsewhere _ rfl
  | clear => exact elsewhere _ rfl
  | _ => rfl

/-- What a thread has to execute stays until it executes it, and where its loop stands with it. -/
theorem step_busy (step : Step client machine event after) (busy : machine.stack thread ≠ [])
    (other : ∀ input, event ≠ .run thread input) : after.stack thread = machine.stack thread ∧
      ∀ l, thread = .loop l → (after.loop l).position = (machine.loop l).position := by
  have elsewhere : thread ≠ event.thread := by
    rintro rfl
    exact busy (step_idle step other)
  refine ⟨step_stack step elsewhere, fun l isLoop => step_position step fun active input advances =>
    elsewhere ?_⟩
  rw [isLoop, advances]
  rfl

/-! ### Images -/

/-- The loop with some functors put back in front of its queue. -/
def EventLoop.restore (eventLoop : EventLoop Functor Channel) (lost : List Functor) :
    EventLoop Functor Channel :=
  { eventLoop with pendingFunctors_ := lost ++ eventLoop.pendingFunctors_ }

/-- The image of an event: the thread it is about has another name. -/
def Event.rename (name : Thread Loop User → Thread Loop Other) :
    Event Loop User Channel Input → Event Loop Other Channel Input
  | .run thread input => .run (name thread) input
  | .advance l active input => .advance l active input
  | .begin thread input => .begin (name thread) input

variable {name : Thread Loop User → Thread Loop Other} {related : World → View → Prop}
  {lost : Loop → List Functor} {machine : Machine Loop User Functor Channel Code World}
  {image : Machine Loop Other Functor Channel Code View}
  {client : Client Loop User Functor Channel Code Input World}
  {viewer : Client Loop Other Functor Channel Code Input View}

/-- The stacks lie under their other names, and the loops hold what the machine has lost. -/
structure Image (name : Thread Loop User → Thread Loop Other) (related : World → View → Prop)
    (lost : Loop → List Functor) (machine : Machine Loop User Functor Channel Code World)
    (image : Machine Loop Other Functor Channel Code View) : Prop where
  world : related machine.world image.world
  loop : ∀ l, image.loop l = (machine.loop l).restore (lost l)
  stack : ∀ thread, image.stack (name thread) = machine.stack thread
  idle : ∀ other, (∀ thread, name thread ≠ other) → image.stack other = []

omit [DecidableEq Loop] [DecidableEq User] [DecidableEq Other] in
/-- A loop that has lost nothing is the same in the image. -/
theorem Image.intact (isImage : Image name related lost machine image) {l : Loop}
    (intact : lost l = []) : image.loop l = machine.loop l := by
  rw [isImage.loop, intact]
  rfl

omit [DecidableEq Loop] [DecidableEq User] [DecidableEq Other] in
/-- The worlds may be compared in another way. -/
theorem Image.relate {other : World → View → Prop}
    (isImage : Image name related lost machine image) (holds : other machine.world image.world) :
    Image name other lost machine image :=
  ⟨holds, isImage.loop, isImage.stack, isImage.idle⟩

omit [DecidableEq Loop] [DecidableEq User] [DecidableEq Other] in
theorem Image.setWorld (isImage : Image name related lost machine image) {world : World}
    {seen : View} (kept : related world seen) :
    Image name related lost (machine.setWorld world) (image.setWorld seen) :=
  { isImage with world := kept }

omit [DecidableEq User] [DecidableEq Other] in
theorem Image.setLoop (isImage : Image name related lost machine image) {l : Loop}
    (intact : lost l = []) (eventLoop : EventLoop Functor Channel) :
    Image name related lost (machine.setLoop l eventLoop) (image.setLoop l eventLoop) where
  world := isImage.world
  loop m := by
    by_cases same : m = l
    · subst same
      rw [setLoop_loop_self, setLoop_loop_self, intact]
      rfl
    · rw [setLoop_loop_of_ne _ _ same, setLoop_loop_of_ne _ _ same]
      exact isImage.loop m
  stack := isImage.stack
  idle := isImage.idle

theorem Image.setStack (isImage : Image name related lost machine image)
    (injective : Function.Injective name) (thread : Thread Loop User)
    (instructions : List (Instruction Loop Functor Code)) :
    Image name related lost (machine.setStack thread instructions)
      (image.setStack (name thread) instructions) where
  world := isImage.world
  loop := isImage.loop
  stack other := by
    by_cases same : other = thread
    · subst same
      rw [setStack_stack_self, setStack_stack_self]
    · rw [setStack_stack_of_ne _ _ same, setStack_stack_of_ne _ _ (injective.ne same)]
      exact isImage.stack other
  idle other unnamed := by
    rw [setStack_stack_of_ne _ _ (Ne.symm (unnamed thread))]
    exact isImage.idle other unnamed

omit [DecidableEq Loop] [DecidableEq User] [DecidableEq Other] in
/-- What is outstanding in the image is what is outstanding in the machine, and what it has lost. -/
theorem Image.tally_eq [Fintype Loop] [Fintype User] [Fintype Other]
    (isImage : Image name related lost machine image) (injective : Function.Injective name)
    (kind : Item Functor Channel Code → Bool) :
    tally kind image = tally kind machine + ∑ l, (lost l).countP fun cb => kind (.queued cb) := by
  have onStacks : ∑ thread, (stackItems (machine.stack thread)).countP kind =
      ∑ other, (stackItems (image.stack other)).countP kind := by
    refine Fintype.sum_of_injective name injective _ _ (fun other unnamed => ?_) fun thread => ?_
    · rw [isImage.idle other fun thread same => unnamed ⟨thread, same⟩]
      rfl
    · rw [isImage.stack]
  have loops (l : Loop) : (image.loop l).items.countP kind =
      (machine.loop l).items.countP kind + (lost l).countP fun cb => kind (.queued cb) := by
    rw [isImage.loop]
    simp only [EventLoop.restore, EventLoop.items, List.map_append, List.countP_append,
      List.countP_map, Function.comp_def]
    omega
  rw [tally, tally, ← onStacks, Finset.sum_congr rfl fun l _ => loops l, Finset.sum_add_distrib,
    Nat.add_assoc]

/-! ### Steps of the image -/

/-- What the client does in the machine's next step, the other client does in the image, and the
worlds stay related. -/
structure Tracks (client : Client Loop User Functor Channel Code Input World)
    (viewer : Client Loop Other Functor Channel Code Input View)
    (name : Thread Loop User → Thread Loop Other) (related : World → View → Prop)
    (machine : Machine Loop User Functor Channel Code World)
    (image : Machine Loop Other Functor Channel Code View) : Prop where
  execute : ∀ thread body rest input world calls,
    machine.stack thread = .call (.code body) :: rest →
    client.execute body input machine.world = some (world, calls) →
    ∃ seen, viewer.execute body input image.world = some (seen, calls) ∧ related world seen
  here : ∀ thread l cb rest, machine.stack thread = .call (.runInLoop l cb) :: rest →
    (name thread = .loop l ↔ thread = .loop l)
  invoke : ∀ cb, viewer.invoke cb = client.invoke cb
  handleEvent : ∀ ch, viewer.handleEvent ch = client.handleEvent ch
  copy : ∀ thread l cb rest, machine.stack thread = .call (.runInLoop l cb) :: rest →
    related (client.copy cb machine.world) (viewer.copy cb image.world)
  destroy : ∀ cb, (∃ thread rest, machine.stack thread = .destroy cb :: rest) ∨
      (∃ l rest active, (machine.loop l).position = .clear (cb :: rest) active) →
    related (client.destroy cb machine.world) (viewer.destroy cb image.world)
  poll : ∀ l active input world, client.poll l active input machine.world = some world →
    ∃ seen, viewer.poll l active input image.world = some seen ∧ related world seen
  begin : ∀ thread input world calls,
    client.begin thread input machine.world = some (world, calls) →
    image.outside (name thread) = true ∧
      ∃ seen, viewer.begin (name thread) input image.world = some (seen, calls) ∧ related world seen

/-- The event touches no loop that has lost functors, and moves no loop whose thread has another
name. -/
def Spares (name : Thread Loop User → Thread Loop Other) (lost : Loop → List Functor)
    (machine : Machine Loop User Functor Channel Code World) :
    Event Loop User Channel Input → Prop
  | .run thread _ => ∀ l ∈ (machine.stack thread).head?.bind Instruction.accesses, lost l = []
  | .advance l _ _ => lost l = [] ∧ name (.loop l) = .loop l
  | .begin _ _ => True

/-- A step that spares the lost functors is a step of the image. -/
theorem Image.step {after : Machine Loop User Functor Channel Code World}
    {event : Event Loop User Channel Input} (isImage : Image name related lost machine image)
    (injective : Function.Injective name)
    (tracks : Tracks client viewer name related machine image)
    (spares : Spares name lost machine event) (step : Step client machine event after) :
    ∃ seen, Step viewer image (event.rename name) seen ∧ Image name related lost after seen := by
  have top {thread : Thread Loop User} {instructions : List (Instruction Loop Functor Code)}
      (stack : machine.stack thread = instructions) : image.stack (name thread) = instructions :=
    (isImage.stack thread).trans stack
  have spared {thread : Thread Loop User} {input : Input} {l : Loop}
      {instruction : Instruction Loop Functor Code} {rest : List (Instruction Loop Functor Code)}
      (spares : Spares name lost machine
        (.run thread input : Event Loop User Channel Input))
      (stack : machine.stack thread = instruction :: rest)
      (accesses : instruction.accesses = some l) : lost l = [] := by
    refine spares l ?_
    rw [stack]
    exact accesses
  cases step with
  | code thread input body rest world calls stack executed =>
    obtain ⟨seen, viewed, kept⟩ := tracks.execute thread body rest input world calls stack executed
    exact ⟨_, .code (name thread) input body rest seen calls (top stack) viewed,
      (isImage.setWorld kept).setStack injective thread _⟩
  | runHere l input cb rest stack =>
    have isLoop : name (.loop l) = .loop l := (tracks.here _ l cb rest stack).mpr rfl
    refine ⟨_, ?_, isImage.setStack injective (.loop l) _⟩
    rw [Event.rename, isLoop, ← tracks.invoke]
    exact .runHere l input cb rest (isLoop ▸ top stack)
  | runQueued thread input l cb rest stack foreign =>
    have foreignToo : name thread ≠ .loop l := mt (tracks.here thread l cb rest stack).mp foreign
    exact ⟨_, .runQueued (name thread) input l cb rest (top stack) foreignToo,
      (isImage.setWorld (tracks.copy thread l cb rest stack)).setStack injective thread _⟩
  | pushBack thread input l cb rest stack =>
    have intact := spared spares stack rfl
    refine ⟨_, .pushBack (name thread) input l cb rest (top stack), ?_⟩
    rw [isImage.intact intact]
    exact (isImage.setLoop intact _).setStack injective thread _
  | quit thread input l rest stack =>
    have intact := spared spares stack rfl
    refine ⟨_, .quit (name thread) input l rest (top stack), ?_⟩
    rw [isImage.intact intact]
    exact (isImage.setLoop intact _).setStack injective thread _
  | wakeup thread input l rest stack =>
    have intact := spared spares stack rfl
    refine ⟨_, .wakeup (name thread) input l rest (top stack), ?_⟩
    rw [isImage.intact intact]
    exact (isImage.setLoop intact _).setStack injective thread _
  | destroy thread input cb rest stack =>
    exact ⟨_, .destroy (name thread) input cb rest (top stack),
      (isImage.setWorld (tracks.destroy cb (.inl ⟨thread, rest, stack⟩))).setStack injective
        thread _⟩
  | move l active input eventLoop idle moved =>
    obtain ⟨intact, isLoop⟩ := spares
    have idleToo : image.stack (.loop l) = [] := isLoop ▸ top idle
    exact ⟨_, .move l active input eventLoop idleToo (isImage.intact intact ▸ moved),
      isImage.setLoop intact _⟩
  | poll l active input world idle place distinct bounded counted polled =>
    obtain ⟨intact, isLoop⟩ := spares
    obtain ⟨seen, viewed, kept⟩ := tracks.poll l (channelsOf active) input world polled
    have same := isImage.intact intact
    refine ⟨_, .poll l active input seen (isLoop ▸ top idle) (by rw [same, place]) distinct bounded
      (by rwa [same]) viewed, ?_⟩
    rw [same]
    exact (isImage.setWorld kept).setLoop intact _
  | dispatch l active input ch rest idle place =>
    obtain ⟨intact, isLoop⟩ := spares
    have same := isImage.intact intact
    refine ⟨_, .dispatch l active input ch rest (isLoop ▸ top idle) (by rw [same, place]), ?_⟩
    rw [same, tracks.handleEvent]
    have moved := (isImage.setLoop intact ((machine.loop l).at (.handleEvent ch rest))).setStack
      injective (.loop l) ((client.handleEvent ch).map .call)
    rwa [isLoop] at moved
  | invoke l active input executed cb rest next idle place =>
    obtain ⟨intact, isLoop⟩ := spares
    have same := isImage.intact intact
    refine ⟨_, .invoke l active input executed cb rest next (isLoop ▸ top idle)
      (by rw [same, place]), ?_⟩
    rw [same, tracks.invoke]
    have moved := (isImage.setLoop intact
      ((machine.loop l).at (.execute (executed ++ [cb]) rest next))).setStack injective (.loop l)
        ((client.invoke cb).map .call)
    rwa [isLoop] at moved
  | clear l active input cb rest next idle place =>
    obtain ⟨intact, isLoop⟩ := spares
    have same := isImage.intact intact
    refine ⟨_, .clear l active input cb rest next (isLoop ▸ top idle) (by rw [same, place]), ?_⟩
    rw [same]
    exact (isImage.setWorld (tracks.destroy cb (.inr ⟨l, rest, next, place⟩))).setLoop intact _
  | begin thread input world calls idle outside begun =>
    obtain ⟨outsideToo, seen, viewed, kept⟩ := tracks.begin thread input world calls begun
    exact ⟨_, .begin (name thread) input seen calls (top idle) outsideToo viewed,
      (isImage.setWorld kept).setStack injective thread _⟩

end Renaming

end MultiReactor
