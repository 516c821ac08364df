/-
This file proves when `index_` tells what the kernel has. Any number of channels
with distinct fds are used with one `Epoll`, and every `epoll_ctl` call may fail
and then leaves the interest list as it is. `updateChannel` and `removeChannel`
set `index_` without looking at the result, which `update` only logs. So along a
run `index_` is 1 exactly for the registered channels if and only if no call that
adds or deletes a registration fails.
-/

import MultiReactor.Epoll
import MultiReactor.Transition

namespace MultiReactor

open Transition

variable {Key : Type}

/-! ### One epoll instance and its channels -/

/-- The channels that are used with an `Epoll`, and the kernel's interest list. -/
structure Registry (Key : Type) where
  channel : Key → Channel
  interest : Interest Key

/-- A call on the `Epoll`. `fails` says whether the kernel refuses the `epoll_ctl` call that is
made, if one is made. -/
inductive EpollCall (Key : Type) where
  /-- `updateChannel`, after the event mask has been set to something -/
  | updateChannel (key : Key) (events : Events) (fails : Bool)
  | removeChannel (key : Key) (fails : Bool)
  deriving DecidableEq

/-- The channel with another event mask. -/
def Channel.setEvents (channel : Channel) (events : Events) : Channel :=
  { channel with events_ := events }

/-- No channel has been registered. -/
def Registry.new (fd : Key → Nat) : Registry Key :=
  { channel := fun key => .new (fd key), interest := fun _ => none }

/-- `epoll_ctl`, where it is called. -/
def Interest.attempt (interest : Interest Key) (fd : Nat) (key : Key) (call : Option EpollCtl)
    (fails : Bool) : Interest Key :=
  if fails then interest else interest.update fd key call

variable [DecidableEq Key]

/-- The channel after a function of `Epoll`, which has made the `epoll_ctl` call or none. -/
def Registry.apply (registry : Registry Key) (key : Key) (result : Channel × Option EpollCtl)
    (fails : Bool) : Registry Key :=
  { channel := Function.update registry.channel key result.1
    interest := registry.interest.attempt (registry.channel key).fd_ key result.2 fails }

def Registry.step (registry : Registry Key) : EpollCall Key → Option (Registry Key)
  | .updateChannel key events fails => some
      (registry.apply key (Epoll.updateChannel ((registry.channel key).setEvents events)) fails)
  | .removeChannel key fails => some
      (registry.apply key (Epoll.removeChannel (registry.channel key)) fails)

/-- Any sequence of calls on the channels with these fds. -/
def Registry.system (fd : Key → Nat) : System (Registry Key) (EpollCall Key) where
  initial registry := registry = .new fd
  step := Registry.step

/-! ### The mirror -/

omit [DecidableEq Key] in
/-- The channel's `index_` is 1 if and only if its fd is in the interest list. -/
def Channel.Mirrors (channel : Channel) (interest : Interest Key) : Prop :=
  channel.index_ = 1 ↔ (interest channel.fd_).isSome = true

omit [DecidableEq Key] in
/-- Each channel's `index_` is 1 if and only if its fd is in the interest list. -/
def Registry.Mirrored (registry : Registry Key) : Prop :=
  ∀ key, (registry.channel key).Mirrors registry.interest

/-- Whether a call adds or deletes a registration: it updates a channel not added with some mask,
or an added one with none, or removes an added one. -/
def Registry.registers (registry : Registry Key) : EpollCall Key → Bool
  | .updateChannel key events _ =>
    if events = .none then (registry.channel key).index_ = 1
    else (registry.channel key).index_ = -1
  | .removeChannel key _ => (registry.channel key).index_ = 1

/-- Whether the kernel refuses the call. -/
def EpollCall.fails : EpollCall Key → Bool
  | .updateChannel _ _ fails => fails
  | .removeChannel _ fails => fails

/-- The kernel refuses no call that adds or deletes a registration. -/
def Registry.settles : Guard (Registry Key) (EpollCall Key) := fun registry call =>
  call.fails = true → registry.registers call = false

/-- A channel keeps its fd, and its `index_` is -1 or 1. -/
structure Registry.Sane (fd : Key → Nat) (registry : Registry Key) : Prop where
  fd : ∀ key, (registry.channel key).fd_ = fd key
  index : ∀ key, (registry.channel key).index_ = -1 ∨ (registry.channel key).index_ = 1

/-! ### One call -/

/-- What `updateChannel` and `removeChannel` can do. -/
inductive Calls (channel : Channel) : Channel × Option EpollCtl → Prop where
  | nothing : Calls channel (channel, none)
  | add (fresh : channel.index_ = -1) :
      Calls channel (channel.setIndex 1, some { op := .add, events := channel.events_ })
  | mod (added : channel.index_ ≠ -1) :
      Calls channel (channel, some { op := .mod, events := channel.events_ })
  | del (added : channel.index_ = 1) :
      Calls channel (channel.setIndex (-1), some { op := .del, events := channel.events_ })

theorem updateChannel_calls (channel : Channel) : Calls channel (Epoll.updateChannel channel) := by
  unfold Epoll.updateChannel
  split
  · split
    · exact .del ‹_›
    · exact .nothing
  · split
    · exact .add ‹_›
    · exact .mod ‹_›

theorem removeChannel_calls (channel : Channel) : Calls channel (Epoll.removeChannel channel) := by
  unfold Epoll.removeChannel
  split
  · exact .del ‹_›
  · exact .nothing

theorem Calls.fd {channel : Channel} {result : Channel × Option EpollCtl}
    (calls : Calls channel result) : result.1.fd_ = channel.fd_ := by
  cases calls <;> rfl

theorem Calls.index {channel : Channel} {result : Channel × Option EpollCtl}
    (calls : Calls channel result) (index : channel.index_ = -1 ∨ channel.index_ = 1) :
    result.1.index_ = -1 ∨ result.1.index_ = 1 := by
  cases calls with
  | nothing => exact index
  | add fresh => exact .inr rfl
  | mod added => exact index
  | del added => exact .inl rfl

omit [DecidableEq Key] in
/-- A call that changes `index_` keeps the mirror if and only if the kernel does what it asks for;
any other keeps it anyway. -/
theorem Calls.mirrors {channel : Channel} {result : Channel × Option EpollCtl}
    (calls : Calls channel result) (index : channel.index_ = -1 ∨ channel.index_ = 1)
    {interest : Interest Key} (mirrors : channel.Mirrors interest) (key : Key) (fails : Bool) :
    result.1.Mirrors (interest.attempt channel.fd_ key result.2 fails) ↔
      (fails = true → result.1.index_ = channel.index_) := by
  unfold Channel.Mirrors at mirrors ⊢
  rw [calls.fd]
  unfold Interest.attempt
  cases calls with
  | nothing =>
    refine iff_of_true ?_ fun _ => rfl
    cases fails <;> exact mirrors
  | add fresh =>
    have missing : interest channel.fd_ = none := by
      rw [fresh] at mirrors
      exact Option.not_isSome_iff_eq_none.mp fun registered => by cases mirrors.mpr registered
    cases fails with
    | false => simp [Interest.update, Interest.ctl, missing, Channel.setIndex]
    | true => simp [Channel.setIndex, missing, fresh]
  | mod added =>
    have isAdded : channel.index_ = 1 := index.resolve_left added
    obtain ⟨entry, registered⟩ := Option.isSome_iff_exists.mp (mirrors.mp isAdded)
    cases fails <;> simp [Interest.update, Interest.ctl, registered, isAdded]
  | del added =>
    obtain ⟨entry, registered⟩ := Option.isSome_iff_exists.mp (mirrors.mp added)
    cases fails with
    | false => simp [Interest.update, Interest.ctl, registered, Channel.setIndex]
    | true => simp [Channel.setIndex, registered, added]

omit [DecidableEq Key] in
/-- A call for one fd leaves what other fds are registered for alone. -/
theorem attempt_of_ne (interest : Interest Key) {fd other : Nat} (different : other ≠ fd)
    (key : Key) (call : Option EpollCtl) (fails : Bool) :
    interest.attempt fd key call fails other = interest other := by
  unfold Interest.attempt Interest.update Interest.ctl
  split
  · rfl
  · split
    · rfl
    · split <;> simp [Function.update_of_ne different]

theorem apply_channel (registry : Registry Key) (key other : Key)
    (result : Channel × Option EpollCtl) (fails : Bool) :
    (registry.apply key result fails).channel other =
      if other = key then result.1 else registry.channel other :=
  Function.update_apply registry.channel key result.1 other

theorem apply_interest (registry : Registry Key) (key : Key)
    (result : Channel × Option EpollCtl) (fails : Bool) :
    (registry.apply key result fails).interest =
      registry.interest.attempt (registry.channel key).fd_ key result.2 fails := rfl

/-- The mirror after a call, on channels with distinct fds. -/
theorem apply_mirrored {fd : Key → Nat} (distinct : Function.Injective fd)
    {registry : Registry Key} (sane : registry.Sane fd) (mirrored : registry.Mirrored) {key : Key}
    (channel : Channel) (same : channel.fd_ = (registry.channel key).fd_)
    (index : channel.index_ = (registry.channel key).index_) {result : Channel × Option EpollCtl}
    (calls : Calls channel result) (fails : Bool) :
    (registry.apply key result fails).Mirrored ↔
      (fails = true → result.1.index_ = (registry.channel key).index_) := by
  have mirrors : channel.Mirrors registry.interest := by
    unfold Channel.Mirrors
    rw [same, index]
    exact mirrored key
  rw [← index, ← calls.mirrors (index ▸ sane.index key) mirrors key fails]
  constructor
  · intro after
    have here := after key
    rwa [apply_channel, if_pos rfl, apply_interest, ← same] at here
  · intro here other
    rw [apply_channel, apply_interest, ← same]
    by_cases it : other = key
    · subst it
      rwa [if_pos rfl]
    · have different : (registry.channel other).fd_ ≠ channel.fd_ := by
        rw [same, sane.fd, sane.fd]
        exact fun equal => it (distinct equal)
      rw [if_neg it]
      unfold Channel.Mirrors
      rw [attempt_of_ne _ different]
      exact mirrored other

/-- A call keeps fds and the values of `index_`. -/
theorem apply_sane {fd : Key → Nat} {registry : Registry Key} (sane : registry.Sane fd) {key : Key}
    (channel : Channel) (same : channel.fd_ = (registry.channel key).fd_)
    (index : channel.index_ = (registry.channel key).index_) {result : Channel × Option EpollCtl}
    (calls : Calls channel result) (fails : Bool) : (registry.apply key result fails).Sane fd where
  fd other := by
    rw [apply_channel]
    split
    · rename_i it
      rw [it, calls.fd, same, sane.fd]
    · exact sane.fd other
  index other := by
    rw [apply_channel]
    split
    · exact calls.index (index ▸ sane.index key)
    · exact sane.index other

/-- The calls that add or delete a registration are those that change `index_`. -/
theorem updateChannel_index {channel : Channel}
    (index : channel.index_ = -1 ∨ channel.index_ = 1) :
    (Epoll.updateChannel channel).1.index_ = channel.index_ ↔
      (if channel.events_ = .none then decide (channel.index_ = 1)
        else decide (channel.index_ = -1)) = false := by
  unfold Epoll.updateChannel
  rcases index with fresh | added
  · by_cases empty : channel.events_ = .none <;> simp [fresh, empty, Channel.setIndex]
  · by_cases empty : channel.events_ = .none <;> simp [added, empty, Channel.setIndex]

theorem removeChannel_index {channel : Channel}
    (index : channel.index_ = -1 ∨ channel.index_ = 1) :
    (Epoll.removeChannel channel).1.index_ = channel.index_ ↔
      decide (channel.index_ = 1) = false := by
  unfold Epoll.removeChannel
  rcases index with fresh | added
  · simp [fresh]
  · simp [added, Channel.setIndex]

theorem step_sane {fd : Key → Nat} {registry after : Registry Key} (sane : registry.Sane fd)
    {call : EpollCall Key} (step : registry.step call = some after) : after.Sane fd := by
  cases call with
  | updateChannel key events fails =>
    obtain rfl := Option.some.inj step
    exact apply_sane sane ((registry.channel key).setEvents events) rfl rfl
      (updateChannel_calls _) fails
  | removeChannel key fails =>
    obtain rfl := Option.some.inj step
    exact apply_sane sane (registry.channel key) rfl rfl (removeChannel_calls _) fails

/-- From a mirrored state, a call leads to a mirrored one if and only if the kernel does not refuse
to add or delete a registration. -/
theorem step_mirrored {fd : Key → Nat} (distinct : Function.Injective fd)
    {registry after : Registry Key} (sane : registry.Sane fd) (mirrored : registry.Mirrored)
    {call : EpollCall Key} (step : registry.step call = some after) :
    after.Mirrored ↔ registry.settles call := by
  cases call with
  | updateChannel key events fails =>
    obtain rfl := Option.some.inj step
    have index : ((registry.channel key).setEvents events).index_ = -1 ∨
        ((registry.channel key).setEvents events).index_ = 1 := sane.index key
    rw [apply_mirrored distinct sane mirrored ((registry.channel key).setEvents events) rfl rfl
      (updateChannel_calls _) fails]
    exact imp_congr_right fun _ => updateChannel_index index
  | removeChannel key fails =>
    obtain rfl := Option.some.inj step
    rw [apply_mirrored distinct sane mirrored (registry.channel key) rfl rfl
      (removeChannel_calls _) fails]
    exact imp_congr_right fun _ => removeChannel_index (sane.index key)

/-! ### Whole runs -/

omit [DecidableEq Key] in
theorem new_sane (fd : Key → Nat) : (Registry.new fd).Sane fd :=
  ⟨fun _ => rfl, fun _ => .inl rfl⟩

omit [DecidableEq Key] in
theorem new_mirrored (fd : Key → Nat) : (Registry.new fd).Mirrored := fun _ =>
  iff_of_false (show ¬ (-1 : Int) = 1 by decide) Bool.false_ne_true

theorem reachable_sane {fd : Key → Nat} {registry : Registry Key}
    (reachable : Reachable (Registry.system fd) registry) : registry.Sane fd := by
  refine reachable.invariant (Registry.Sane fd) ?_ fun _ _ _ _ sane _ => step_sane sane
  rintro _ rfl
  exact new_sane fd

/-- Along a run on channels with distinct fds every channel's `index_` mirrors the kernel after
every call if and only if the kernel refuses no call that adds or deletes a registration. -/
theorem index_mirrors_kernel {fd : Key → Nat} (distinct : Function.Injective fd)
    {run : Recorded (Registry Key) (EpollCall Key)}
    (reachable : Reachable (Registry.system fd).recorded run) :
    ((∀ step ∈ run.past, step.1.Mirrored) ∧ run.now.Mirrored) ↔
      ∀ step ∈ run.past, step.1.settles step.2 := by
  refine reachable.invariant (fun run =>
    ((∀ step ∈ run.past, step.1.Mirrored) ∧ run.now.Mirrored) ↔
      ∀ step ∈ run.past, step.1.settles step.2) ?_ ?_
  · rintro run ⟨empty, initial⟩
    rw [empty, show run.now = .new fd from initial]
    exact iff_of_true ⟨nofun, new_mirrored fd⟩ nofun
  · intro run call after before inductionHypothesis _ step
    obtain ⟨taken, past⟩ := recorded_step step
    have sane := reachable_sane (before.now fun _ _ _ => trivial)
    rw [past, List.forall_mem_append, List.forall_mem_append, List.forall_mem_singleton,
      List.forall_mem_singleton, ← inductionHypothesis]
    exact and_congr_right fun mirrored => step_mirrored distinct sane mirrored.2 taken

/-- The channel is added, the kernel refuses to modify it, and it is removed. -/
theorem index_mirrors_kernel_refused :
    ∃ run : Recorded (Registry Unit) (EpollCall Unit), run.past.length = 3 ∧
      (((∀ step ∈ run.past, step.1.Mirrored) ∧ run.now.Mirrored) ↔
        ∀ step ∈ run.past, step.1.settles step.2) := by
  have refused : ∃ run, Reachable (Registry.system fun _ : Unit => 5).recorded run ∧
      run.past.length = 3 :=
    exists_of_replay (initial_recorded rfl)
      [.updateChannel () (Channel.new 5).enableReading.events_ false,
        .updateChannel () (Channel.new 5).enableWriting.events_ true, .removeChannel () false]
      (by decide)
  obtain ⟨run, reachable, calls⟩ := refused
  exact ⟨run, calls, index_mirrors_kernel (fun _ _ _ => rfl) reachable⟩

/-- The kernel refuses EPOLL_CTL_ADD once. `index_` says that the channel has been added, so trying
again asks for EPOLL_CTL_MOD, and the channel is not registered by that either. -/
theorem index_lost : ∃ registry, Reachable (Registry.system fun _ : Unit => 5) registry ∧
    (registry.channel ()).index_ = 1 ∧ registry.interest 5 = none :=
  exists_of_replay rfl [.updateChannel () (Channel.new 5).enableReading.events_ true,
    .updateChannel () (Channel.new 5).enableReading.events_ false] (by decide)

end MultiReactor
