/-
This file is the library of what a poller watches edge-triggered. The poller puts a
source on its ready list when something comes in, and takes it off when it reports
it. What has come in is then not announced a second time, so whoever has been told
of a source has to take from it until nothing is left.

A sink tells the poller when it has become writable, but only if it has been asked
to: when it took less than it was given, or when the poller found it not writable.
How much room makes it writable is the poller's, so a sink that would take an item
need not be writable yet.
-/

import Mathlib.Data.List.Basic

namespace Readiness

/-! ### Sources -/

/-- What has come in at a source and not been taken, whether it has ended, and whether it is on the
ready list. -/
structure Source (Item : Type) where
  pending : List Item
  ended : Bool
  ready : Bool
  deriving DecidableEq

section Source

variable {Item : Type} {source : Source Item}

/-- There is something to be had: items, or the news that there will be no more. -/
def Source.hasInput (source : Source Item) : Bool :=
  !source.pending.isEmpty || source.ended

def Source.arrives (items : List Item) (source : Source Item) : Source Item :=
  { source with pending := source.pending ++ items, ready := true }

def Source.ends (source : Source Item) : Source Item :=
  { source with ended := true, ready := true }

/-- The poller reports the source. -/
def Source.report (source : Source Item) : Source Item :=
  { source with ready := false }

/-- So many items are taken. -/
def Source.take (count : Nat) (source : Source Item) : Source Item :=
  { source with pending := source.pending.drop count }

/-- The poller begins to watch the source: it looks at it once. -/
def Source.watch (source : Source Item) : Source Item :=
  { source with ready := source.hasInput }

/-- What there is at the source will be reported. -/
def Source.Announced (source : Source Item) : Prop :=
  source.hasInput = true → source.ready = true

theorem announced_arrives (items : List Item) : (source.arrives items).Announced :=
  fun _ => rfl

theorem announced_ends : source.ends.Announced :=
  fun _ => rfl

theorem announced_watch : source.watch.Announced :=
  id

/-- A source at which nothing is left needs no announcement. -/
theorem announced_of_nothing (nothing : source.hasInput = false) : source.Announced :=
  fun input => by cases nothing.symm.trans input

/-- Taking from a source leaves no more to announce. -/
theorem Source.Announced.take (announced : source.Announced) (count : Nat) :
    (source.take count).Announced := fun input => by
  refine announced ?_
  rw [Source.hasInput, Bool.or_eq_true] at input ⊢
  refine input.imp_left fun left => ?_
  rw [Bool.not_eq_true', List.isEmpty_eq_false_iff] at left ⊢
  exact fun empty => left (by rw [Source.take, empty, List.drop_nil])

end Source

/-! ### Sinks -/

/-- With how much room the poller takes a sink for writable: not with none, and more room does no
harm. -/
structure Writability where
  writable : Nat → Bool
  full : writable 0 = false
  mono : ∀ {room more : Nat}, room ≤ more → writable room = true → writable more = true

/-- How many items a sink would take, and whether it is to tell the poller when it is writable. -/
structure Sink where
  room : Nat
  nospace : Bool
  deriving DecidableEq

section Sink

variable {poller : Writability} {sink : Sink}

/-- The sink is given so many items, and takes those it has room for. -/
def Sink.put (count : Nat) (sink : Sink) : Sink :=
  { room := sink.room - count, nospace := sink.nospace || sink.room < count }

/-- The poller looks at the sink. -/
def Sink.poll (poller : Writability) (sink : Sink) : Sink :=
  { sink with nospace := sink.nospace || !poller.writable sink.room }

/-- Room for so many items more makes the sink tell the poller. -/
def Sink.tells (poller : Writability) (count : Nat) (sink : Sink) : Bool :=
  sink.nospace && poller.writable (sink.room + count)

/-- There is room for so many items more. -/
def Sink.free (poller : Writability) (count : Nat) (sink : Sink) : Sink :=
  { room := sink.room + count, nospace := sink.nospace && !sink.tells poller count }

/-- The sink is not writable, and will tell the poller when it is. -/
def Sink.Awaits (poller : Writability) (sink : Sink) : Prop :=
  poller.writable sink.room = false ∧ sink.nospace = true

theorem Writability.less (poller : Writability) {room less : Nat} (le : less ≤ room)
    (unwritable : poller.writable room = false) : poller.writable less = false :=
  Bool.eq_false_iff.mpr fun writable => by cases unwritable.symm.trans (poller.mono le writable)

/-- A sink that the poller finds not writable will tell it. -/
theorem awaits_poll (unwritable : poller.writable sink.room = false) :
    (sink.poll poller).Awaits poller :=
  ⟨unwritable, by rw [Sink.poll, unwritable]; exact Bool.or_true _⟩

/-- So will a sink that took less than it was given. -/
theorem awaits_put {count : Nat} (short : sink.room < count) :
    (sink.put count).Awaits poller := by
  refine ⟨?_, Bool.or_eq_true_iff.mpr (.inr (decide_eq_true short))⟩
  show poller.writable (sink.room - count) = false
  rw [Nat.sub_eq_zero_of_le (Nat.le_of_lt short)]
  exact poller.full

theorem Sink.Awaits.poll (awaits : sink.Awaits poller) : (sink.poll poller).Awaits poller :=
  awaits_poll awaits.1

theorem Sink.Awaits.put (awaits : sink.Awaits poller) (count : Nat) :
    (sink.put count).Awaits poller :=
  ⟨poller.less (Nat.sub_le _ _) awaits.1, Bool.or_eq_true_iff.mpr (.inl awaits.2)⟩

/-- With more room a sink tells the poller, or still will. -/
theorem Sink.Awaits.free (awaits : sink.Awaits poller) (count : Nat) :
    sink.tells poller count = true ∨ (sink.free poller count).Awaits poller := by
  cases told : sink.tells poller count with
  | true => exact .inl rfl
  | false =>
    refine .inr ⟨?_, ?_⟩
    · rwa [Sink.tells, awaits.2, Bool.true_and] at told
    · show (sink.nospace && !sink.tells poller count) = true
      rw [awaits.2, told]
      rfl

end Sink

end Readiness
