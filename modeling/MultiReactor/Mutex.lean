/-
This file is the library of a mutex over any set of threads: who holds it, and
which threads are inside a critical section. Mutual exclusion is the statement
that these agree, and the lemmas say what keeps it: a step that moves no thread
in or out, a step that locks a free mutex, a step that leaves and unlocks.
-/

import Mathlib.Data.Option.Basic

namespace Mutex

variable {Thread : Type}

/-- A thread is inside a critical section exactly when it holds the mutex. -/
def Excludes (holder : Option Thread) (inside : Thread → Bool) : Prop :=
  ∀ thread, holder = some thread ↔ inside thread = true

variable {holder : Option Thread} {inside after : Thread → Bool}

/-- Two threads are never inside together. -/
theorem Excludes.alone (excludes : Excludes holder inside) {one other : Thread}
    (first : inside one = true) (second : inside other = true) : one = other :=
  Option.some.inj (((excludes one).mpr first).symm.trans ((excludes other).mpr second))

/-- Nobody is inside while the mutex is free. -/
theorem Excludes.outside (excludes : Excludes none inside) (thread : Thread) :
    inside thread = false :=
  Bool.eq_false_iff.mpr fun within => Option.some_ne_none thread ((excludes thread).mpr within).symm

theorem Excludes.keep (excludes : Excludes holder inside)
    (same : ∀ thread, after thread = inside thread) : Excludes holder after :=
  fun thread => by rw [same]; exact excludes thread

/-- A thread locks the free mutex and goes inside. -/
theorem Excludes.lock (excludes : Excludes none inside) {thread : Thread}
    (entered : after thread = true)
    (others : ∀ other, other ≠ thread → after other = inside other) :
    Excludes (some thread) after := by
  intro other
  by_cases same : other = thread
  · subst same
    exact ⟨fun _ => entered, fun _ => rfl⟩
  · have different : some thread ≠ some other := fun held => same (Option.some.inj held).symm
    simp [others other same, excludes.outside, different]

/-- The thread inside leaves and unlocks the mutex. -/
theorem Excludes.unlock (excludes : Excludes holder inside) {thread : Thread}
    (within : inside thread = true) (left : after thread = false)
    (others : ∀ other, other ≠ thread → after other = inside other) : Excludes none after := by
  have nobody (other : Thread) : after other = false := by
    by_cases same : other = thread
    · rw [same, left]
    · rw [others other same]
      exact Bool.eq_false_iff.mpr fun it => same (excludes.alone it within)
  intro other
  simp [nobody other]

end Mutex
