/-
This file is the library of custody. Cells are allocated, passed from one owner
to another and freed. As long as every cell that is allocated has one owner and
every owner at most one cell, nobody reads or frees a cell that is gone, no cell
is freed twice, and none is left behind. Where the owners are the places of one
system, every item has one whereabouts, and a step moves an item.
-/

import Mathlib.Logic.Function.Basic

namespace Custody

section Custody

variable {Owner Value : Type} {heap : Nat → Option Value} {cell : Owner → Option Nat}
  {owner heir : Owner} {address : Nat}

/-- The allocated cells are those that have an owner, and an owner has its cell alone. -/
structure Keeps (heap : Nat → Option Value) (cell : Owner → Option Nat) : Prop where
  allocated : ∀ address, heap address ≠ none ↔ ∃ owner, cell owner = some address
  alone : ∀ owner other address, cell owner = some address → cell other = some address →
    owner = other

/-- What an owner has is allocated. -/
theorem Keeps.isSome (keeps : Keeps heap cell) (own : cell owner = some address) :
    ∃ value, heap address = some value :=
  Option.ne_none_iff_exists'.mp ((keeps.allocated address).mpr ⟨owner, own⟩)

/-- Nothing is allocated at the start. -/
theorem keeps_empty : Keeps (fun _ => none : Nat → Option Value) (fun _ => none : Owner → _) where
  allocated _ := iff_of_false (fun allocated => allocated rfl) fun ⟨_, own⟩ => by cases own
  alone _ _ _ own := by cases own

variable [DecidableEq Owner]

/-- An owner without a cell allocates one. -/
theorem Keeps.allocate (keeps : Keeps heap cell) (empty : cell owner = none)
    (free : heap address = none) (value : Value) :
    Keeps (Function.update heap address (some value))
      (Function.update cell owner (some address)) := by
  have others {other : Owner} : cell other ≠ some address := fun own =>
    (keeps.allocated address).mpr ⟨other, own⟩ free
  refine ⟨fun place => ?_, fun first second place own other => ?_⟩
  · by_cases here : place = address
    · rw [here, Function.update_self]
      exact iff_of_true (fun same => by cases same) ⟨owner, Function.update_self ..⟩
    · rw [Function.update_of_ne here, keeps.allocated]
      refine exists_congr fun other => ?_
      by_cases same : other = owner
      · rw [same, empty, Function.update_self]
        exact iff_of_false (fun same => by cases same) fun own => here (Option.some.inj own).symm
      · rw [Function.update_of_ne same]
  · rw [Function.update_apply] at own other
    split at own <;> split at other
    · exact ‹first = owner›.trans ‹second = owner›.symm
    · exact absurd (Option.some.inj own ▸ other) others
    · exact absurd (Option.some.inj other ▸ own) others
    · exact keeps.alone first second place own other

/-- An owner frees its cell. -/
theorem Keeps.free (keeps : Keeps heap cell) (own : cell owner = some address) :
    Keeps (Function.update heap address none) (Function.update cell owner none) := by
  refine ⟨fun place => ?_, fun first second place holds other => ?_⟩
  · by_cases here : place = address
    · rw [here, Function.update_self]
      refine iff_of_false (fun allocated => allocated rfl) fun ⟨other, holds⟩ => ?_
      rw [Function.update_apply] at holds
      split at holds
      · cases holds
      · exact ‹other ≠ owner› (keeps.alone other owner address holds own)
    · rw [Function.update_of_ne here, keeps.allocated]
      refine exists_congr fun other => ?_
      by_cases same : other = owner
      · rw [same, own, Function.update_self]
        exact iff_of_false (fun equal => here (Option.some.inj equal).symm)
          fun same => by cases same
      · rw [Function.update_of_ne same]
  · rw [Function.update_apply] at holds other
    split at holds
    · cases holds
    · split at other
      · cases other
      · exact keeps.alone first second place holds other

/-- An owner passes its cell to another, which has none. -/
theorem Keeps.pass (keeps : Keeps heap cell) (own : cell owner = some address)
    (empty : cell heir = none) :
    Keeps heap (Function.update (Function.update cell owner none) heir (some address)) := by
  have apart : owner ≠ heir := fun same => by
    rw [same, empty] at own
    cases own
  refine ⟨fun place => ?_, fun first second place holds other => ?_⟩
  · rw [keeps.allocated]
    constructor
    · rintro ⟨other, holds⟩
      by_cases same : other = owner
      · refine ⟨heir, ?_⟩
        rw [Function.update_self, ← own, ← same, holds]
      · refine ⟨other, ?_⟩
        have different : other ≠ heir := fun equal => by
          rw [equal, empty] at holds
          cases holds
        rw [Function.update_of_ne different, Function.update_of_ne same, holds]
    · rintro ⟨other, holds⟩
      rw [Function.update_apply, Function.update_apply] at holds
      split at holds
      · exact ⟨owner, own.trans holds⟩
      · split at holds
        · cases holds
        · exact ⟨other, holds⟩
  · have taken {other : Owner} (holds : cell other = some address) : other = owner :=
      keeps.alone other owner address holds own
    rw [Function.update_apply, Function.update_apply] at holds other
    split at holds <;> split at other
    · exact ‹first = heir›.trans ‹second = heir›.symm
    · split at other
      · cases other
      · exact absurd (taken (Option.some.inj holds ▸ other)) ‹second ≠ owner›
    · split at holds
      · cases holds
      · exact absurd (taken (Option.some.inj other ▸ holds)) ‹first ≠ owner›
    · split at holds
      · cases holds
      · split at other
        · cases other
        · exact keeps.alone first second place holds other

end Custody

/-! ### Whereabouts -/

section Whereabouts

variable {Item Place : Type} {found now : Place → Item → Prop} {lost : Place}
  {whereabouts : Item → Place}

/-- Every item is found at its whereabouts and nowhere else, unless it is lost. -/
def Located (found : Place → Item → Prop) (lost : Place) (whereabouts : Item → Place) : Prop :=
  ∀ item place, place ≠ lost → (found place item ↔ whereabouts item = place)

/-- Nothing has moved. -/
theorem Located.stays (located : Located found lost whereabouts)
    (same : ∀ place item, now place item ↔ found place item) : Located now lost whereabouts :=
  fun item place watched => (same place item).trans (located item place watched)

/-- An item moves, and no other does. -/
theorem Located.moves [DecidableEq Item] (located : Located found lost whereabouts) {item : Item}
    {next : Place} (self : ∀ place, place ≠ lost → (now place item ↔ next = place))
    (others : ∀ place other, other ≠ item → (now place other ↔ found place other)) :
    Located now lost (Function.update whereabouts item next) := by
  intro other place watched
  by_cases same : other = item
  · rw [same, Function.update_self]
    exact self place watched
  · rw [Function.update_of_ne same, others place other same]
    exact located other place watched

/-- An item is found in one place only. -/
theorem Located.alone (located : Located found lost whereabouts) {item : Item}
    {place other : Place} (watched : place ≠ lost) (also : other ≠ lost) (here : found place item)
    (there : found other item) : place = other :=
  ((located item place watched).mp here).symm.trans ((located item other also).mp there)

end Whereabouts

end Custody
