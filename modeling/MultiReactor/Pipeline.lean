/-
This file is the library of stages that items pass one after another. An item
enters a stage, is held there and leaves it, so what has entered has left or is
still there, in this order. Where every thread is a stage of its own, the items
carry their owner, and the stages of all owners together say that what has left
is what has entered, in some order, once nothing is held.
-/

import Mathlib.Data.List.Perm.Basic

namespace Pipeline

variable {Owner Item : Type}

/-! ### One stage -/

/-- What has entered a stage has left it or is held there, in this order. -/
def Stage (entered left held : List Item) : Prop := left ++ held = entered

/-- A stage before anything has entered it. -/
theorem stage_empty : Stage ([] : List Item) [] [] := rfl

theorem Stage.step {entered left held entering leaving after : List Item}
    (stage : Stage entered left held) (moved : held ++ entering = leaving ++ after) :
    Stage (entered ++ entering) (left ++ leaving) after := by
  have before : left ++ held = entered := stage
  show left ++ leaving ++ after = entered ++ entering
  rw [List.append_assoc, ← moved, ← List.append_assoc, before]

/-- What has left has entered, and in the same order. -/
theorem Stage.in_order {entered left held : List Item} (stage : Stage entered left held) :
    left <+: entered :=
  ⟨held, stage⟩

/-! ### A stage for every owner -/

variable [DecidableEq Owner]

/-- The items of one owner. -/
def ownedBy (owner : Owner) (items : List (Owner × Item)) : List Item :=
  items.filterMap fun item => if item.1 = owner then some item.2 else none

theorem ownedBy_append (owner : Owner) (first second : List (Owner × Item)) :
    ownedBy owner (first ++ second) = ownedBy owner first ++ ownedBy owner second :=
  List.filterMap_append

/-- An item occurs as often as its owner has it. -/
theorem count_ownedBy [DecidableEq Item] (owner : Owner) (item : Item)
    (items : List (Owner × Item)) :
    (ownedBy owner items).count item = items.count (owner, item) := by
  induction items with
  | nil => rfl
  | cons first rest inductionHypothesis =>
    obtain ⟨another, other⟩ := first
    rw [List.count_cons, ← inductionHypothesis]
    by_cases same : another = owner
    · subst same
      simp [ownedBy, List.count_cons]
    · simp [ownedBy, same]

/-- What has left the stages of all owners has entered them. -/
theorem subperm_of_stages {entered left : List (Owner × Item)} {held : Owner → List Item}
    (stages : ∀ owner, Stage (ownedBy owner entered) (ownedBy owner left) (held owner)) :
    left.Subperm entered := by
  classical
  refine List.subperm_ext_iff.mpr fun item _ => ?_
  obtain ⟨owner, item⟩ := item
  rw [← count_ownedBy, ← count_ownedBy]
  exact (stages owner).in_order.sublist.count_le item

/-- When no owner holds anything, what has left is what has entered. -/
theorem perm_of_stages {entered left : List (Owner × Item)}
    (stages : ∀ owner, Stage (ownedBy owner entered) (ownedBy owner left) []) :
    left.Perm entered := by
  classical
  refine List.perm_iff_count.mpr fun item => ?_
  obtain ⟨owner, item⟩ := item
  have drained : ownedBy owner left ++ [] = ownedBy owner entered := stages owner
  rw [← count_ownedBy, ← count_ownedBy, ← drained, List.append_nil]

end Pipeline
