/-
This file is the library of sums over a finite family in which one member
changes at a time. A quantity spread over the threads of a program (the tasks
they still have to run, the references they hold) is a sum of this kind, and a
step of one thread changes one summand. What lies on one stack or in one queue
is the total of a list.
-/

import Mathlib.Algebra.BigOperators.Group.Finset.Basic
import Mathlib.Algebra.Order.BigOperators.Group.Finset
import Mathlib.Data.Fintype.BigOperators

namespace Ledger

/-- Updating one member exchanges its weight for the weight of the new one. -/
theorem sum_update {Index Value : Type} [Fintype Index] [DecidableEq Index]
    (weight : Index → Value → Nat) (family : Index → Value) (index : Index) (value : Value) :
    (∑ other, weight other (Function.update family index value other)) +
        weight index (family index) =
      (∑ other, weight other (family other)) + weight index value := by
  have changed := Finset.sum_erase_add Finset.univ
    (fun other => weight other (Function.update family index value other)) (Finset.mem_univ index)
  have original := Finset.sum_erase_add Finset.univ
    (fun other => weight other (family other)) (Finset.mem_univ index)
  have others : ∑ other ∈ Finset.univ.erase index,
        weight other (Function.update family index value other) =
      ∑ other ∈ Finset.univ.erase index, weight other (family other) := by
    refine Finset.sum_congr rfl fun other member => ?_
    rw [Function.update_of_ne (Finset.ne_of_mem_erase member)]
  rw [Function.update_self, others] at changed
  omega

/-- One member weighs at most the whole family. -/
theorem le_sum {Index : Type} [Fintype Index] (weight : Index → Nat) (index : Index) :
    weight index ≤ ∑ other, weight other :=
  Finset.single_le_sum (fun _ _ => Nat.zero_le _) (Finset.mem_univ index)

/-- A family weighs nothing when no member does. -/
theorem sum_eq_zero {Index : Type} [Fintype Index] (weight : Index → Nat)
    (empty : ∀ index, weight index = 0) : ∑ index, weight index = 0 :=
  Finset.sum_eq_zero fun index _ => empty index

/-- What the entries of a list weigh together. -/
def total {Value : Type} (weight : Value → Nat) : List Value → Nat
  | [] => 0
  | first :: rest => weight first + total weight rest

section Total

variable {Value : Type} (weight : Value → Nat)

@[simp] theorem total_nil : total weight [] = 0 := rfl

@[simp] theorem total_cons (first : Value) (rest : List Value) :
    total weight (first :: rest) = weight first + total weight rest := rfl

@[simp] theorem total_append (front back : List Value) :
    total weight (front ++ back) = total weight front + total weight back := by
  induction front with
  | nil => simp
  | cons first rest inductionHypothesis => simp [inductionHypothesis, Nat.add_assoc]

@[simp] theorem total_map {Source : Type} (change : Source → Value) (list : List Source) :
    total weight (list.map change) = total (fun entry => weight (change entry)) list := by
  induction list with
  | nil => rfl
  | cons first rest inductionHypothesis => simp [inductionHypothesis]

/-- A list of light entries weighs no more than its length allows. -/
theorem total_le {bound : Nat} (light : ∀ entry, weight entry ≤ bound) (list : List Value) :
    total weight list ≤ list.length * bound := by
  induction list with
  | nil => exact Nat.zero_le _
  | cons first rest inductionHypothesis =>
    rw [total_cons, List.length_cons, Nat.succ_mul, Nat.add_comm]
    exact Nat.add_le_add inductionHypothesis (light first)

end Total

end Ledger
