/-
This file is the library of stacks whose frames use a resource. A frame may use
it only while somebody holds it: the frame itself, a frame under it, which is
there for longer, or whatever the stack stands on. Frames come and go on top, so
what backs a frame when it is pushed still does when its turn comes.
-/

import Mathlib.Data.List.Basic

namespace Backing

variable {Frame : Type} {uses holds : Frame → Prop} {ground : Prop}

/-- Every frame that uses the resource finds a holder at or under it, or on the ground. -/
def Backed (uses holds : Frame → Prop) (ground : Prop) : List Frame → Prop
  | [] => True
  | top :: rest => (uses top → ground ∨ ∃ frame ∈ top :: rest, holds frame) ∧
      Backed uses holds ground rest

/-- What backs a frame that uses the resource holds it at that moment. -/
theorem Backed.held {stack : List Frame} (backed : Backed uses holds ground stack) {frame : Frame}
    (member : frame ∈ stack) (used : uses frame) : ground ∨ ∃ holder ∈ stack, holds holder := by
  induction stack with
  | nil => cases member
  | cons top rest inductionHypothesis =>
    rcases List.mem_cons.mp member with rfl | below
    · exact backed.1 used
    · refine (inductionHypothesis backed.2 below).imp_right fun ⟨holder, inRest, held⟩ => ?_
      exact ⟨holder, List.mem_cons_of_mem _ inRest, held⟩

/-- A frame is pushed that uses nothing. -/
theorem Backed.unused {top : Frame} {rest : List Frame} (backed : Backed uses holds ground rest)
    (unused : ¬ uses top) : Backed uses holds ground (top :: rest) :=
  ⟨fun used => absurd used unused, backed⟩

/-- Frames are pushed that hold what they use, or find it below. -/
theorem Backed.push {frames rest : List Frame} (backed : Backed uses holds ground rest)
    (each : ∀ frame ∈ frames, uses frame →
      holds frame ∨ ground ∨ ∃ holder ∈ rest, holds holder) :
    Backed uses holds ground (frames ++ rest) := by
  induction frames with
  | nil => exact backed
  | cons top frames inductionHypothesis =>
    refine ⟨fun used => ?_, inductionHypothesis fun frame member =>
      each frame (List.mem_cons_of_mem _ member)⟩
    rcases each top List.mem_cons_self used with held | ground | ⟨holder, below, held⟩
    · exact .inr ⟨top, List.mem_cons_self, held⟩
    · exact .inl ground
    · exact .inr ⟨holder, List.mem_cons_of_mem _ (List.mem_append_right _ below), held⟩

/-- The top frame makes way for frames that use the resource only if it did. -/
theorem Backed.replace {top : Frame} {frames rest : List Frame}
    (backed : Backed uses holds ground (top :: rest)) (drops : uses top → ¬ holds top)
    (each : ∀ frame ∈ frames, uses frame → uses top) :
    Backed uses holds ground (frames ++ rest) := by
  refine backed.2.push fun frame member used => .inr ?_
  have used : uses top := each frame member used
  refine (backed.1 used).imp_right fun ⟨holder, inStack, held⟩ => ?_
  rcases List.mem_cons.mp inStack with rfl | below
  · exact absurd held (drops used)
  · exact ⟨holder, below, held⟩

end Backing
