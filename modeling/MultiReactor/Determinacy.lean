/-
This file is the library of systems that are determined by what they read. A
step of a reading system is silent or reads one input, and the state decides
which: two runs from one state whose inputs agree differ at most in how far
they have come. A larger system follows a reading system when each of its steps
is either a step of the reading system on what is seen in it, or none at all.
What two larger systems show of one reading system is then the same as long as
they see the same, whatever else goes on in them.
-/

import Mathlib.Data.List.Basic
import Mathlib.Data.List.ReduceOption
import MultiReactor.Transition

namespace Transition

variable {State Label Input View : Type}

/-! ### The way a list of labels leads -/

/-- Where a list of labels leads. -/
def System.through (system : System State Label) (state : State) (labels : List Label) :
    Option State :=
  labels.foldlM system.step state

/-- The states a list of labels leads through, the first one included. -/
def System.path (system : System State Label) : State → List Label → List State
  | state, [] => [state]
  | state, label :: rest => state :: (system.step state label).elim [] (system.path · rest)

section Path

variable {system : System State Label} {state middle after : State} {label : Label}
  {labels first : List Label}

theorem through_cons :
    system.through state (label :: labels) =
      (system.step state label).bind (system.through · labels) :=
  List.foldlM_cons

theorem through_append :
    system.through state (first ++ labels) =
      (system.through state first).bind (system.through · labels) :=
  List.foldlM_append

theorem through_concat (leads : system.through state labels = some middle)
    (step : system.step middle label = some after) :
    system.through state (labels ++ [label]) = some after := by
  rw [through_append, leads, Option.bind_some, through_cons, step]
  rfl

theorem path_concat (leads : system.through state labels = some middle)
    (step : system.step middle label = some after) :
    system.path state (labels ++ [label]) = system.path state labels ++ [after] := by
  induction labels generalizing state with
  | nil =>
    obtain rfl : state = middle := Option.some.inj leads
    simp [System.path, step]
  | cons head rest inductionHypothesis =>
    obtain ⟨next, taken, onward⟩ := Option.bind_eq_some_iff.mp (through_cons.symm.trans leads)
    simp [System.path, taken, inductionHypothesis onward]

/-- A longer list of labels leads through the states of a shorter one first. -/
theorem path_in_order (shorter : first <+: labels)
    (leads : system.through state labels = some after) :
    system.path state first <+: system.path state labels := by
  obtain ⟨rest, rfl⟩ := shorter
  induction first generalizing state with
  | nil =>
    cases rest with
    | nil => exact List.prefix_rfl
    | cons label rest => exact ⟨_, rfl⟩
  | cons label first inductionHypothesis =>
    obtain ⟨next, taken, onward⟩ := Option.bind_eq_some_iff.mp (through_cons.symm.trans leads)
    simp only [System.path, List.cons_append, taken, Option.elim_some, List.cons_prefix_cons,
      true_and]
    exact inductionHypothesis onward

end Path

/-! ### Reading systems -/

/-- A label is the input the step reads, if it reads one. A state that has a silent step reads
nothing. -/
def Reading (system : System State (Option Input)) : Prop :=
  ∀ state input, (system.step state none).isSome = true → system.step state (some input) = none

section Reading

variable {system : System State (Option Input)} {state here there : State}
  {first second : List (Option Input)}

/-- What is read decides the way: labels whose inputs agree are the same labels as far as both
go. -/
theorem Reading.comparable (reading : Reading system)
    (leads : system.through state first = some here)
    (leadsToo : system.through state second = some there)
    (agree : first.reduceOption <+: second.reduceOption) :
    first <+: second ∨ second <+: first := by
  induction first generalizing state second with
  | nil => exact .inl List.nil_prefix
  | cons label first inductionHypothesis =>
    cases second with
    | nil => exact .inr List.nil_prefix
    | cons other second =>
      obtain ⟨next, taken, onward⟩ := Option.bind_eq_some_iff.mp (through_cons.symm.trans leads)
      obtain ⟨nextToo, takenToo, onwardToo⟩ :=
        Option.bind_eq_some_iff.mp (through_cons.symm.trans leadsToo)
      -- the state decides whether the step reads, and what agrees is what it reads
      have same : label = other ∧ first.reduceOption <+: second.reduceOption := by
        cases label with
        | none =>
          cases other with
          | none => exact ⟨rfl, agree⟩
          | some input =>
            have unread := reading state input (Option.isSome_of_eq_some taken)
            cases unread.symm.trans takenToo
        | some input =>
          cases other with
          | none =>
            have unread := reading state input (Option.isSome_of_eq_some takenToo)
            cases unread.symm.trans taken
          | some given =>
            simpa [List.reduceOption_cons_of_some] using agree
      obtain ⟨rfl, onwardAgree⟩ := same
      obtain rfl : next = nextToo := Option.some.inj (taken.symm.trans takenToo)
      simpa using inductionHypothesis onward onwardToo onwardAgree

/-- Labels that go on from a state at rest read something. -/
theorem eq_of_reads_same (leads : system.through state first = some here)
    (leadsToo : system.through state second = some there) (shorter : first <+: second)
    (same : first.reduceOption = second.reduceOption) (rests : system.step here none = none) :
    first = second := by
  obtain ⟨rest, rfl⟩ := shorter
  rw [List.reduceOption_append, List.self_eq_append_right] at same
  rw [through_append, leads, Option.bind_some] at leadsToo
  cases rest with
  | nil => exact (List.append_nil first).symm
  | cons label rest =>
    cases label with
    | none =>
      obtain ⟨next, taken, -⟩ := Option.bind_eq_some_iff.mp (through_cons.symm.trans leadsToo)
      cases rests.symm.trans taken
    | some input => simp [List.reduceOption_cons_of_some] at same

/-- Two ways from one state that read the same and end at rest are the same. -/
theorem Reading.determined (reading : Reading system)
    (leads : system.through state first = some here)
    (leadsToo : system.through state second = some there)
    (same : first.reduceOption = second.reduceOption) (rests : system.step here none = none)
    (restsToo : system.step there none = none) : first = second := by
  rcases reading.comparable leads leadsToo (same ▸ List.prefix_rfl) with shorter | longer
  · exact eq_of_reads_same leads leadsToo shorter same rests
  · exact (eq_of_reads_same leadsToo leads longer same.symm restsToo).symm

end Reading

/-! ### What is shown -/

/-- Note a value, if it differs from the last one and that one was not final. -/
def note [DecidableEq View] (final : View → Bool) (values : List View) (view : View) : List View :=
  if values.getLast? = some view ∨ values.getLast?.any final = true then values
  else values ++ [view]

/-- The values a sequence of views goes through, up to and including the first final one. -/
def noted [DecidableEq View] (final : View → Bool) (views : List View) : List View :=
  views.foldl (note final) []

section Noted

variable [DecidableEq View] {final : View → Bool}

theorem noted_concat (views : List View) (view : View) :
    noted final (views ++ [view]) = note final (noted final views) view := by
  rw [noted, List.foldl_append]
  rfl

/-- Further views are noted after the earlier ones. -/
theorem noted_in_order {views more : List View} (longer : views <+: more) :
    noted final views <+: noted final more := by
  obtain ⟨rest, rfl⟩ := longer
  rw [noted, noted, List.foldl_append]
  generalize List.foldl (note final) [] views = values
  induction rest generalizing values with
  | nil => exact List.prefix_rfl
  | cons view rest inductionHypothesis =>
    refine List.IsPrefix.trans ?_ (inductionHypothesis (note final values view))
    unfold note
    split
    · exact List.prefix_rfl
    · exact List.prefix_append values [view]

variable {values : List View} {view : View}

/-- A view that is the last value already is not noted again. -/
theorem note_same (last : values.getLast? = some view) : note final values view = values :=
  if_pos (.inl last)

/-- Nothing is noted after a final value. -/
theorem note_final {last : View} (isLast : values.getLast? = some last)
    (isFinal : final last = true) : note final values view = values :=
  if_pos (.inr (by rw [isLast]; exact isFinal))

/-- A view noted after a value that is not final is the last value. -/
theorem note_last {last : View} (isLast : values.getLast? = some last)
    (notFinal : final last = false) : (note final values view).getLast? = some view := by
  unfold note
  split
  · rename_i kept
    rcases kept with same | isFinal
    · exact same
    · rw [isLast, Option.any_some, notFinal] at isFinal
      cases isFinal
  · exact List.getLast?_concat

end Noted

/-! ### Following a reading system -/

variable {Abstract : Type}

/-- A system follows a reading system in the runs a guard permits: each of its steps is a step of
the reading system on what is seen in it, or none, and it shows what that one shows until that is
final. -/
structure Follows (system : System State Label) (guard : Guard State Label)
    (reader : System Abstract (Option Input)) (first : Abstract)
    (sees : State → Label → Option Input) (related : State → Abstract → Prop)
    (view : State → View) (shown : Abstract → View) (final : View → Bool) : Prop where
  start : ∀ state, system.initial state → related state first ∧ view state = shown first
  step : ∀ state label after abstract, ReachableBy system guard state →
    related state abstract → guard state label → system.step state label = some after →
    sees state label = none ∧ related after abstract ∧
        (final (shown abstract) = false → view after = shown abstract) ∨
      ∃ next, final (shown abstract) = false ∧
        reader.step abstract (sees state label) = some next ∧ related after next ∧
        view after = shown next

/-- What is seen in the steps of a run. -/
def Recorded.seen (sees : State → Label → Option Input) (run : Recorded State Label) :
    List Input :=
  run.past.filterMap fun step => sees step.1 step.2

/-- What a run shows in each of its states. -/
def Recorded.views (view : State → View) (run : Recorded State Label) : List View :=
  run.past.map (fun step => view step.1) ++ [view run.now]

section Follows

variable [DecidableEq View] {system : System State Label} {guard : Guard State Label}
  {reader : System Abstract (Option Input)} {first : Abstract}
  {sees : State → Label → Option Input} {related : State → Abstract → Prop}
  {view : State → View} {shown : Abstract → View} {final : View → Bool}

/-- A run is matched by a way of the reading system that reads what is seen in the run and shows
what the run shows. -/
theorem Follows.run
    (follows : Follows system guard reader first sees related view shown final)
    {run : Recorded State Label}
    (reachable : ReachableBy system.recorded (fun run label => guard run.now label) run) :
    ∃ labels abstract, reader.through first labels = some abstract ∧ related run.now abstract ∧
      labels.reduceOption = run.seen sees ∧
      noted final ((reader.path first labels).map shown) = noted final (run.views view) ∧
      (noted final (run.views view)).getLast? = some (shown abstract) := by
  induction reachable with
  | @start run initial =>
    obtain ⟨past, initial⟩ := initial
    obtain ⟨begins, shows⟩ := follows.start run.now initial
    refine ⟨[], first, rfl, begins, ?_, ?_, ?_⟩
    · rw [Recorded.seen, past]
      rfl
    · rw [Recorded.views, past, shows]
      rfl
    · rw [Recorded.views, past, shows]
      rfl
  | @next run after label before permitted step inductionHypothesis =>
    obtain ⟨labels, abstract, leads, isRelated, reads, same, last⟩ := inductionHypothesis
    obtain ⟨taken, past⟩ := recorded_step step
    have here : ReachableBy system guard run.now :=
      before.now fun _ _ permits => permits
    have seen : after.seen sees = run.seen sees ++ (sees run.now label).toList := by
      rw [Recorded.seen, past, List.filterMap_append]
      cases given : sees run.now label <;> simp [Recorded.seen, given]
    have views : noted final (after.views view) =
        note final (noted final (run.views view)) (view after.now) := by
      rw [← noted_concat, Recorded.views, past]
      simp [Recorded.views]
    rcases follows.step run.now label after.now abstract here isRelated permitted taken with
      ⟨unseen, stillRelated, shows⟩ | ⟨next, opened, moves, nowRelated, shows⟩
    · -- the reading system stays where it is, and nothing is noted
      have unchanged : noted final (after.views view) = noted final (run.views view) := by
        rw [views]
        cases isFinal : final (shown abstract) with
        | true => exact note_final last isFinal
        | false => exact note_same (shows isFinal ▸ last)
      refine ⟨labels, abstract, leads, stillRelated, ?_, same.trans unchanged.symm, ?_⟩
      · rw [seen, unseen, reads]
        exact (List.append_nil _).symm
      · rw [unchanged, last]
    · refine ⟨labels ++ [sees run.now label], next, through_concat leads moves, nowRelated, ?_, ?_,
        ?_⟩
      · rw [List.reduceOption_append, reads, seen]
        cases sees run.now label <;> rfl
      · rw [path_concat leads moves, List.map_append, List.map_singleton, noted_concat, same, views,
          shows]
      · rw [views, shows]
        exact note_last last opened

end Follows

section Agree

variable [DecidableEq View] {StateToo LabelToo : Type}
  {reader : System Abstract (Option Input)} {first : Abstract} {shown : Abstract → View}
  {final : View → Bool}
  {system : System State Label} {guard : Guard State Label}
  {sees : State → Label → Option Input} {related : State → Abstract → Prop}
  {view : State → View}
  {systemToo : System StateToo LabelToo} {guardToo : Guard StateToo LabelToo}
  {seesToo : StateToo → LabelToo → Option Input} {relatedToo : StateToo → Abstract → Prop}
  {viewToo : StateToo → View}
  {run : Recorded State Label} {runToo : Recorded StateToo LabelToo}

/-- Two systems that follow one reading system show the same as long as they see the same. -/
theorem Follows.agree (reading : Reading reader)
    (follows : Follows system guard reader first sees related view shown final)
    (followsToo : Follows systemToo guardToo reader first seesToo relatedToo viewToo shown final)
    (reachable : ReachableBy system.recorded (fun run label => guard run.now label) run)
    (reachableToo :
      ReachableBy systemToo.recorded (fun run label => guardToo run.now label) runToo)
    (agree : run.seen sees <+: runToo.seen seesToo) :
    noted final (run.views view) <+: noted final (runToo.views viewToo) ∨
      noted final (runToo.views viewToo) <+: noted final (run.views view) := by
  obtain ⟨labels, abstract, leads, -, reads, same, -⟩ := follows.run reachable
  obtain ⟨labelsToo, abstractToo, leadsToo, -, readsToo, sameToo, -⟩ :=
    followsToo.run reachableToo
  rw [← reads, ← readsToo] at agree
  rw [← same, ← sameToo]
  exact (reading.comparable leads leadsToo agree).imp
    (fun shorter => noted_in_order ((path_in_order shorter leadsToo).map shown))
    fun longer => noted_in_order ((path_in_order longer leads).map shown)

/-- Where both have come to rest, they have shown the same. -/
theorem Follows.agree_at_rest (reading : Reading reader)
    (follows : Follows system guard reader first sees related view shown final)
    (followsToo : Follows systemToo guardToo reader first seesToo relatedToo viewToo shown final)
    (reachable : ReachableBy system.recorded (fun run label => guard run.now label) run)
    (reachableToo :
      ReachableBy systemToo.recorded (fun run label => guardToo run.now label) runToo)
    (same : run.seen sees = runToo.seen seesToo)
    (rests : ∀ abstract, related run.now abstract → reader.step abstract none = none)
    (restsToo : ∀ abstract, relatedToo runToo.now abstract → reader.step abstract none = none) :
    noted final (run.views view) = noted final (runToo.views viewToo) := by
  obtain ⟨labels, abstract, leads, isRelated, reads, shows, -⟩ := follows.run reachable
  obtain ⟨labelsToo, abstractToo, leadsToo, isRelatedToo, readsToo, showsToo, -⟩ :=
    followsToo.run reachableToo
  obtain rfl := reading.determined leads leadsToo (reads.trans (same.trans readsToo.symm))
    (rests abstract isRelated) (restsToo abstractToo isRelatedToo)
  exact shows.symm.trans showsToo

end Agree

end Transition
