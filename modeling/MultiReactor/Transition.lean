/-
This file is the library of labelled transition systems the development runs
on. A system is a set of initial states and a partial deterministic step that
reads a label: the label resolves everything the environment decides, so a
list of labels replays one run. Reachability is stated under a guard on the
steps. The unguarded notion is the guard that permits every step, and a claim
about the runs whose steps all meet a condition is a claim about guarded
reachability, so one induction rule serves both. A claim about what has happened
along a run is a claim about the states of the system that records its steps.
-/

import Mathlib.Data.List.Induction
import Mathlib.Data.Option.Basic

namespace Transition

/-- Initial states and a partial step that reads a label. -/
structure System (State Label : Type) where
  initial : State → Prop
  step : State → Label → Option State

/-- The condition on a step under which a guarded run takes it. -/
abbrev Guard (State Label : Type) := State → Label → Prop

/-- The guard that permits every step. -/
def anyStep {State Label : Type} : Guard State Label := fun _ _ => True

/-- The states reached by runs whose steps all meet the guard. -/
inductive ReachableBy {State Label : Type} (system : System State Label)
    (guard : Guard State Label) : State → Prop where
  | start {state : State} (initial : system.initial state) : ReachableBy system guard state
  | next {state after : State} {label : Label} (before : ReachableBy system guard state)
      (permitted : guard state label) (step : system.step state label = some after) :
      ReachableBy system guard after

/-- The states reached by any run. -/
abbrev Reachable {State Label : Type} (system : System State Label) : State → Prop :=
  ReachableBy system anyStep

/-! ### Invariants -/

/-- A weaker guard reaches more states. -/
theorem ReachableBy.mono {State Label : Type} {system : System State Label}
    {strong weak : Guard State Label}
    (weaker : ∀ state label, strong state label → weak state label)
    {state : State} (reachable : ReachableBy system strong state) :
    ReachableBy system weak state := by
  induction reachable with
  | start initial => exact .start initial
  | next _ permitted step inductionHypothesis =>
    exact .next inductionHypothesis (weaker _ _ permitted) step

/-- A guarded run is a run. -/
theorem ReachableBy.reachable {State Label : Type} {system : System State Label}
    {guard : Guard State Label} {state : State} (reachable : ReachableBy system guard state) :
    Reachable system state :=
  reachable.mono fun _ _ _ => trivial

/-- A property that holds initially and that every permitted step keeps holds in every state a
guarded run reaches. The step may use that its source is reachable, so invariants are proved one
after another, each from the ones before it. -/
theorem ReachableBy.invariant {State Label : Type} {system : System State Label}
    {guard : Guard State Label} (property : State → Prop)
    (start : ∀ state, system.initial state → property state)
    (keep : ∀ state label after, ReachableBy system guard state → property state →
      guard state label → system.step state label = some after → property after)
    {state : State} (reachable : ReachableBy system guard state) : property state := by
  induction reachable with
  | start initial => exact start _ initial
  | next before permitted step inductionHypothesis =>
    exact keep _ _ _ before inductionHypothesis permitted step

/-! ### Later states -/

/-- The same steps, beginning in a given state: its runs are the continuations of a run that has
come there. -/
def System.after {State Label : Type} (system : System State Label) (state : State) :
    System State Label :=
  { system with initial := fun first => first = state }

/-- A property that every permitted step keeps lasts: what holds in a reached state holds in every
state the run comes to later. -/
theorem ReachableBy.lasts {State Label : Type} {system : System State Label}
    {guard : Guard State Label} (property : State → Prop)
    (keep : ∀ state label after, ReachableBy system guard state → property state →
      guard state label → system.step state label = some after → property after)
    {state later : State} (reachable : ReachableBy system guard state) (holds : property state)
    (run : ReachableBy (system.after state) guard later) :
    ReachableBy system guard later ∧ property later := by
  induction run with
  | start initial =>
    obtain rfl := initial
    exact ⟨reachable, holds⟩
  | next _ permitted step inductionHypothesis =>
    obtain ⟨before, held⟩ := inductionHypothesis
    exact ⟨.next before permitted step, keep _ _ _ before held permitted step⟩

/-- A continuation of a continuation is a continuation. -/
theorem ReachableBy.trans {State Label : Type} {system : System State Label}
    {guard : Guard State Label} {state middle later : State}
    (first : ReachableBy (system.after state) guard middle)
    (second : ReachableBy (system.after middle) guard later) :
    ReachableBy (system.after state) guard later := by
  induction second with
  | start initial =>
    obtain rfl := initial
    exact first
  | next _ permitted step inductionHypothesis => exact .next inductionHypothesis permitted step

/-! ### Runs on record -/

/-- A state and the steps that have led to it: the state before each, and its label. -/
structure Recorded (State Label : Type) where
  past : List (State × Label)
  now : State

/-- The same system, with its steps on record. A property of runs rather than of single states is
a property of the states this system reaches. -/
def System.recorded {State Label : Type} (system : System State Label) :
    System (Recorded State Label) Label where
  initial run := run.past = [] ∧ system.initial run.now
  step run label := (system.step run.now label).map fun after =>
    { past := run.past ++ [(run.now, label)], now := after }

/-- A run on record begins where a run begins. -/
theorem initial_recorded {State Label : Type} {system : System State Label} {state : State}
    (initial : system.initial state) :
    system.recorded.initial { past := [], now := state } :=
  ⟨rfl, initial⟩

/-- A step on record is a step. -/
theorem recorded_step {State Label : Type} {system : System State Label}
    {run after : Recorded State Label} {label : Label}
    (step : system.recorded.step run label = some after) :
    system.step run.now label = some after.now ∧ after.past = run.past ++ [(run.now, label)] := by
  obtain ⟨now, taken, rfl⟩ := Option.map_eq_some_iff.mp step
  exact ⟨taken, rfl⟩

/-- What a recorded run reaches, a run reaches. -/
theorem ReachableBy.now {State Label : Type} {system : System State Label}
    {strong : Guard (Recorded State Label) Label} {weak : Guard State Label}
    (weaker : ∀ run label, strong run label → weak run.now label) {run : Recorded State Label}
    (reachable : ReachableBy system.recorded strong run) : ReachableBy system weak run.now := by
  induction reachable with
  | start initial => exact .start initial.2
  | next _ permitted step inductionHypothesis =>
    exact .next inductionHypothesis (weaker _ _ permitted) (recorded_step step).1

/-- Whether some step of a run happens, given the steps before it. -/
def occurs {Step : Type} (happens : List Step → Step → Bool) (before : List Step) :
    List Step → Bool
  | [] => false
  | step :: rest => happens before step || occurs happens (before ++ [step]) rest

/-- What has occurred after one more step has occurred before it, or the step is it. -/
theorem occurs_concat {Step : Type} (happens : List Step → Step → Bool)
    (before past : List Step) (step : Step) :
    occurs happens before (past ++ [step]) =
      (occurs happens before past || happens (before ++ past) step) := by
  induction past generalizing before with
  | nil => rw [List.append_nil, List.nil_append, occurs, occurs, occurs, Bool.or_comm]
  | cons first rest inductionHypothesis =>
    rw [List.cons_append, occurs, inductionHypothesis, occurs, Bool.or_assoc, List.append_assoc]
    rfl

/-- A property of runs that lasts, and holds whenever a step happens, holds once it has. -/
theorem of_occurs {Step : Type} {happens : List Step → Step → Bool} (property : List Step → Prop)
    (begins : ∀ past step, happens past step = true → property (past ++ [step]))
    (lasts : ∀ past step, property past → property (past ++ [step])) {past : List Step}
    (occurred : occurs happens [] past = true) : property past := by
  induction past using List.reverseRecOn with
  | nil => cases occurred
  | append_singleton past step inductionHypothesis =>
    rw [occurs_concat, Bool.or_eq_true] at occurred
    rcases occurred with before | now
    · exact lasts past step (inductionHypothesis before)
    · exact begins past step now

/-- A potential that every step lowers, but for what it adds to a budget, bounds the number of steps
a run has taken. -/
theorem length_le_of_budget {State Label : Type} {system : System State Label}
    {guard : Guard State Label} (potential : State → Nat) (budget : Recorded State Label → Nat)
    (start : ∀ state, system.initial state → potential state ≤ budget { past := [], now := state })
    (lowers : ∀ run label after, ReachableBy system guard run.now → guard run.now label →
      system.recorded.step run label = some after →
      potential after.now + 1 + budget run ≤ potential run.now + budget after)
    {run : Recorded State Label}
    (reachable : ReachableBy system.recorded (fun run label => guard run.now label) run) :
    run.past.length + potential run.now ≤ budget run := by
  induction reachable with
  | @start run initial =>
    obtain ⟨past, now⟩ := run
    obtain ⟨rfl, first⟩ := initial
    rw [List.length_nil, Nat.zero_add]
    exact start now first
  | @next run after label before permitted step inductionHypothesis =>
    have lower := lowers run label after (before.now fun _ _ allowed => allowed) permitted step
    rw [(recorded_step step).2, List.length_append, List.length_singleton]
    omega

/-- What the labels of a run have paid. -/
def paid {State Label : Type} (pays : Label → Nat) (past : List (State × Label)) : Nat :=
  past.foldl (fun total step => total + pays step.2) 0

/-- A potential that every step lowers, but for what its label pays in, bounds the number of steps a
run can take. -/
theorem length_le_of_potential {State Label : Type} {system : System State Label}
    (potential : State → Nat) (pays : Label → Nat) (bound : Nat)
    (start : ∀ state, system.initial state → potential state ≤ bound)
    (lowers : ∀ state label after, Reachable system state →
      system.step state label = some after → potential after + 1 ≤ potential state + pays label)
    {run : Recorded State Label} (reachable : Reachable system.recorded run) :
    run.past.length + potential run.now ≤ bound + paid pays run.past := by
  have permitted : ReachableBy system.recorded (fun run label => anyStep run.now label) run :=
    reachable
  refine length_le_of_budget potential (fun run => bound + paid pays run.past) start ?_ permitted
  intro run label after before _ step
  obtain ⟨taken, past⟩ := recorded_step step
  have lower := lowers run.now label after.now before taken
  have more : paid pays after.past = paid pays run.past + pays label := by
    rw [past, paid, List.foldl_append]
    rfl
  simp only [more]
  omega

/-! ### Replaying a list of labels -/

/-- Take the steps of a list of labels in order, as long as the guard permits each. -/
def replay {State Label : Type} (system : System State Label) (guard : Guard State Label)
    [∀ state label, Decidable (guard state label)] : State → List Label → Option State
  | state, [] => some state
  | state, label :: rest =>
    if guard state label then (system.step state label).bind (replay system guard · rest) else none

/-- What a replay returns is reachable from where it began. -/
theorem reachableBy_of_replay {State Label : Type} {system : System State Label}
    {guard : Guard State Label} [∀ state label, Decidable (guard state label)]
    (labels : List Label) {state after : State} (reachable : ReachableBy system guard state)
    (returned : replay system guard state labels = some after) :
    ReachableBy system guard after := by
  induction labels generalizing state with
  | nil =>
    obtain rfl : state = after := Option.some.inj returned
    exact reachable
  | cons label rest inductionHypothesis =>
    rw [replay] at returned
    split at returned
    · rename_i permitted
      obtain ⟨middle, step, tail⟩ := Option.bind_eq_some_iff.mp returned
      exact inductionHypothesis (.next reachable permitted step) tail
    · cases returned

instance {State Label : Type} (state : State) (label : Label) :
    Decidable (anyStep state label) :=
  inferInstanceAs (Decidable True)

/-- A property checked where a replay ends holds in a reachable state. -/
theorem exists_of_replay {State Label : Type} {system : System State Label}
    {guard : Guard State Label} [∀ state label, Decidable (guard state label)]
    {state : State} (initial : system.initial state) (labels : List Label)
    {property : State → Prop} [DecidablePred property]
    (holds : (replay system guard state labels).any property = true) :
    ∃ after, ReachableBy system guard after ∧ property after := by
  obtain ⟨after, returned, checked⟩ := (Option.any_eq_true _ _).mp holds
  exact ⟨after, reachableBy_of_replay labels (.start initial) returned, of_decide_eq_true checked⟩

end Transition
