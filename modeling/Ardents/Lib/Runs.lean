/-
# Lib.Runs — histories of a partial step function

A system is a partial function `step : State → Event → Option State`: `none`
says that the event is not possible in that state.  A history is a list of
events, `run` folds it, and three readings of a history are used everywhere:

* `run step start events = some last`: the history is possible and ends in `last`;
* `Throughout step P start events`: `P` holds in every state the history visits,
  its first and its last one included;
* `Along step G start events`: `G` holds of every step the history takes, read in
  the state before it.

`Along.throughout` is the one induction behind every safety result: an invariant
kept by the steps that meet `G` holds throughout every history whose steps all
meet `G`.
-/
import Mathlib.Tactic

namespace Ardents.Lib

set_option autoImplicit false

universe u v

section Runs

variable {State : Type u} {Event : Type v} (step : State → Event → Option State)

/-- The state after a history, when every event of it is possible in turn. -/
def run : State → List Event → Option State
  | state, [] => some state
  | state, event :: events => (step state event).bind fun next => run next events

/-- `P` holds in every state the history visits. -/
def Throughout (P : State → Prop) : State → List Event → Prop
  | state, [] => P state
  | state, event :: events =>
    P state ∧ ∀ next, step state event = some next → Throughout P next events

/-- `G` holds of every step the history takes, in the state before it. -/
def Along (G : State → Event → Prop) : State → List Event → Prop
  | _, [] => True
  | state, event :: events =>
    G state event ∧ ∀ next, step state event = some next → Along G next events

variable {state : State} {events : List Event} {G H : State → Event → Prop} {I : State → Prop}

theorem run_cons_eq_some {last : State} {event : Event} :
    run step state (event :: events) = some last ↔
      ∃ next, step state event = some next ∧ run step next events = some last := by
  simp [run, Option.bind_eq_some_iff]

/-- Whether a decidable condition holds along a history can be computed. -/
instance Along.decidable (G : State → Event → Prop) [∀ state event, Decidable (G state event)] :
    ∀ (state : State) (events : List Event), Decidable (Along step G state events)
  | _, [] => isTrue trivial
  | state, event :: events =>
    match found : step state event with
    | none => decidable_of_iff (G state event) (by simp [Along, found])
    | some next =>
      have := Along.decidable G next events
      decidable_of_iff (G state event ∧ Along step G next events) (by simp [Along, found])

variable {step} {P : State → Prop}

theorem Throughout.first (throughout : Throughout step P state events) : P state := by
  cases events with
  | nil => exact throughout
  | cons event events => exact throughout.1

theorem Throughout.last {last : State} (throughout : Throughout step P state events)
    (ran : run step state events = some last) : P last := by
  induction events generalizing state with
  | nil =>
    cases ran
    exact throughout
  | cons event events ih =>
    obtain ⟨next, stepped, rest⟩ := (run_cons_eq_some step).mp ran
    exact ih (throughout.2 next stepped) rest

theorem Throughout.imp {Q : State → Prop} (weaken : ∀ state, P state → Q state)
    (throughout : Throughout step P state events) : Throughout step Q state events := by
  induction events generalizing state with
  | nil => exact weaken state throughout
  | cons event events ih =>
    exact ⟨weaken state throughout.1, fun next stepped => ih (throughout.2 next stepped)⟩

theorem Along.imp (weaken : ∀ state event, G state event → H state event)
    (along : Along step G state events) : Along step H state events := by
  induction events generalizing state with
  | nil => trivial
  | cons event events ih =>
    exact ⟨weaken state event along.1, fun next stepped => ih (along.2 next stepped)⟩

theorem Along.and (first : Along step G state events) (second : Along step H state events) :
    Along step (fun state event => G state event ∧ H state event) state events := by
  induction events generalizing state with
  | nil => trivial
  | cons event events ih =>
    exact ⟨⟨first.1, second.1⟩, fun next stepped => ih (first.2 next stepped) (second.2 next stepped)⟩

/-- A condition along a history holds along its second part, from where the first one ends. -/
theorem Along.append {first second : List Event} (along : Along step G state (first ++ second)) :
    Along step G state first ∧
      ∀ middle, run step state first = some middle → Along step G middle second := by
  induction first generalizing state with
  | nil =>
    refine ⟨trivial, ?_⟩
    rintro _ ⟨⟩
    exact along
  | cons event events ih =>
    refine ⟨⟨along.1, fun next stepped => (ih (along.2 next stepped)).1⟩, fun middle ran => ?_⟩
    obtain ⟨next, stepped, rest⟩ := (run_cons_eq_some step).mp ran
    exact (ih (along.2 next stepped)).2 middle rest

/-- **The invariant rule.**  An invariant of the first state that every step
meeting `G` keeps holds throughout every history whose steps all meet `G`. -/
theorem Along.throughout
    (keeps : ∀ state event next, I state → G state event → step state event = some next → I next)
    (start : I state) (along : Along step G state events) : Throughout step I state events := by
  induction events generalizing state with
  | nil => exact start
  | cons event events ih =>
    refine ⟨start, fun next stepped => ?_⟩
    exact ih (keeps state event next start along.1 stepped) (along.2 next stepped)

/-- What an invariant and the steps' condition give at one step holds along the
whole history. -/
theorem Throughout.along (derive : ∀ state event, I state → G state event → H state event)
    (throughout : Throughout step I state events) (along : Along step G state events) :
    Along step H state events := by
  induction events generalizing state with
  | nil => trivial
  | cons event events ih =>
    exact ⟨derive state event throughout.1 along.1, fun next stepped =>
      ih (throughout.2 next stepped) (along.2 next stepped)⟩

/-- The invariant rule without a condition on the steps. -/
theorem throughout_of_invariant
    (keeps : ∀ state event next, I state → step state event = some next → I next) (start : I state)
    (events : List Event) : Throughout step I state events := by
  induction events generalizing state with
  | nil => exact start
  | cons event events ih =>
    exact ⟨start, fun next stepped => ih (keeps state event next start stepped)⟩

end Runs

end Ardents.Lib
