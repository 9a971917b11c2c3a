import Mathlib.Data.List.Basic

/-!
# Guarded deterministic machines

A guarded machine takes one labelled step at a time and may refuse a label in
a state.  The rules below turn a fact about one step into a fact about a whole
run: an invariant, an invariant that needs a condition on the steps taken, and
a preorder between the first and the last state.  A step that is itself a
sequence of fallible parts is taken apart with the rule for two of them.
-/

/-- A sequence of two fallible steps succeeds when both do. -/
theorem Except.bind_eq_ok {Failure First Second : Type}
    {first : Except Failure First} {second : First → Except Failure Second}
    {result : Second} :
    (first >>= second) = .ok result ↔
      ∃ value, first = .ok value ∧ second value = .ok result := by
  cases first with
  | error failure => simp [bind, Except.bind]
  | ok value => simp [bind, Except.bind]

/-- A deterministic machine whose actions may be refused. -/
structure GuardedMachine (State Action : Type*) where
  step : State → Action → Option State

namespace GuardedMachine

variable {State Action : Type*} (machine : GuardedMachine State Action)

/-- Execute a list of actions, refusing the run at the first refused step. -/
def run : State → List Action → Option State
  | state, [] => some state
  | state, action :: rest =>
    match machine.step state action with
    | none => none
    | some next => run next rest

/-- Every step of the run meets a condition on its source state and action. -/
def StepsMeet (condition : State → Action → Prop) :
    State → List Action → Prop
  | _, [] => True
  | state, action :: rest =>
    condition state action ∧
      ∀ next, machine.step state action = some next →
        StepsMeet condition next rest

/-- The states some run from an initial state ends in. -/
def Reachable (initial : State → Prop) (state : State) : Prop :=
  ∃ start actions, initial start ∧ machine.run start actions = some state

@[simp]
theorem run_nil (state : State) : machine.run state [] = some state := rfl

theorem run_cons {state next : State} {action : Action}
    (steps : machine.step state action = some next) (rest : List Action) :
    machine.run state (action :: rest) = machine.run next rest := by
  simp [run, steps]

/-- A run that starts with an action passes through that action's target. -/
theorem run_cons_eq_some {state final : State} {action : Action}
    {rest : List Action} :
    machine.run state (action :: rest) = some final ↔
      ∃ next, machine.step state action = some next ∧
        machine.run next rest = some final := by
  cases result : machine.step state action with
  | none => simp [run, result]
  | some next => simp [run, result]

/-- Runs compose. -/
theorem run_append {state middle final : State} {first second : List Action}
    (runFirst : machine.run state first = some middle)
    (runSecond : machine.run middle second = some final) :
    machine.run state (first ++ second) = some final := by
  induction first generalizing state with
  | nil =>
    cases runFirst
    exact runSecond
  | cons action rest inductionHypothesis =>
    obtain ⟨next, steps, runRest⟩ := machine.run_cons_eq_some.mp runFirst
    rw [List.cons_append, machine.run_cons steps]
    exact inductionHypothesis runRest

/-- A run of a concatenation stops at the seam. -/
theorem run_append_eq_some {state final : State}
    {first second : List Action} :
    machine.run state (first ++ second) = some final ↔
      ∃ middle, machine.run state first = some middle ∧
        machine.run middle second = some final := by
  constructor
  · intro runAll
    induction first generalizing state with
    | nil => exact ⟨state, rfl, runAll⟩
    | cons action rest inductionHypothesis =>
      rw [List.cons_append] at runAll
      obtain ⟨next, steps, runRest⟩ := machine.run_cons_eq_some.mp runAll
      obtain ⟨middle, runFirst, runSecond⟩ := inductionHypothesis runRest
      exact ⟨middle, by rw [machine.run_cons steps]; exact runFirst, runSecond⟩
  · rintro ⟨middle, runFirst, runSecond⟩
    exact machine.run_append runFirst runSecond

theorem StepsMeet.cons {condition : State → Action → Prop}
    {state next : State} {action : Action} {rest : List Action}
    (steps : machine.step state action = some next)
    (conditionHolds : condition state action)
    (meets : machine.StepsMeet condition next rest) :
    machine.StepsMeet condition state (action :: rest) := by
  refine ⟨conditionHolds, ?_⟩
  intro other otherSteps
  rw [steps] at otherSteps
  cases otherSteps
  exact meets

/-- Whether the steps of a run meet a decidable condition can be computed. -/
instance decidableStepsMeet {condition : State → Action → Prop}
    [∀ state action, Decidable (condition state action)] :
    ∀ state actions, Decidable (machine.StepsMeet condition state actions)
  | _, [] => isTrue trivial
  | state, action :: rest =>
    match result : machine.step state action with
    | none =>
      decidable_of_iff (condition state action) (by simp [StepsMeet, result])
    | some next =>
      have : Decidable (machine.StepsMeet condition next rest) :=
        decidableStepsMeet next rest
      decidable_of_iff
        (condition state action ∧ machine.StepsMeet condition next rest)
        (by simp [StepsMeet, result])

/-- A condition on actions is met by the runs of actions that meet it. -/
theorem StepsMeet.of_forall_mem {condition : Action → Prop} {state : State}
    {actions : List Action} (meets : ∀ action ∈ actions, condition action) :
    machine.StepsMeet (fun _ action => condition action) state actions := by
  induction actions generalizing state with
  | nil => trivial
  | cons action rest inductionHypothesis =>
    refine ⟨meets action List.mem_cons_self, ?_⟩
    intro next _
    exact inductionHypothesis fun later member =>
      meets later (List.mem_cons_of_mem action member)

/-- Steps that meet a condition meet a weaker one. -/
theorem StepsMeet.mono {condition weaker : State → Action → Prop}
    (weakens : ∀ state action, condition state action → weaker state action)
    {state : State} {actions : List Action}
    (meets : machine.StepsMeet condition state actions) :
    machine.StepsMeet weaker state actions := by
  induction actions generalizing state with
  | nil => trivial
  | cons action rest inductionHypothesis =>
    obtain ⟨conditionHolds, meetsRest⟩ := meets
    exact ⟨weakens _ _ conditionHolds, fun next steps =>
      inductionHypothesis (meetsRest next steps)⟩

/-- Conditions that agree where an invariant holds are met by the same
runs. -/
theorem stepsMeet_congr {invariant : State → Prop}
    {admissible : Action → Prop} {first second : State → Action → Prop}
    (preserved : ∀ state action next, invariant state → admissible action →
      machine.step state action = some next → invariant next)
    (agree : ∀ state action, invariant state → admissible action →
      (first state action ↔ second state action))
    {state : State} {actions : List Action} (holds : invariant state)
    (allAdmissible : ∀ action ∈ actions, admissible action) :
    machine.StepsMeet first state actions ↔
      machine.StepsMeet second state actions := by
  induction actions generalizing state with
  | nil => exact Iff.rfl
  | cons action rest ih =>
    have actionAdmissible := allAdmissible action List.mem_cons_self
    have restAdmissible : ∀ later ∈ rest, admissible later :=
      fun later member => allAdmissible later (List.mem_cons_of_mem action member)
    have rests : ∀ next, machine.step state action = some next →
        (machine.StepsMeet first next rest ↔
          machine.StepsMeet second next rest) :=
      fun next steps =>
        ih (preserved state action next holds actionAdmissible steps)
          restAdmissible
    exact and_congr (agree state action holds actionAdmissible)
      (forall_congr' fun next => forall_congr' fun steps => rests next steps)

/-- The two halves of a run meet the condition their whole meets. -/
theorem StepsMeet.append {condition : State → Action → Prop}
    {state middle : State} {first second : List Action}
    (meets : machine.StepsMeet condition state (first ++ second))
    (runFirst : machine.run state first = some middle) :
    machine.StepsMeet condition state first ∧
      machine.StepsMeet condition middle second := by
  induction first generalizing state with
  | nil =>
    cases runFirst
    exact ⟨trivial, meets⟩
  | cons action rest inductionHypothesis =>
    obtain ⟨next, steps, runRest⟩ := machine.run_cons_eq_some.mp runFirst
    obtain ⟨conditionHolds, meetsRest⟩ := meets
    have halves := inductionHypothesis (meetsRest next steps) runRest
    exact ⟨.cons machine steps conditionHolds halves.1, halves.2⟩

/-- A run that meets a condition goes on to meet it. -/
theorem StepsMeet.append_of_run {condition : State → Action → Prop}
    {state middle : State} {first second : List Action}
    (meetsFirst : machine.StepsMeet condition state first)
    (runFirst : machine.run state first = some middle)
    (meetsSecond : machine.StepsMeet condition middle second) :
    machine.StepsMeet condition state (first ++ second) := by
  induction first generalizing state with
  | nil =>
    cases runFirst
    exact meetsSecond
  | cons action rest ih =>
    obtain ⟨next, steps, runRest⟩ := machine.run_cons_eq_some.mp runFirst
    obtain ⟨conditionHolds, meetsRest⟩ := meetsFirst
    exact .cons machine steps conditionHolds (ih (meetsRest next steps) runRest)

/-- What every step preserves, every run preserves. -/
theorem run_preserves {invariant : State → Prop}
    (preserved : ∀ state action next, invariant state →
      machine.step state action = some next → invariant next)
    {state final : State} {actions : List Action}
    (holds : invariant state)
    (runs : machine.run state actions = some final) :
    invariant final := by
  induction actions generalizing state with
  | nil =>
    cases runs
    exact holds
  | cons action rest inductionHypothesis =>
    obtain ⟨next, steps, runRest⟩ := machine.run_cons_eq_some.mp runs
    exact inductionHypothesis (preserved _ _ _ holds steps) runRest

/-- What every step that meets a condition preserves, every run of such steps
preserves. -/
theorem run_preserves_of_stepsMeet {invariant : State → Prop}
    {condition : State → Action → Prop}
    (preserved : ∀ state action next, invariant state →
      condition state action → machine.step state action = some next →
        invariant next)
    {state final : State} {actions : List Action}
    (holds : invariant state)
    (meets : machine.StepsMeet condition state actions)
    (runs : machine.run state actions = some final) :
    invariant final := by
  induction actions generalizing state with
  | nil =>
    cases runs
    exact holds
  | cons action rest inductionHypothesis =>
    obtain ⟨next, steps, runRest⟩ := machine.run_cons_eq_some.mp runs
    obtain ⟨conditionHolds, meetsRest⟩ := meets
    exact inductionHypothesis (preserved _ _ _ holds conditionHolds steps)
      (meetsRest next steps) runRest

/-- An invariant of the initial states and of every step holds in every
reachable state. -/
theorem Reachable.induction {initial invariant : State → Prop}
    (initially : ∀ state, initial state → invariant state)
    (preserved : ∀ state action next, invariant state →
      machine.step state action = some next → invariant next)
    {state : State} (reachable : machine.Reachable initial state) :
    invariant state := by
  obtain ⟨start, actions, starts, runs⟩ := reachable
  exact machine.run_preserves preserved (initially start starts) runs

end GuardedMachine
