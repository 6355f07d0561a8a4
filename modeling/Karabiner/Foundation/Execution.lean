import Mathlib.Data.List.Induction

/-! # Runs of a step function

A machine is a step function `step : σ → α → σ`; a run is a list of actions
folded over the start state. An invariant that every step preserves holds after
every run, and a step condition that a run meets at each of its states may be
assumed when the step is proved.
-/

namespace Foundation.Execution

variable {σ α : Type*} (step : σ → α → σ)

/-- Every action of the run meets the condition at the state it is taken in. -/
def StepsMeet (condition : σ → α → Prop) : σ → List α → Prop
  | _, [] => True
  | state, action :: rest => condition state action ∧ StepsMeet condition (step state action) rest

variable {step}

@[simp] theorem stepsMeet_nil (condition : σ → α → Prop) (state : σ) :
    StepsMeet step condition state [] := trivial

@[simp] theorem stepsMeet_cons (condition : σ → α → Prop) (state : σ) (action : α)
    (rest : List α) :
    StepsMeet step condition state (action :: rest) ↔
      condition state action ∧ StepsMeet step condition (step state action) rest := Iff.rfl

theorem stepsMeet_append (condition : σ → α → Prop) (state : σ) (first second : List α) :
    StepsMeet step condition state (first ++ second) ↔
      StepsMeet step condition state first ∧
        StepsMeet step condition (first.foldl step state) second := by
  induction first generalizing state with
  | nil => simp
  | cons action rest ih => simp [ih, and_assoc]

theorem StepsMeet.imp {first second : σ → α → Prop}
    (weaker : ∀ state action, first state action → second state action) {state : σ}
    {actions : List α} (meets : StepsMeet step first state actions) :
    StepsMeet step second state actions := by
  induction actions generalizing state with
  | nil => trivial
  | cons action rest ih => exact ⟨weaker _ _ meets.1, ih meets.2⟩

theorem StepsMeet.and {first second : σ → α → Prop} {state : σ} {actions : List α}
    (one : StepsMeet step first state actions) (two : StepsMeet step second state actions) :
    StepsMeet step (fun state action => first state action ∧ second state action) state actions := by
  induction actions generalizing state with
  | nil => trivial
  | cons action rest ih => exact ⟨⟨one.1, two.1⟩, ih one.2 two.2⟩

instance decidableStepsMeet (condition : σ → α → Prop)
    [∀ state action, Decidable (condition state action)] :
    ∀ state actions, Decidable (StepsMeet step condition state actions)
  | _, [] => isTrue trivial
  | state, action :: rest =>
      have := decidableStepsMeet condition (step state action) rest
      inferInstanceAs (Decidable (_ ∧ _))

/-- An invariant preserved by every step that meets the condition holds after
every run whose steps all meet it. -/
theorem invariant_of_stepsMeet {invariant : σ → Prop} {condition : σ → α → Prop}
    (preserved : ∀ state action, invariant state → condition state action →
      invariant (step state action))
    {state : σ} {actions : List α} (start : invariant state)
    (meets : StepsMeet step condition state actions) : invariant (actions.foldl step state) := by
  induction actions generalizing state with
  | nil => exact start
  | cons action rest ih => exact ih (preserved state action start meets.1) meets.2

/-- Two conditions that agree under an invariant, which every step that meets the first
one preserves, are met by the same runs. -/
theorem stepsMeet_iff {invariant : σ → Prop} {first second : σ → α → Prop}
    (agree : ∀ state action, invariant state → (first state action ↔ second state action))
    (preserved : ∀ state action, invariant state → first state action →
      invariant (step state action))
    {state : σ} (actions : List α) (start : invariant state) :
    StepsMeet step first state actions ↔ StepsMeet step second state actions := by
  induction actions generalizing state with
  | nil => exact Iff.rfl
  | cons action rest ih =>
      rw [stepsMeet_cons, stepsMeet_cons, ← agree state action start]
      exact and_congr_right fun meets => ih (preserved state action start meets)

/-- An invariant preserved by every step holds after every run. -/
theorem invariant_of_steps {invariant : σ → Prop}
    (preserved : ∀ state action, invariant state → invariant (step state action))
    {state : σ} (start : invariant state) (actions : List α) :
    invariant (actions.foldl step state) := by
  induction actions generalizing state with
  | nil => exact start
  | cons action rest ih => exact ih (preserved state action start)

/-! ## The history of a run -/

variable (step) in
/-- The steps of a run, each with its state, its action and its next state. -/
def transitions : σ → List α → List (σ × α × σ)
  | _, [] => []
  | state, action :: rest =>
      (state, action, step state action) :: transitions (step state action) rest

theorem transitions_concat (state : σ) (actions : List α) (last : α) :
    transitions step state (actions ++ [last]) = transitions step state actions ++
      [(actions.foldl step state, last, step (actions.foldl step state) last)] := by
  induction actions generalizing state with
  | nil => rfl
  | cons action rest ih => exact congrArg _ (ih (step state action))

/-- What holds at the start and is preserved by each step, with the steps so far, holds after every
run. -/
theorem history_invariant {invariant : List (σ × α × σ) → σ → Prop} {state : σ}
    (start : invariant [] state)
    (preserved : ∀ history state action, invariant history state →
      invariant (history ++ [(state, action, step state action)]) (step state action))
    (actions : List α) : invariant (transitions step state actions) (actions.foldl step state) := by
  induction actions using List.reverseRecOn with
  | nil => exact start
  | append_singleton actions last ih =>
      rw [transitions_concat, List.foldl_append]
      exact preserved _ _ _ ih

end Foundation.Execution
