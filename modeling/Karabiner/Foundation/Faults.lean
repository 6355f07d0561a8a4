import Mathlib.Logic.Basic

/-! # Computations that may stop

A computation with a result or a reason why it stopped. `Yields allowed post` says that the
result has a property, and that the computation stops for an allowed reason only. The rules
follow the computation: one for each way it is put together.
-/

namespace Foundation

variable {ε α β γ : Type}

/-- The result has the property, or the computation has stopped for an allowed reason. -/
def Yields (allowed : ε → Prop) (post : α → Prop) : Except ε α → Prop
  | .ok result => post result
  | .error reason => allowed reason

namespace Yields

variable {allowed : ε → Prop} {post later : α → Prop} {computation : Except ε α}

theorem ok {result : α} (holds : post result) : Yields allowed post (.ok result) := holds

theorem pure {result : α} (holds : post result) :
    Yields allowed post (Pure.pure result : Except ε α) := holds

theorem error {reason : ε} (isAllowed : allowed reason) :
    Yields allowed post (.error reason) := isAllowed

/-- The property of the result may be weakened. -/
theorem imp (yields : Yields allowed post computation)
    (weaker : ∀ result, post result → later result) : Yields allowed later computation := by
  cases computation with
  | ok result => exact weaker result yields
  | error reason => exact yields

/-- What is known of the first result is what the rest may rely on. -/
theorem bind {next : α → Except ε β} {after : β → Prop} (first : Yields allowed post computation)
    (rest : ∀ result, post result → Yields allowed after (next result)) :
    Yields allowed after (computation >>= next) := by
  cases computation with
  | ok result => exact rest result first
  | error reason => exact first

theorem map {change : α → β} {after : β → Prop} (first : Yields allowed post computation)
    (rest : ∀ result, post result → after (change result)) :
    Yields allowed after (change <$> computation) := by
  cases computation with
  | ok result => exact rest result first
  | error reason => exact first

/-- A result that is there has the property. -/
theorem of_ok (yields : Yields allowed post computation) {result : α}
    (isResult : computation = .ok result) : post result := by
  rw [isResult] at yields
  exact yields

/-- A reason why the computation stopped is an allowed one. -/
theorem of_error (yields : Yields allowed post computation) {reason : ε}
    (stopped : computation = .error reason) : allowed reason := by
  rw [stopped] at yields
  exact yields

/-- A fold keeps what each of its steps keeps. -/
theorem foldlM {invariant : γ → Prop} {step : γ → α → Except ε γ} (elements : List α)
    (each : ∀ state, invariant state → ∀ element ∈ elements,
      Yields allowed invariant (step state element))
    {state : γ} (start : invariant state) :
    Yields allowed invariant (elements.foldlM step state) := by
  induction elements generalizing state with
  | nil => exact start
  | cons element rest ih =>
      rw [List.foldlM_cons]
      refine (each state start element List.mem_cons_self).bind fun next kept => ih ?_ kept
      exact fun state kept element member =>
        each state kept element (List.mem_cons_of_mem _ member)

end Yields

/-- A result of a chain comes from a result of its first computation. -/
theorem exists_of_bind_eq_ok {first : Except ε α} {next : α → Except ε β} {result : β}
    (isResult : first >>= next = .ok result) :
    ∃ between, first = .ok between ∧ next between = .ok result := by
  cases first with
  | ok between => exact ⟨between, rfl, isResult⟩
  | error reason => cases isResult

/-- A computation stops for the reason for which it stops when its result is changed. -/
theorem eq_error_of_map {computation : Except ε α} {change : α → β} {reason : ε}
    (stopped : computation.map change = .error reason) : computation = .error reason := by
  cases computation with
  | ok result => cases stopped
  | error reason => exact congrArg _ (Except.error.inj stopped)

end Foundation
