import Mathlib.Order.WellFounded

/-! # Sequences that stop

A sequence of steps has a rank. Some steps are busy, and there are always more of them. If a
busy step that does not stop lowers the rank, and no other step raises it, then a busy step
stops.
-/

namespace Foundation.Ranking

variable {α : Type*} [Preorder α] [WellFoundedLT α]

/-- A rank that falls at each busy moment cannot be busy for ever, so that one of these moments
stops. -/
theorem exists_stop {rank : ℕ → α} {busy stops : ℕ → Prop} (start : ℕ)
    (often : ∀ n, ∃ m, n ≤ m ∧ busy m)
    (kept : ∀ n, start ≤ n → ¬ busy n → rank (n + 1) ≤ rank n)
    (falls : ∀ n, start ≤ n → busy n → ¬ stops n → rank (n + 1) < rank n) :
    ∃ n, start ≤ n ∧ busy n ∧ stops n := by
  by_contra never
  have goesOn : ∀ n, start ≤ n → busy n → ¬ stops n := fun n late isBusy stopped =>
    never ⟨n, late, isBusy, stopped⟩
  have lower : ∀ n m, start ≤ n → n ≤ m → rank m ≤ rank n := by
    intro n m late le
    induction m, le using Nat.le_induction with
    | base => exact le_rfl
    | succ m le ih =>
        refine le_trans ?_ ih
        by_cases isBusy : busy m
        · exact (falls m (late.trans le) isBusy (goesOn m (late.trans le) isBusy)).le
        · exact kept m (late.trans le) isBusy
  -- The next busy step leads to a smaller rank, from which there is again a next one.
  have descent : ∀ value n, start ≤ n → rank n = value → False := by
    intro value
    induction value using WellFoundedLT.induction with
    | ind value ih =>
        rintro n late rfl
        obtain ⟨m, le, isBusy⟩ := often n
        have lateM := late.trans le
        have less : rank (m + 1) < rank n :=
          (falls m lateM isBusy (goesOn m lateM isBusy)).trans_le (lower n m late le)
        exact ih _ less (m + 1) (by omega) rfl
  exact descent _ start le_rfl rfl

end Foundation.Ranking
