import Mathlib.Data.List.Basic

/-! # What has held since the last stop

In a history, something has been started and has not been stopped since. After one more
event this is so when the event starts it, or when it was so before and the event does not
stop it.
-/

namespace Foundation

variable {α : Type*}

/-- Some event of the history starts it and none after it stops it. -/
def Since (start stop : α → Prop) (history : List α) : Prop :=
  ∃ before event after, history = before ++ event :: after ∧ start event ∧
    ∀ later ∈ after, ¬ stop later

variable {start stop : α → Prop}

@[simp] theorem not_since_nil : ¬ Since start stop [] := by
  rintro ⟨before, event, after, split, -, -⟩
  simp at split

/-- One more state is a start, or keeps what has been so since an earlier one. -/
theorem since_concat (history : List α) (last : α) :
    Since start stop (history ++ [last]) ↔
      start last ∨ (Since start stop history ∧ ¬ stop last) := by
  constructor
  · rintro ⟨before, event, after, split, starts, kept⟩
    rcases List.eq_nil_or_concat after with rfl | ⟨earlier, final, rfl⟩
    · obtain ⟨-, same⟩ := List.append_inj' split rfl
      exact .inl (List.singleton_inj.mp same ▸ starts)
    · right
      rw [List.concat_eq_append, ← List.cons_append, ← List.append_assoc] at split
      obtain ⟨isHistory, same⟩ := List.append_inj' split rfl
      obtain rfl := List.singleton_inj.mp same
      refine ⟨⟨before, event, earlier, isHistory, starts, fun later member => ?_⟩, ?_⟩
      · apply kept
        simp [member]
      · apply kept
        simp
  · rintro (starts | ⟨⟨before, event, after, rfl, starts, kept⟩, goesOn⟩)
    · exact ⟨history, last, [], rfl, starts, by simp⟩
    · refine ⟨before, event, after ++ [last], by simp, starts, fun later member => ?_⟩
      rcases List.mem_append.mp member with early | isLast
      · exact kept later early
      · rw [List.mem_singleton.mp isLast]
        exact goesOn

end Foundation
