import Mathlib.Data.List.Basic

/-! # Entries of a queue that what is behind them does not undo

A queue is worked off from its front. What an entry makes lasts only when no entry behind it undoes
it.
-/

namespace Foundation.Surviving

variable {α : Type*} {Makes Undoes : α → Prop} {queue more : List α} {entry : α}

/-- An entry makes something, and none behind it undoes it. -/
def Survives (Makes Undoes : α → Prop) (queue : List α) : Prop :=
  ∃ before entry after, queue = before ++ entry :: after ∧ Makes entry ∧
    ∀ later ∈ after, ¬Undoes later

theorem not_survives_nil : ¬Survives Makes Undoes [] := by
  rintro ⟨before, entry, after, same, -⟩
  simp at same

theorem Survives.append (survives : Survives Makes Undoes queue)
    (none : ∀ later ∈ more, ¬Undoes later) : Survives Makes Undoes (queue ++ more) := by
  obtain ⟨before, entry, after, rfl, makes, noneAfter⟩ := survives
  refine ⟨before, entry, after ++ more, by simp, makes, fun later member => ?_⟩
  exact (List.mem_append.mp member).elim (noneAfter later) (none later)

theorem survives_concat (queue : List α) (makes : Makes entry) :
    Survives Makes Undoes (queue ++ [entry]) :=
  ⟨queue, entry, [], rfl, makes, fun _ member => by cases member⟩

/-- What survives is made by the entry that is first, or by one behind it. -/
theorem Survives.of_cons (survives : Survives Makes Undoes (entry :: queue)) :
    (Makes entry ∧ ∀ later ∈ queue, ¬Undoes later) ∨ Survives Makes Undoes queue := by
  obtain ⟨before, first, after, same, makes, none⟩ := survives
  cases before with
  | nil =>
      obtain ⟨rfl, rfl⟩ := List.cons.inj same
      exact .inl ⟨makes, none⟩
  | cons head before => exact .inr ⟨before, first, after, (List.cons.inj same).2, makes, none⟩

end Foundation.Surviving
