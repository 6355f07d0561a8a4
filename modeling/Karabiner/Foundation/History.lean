import Mathlib.Data.List.Basic
import Mathlib.Data.List.Induction

/-! # Histories whose entries follow those before them

A history is kept when it is only added to. It `Follows` a relation when each entry stands in the
relation to the entries before it, which is settled entry by entry (`Admitted.concat`).
-/

namespace Foundation.History

variable {α : Type*} {Follows : List α → α → Prop} {entries more : List α} {entry : α}

/-- Each entry follows the entries before it. -/
def Admitted (Follows : List α → α → Prop) (entries : List α) : Prop :=
  ∀ before entry after, entries = before ++ entry :: after → Follows before entry

theorem admitted_nil : Admitted Follows [] := by
  intro before entry after same
  simp at same

theorem Admitted.of_append (admitted : Admitted Follows (entries ++ more)) :
    Admitted Follows entries := by
  intro before entry after same
  refine admitted before entry (after ++ more) ?_
  rw [same, List.append_assoc, List.cons_append]

/-- An admitted list stays admitted when an entry that follows is put behind it. -/
theorem Admitted.concat (admitted : Admitted Follows entries) (follows : Follows entries entry) :
    Admitted Follows (entries ++ [entry]) := by
  intro before other after same
  induction after using List.reverseRecOn with
  | nil =>
      obtain ⟨rfl, isLast⟩ := List.append_inj' same rfl
      obtain rfl := List.singleton_inj.mp isLast
      exact follows
  | append_singleton after last _ =>
      rw [← List.cons_append, ← List.append_assoc] at same
      exact admitted before other after (List.append_inj' same rfl).1

end Foundation.History
