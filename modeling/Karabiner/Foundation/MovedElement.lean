import Mathlib.Data.List.Induction

/-! # Moving an element of a list

The elements that an element passes when it is moved keep their order. Which element is the
first of a kind changes exactly when the moved one was the first and passes another of the kind.
-/

namespace Karabiner

namespace MovedElement

variable {α : Type}

/-- The elements at a position and after it change places. -/
def swapNext (values : List α) (index : Nat) : List α :=
  match values[index]?, values[index + 1]? with
  | some first, some second => (values.set index second).set (index + 1) first
  | _, _ => values

theorem swapNext_append (front rest : List α) (first second : α) :
    swapNext (front ++ first :: second :: rest) front.length =
      front ++ second :: first :: rest := by
  simp [swapNext]

/-- An element that changes places with each of the following ones ends after them. -/
theorem foldl_swapNext_range' (front passed rest : List α) (moved : α) :
    (List.range' front.length passed.length).foldl swapNext (front ++ moved :: (passed ++ rest)) =
      front ++ passed ++ moved :: rest := by
  induction passed generalizing front with
  | nil => simp
  | cons next passed ih =>
      have again := ih (front ++ [next])
      rw [List.length_cons, List.range'_succ, List.foldl_cons, List.cons_append, swapNext_append]
      simpa using again

/-- An element that changes places with each of the elements before it, from the last on, ends
before them. -/
theorem foldl_swapNext_reverse (front passed rest : List α) (moved : α) :
    (List.range' front.length passed.length).reverse.foldl swapNext
        (front ++ passed ++ moved :: rest) = front ++ moved :: (passed ++ rest) := by
  induction passed using List.reverseRecOn generalizing rest with
  | nil => simp
  | append_singleton passed last ih =>
      have swapped := swapNext_append (front ++ passed) rest last moved
      have regrouped : front ++ (passed ++ [last]) ++ moved :: rest =
          front ++ passed ++ last :: moved :: rest := by simp
      rw [List.length_append] at swapped
      rw [List.length_append, List.length_singleton, List.range'_concat, List.reverse_append,
        List.reverse_singleton, List.singleton_append, List.foldl_cons, Nat.one_mul, regrouped,
        swapped, ih (last :: rest), List.append_assoc, List.singleton_append]

/-! ## The first of a kind -/

/-- The first of a kind stays the first when an element is moved, unless it is moved itself and
passes another one. -/
theorem find?_moved_iff {kind : α → Bool} {front passed rest : List α} {moved : α}
    (other : moved ∉ passed) :
    (front ++ moved :: (passed ++ rest)).find? kind =
        (front ++ passed ++ moved :: rest).find? kind ↔
      ¬(kind moved = true ∧ (∀ value ∈ front, kind value = false) ∧
        ∃ value ∈ passed, kind value = true) := by
  rw [List.append_assoc, List.find?_append, List.find?_append]
  cases inFront : front.find? kind with
  | some first =>
      have isFirst := List.find?_some inFront
      have member := List.mem_of_find?_eq_some inFront
      simp only [Option.some_or, true_iff]
      rintro ⟨_, noneInFront, _⟩
      rw [noneInFront first member] at isFirst
      cases isFirst
  | none =>
      have noneInFront : ∀ value ∈ front, kind value = false := by
        simpa using inFront
      simp only [Option.none_or]
      cases isMoved : kind moved with
      | false => simp [isMoved]
      | true =>
          rw [List.find?_cons_of_pos isMoved, List.find?_append, List.find?_cons_of_pos isMoved]
          cases inPassed : passed.find? kind with
          | none =>
              have noneInPassed : ∀ value ∈ passed, kind value = false := by
                simpa using inPassed
              refine iff_of_true rfl fun ⟨_, _, value, member, isKind⟩ => ?_
              rw [noneInPassed value member] at isKind
              cases isKind
          | some first =>
              have member := List.mem_of_find?_eq_some inPassed
              refine iff_of_false (fun same => ?_) (not_not.mpr
                ⟨rfl, noneInFront, first, member, List.find?_some inPassed⟩)
              obtain rfl := Option.some.inj same
              exact other member

end MovedElement

end Karabiner
