import Karabiner.Foundation.MovedElement

/-! # Moving an element by swaps

`move_element` swaps an element with its neighbours until it has the place before the
destination. The elements that it passes are those between the two positions.
-/

namespace Karabiner

namespace VectorUtility

variable {α : Type}

/-- `vector_utility::move_element`. The destination is a position between the elements: that of
the end is the number of the elements. -/
def moveElement (values : List α) (sourceIndex destinationIndex : Nat) : List α :=
  if values.length ≤ sourceIndex ∨ values.length < destinationIndex then values
  else if sourceIndex < destinationIndex then
    (List.range' sourceIndex (destinationIndex - 1 - sourceIndex)).foldl MovedElement.swapNext
      values
  else
    (List.range' destinationIndex (sourceIndex - destinationIndex)).reverse.foldl
      MovedElement.swapNext values

/-! ## Where the element ends -/

/-- Moving to the right takes the element behind the passed ones, as the destination counts the gap
it leaves. -/
theorem moveElement_right (front passed rest : List α) (moved : α) :
    moveElement (front ++ moved :: (passed ++ rest)) front.length
        (front.length + passed.length + 1) = front ++ passed ++ moved :: rest := by
  have inRange : ¬((front ++ moved :: (passed ++ rest)).length ≤ front.length ∨
      (front ++ moved :: (passed ++ rest)).length < front.length + passed.length + 1) := by
    simp only [List.length_append, List.length_cons]
    omega
  rw [moveElement, if_neg inRange, if_pos (by omega),
    show front.length + passed.length + 1 - 1 - front.length = passed.length by omega]
  exact MovedElement.foldl_swapNext_range' front passed rest moved

theorem moveElement_left (front passed rest : List α) (moved : α) :
    moveElement (front ++ passed ++ moved :: rest) (front.length + passed.length)
        front.length = front ++ moved :: (passed ++ rest) := by
  have inRange : ¬((front ++ passed ++ moved :: rest).length ≤ front.length + passed.length ∨
      (front ++ passed ++ moved :: rest).length < front.length) := by
    simp only [List.length_append, List.length_cons]
    omega
  rw [moveElement, if_neg inRange, if_neg (by omega), Nat.add_sub_cancel_left]
  exact MovedElement.foldl_swapNext_reverse front passed rest moved

/-- The elements that are passed on the way from a position to another one. -/
theorem exists_split {values : List α} {sourceIndex destinationIndex : Nat}
    (isSource : sourceIndex < values.length) (isDestination : destinationIndex ≤ values.length) :
    ∃ front moved passed rest,
      values = front ++ moved :: (passed ++ rest) ∧ sourceIndex = front.length ∧
          destinationIndex = front.length + passed.length + 1 ∨
        values = front ++ passed ++ moved :: rest ∧
          sourceIndex = front.length + passed.length ∧ destinationIndex = front.length := by
  by_cases right : sourceIndex < destinationIndex
  · refine ⟨values.take sourceIndex, values[sourceIndex],
      (values.drop (sourceIndex + 1)).take (destinationIndex - 1 - sourceIndex),
      values.drop destinationIndex, .inl ⟨?_, ?_, ?_⟩⟩
    · have rest : values.drop destinationIndex = (values.drop (sourceIndex + 1)).drop
          (destinationIndex - 1 - sourceIndex) := by
        rw [List.drop_drop]
        congr 1
        omega
      rw [rest, List.take_append_drop, ← List.drop_eq_getElem_cons isSource,
        List.take_append_drop]
    · simp; omega
    · simp; omega
  · refine ⟨values.take destinationIndex, values[sourceIndex],
      (values.drop destinationIndex).take (sourceIndex - destinationIndex),
      values.drop (sourceIndex + 1), .inr ⟨?_, ?_, ?_⟩⟩
    · have rest : values.drop sourceIndex = (values.drop destinationIndex).drop
          (sourceIndex - destinationIndex) := by
        rw [List.drop_drop]
        congr 1
        omega
      rw [← List.drop_eq_getElem_cons isSource, rest, List.append_assoc, List.take_append_drop,
        List.take_append_drop]
    · simp; omega
    · simp; omega

/-- A move of an element over others, or of none. -/
theorem moveElement_cases (values : List α) (sourceIndex destinationIndex : Nat) :
    moveElement values sourceIndex destinationIndex = values ∨
      ∃ front moved passed rest,
        values = front ++ moved :: (passed ++ rest) ∧ sourceIndex = front.length ∧
            destinationIndex = front.length + passed.length + 1 ∨
          values = front ++ passed ++ moved :: rest ∧
            sourceIndex = front.length + passed.length ∧ destinationIndex = front.length := by
  by_cases inRange : values.length ≤ sourceIndex ∨ values.length < destinationIndex
  · exact .inl (by rw [moveElement, if_pos inRange])
  · obtain ⟨isSource, isDestination⟩ := not_or.mp inRange
    exact .inr (exists_split (Nat.not_le.mp isSource) (Nat.not_lt.mp isDestination))

theorem moveElement_perm (values : List α) (sourceIndex destinationIndex : Nat) :
    (moveElement values sourceIndex destinationIndex).Perm values := by
  rcases moveElement_cases values sourceIndex destinationIndex with same |
    ⟨front, moved, passed, rest, ⟨rfl, rfl, rfl⟩ | ⟨rfl, rfl, rfl⟩⟩
  · rw [same]
  · rw [moveElement_right, List.append_assoc]
    exact List.perm_middle.append_left front
  · rw [moveElement_left, List.append_assoc]
    exact List.perm_middle.symm.append_left front

theorem map_swapNext {β : Type} (f : α → β) (values : List α) (index : Nat) :
    (MovedElement.swapNext values index).map f = MovedElement.swapNext (values.map f) index := by
  simp only [MovedElement.swapNext, List.getElem?_map]
  cases values[index]? with
  | none => rfl
  | some first =>
      cases values[index + 1]? with
      | none => rfl
      | some second => simp [List.map_set]

/-- Moving commutes with a map, so that it may be done on what is known of the elements. -/
theorem map_moveElement {β : Type} (f : α → β) (values : List α)
    (sourceIndex destinationIndex : Nat) :
    (moveElement values sourceIndex destinationIndex).map f =
      moveElement (values.map f) sourceIndex destinationIndex := by
  have swaps : ∀ (indices : List Nat) (values : List α),
      (indices.foldl MovedElement.swapNext values).map f =
        indices.foldl MovedElement.swapNext (values.map f) := by
    intro indices
    induction indices with
    | nil => exact fun _ => rfl
    | cons index rest ih =>
        intro values
        rw [List.foldl_cons, List.foldl_cons, ih, map_swapNext]
  simp only [moveElement, List.length_map]
  split
  · rfl
  · split
    · exact swaps _ values
    · exact swaps _ values

/-! ## The first of a kind -/

/-- The first of a kind is moved past another one. -/
def PassesAnother (kind : α → Bool) (values : List α) (sourceIndex destinationIndex : Nat) :
    Prop :=
  ∃ front moved passed rest, kind moved = true ∧ (∀ value ∈ front, kind value = false) ∧
    (∃ value ∈ passed, kind value = true) ∧
    (values = front ++ moved :: (passed ++ rest) ∧ sourceIndex = front.length ∧
        destinationIndex = front.length + passed.length + 1 ∨
      values = front ++ passed ++ moved :: rest ∧
        sourceIndex = front.length + passed.length ∧ destinationIndex = front.length)

/-- The only one of a kind passes no other. -/
theorem not_passesAnother_of_single {kind : α → Bool} {values : List α}
    (single : (values.filter kind).length ≤ 1) (sourceIndex destinationIndex : Nat) :
    ¬PassesAnother kind values sourceIndex destinationIndex := by
  rintro ⟨front, moved, passed, rest, isKind, _, ⟨other, isPassed, otherKind⟩, split⟩
  have some : 0 < (passed.filter kind).length :=
    List.length_pos_of_mem (List.mem_filter.mpr ⟨isPassed, otherKind⟩)
  rcases split with ⟨rfl, _, _⟩ | ⟨rfl, _, _⟩
  · simp only [List.filter_append, List.filter_cons, isKind, if_true, List.length_append,
      List.length_cons] at single
    omega
  · simp only [List.filter_append, List.filter_cons, isKind, if_true, List.length_append,
      List.length_cons] at single
    omega

theorem not_mem_passed {front passed rest : List α} {moved : α}
    (distinct : (front ++ moved :: (passed ++ rest)).Nodup ∨
      (front ++ passed ++ moved :: rest).Nodup) : moved ∉ passed := by
  intro isPassed
  rcases distinct with distinct | distinct
  · obtain ⟨_, distinct, _⟩ := List.nodup_append.mp distinct
    exact (List.nodup_cons.mp distinct).1 (List.mem_append_left rest isPassed)
  · obtain ⟨_, _, apart⟩ := List.nodup_append.mp distinct
    exact apart moved (List.mem_append_right front isPassed) moved List.mem_cons_self rfl

/-- A move changes the first of a kind exactly when it moves it past another one. -/
theorem find?_moveElement_iff {kind : α → Bool} {values : List α} (distinct : values.Nodup)
    (sourceIndex destinationIndex : Nat) :
    (moveElement values sourceIndex destinationIndex).find? kind = values.find? kind ↔
      ¬PassesAnother kind values sourceIndex destinationIndex := by
  constructor
  · rintro same ⟨front, moved, passed, rest, isKind, noneInFront, another, ⟨rfl, rfl, rfl⟩ |
      ⟨rfl, rfl, rfl⟩⟩
    · rw [moveElement_right] at same
      exact (MovedElement.find?_moved_iff (not_mem_passed (.inl distinct))).mp same.symm
        ⟨isKind, noneInFront, another⟩
    · rw [moveElement_left] at same
      exact (MovedElement.find?_moved_iff (not_mem_passed (.inr distinct))).mp same
        ⟨isKind, noneInFront, another⟩
  · intro keeps
    rcases moveElement_cases values sourceIndex destinationIndex with same |
      ⟨front, moved, passed, rest, ⟨rfl, rfl, rfl⟩ | ⟨rfl, rfl, rfl⟩⟩
    · rw [same]
    · rw [moveElement_right]
      refine ((MovedElement.find?_moved_iff (not_mem_passed (.inl distinct))).mpr
        fun passes => keeps ?_).symm
      obtain ⟨isKind, noneInFront, another⟩ := passes
      exact ⟨front, moved, passed, rest, isKind, noneInFront, another, .inl ⟨rfl, rfl, rfl⟩⟩
    · rw [moveElement_left]
      refine (MovedElement.find?_moved_iff (not_mem_passed (.inr distinct))).mpr
        fun passes => keeps ?_
      obtain ⟨isKind, noneInFront, another⟩ := passes
      exact ⟨front, moved, passed, rest, isKind, noneInFront, another, .inr ⟨rfl, rfl, rfl⟩⟩

end VectorUtility

end Karabiner
