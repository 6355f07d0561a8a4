import Mathlib.Algebra.Group.Nat.Defs
import Mathlib.Data.List.InsertIdx
import Karabiner.Configuration.VectorUtility

/-! # The loops of `move_element`

The loops count with unsigned indices, one up and one down to zero, and swap neighbours. Here
every access is checked, and the indices wrap around as those of the source do. The loops end, no
access is outside the vector, and the element is taken out and put in before the one at the
destination (`VectorUtility.moveElementInPlace_spec`).
-/

namespace Karabiner

namespace VectorUtility

theorem toNat_add_one {i : UInt64} (fits : i.toNat + 1 < 2 ^ 64) :
    (i + 1).toNat = i.toNat + 1 := by
  rw [UInt64.toNat_add, UInt64.toNat_one, Nat.mod_eq_of_lt fits]

theorem toNat_sub_one {i : UInt64} (positive : 0 < i.toNat) : (i - 1).toNat = i.toNat - 1 := by
  have least : (1 : UInt64) ≤ i := by
    rw [UInt64.le_iff_toNat_le, UInt64.toNat_one]
    exact positive
  rw [UInt64.toNat_sub_of_le _ _ least, UInt64.toNat_one]

variable {α : Type}

/-- `std::swap(v[i], v[i + 1])`, if both are in the vector. -/
def swapNeighbors (values : List α) (i : UInt64) : Option (List α) :=
  match values[i.toNat]?, values[(i + 1).toNat]? with
  | some first, some second => some ((values.set i.toNat second).set (i + 1).toNat first)
  | _, _ => none

/-- The loop to the right. -/
def moveRight (values : List α) (i destinationIndex : UInt64) : Option (List α) :=
  if i < destinationIndex - 1 then
    (swapNeighbors values i).bind fun swapped => moveRight swapped (i + 1) destinationIndex
  else some values
termination_by (destinationIndex - 1).toNat - i.toNat
decreasing_by
  rename_i below
  rw [UInt64.lt_iff_toNat_lt] at below
  have small := (destinationIndex - 1).toNat_lt
  rw [toNat_add_one (by omega)]
  omega

/-- The loop to the left, which is left when the index is zero. -/
def moveLeft (values : List α) (i destinationIndex : UInt64) : Option (List α) :=
  if destinationIndex ≤ i then
    (swapNeighbors values i).bind fun swapped =>
      if i = 0 then some swapped else moveLeft swapped (i - 1) destinationIndex
  else some values
termination_by i.toNat
decreasing_by
  rename_i notZero
  have positive : i.toNat ≠ 0 := fun isZero => notZero (UInt64.toNat_inj.mp isZero)
  rw [toNat_sub_one (by omega)]
  omega

/-- `vector_utility::move_element`. There is no result if an access is outside the vector. -/
def moveElementInPlace (values : List α) (sourceIndex destinationIndex : UInt64) :
    Option (List α) :=
  if values.length ≤ sourceIndex.toNat ∨ values.length < destinationIndex.toNat then some values
  else if sourceIndex < destinationIndex then moveRight values sourceIndex destinationIndex
  else if destinationIndex < sourceIndex then moveLeft values (sourceIndex - 1) destinationIndex
  else some values

/-! ## The loops -/

theorem swapNeighbors_append (front rest : List α) (first second : α) {i : UInt64}
    (isIndex : i.toNat = front.length) (isNext : (i + 1).toNat = front.length + 1) :
    swapNeighbors (front ++ first :: second :: rest) i =
      some (front ++ second :: first :: rest) := by
  simp [swapNeighbors, isIndex, isNext]

/-- The loop to the right takes the element behind those that it passes. -/
theorem moveRight_append (front passed rest : List α) (moved : α) {i destinationIndex : UInt64}
    (isIndex : i.toNat = front.length)
    (isDestination : destinationIndex.toNat = front.length + passed.length + 1) :
    moveRight (front ++ moved :: (passed ++ rest)) i destinationIndex =
      some (front ++ passed ++ moved :: rest) := by
  have last : (destinationIndex - 1).toNat = front.length + passed.length := by
    rw [toNat_sub_one (by omega), isDestination]
    rfl
  have small := (destinationIndex - 1).toNat_lt
  induction passed generalizing front i with
  | nil =>
      have ended : ¬i < destinationIndex - 1 := by
        rw [UInt64.lt_iff_toNat_lt, last, isIndex, List.length_nil]
        omega
      rw [moveRight, if_neg ended, List.append_nil, List.nil_append]
  | cons next passed ih =>
      rw [List.length_cons] at isDestination last
      have running : i < destinationIndex - 1 := by
        rw [UInt64.lt_iff_toNat_lt, last, isIndex]
        omega
      have isNext : (i + 1).toNat = front.length + 1 := by
        rw [toNat_add_one (by omega), isIndex]
      have again := @ih (front ++ [next]) (i + 1)
        (by rw [isNext, List.length_append, List.length_singleton])
        (by rw [isDestination, List.length_append, List.length_singleton]; omega)
        (by rw [last, List.length_append, List.length_singleton]; omega)
      rw [moveRight, if_pos running, List.cons_append,
        swapNeighbors_append front (passed ++ rest) moved next isIndex isNext, Option.bind_some]
      simpa using again

/-- The loop to the left takes the element before those that it passes. -/
theorem moveLeft_append (front passed rest : List α) (moved : α) {i destinationIndex : UInt64}
    (small : i.toNat + 1 < 2 ^ 64) (isIndex : i.toNat + 1 = front.length + passed.length)
    (isDestination : destinationIndex.toNat = front.length) :
    moveLeft (front ++ passed ++ moved :: rest) i destinationIndex =
      some (front ++ moved :: (passed ++ rest)) := by
  induction passed using List.reverseRecOn generalizing rest i with
  | nil =>
      have ended : ¬destinationIndex ≤ i := by
        rw [UInt64.le_iff_toNat_le, isDestination]
        rw [List.length_nil] at isIndex
        omega
      rw [moveLeft, if_neg ended, List.append_nil, List.nil_append]
  | append_singleton passed last ih =>
      rw [List.length_append, List.length_singleton] at isIndex
      have running : destinationIndex ≤ i := by
        rw [UInt64.le_iff_toNat_le, isDestination]
        omega
      have isPlace : i.toNat = (front ++ passed).length := by
        rw [List.length_append]
        omega
      have isNext : (i + 1).toNat = (front ++ passed).length + 1 := by
        rw [toNat_add_one small, isPlace]
      have regrouped : front ++ (passed ++ [last]) ++ moved :: rest =
          front ++ passed ++ last :: moved :: rest := by simp
      rw [moveLeft, if_pos running, regrouped,
        swapNeighbors_append (front ++ passed) rest last moved isPlace isNext, Option.bind_some]
      by_cases isZero : i = 0
      · -- The element has come to the first place.
        rw [List.length_append, isZero, UInt64.toNat_zero] at isPlace
        obtain rfl := List.length_eq_zero_iff.mp (show front.length = 0 by omega)
        obtain rfl := List.length_eq_zero_iff.mp (show passed.length = 0 by omega)
        rw [if_pos isZero]
        rfl
      · have positive : i.toNat ≠ 0 := fun zero => isZero (UInt64.toNat_inj.mp zero)
        have previous := toNat_sub_one (show 0 < i.toNat by omega)
        rw [if_neg isZero, @ih (last :: rest) (i - 1) (by omega) (by omega)]
        simp

/-! ## The whole function -/

theorem insertIdx_append (front rest : List α) (moved : α) :
    (front ++ rest).insertIdx front.length moved = front ++ moved :: rest := by
  induction front with
  | nil => exact List.insertIdx_zero
  | cons first front ih => exact (List.insertIdx_succ_cons).trans (congrArg (first :: ·) ih)

theorem eraseIdx_append (front rest : List α) (moved : α) :
    (front ++ moved :: rest).eraseIdx front.length = front ++ rest := by
  rw [List.eraseIdx_append_of_length_le (Nat.le_refl _), Nat.sub_self, List.eraseIdx_zero,
    List.tail_cons]

/-- The element at the source is taken out, and put in where it stands before the one that was at
the destination. -/
structure Reinserted (values : List α) (sourceIndex destinationIndex : Nat) (result : List α) :
    Prop where
  inserted : ∃ moved, values[sourceIndex]? = some moved ∧ result =
    (values.eraseIdx sourceIndex).insertIdx
      (if sourceIndex < destinationIndex then destinationIndex - 1 else destinationIndex) moved
  stands : sourceIndex ≠ destinationIndex → ∃ before moved after,
    values[sourceIndex]? = some moved ∧ result = before ++ moved :: after ∧
      before ++ after = values.eraseIdx sourceIndex ∧ after.head? = values[destinationIndex]?

theorem reinserted_right (front passed rest : List α) (moved : α) :
    Reinserted (front ++ moved :: (passed ++ rest)) front.length
      (front.length + passed.length + 1) (front ++ passed ++ moved :: rest) := by
  have isMoved : (front ++ moved :: (passed ++ rest))[front.length]? = some moved := by simp
  have erased := eraseIdx_append front (passed ++ rest) moved
  refine ⟨⟨moved, isMoved, ?_⟩, fun _ => ⟨front ++ passed, moved, rest, isMoved, rfl, ?_, ?_⟩⟩
  · have inserted := insertIdx_append (front ++ passed) rest moved
    rw [List.length_append, List.append_assoc front passed rest] at inserted
    rw [erased, if_pos (by omega), Nat.add_sub_cancel, inserted]
  · rw [erased, List.append_assoc]
  · rw [List.getElem?_append_right (by omega), show front.length + passed.length + 1 -
      front.length = passed.length + 1 by omega, List.getElem?_cons_succ,
      List.getElem?_append_right (Nat.le_refl _), Nat.sub_self, List.head?_eq_getElem?]

/-- An element that is moved to the left stands before those that it has passed. -/
theorem reinserted_left (front passed rest : List α) (moved : α) :
    Reinserted (front ++ passed ++ moved :: rest) (front.length + passed.length) front.length
      (front ++ moved :: (passed ++ rest)) := by
  have isMoved : (front ++ passed ++ moved :: rest)[front.length + passed.length]? =
      some moved := by
    rw [← List.length_append]
    simp
  have erased := eraseIdx_append (front ++ passed) rest moved
  rw [List.length_append] at erased
  refine ⟨⟨moved, isMoved, ?_⟩, fun differs =>
    ⟨front, moved, passed ++ rest, isMoved, rfl, ?_, ?_⟩⟩
  · rw [erased, if_neg (by omega), List.append_assoc, insertIdx_append]
  · rw [erased, List.append_assoc]
  · cases passed with
    | nil => exact absurd rfl differs
    | cons next passed => simp

/-- For indices within the list the element is taken out and inserted again, and the others keep
their order. -/
theorem reinserted_moveElement {values : List α} {sourceIndex destinationIndex : Nat}
    (isSource : sourceIndex < values.length) (isDestination : destinationIndex ≤ values.length) :
    Reinserted values sourceIndex destinationIndex
      (moveElement values sourceIndex destinationIndex) := by
  obtain ⟨front, moved, passed, rest, ⟨rfl, rfl, rfl⟩ | ⟨rfl, rfl, rfl⟩⟩ :=
    exists_split isSource isDestination
  · rw [moveElement_right]
    exact reinserted_right front passed rest moved
  · rw [moveElement_left]
    exact reinserted_left front passed rest moved

/-- The loops end, and no access is outside the vector. -/
theorem moveElementInPlace_eq (values : List α) (sourceIndex destinationIndex : UInt64) :
    moveElementInPlace values sourceIndex destinationIndex =
      some (moveElement values sourceIndex.toNat destinationIndex.toNat) := by
  by_cases outside : values.length ≤ sourceIndex.toNat ∨ values.length < destinationIndex.toNat
  · rw [moveElementInPlace, if_pos outside, moveElement, if_pos outside]
  · obtain ⟨isSource, isDestination⟩ := not_or.mp outside
    rw [moveElementInPlace, if_neg outside]
    obtain ⟨front, moved, passed, rest, ⟨rfl, source, destination⟩ |
      ⟨rfl, source, destination⟩⟩ :=
      exists_split (Nat.not_le.mp isSource) (Nat.not_lt.mp isDestination)
    · have right : sourceIndex < destinationIndex := by
        rw [UInt64.lt_iff_toNat_lt]
        omega
      rw [if_pos right, moveRight_append front passed rest moved source destination, source,
        destination, moveElement_right]
    · have notRight : ¬sourceIndex < destinationIndex := by
        rw [UInt64.lt_iff_toNat_lt]
        omega
      rw [if_neg notRight, source, destination, moveElement_left]
      by_cases left : destinationIndex < sourceIndex
      · have differs := UInt64.lt_iff_toNat_lt.mp left
        have previous := toNat_sub_one (show 0 < sourceIndex.toNat by omega)
        have small := sourceIndex.toNat_lt
        rw [if_pos left]
        exact moveLeft_append front passed rest moved (by omega) (by omega) destination
      · -- The element stays where it is.
        rw [if_neg left]
        rw [UInt64.lt_iff_toNat_lt, source, destination] at left
        obtain rfl := List.length_eq_zero_iff.mp (show passed.length = 0 by omega)
        rw [List.append_nil, List.nil_append]

/-- An index that is too large changes nothing, and otherwise the element is taken out and put in
before the destination. -/
theorem moveElementInPlace_spec (values : List α) (sourceIndex destinationIndex : UInt64) :
    ∃ result, moveElementInPlace values sourceIndex destinationIndex = some result ∧
      if sourceIndex.toNat < values.length ∧ destinationIndex.toNat ≤ values.length then
        Reinserted values sourceIndex.toNat destinationIndex.toNat result
      else result = values := by
  refine ⟨_, moveElementInPlace_eq values sourceIndex destinationIndex, ?_⟩
  split
  · rename_i inRange
    exact reinserted_moveElement inRange.1 inRange.2
  · rename_i outside
    rw [moveElement, if_pos (by omega)]

end VectorUtility

end Karabiner
