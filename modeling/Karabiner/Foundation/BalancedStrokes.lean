import Mathlib.Data.List.Basic
import Mathlib.Data.List.Count

/-! # Balanced presses and releases

Keys go down and up. In a balanced list each key goes up as often as it goes down, and never
before it went down: the n-th release of a key comes behind its n-th press.
-/

namespace Foundation

/-- A key goes down or up. -/
inductive Stroke (Key : Type) where
  | down (key : Key)
  | up (key : Key)
deriving DecidableEq

variable {Key : Type} [DecidableEq Key]

/-- Every press is answered by one release behind it. -/
structure Balanced (strokes : List (Stroke Key)) : Prop where
  before : ∀ earlier later, strokes = earlier ++ later →
    ∀ key, earlier.count (.up key) ≤ earlier.count (.down key)
  total : ∀ key, strokes.count (.up key) = strokes.count (.down key)

namespace Balanced

variable {first second : List (Stroke Key)}

theorem nil : Balanced ([] : List (Stroke Key)) where
  before earlier later split key := by
    obtain ⟨rfl, -⟩ := List.append_eq_nil_iff.mp split.symm
    exact Nat.le_refl _
  total _ := rfl

/-- Balanced sequences of strokes may be put one behind the other. -/
theorem append (one : Balanced first) (two : Balanced second) : Balanced (first ++ second) where
  before earlier later split key := by
    rcases List.append_eq_append_iff.mp split with ⟨middle, isEarlier, isSecond⟩ |
      ⟨middle, isFirst, _⟩
    · -- The first list is over.
      rw [isEarlier, List.count_append, List.count_append, one.total key]
      exact Nat.add_le_add_left (two.before middle later isSecond key) _
    · exact one.before earlier middle isFirst key
  total key := by
    rw [List.count_append, List.count_append, one.total key, two.total key]

/-- The keys go down, and then up in any order. -/
theorem of_perm {keys : List Key} {released : List (Stroke Key)}
    (perm : released.Perm (keys.map Stroke.up)) :
    Balanced (keys.map Stroke.down ++ released) := by
  have noUp : ∀ key, (keys.map Stroke.down).count (.up key) = 0 := by
    intro key
    refine List.count_eq_zero.mpr fun member => ?_
    obtain ⟨other, -, equal⟩ := List.mem_map.mp member
    cases equal
  have noDown : ∀ key, released.count (.down key) = 0 := by
    intro key
    refine List.count_eq_zero.mpr fun member => ?_
    obtain ⟨other, -, equal⟩ := List.mem_map.mp (perm.mem_iff.mp member)
    cases equal
  have ups : ∀ key, released.count (.up key) = (keys.map Stroke.down).count (.down key) := by
    intro key
    rw [perm.count_eq, List.count_map_of_injective _ _ (fun _ _ => Stroke.up.inj),
      List.count_map_of_injective _ _ (fun _ _ => Stroke.down.inj)]
  constructor
  · intro earlier later split key
    rcases List.append_eq_append_iff.mp split with ⟨middle, isEarlier, isReleased⟩ |
      ⟨middle, isPressed, _⟩
    · rw [isEarlier, List.count_append, List.count_append, noUp, Nat.zero_add]
      calc middle.count (.up key)
          ≤ released.count (.up key) := by
            rw [isReleased, List.count_append]
            exact Nat.le_add_right _ _
        _ = (keys.map Stroke.down).count (.down key) := ups key
        _ ≤ _ := Nat.le_add_right _ _
    · have none : earlier.count (.up key) = 0 := by
        have all := noUp key
        rw [isPressed, List.count_append] at all
        omega
      rw [none]
      exact Nat.zero_le _
  · intro key
    rw [List.count_append, List.count_append, noUp, noDown, Nat.zero_add, Nat.add_zero]
    exact ups key

end Balanced

end Foundation
