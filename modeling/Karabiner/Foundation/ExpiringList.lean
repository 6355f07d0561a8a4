import Mathlib.Order.Lattice
import Mathlib.Data.List.TakeWhile

/-! # Lists that expire from the front

A list in order of a key, of which the entries up to a bound are dropped from the front
until one stays. No entry up to the bound hides behind the one that stays, so what is left
are the entries beyond the bound.
-/

namespace Foundation.ExpiringList

variable {α κ : Type*} [LinearOrder κ] (key : α → κ)

/-- Drop the entries up to the bound from the front. -/
def expire (bound : κ) (entries : List α) : List α :=
  entries.dropWhile fun entry => decide (key entry ≤ bound)

/-- The entries that are dropped. -/
def expired (bound : κ) (entries : List α) : List α :=
  entries.takeWhile fun entry => decide (key entry ≤ bound)

theorem expired_append_expire (bound : κ) (entries : List α) :
    expired key bound entries ++ expire key bound entries = entries :=
  List.takeWhile_append_dropWhile

theorem expire_sublist (bound : κ) (entries : List α) :
    (expire key bound entries).Sublist entries :=
  List.dropWhile_sublist _

theorem le_of_mem_expired {bound : κ} {entries : List α} {entry : α}
    (member : entry ∈ expired key bound entries) : key entry ≤ bound := by
  have isExpired := List.mem_takeWhile_imp member
  exact of_decide_eq_true isExpired

variable {key}

/-- What is beyond the bound is left. -/
theorem mem_expire_of_lt {bound : κ} {entries : List α} {entry : α} (member : entry ∈ entries)
    (beyond : bound < key entry) : entry ∈ expire key bound entries := by
  rw [← expired_append_expire key bound entries, List.mem_append] at member
  exact member.resolve_left fun isExpired =>
    absurd (le_of_mem_expired key isExpired) (not_le.mpr beyond)

/-- What is left of a list in order is beyond the bound. -/
theorem lt_of_mem_expire {bound : κ} {entries : List α}
    (ordered : entries.Pairwise fun x y => key x ≤ key y) {entry : α}
    (member : entry ∈ expire key bound entries) : bound < key entry := by
  induction entries with
  | nil => cases member
  | cons first rest ih =>
      obtain ⟨least, orderedRest⟩ := List.pairwise_cons.mp ordered
      by_cases isExpired : key first ≤ bound
      · have next : expire key bound (first :: rest) = expire key bound rest :=
          List.dropWhile_cons_of_pos (p := fun entry => decide (key entry ≤ bound))
            (decide_eq_true isExpired)
        rw [next] at member
        exact ih orderedRest member
      · rw [expire, List.dropWhile_cons_of_neg (by simpa using isExpired)] at member
        rcases List.mem_cons.mp member with rfl | isLater
        · exact not_le.mp isExpired
        · exact (not_le.mp isExpired).trans_le (least entry isLater)

end Foundation.ExpiringList
