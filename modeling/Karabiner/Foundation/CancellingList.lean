import Mathlib.Data.List.Perm.Basic
import Mathlib.Data.List.Count
import Mathlib.Algebra.Order.Group.Int
import Mathlib.Algebra.Ring.Int.Defs
import Mathlib.Algebra.BigOperators.Group.List.Basic

/-! # Lists of mutually cancelling entries

A list over a type with an involution `inv` without fixed points, to which an
entry is added by cancelling one inverse entry if there is one and by appending
otherwise. Such a list never holds an entry together with its inverse, and its
contents are determined, as a multiset, by the signed number of each entry:
adding `x` adds one to the signed number of `x` and changes nothing else.
-/

namespace Foundation.CancellingList

variable {α : Type*} [DecidableEq α] (inv : α → α)

/-- Add an entry, cancelling one inverse entry if there is one. -/
def push (entries : List α) (x : α) : List α :=
  if inv x ∈ entries then entries.erase (inv x) else entries ++ [x]

/-- No entry occurs together with its inverse. -/
def Reduced (entries : List α) : Prop := ∀ x ∈ entries, inv x ∉ entries

/-- The number of an entry less the number of its inverse. -/
def signed (entries : List α) (x : α) : Int :=
  (entries.count x : Int) - entries.count (inv x)

@[simp] theorem signed_nil (x : α) : signed inv [] x = 0 := by simp [signed]

omit [DecidableEq α] in
theorem reduced_nil : Reduced inv ([] : List α) := by simp [Reduced]

variable {inv}

/-- A reduced list holds each entry as often as its signed number says. -/
theorem Reduced.count_eq {entries : List α} (reduced : Reduced inv entries) (x : α) :
    entries.count x = (signed inv entries x).toNat := by
  unfold signed
  by_cases present : x ∈ entries
  · have absent : entries.count (inv x) = 0 := List.count_eq_zero.mpr (reduced x present)
    omega
  · have absent : entries.count x = 0 := List.count_eq_zero.mpr present
    omega

omit [DecidableEq α] in
theorem Reduced.sublist {entries fewer : List α} (reduced : Reduced inv entries)
    (sub : fewer.Sublist entries) : Reduced inv fewer :=
  fun x present other => reduced x (sub.subset present) (sub.subset other)

/-- A push either cancels the last inverse or finds none to cancel, so that the list stays reduced.
-/
theorem Reduced.push {entries : List α} (reduced : Reduced inv entries)
    (involutive : ∀ x, inv (inv x) = x) (noFixed : ∀ x, inv x ≠ x) (x : α) :
    Reduced inv (push inv entries x) := by
  unfold CancellingList.push
  split
  · exact reduced.sublist List.erase_sublist
  · rename_i absent
    intro y present other
    simp only [List.mem_append, List.mem_singleton] at present other
    rcases present with present | rfl
    · rcases other with other | same
      · exact reduced y present other
      · exact absent (by rw [← same, involutive]; exact present)
    · rcases other with other | same
      · exact absent other
      · exact noFixed y same

/-- Adding an entry moves its own signed number by one and no other number. -/
theorem signed_push (involutive : ∀ x, inv (inv x) = x) (entries : List α) (x y : α) :
    signed inv (push inv entries x) y =
      signed inv entries y + (if y = x then 1 else 0) - (if y = inv x then 1 else 0) := by
  have swap : inv y = x ↔ y = inv x :=
    ⟨fun same => by rw [← same, involutive], fun same => by rw [same, involutive]⟩
  have cancel : inv y = inv x ↔ y = x :=
    ⟨fun same => by rw [← involutive y, same, involutive], fun same => by rw [same]⟩
  unfold push signed
  split
  · rename_i present
    have positive : 0 < entries.count (inv x) := List.count_pos_iff.mpr present
    have erased : ∀ z, ((entries.erase (inv x)).count z : Int) =
        entries.count z - if z = inv x then 1 else 0 := by
      intro z
      by_cases same : z = inv x
      · subst same
        rw [List.count_erase_self, if_pos rfl]
        omega
      · rw [List.count_erase_of_ne same, if_neg same]
        omega
    rw [erased, erased]
    simp only [cancel]
    omega
  · have appended : ∀ z, ((entries ++ [x]).count z : Int) =
        entries.count z + if z = x then 1 else 0 := by
      intro z
      by_cases same : z = x
      · subst same
        rw [List.count_append, List.count_singleton_self, if_pos rfl]
        omega
      · rw [List.count_append, List.count_singleton, beq_false_of_ne (Ne.symm same), if_neg same]
        simp
    rw [appended, appended]
    simp only [swap]
    omega

/-- A weight that changes its sign under `inv` adds up to the same whether or not
the new entry cancels another. -/
theorem sum_push (weight : α → Int) (odd : ∀ x, weight (inv x) = -weight x) (entries : List α)
    (x : α) :
    ((push inv entries x).map weight).sum = (entries.map weight).sum + weight x := by
  unfold push
  split
  · rename_i present
    have whole := (List.perm_cons_erase present).map weight
    have total := whole.sum_eq
    rw [List.map_cons, List.sum_cons, odd] at total
    omega
  · rw [List.map_append, List.sum_append, List.map_singleton, List.sum_singleton]

/-- An entry that is left out together with its inverse changes no filtered list. -/
theorem filter_push (keep : α → Bool) (entries : List α) (x : α) (notKept : keep x = false)
    (inverseNotKept : keep (inv x) = false) :
    (push inv entries x).filter keep = entries.filter keep := by
  unfold push
  split
  · rw [← List.erase_filter, List.erase_of_not_mem]
    intro member
    rw [List.mem_filter, inverseNotKept] at member
    cases member.2
  · rw [List.filter_append, List.filter_singleton, notKept]
    simp

/-- Reduced lists with the same signed numbers are permutations of each other. -/
theorem Reduced.perm_of_signed_eq {first second : List α} (reducedFirst : Reduced inv first)
    (reducedSecond : Reduced inv second) (same : ∀ x, signed inv first x = signed inv second x) :
    first.Perm second := by
  refine List.perm_iff_count.mpr fun x => ?_
  rw [reducedFirst.count_eq, reducedSecond.count_eq, same]

end Foundation.CancellingList
