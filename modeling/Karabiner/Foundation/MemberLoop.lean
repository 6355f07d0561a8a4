import Mathlib.Data.List.Basic
import Mathlib.Data.List.Forall2

/-! # Loops over the members of an object

A constructor may read an object member by member, and any member may make it fail. When every key
stands once, what is left of a component is what the member of its key made of it
(`field_of_foldlM`), and a property that each member adds a clause to is the conjunction of the
clauses (`holds_foldlM_iff`).
-/

namespace Foundation.MemberLoop

variable {κ ν σ ε : Type*} {read : σ → κ × ν → Except ε σ}

theorem foldlM_cons_eq_ok {start last : σ} {member : κ × ν} {rest : List (κ × ν)}
    (isRead : (member :: rest).foldlM read start = .ok last) :
    ∃ middle, read start member = .ok middle ∧ rest.foldlM read middle = .ok last := by
  rw [List.foldlM_cons] at isRead
  cases step : read start member with
  | error error =>
      rw [step] at isRead
      cases isRead
  | ok middle =>
      rw [step] at isRead
      exact ⟨middle, rfl, isRead⟩

/-- A component of the state that only the member of one key changes. -/
structure Component {φ : Type*} (read : σ → κ × ν → Except ε σ) (field : σ → φ) (key : κ)
    (Change : φ → ν → φ → Prop) : Prop where
  own : ∀ state value next, read state (key, value) = .ok next →
    Change (field state) value (field next)
  other : ∀ state member next, member.1 ≠ key → read state member = .ok next →
    field next = field state

/-- What a member leaves of a component, where there may be none. -/
def Changed {φ : Type*} (Change : φ → ν → φ → Prop) (before : φ) : Option ν → φ → Prop
  | some value, after => Change before value after
  | none, after => after = before

variable [DecidableEq κ]

/-- What the loop leaves of a component. -/
theorem Component.field_of_foldlM {φ : Type*} {field : σ → φ} {key : κ}
    {Change : φ → ν → φ → Prop} (component : Component read field key Change)
    {members : List (κ × ν)} (keys : (members.map Prod.fst).Nodup) {start last : σ}
    (isRead : members.foldlM read start = .ok last) :
    Changed Change (field start) (members.lookup key) (field last) := by
  induction members generalizing start with
  | nil =>
      obtain rfl := Except.ok.inj isRead
      rfl
  | cons member rest ih =>
      obtain ⟨name, value⟩ := member
      obtain ⟨notLater, restKeys⟩ := List.nodup_cons.mp keys
      obtain ⟨middle, isMiddle, later⟩ := foldlM_cons_eq_ok isRead
      have after := ih restKeys later
      by_cases isKey : name = key
      · subst isKey
        have noLater : rest.lookup name = none := by
          rw [List.lookup_eq_none_iff]
          intro other isLater
          simp only [bne_iff_ne]
          exact fun same => notLater (List.mem_map.mpr ⟨other, isLater, same.symm⟩)
        rw [noLater] at after
        rw [List.lookup_cons_self]
        have same : field last = field middle := after
        rw [same]
        exact component.own _ _ _ isMiddle
      · rw [List.lookup_cons, beq_eq_false_iff_ne.mpr (Ne.symm isKey)]
        rwa [component.other _ _ _ isKey isMiddle] at after

omit [DecidableEq κ] in
/-- A property of the state to which each member of a new key adds a clause. -/
theorem holds_foldlM_iff (Holds : σ → Prop) (MemberHolds : κ × ν → Prop) (IsSet : σ → κ → Prop)
    (own : ∀ state member next, read state member = .ok next → ¬IsSet state member.1 →
      (Holds next ↔ Holds state ∧ MemberHolds member))
    (other : ∀ state member next key, read state member = .ok next → key ≠ member.1 →
      (IsSet next key ↔ IsSet state key))
    {members : List (κ × ν)} (keys : (members.map Prod.fst).Nodup) {start last : σ}
    (unset : ∀ member ∈ members, ¬IsSet start member.1)
    (isRead : members.foldlM read start = .ok last) :
    Holds last ↔ Holds start ∧ ∀ member ∈ members, MemberHolds member := by
  induction members generalizing start with
  | nil =>
      obtain rfl := Except.ok.inj isRead
      simp
  | cons member rest ih =>
      obtain ⟨notLater, restKeys⟩ := List.nodup_cons.mp keys
      obtain ⟨middle, isMiddle, later⟩ := foldlM_cons_eq_ok isRead
      obtain ⟨ownUnset, restUnset⟩ := List.forall_mem_cons.mp unset
      have stillUnset : ∀ later ∈ rest, ¬IsSet middle later.1 := by
        intro next isNext
        have different : next.1 ≠ member.1 := fun same =>
          notLater (List.mem_map.mpr ⟨next, isNext, same⟩)
        rw [other _ _ _ _ isMiddle different]
        exact restUnset next isNext
      rw [ih restKeys stillUnset later, own _ _ _ isMiddle ownUnset, List.forall_mem_cons,
        and_assoc]

/-! ## Loops over the entries of an array -/

variable {α β : Type*} {readEntry : α → Except ε β}

/-- Reading a list is reading its first entry, and then the others. -/
theorem mapM_cons_eq_ok {entry : α} {rest : List α} {results : List β}
    (isRead : (entry :: rest).mapM readEntry = .ok results) :
    ∃ result others, readEntry entry = .ok result ∧ rest.mapM readEntry = .ok others ∧
      results = result :: others := by
  rw [List.mapM_cons] at isRead
  cases own : readEntry entry with
  | error error =>
      rw [own] at isRead
      cases isRead
  | ok result =>
      cases later : rest.mapM readEntry with
      | error error =>
          rw [own, later] at isRead
          cases isRead
      | ok others =>
          rw [own, later] at isRead
          exact ⟨result, others, rfl, rfl, (Except.ok.inj isRead).symm⟩

/-- The results of the entries, in their order. -/
theorem forall₂_of_mapM {entries : List α} {results : List β}
    (isRead : entries.mapM readEntry = .ok results) :
    List.Forall₂ (fun entry result => readEntry entry = .ok result) entries results := by
  induction entries generalizing results with
  | nil =>
      obtain rfl := Except.ok.inj isRead
      exact .nil
  | cons entry rest ih =>
      obtain ⟨result, others, own, later, rfl⟩ := mapM_cons_eq_ok isRead
      exact .cons own (ih later)

/-- The results are what a partial function makes of the entries. -/
theorem filterMap_eq_of_mapM {view : α → Option β}
    (isView : ∀ entry result, readEntry entry = .ok result → view entry = some result)
    {entries : List α} {results : List β} (isRead : entries.mapM readEntry = .ok results) :
    entries.filterMap view = results := by
  have each := forall₂_of_mapM isRead
  clear isRead
  induction each with
  | nil => rfl
  | cons own _ ih => rw [List.filterMap_cons_some (isView _ _ own), ih]

/-- Some result has a property exactly when some entry has it. -/
theorem exists_mem_iff_of_mapM {P : β → Prop} {Q : α → Prop} {entries : List α}
    {results : List β} (isRead : entries.mapM readEntry = .ok results)
    (same : ∀ entry ∈ entries, ∀ result, readEntry entry = .ok result → (P result ↔ Q entry)) :
    (∃ result ∈ results, P result) ↔ ∃ entry ∈ entries, Q entry := by
  induction entries generalizing results with
  | nil =>
      obtain rfl := Except.ok.inj isRead
      simp
  | cons entry rest ih =>
      obtain ⟨result, others, own, later, rfl⟩ := mapM_cons_eq_ok isRead
      obtain ⟨sameOwn, sameRest⟩ := List.forall_mem_cons.mp same
      simp only [List.mem_cons, exists_eq_or_imp, sameOwn result own, ih later sameRest]

end Foundation.MemberLoop
