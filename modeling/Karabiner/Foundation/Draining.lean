import Mathlib.Data.Int.Basic
import Mathlib.Logic.Relation
import Mathlib.Order.Preorder.Finite

/-! # Calls that ask for another call

A call is made with a time, changes the state and may ask for another call at a later time. A chain
of stores is served by these calls: a call with a time past the bound of a store empties it, once
the stores before it are empty. However many calls are pending and in whatever order they are made,
they come to an end, and then all stores are empty (`Drains.terminates`, `Drains.emptied`).
-/

namespace Foundation.Draining

variable {σ : Type*} (call : σ → ℤ → σ × Option ℤ)

/-- One of the pending calls is made, and the call that it asks for is pending from then on. -/
inductive Step : σ × List ℤ → σ × List ℤ → Prop where
  | make (state : σ) (before : List ℤ) (time : ℤ) (after : List ℤ) :
      Step (state, before ++ time :: after)
        ((call state time).1, before ++ after ++ (call state time).2.toList)

/-- The first `count` stores are empty, `bounded` is a bound for the times of a store, and calls
serve the stores in this order. -/
structure Drains (count : ℕ) (emptied : ℕ → σ → Prop) (bounded : ℕ → σ → ℤ → Prop) : Prop where
  fewer : ∀ {index state}, index < count → emptied (index + 1) state → emptied index state
  kept : ∀ {index state} time, index ≤ count → emptied index state →
    emptied index (call state time).1
  exists_bound : ∀ {index} state, index < count → ∃ bound, bounded index state bound
  bound_kept : ∀ {index state bound} time, index < count → emptied index state →
    bounded index state bound → bounded index (call state time).1 bound
  served : ∀ {index state bound time}, index < count → emptied index state →
    bounded index state bound → ¬ emptied (index + 1) (call state time).1 → time < bound
  asks : ∀ {state time}, emptied 0 state → ¬ emptied count (call state time).1 →
    ∃ next, (call state time).2 = some next ∧ time < next
  rests : ∀ {state time}, emptied count (call state time).1 → (call state time).2 = none

namespace Drains

variable {call} {count : ℕ} {emptied : ℕ → σ → Prop} {bounded : ℕ → σ → ℤ → Prop}
  (drains : Drains call count emptied bounded)

include drains

theorem emptied_of_le {first second : ℕ} {state : σ} (le : first ≤ second) (inside : second ≤ count)
    (holds : emptied second state) : emptied first state := by
  induction second, le using Nat.le_induction with
  | base => exact holds
  | succ second le ih => exact ih (by omega) (drains.fewer (by omega) holds)

/-- When all stores are empty, each call is the last one of its chain. -/
theorem acc_of_emptied {state : σ} (holds : emptied count state) (pending : List ℤ) :
    Acc (fun after before => Step call before after) (state, pending) := by
  induction length : pending.length generalizing state pending with
  | zero =>
      obtain rfl := List.length_eq_zero_iff.mp length
      refine Acc.intro _ fun next step => ?_
      generalize isStart : (state, ([] : List ℤ)) = start at step
      cases step
      simp at isStart
  | succ number ih =>
      refine Acc.intro _ fun next step => ?_
      generalize isStart : (state, pending) = start at step
      cases step with
      | make own before time after =>
          obtain ⟨rfl, rfl⟩ := Prod.mk.inj isStart
          have still := drains.kept time le_rfl holds
          refine ih still _ ?_
          rw [drains.rests still]
          simp only [Option.toList_none, List.append_nil, List.length_append, List.length_cons] at *
          omega

/-- The time that is left until the bound, over all pending calls. -/
def remaining (bound : ℤ) (pending : List ℤ) : ℕ :=
  pending.foldr (fun time left => (bound - time).toNat + left) 0

omit drains in
theorem remaining_append (bound : ℤ) (first second : List ℤ) :
    remaining bound (first ++ second) = remaining bound first + remaining bound second := by
  induction first with
  | nil => exact (Nat.zero_add _).symm
  | cons time rest ih =>
      have own : ∀ pending, remaining bound (time :: pending) =
          (bound - time).toNat + remaining bound pending := fun _ => rfl
      rw [List.cons_append, own, own, ih, Nat.add_assoc]

omit drains in
/-- A call that is made before the bound and asks for a later one leaves less time. -/
theorem remaining_lt {bound time next : ℤ} (early : time < bound) (later : time < next)
    (before after : List ℤ) :
    remaining bound (before ++ after ++ [next]) < remaining bound (before ++ time :: after) := by
  have single : ∀ value, remaining bound [value] = (bound - value).toNat := fun _ => rfl
  have split : remaining bound (time :: after) =
      remaining bound [time] + remaining bound after := remaining_append bound [time] after
  rw [remaining_append, remaining_append, remaining_append, split, single, single]
  omega

/-- Every state is accessible: the pending calls come to an end from any state that is emptied up to
an index. -/
theorem acc {index : ℕ} (inside : index ≤ count) {state : σ} (holds : emptied index state)
    (pending : List ℤ) : Acc (fun after before => Step call before after) (state, pending) := by
  -- The stores are emptied one after the other, so this is an induction from the last one.
  induction inside using Nat.decreasingInduction generalizing state pending with
  | self => exact drains.acc_of_emptied holds pending
  | of_succ index inside next =>
      obtain ⟨bound, isBound⟩ := drains.exists_bound state inside
      induction left : remaining bound pending using Nat.strong_induction_on
        generalizing state pending with
      | _ left ih =>
          refine Acc.intro _ fun reached step => ?_
          generalize isStart : (state, pending) = start at step
          cases step with
          | make own before time after =>
              obtain ⟨rfl, rfl⟩ := Prod.mk.inj isStart
              have kept := drains.kept time inside.le holds
              by_cases more : emptied (index + 1) (call state time).1
              · exact next more _
              · have early := drains.served inside holds isBound more
                have notAll : ¬ emptied count (call state time).1 := fun all =>
                  more (drains.emptied_of_le inside le_rfl all)
                obtain ⟨asked, isAsked, later⟩ :=
                  drains.asks (drains.emptied_of_le index.zero_le inside.le holds) notAll
                rw [isAsked]
                exact ih _ (left ▸ remaining_lt early later before after) kept _
                  (drains.bound_kept time inside holds isBound) rfl

/-- However many calls are pending, there is no endless run of calls. -/
theorem terminates {state : σ} (holds : emptied 0 state) (pending : List ℤ) :
    Acc (fun after before => Step call before after) (state, pending) :=
  drains.acc count.zero_le holds pending

/-- When no call is pending any more, all stores are empty. -/
theorem emptied_of_run {state final : σ} {pending last : List ℤ} (holds : emptied 0 state)
    (isPending : pending ≠ [])
    (run : Relation.ReflTransGen (Step call) (state, pending) (final, last)) :
    emptied 0 final ∧ (last = [] → emptied count final) := by
  generalize isStart : (state, pending) = start at run
  generalize isFinal : (final, last) = stop at run
  induction run generalizing final last with
  | refl =>
      obtain ⟨rfl, rfl⟩ := Prod.mk.inj (isFinal.trans isStart.symm)
      exact ⟨holds, fun none => absurd none isPending⟩
  | tail _ step ih =>
      cases step with
      | make own before time after =>
          obtain ⟨rfl, rfl⟩ := Prod.mk.inj isFinal
          have valid := (ih rfl).1
          refine ⟨drains.kept time count.zero_le valid, fun done => ?_⟩
          by_contra notAll
          obtain ⟨asked, isAsked, -⟩ := drains.asks valid notAll
          rw [isAsked] at done
          simp at done

end Drains

end Foundation.Draining
