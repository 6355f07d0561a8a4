import Mathlib.Data.List.Chain
import Mathlib.Data.List.Perm.Basic
import Karabiner.EventQueue.Queue

/-! # What `sort_events` leaves

The loop of `sort_events` ends with a queue in which no entry has to be swapped with the
next one (`EventQueue.ordered_sortEvents`), and it leaves a queue alone exactly when that
held before (`EventQueue.sortEvents_eq_iff`).
-/

namespace Karabiner

namespace EventQueue

/-- No entry has to be swapped with the one behind it. -/
def Ordered (events : List Entry) : Prop :=
  events.IsChain fun v1 v2 => needsSwap v1 v2 = false

/-- Entries of different times are never swapped. -/
theorem needsSwap_of_ne {v1 v2 : Entry}
    (different : v1.eventTimeStamp.timeStamp ≠ v2.eventTimeStamp.timeStamp) :
    needsSwap v1 v2 = false := by
  unfold needsSwap
  rw [if_neg different]

/-- Entries of the same event are never swapped. -/
theorem needsSwap_of_eq {v1 v2 : Entry} (same : v1.event = v2.event) :
    needsSwap v1 v2 = false := by
  unfold needsSwap
  rw [same]
  cases v2.event.momentarySwitchEvent? with
  | none => simp
  | some key => cases key.modifierFlag <;> simp

/-- An entry that is no key is never swapped. -/
theorem needsSwap_of_notKey {v1 v2 : Entry} (notKey : v2.event.momentarySwitchEvent? = none) :
    needsSwap v1 v2 = false := by
  unfold needsSwap
  rw [notKey]
  cases v1.event.momentarySwitchEvent? <;> simp

/-- Two entries that are swapped are not swapped back. -/
theorem needsSwap_swapped {v1 v2 : Entry} (swap : needsSwap v1 v2 = true) :
    needsSwap v2 v1 = false := by
  unfold needsSwap at swap ⊢
  split at swap
  · rename_i tie
    rw [if_pos tie.symm]
    cases key1 : v1.event.momentarySwitchEvent? with
    | none =>
        rw [key1] at swap
        cases swap
    | some e1 =>
        cases key2 : v2.event.momentarySwitchEvent? with
        | none => rfl
        | some e2 =>
            rw [key1, key2] at swap
            -- One of them is a modifier and the other is not.
            cases modifier1 : e1.modifierFlag <;> cases modifier2 : e2.modifierFlag <;>
              simp [modifier1, modifier2] at swap ⊢ <;> exact swap
  · cases swap

/-! ## Inversions -/

/-- The entries before two neighbours count the same when these change places. -/
theorem inversions_append (before : List Entry) {first second : List Entry}
    (perm : first.Perm second) :
    inversions (before ++ first) + inversions second =
      inversions (before ++ second) + inversions first := by
  induction before with
  | nil => exact Nat.add_comm _ _
  | cons entry rest ih =>
      have same : (rest ++ first).countP (needsSwap entry) =
          (rest ++ second).countP (needsSwap entry) :=
        (perm.append_left rest).countP_eq _
      simp only [List.cons_append, inversions, same]
      omega

/-- A swap takes away one inversion. -/
theorem inversions_swap (before rest : List Entry) {v1 v2 : Entry}
    (swap : needsSwap v1 v2 = true) :
    inversions (before ++ v1 :: v2 :: rest) = inversions (before ++ v2 :: v1 :: rest) + 1 := by
  have moved := inversions_append before (List.Perm.swap v2 v1 rest)
  have one : inversions (v1 :: v2 :: rest) = inversions (v2 :: v1 :: rest) + 1 := by
    simp only [inversions, List.countP_cons, swap, needsSwap_swapped swap, if_true,
      Bool.false_eq_true, if_false]
    omega
  omega

/-! ## The loop as the source runs it -/

/-- The loop from an index on, the entries before it reversed, as long as it runs. -/
inductive Sorts : List Entry → List Entry → List Entry → Prop where
  | done {before after : List Entry} (last : after.length ≤ 1) :
      Sorts before after (before.reverse ++ after)
  | advance {before rest result : List Entry} {a b : Entry} (kept : needsSwap a b = false)
      (loop : Sorts (a :: before) (b :: rest) result) : Sorts before (a :: b :: rest) result
  | swapFirst {rest result : List Entry} {a b : Entry} (swap : needsSwap a b = true)
      (loop : Sorts [] (b :: a :: rest) result) : Sorts [] (a :: b :: rest) result
  | swap {before rest result : List Entry} {a b c : Entry} (swap : needsSwap a b = true)
      (loop : Sorts before (c :: b :: a :: rest) result) :
      Sorts (c :: before) (a :: b :: rest) result

/-- Every pass swaps or advances, so the loop ends. -/
theorem sorts_sortEventsLoop (fuel : Nat) (before after : List Entry)
    (enough : 2 * inversions (before.reverse ++ after) + after.length ≤ fuel) :
    Sorts before after (sortEventsLoop fuel before after) := by
  induction fuel generalizing before after with
  | zero =>
      have none : after = [] := List.eq_nil_of_length_eq_zero (by omega)
      subst none
      exact .done (Nat.zero_le 1)
  | succ fuel ih =>
      match after with
      | [] => exact .done (Nat.zero_le 1)
      | [_] => exact .done (Nat.le_refl 1)
      | a :: b :: rest =>
          unfold sortEventsLoop
          cases swap : needsSwap a b with
          | false =>
              rw [if_neg Bool.false_ne_true]
              have advanced : (a :: before).reverse ++ b :: rest =
                  before.reverse ++ a :: b :: rest := by
                simp
              refine .advance swap (ih (a :: before) (b :: rest) ?_)
              rw [advanced]
              simp only [List.length_cons] at enough ⊢
              omega
          | true =>
              rw [if_pos rfl]
              have fewer := inversions_swap before.reverse rest swap
              cases before with
              | nil =>
                  refine .swapFirst swap (ih [] (b :: a :: rest) ?_)
                  simp only [List.length_cons] at enough fewer ⊢
                  omega
              | cons c others =>
                  have stepped : others.reverse ++ c :: b :: a :: rest =
                      (c :: others).reverse ++ b :: a :: rest := by
                    simp
                  refine .swap swap (ih others (c :: b :: a :: rest) ?_)
                  rw [stepped]
                  simp only [List.length_cons] at enough ⊢
                  omega

/-- `sort_events` runs the loop to its end. -/
theorem sorts_sortEvents (queue : EventQueue) : Sorts [] queue.events queue.sortEvents.events :=
  sorts_sortEventsLoop _ [] queue.events (Nat.le_refl _)

variable {before after result : List Entry}

/-- The loop does nothing to entries that are in order. -/
theorem Sorts.eq_of_ordered (loop : Sorts before after result)
    (ordered : Ordered (before.reverse ++ after)) : result = before.reverse ++ after := by
  have next (before : List Entry) {rest : List Entry} {a b : Entry}
      (ordered : Ordered (before.reverse ++ a :: b :: rest)) : needsSwap a b = false :=
    (List.isChain_cons_cons.mp (List.isChain_append.mp ordered).2.1).1
  induction loop with
  | done _ => rfl
  | @advance before rest result a b _ _ ih =>
      have advanced : (a :: before).reverse ++ b :: rest = before.reverse ++ a :: b :: rest := by
        simp
      rw [ih (advanced ▸ ordered), advanced]
  | swapFirst swap _ _ =>
      rw [next [] ordered] at swap
      cases swap
  | swap swap _ _ =>
      rw [next _ ordered] at swap
      cases swap

/-- The entries up to the index of the loop are in order all the time. -/
theorem Sorts.ordered (loop : Sorts before after result)
    (ordered : Ordered (before.reverse ++ after.take 1)) : Ordered result := by
  induction loop with
  | @done before after last => rwa [List.take_of_length_le last] at ordered
  | @advance before rest result a b kept _ ih =>
      refine ih ?_
      simp only [List.reverse_cons, List.take_succ_cons, List.take_zero] at ordered ⊢
      refine List.isChain_append.mpr ⟨ordered, List.isChain_singleton b, ?_⟩
      intro last isLast first isFirst
      have lastIs : last = a := by simpa using isLast.symm
      have firstIs : first = b := by simpa using isFirst.symm
      rw [lastIs, firstIs]
      exact kept
  | swapFirst _ _ ih => exact ih (List.isChain_singleton _)
  | @swap before rest result a b c _ _ ih =>
      have earlier : Ordered (c :: before).reverse := (List.isChain_append.mp ordered).1
      rw [List.reverse_cons] at earlier
      exact ih earlier

/-- The loop only moves entries. -/
theorem Sorts.perm (loop : Sorts before after result) :
    result.Perm (before.reverse ++ after) := by
  induction loop with
  | done _ => exact List.Perm.refl _
  | advance _ _ ih => exact ih.trans (List.Perm.of_eq (by simp))
  | @swapFirst rest result a b _ _ ih => exact ih.trans (List.Perm.swap a b rest)
  | @swap before rest result a b c _ _ ih =>
      refine ih.trans ?_
      rw [List.reverse_cons, List.append_assoc]
      exact (((List.Perm.swap a b rest).cons c)).append_left before.reverse

/-- Only entries of the same time are swapped, so that the times stay where they are. -/
theorem Sorts.timeStamps (loop : Sorts before after result) :
    result.map (fun entry => entry.eventTimeStamp.timeStamp) =
      (before.reverse ++ after).map fun entry => entry.eventTimeStamp.timeStamp := by
  have tie {a b : Entry} (swap : needsSwap a b = true) :
      a.eventTimeStamp.timeStamp = b.eventTimeStamp.timeStamp := by
    by_contra different
    rw [needsSwap_of_ne different] at swap
    cases swap
  induction loop with
  | done _ => rfl
  | advance _ _ ih =>
      rw [ih]
      simp
  | swapFirst swap _ ih =>
      rw [ih]
      simp [tie swap]
  | swap swap _ ih =>
      rw [ih]
      simp [tie swap]

/-! ## What it leaves -/

/-- `sort_events` only moves entries. -/
theorem sortEvents_perm (queue : EventQueue) : queue.sortEvents.events.Perm queue.events :=
  (sorts_sortEvents queue).perm

theorem timeStamps_sortEvents (queue : EventQueue) :
    queue.sortEvents.events.map (fun entry => entry.eventTimeStamp.timeStamp) =
      queue.events.map fun entry => entry.eventTimeStamp.timeStamp :=
  (sorts_sortEvents queue).timeStamps

/-- `sort_events` leaves no entry that has to be swapped with the next one. -/
theorem ordered_sortEvents (queue : EventQueue) : Ordered queue.sortEvents.events := by
  refine (sorts_sortEvents queue).ordered ?_
  cases queue.events with
  | nil => exact List.isChain_nil
  | cons entry rest => exact List.isChain_singleton entry

/-- A queue is left alone exactly when it is in order. -/
theorem sortEvents_eq_iff (queue : EventQueue) :
    queue.sortEvents.events = queue.events ↔ Ordered queue.events := by
  constructor
  · intro same
    rw [← same]
    exact queue.ordered_sortEvents
  · exact fun ordered => (sorts_sortEvents queue).eq_of_ordered ordered

end EventQueue

end Karabiner
