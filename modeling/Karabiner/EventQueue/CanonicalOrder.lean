import Mathlib.Data.List.Pairwise
import Karabiner.EventQueue.SortedEvents

/-! # The order that `sort_events` computes

The loop of `sort_events` goes back one step after each swap, over a relation that is no
order. It ends all the same (`EventQueue.Sorts`), and what it leaves is a fixed point that
differs from the queue only in modifier keys that have passed other keys of the same time
(`EventQueue.sortEvents_canonical`).
-/

namespace Karabiner

/-- An entry is about a modifier key. -/
def Entry.isModifierKey (entry : Entry) : Bool :=
  match entry.event.momentarySwitchEvent? with
  | some key => key.modifierFlag
  | none => false

/-- An entry is about a key or a button. -/
def Entry.isKey (entry : Entry) : Bool := entry.event.momentarySwitchEvent?.isSome

namespace EventQueue

/-! ## One result -/

/-- The loop has one result. -/
theorem Sorts.unique {before after first second : List Entry} (one : Sorts before after first)
    (two : Sorts before after second) : first = second := by
  induction one with
  | done last =>
      cases two with
      | done => rfl
      | advance => simp at last
      | swapFirst => simp at last
      | swap => simp at last
  | advance kept _ ih =>
      cases two with
      | done last => simp at last
      | advance _ loop => exact ih loop
      | swapFirst swap => simp [kept] at swap
      | swap swap => simp [kept] at swap
  | swapFirst swap _ ih =>
      cases two with
      | done last => simp at last
      | advance kept => simp [kept] at swap
      | swapFirst _ loop => exact ih loop
  | swap swap _ ih =>
      cases two with
      | done last => simp at last
      | advance kept => simp [kept] at swap
      | swap _ loop => exact ih loop

/-! ## Which entries have moved -/

/-- Two entries that are swapped are keys of the same time, one of them a modifier key. -/
theorem keys_of_needsSwap {v1 v2 : Entry} (swap : needsSwap v1 v2 = true) :
    v1.eventTimeStamp.timeStamp = v2.eventTimeStamp.timeStamp ∧ v1.isKey = true ∧
      v2.isKey = true ∧ v1.isModifierKey = !v2.isModifierKey := by
  unfold needsSwap at swap
  split at swap
  · rename_i tie
    unfold Entry.isKey Entry.isModifierKey
    cases key1 : v1.event.momentarySwitchEvent? with
    | none => simp [key1] at swap
    | some e1 =>
        cases key2 : v2.event.momentarySwitchEvent? with
        | none => simp [key1, key2] at swap
        | some e2 =>
            rw [key1, key2] at swap
            refine ⟨tie, rfl, rfl, ?_⟩
            cases modifier1 : e1.modifierFlag <;> cases modifier2 : e2.modifierFlag <;>
              simp [modifier1, modifier2] at swap ⊢
  · cases swap

/-- The order of two entries with their places in the queue: they are as before, or the
second one came first and had to be swapped. -/
def KeepsOrSwaps (x y : Entry × Nat) : Prop :=
  x.2 < y.2 ∨ y.2 < x.2 ∧ needsSwap y.1 x.1 = true

/-- The loop moves entries together with their places. -/
theorem sortEventsLoop_places (fuel : Nat) (before after : List (Entry × Nat))
    (sound : (before.reverse ++ after).Pairwise KeepsOrSwaps) :
    ∃ placed : List (Entry × Nat),
      placed.map Prod.fst = sortEventsLoop fuel (before.map Prod.fst) (after.map Prod.fst) ∧
      placed.Perm (before.reverse ++ after) ∧ placed.Pairwise KeepsOrSwaps := by
  induction fuel generalizing before after with
  | zero => exact ⟨before.reverse ++ after, by simp [sortEventsLoop], List.Perm.refl _, sound⟩
  | succ fuel ih =>
      rcases after with _ | ⟨a, _ | ⟨b, rest⟩⟩
      · exact ⟨before.reverse, by simp [sortEventsLoop], by simp, by simpa using sound⟩
      · exact ⟨before.reverse ++ [a], by simp [sortEventsLoop], List.Perm.refl _, sound⟩
      · simp only [List.map_cons, sortEventsLoop]
        cases swap : needsSwap a.1 b.1 with
        | false =>
            rw [if_neg Bool.false_ne_true]
            have advanced : (a :: before).reverse ++ b :: rest =
                before.reverse ++ a :: b :: rest := by
              simp
            obtain ⟨placed, same, perm, kept⟩ :=
              ih (a :: before) (b :: rest) (advanced ▸ sound)
            exact ⟨placed, same, advanced ▸ perm, kept⟩
        | true =>
            rw [if_pos rfl]
            have swapped : (before.reverse ++ b :: a :: rest).Pairwise KeepsOrSwaps := by
              obtain ⟨earlier, later, across⟩ := List.pairwise_append.mp sound
              obtain ⟨fromA, fromB⟩ := List.pairwise_cons.mp later
              obtain ⟨fromB, others⟩ := List.pairwise_cons.mp fromB
              have moved : KeepsOrSwaps b a := by
                rcases fromA b List.mem_cons_self with inOrder | ⟨_, back⟩
                · exact .inr ⟨inOrder, swap⟩
                · rw [needsSwap_swapped swap] at back
                  cases back
              refine List.pairwise_append.mpr ⟨earlier, List.pairwise_cons.mpr
                ⟨fun y member => ?_, List.pairwise_cons.mpr
                  ⟨fun y member => fromA y (List.mem_cons_of_mem _ member), others⟩⟩,
                fun x isEarlier y member => ?_⟩
              · rcases List.mem_cons.mp member with rfl | isRest
                · exact moved
                · exact fromB y isRest
              · exact across x isEarlier y ((List.Perm.swap a b rest).subset member)
            have perm : (before.reverse ++ b :: a :: rest).Perm
                (before.reverse ++ a :: b :: rest) :=
              (List.Perm.swap a b rest).append_left before.reverse
            cases before with
            | nil =>
                obtain ⟨placed, same, moved, kept⟩ := ih [] (b :: a :: rest) swapped
                exact ⟨placed, same, moved.trans perm, kept⟩
            | cons c others =>
                have stepped : others.reverse ++ c :: b :: a :: rest =
                    (c :: others).reverse ++ b :: a :: rest := by
                  simp
                obtain ⟨placed, same, moved, kept⟩ :=
                  ih others (c :: b :: a :: rest) (stepped ▸ swapped)
                exact ⟨placed, same, (stepped ▸ moved).trans perm, kept⟩

/-! ## The canonical order -/

/-- The places of a list of entries are in order. -/
theorem zipIdx_places (events : List Entry) : events.zipIdx.Pairwise fun x y => x.2 < y.2 := by
  have places : (events.zipIdx.map Prod.snd).Pairwise (· < ·) := by
    rw [List.zipIdx_map_snd]
    exact List.pairwise_lt_range'
  exact List.pairwise_map.mp places

/-- Entries of which no two are ever swapped stay as they are. -/
theorem filter_places {events : List Entry} {placed : List (Entry × Nat)}
    (perm : placed.Perm events.zipIdx) (kept : placed.Pairwise KeepsOrSwaps) (p : Entry → Bool)
    (never : ∀ x y, needsSwap x y = true → p x = true → p y = false) :
    (placed.map Prod.fst).filter p = events.filter p := by
  have inPlace : (placed.filter (p ∘ Prod.fst)).Pairwise fun x y => x.2 < y.2 := by
    refine List.pairwise_filter.mpr (kept.imp fun {x y} order isX isY => ?_)
    rcases order with inOrder | ⟨_, swap⟩
    · exact inOrder
    · have other := never y.1 x.1 swap isY
      change p x.1 = true at isX
      rw [other] at isX
      cases isX
  have before : (events.zipIdx.filter (p ∘ Prod.fst)).Pairwise fun x y => x.2 < y.2 :=
    (zipIdx_places events).filter _
  have same : placed.filter (p ∘ Prod.fst) = events.zipIdx.filter (p ∘ Prod.fst) :=
    List.Perm.eq_of_pairwise (fun _ _ _ _ one two => absurd one (Nat.lt_asymm two)) inPlace before
      (perm.filter _)
  calc (placed.map Prod.fst).filter p
      = (placed.filter (p ∘ Prod.fst)).map Prod.fst := List.filter_map
    _ = (events.zipIdx.filter (p ∘ Prod.fst)).map Prod.fst := by rw [same]
    _ = (events.zipIdx.map Prod.fst).filter p := List.filter_map.symm
    _ = events.filter p := by rw [List.zipIdx_map_fst]

/-- Why two entries have changed their relative order, the second one being at place `i` now
and the first one at place `j`: they are keys of the same time, exactly one of them is a
modifier key, and whatever is between them, before or now, is a key of that time. -/
structure Passed (placed : List (Entry × Nat)) (i j : Fin placed.length) : Prop where
  tie : placed[i].1.eventTimeStamp.timeStamp = placed[j].1.eventTimeStamp.timeStamp
  keys : placed[i].1.isKey = true ∧ placed[j].1.isKey = true
  modifier : placed[i].1.isModifierKey = !placed[j].1.isModifierKey
  between : ∀ k : Fin placed.length,
    (placed[j].2 < placed[k].2 ∧ placed[k].2 < placed[i].2) ∨ (i < k ∧ k < j) →
    placed[k].1.isKey = true ∧
      placed[k].1.eventTimeStamp.timeStamp = placed[i].1.eventTimeStamp.timeStamp

/-- An entry that is between two others that have changed places was swapped with one of
them. -/
theorem passed_of_places {placed : List (Entry × Nat)} (kept : placed.Pairwise KeepsOrSwaps)
    {i j : Fin placed.length} (isBefore : i < j) (wasBehind : placed[j].2 < placed[i].2) :
    Passed placed i j := by
  have swapped {k l : Fin placed.length} (before : k < l) (back : placed[l].2 < placed[k].2) :
      needsSwap placed[l].1 placed[k].1 = true := by
    rcases List.pairwise_iff_get.mp kept k l before with inOrder | ⟨_, swap⟩
    · exact absurd inOrder (Nat.lt_asymm back)
    · exact swap
  obtain ⟨tie, keyJ, keyI, modifier⟩ := keys_of_needsSwap (swapped isBefore wasBehind)
  refine ⟨tie.symm, ⟨keyI, keyJ⟩, by rw [modifier, Bool.not_not], fun k between => ?_⟩
  have withI (swap : needsSwap placed[k].1 placed[i].1 = true) : placed[k].1.isKey = true ∧
      placed[k].1.eventTimeStamp.timeStamp = placed[i].1.eventTimeStamp.timeStamp := by
    obtain ⟨same, key, _, _⟩ := keys_of_needsSwap swap
    exact ⟨key, same⟩
  have withJ (swap : needsSwap placed[j].1 placed[k].1 = true) : placed[k].1.isKey = true ∧
      placed[k].1.eventTimeStamp.timeStamp = placed[i].1.eventTimeStamp.timeStamp := by
    obtain ⟨same, _, key, _⟩ := keys_of_needsSwap swap
    exact ⟨key, same.symm.trans tie⟩
  rcases between with ⟨afterJ, beforeI⟩ | ⟨afterI, beforeJ⟩
  · -- The entry was between the two: it is before the one or behind the other now.
    by_cases ahead : k < j
    · exact withJ (swapped ahead afterJ)
    · have behind : i < k := by omega
      exact withI (swapped behind beforeI)
  · -- The entry is between the two now: it was before the one or behind the other.
    by_cases earlier : placed[k].2 < placed[i].2
    · exact withI (swapped afterI earlier)
    · exact withJ (swapped beforeJ (lt_of_lt_of_le wasBehind (not_lt.mp earlier)))

/-- The order `sort_events` is there to compute. -/
structure CanonicalOrder (events sorted : List Entry) : Prop where
  perm : sorted.Perm events
  ordered : Ordered sorted
  /-- The entries with the places they had: those that changed their order have a reason. -/
  moved : ∃ placed : List (Entry × Nat), placed.map Prod.fst = sorted ∧
    placed.Perm events.zipIdx ∧
    ∀ i j : Fin placed.length, i < j → placed[j].2 < placed[i].2 → Passed placed i j
  modifiers : sorted.filter Entry.isModifierKey = events.filter Entry.isModifierKey
  others : (sorted.filter fun entry => !entry.isModifierKey) =
    events.filter fun entry => !entry.isModifierKey

/-- `sort_events` ends on every queue, with the entries in the canonical order, and sorting
them once more changes nothing. -/
theorem sortEvents_canonical (queue : EventQueue) :
    Sorts [] queue.events queue.sortEvents.events ∧
    CanonicalOrder queue.events queue.sortEvents.events ∧
    queue.sortEvents.sortEvents.events = queue.sortEvents.events := by
  have inPlace : ([].reverse ++ queue.events.zipIdx).Pairwise KeepsOrSwaps :=
    (zipIdx_places queue.events).imp .inl
  obtain ⟨placed, same, perm, kept⟩ := sortEventsLoop_places
    (2 * inversions queue.events + queue.events.length) [] queue.events.zipIdx inPlace
  rw [List.zipIdx_map_fst] at same
  have sorted : placed.map Prod.fst = queue.sortEvents.events := same
  refine ⟨sorts_sortEvents queue, ⟨sortEvents_perm queue, ordered_sortEvents queue,
    ⟨placed, sorted, perm, fun i j before behind => passed_of_places kept before behind⟩,
    ?_, ?_⟩, (sortEvents_eq_iff _).mpr (ordered_sortEvents queue)⟩
  · rw [← sorted]
    refine filter_places perm kept Entry.isModifierKey fun x y swap isModifier => ?_
    obtain ⟨_, _, _, other⟩ := keys_of_needsSwap swap
    rw [other] at isModifier
    simpa using isModifier
  · rw [← sorted]
    refine filter_places perm kept (fun entry => !entry.isModifierKey)
      fun x y swap notModifier => ?_
    obtain ⟨_, _, _, other⟩ := keys_of_needsSwap swap
    rw [other] at notModifier
    simpa using notModifier

end EventQueue

end Karabiner
