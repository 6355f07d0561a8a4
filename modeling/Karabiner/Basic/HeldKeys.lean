import Mathlib.Algebra.BigOperators.Group.Finset.Piecewise
import Karabiner.Basic.Balance

/-! # The keys that are held

The entries of a key, told apart by its device, event and original event, alternate when
the key_downs minus the key_ups before any point are zero or one. When no key is held,
every key of every device has as many key_ups as key_downs
(`Karabiner.balance_eq_zero_of_released`).
-/

namespace Karabiner

/-- What an event of this type counts. -/
def EventType.count : EventType → Int
  | .keyDown => 1
  | .keyUp => -1
  | .single => 0

/-- The key_downs minus the key_ups of a from event. -/
def heldCount (fromEvent : FromEvent) (entries : List Entry) : Int :=
  (entries.map fun entry =>
    if entry.fromEvent = fromEvent then entry.eventType.count else 0).sum

@[simp] theorem heldCount_nil (fromEvent : FromEvent) : heldCount fromEvent [] = 0 := rfl

@[simp] theorem heldCount_append (fromEvent : FromEvent) (first second : List Entry) :
    heldCount fromEvent (first ++ second) =
      heldCount fromEvent first + heldCount fromEvent second := by
  simp [heldCount]

@[simp] theorem heldCount_singleton (fromEvent : FromEvent) (entry : Entry) :
    heldCount fromEvent [entry] =
      if entry.fromEvent = fromEvent then entry.eventType.count else 0 := by
  simp [heldCount]

theorem heldCount_cons (fromEvent : FromEvent) (entry : Entry) (rest : List Entry) :
    heldCount fromEvent (entry :: rest) =
      (if entry.fromEvent = fromEvent then entry.eventType.count else 0) +
        heldCount fromEvent rest := by
  simp [heldCount]

/-- The key of an entry and what happens to it. -/
def Entry.keyEvent (entry : Entry) : FromEvent × EventType := (entry.fromEvent, entry.eventType)

/-- How often a key is held depends on the key events of the entries only, not on their time stamps
or validity. -/
theorem heldCount_congr (fromEvent : FromEvent) {first second : List Entry}
    (same : first.map Entry.keyEvent = second.map Entry.keyEvent) :
    heldCount fromEvent first = heldCount fromEvent second := by
  have count : ∀ entries : List Entry, heldCount fromEvent entries =
      ((entries.map Entry.keyEvent).map fun event =>
        if event.1 = fromEvent then event.2.count else 0).sum := by
    intro entries
    rw [List.map_map]
    rfl
  rw [count, count, same]

/-- A key without an entry is up, so only the keys of the entries have to be looked at. -/
theorem heldCount_eq_zero_of_mem {entries : List Entry}
    (released : ∀ entry ∈ entries, heldCount entry.fromEvent entries = 0)
    (fromEvent : FromEvent) : heldCount fromEvent entries = 0 := by
  by_cases found : ∃ entry ∈ entries, entry.fromEvent = fromEvent
  · obtain ⟨entry, member, rfl⟩ := found
    exact released entry member
  · refine List.sum_eq_zero fun count isCount => ?_
    obtain ⟨entry, member, rfl⟩ := List.mem_map.mp isCount
    exact if_neg fun own => found ⟨entry, member, own⟩

/-- The events of one type of a key of a device. -/
def keyCount (deviceId : DeviceId) (key : MomentarySwitchEvent) (eventType : EventType)
    (entries : List Entry) : Nat :=
  entries.countP fun entry => decide (entry.deviceId = deviceId) &&
    decide (entry.event = .momentarySwitchEvent key) && decide (entry.eventType = eventType)

/-- The balance of a key is the number of its presses less the number of its releases. -/
theorem balance_eq_sub (deviceId : DeviceId) (key : MomentarySwitchEvent) (entries : List Entry) :
    balance deviceId key entries =
      keyCount deviceId key .keyDown entries - keyCount deviceId key .keyUp entries := by
  induction entries with
  | nil => rfl
  | cons entry rest ih =>
      have split : balance deviceId key (entry :: rest) =
          eventCount deviceId key entry.deviceId entry.event entry.eventType +
            balance deviceId key rest := rfl
      unfold keyCount at ih ⊢
      rw [split, ih, List.countP_cons, List.countP_cons]
      unfold eventCount
      by_cases matching : entry.deviceId = deviceId ∧ entry.event = .momentarySwitchEvent key
      · cases type : entry.eventType <;> simp [matching] <;> omega
      · rw [if_neg matching]
        rw [not_and_or] at matching
        rcases matching with other | other <;> simp [other]

/-- The key_downs and key_ups of every key alternate, and the first one is a key_down. -/
def Alternates (entries : List Entry) : Prop :=
  ∀ earlier, earlier <+: entries → ∀ fromEvent key, fromEvent.event = .momentarySwitchEvent key →
    heldCount fromEvent earlier = 0 ∨ heldCount fromEvent earlier = 1

theorem alternates_nil : Alternates [] := by
  intro earlier isPrefix fromEvent key _
  rw [List.prefix_nil.mp isPrefix]
  exact .inl rfl

/-- One more entry, if it is no key, or a key_down of a key that is up or a key_up of one
that is down. -/
theorem Alternates.concat {entries : List Entry} (alternates : Alternates entries) {entry : Entry}
    (next : ∀ key, entry.event = .momentarySwitchEvent key →
      heldCount entry.fromEvent (entries ++ [entry]) = 0 ∨
        heldCount entry.fromEvent (entries ++ [entry]) = 1) :
    Alternates (entries ++ [entry]) := by
  intro earlier isPrefix fromEvent key isKey
  rcases List.prefix_concat_iff.mp isPrefix with whole | shorter
  · rw [whole]
    by_cases own : entry.fromEvent = fromEvent
    · subst own
      exact next key isKey
    · rw [heldCount_append, heldCount_singleton, if_neg own, Int.add_zero]
      exact alternates entries (List.prefix_refl entries) fromEvent key isKey
  · exact alternates earlier shorter fromEvent key isKey

theorem Alternates.congr {first second : List Entry} (alternates : Alternates first)
    (same : first.map Entry.keyEvent = second.map Entry.keyEvent) : Alternates second := by
  intro earlier isPrefix fromEvent key isKey
  have taken := List.prefix_iff_eq_take.mp isPrefix
  have equal : heldCount fromEvent earlier = heldCount fromEvent (first.take earlier.length) := by
    refine heldCount_congr fromEvent ?_
    rw [List.map_take, same, ← List.map_take, ← taken]
  rw [equal]
  exact alternates _ (List.take_prefix _ _) fromEvent key isKey

/-- The key_downs minus the key_ups of a key of a device are those of its from events. -/
theorem balance_eq_sum (deviceId : DeviceId) (key : MomentarySwitchEvent)
    (originals : Finset Event) (entries : List Entry)
    (covered : ∀ entry ∈ entries, entry.originalEvent ∈ originals) :
    balance deviceId key entries =
      ∑ original ∈ originals, heldCount ⟨deviceId, .momentarySwitchEvent key, original⟩ entries := by
  induction entries with
  | nil => simp
  | cons entry rest ih =>
      have own := covered entry List.mem_cons_self
      have others := ih fun other member => covered other (List.mem_cons_of_mem _ member)
      have one : ∑ original ∈ originals, (if entry.fromEvent =
            ⟨deviceId, .momentarySwitchEvent key, original⟩ then entry.eventType.count else 0) =
          eventCount deviceId key entry.deviceId entry.event entry.eventType := by
        unfold eventCount Entry.fromEvent
        by_cases matching : entry.deviceId = deviceId ∧ entry.event = .momentarySwitchEvent key
        · rw [if_pos matching]
          simp only [FromEvent.mk.injEq, matching, true_and, Finset.sum_ite_eq, own, if_true]
          cases entry.eventType <;> rfl
        · rw [if_neg matching]
          refine Finset.sum_eq_zero fun original _ => if_neg fun same => matching ?_
          exact ⟨(FromEvent.mk.inj same).1, (FromEvent.mk.inj same).2.1⟩
      have split : balance deviceId key (entry :: rest) =
          eventCount deviceId key entry.deviceId entry.event entry.eventType +
            balance deviceId key rest := rfl
      simp only [heldCount_cons]
      rw [Finset.sum_add_distrib, one, split, others]

/-- When no key is held, every key of every device has as many key_ups as key_downs. -/
theorem balance_eq_zero_of_released {entries : List Entry}
    (released : ∀ fromEvent key, fromEvent.event = .momentarySwitchEvent key →
      heldCount fromEvent entries = 0) (deviceId : DeviceId) (key : MomentarySwitchEvent) :
    balance deviceId key entries = 0 := by
  rw [balance_eq_sum deviceId key (entries.map Entry.originalEvent).toFinset entries
    fun entry member => List.mem_toFinset.mpr (List.mem_map_of_mem member)]
  exact Finset.sum_eq_zero fun original _ => released _ key rfl

end Karabiner
