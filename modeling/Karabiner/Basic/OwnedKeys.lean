import Karabiner.Basic.HeldKeys
import Karabiner.Basic.Loop

/-! # The keys that records own

A key belongs to at most one record, and the record owes the output queue what it has
posted for it. As long as that holds, the output has as many key_downs more than key_ups as
there are keys held that belong to no record, and nothing is left when all keys are up
(`Karabiner.Ownership.nothing_owned`).
-/

namespace Karabiner

namespace Basic

/-- A record and the `from` of its manipulator. -/
abbrev Owner := FromEventDefinition × ManipulatedOriginalEvent

/-- All records, without what they note about being alone. -/
def owners (manipulators : List Basic) : List Owner :=
  manipulators.flatMap fun basic =>
    basic.quiet.manipulatedOriginalEvents.map fun current => (basic.from_, current)

/-- The keys that belong to a record. -/
def ownedKeys (owners : List Owner) : List FromEvent :=
  owners.flatMap fun owner => owner.2.fromEvents

/-- The key_downs minus the key_ups of those from events of a key that are owned. -/
def heldBalance (deviceId : DeviceId) (key : MomentarySwitchEvent) (keys : List FromEvent)
    (processed : List Entry) : Int :=
  (keys.map fun fromEvent =>
    if fromEvent.deviceId = deviceId ∧ fromEvent.event = .momentarySwitchEvent key then
      heldCount fromEvent processed
    else 0).sum

/-- What all records owe. -/
def owedBalance (deviceId : DeviceId) (key : MomentarySwitchEvent) (owners : List Owner) : Int :=
  (owners.map fun owner => owner.2.owed owner.2.keyDownDeviceId deviceId key).sum

/-- What holds of the records while no key is mixed up. `output` is all the output queue has
got. -/
structure Ownership (owners : List Owner) (processed queued output : List Entry) : Prop where
  valid : ∀ entry ∈ queued, entry.validity = .valid
  grabbed : ∀ entry ∈ queued, entry.event ≠ .deviceUngrabbed
  alternates : Alternates (processed ++ queued)
  tested : ∀ owner ∈ owners, ∀ fromEvent ∈ owner.2.fromEvents,
    FromEventDefinition.testEvent fromEvent.event owner.1 = true
  nodup : (ownedKeys owners).Nodup
  pending : ∀ fromEvent ∈ ownedKeys owners, heldCount fromEvent processed = 1 ∨
    ∃ entry ∈ queued, entry.fromEvent = fromEvent ∧ entry.eventType = .keyDown
  holding : ∀ owner ∈ owners, owner.2.fromEvents ≠ []
  discharged : ∀ owner ∈ owners, owner.2.keyUpPosted = true → owner.2.Discharged
  balanced : ∀ deviceId key, balance deviceId key output + owedBalance deviceId key owners +
    heldBalance deviceId key (ownedKeys owners) processed = balance deviceId key processed

/-! ## Sums over keys -/

theorem heldBalance_perm {deviceId : DeviceId} {key : MomentarySwitchEvent}
    {first second : List FromEvent} (perm : first.Perm second) (processed : List Entry) :
    heldBalance deviceId key first processed = heldBalance deviceId key second processed :=
  (perm.map _).sum_eq

theorem heldBalance_append (deviceId : DeviceId) (key : MomentarySwitchEvent)
    (first second : List FromEvent) (processed : List Entry) :
    heldBalance deviceId key (first ++ second) processed =
      heldBalance deviceId key first processed + heldBalance deviceId key second processed := by
  unfold heldBalance
  rw [List.map_append, List.sum_append]

/-- Keys that are up count nothing. -/
theorem heldBalance_eq_zero {deviceId : DeviceId} {key : MomentarySwitchEvent}
    {keys : List FromEvent} {processed : List Entry}
    (up : ∀ fromEvent ∈ keys, heldCount fromEvent processed = 0) :
    heldBalance deviceId key keys processed = 0 := by
  refine List.sum_eq_zero fun count member => ?_
  obtain ⟨fromEvent, isKey, rfl⟩ := List.mem_map.mp member
  rw [up fromEvent isKey]
  exact ite_self 0

/-- An entry counts for the key it is about, if that is among the keys. -/
theorem heldBalance_concat (deviceId : DeviceId) (key : MomentarySwitchEvent)
    {keys : List FromEvent} (nodup : keys.Nodup) (processed : List Entry) (entry : Entry) :
    heldBalance deviceId key keys (processed ++ [entry]) =
      heldBalance deviceId key keys processed +
        if entry.fromEvent ∈ keys then
          eventCount deviceId key entry.deviceId entry.event entry.eventType else 0 := by
  induction keys with
  | nil => rfl
  | cons fromEvent rest ih =>
      obtain ⟨fresh, others⟩ := List.nodup_cons.mp nodup
      have later := ih others
      have first : (if fromEvent.deviceId = deviceId ∧
              fromEvent.event = .momentarySwitchEvent key then
            heldCount fromEvent (processed ++ [entry]) else 0) =
          (if fromEvent.deviceId = deviceId ∧ fromEvent.event = .momentarySwitchEvent key then
            heldCount fromEvent processed else 0) +
          if entry.fromEvent = fromEvent then
            eventCount deviceId key entry.deviceId entry.event entry.eventType else 0 := by
        rw [heldCount_append, heldCount_singleton]
        by_cases own : entry.fromEvent = fromEvent
        · subst own
          unfold eventCount Entry.fromEvent
          by_cases matching : entry.deviceId = deviceId ∧ entry.event = .momentarySwitchEvent key
          · simp only [matching, and_self, if_true]
            cases entry.eventType <;> rfl
          · simp [matching]
        · simp [own]
      unfold heldBalance at later ⊢
      rw [List.map_cons, List.sum_cons, List.map_cons, List.sum_cons, first, later]
      by_cases own : entry.fromEvent = fromEvent
      · subst own
        simp [fresh]
        omega
      · simp [own]
        omega

theorem ownedKeys_append (first second : List Owner) :
    ownedKeys (first ++ second) = ownedKeys first ++ ownedKeys second :=
  List.flatMap_append

theorem owedBalance_append (deviceId : DeviceId) (key : MomentarySwitchEvent)
    (first second : List Owner) :
    owedBalance deviceId key (first ++ second) =
      owedBalance deviceId key first + owedBalance deviceId key second := by
  unfold owedBalance
  rw [List.map_append, List.sum_append]

/-! ## One entry -/

namespace Ownership

variable {owners : List Owner} {processed queued rest output after : List Entry} {front : Entry}

theorem key_of_mem (sound : Ownership owners processed queued output) {fromEvent : FromEvent}
    (member : fromEvent ∈ ownedKeys owners) :
    ∃ key, fromEvent.event = .momentarySwitchEvent key := by
  obtain ⟨owner, isOwner, held⟩ := List.mem_flatMap.mp member
  exact FromEventDefinition.momentarySwitchEvent_of_testEvent
    (sound.tested owner isOwner fromEvent held)

/-- The entries up to the front entry alternate as well. -/
theorem heldCount_next (sound : Ownership owners processed (front :: rest) output)
    {fromEvent : FromEvent} {key : MomentarySwitchEvent}
    (isKey : fromEvent.event = .momentarySwitchEvent key) :
    (heldCount fromEvent processed = 0 ∨ heldCount fromEvent processed = 1) ∧
      (heldCount fromEvent (processed ++ [front]) = 0 ∨
        heldCount fromEvent (processed ++ [front]) = 1) := by
  have whole : processed ++ front :: rest = processed ++ [front] ++ rest := by simp
  refine ⟨sound.alternates processed (List.prefix_append _ _) fromEvent key isKey,
    sound.alternates _ ?_ fromEvent key isKey⟩
  rw [whole]
  exact List.prefix_append _ _

/-- A key_down comes when its key is up, a key_up when it is down. -/
theorem heldCount_front (sound : Ownership owners processed (front :: rest) output)
    {key : MomentarySwitchEvent} (isKey : front.event = .momentarySwitchEvent key) :
    (front.eventType = .keyDown → heldCount front.fromEvent processed = 0) ∧
      (front.eventType = .keyUp → heldCount front.fromEvent processed = 1) := by
  have own : front.fromEvent.event = .momentarySwitchEvent key := isKey
  have next := sound.heldCount_next own
  rw [heldCount_append, heldCount_singleton, if_pos rfl] at next
  constructor <;> intro type <;> rw [type] at next <;> simp only [EventType.count] at next <;> omega

/-- An owned key that is not released by the front entry is down or still to be pressed. -/
theorem pending_next (sound : Ownership owners processed (front :: rest) output)
    {fromEvent : FromEvent} (member : fromEvent ∈ ownedKeys owners)
    (kept : front.fromEvent = fromEvent → front.eventType ≠ .keyUp) :
    heldCount fromEvent (processed ++ [front]) = 1 ∨
      ∃ entry ∈ rest, entry.fromEvent = fromEvent ∧ entry.eventType = .keyDown := by
  obtain ⟨key, isKey⟩ := sound.key_of_mem member
  obtain ⟨before, now⟩ := sound.heldCount_next isKey
  rw [heldCount_append, heldCount_singleton] at now ⊢
  by_cases own : front.fromEvent = fromEvent ∧ front.eventType = .keyDown
  · left
    rw [if_pos own.1, own.2] at now ⊢
    simp only [EventType.count] at now ⊢
    omega
  · rcases sound.pending fromEvent member with held | ⟨entry, isQueued, isDown⟩
    · left
      by_cases same : front.fromEvent = fromEvent
      · cases type : front.eventType with
        | keyDown => exact absurd ⟨same, type⟩ own
        | keyUp => exact absurd type (kept same)
        | single =>
            rw [if_pos same, held]
            rfl
      · rw [if_neg same, held, Int.add_zero]
    · right
      rcases List.mem_cons.mp isQueued with isFront | later
      · exact absurd (isFront ▸ isDown) own
      · exact ⟨entry, later, isDown⟩

/-- The parts that only concern the queue. -/
theorem tail (sound : Ownership owners processed (front :: rest) output) :
    (∀ entry ∈ rest, entry.validity = .valid) ∧ (∀ entry ∈ rest, entry.event ≠ .deviceUngrabbed) ∧
      Alternates (processed ++ [front] ++ rest) := by
  refine ⟨fun entry later => sound.valid entry (List.mem_cons_of_mem _ later),
    fun entry later => sound.grabbed entry (List.mem_cons_of_mem _ later), ?_⟩
  rw [List.append_assoc]
  exact sound.alternates

/-- The front entry passes, or is swallowed because a record owns its key. -/
theorem advance (sound : Ownership owners processed (front :: rest) output)
    (notReleased : front.fromEvent ∈ ownedKeys owners → front.eventType ≠ .keyUp)
    (settled : ∀ deviceId key, balance deviceId key after = balance deviceId key output +
      if front.fromEvent ∈ ownedKeys owners then 0
      else eventCount deviceId key front.deviceId front.event front.eventType) :
    Ownership owners (processed ++ [front]) rest after := by
  obtain ⟨valid, grabbed, alternates⟩ := sound.tail
  refine ⟨valid, grabbed, alternates, sound.tested, sound.nodup, fun fromEvent member =>
    sound.pending_next member fun same => notReleased (same ▸ member), sound.holding,
    sound.discharged, fun deviceId key => ?_⟩
  have balanced := sound.balanced deviceId key
  rw [heldBalance_concat deviceId key sound.nodup, settled, balance_append, balance_singleton]
  split <;> omega

/-- The front entry, a key_down, is claimed together with other keys. -/
theorem claim {before others : List Owner}
    (sound : Ownership (before ++ others) processed (front :: rest) output)
    {definition : FromEventDefinition} {record : ManipulatedOriginalEvent}
    (isKeyDown : front.eventType = .keyDown) (own : front.fromEvent ∈ record.fromEvents)
    (nodup : record.fromEvents.Nodup)
    (tested : ∀ fromEvent ∈ record.fromEvents,
      FromEventDefinition.testEvent fromEvent.event definition = true)
    (queued : ∀ fromEvent ∈ record.fromEvents, fromEvent = front.fromEvent ∨
      ∃ entry ∈ rest, entry.fromEvent = fromEvent ∧ entry.eventType = .keyDown)
    (fresh : ∀ fromEvent ∈ record.fromEvents, fromEvent ∉ ownedKeys (before ++ others) ∧
      heldCount fromEvent processed = 0)
    (notPosted : record.keyUpPosted = false) (device : record.keyDownDeviceId = front.deviceId)
    (settled : ∀ deviceId key, balance deviceId key after +
      record.owed front.deviceId deviceId key = balance deviceId key output) :
    Ownership (before ++ (definition, record) :: others) (processed ++ [front]) rest after := by
  obtain ⟨valid, grabbed, alternates⟩ := sound.tail
  have split : ∀ owner ∈ before ++ (definition, record) :: others,
      owner = (definition, record) ∨ owner ∈ before ++ others := by
    intro owner member
    simpa [or_left_comm] using member
  have keys : (ownedKeys (before ++ (definition, record) :: others)).Perm
      (record.fromEvents ++ ownedKeys (before ++ others)) := by
    rw [ownedKeys_append, ownedKeys_append]
    exact List.perm_append_comm_assoc (ownedKeys before) record.fromEvents (ownedKeys others)
  refine ⟨valid, grabbed, alternates, fun owner member => ?_, ?_, fun fromEvent member => ?_,
    fun owner member => ?_, fun owner member => ?_, fun deviceId key => ?_⟩
  · rcases split owner member with rfl | earlier
    · exact tested
    · exact sound.tested owner earlier
  · refine keys.nodup_iff.mpr (List.nodup_append.mpr ⟨nodup, sound.nodup, ?_⟩)
    exact fun fromEvent claimed other owned same => (fresh fromEvent claimed).1 (same ▸ owned)
  · rcases List.mem_append.mp (keys.subset member) with claimed | owned
    · rcases queued fromEvent claimed with rfl | later
      · left
        rw [heldCount_append, heldCount_singleton, if_pos rfl, (fresh _ claimed).2, isKeyDown]
        rfl
      · exact .inr later
    · refine sound.pending_next owned fun _ isKeyUp => ?_
      rw [isKeyDown] at isKeyUp
      cases isKeyUp
  · rcases split owner member with rfl | earlier
    · exact List.ne_nil_of_mem own
    · exact sound.holding owner earlier
  · rcases split owner member with rfl | earlier
    · exact fun isPosted => absurd (notPosted.symm.trans isPosted) Bool.false_ne_true
    · exact sound.discharged owner earlier
  · have balanced := sound.balanced deviceId key
    have notOwned : front.fromEvent ∉ ownedKeys (before ++ others) := (fresh _ own).1
    have owes : owedBalance deviceId key (before ++ (definition, record) :: others) =
        record.owed front.deviceId deviceId key + owedBalance deviceId key (before ++ others) := by
      rw [owedBalance_append, owedBalance_append, ← device]
      exact Int.add_left_comm _ _ _
    have claimedUp : heldBalance deviceId key record.fromEvents processed = 0 :=
      heldBalance_eq_zero fun fromEvent claimed => (fresh fromEvent claimed).2
    have total := settled deviceId key
    rw [owes, heldBalance_perm keys, heldBalance_append,
      heldBalance_concat deviceId key nodup, if_pos own, claimedUp,
      heldBalance_concat deviceId key sound.nodup, if_neg notOwned, balance_append,
      balance_singleton]
    omega

/-- The front entry, a key_up, is taken by the record that owns its key. The record is kept
as long as it has other keys. -/
theorem release {before others kept : List Owner} {definition : FromEventDefinition}
    {current : ManipulatedOriginalEvent}
    (sound : Ownership (before ++ (definition, current) :: others) processed (front :: rest) output)
    (isKeyUp : front.eventType = .keyUp) (own : front.fromEvent ∈ current.fromEvents)
    (keys : ownedKeys kept = (current.eraseFromEvent front.fromEvent).fromEvents)
    (keptOwner : ∀ owner ∈ kept, owner.1 = definition ∧ owner.2.fromEvents ≠ [] ∧
      (owner.2.keyUpPosted = true → owner.2.Discharged))
    (settled : ∀ deviceId key, balance deviceId key after + owedBalance deviceId key kept =
      balance deviceId key output + current.owed current.keyDownDeviceId deviceId key) :
    Ownership (before ++ kept ++ others) (processed ++ [front]) rest after := by
  obtain ⟨valid, grabbed, alternates⟩ := sound.tail
  have member : (definition, current) ∈ before ++ (definition, current) :: others := by simp
  have split : ∀ owner ∈ before ++ kept ++ others, owner ∈ kept ∨
      owner ∈ before ++ (definition, current) :: others := by
    intro owner isOwner
    rcases List.mem_append.mp isOwner with earlier | later
    · rcases List.mem_append.mp earlier with first | isKept
      · exact .inr (List.mem_append_left _ first)
      · exact .inl isKept
    · exact .inr (List.mem_append_right _ (List.mem_cons_of_mem _ later))
  have all : (ownedKeys (before ++ (definition, current) :: others)).Perm
      (current.fromEvents ++ (ownedKeys before ++ ownedKeys others)) := by
    rw [ownedKeys_append]
    exact List.perm_append_comm_assoc (ownedKeys before) current.fromEvents (ownedKeys others)
  have currentNodup : current.fromEvents.Nodup :=
    (List.nodup_append.mp (all.nodup_iff.mp sound.nodup)).1
  have erased : current.fromEvents.Perm
      (front.fromEvent :: (current.eraseFromEvent front.fromEvent).fromEvents) := by
    refine (List.perm_cons_erase own).trans (List.Perm.cons _ (List.Perm.of_eq ?_))
    rw [currentNodup.erase_eq_filter]
    rfl
  have moved : (ownedKeys (before ++ kept ++ others)).Perm
      ((current.eraseFromEvent front.fromEvent).fromEvents ++
        (ownedKeys before ++ ownedKeys others)) := by
    rw [ownedKeys_append, ownedKeys_append, keys, List.append_assoc]
    exact List.perm_append_comm_assoc _ _ _
  have whole : (ownedKeys (before ++ (definition, current) :: others)).Perm
      (front.fromEvent :: ownedKeys (before ++ kept ++ others)) :=
    (all.trans (erased.append_right _)).trans (moved.symm.cons _)
  obtain ⟨released, nodup⟩ := List.nodup_cons.mp (whole.nodup_iff.mp sound.nodup)
  refine ⟨valid, grabbed, alternates, fun owner isOwner => ?_, nodup, fun fromEvent owned => ?_,
    fun owner isOwner => ?_, fun owner isOwner => ?_, fun deviceId key => ?_⟩
  · rcases split owner isOwner with isKept | earlier
    · intro fromEvent held
      have inKept : fromEvent ∈ ownedKeys kept := List.mem_flatMap.mpr ⟨owner, isKept, held⟩
      rw [keys] at inKept
      rw [(keptOwner owner isKept).1]
      exact sound.tested _ member fromEvent (List.mem_of_mem_filter inKept)
    · exact sound.tested owner earlier
  · refine sound.pending_next (whole.symm.subset (List.mem_cons_of_mem _ owned)) fun same => ?_
    exact absurd (same ▸ owned) released
  · rcases split owner isOwner with isKept | earlier
    · exact (keptOwner owner isKept).2.1
    · exact sound.holding owner earlier
  · rcases split owner isOwner with isKept | earlier
    · exact (keptOwner owner isKept).2.2
    · exact sound.discharged owner earlier
  · have balanced := sound.balanced deviceId key
    have total := settled deviceId key
    obtain ⟨event, isKey⟩ := sound.key_of_mem (whole.symm.subset List.mem_cons_self)
    have down := (sound.heldCount_front isKey).2 isKeyUp
    have one : heldBalance deviceId key [front.fromEvent] processed =
        -eventCount deviceId key front.deviceId front.event front.eventType := by
      unfold heldBalance eventCount
      rw [isKeyUp, List.map_singleton, List.sum_singleton, down]
      change (if front.deviceId = deviceId ∧ front.event = .momentarySwitchEvent key then _ else _) =
        -(if front.deviceId = deviceId ∧ front.event = .momentarySwitchEvent key then _ else _)
      split <;> rfl
    have owes : owedBalance deviceId key (before ++ (definition, current) :: others) +
          owedBalance deviceId key kept =
        owedBalance deviceId key (before ++ kept ++ others) +
          current.owed current.keyDownDeviceId deviceId key := by
      have cons : owedBalance deviceId key ((definition, current) :: others) =
          current.owed current.keyDownDeviceId deviceId key + owedBalance deviceId key others := rfl
      rw [owedBalance_append, owedBalance_append, owedBalance_append, cons]
      omega
    have split : heldBalance deviceId key
          (ownedKeys (before ++ (definition, current) :: others)) processed =
        heldBalance deviceId key [front.fromEvent] processed +
          heldBalance deviceId key (ownedKeys (before ++ kept ++ others)) processed := by
      rw [heldBalance_perm whole]
      exact heldBalance_append deviceId key [front.fromEvent] _ processed
    rw [heldBalance_concat deviceId key nodup, if_neg released, balance_append,
      balance_singleton]
    omega

/-- The front entry waits. -/
theorem wait {delayed : Entry} (sound : Ownership owners processed (front :: rest) output)
    (same : SameKey front delayed)
    (settled : ∀ deviceId key, balance deviceId key after = balance deviceId key output) :
    Ownership owners processed (delayed :: rest) after := by
  have event : delayed.event = front.event := congrArg FromEvent.event same.fromEvent
  refine ⟨fun entry member => ?_, fun entry member => ?_, sound.alternates.congr ?_, sound.tested,
    sound.nodup, fun fromEvent member => ?_, sound.holding, sound.discharged,
    fun deviceId key => ?_⟩
  · rcases List.mem_cons.mp member with rfl | later
    · exact same.validity.trans (sound.valid front List.mem_cons_self)
    · exact sound.valid entry (List.mem_cons_of_mem _ later)
  · rcases List.mem_cons.mp member with rfl | later
    · rw [event]
      exact sound.grabbed front List.mem_cons_self
    · exact sound.grabbed entry (List.mem_cons_of_mem _ later)
  · simp only [List.map_append, List.map_cons, Entry.keyEvent, same.fromEvent, same.eventType]
  · rcases sound.pending fromEvent member with held | ⟨entry, isQueued, own, isDown⟩
    · exact .inl held
    · rcases List.mem_cons.mp isQueued with rfl | later
      · exact .inr ⟨delayed, List.mem_cons_self, same.fromEvent.trans own,
          same.eventType.trans isDown⟩
      · exact .inr ⟨entry, List.mem_cons_of_mem _ later, own, isDown⟩
  · rw [settled]
    exact sound.balanced deviceId key

/-- Only the balance of the output counts. -/
theorem congr_output (sound : Ownership owners processed queued output)
    (same : ∀ deviceId key, balance deviceId key after = balance deviceId key output) :
    Ownership owners processed queued after := by
  refine ⟨sound.valid, sound.grabbed, sound.alternates, sound.tested, sound.nodup, sound.pending,
    sound.holding, sound.discharged, fun deviceId key => ?_⟩
  rw [same]
  exact sound.balanced deviceId key

/-- One more entry is queued. -/
theorem push (sound : Ownership owners processed queued output) {entry : Entry}
    (isValid : entry.validity = .valid) (notUngrabbed : entry.event ≠ .deviceUngrabbed)
    (next : ∀ key, entry.event = .momentarySwitchEvent key →
      heldCount entry.fromEvent (processed ++ queued ++ [entry]) = 0 ∨
        heldCount entry.fromEvent (processed ++ queued ++ [entry]) = 1) :
    Ownership owners processed (queued ++ [entry]) output := by
  refine ⟨fun other member => ?_, fun other member => ?_, ?_, sound.tested, sound.nodup,
    fun fromEvent member => ?_, sound.holding, sound.discharged, sound.balanced⟩
  · rcases List.mem_append.mp member with earlier | own
    · exact sound.valid other earlier
    · rw [List.mem_singleton.mp own]
      exact isValid
  · rcases List.mem_append.mp member with earlier | own
    · exact sound.grabbed other earlier
    · rw [List.mem_singleton.mp own]
      exact notUngrabbed
  · rw [← List.append_assoc]
    exact sound.alternates.concat next
  · rcases sound.pending fromEvent member with held | ⟨other, isQueued, isDown⟩
    · exact .inl held
    · exact .inr ⟨other, List.mem_append_left _ isQueued, isDown⟩

/-- When all keys are up and no entry is queued, no record is left and every key of the output
has been released. -/
theorem nothing_owned (sound : Ownership owners processed [] output)
    (released : ∀ fromEvent key, fromEvent.event = .momentarySwitchEvent key →
      heldCount fromEvent processed = 0) :
    owners = [] ∧ ∀ deviceId key, balance deviceId key output = 0 := by
  have none : owners = [] := by
    refine List.eq_nil_iff_forall_not_mem.mpr fun owner member => ?_
    obtain ⟨fromEvent, held⟩ := List.exists_mem_of_ne_nil _ (sound.holding owner member)
    have owned : fromEvent ∈ ownedKeys owners := List.mem_flatMap.mpr ⟨owner, member, held⟩
    obtain ⟨key, isKey⟩ := sound.key_of_mem owned
    have up := released fromEvent key isKey
    rcases sound.pending fromEvent owned with down | ⟨entry, isQueued, _⟩
    · omega
    · cases isQueued
  refine ⟨none, fun deviceId key => ?_⟩
  have balanced := sound.balanced deviceId key
  rw [balance_eq_zero_of_released released, none] at balanced
  have zero : owedBalance deviceId key [] = 0 ∧
      heldBalance deviceId key (ownedKeys []) processed = 0 := ⟨rfl, rfl⟩
  omega

end Ownership

end Basic

end Karabiner
