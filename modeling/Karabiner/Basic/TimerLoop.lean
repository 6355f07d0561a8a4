import Mathlib.Data.List.Perm.Subperm
import Karabiner.Basic.TimerCalls

/-! # The records of all manipulators

What holds of the records of every manipulator with timers, and what the loop of the manager over
them preserves. A key_down may add one record, and a key_up takes its key from the record that
holds it, as long as no key is held by two of them.
-/

namespace Karabiner

open Foundation

/-- The entry ends the press of a key: the key goes up, or its device is ungrabbed. -/
def Entry.LetsGo (entry : Entry) (fromEvent : FromEvent) : Prop :=
  entry.fromEvent = fromEvent ∧ entry.eventType = .keyUp ∨
    entry.event = .deviceUngrabbed ∧ entry.deviceId = fromEvent.deviceId

/-- The key has been released or ungrabbed by one of the entries. -/
def LetGo (entries : List Entry) (fromEvent : FromEvent) : Prop :=
  ∃ entry ∈ entries, entry.LetsGo fromEvent

instance (entry : Entry) (fromEvent : FromEvent) : Decidable (entry.LetsGo fromEvent) :=
  inferInstanceAs (Decidable (_ ∧ _ ∨ _ ∧ _))

instance (entries : List Entry) (fromEvent : FromEvent) : Decidable (LetGo entries fromEvent) :=
  inferInstanceAs (Decidable (∃ entry ∈ entries, entry.LetsGo fromEvent))

theorem letGo_append {first second : List Entry} {fromEvent : FromEvent} :
    LetGo (first ++ second) fromEvent ↔ LetGo first fromEvent ∨ LetGo second fromEvent := by
  unfold LetGo
  simp only [List.mem_append, or_and_right, exists_or]

namespace SharedRecord

/-- What holds of a record that is alive. -/
structure Sound (from_ : FromEventDefinition) (record : SharedRecord) : Prop where
  listed_iff : record.listed = true ↔ record.current.fromEvents ≠ []
  tested : ∀ fromEvent ∈ record.current.fromEvents,
    FromEventDefinition.testEvent fromEvent.event from_ = true
  own : ∀ fromEvent ∈ record.current.fromEvents, fromEvent ∈ record.keys
  discharged : record.current.keyUpPosted = true → record.current.Discharged
  keepsReleases : TimedBasic.KeepsReleases record.current

/-- A record that owes the same and waits for the same keys stays sound. -/
theorem Sound.sameDebt {from_ : FromEventDefinition} {before after : SharedRecord}
    (sound : before.Sound from_) (same : SameDebt before after) : after.Sound from_ where
  listed_iff := by
    rw [same.listed, same.fromEvents]
    exact sound.listed_iff
  tested := by
    rw [same.fromEvents]
    exact sound.tested
  own := by
    rw [same.fromEvents, same.keys]
    exact sound.own
  discharged := by
    unfold ManipulatedOriginalEvent.Discharged
    rw [same.keyUpPosted, same.eventsAtKeyUp, same.liftedModifiers]
    exact sound.discharged
  keepsReleases := by
    unfold TimedBasic.KeepsReleases
    rw [same.eventsAtKeyUp]
    exact sound.keepsReleases

end SharedRecord

namespace TimedBasic

open SharedRecord (SameDebt)

/-- The held-down timer is pending for the record, or has posted what the record is to release. -/
def Watches (manipulator : TimedBasic) (record : SharedRecord) : Prop :=
  manipulator.pendingHeldDown.map Prod.snd = some record.identity ∨
    record.heldDown = true ∧ record.current.eventsAtKeyUp ≠ []

/-- What is watched afterwards was watched before, if no held down task was set up meanwhile and the
record keeps nothing new. -/
theorem Watches.of_same {before after : TimedBasic} {earlier later : SharedRecord}
    (watches : Watches after later)
    (pending : ∀ task, after.pendingHeldDown = some task → before.pendingHeldDown = some task)
    (identity : later.identity = earlier.identity) (heldDown : later.heldDown = earlier.heldDown)
    (kept : earlier.current.eventsAtKeyUp = [] → later.current.eventsAtKeyUp = []) :
    Watches before earlier := by
  rcases watches with isPending | ⟨hasPosted, keeps⟩
  · left
    obtain ⟨task, isTask, same⟩ := Option.map_eq_some_iff.mp isPending
    rw [pending task isTask, Option.map_some, same, identity]
  · exact .inr ⟨heldDown ▸ hasPosted, fun nothing => keeps (kept nothing)⟩

/-- What holds of a manipulator. The held-down timer is pending for a record for which it has not
posted yet, and whose key_up was not posted. The keys that a watched record waits for are held. -/
structure Sound (got : List Entry) (manipulator : TimedBasic) : Prop where
  distinct : manipulator.Distinct
  made : ∀ record ∈ manipulator.records, record.identity < manipulator.made
  records : ∀ record ∈ manipulator.records, record.Sound manipulator.basic.from_
  held : ∀ record ∈ manipulator.records, manipulator.Watches record →
    ∀ fromEvent ∈ record.current.fromEvents, ¬LetGo record.since fromEvent
  pending : ∀ task, manipulator.pendingHeldDown = some task →
    ∀ record ∈ manipulator.records, record.identity = task.2 →
      record.heldDown = false ∧ record.current.keyUpPosted = false ∧
        LiftedIn got task.1.deviceId record.current

/-- The records that are watched were watched before, and wait for no other keys. -/
def Narrows (before after : TimedBasic) : Prop :=
  ∀ later ∈ after.records, after.Watches later → ∃ earlier ∈ before.records,
    before.Watches earlier ∧ later.since = earlier.since ∧
      later.current.fromEvents ⊆ earlier.current.fromEvents

theorem Narrows.held {before after : TimedBasic} (narrows : Narrows before after)
    (held : ∀ record ∈ before.records, before.Watches record →
      ∀ fromEvent ∈ record.current.fromEvents, ¬LetGo record.since fromEvent) :
    ∀ record ∈ after.records, after.Watches record →
      ∀ fromEvent ∈ record.current.fromEvents, ¬LetGo record.since fromEvent := by
  intro later isLater watches fromEvent member
  obtain ⟨earlier, isEarlier, watched, since, fewer⟩ := narrows later isLater watches
  rw [since]
  exact held earlier isEarlier watched fromEvent (fewer member)

theorem Narrows.trans {before middle after : TimedBasic} (one : Narrows before middle)
    (two : Narrows middle after) : Narrows before after := by
  intro later isLater watches
  obtain ⟨between, isBetween, watched, since, fewer⟩ := two later isLater watches
  obtain ⟨earlier, isEarlier, watchedToo, sinceToo, fewerToo⟩ := one between isBetween watched
  exact ⟨earlier, isEarlier, watchedToo, since.trans sinceToo,
    List.Subset.trans fewer fewerToo⟩

theorem Quiet.narrows {before after : TimedBasic} (quiet : Quiet before after) :
    Narrows before after := by
  intro later isLater watches
  obtain ⟨earlier, isEarlier, same⟩ := quiet.known later isLater
  refine ⟨earlier, isEarlier, ?_, same.since, fun _ member => same.fromEvents ▸ member⟩
  exact watches.of_same quiet.pending same.identity same.heldDown (same.eventsAtKeyUp.trans ·)

namespace Sound

variable {got more : List Entry} {manipulator before after : TimedBasic}

/-- In a sound manipulator the held keys are ones that the from definition tests for, and only
listed records hold any. -/
theorem holdsOwn (sound : manipulator.Sound got) : manipulator.HoldsOwn where
  distinct := sound.distinct
  tested fromEvent member := by
    obtain ⟨record, isRecord, held⟩ := mem_keys.mp member
    exact (sound.records record isRecord).tested fromEvent held
  unlisted record isRecord notListed := by
    by_contra holds
    have listed := (sound.records record isRecord).listed_iff.mpr holds
    rw [notListed] at listed
    cases listed

theorem mono (sound : manipulator.Sound got) (subset : got ⊆ more) : manipulator.Sound more :=
  { sound with
    pending := fun task isPending record isRecord same => by
      obtain ⟨notPosted, notReleased, lifted⟩ := sound.pending task isPending record isRecord same
      exact ⟨notPosted, notReleased, lifted.mono subset⟩ }

/-- What is quiet, such as a timer of the delayed action, keeps the manipulator sound. -/
theorem quiet (sound : before.Sound got) (quiet : Quiet before after) : after.Sound got where
  distinct := quiet.distinct sound.distinct
  made record isRecord := by
    obtain ⟨earlier, isEarlier, same⟩ := quiet.known record isRecord
    rw [same.identity, quiet.made]
    exact sound.made earlier isEarlier
  records record isRecord := by
    obtain ⟨earlier, isEarlier, same⟩ := quiet.known record isRecord
    rw [quiet.basic]
    exact (sound.records earlier isEarlier).sameDebt same
  held := quiet.narrows.held sound.held
  pending task isPending record isRecord own := by
    obtain ⟨earlier, isEarlier, same⟩ := quiet.known record isRecord
    obtain ⟨notPosted, notReleased, lifted⟩ := sound.pending task (quiet.pending task isPending)
      earlier isEarlier (same.identity ▸ own)
    refine ⟨same.heldDown.trans notPosted, same.keyUpPosted.trans notReleased, ?_⟩
    unfold LiftedIn
    rw [same.liftedModifiers]
    exact lifted

/-- A new record of keys that the from definition asks for keeps the manipulator sound. -/
theorem makesRecord (sound : before.Sound got) {front : Entry} {keys : List FromEvent}
    (keysNotEmpty : keys ≠ [])
    (tested : ∀ fromEvent ∈ keys,
      FromEventDefinition.testEvent fromEvent.event before.basic.from_ = true)
    (makes : MakesRecord front keys got before after) : after.Sound got := by
  obtain ⟨current, fresh, records⟩ := makes.records
  refine ⟨?_, ?_, ?_, ?_, ?_⟩
  · unfold Distinct
    rw [records, List.map_append]
    refine List.nodup_append.mpr ⟨sound.distinct, List.nodup_singleton _, ?_⟩
    rintro identity isIdentity _ isNew rfl
    obtain ⟨record, isRecord, same⟩ := List.mem_map.mp isIdentity
    have earlier := sound.made record isRecord
    rw [same, List.mem_singleton.mp isNew] at earlier
    exact absurd earlier (Nat.lt_irrefl _)
  · rw [records, makes.made]
    refine List.forall_mem_append.mpr ⟨fun record isRecord => ?_, ?_⟩
    · exact Nat.lt_succ_of_lt (sound.made record isRecord)
    · exact List.forall_mem_singleton.mpr (Nat.lt_succ_self _)
  · rw [records, makes.basic]
    refine List.forall_mem_append.mpr ⟨sound.records, List.forall_mem_singleton.mpr ?_⟩
    refine ⟨?_, ?_, ?_, ?_, fresh.keepsReleases⟩
    · rw [fresh.fromEvents]
      exact iff_of_true rfl keysNotEmpty
    · rw [fresh.fromEvents]
      exact tested
    · rw [fresh.fromEvents]
      exact fun _ member => member
    · intro posted
      rw [fresh.keyUpPosted] at posted
      cases posted
  · rw [records]
    refine List.forall_mem_append.mpr ⟨fun record isRecord watches => ?_,
      List.forall_mem_singleton.mpr fun _ _ _ gone => ?_⟩
    · apply sound.held record isRecord
      rcases watches with isPending | owing
      · obtain ⟨task, isTask, same⟩ := Option.map_eq_some_iff.mp isPending
        have bound := sound.made record isRecord
        rw [← same, (makes.pending task isTask).2] at bound
        exact absurd bound (Nat.lt_irrefl _)
      · exact .inr owing
    · obtain ⟨entry, handled, -⟩ := gone
      cases handled
  · intro task isPending record isRecord own
    obtain ⟨sender, isNew⟩ := makes.pending task isPending
    rw [records] at isRecord
    rcases List.mem_append.mp isRecord with earlier | new
    · have bound := sound.made record earlier
      rw [own, isNew] at bound
      exact absurd bound (Nat.lt_irrefl _)
    · rw [List.mem_singleton.mp new, sender]
      exact ⟨rfl, fresh.keyUpPosted, fresh.lifted⟩

end Sound

/-! ## A record that gives up a key -/

section GiveUp

variable {noted : TimedBasic} {record : SharedRecord} {current : ManipulatedOriginalEvent}

/-- The record as a key_up leaves it. -/
def givenUp (record : SharedRecord) (current : ManipulatedOriginalEvent) : SharedRecord :=
  { record with
    current := current
    listed := !current.fromEvents.isEmpty }

theorem mem_of_giveUp (distinct : noted.Distinct) (isRecord : record ∈ noted.records)
    {later : SharedRecord} (member : later ∈ (noted.giveUp record current).records) :
    later ∈ noted.records ∧ later.identity ≠ record.identity ∨ later = givenUp record current := by
  obtain ⟨changed, -⟩ := List.mem_filter.mp member
  obtain ⟨earlier, isEarlier, rfl⟩ := List.mem_map.mp changed
  split
  · rename_i same
    obtain rfl := distinct.eq isEarlier isRecord same
    exact .inr rfl
  · rename_i other
    exact .inl ⟨isEarlier, other⟩

theorem mem_giveUp_of_other {other : SharedRecord} (isOther : other ∈ noted.records)
    (different : other.identity ≠ record.identity) (listed : other.listed = true) :
    other ∈ (noted.giveUp record current).records := by
  refine List.mem_filter.mpr ⟨List.mem_map.mpr ⟨other, isOther, if_neg different⟩, ?_⟩
  exact keepsAlive_of_listed _ other listed

theorem givenUp_mem_giveUp (isRecord : record ∈ noted.records) (waits : current.fromEvents ≠ []) :
    givenUp record current ∈ (noted.giveUp record current).records := by
  refine List.mem_filter.mpr ⟨List.mem_map.mpr ⟨record, isRecord, if_pos rfl⟩, ?_⟩
  apply keepsAlive_of_listed
  unfold givenUp
  simpa using waits

theorem identities_giveUp (noted : TimedBasic) (record : SharedRecord)
    (current : ManipulatedOriginalEvent) :
    ((noted.giveUp record current).records.map SharedRecord.identity).Sublist
      (noted.records.map SharedRecord.identity) := by
  have same : (noted.records.map fun other => if other.identity = record.identity
        then givenUp other current else other).map SharedRecord.identity =
      noted.records.map SharedRecord.identity := by
    rw [List.map_map]
    refine List.map_congr_left fun other _ => ?_
    rw [Function.comp_apply]
    split <;> rfl
  rw [← same]
  exact List.filter_sublist.map _

/-- A key that is held once is not held by two records. -/
theorem eq_of_mem_fromEvents {manipulator : TimedBasic} {fromEvent : FromEvent}
    (once : manipulator.keys.count fromEvent ≤ 1) {one other : SharedRecord}
    (isRecord : one ∈ manipulator.records) (isOther : other ∈ manipulator.records)
    (held : fromEvent ∈ one.current.fromEvents) (heldToo : fromEvent ∈ other.current.fromEvents) :
    other = one := by
  obtain ⟨first, last, records⟩ := List.append_of_mem isRecord
  have split : manipulator.keys = (first.flatMap fun record => record.current.fromEvents) ++
      (one.current.fromEvents ++ last.flatMap fun record => record.current.fromEvents) := by
    unfold TimedBasic.keys
    rw [records, List.flatMap_append, List.flatMap_cons]
  rw [split, List.count_append, List.count_append] at once
  have own := List.count_pos_iff.mpr held
  have notIn : ∀ records : List SharedRecord,
      (records.flatMap fun record => record.current.fromEvents).count fromEvent = 0 →
        other ∉ records := by
    intro records none isIn
    exact List.count_eq_zero.mp none (List.mem_flatMap.mpr ⟨other, isIn, heldToo⟩)
  rw [records] at isOther
  rcases List.mem_append.mp isOther with inFirst | inRest
  · exact absurd inFirst (notIn first (by omega))
  · rcases List.mem_cons.mp inRest with same | inLast
    · exact same
    · exact absurd inLast (notIn last (by omega))

theorem not_mem_keys_giveUp {front : Entry} (distinct : noted.Distinct)
    (once : noted.keys.count front.fromEvent ≤ 1) (isRecord : record ∈ noted.records)
    (held : front.fromEvent ∈ record.current.fromEvents)
    (erased : current.fromEvents = (record.current.eraseFromEvent front.fromEvent).fromEvents) :
    front.fromEvent ∉ (noted.giveUp record current).keys := by
  intro member
  obtain ⟨later, isLater, heldLater⟩ := mem_keys.mp member
  rcases mem_of_giveUp distinct isRecord isLater with ⟨isOther, different⟩ | rfl
  · rw [eq_of_mem_fromEvents once isRecord isOther held heldLater] at different
    exact different rfl
  · change front.fromEvent ∈ current.fromEvents at heldLater
    rw [erased] at heldLater
    have kept := (List.mem_filter.mp heldLater).2
    simp at kept

/-- Giving up a record narrows the manipulator: it holds no keys and watches no records that it did
not before. -/
theorem narrows_giveUp {front : Entry} {before posted : List Entry} (distinct : noted.Distinct)
    (isRecord : record ∈ noted.records)
    (gives : GivesUp front record.current current before posted) :
    Narrows noted (noted.giveUp record current) := by
  intro later isLater watches
  have stopped : ∀ task, (noted.giveUp record current).pendingHeldDown = some task →
      noted.pendingHeldDown = some task := by
    have none : (noted.giveUp record current).pendingHeldDown = none :=
      pendingHeldDown_stopHeldDown _
    intro task isPending
    rw [none] at isPending
    cases isPending
  rcases mem_of_giveUp distinct isRecord isLater with ⟨isOther, -⟩ | rfl
  · exact ⟨later, isOther, watches.of_same stopped rfl rfl id, rfl, List.Subset.refl _⟩
  · refine ⟨record, isRecord, watches.of_same stopped rfl rfl fun nothing => ?_, rfl, ?_⟩
    · rcases gives.settles with ⟨same, -⟩ | ⟨none, -⟩
      · exact same.trans nothing
      · exact none
    · intro fromEvent member
      change fromEvent ∈ current.fromEvents at member
      rw [gives.fromEvents] at member
      exact (List.mem_filter.mp member).1

/-- Giving up a record on the release of its key keeps the manipulator sound. -/
theorem Sound.giveUp {got : List Entry} {front : Entry} {before posted : List Entry}
    (sound : noted.Sound got) (isRecord : record ∈ noted.records)
    (gives : GivesUp front record.current current before posted) :
    (noted.giveUp record current).Sound got where
  distinct := sound.distinct.sublist (identities_giveUp noted record current)
  made later isLater := by
    rcases mem_of_giveUp sound.distinct isRecord isLater with ⟨isOther, -⟩ | rfl
    · exact sound.made later isOther
    · exact sound.made record isRecord
  records later isLater := by
    rcases mem_of_giveUp sound.distinct isRecord isLater with ⟨isOther, -⟩ | rfl
    · exact sound.records later isOther
    · have earlier := sound.records record isRecord
      have fewer : ∀ fromEvent ∈ current.fromEvents, fromEvent ∈ record.current.fromEvents := by
        intro fromEvent member
        rw [gives.fromEvents] at member
        exact (List.mem_filter.mp member).1
      refine ⟨?_, fun fromEvent member => ?_, fun fromEvent member => ?_, gives.discharged,
        gives.keepsReleases earlier.keepsReleases⟩
      · unfold givenUp
        simp
      · exact earlier.tested fromEvent (fewer fromEvent member)
      · exact earlier.own fromEvent (fewer fromEvent member)
  held := (narrows_giveUp sound.distinct isRecord gives).held sound.held
  pending task isPending := by
    have stopped : (noted.giveUp record current).pendingHeldDown = none :=
      pendingHeldDown_stopHeldDown _
    rw [stopped] at isPending
    cases isPending

end GiveUp

/-! ## A device that is ungrabbed -/

section EraseDevice

variable {manipulator : TimedBasic} {deviceId : DeviceId}

/-- A record without the keys of the device. -/
def withoutDevice (record : SharedRecord) (deviceId : DeviceId) : SharedRecord :=
  { record with
    current := record.current.eraseFromEventsByDeviceId deviceId
    listed := !(record.current.eraseFromEventsByDeviceId deviceId).fromEvents.isEmpty }

/-- After a device has been erased each listed record is an earlier one without the keys of the
device. -/
theorem mem_of_eraseDevice {record : SharedRecord}
    (member : record ∈ (manipulator.eraseDevice deviceId).records) :
    ∃ earlier ∈ manipulator.records, record = earlier ∧ earlier.listed = false ∨
      record = withoutDevice earlier deviceId ∧ earlier.listed = true := by
  obtain ⟨changed, -⟩ := List.mem_filter.mp member
  obtain ⟨earlier, isEarlier, rfl⟩ := List.mem_map.mp changed
  refine ⟨earlier, isEarlier, ?_⟩
  cases listed : earlier.listed with
  | true => exact .inr ⟨rfl, rfl⟩
  | false => exact .inl ⟨rfl, rfl⟩

theorem withoutDevice_mem_eraseDevice {record : SharedRecord}
    (isRecord : record ∈ manipulator.records) (listed : record.listed = true)
    (others : (record.current.eraseFromEventsByDeviceId deviceId).fromEvents ≠ []) :
    withoutDevice record deviceId ∈ (manipulator.eraseDevice deviceId).records := by
  refine List.mem_filter.mpr ⟨List.mem_map.mpr ⟨record, isRecord, if_pos listed⟩, ?_⟩
  apply keepsAlive_of_listed
  unfold withoutDevice
  simpa using others

theorem identities_eraseDevice (manipulator : TimedBasic) (deviceId : DeviceId) :
    ((manipulator.eraseDevice deviceId).records.map SharedRecord.identity).Sublist
      (manipulator.records.map SharedRecord.identity) := by
  have same : (manipulator.records.map fun record => if record.listed
        then withoutDevice record deviceId else record).map SharedRecord.identity =
      manipulator.records.map SharedRecord.identity := by
    rw [List.map_map]
    refine List.map_congr_left fun record _ => ?_
    rw [Function.comp_apply]
    split <;> rfl
  rw [← same]
  exact List.filter_sublist.map _

theorem narrows_eraseDevice (manipulator : TimedBasic) (deviceId : DeviceId) :
    Narrows manipulator (manipulator.eraseDevice deviceId) := by
  intro later isLater watches
  obtain ⟨earlier, isEarlier, ⟨rfl, -⟩ | ⟨rfl, -⟩⟩ := mem_of_eraseDevice isLater
  · exact ⟨later, isEarlier, watches, rfl, List.Subset.refl _⟩
  · exact ⟨earlier, isEarlier, watches, rfl, fun _ member => (List.mem_filter.mp member).1⟩

/-- Erasing a device keeps the manipulator sound, since records only lose keys. -/
theorem Sound.eraseDevice {got : List Entry} (sound : manipulator.Sound got)
    (deviceId : DeviceId) : (manipulator.eraseDevice deviceId).Sound got where
  distinct := sound.distinct.sublist (identities_eraseDevice manipulator deviceId)
  made record isRecord := by
    obtain ⟨earlier, isEarlier, ⟨rfl, -⟩ | ⟨rfl, -⟩⟩ := mem_of_eraseDevice isRecord
    · exact sound.made record isEarlier
    · exact sound.made earlier isEarlier
  records record isRecord := by
    obtain ⟨earlier, isEarlier, ⟨rfl, -⟩ | ⟨rfl, -⟩⟩ := mem_of_eraseDevice isRecord
    · exact sound.records record isEarlier
    · have before := sound.records earlier isEarlier
      have fewer : ∀ fromEvent ∈ (withoutDevice earlier deviceId).current.fromEvents,
          fromEvent ∈ earlier.current.fromEvents :=
        fun _ member => (List.mem_filter.mp member).1
      refine ⟨?_, fun fromEvent member => ?_, fun fromEvent member => ?_, before.discharged,
        before.keepsReleases⟩
      · unfold withoutDevice
        simp
      · exact before.tested fromEvent (fewer fromEvent member)
      · exact before.own fromEvent (fewer fromEvent member)
  held := (narrows_eraseDevice manipulator deviceId).held sound.held
  pending task isPending record isRecord own := by
    obtain ⟨earlier, isEarlier, ⟨rfl, -⟩ | ⟨rfl, -⟩⟩ := mem_of_eraseDevice isRecord
    · exact sound.pending task isPending record isEarlier own
    · exact sound.pending task isPending earlier isEarlier own

/-- No key of the device is held any more. -/
theorem not_mem_keys_eraseDevice {got : List Entry} (sound : manipulator.Sound got)
    {fromEvent : FromEvent} (member : fromEvent ∈ (manipulator.eraseDevice deviceId).keys) :
    fromEvent.deviceId ≠ deviceId := by
  obtain ⟨record, isRecord, held⟩ := mem_keys.mp member
  obtain ⟨earlier, isEarlier, ⟨rfl, notListed⟩ | ⟨rfl, -⟩⟩ := mem_of_eraseDevice isRecord
  · rw [sound.holdsOwn.unlisted record isEarlier notListed] at held
    cases held
  · have kept := (List.mem_filter.mp held).2
    simpa using kept

end EraseDevice

/-! ## An entry that was handled -/

/-- The entry is added to what was handled since the records were made. -/
def note (manipulator : TimedBasic) (entry : Entry) : TimedBasic :=
  { manipulator with
    records := manipulator.records.map fun record =>
      { record with since := record.since ++ [entry] } }

/-- A further entry keeps the manipulator sound, if it releases no key of a record that is still
watched. -/
theorem Sound.note {got : List Entry} {manipulator : TimedBasic} (sound : manipulator.Sound got)
    {entry : Entry} (keeps : ∀ record ∈ manipulator.records, manipulator.Watches record →
      ∀ fromEvent ∈ record.current.fromEvents, ¬entry.LetsGo fromEvent) :
    (manipulator.note entry).Sound got where
  distinct := by
    unfold Distinct TimedBasic.note
    rw [List.map_map]
    exact sound.distinct
  made record isRecord := by
    obtain ⟨earlier, isEarlier, rfl⟩ := List.mem_map.mp isRecord
    exact sound.made earlier isEarlier
  records record isRecord := by
    obtain ⟨earlier, isEarlier, rfl⟩ := List.mem_map.mp isRecord
    have before := sound.records earlier isEarlier
    exact ⟨before.listed_iff, before.tested, before.own, before.discharged, before.keepsReleases⟩
  held record isRecord watches fromEvent member gone := by
    obtain ⟨earlier, isEarlier, rfl⟩ := List.mem_map.mp isRecord
    rcases letGo_append.mp gone with earlierGone | ⟨_, isEntry, nowGone⟩
    · exact sound.held earlier isEarlier watches fromEvent member earlierGone
    · obtain rfl := List.mem_singleton.mp isEntry
      exact keeps earlier isEarlier watches fromEvent member nowGone
  pending task isPending record isRecord own := by
    obtain ⟨earlier, isEarlier, rfl⟩ := List.mem_map.mp isRecord
    exact sound.pending task isPending earlier isEarlier own

/-! ## What the held-down timer has posted -/

/-- A record that keeps the releases of what the held-down timer has posted for it. -/
structure KeepsFor (posted : List Entry) (keys : List FromEvent) (since : List Entry)
    (record : SharedRecord) : Prop where
  listed : record.listed = true
  heldDown : record.heldDown = true
  keys : record.keys = keys
  since : record.since = since
  balanced : Balanced ((posted.map Entry.sent ++
    record.current.eventsAtKeyUp.map EventAtKeyUp.sent).filterMap Sent.stroke)

/-- A manipulator has such a record. -/
def Owes (posted : List Entry) (keys : List FromEvent) (since : List Entry)
    (manipulator : TimedBasic) : Prop :=
  ∃ record ∈ manipulator.records, KeepsFor posted keys since record

/-- The releases were posted after what was there. -/
def Settled (posted got all : List Entry) : Prop :=
  ∃ released, (got ++ released).Subperm all ∧
    Balanced ((posted ++ released).filterMap fun entry => entry.sent.stroke)

section Owes

variable {posted : List Entry} {keys : List FromEvent} {since : List Entry}

theorem KeepsFor.sameDebt {before after : SharedRecord} (keeps : KeepsFor posted keys since before)
    (same : SameDebt before after) : KeepsFor posted keys since after where
  listed := same.listed.trans keeps.listed
  heldDown := same.heldDown.trans keeps.heldDown
  keys := same.keys.trans keeps.keys
  since := same.since.trans keeps.since
  balanced := by
    rw [same.eventsAtKeyUp]
    exact keeps.balanced

theorem Owes.quiet {before after : TimedBasic} (owes : Owes posted keys since before)
    (quiet : Quiet before after) : Owes posted keys since after := by
  obtain ⟨record, isRecord, keeps⟩ := owes
  obtain ⟨later, isLater, same⟩ := quiet.kept record isRecord keeps.listed
  exact ⟨later, isLater, keeps.sameDebt same⟩

theorem Owes.note {manipulator : TimedBasic} (owes : Owes posted keys since manipulator)
    (entry : Entry) : Owes posted keys (since ++ [entry]) (manipulator.note entry) := by
  obtain ⟨record, isRecord, keeps⟩ := owes
  exact ⟨_, List.mem_map_of_mem isRecord, keeps.listed, keeps.heldDown, keeps.keys,
    congrArg (· ++ [entry]) keeps.since, keeps.balanced⟩

/-- What was posted is answered by entries that have what the record kept. -/
theorem KeepsFor.answered {record : SharedRecord} (keeps : KeepsFor posted keys since record)
    {released : List Entry}
    (isReleased : released.map Entry.sent =
      record.current.eventsAtKeyUp.map EventAtKeyUp.sent) :
    Balanced ((posted ++ released).filterMap fun entry => entry.sent.stroke) := by
  have balanced := keeps.balanced
  rw [← isReleased, ← List.map_append, List.filterMap_map] at balanced
  exact balanced

/-- Nothing is kept, so nothing is missing. -/
theorem KeepsFor.settled {record : SharedRecord} (keeps : KeepsFor posted keys since record)
    (none : record.current.eventsAtKeyUp = []) {got all : List Entry} (subperm : got.Subperm all) :
    Settled posted got all := by
  refine ⟨[], ?_, keeps.answered ?_⟩
  · rw [List.append_nil]
    exact subperm
  · rw [none]
    rfl

theorem Settled.mono {got all less more : List Entry} (settled : Settled posted got all)
    (earlier : less.Subperm got) (later : all.Subperm more) : Settled posted less more := by
  obtain ⟨released, isPosted, balanced⟩ := settled
  exact ⟨released, ((earlier.append (.refl released)).trans isPosted).trans later, balanced⟩

theorem Settled.append {got all : List Entry} (settled : Settled posted got all)
    (consumed : List Entry) : Settled posted (consumed ++ got) (consumed ++ all) := by
  obtain ⟨released, isPosted, balanced⟩ := settled
  refine ⟨released, ?_, balanced⟩
  rw [List.append_assoc]
  exact (List.Subperm.refl consumed).append isPosted

/-- A record without the keys of the device still waits, unless it was to release what the timer
has posted. -/
theorem Owes.eraseDevice {manipulator : TimedBasic} (owes : Owes posted keys since manipulator)
    {deviceId : DeviceId}
    (others : ∀ record ∈ manipulator.records, record.listed = true → record.heldDown = true →
      record.current.eventsAtKeyUp ≠ [] →
        (record.current.eraseFromEventsByDeviceId deviceId).fromEvents ≠ []) (got : List Entry) :
    Owes posted keys since (manipulator.eraseDevice deviceId) ∨ Settled posted got got := by
  obtain ⟨record, isRecord, keeps⟩ := owes
  by_cases nothing : record.current.eventsAtKeyUp = []
  · exact .inr (keeps.settled nothing (.refl got))
  · have waits := others record isRecord keeps.listed keeps.heldDown nothing
    refine .inl ⟨_, withoutDevice_mem_eraseDevice isRecord keeps.listed waits, ?_⟩
    refine ⟨?_, keeps.heldDown, keeps.keys, keeps.since, keeps.balanced⟩
    unfold withoutDevice
    simpa using waits

/-- A record that gives up a key keeps the releases, or they are posted. -/
theorem Owes.giveUp {noted : TimedBasic} (owes : Owes posted keys since noted)
    (distinct : noted.Distinct) {record : SharedRecord} (isRecord : record ∈ noted.records)
    {current : ManipulatedOriginalEvent} {front : Entry} {before after : List Entry}
    (gives : GivesUp front record.current current before after) :
    Owes posted keys since (noted.giveUp record current) ∨ Settled posted before after := by
  obtain ⟨other, isOther, keeps⟩ := owes
  by_cases same : other.identity = record.identity
  · obtain rfl := distinct.eq isOther isRecord same
    rcases gives.settles with ⟨kept, waits⟩ | ⟨-, released, isReleased, isPosted⟩
    · left
      refine ⟨givenUp other current, givenUp_mem_giveUp isRecord waits, ?_⟩
      refine ⟨?_, keeps.heldDown, keeps.keys, keeps.since, ?_⟩
      · unfold givenUp
        simpa using waits
      · change Balanced ((posted.map Entry.sent ++
          current.eventsAtKeyUp.map EventAtKeyUp.sent).filterMap Sent.stroke)
        rw [kept]
        exact keeps.balanced
    · exact .inr ⟨released, isPosted.subperm, keeps.answered isReleased⟩
  · exact .inl ⟨other, mem_giveUp_of_other isOther same keeps.listed, keeps⟩

/-- What a manipulator owes is still accounted for after it has handled an entry. -/
theorem Owes.handles {manipulator : TimedBasic} (owes : Owes posted keys since manipulator)
    {got : List Entry} (sound : manipulator.Sound got) {front : Entry} {rest : List Entry}
    {output : EventQueue} {answer : ManipulateResult × TimedBasic × Entry × EventQueue}
    (handles : Handles manipulator front rest output answer) :
    Owes posted keys since answer.2.1 ∨
      Settled posted output.events answer.2.2.2.events := by
  cases handles with
  | passes quiet => exact .inl (owes.quiet quiet)
  | claims _ quiet _ _ makes =>
      obtain ⟨current, -, records⟩ := makes.records
      obtain ⟨record, isRecord, keeps⟩ := owes.quiet quiet
      refine .inl ⟨record, ?_, keeps⟩
      rw [records]
      exact List.mem_append_left _ isRecord
  | releases _ quiet isRecord _ gives =>
      have noted := sound.quiet quiet
      exact (owes.quiet quiet).giveUp noted.distinct isRecord
        (gives (noted.records _ isRecord).discharged)

/-- A manipulator that handles an entry stays sound, with the entry among those it has been given.
-/
theorem Sound.handles {got : List Entry} {manipulator : TimedBasic}
    (sound : manipulator.Sound got) {front : Entry} {rest : List Entry} {output : EventQueue}
    {answer : ManipulateResult × TimedBasic × Entry × EventQueue}
    (handles : Handles manipulator front rest output answer) {all : List Entry}
    (earlier : got ⊆ all) (posted : answer.2.2.2.events ⊆ all) : answer.2.1.Sound all := by
  cases handles with
  | passes quiet => exact (sound.quiet quiet).mono earlier
  | claims _ quiet _ isClaimed makes =>
      have noted := (sound.quiet quiet).mono earlier
      apply noted.makesRecord (List.ne_nil_of_mem isClaimed.own) ?_ (makes.mono posted)
      rw [quiet.basic]
      exact isClaimed.tested
  | releases _ quiet isRecord _ gives =>
      have noted := sound.quiet quiet
      exact (noted.giveUp isRecord (gives (noted.records _ isRecord).discharged)).mono earlier

/-- Handling an entry only appends to the output queue. -/
theorem grows_of_handles {manipulator : TimedBasic} {got : List Entry}
    (sound : manipulator.Sound got) {front : Entry} {rest : List Entry} {output : EventQueue}
    {answer : ManipulateResult × TimedBasic × Entry × EventQueue}
    (handles : Handles manipulator front rest output answer) :
    output.events <+: answer.2.2.2.events := by
  cases handles with
  | passes _ _ grows => exact grows
  | claims _ _ grows => exact grows
  | releases _ quiet isRecord _ gives =>
      exact (gives ((sound.quiet quiet).records _ isRecord).discharged).grows

end Owes

/-! ## The loop of the manager -/

section Loop

variable [ExpressionLibrary] [MachTimebase]

omit [ExpressionLibrary] [MachTimebase] in
/-- The keys that the records of all manipulators hold. -/
def allKeys (manipulators : List TimedBasic) : List FromEvent := manipulators.flatMap keys

/-- What became of a manipulator in the loop: it was called, or the loop was left before. -/
def Called (eventType : EventType) (rest : List Entry) (before final : List Entry)
    (manipulator after : TimedBasic) : Prop :=
  after = manipulator ∨ ∃ front output answer, front.eventType = eventType ∧
    Handles manipulator front rest output answer ∧ answer.2.1 = after ∧
    before <+: output.events ∧ answer.2.2.2.events <+: final

omit [ExpressionLibrary] [MachTimebase] in
theorem eventType_of_handles {manipulator : TimedBasic} {front : Entry} {rest : List Entry}
    {output : EventQueue} {answer : ManipulateResult × TimedBasic × Entry × EventQueue}
    (handles : Handles manipulator front rest output answer) :
    answer.2.2.1.eventType = front.eventType := by
  cases handles with
  | passes _ same => exact same.eventType
  | claims _ _ _ _ _ sameType => exact sameType
  | releases => rfl

/-- Every manipulator is called with what the ones before it have posted. -/
theorem called_manipulateEach (rest : List Entry) (input : EventQueue) (now : Int)
    {got : List Entry} {manipulators : List TimedBasic}
    (sound : ∀ manipulator ∈ manipulators, manipulator.Sound got) (front : Entry)
    (output : EventQueue) :
    let result := Stage.manipulateEach rest input now manipulators front output
    output.events <+: result.output.events ∧
      List.Forall₂ (Called front.eventType rest output.events result.output.events) manipulators
        result.manipulators := by
  induction manipulators generalizing front output with
  | nil => exact ⟨List.prefix_refl _, .nil⟩
  | cons manipulator others ih =>
      obtain ⟨own, othersSound⟩ := List.forall_mem_cons.mp sound
      have handles := handles_manipulate own.holdsOwn front rest input output now
      have grows := grows_of_handles own handles
      have sameType := eventType_of_handles handles
      generalize answer : manipulator.manipulate front { input with events := front :: rest }
        output now = outcome at handles grows sameType
      obtain ⟨result, changed, delayed, posted⟩ := outcome
      by_cases running : result = .needsWaitUntilTimeStamp
      · subst running
        rw [Stage.manipulateEach_waits answer]
        refine ⟨grows, .cons (.inr ⟨front, output, _, rfl, handles, rfl, List.prefix_refl _,
          List.prefix_refl _⟩) ?_⟩
        exact List.forall₂_same.mpr fun _ _ => .inl rfl
      · obtain ⟨later, called⟩ := ih othersSound delayed posted
        rw [Stage.manipulateEach_cons running answer]
        refine ⟨grows.trans later, .cons (.inr ⟨front, output, _, rfl, handles, rfl,
          List.prefix_refl _, later⟩) ?_⟩
        refine called.imp fun before after outcome => ?_
        rcases outcome with same | ⟨entry, queue, answer, type, handles, isAfter, start, final⟩
        · exact .inl same
        · exact .inr ⟨entry, queue, answer, type.trans sameType, handles, isAfter,
            grows.trans start, final⟩

omit [ExpressionLibrary] [MachTimebase] in
/-- A key_up makes no record and starts no timer. -/
theorem narrows_of_handles {manipulator : TimedBasic} {got : List Entry}
    (sound : manipulator.Sound got) {front : Entry} (isKeyUp : front.eventType = .keyUp)
    {rest : List Entry} {output : EventQueue}
    {answer : ManipulateResult × TimedBasic × Entry × EventQueue}
    (handles : Handles manipulator front rest output answer) : Narrows manipulator answer.2.1 := by
  cases handles with
  | passes quiet => exact quiet.narrows
  | claims isKeyDown =>
      rw [isKeyUp] at isKeyDown
      cases isKeyDown
  | releases _ quiet isRecord _ gives =>
      have noted := sound.quiet quiet
      exact quiet.narrows.trans (narrows_giveUp noted.distinct isRecord
        (gives (noted.records _ isRecord).discharged))

/-- No record holds the key of a key_up any more that one record held. -/
theorem not_mem_keys_of_keyUp (rest : List Entry) (input : EventQueue) (now : Int)
    {got : List Entry} {manipulators : List TimedBasic}
    (sound : ∀ manipulator ∈ manipulators, manipulator.Sound got) {front : Entry}
    (isKeyUp : front.eventType = .keyUp)
    (once : (allKeys manipulators).count front.fromEvent ≤ 1)
    (held : front.fromEvent ∈ allKeys manipulators → front.validity = .valid)
    (output : EventQueue) :
    front.fromEvent ∉ allKeys (Stage.manipulateEach rest input now manipulators front
      output).manipulators := by
  induction manipulators generalizing front output with
  | nil => exact List.not_mem_nil
  | cons manipulator others ih =>
      obtain ⟨own, othersSound⟩ := List.forall_mem_cons.mp sound
      have split : ∀ list : List TimedBasic, ∀ first : TimedBasic,
          allKeys (first :: list) = first.keys ++ allKeys list := fun _ _ => rfl
      rw [split] at once held
      rw [List.count_append] at once
      have handles := handles_manipulate own.holdsOwn front rest input output now
      generalize answer : manipulator.manipulate front { input with events := front :: rest }
        output now = outcome at handles
      cases handles with
      | @passes result after delayed posted quiet same _ waits notHeld =>
          have running : result ≠ .needsWaitUntilTimeStamp := by
            intro waiting
            have isKeyDown := (waits waiting).1
            rw [isKeyUp] at isKeyDown
            cases isKeyDown
          rw [Stage.manipulateEach_cons running answer, split, List.mem_append, not_or]
          constructor
          · intro member
            have before : front.fromEvent ∈ manipulator.keys := quiet.keys.subset member
            exact notHeld (held (List.mem_append_left _ before)) isKeyUp member
          · rw [← same.fromEvent] at once held ⊢
            apply ih othersSound (same.eventType.trans isKeyUp) (by omega)
            intro later
            exact same.validity.trans (held (List.mem_append_right _ later))
      | claims isKeyDown =>
          rw [isKeyUp] at isKeyDown
          cases isKeyDown
      | @releases noted posted record current _ quiet isRecord isHeld gives =>
          have sent := own.quiet quiet
          have givesUp := gives (sent.records _ isRecord).discharged
          have inNoted : 0 < noted.keys.count front.fromEvent :=
            List.count_pos_iff.mpr (mem_keys.mpr ⟨record, isRecord, isHeld⟩)
          have fewer := quiet.keys.count_le front.fromEvent
          rw [Stage.manipulateEach_cons (by simp) answer, split, List.mem_append, not_or]
          constructor
          · exact not_mem_keys_giveUp sent.distinct (by omega) isRecord isHeld givesUp.fromEvents
          · let taken : Entry := { front with validity := .invalid }
            have takenKeyUp : taken.eventType = .keyUp := isKeyUp
            have notInOthers : (allKeys others).count taken.fromEvent = 0 := by
              change (allKeys others).count front.fromEvent = 0
              omega
            apply ih othersSound takenKeyUp (by omega)
            exact fun later => absurd later (List.count_eq_zero.mp notInOthers)

/-- An entry that waits was not taken. -/
theorem valid_of_waits (rest : List Entry) (input : EventQueue) (now : Int) {got : List Entry}
    {manipulators : List TimedBasic} (sound : ∀ manipulator ∈ manipulators, manipulator.Sound got)
    (front : Entry) (output : EventQueue)
    (waiting : (Stage.manipulateEach rest input now manipulators front output).waits = true) :
    (Stage.manipulateEach rest input now manipulators front output).front.validity = .valid := by
  induction manipulators generalizing front output with
  | nil => cases waiting
  | cons manipulator others ih =>
      obtain ⟨own, othersSound⟩ := List.forall_mem_cons.mp sound
      have handles := handles_manipulate own.holdsOwn front rest input output now
      generalize answer : manipulator.manipulate front { input with events := front :: rest }
        output now = outcome at handles
      obtain ⟨result, changed, delayed, posted⟩ := outcome
      by_cases running : result = .needsWaitUntilTimeStamp
      · subst running
        rw [Stage.manipulateEach_waits answer]
        cases handles with
        | passes _ same _ waits => exact same.validity.trans (waits rfl).2
      · rw [Stage.manipulateEach_cons running answer] at waiting ⊢
        exact ih othersSound delayed posted waiting

end Loop

end TimedBasic

end Karabiner
