import Karabiner.Basic.Loop
import Karabiner.Basic.RecordLife
import Karabiner.Basic.TimerTasks

/-! # What a call does to the records

A call of a basic manipulator with timers changes at most one record: a key_down may add one, and
a key_up may take its key from one. All other records stay as they are in everything that is held
or owed (`TimedBasic.Quiet`), whatever the delayed action posts for them.
-/

namespace Karabiner

namespace SharedRecord

/-- A record holds and owes the same. -/
structure SameDebt (before after : SharedRecord) : Prop where
  identity : after.identity = before.identity
  listed : after.listed = before.listed
  keys : after.keys = before.keys
  since : after.since = before.since
  heldDown : after.heldDown = before.heldDown
  fromEvents : after.current.fromEvents = before.current.fromEvents
  eventsAtKeyUp : after.current.eventsAtKeyUp = before.current.eventsAtKeyUp
  keyUpPosted : after.current.keyUpPosted = before.current.keyUpPosted
  liftedModifiers : after.current.liftedModifiers = before.current.liftedModifiers

theorem SameDebt.refl (record : SharedRecord) : SameDebt record record :=
  ⟨rfl, rfl, rfl, rfl, rfl, rfl, rfl, rfl, rfl⟩

theorem SameDebt.trans {first second third : SharedRecord} (one : SameDebt first second)
    (two : SameDebt second third) : SameDebt first third where
  identity := two.identity.trans one.identity
  listed := two.listed.trans one.listed
  keys := two.keys.trans one.keys
  since := two.since.trans one.since
  heldDown := two.heldDown.trans one.heldDown
  fromEvents := two.fromEvents.trans one.fromEvents
  eventsAtKeyUp := two.eventsAtKeyUp.trans one.eventsAtKeyUp
  keyUpPosted := two.keyUpPosted.trans one.keyUpPosted
  liftedModifiers := two.liftedModifiers.trans one.liftedModifiers

theorem sameDebt_unsetAlone (record : SharedRecord) :
    SameDebt record { record with current := record.current.unsetAlone } :=
  ⟨rfl, rfl, rfl, rfl, rfl, rfl, rfl, rfl, rfl⟩

variable [ExpressionLibrary] [MachTimebase]

/-- A delayed action takes nothing from the record. -/
theorem sameDebt_postDelayedAction (record : SharedRecord) (output : EventQueue) (front : Entry)
    (toEvents : List ToEventDefinition) :
    SameDebt record { record with
      current := (Sending.postDelayedAction ⟨output, 0, record.current⟩ front
        toEvents).current } := by
  generalize start : (⟨output, 0, record.current⟩ : Sending) = sending
  have same : record.current = sending.current := by rw [← start]
  unfold Sending.postDelayedAction Sending.withKeyDownModifierFlags
  dsimp only
  rw [(Sending.sends_postActiveModifierFlags _ _ _).2, Sending.current_postLazyModifierKeyEvents]
  generalize reached : Sending.postLazyModifierKeyEvents (Sending.postActiveModifierFlags _ _ _)
    _ _ _ = inside
  have entered : inside.current = record.current := by
    rw [← reached, Sending.current_postLazyModifierKeyEvents,
      (Sending.sends_postActiveModifierFlags _ _ _).2, same]
  obtain ⟨extra, kept⟩ := Sending.sends_postExtraToEvents inside front toEvents
  have lifted := ManipulatedOriginalEvent.liftedModifiers_congr
    (Sending.mandatory_sendFiltered inside front toEvents fun filtered =>
      Sending.mandatory_foldl (Sending.mandatory_postExtraToEvent front) filtered)
  refine ⟨rfl, rfl, rfl, rfl, rfl, ?_, ?_, ?_, ?_⟩
  · exact (congrArg Prod.fst extra.keys).trans (by rw [entered]; rfl)
  · exact kept.trans (by rw [entered])
  · exact (congrArg (·.2.1) extra.keys).trans (by rw [entered])
  · exact lifted.trans (by rw [entered])

end SharedRecord

namespace TimedBasic

open SharedRecord (SameDebt)

/-- The keys that the records hold. -/
def keys (manipulator : TimedBasic) : List FromEvent :=
  manipulator.records.flatMap fun record => record.current.fromEvents

/-- No two records have the same identity. -/
def Distinct (manipulator : TimedBasic) : Prop :=
  (manipulator.records.map SharedRecord.identity).Nodup

theorem mem_keys {manipulator : TimedBasic} {fromEvent : FromEvent} :
    fromEvent ∈ manipulator.keys ↔
      ∃ record ∈ manipulator.records, fromEvent ∈ record.current.fromEvents :=
  List.mem_flatMap

theorem Distinct.eq {manipulator : TimedBasic} (distinct : manipulator.Distinct)
    {one other : SharedRecord} (isRecord : one ∈ manipulator.records)
    (isOther : other ∈ manipulator.records) (same : one.identity = other.identity) :
    one = other :=
  List.inj_on_of_nodup_map distinct isRecord isOther same

theorem lock_eq_some {manipulator : TimedBasic} {identity : Nat} {record : SharedRecord}
    (found : manipulator.lock identity = some record) :
    record ∈ manipulator.records ∧ record.identity = identity := by
  have isSame := List.find?_some found
  exact ⟨List.mem_of_find?_eq_some found, by simpa using isSame⟩

/-- Nothing is taken from a record and none is made. Records that are not listed may be gone, and
the held-down timer may have been stopped. -/
structure Quiet (before after : TimedBasic) : Prop where
  basic : after.basic.from_ = before.basic.from_
  made : after.made = before.made
  identities : (after.records.map SharedRecord.identity).Sublist
    (before.records.map SharedRecord.identity)
  keys : after.keys.Sublist before.keys
  known : ∀ record ∈ after.records, ∃ earlier ∈ before.records, SameDebt earlier record
  kept : ∀ record ∈ before.records, record.listed = true →
    ∃ later ∈ after.records, SameDebt record later
  pending : ∀ task, after.pendingHeldDown = some task → before.pendingHeldDown = some task

namespace Quiet

variable {before middle after : TimedBasic}

theorem refl (manipulator : TimedBasic) : Quiet manipulator manipulator where
  basic := rfl
  made := rfl
  identities := .refl _
  keys := .refl _
  known record member := ⟨record, member, .refl record⟩
  kept record member _ := ⟨record, member, .refl record⟩
  pending _ isPending := isPending

/-- Quiet calls compose: neither of them changes a record beyond the delayed action. -/
theorem trans (one : Quiet before middle) (two : Quiet middle after) : Quiet before after where
  basic := two.basic.trans one.basic
  made := two.made.trans one.made
  identities := two.identities.trans one.identities
  keys := two.keys.trans one.keys
  known record member := by
    obtain ⟨between, isBetween, later⟩ := two.known record member
    obtain ⟨earlier, isEarlier, same⟩ := one.known between isBetween
    exact ⟨earlier, isEarlier, same.trans later⟩
  kept record member listed := by
    obtain ⟨between, isBetween, same⟩ := one.kept record member listed
    obtain ⟨later, isLater, more⟩ := two.kept between isBetween (same.listed.trans listed)
    exact ⟨later, isLater, same.trans more⟩
  pending task isPending := one.pending task (two.pending task isPending)

/-- Each record is changed by itself. -/
theorem of_map {changed : SharedRecord → SharedRecord}
    (same : ∀ record ∈ before.records, SameDebt record (changed record))
    (basic : after.basic.from_ = before.basic.from_) (made : after.made = before.made)
    (records : after.records = before.records.map changed)
    (pending : ∀ task, after.pendingHeldDown = some task →
      before.pendingHeldDown = some task) : Quiet before after where
  basic := basic
  made := made
  identities := by
    have identities : after.records.map SharedRecord.identity =
        before.records.map SharedRecord.identity := by
      rw [records, List.map_map]
      exact List.map_congr_left fun record member => (same record member).identity
    rw [identities]
  keys := by
    have keys : after.keys = before.keys := by
      unfold TimedBasic.keys
      rw [records, List.flatMap_map]
      exact List.flatMap_congr fun record member => (same record member).fromEvents
    rw [keys]
  known record member := by
    rw [records] at member
    obtain ⟨earlier, isEarlier, rfl⟩ := List.mem_map.mp member
    exact ⟨earlier, isEarlier, same earlier isEarlier⟩
  kept record member _ :=
    ⟨changed record, records ▸ List.mem_map_of_mem member, same record member⟩
  pending := pending

/-- The tasks are changed only. -/
theorem of_records (basic : after.basic.from_ = before.basic.from_)
    (made : after.made = before.made) (records : after.records = before.records)
    (pending : ∀ task, after.pendingHeldDown = some task →
      before.pendingHeldDown = some task) : Quiet before after :=
  of_map (fun record _ => .refl record) basic made
    (records.trans (List.map_id before.records).symm) pending

end Quiet

/-- Records that are not listed are dropped. -/
theorem quiet_filter (manipulator : TimedBasic) {keeps : SharedRecord → Bool}
    (listed : ∀ record : SharedRecord, record.listed = true → keeps record = true) :
    Quiet manipulator { manipulator with records := manipulator.records.filter keeps } where
  basic := rfl
  made := rfl
  identities := List.filter_sublist.map _
  keys := List.filter_sublist.flatMap _
  known record member := ⟨record, (List.mem_filter.mp member).1, .refl record⟩
  kept record member isListed :=
    ⟨record, List.mem_filter.mpr ⟨member, listed record isListed⟩, .refl record⟩
  pending _ isPending := isPending

theorem keepsAlive_of_listed (manipulator : TimedBasic) (record : SharedRecord)
    (listed : record.listed = true) : manipulator.keepsAlive record = true := by
  simp [keepsAlive, listed]

theorem quiet_collect (manipulator : TimedBasic) : Quiet manipulator manipulator.collect :=
  manipulator.quiet_filter manipulator.keepsAlive_of_listed

theorem quiet_changeListed (manipulator : TimedBasic) {changed : SharedRecord → SharedRecord}
    (same : ∀ record, SameDebt record (changed record)) :
    Quiet manipulator (manipulator.changeListed changed) := by
  refine Quiet.of_map (fun record _ => ?_) rfl rfl rfl fun _ isPending => isPending
  split
  · exact same record
  · exact .refl record

theorem quiet_unsetAloneIfNeeded (manipulator : TimedBasic) (event : Event)
    (eventType : EventType) :
    Quiet manipulator (manipulator.unsetAloneIfNeeded event eventType) := by
  unfold unsetAloneIfNeeded
  split
  · exact manipulator.quiet_changeListed SharedRecord.sameDebt_unsetAlone
  · exact .refl manipulator

@[simp] theorem pendingHeldDown_stopHeldDown (manipulator : TimedBasic) :
    manipulator.stopHeldDown.pendingHeldDown = none := by
  unfold pendingHeldDown stopHeldDown
  cases manipulator.toIfHeldDown with
  | none => rfl
  | some heldDown => rfl

theorem quiet_stopHeldDown (manipulator : TimedBasic) :
    Quiet manipulator manipulator.stopHeldDown := by
  apply Quiet.of_records
  · rfl
  · rfl
  · rfl
  · intro task isPending
    rw [pendingHeldDown_stopHeldDown] at isPending
    cases isPending

theorem quiet_cancelHeldDown (manipulator : TimedBasic) (front : Entry) :
    Quiet manipulator (manipulator.cancelHeldDown front) := by
  unfold cancelHeldDown
  split
  · exact manipulator.quiet_stopHeldDown
  · exact .refl manipulator

variable [ExpressionLibrary] [MachTimebase]

/-- Posting the delayed events changes no record's debt and only appends to the output queue. -/
theorem quiet_postDelayedEvents {manipulator : TimedBasic} (distinct : manipulator.Distinct)
    (delayed : ToDelayedAction) (toEvents : List ToEventDefinition) (output : EventQueue) :
    Quiet manipulator (manipulator.postDelayedEvents delayed toEvents output).1 ∧
      output.events <+: (manipulator.postDelayedEvents delayed toEvents output).2.events := by
  unfold postDelayedEvents
  dsimp only
  have released : Quiet manipulator { manipulator with
      toDelayedAction := some { delayed with
        current := none
        task := none } } :=
    Quiet.of_records rfl rfl rfl fun _ isPending => isPending
  split
  case h_1 front record _ found =>
    obtain ⟨identity, -, isLocked⟩ := Option.bind_eq_some_iff.mp found
    obtain ⟨isRecord, -⟩ := lock_eq_some isLocked
    constructor
    · refine Quiet.trans ?_ (quiet_collect _)
      refine Quiet.of_map (fun other isOther => ?_) rfl rfl rfl fun _ isPending => isPending
      split
      · rename_i same
        obtain rfl := distinct.eq isOther isRecord same
        exact other.sameDebt_postDelayedAction output front toEvents
      · exact .refl other
    · obtain ⟨entries, events, -⟩ :=
        Sending.settles_postDelayedAction ⟨output, 0, record.current⟩ front toEvents
      exact ⟨entries, events.symm⟩
  case h_2 => exact ⟨released.trans (quiet_collect _), List.prefix_refl _⟩

theorem quiet_cancelDelayedAction {manipulator : TimedBasic} (distinct : manipulator.Distinct)
    (front : Entry) (output : EventQueue) :
    Quiet manipulator (manipulator.cancelDelayedAction front output).1 ∧
      output.events <+: (manipulator.cancelDelayedAction front output).2.events := by
  unfold cancelDelayedAction
  split
  · split
    · exact quiet_postDelayedEvents distinct _ _ output
    · exact ⟨.refl manipulator, List.prefix_refl _⟩
  · exact ⟨.refl manipulator, List.prefix_refl _⟩

theorem quiet_fireDelayedAction {manipulator : TimedBasic} (distinct : manipulator.Distinct)
    (output : EventQueue) (now : Int) :
    Quiet manipulator (manipulator.fireDelayedAction output now).1 ∧
      output.events <+: (manipulator.fireDelayedAction output now).2.events := by
  unfold fireDelayedAction
  split
  · split
    · exact quiet_postDelayedEvents distinct _ _ output
    · exact ⟨.refl manipulator, List.prefix_refl _⟩
  · exact ⟨.refl manipulator, List.prefix_refl _⟩

omit [ExpressionLibrary] [MachTimebase] in
theorem Quiet.distinct {before after : TimedBasic} (quiet : Quiet before after)
    (distinct : before.Distinct) : after.Distinct :=
  distinct.sublist quiet.identities

/-- The start of a call. -/
theorem quiet_cancelTimers {manipulator : TimedBasic} (distinct : manipulator.Distinct)
    (front : Entry) (output : EventQueue) :
    Quiet manipulator (manipulator.cancelTimers front output).1 ∧
      output.events <+: (manipulator.cancelTimers front output).2.events := by
  have noted := (manipulator.quiet_unsetAloneIfNeeded front.event front.eventType).trans
    (quiet_cancelHeldDown _ front)
  obtain ⟨canceled, grows⟩ := quiet_cancelDelayedAction (noted.distinct distinct) front output
  exact ⟨noted.trans canceled, grows⟩

/-! ## A record that is made -/

omit [ExpressionLibrary] [MachTimebase] in
/-- A modifier that the record has lifted was released in the queue for the device. -/
def LiftedIn (got : List Entry) (deviceId : DeviceId) (current : ManipulatedOriginalEvent) :
    Prop :=
  ∀ flag ∈ current.liftedModifiers, (MomentarySwitchEvent.ofModifierFlag flag).valid = true →
    modifierSent deviceId .keyUp (.ofModifierFlag flag) ∈ got.map Entry.sent

omit [ExpressionLibrary] [MachTimebase] in
/-- The releases that the record keeps press nothing. -/
def KeepsReleases (current : ManipulatedOriginalEvent) : Prop :=
  ∀ event ∈ current.eventsAtKeyUp, event.eventType ≠ .keyDown

omit [ExpressionLibrary] [MachTimebase] in
/-- A record for keys that were just taken. -/
structure Fresh (front : Entry) (keys : List FromEvent) (got : List Entry)
    (current : ManipulatedOriginalEvent) : Prop where
  fromEvents : current.fromEvents = keys
  keyUpPosted : current.keyUpPosted = false
  keepsReleases : KeepsReleases current
  lifted : LiftedIn got front.deviceId current

omit [ExpressionLibrary] [MachTimebase] in
/-- A list that is sent position by position keeps releases only. -/
theorem eventType_of_byPosition {deviceId : DeviceId} {definitions : List ToEventDefinition}
    {posted kept : List Sent} (byPosition : ByPosition deviceId definitions posted kept) :
    ∀ sent ∈ kept, sent.eventType ≠ .keyDown := by
  induction byPosition with
  | nil => exact fun _ member => absurd member List.not_mem_nil
  | last definition released kept split =>
      intro sent member
      apply Sent.eventType_of_mem_releases
      exact split.subset (List.mem_append_right released member)
  | cons definition more others ih => exact ih

/-- A list adds releases to those that the record keeps. -/
theorem keepsReleases_postEventsAtKeyDown {sending : Sending} (front : Entry)
    (toEvents : List ToEventDefinition) (keeps : KeepsReleases sending.current) :
    KeepsReleases (sending.postEventsAtKeyDown front toEvents).current := by
  cases halted : sending.current.halted with
  | true =>
      have idle : sending.postEventsAtKeyDown front toEvents = sending :=
        Sending.sendFiltered_of_halted halted front toEvents _
      rw [idle]
      exact keeps
  | false =>
      obtain ⟨posted, kept, byPosition, -, events, own, rfl⟩ :=
        sending.emits_postEventsAtKeyDown front toEvents halted
      unfold KeepsReleases
      rw [own]
      refine List.forall_mem_append.mpr ⟨keeps, fun event member => ?_⟩
      have isKept : event.sent ∈ events.map EventAtKeyUp.sent := List.mem_map_of_mem member
      exact eventType_of_byPosition byPosition event.sent isKept

/-- What a list leaves of the mandatory modifiers and posts. -/
theorem liftedModifiers_postEventsAtKeyDown (sending : Sending) (front : Entry)
    (toEvents : List ToEventDefinition) :
    (sending.postEventsAtKeyDown front toEvents).current.liftedModifiers =
      sending.current.liftedModifiers :=
  ManipulatedOriginalEvent.liftedModifiers_congr (Sending.mandatory_sendFiltered sending front
    toEvents (Sending.mandatory_postEachAtKeyDown front))

omit [ExpressionLibrary] [MachTimebase] in
theorem LiftedIn.mono {got more : List Entry} {deviceId : DeviceId}
    {current : ManipulatedOriginalEvent} (lifted : LiftedIn got deviceId current)
    (subset : got ⊆ more) : LiftedIn more deviceId current := by
  intro flag isLifted isKey
  exact List.map_subset _ subset (lifted flag isLifted isKey)

omit [ExpressionLibrary] [MachTimebase] in
/-- If the entry is a key_down, its key_up has been posted. -/
def Answered (got : List Entry) (entry : Entry) : Prop :=
  entry.eventType = .keyDown →
    (⟨entry.deviceId, entry.event, .keyUp⟩ : Sent) ∈ got.map Entry.sent

omit [ExpressionLibrary] [MachTimebase] in
theorem Answered.mono {got more : List Entry} {entry : Entry} (answered : Answered got entry)
    (subset : got ⊆ more) : Answered more entry :=
  fun isKeyDown => List.map_subset _ subset (answered isKeyDown)

omit [MachTimebase] in
/-- Mandatory modifiers are released. -/
theorem lift_postFromMandatoryModifiersKeyUp {sending : Sending} {front : Entry}
    {got : List Entry} (lifted : LiftedIn got front.deviceId sending.current) :
    ∃ entries, (sending.postFromMandatoryModifiersKeyUp front).queue.events =
        sending.queue.events ++ entries ∧
      (∀ entry ∈ entries, Answered [] entry) ∧
      LiftedIn (got ++ entries) front.deviceId
        (sending.postFromMandatoryModifiersKeyUp front).current := by
  obtain ⟨entries, events, isSent, -⟩ :=
    (Sending.emits_postFromMandatoryModifiersKeyUp sending front).posted
  refine ⟨entries, events, fun entry member isKeyDown => ?_, fun flag isLifted isKey => ?_⟩
  · have posted : entry.sent ∈ entries.map Entry.sent := List.mem_map_of_mem member
    rw [isSent] at posted
    obtain ⟨flag, -, same⟩ := List.mem_map.mp posted
    have isUp := Sent.eventType_modifierSent_keyUp front.deviceId (.ofModifierFlag flag)
    rw [same] at isUp
    exact absurd isKeyDown isUp
  · rw [List.map_append, isSent, List.mem_append]
    unfold ManipulatedOriginalEvent.liftedModifiers at isLifted
    unfold Sending.postFromMandatoryModifiersKeyUp at isLifted
    dsimp only at isLifted
    rw [Sending.current_postLazyModifierKeyEvents, List.mem_filter] at isLifted
    have isNoted := of_decide_eq_true isLifted.2
    rcases List.mem_append.mp isNoted with earlier | now
    · left
      apply lifted flag
      · exact List.mem_filter.mpr ⟨isLifted.1, decide_eq_true earlier⟩
      · exact isKey
    · right
      exact List.mem_map.mpr ⟨flag, List.mem_filter.mpr ⟨now, isKey⟩, rfl⟩

omit [MachTimebase] in
/-- Mandatory modifiers are pressed again. -/
theorem restore_postFromMandatoryModifiersKeyDown {sending : Sending} {front : Entry}
    {got : List Entry} (lifted : LiftedIn got front.deviceId sending.current) :
    ∃ entries, (sending.postFromMandatoryModifiersKeyDown front).queue.events =
        sending.queue.events ++ entries ∧ ∀ entry ∈ entries, Answered got entry := by
  obtain ⟨entries, events, isSent, -⟩ :=
    (Sending.emits_postFromMandatoryModifiersKeyDown sending front).posted
  refine ⟨entries, events, fun entry member isKeyDown => ?_⟩
  have posted : entry.sent ∈ entries.map Entry.sent := List.mem_map_of_mem member
  rw [isSent] at posted
  obtain ⟨flag, isFlag, same⟩ := List.mem_map.mp posted
  obtain ⟨isLifted, isKey⟩ := List.mem_filter.mp isFlag
  have released := lifted flag isLifted isKey
  have sent : entry.sent = ⟨entry.deviceId, entry.event, .keyDown⟩ := by
    rw [← isKeyDown]
    rfl
  rw [sent] at same
  unfold modifierSent makeLazyModifierKeyEvent at same released
  cases capsLock : (MomentarySwitchEvent.ofModifierFlag flag).capsLock with
  | true =>
      rw [capsLock] at same
      have type := congrArg Sent.eventType same
      cases type
  | false =>
      rw [capsLock] at same released
      obtain ⟨isDevice, isEvent, -⟩ := Sent.mk.inj same
      exact isDevice ▸ isEvent ▸ released

omit [MachTimebase] in
theorem liftedIn_postFromMandatoryModifiersKeyDown (got : List Entry) (deviceId : DeviceId)
    (sending : Sending) (front : Entry) :
    LiftedIn got deviceId (sending.postFromMandatoryModifiersKeyDown front).current := by
  unfold LiftedIn
  rw [(Sending.sends_postFromMandatoryModifiersKeyDown sending front).2]
  exact fun _ member => absurd member List.not_mem_nil

/-- The parts of what is posted when a list is sent: the mandatory modifiers are released, the
list is posted, and the modifiers are pressed again. -/
theorem parts_pressToEvents {sending : Sending} {front : Entry} {got : List Entry}
    (toEvents : List ToEventDefinition)
    (lifted : LiftedIn got front.deviceId sending.current) :
    ∃ first last, (sending.pressToEvents front toEvents).queue.events = sending.queue.events ++
        first ++ (sending.postFromMandatoryModifiersKeyUp front).postedAtKeyDown front toEvents ++
          last ∧
      (∀ entry ∈ first, Answered [] entry) ∧ (∀ entry ∈ last, Answered (got ++ first) entry) ∧
      LiftedIn (got ++ first) front.deviceId (sending.pressToEvents front toEvents).current := by
  obtain ⟨first, events, released, nowLifted⟩ := lift_postFromMandatoryModifiersKeyUp lifted
  unfold Sending.pressToEvents
  dsimp only
  generalize sending.postFromMandatoryModifiersKeyUp front = up at events nowLifted ⊢
  have list : (up.postEventsAtKeyDown front toEvents).queue.events =
      up.queue.events ++ up.postedAtKeyDown front toEvents := by
    obtain ⟨entries, posted, -⟩ := Sending.settles_postEventsAtKeyDown up front toEvents
    have isPosted : up.postedAtKeyDown front toEvents = entries :=
      Sending.entriesPosted_of_append posted
    rw [isPosted, posted]
  have stillLifted : LiftedIn (got ++ first) front.deviceId
      (up.postEventsAtKeyDown front toEvents).current := by
    unfold LiftedIn
    rw [liftedModifiers_postEventsAtKeyDown]
    exact nowLifted
  split
  · refine ⟨first, [], by rw [List.append_nil, list, events], released, ?_, stillLifted⟩
    exact fun _ member => absurd member List.not_mem_nil
  · obtain ⟨last, restored, answered⟩ := restore_postFromMandatoryModifiersKeyDown stillLifted
    refine ⟨first, last, by rw [restored, list, events], released, answered, ?_⟩
    exact liftedIn_postFromMandatoryModifiersKeyDown _ _ _ front

/-- Sending a list at the press adds only releases to the events that are kept. -/
theorem keepsReleases_pressToEvents {sending : Sending} (front : Entry)
    (toEvents : List ToEventDefinition) (keeps : KeepsReleases sending.current) :
    KeepsReleases (sending.pressToEvents front toEvents).current := by
  have up : KeepsReleases (sending.postFromMandatoryModifiersKeyUp front).current := by
    unfold KeepsReleases
    rw [(Sending.eventsAtKeyUp_postFromMandatoryModifiers sending front).1]
    exact keeps
  have posted := keepsReleases_postEventsAtKeyDown front toEvents up
  unfold Sending.pressToEvents
  dsimp only
  split
  · exact posted
  · unfold KeepsReleases
    rw [(Sending.eventsAtKeyUp_postFromMandatoryModifiers _ front).2]
    exact posted

/-- The record of keys that are taken. -/
theorem fresh_sendAtKeyDown (basic : Basic) {front delayed : Entry}
    (same : Basic.SameKey front delayed) (queue : EventQueue) (fromEvents : List FromEvent)
    (mandatory : List ModifierFlag) (timeStamp : Int) (flags : List ModifierFlag) :
    let sent := basic.sendAtKeyDown delayed
      ⟨queue, 0, .make fromEvents mandatory timeStamp flags front.deviceId⟩
    Fresh front fromEvents sent.queue.events sent.current ∧
      queue.events <+: sent.queue.events := by
  intro sent
  have sender : delayed.deviceId = front.deviceId := congrArg FromEvent.deviceId same.fromEvent
  have keys := (basic.sends_sendAtKeyDown delayed
    ⟨queue, 0, .make fromEvents mandatory timeStamp flags front.deviceId⟩).keys
  have nothingLifted : LiftedIn [] delayed.deviceId
      (ManipulatedOriginalEvent.make fromEvents mandatory timeStamp flags front.deviceId) := by
    intro flag isLifted
    have none := of_decide_eq_true (List.mem_filter.mp isLifted).2
    exact absurd none List.not_mem_nil
  have nothingKept : KeepsReleases
      (ManipulatedOriginalEvent.make fromEvents mandatory timeStamp flags front.deviceId) :=
    fun _ member => absurd member List.not_mem_nil
  obtain ⟨first, last, events, -, -, lifted⟩ := @parts_pressToEvents _ _
    ⟨queue, 0, .make fromEvents mandatory timeStamp flags front.deviceId⟩ delayed [] basic.to_
    nothingLifted
  refine ⟨⟨congrArg Prod.fst keys, congrArg (·.2.1) keys, ?_, ?_⟩, ?_⟩
  · exact keepsReleases_pressToEvents delayed basic.to_ nothingKept
  · rw [← sender]
    apply lifted.mono
    rw [List.nil_append]
    intro entry member
    have isSent : sent.queue.events = _ := events
    rw [isSent]
    simp [member]
  · rw [List.append_assoc, List.append_assoc] at events
    exact ⟨_, events.symm⟩

/-! ## A key that is released -/

/-- A key_up waits for the other keys of the record, or posts what the record keeps first. -/
theorem releases_sendAtKeyUp (basic : Basic) (front : Entry) (sending : Sending)
    (posted : sending.current.keyUpPosted = true → sending.current.Discharged) :
    basic.sendAtKeyUp front sending = sending ∨
      ∃ released rest, (basic.sendAtKeyUp front sending).queue.events =
          sending.queue.events ++ released ++ rest ∧
        released.map Entry.sent = sending.current.eventsAtKeyUp.map EventAtKeyUp.sent := by
  have once : ∃ released rest, (basic.sendOnceAtKeyUp front sending).queue.events =
        sending.queue.events ++ released ++ rest ∧
      released.map Entry.sent = sending.current.eventsAtKeyUp.map EventAtKeyUp.sent := by
    unfold Basic.sendOnceAtKeyUp
    cases already : sending.current.keyUpPosted with
    | true =>
        refine ⟨[], [], by simp, ?_⟩
        rw [(posted already).1]
        rfl
    | false =>
        rw [if_neg Bool.false_ne_true]
        dsimp only
        generalize marking : ({ sending with
          current := { sending.current with keyUpPosted := true } } : Sending) = marked
        have queue : marked.queue = sending.queue := by rw [← marking]
        have kept : marked.current.eventsAtKeyUp = sending.current.eventsAtKeyUp := by
          rw [← marking]
        obtain ⟨released, events, isSent, -⟩ :=
          (Sending.emits_postEventsAtKeyUp marked front).posted
        obtain ⟨rest, later, -⟩ := ((Sending.settles_postFromMandatoryModifiersKeyDown
          (marked.postEventsAtKeyUp front) front).trans (basic.settles_sendToIfAlone front _)).trans
            (Basic.settles_sendExtra basic.toAfterKeyUp front _)
        exact ⟨released, rest, by rw [later, events, queue], by rw [isSent, kept]⟩
  unfold Basic.sendAtKeyUp
  dsimp only
  split
  · exact .inl rfl
  · right
    obtain ⟨released, rest, events, isReleased⟩ := once
    split
    · obtain ⟨extra, later, -⟩ := Basic.settles_sendExtra
        basic.from_.simultaneousOptions.toAfterKeyUp front (basic.sendOnceAtKeyUp front sending)
      exact ⟨released, rest ++ extra, by rw [later, events, List.append_assoc _ rest], isReleased⟩
    · exact ⟨released, rest, events, isReleased⟩

omit [ExpressionLibrary] [MachTimebase] in
/-- A record gives up a key. It waits for its other keys, or all that it keeps is posted. -/
structure GivesUp (front : Entry) (before after : ManipulatedOriginalEvent)
    (got posted : List Entry) : Prop where
  fromEvents : after.fromEvents = (before.eraseFromEvent front.fromEvent).fromEvents
  grows : got <+: posted
  discharged : after.keyUpPosted = true → after.Discharged
  keepsReleases : KeepsReleases before → KeepsReleases after
  settles : after.eventsAtKeyUp = before.eventsAtKeyUp ∧ after.fromEvents ≠ [] ∨
    after.eventsAtKeyUp = [] ∧ ∃ released,
      released.map Entry.sent = before.eventsAtKeyUp.map EventAtKeyUp.sent ∧
        (got ++ released).Sublist posted

/-- The release of a key gives up what the record owes: it is posted, and the record owes nothing
more. -/
theorem givesUp_sendAtKeyUp (basic : Basic) (front : Entry) (queue : EventQueue)
    {current : ManipulatedOriginalEvent}
    (posted : current.keyUpPosted = true → current.Discharged) :
    let sent := basic.sendAtKeyUp front ⟨queue, 0, current.eraseFromEvent front.fromEvent⟩
    GivesUp front current sent.current queue.events sent.queue.events := by
  intro sent
  obtain ⟨-, fromEvents, waitsOrNot⟩ := basic.sends_sendAtKeyUp front
    ⟨queue, 0, current.eraseFromEvent front.fromEvent⟩ posted
  have events := releases_sendAtKeyUp basic front
    ⟨queue, 0, current.eraseFromEvent front.fromEvent⟩ posted
  change sent.current.fromEvents = _ at fromEvents
  change sent = _ ∧ _ ∨ sent.current.Discharged at waitsOrNot
  change sent = _ ∨ ∃ released rest, sent.queue.events = _ ∧ _ at events
  rcases waitsOrNot with ⟨waits, others⟩ | discharged
  · rw [waits]
    exact ⟨rfl, List.prefix_refl _, posted, id, .inl ⟨rfl, others⟩⟩
  · have noneKept : sent.current.eventsAtKeyUp = [] := discharged.1
    have keeps : KeepsReleases sent.current := by
      unfold KeepsReleases
      rw [noneKept]
      exact fun _ member => absurd member List.not_mem_nil
    rcases events with waits | ⟨released, rest, events, isReleased⟩
    · have nothing : current.eventsAtKeyUp = [] := by
        rw [waits] at noneKept
        exact noneKept
      rw [waits]
      refine ⟨rfl, List.prefix_refl _, posted, id, .inr ⟨nothing, [], ?_, ?_⟩⟩
      · rw [nothing]
        rfl
      · rw [List.append_nil]
    · refine ⟨fromEvents, ?_, fun _ => discharged, fun _ => keeps,
        .inr ⟨noneKept, released, isReleased, ?_⟩⟩
      · rw [List.append_assoc] at events
        exact ⟨released ++ rest, events.symm⟩
      · rw [events]
        exact List.sublist_append_left _ rest

/-! ## A call -/

omit [ExpressionLibrary] [MachTimebase] in
/-- The record gives way to what the key_up has left of it. -/
def giveUp (manipulator : TimedBasic) (record : SharedRecord)
    (current : ManipulatedOriginalEvent) : TimedBasic :=
  (manipulator.change record.identity fun record =>
    { record with
      current := current
      listed := !current.fromEvents.isEmpty }).stopHeldDown.collect

omit [ExpressionLibrary] [MachTimebase] in
/-- A record is made for keys, and the held-down timer may be set up for it. -/
structure MakesRecord (front : Entry) (keys : List FromEvent) (got : List Entry)
    (before after : TimedBasic) : Prop where
  basic : after.basic.from_ = before.basic.from_
  made : after.made = before.made + 1
  records : ∃ current, Fresh front keys got current ∧
    after.records = before.records ++ [⟨before.made, current, true, keys, [], false⟩]
  pending : ∀ task, after.pendingHeldDown = some task →
    task.1.deviceId = front.deviceId ∧ task.2 = before.made

omit [ExpressionLibrary] [MachTimebase] in
theorem MakesRecord.mono {front : Entry} {keys : List FromEvent} {got more : List Entry}
    {before after : TimedBasic} (makes : MakesRecord front keys got before after)
    (subset : got ⊆ more) : MakesRecord front keys more before after := by
  obtain ⟨current, fresh, records⟩ := makes.records
  exact { makes with records := ⟨current, { fresh with lifted := fresh.lifted.mono subset },
    records⟩ }

/-- What a call does to the records and the output queue. -/
inductive Handles (manipulator : TimedBasic) (front : Entry) (rest : List Entry)
    (output : EventQueue) : ManipulateResult × TimedBasic × Entry × EventQueue → Prop where
  | passes {result : ManipulateResult} {after : TimedBasic} {delayed : Entry} {posted : EventQueue}
      (quiet : Quiet manipulator after) (same : Basic.SameKey front delayed)
      (grows : output.events <+: posted.events)
      (waits : result = .needsWaitUntilTimeStamp →
        front.eventType = .keyDown ∧ front.validity = .valid)
      (notHeld : front.validity = .valid → front.eventType = .keyUp →
        front.fromEvent ∉ after.keys) :
      Handles manipulator front rest output (result, after, delayed, posted)
  | claims {noted after : TimedBasic} {taken : Entry} {posted : EventQueue}
      {keys : List FromEvent} (isKeyDown : front.eventType = .keyDown)
      (quiet : Quiet manipulator noted) (grows : output.events <+: posted.events)
      (isClaimed : Basic.ClaimedKeys manipulator.basic front rest keys)
      (makes : MakesRecord front keys posted.events noted after)
      (sameType : taken.eventType = front.eventType) :
      Handles manipulator front rest output (.manipulated, after, taken, posted)
  | releases {noted : TimedBasic} {posted : EventQueue} {record : SharedRecord}
      {current : ManipulatedOriginalEvent}
      (isKeyUp : front.eventType = .keyUp) (quiet : Quiet manipulator noted)
      (isRecord : record ∈ noted.records) (held : front.fromEvent ∈ record.current.fromEvents)
      (gives : (record.current.keyUpPosted = true → record.current.Discharged) →
        GivesUp front record.current current output.events posted.events) :
      Handles manipulator front rest output
        (.manipulated, noted.giveUp record current, { front with validity := .invalid }, posted)

/-- Cancelling the timers leaves the manipulator itself, its records apart, as it is. -/
theorem basic_cancelTimers (manipulator : TimedBasic) (front : Entry) (output : EventQueue) :
    (manipulator.cancelTimers front output).1.basic = manipulator.basic := by
  have noted : (manipulator.unsetAloneIfNeeded front.event front.eventType).basic =
      manipulator.basic := by
    unfold unsetAloneIfNeeded
    split <;> rfl
  have stopped : ((manipulator.unsetAloneIfNeeded front.event front.eventType).cancelHeldDown
      front).basic = manipulator.basic := by
    rw [← noted]
    unfold cancelHeldDown
    split <;> rfl
  unfold cancelTimers cancelDelayedAction
  rw [← stopped]
  split
  · split
    · unfold postDelayedEvents
      dsimp only
      split <;> rfl
    · rfl
  · rfl

omit [ExpressionLibrary] in
/-- The held-down timer is set up for the new record or not at all. -/
theorem pendingHeldDown_setUpHeldDown {manipulator : TimedBasic} {front : Entry} {identity : Nat}
    {now : Int} {task : Entry × Nat}
    (isPending : (manipulator.setUpHeldDown front identity now).pendingHeldDown = some task) :
    task = (front, identity) := by
  unfold pendingHeldDown setUpHeldDown at isPending
  cases isTask : manipulator.toIfHeldDown with
  | none =>
      rw [isTask] at isPending
      cases isPending
  | some heldDown =>
      rw [isTask] at isPending
      simp only [Option.map_some, Option.bind_some] at isPending
      split at isPending
      · split at isPending
        · rename_i none isSome
          exact absurd isSome (by simp)
        · cases isPending
      · simpa using isPending.symm

/-- What a key_down that takes keys makes. -/
theorem makes_manipulateKeyDown {noted : TimedBasic} {front delayed : Entry}
    (same : Basic.SameKey front delayed) (queue : EventQueue) (now : Int)
    (keys : List FromEvent) (mandatory : List ModifierFlag) (flags : List ModifierFlag) :
    let sent := noted.basic.sendAtKeyDown delayed ⟨queue, 0,
      .make keys mandatory front.eventTimeStamp.timeStamp flags front.deviceId⟩
    let taken : Entry := { delayed with validity := .invalid }
    let setUp := ((noted.addRecord sent.current).setUpHeldDown taken noted.made
      now).setUpDelayedAction taken noted.made now
    ∃ kept, Quiet noted kept ∧
      MakesRecord front keys (Basic.finishSending sent).events kept setUp.collect ∧
      queue.events <+: (Basic.finishSending sent).events := by
  intro sent taken setUp
  obtain ⟨fresh, grows⟩ := fresh_sendAtKeyDown noted.basic same queue keys mandatory
    front.eventTimeStamp.timeStamp flags
  rw [Basic.events_finishSending]
  refine ⟨{ noted with records := noted.records.filter setUp.keepsAlive },
    noted.quiet_filter setUp.keepsAlive_of_listed, ⟨rfl, rfl, ⟨sent.current, fresh, ?_⟩, ?_⟩, grows⟩
  · let record : SharedRecord :=
      ⟨noted.made, sent.current, true, sent.current.fromEvents, [], false⟩
    change (noted.records ++ [record]).filter setUp.keepsAlive = _
    have added : setUp.keepsAlive record = true := setUp.keepsAlive_of_listed record rfl
    rw [List.filter_append, List.filter_cons_of_pos added, List.filter_nil]
    have fromEvents : sent.current.fromEvents = keys := fresh.fromEvents
    dsimp only [record]
    rw [fromEvents]
  · intro task isPending
    have isTask : task = (taken, noted.made) := pendingHeldDown_setUpHeldDown isPending
    subst isTask
    exact ⟨congrArg FromEvent.deviceId same.fromEvent, rfl⟩

omit [ExpressionLibrary] [MachTimebase] in
/-- The keys of the records are keys of the `from`, and a record that is not listed holds none. -/
structure HoldsOwn (manipulator : TimedBasic) : Prop where
  distinct : manipulator.Distinct
  tested : ∀ fromEvent ∈ manipulator.keys,
    FromEventDefinition.testEvent fromEvent.event manipulator.basic.from_ = true
  unlisted : ∀ record ∈ manipulator.records, record.listed = false →
    record.current.fromEvents = []

/-- A call handles an entry in one of these ways. -/
theorem handles_manipulate {manipulator : TimedBasic} (own : manipulator.HoldsOwn) (front : Entry)
    (rest : List Entry) (input output : EventQueue) (now : Int) :
    Handles manipulator front rest output
      (manipulator.manipulate front { input with events := front :: rest } output now) := by
  have basic := manipulator.basic_cancelTimers front output
  obtain ⟨quiet, grows⟩ := quiet_cancelTimers own.distinct front output
  unfold manipulate
  generalize manipulator.cancelTimers front output = canceled at basic quiet grows ⊢
  obtain ⟨noted, canceled⟩ := canceled
  dsimp only at basic quiet grows ⊢
  rw [basic]
  have sameKeys : ∀ fromEvent ∈ noted.keys, fromEvent ∈ manipulator.keys :=
    fun _ member => quiet.keys.subset member
  split
  · -- The entry was taken before.
    rename_i invalid
    refine .passes quiet (.refl front) grows nofun fun isValid => ?_
    rw [isValid] at invalid
    cases invalid
  · rename_i notInvalid
    have isValid : front.validity = .valid := by
      cases validity : front.validity with
      | valid => rfl
      | invalid => exact absurd validity notInvalid
    split
    · rename_i tests
      cases type : front.eventType with
      | single =>
          refine .passes quiet (.refl front) grows nofun fun _ isKeyUp => ?_
          rw [type] at isKeyUp
          cases isKeyUp
      | keyUp =>
          unfold manipulateKeyUp
          cases found : noted.records.find? fun record =>
              record.listed && record.current.fromEventExists front.fromEvent with
          | none =>
              refine .passes quiet (.refl front) grows nofun fun _ _ held => ?_
              obtain ⟨record, isRecord, inRecord⟩ := mem_keys.mp held
              have notFound := List.find?_eq_none.mp found record isRecord
              obtain ⟨earlier, isEarlier, same⟩ := quiet.known record isRecord
              cases listed : record.listed with
              | true =>
                  simp [listed, ManipulatedOriginalEvent.fromEventExists, inRecord] at notFound
              | false =>
                  have none := own.unlisted earlier isEarlier (same.listed ▸ listed)
                  rw [same.fromEvents, none] at inRecord
                  cases inRecord
          | some record =>
              have isFound := List.find?_some found
              have isRecord := List.mem_of_find?_eq_some found
              rw [Bool.and_eq_true] at isFound
              have held : front.fromEvent ∈ record.current.fromEvents :=
                of_decide_eq_true isFound.2
              refine .releases type quiet isRecord held fun discharged => ?_
              have gives := givesUp_sendAtKeyUp noted.basic front canceled discharged
              dsimp only at gives ⊢
              rw [Basic.events_finishSending]
              refine ⟨gives.fromEvents, grows.trans gives.grows, gives.discharged,
                gives.keepsReleases, ?_⟩
              rcases gives.settles with waits | ⟨noneKept, released, isReleased, posted⟩
              · exact .inl waits
              · refine .inr ⟨noneKept, released, isReleased, ?_⟩
                exact (grows.sublist.append (List.Sublist.refl released)).trans posted
      | keyDown =>
          unfold manipulateKeyDown
          dsimp only
          rw [basic]
          have spec := @Basic.decideKeyDown_spec _ manipulator.basic front rest canceled now isValid
            type tests
          have notKeyUp : front.validity = .valid → front.eventType = .keyUp →
              front.fromEvent ∉ noted.keys := fun _ isKeyUp => by
            rw [type] at isKeyUp
            cases isKeyUp
          generalize manipulator.basic.decideKeyDown front (front :: rest) canceled now = outcome
            at spec ⊢
          obtain ⟨decision, delayed, environment⟩ := outcome
          cases decision with
          | notTarget => exact .passes quiet spec.1 grows nofun notKeyUp
          | waits =>
              refine .passes quiet spec.1 (grows.trans ?_) (fun _ => ⟨type, isValid⟩) notKeyUp
              exact List.prefix_append _ _
          | claims keys mandatory =>
              obtain ⟨kept, dropped, makes, posted⟩ := @makes_manipulateKeyDown _ _ noted _ _
                spec.1 { canceled with manipulatorEnvironment := environment } now keys mandatory
                canceled.modifierFlagManager.makeModifierFlags
              rw [basic] at makes posted
              exact .claims type (quiet.trans dropped) (grows.trans posted)
                (spec.2 keys mandatory rfl) makes spec.1.eventType
    · rename_i fails
      refine .passes quiet (.refl front) grows nofun fun _ _ held => ?_
      exact fails (own.tested front.fromEvent (sameKeys _ held))

end TimedBasic

end Karabiner
