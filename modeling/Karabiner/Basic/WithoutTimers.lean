import Karabiner.Basic.TimerCalls
import Karabiner.Manipulator.Simulation

/-! # A basic manipulator whose timers are not used

Without `to_if_held_down` and `to_delayed_action` nothing else refers to a record than
`manipulated_original_events_`, and a manager of manipulators with timers does what one of
manipulators without them does (`TimedBasic.stage_manipulate_withoutTimers`).
-/

namespace Karabiner

namespace TimedBasic

/-- There are no timers, and all records are in `manipulated_original_events_`. -/
structure Untimed (manipulator : TimedBasic) : Prop where
  toIfHeldDown : manipulator.toIfHeldDown = none
  toDelayedAction : manipulator.toDelayedAction = none
  listed : ∀ record ∈ manipulator.records, record.listed = true
  distinct : manipulator.Distinct
  made : ∀ record ∈ manipulator.records, record.identity < manipulator.made

/-- The manipulator with the records as values. -/
def withoutTimers (manipulator : TimedBasic) : Basic :=
  { manipulator.basic with
    manipulatedOriginalEvents := manipulator.records.map SharedRecord.current }

section Untimed

variable {manipulator : TimedBasic}

theorem collect_of_listed (noDelayedAction : manipulator.toDelayedAction = none) :
    manipulator.collect =
      { manipulator with records := manipulator.records.filter SharedRecord.listed } := by
  unfold collect
  have same : manipulator.keepsAlive = SharedRecord.listed := by
    funext record
    unfold keepsAlive
    rw [noDelayedAction, Option.bind_none]
    exact Bool.or_false _
  rw [same]

/-- Records are changed in what they hold. -/
theorem Untimed.of_map (untimed : manipulator.Untimed) {changed : SharedRecord → SharedRecord}
    (identity : ∀ record, (changed record).identity = record.identity)
    (listed : ∀ record, (changed record).listed = record.listed) :
    Untimed { manipulator with records := manipulator.records.map changed } where
  toIfHeldDown := untimed.toIfHeldDown
  toDelayedAction := untimed.toDelayedAction
  listed record isRecord := by
    obtain ⟨earlier, isEarlier, rfl⟩ := List.mem_map.mp isRecord
    rw [listed]
    exact untimed.listed earlier isEarlier
  distinct := by
    unfold Distinct
    rw [List.map_map]
    have same : ∀ record ∈ manipulator.records,
        (SharedRecord.identity ∘ changed) record = record.identity := fun record _ =>
      identity record
    rw [List.map_congr_left same]
    exact untimed.distinct
  made record isRecord := by
    obtain ⟨earlier, isEarlier, rfl⟩ := List.mem_map.mp isRecord
    rw [identity]
    exact untimed.made earlier isEarlier

/-- Records are changed, and those that leave the list are dropped. -/
theorem Untimed.of_filter (untimed : manipulator.Untimed) {changed : SharedRecord → SharedRecord}
    (identity : ∀ record, (changed record).identity = record.identity) :
    Untimed { manipulator with
      records := (manipulator.records.map changed).filter SharedRecord.listed } where
  toIfHeldDown := untimed.toIfHeldDown
  toDelayedAction := untimed.toDelayedAction
  listed record isRecord := (List.mem_filter.mp isRecord).2
  distinct := by
    have same : (manipulator.records.map changed).map SharedRecord.identity =
        manipulator.records.map SharedRecord.identity := by
      rw [List.map_map]
      exact List.map_congr_left fun record _ => identity record
    have fewer : ((manipulator.records.map changed).filter SharedRecord.listed).Sublist
        (manipulator.records.map changed) := List.filter_sublist
    exact (same ▸ untimed.distinct : ((manipulator.records.map changed).map
      SharedRecord.identity).Nodup).sublist (fewer.map _)
  made record isRecord := by
    obtain ⟨earlier, isEarlier, rfl⟩ := List.mem_map.mp (List.mem_filter.mp isRecord).1
    rw [identity]
    exact untimed.made earlier isEarlier

/-- Unsetting alone is the same with and without the timers. -/
theorem withoutTimers_unsetAloneIfNeeded (untimed : manipulator.Untimed) (event : Event)
    (eventType : EventType) :
    (manipulator.unsetAloneIfNeeded event eventType).Untimed ∧
      manipulator.withoutTimers.unsetAloneIfNeeded event eventType =
        (manipulator.unsetAloneIfNeeded event eventType).withoutTimers := by
  unfold unsetAloneIfNeeded Basic.unsetAloneIfNeeded
  split
  · constructor
    · unfold changeListed
      apply untimed.of_map
      · intro record
        split <;> rfl
      · intro record
        split
        · rfl
        · rfl
    · unfold withoutTimers changeListed
      dsimp only
      rw [List.map_map, List.map_map]
      have same : ∀ record ∈ manipulator.records,
          (ManipulatedOriginalEvent.unsetAlone ∘ SharedRecord.current) record =
            (SharedRecord.current ∘ fun record : SharedRecord => if record.listed then
              { record with current := record.current.unsetAlone } else record) record := by
        intro record isRecord
        rw [Function.comp_apply, Function.comp_apply, untimed.listed record isRecord, if_pos rfl]
      rw [List.map_congr_left same]
  · exact ⟨untimed, rfl⟩

variable [ExpressionLibrary] [MachTimebase]

omit [ExpressionLibrary] [MachTimebase] in
theorem stopHeldDown_of_none (noHeldDown : manipulator.toIfHeldDown = none) :
    manipulator.stopHeldDown = manipulator := by
  unfold stopHeldDown
  rw [noHeldDown, Option.map_none, ← noHeldDown]

theorem cancelTimers_of_untimed (untimed : manipulator.Untimed) (front : Entry)
    (output : EventQueue) :
    manipulator.cancelTimers front output =
      (manipulator.unsetAloneIfNeeded front.event front.eventType, output) := by
  obtain ⟨kept, -⟩ := withoutTimers_unsetAloneIfNeeded untimed front.event front.eventType
  unfold cancelTimers cancelHeldDown cancelDelayedAction
  rw [stopHeldDown_of_none kept.toIfHeldDown, ite_self, kept.toDelayedAction]
  dsimp only
  rw [ite_self]

/-- A press is handled as by the manipulator without timers, and no timer is set. -/
theorem withoutTimers_manipulateKeyDown (untimed : manipulator.Untimed) (front : Entry)
    (input output : EventQueue) (now : Int) :
    let answer := manipulator.manipulateKeyDown front input output now
    answer.2.1.Untimed ∧ manipulator.withoutTimers.manipulateKeyDown front input output now =
      (answer.1, answer.2.1.withoutTimers, answer.2.2) := by
  have decided : manipulator.withoutTimers.decideKeyDown front input.events output now =
      manipulator.basic.decideKeyDown front input.events output now :=
    manipulator.basic.decideKeyDown_records _ front input.events output now
  unfold manipulateKeyDown Basic.manipulateKeyDown
  rw [decided]
  generalize manipulator.basic.decideKeyDown front input.events output now = outcome
  obtain ⟨decision, delayed, environment⟩ := outcome
  cases decision with
  | notTarget => exact ⟨untimed, rfl⟩
  | waits => exact ⟨untimed, rfl⟩
  | claims fromEvents mandatory =>
      dsimp only
      have sent : ∀ sending, manipulator.withoutTimers.sendAtKeyDown delayed sending =
          manipulator.basic.sendAtKeyDown delayed sending := fun _ => rfl
      rw [sent]
      generalize manipulator.basic.sendAtKeyDown delayed _ = sending
      have added : ((manipulator.addRecord sending.current).setUpHeldDown
          { delayed with validity := .invalid } manipulator.made now).setUpDelayedAction
            { delayed with validity := .invalid } manipulator.made now =
          manipulator.addRecord sending.current := by
        unfold setUpHeldDown setUpDelayedAction addRecord
        dsimp only
        rw [untimed.toIfHeldDown, untimed.toDelayedAction]
        rfl
      rw [added]
      have listed : ∀ record ∈ (manipulator.addRecord sending.current).records,
          record.listed = true :=
        List.forall_mem_append.mpr ⟨untimed.listed, List.forall_mem_singleton.mpr rfl⟩
      rw [@collect_of_listed (manipulator.addRecord sending.current) untimed.toDelayedAction,
        List.filter_eq_self.mpr listed]
      refine ⟨⟨untimed.toIfHeldDown, untimed.toDelayedAction, listed, ?_, ?_⟩, ?_⟩
      · unfold Distinct addRecord
        rw [List.map_append, List.nodup_append]
        refine ⟨untimed.distinct, List.nodup_singleton _, ?_⟩
        rintro identity isIdentity _ isNew rfl
        obtain ⟨record, isRecord, same⟩ := List.mem_map.mp isIdentity
        have earlier := untimed.made record isRecord
        rw [same, List.mem_singleton.mp isNew] at earlier
        exact absurd earlier (Nat.lt_irrefl _)
      · refine List.forall_mem_append.mpr ⟨fun record isRecord => ?_, ?_⟩
        · exact Nat.lt_succ_of_lt (untimed.made record isRecord)
        · exact List.forall_mem_singleton.mpr (Nat.lt_succ_self _)
      · unfold withoutTimers addRecord
        dsimp only
        rw [List.map_append]
        rfl

omit [ExpressionLibrary] [MachTimebase] in
/-- The record that a key_up finds. -/
theorem findRecord_map {records : List SharedRecord}
    (listed : ∀ record ∈ records, record.listed = true) (fromEvent : FromEvent) :
    match records.find? fun record => record.listed && record.current.fromEventExists fromEvent with
    | none => Basic.findRecord fromEvent (records.map SharedRecord.current) = none
    | some record => ∃ before after, records = before ++ record :: after ∧
        Basic.findRecord fromEvent (records.map SharedRecord.current) =
          some (before.map SharedRecord.current, record.current,
            after.map SharedRecord.current) := by
  induction records with
  | nil => rfl
  | cons record others ih =>
      obtain ⟨own, othersListed⟩ := List.forall_mem_cons.mp listed
      have later := ih othersListed
      rw [List.map_cons, List.find?_cons]
      unfold Basic.findRecord
      rw [own, Bool.true_and]
      cases isHeld : record.current.fromEventExists fromEvent with
      | true => exact ⟨[], others, rfl, rfl⟩
      | false =>
          dsimp only
          rw [if_neg Bool.false_ne_true]
          generalize others.find? _ = found at later
          cases found with
          | none => rw [later]; rfl
          | some other =>
              obtain ⟨before, after, split, isFound⟩ := later
              rw [isFound]
              exact ⟨record :: before, after, congrArg (record :: ·) split, rfl⟩

omit [ExpressionLibrary] [MachTimebase] in
/-- Only the record with the identity is changed, and it is dropped when it is not listed. -/
theorem map_filter_listed {before after : List SharedRecord} {record changedRecord : SharedRecord}
    {changed : SharedRecord → SharedRecord}
    (listed : ∀ other ∈ before ++ after, other.listed = true)
    (others : ∀ other ∈ before ++ after, changed other = other)
    (own : changed record = changedRecord) :
    ((before ++ record :: after).map changed).filter SharedRecord.listed =
      before ++ (if changedRecord.listed then [changedRecord] else []) ++ after := by
  obtain ⟨listedBefore, listedAfter⟩ := List.forall_mem_append.mp listed
  obtain ⟨othersBefore, othersAfter⟩ := List.forall_mem_append.mp others
  rw [List.map_append, List.map_cons, own, List.map_congr_left othersBefore,
    List.map_congr_left othersAfter, List.map_id', List.map_id', List.filter_append,
    List.filter_cons, List.filter_eq_self.mpr listedBefore, List.filter_eq_self.mpr listedAfter,
    List.append_assoc]
  apply congrArg
  split <;> rfl

/-- A release is handled as by the manipulator without timers, and no timer is set. -/
theorem withoutTimers_manipulateKeyUp (untimed : manipulator.Untimed) (front : Entry)
    (output : EventQueue) :
    let answer := manipulator.manipulateKeyUp front output
    answer.2.1.Untimed ∧ manipulator.withoutTimers.manipulateKeyUp front output =
      (answer.1, answer.2.1.withoutTimers, answer.2.2) := by
  have found := findRecord_map untimed.listed front.fromEvent
  have records : manipulator.withoutTimers.manipulatedOriginalEvents =
      manipulator.records.map SharedRecord.current := rfl
  unfold manipulateKeyUp Basic.manipulateKeyUp
  rw [records]
  generalize manipulator.records.find? _ = outcome at found ⊢
  cases outcome with
  | none =>
      dsimp only at found ⊢
      rw [found]
      exact ⟨untimed, rfl⟩
  | some record =>
      obtain ⟨before, after, split, isFound⟩ := found
      rw [isFound]
      dsimp only
      have sent : ∀ sending, manipulator.withoutTimers.sendAtKeyUp front sending =
          manipulator.basic.sendAtKeyUp front sending := fun _ => rfl
      rw [sent]
      generalize manipulator.basic.sendAtKeyUp front _ = sending
      let changed : SharedRecord → SharedRecord := fun other =>
        if other.identity = record.identity then
          { other with
            current := sending.current
            listed := !sending.current.fromEvents.isEmpty }
        else other
      have sameIdentity : ∀ other, (changed other).identity = other.identity := by
        intro other
        dsimp only [changed]
        split <;> rfl
      have released : (manipulator.change record.identity fun record =>
          { record with
            current := sending.current
            listed := !sending.current.fromEvents.isEmpty }).stopHeldDown =
          { manipulator with records := manipulator.records.map changed } :=
        stopHeldDown_of_none untimed.toIfHeldDown
      rw [released, @collect_of_listed { manipulator with
        records := manipulator.records.map changed } untimed.toDelayedAction]
      refine ⟨untimed.of_filter sameIdentity, ?_⟩
      have identities : ((record :: (before ++ after)).map SharedRecord.identity).Nodup := by
        have distinct := untimed.distinct
        unfold Distinct at distinct
        rw [split, List.map_append, List.map_cons, List.nodup_middle] at distinct
        rw [List.map_cons, List.map_append]
        exact distinct
      have others : ∀ other ∈ before ++ after, changed other = other := by
        intro other isOther
        refine if_neg fun same => ?_
        rw [List.map_cons, List.nodup_cons, ← same] at identities
        exact identities.1 (List.mem_map_of_mem isOther)
      have listed : ∀ other ∈ before ++ after, other.listed = true := by
        intro other isOther
        apply untimed.listed
        rw [split]
        rcases List.mem_append.mp isOther with isBefore | isAfter
        · exact List.mem_append_left _ isBefore
        · exact List.mem_append_right _ (List.mem_cons_of_mem _ isAfter)
      have own : changed record = { record with
          current := sending.current
          listed := !sending.current.fromEvents.isEmpty } := if_pos rfl
      have kept := map_filter_listed listed others own
      rw [← split] at kept
      unfold withoutTimers
      dsimp only at kept ⊢
      rw [kept, List.map_append, List.map_append]
      cases sending.current.fromEvents <;> rfl

/-- A manipulator that has no timers answers every entry as the one they are not modelled for. -/
theorem withoutTimers_manipulate (untimed : manipulator.Untimed) (front : Entry)
    (input output : EventQueue) (now : Int) :
    let answer := manipulator.manipulate front input output now
    answer.2.1.Untimed ∧ manipulator.withoutTimers.manipulate front input output now =
      (answer.1, answer.2.1.withoutTimers, answer.2.2) := by
  obtain ⟨kept, same⟩ :=
    withoutTimers_unsetAloneIfNeeded untimed front.event front.eventType
  unfold manipulate Basic.manipulate
  rw [cancelTimers_of_untimed untimed, same]
  dsimp only
  generalize manipulator.unsetAloneIfNeeded front.event front.eventType = noted at kept
  have from_ : noted.withoutTimers.from_ = noted.basic.from_ := rfl
  rw [from_]
  split
  · exact ⟨kept, rfl⟩
  · split
    · cases front.eventType with
      | keyDown => exact withoutTimers_manipulateKeyDown kept front input output now
      | keyUp => exact withoutTimers_manipulateKeyUp kept front output
      | single => exact ⟨kept, rfl⟩
    · exact ⟨kept, rfl⟩

omit [ExpressionLibrary] [MachTimebase] in
/-- Ungrabbing a device erases the same keys from the records with and without the timers. -/
theorem withoutTimers_eraseDevice (untimed : manipulator.Untimed) (deviceId : DeviceId) :
    (manipulator.eraseDevice deviceId).Untimed ∧
      (manipulator.eraseDevice deviceId).withoutTimers.manipulatedOriginalEvents =
        (manipulator.withoutTimers.manipulatedOriginalEvents.map fun current =>
          current.eraseFromEventsByDeviceId deviceId).filter fun current =>
            !current.fromEvents.isEmpty := by
  let erased : SharedRecord → SharedRecord := fun record =>
    { record with
      current := record.current.eraseFromEventsByDeviceId deviceId
      listed := !(record.current.eraseFromEventsByDeviceId deviceId).fromEvents.isEmpty }
  have records : manipulator.eraseDevice deviceId = { manipulator with
      records := (manipulator.records.map erased).filter SharedRecord.listed } := by
    have each : ∀ record ∈ manipulator.records,
        (if record.listed then erased record else record) = erased record :=
      fun record isRecord => if_pos (untimed.listed record isRecord)
    unfold eraseDevice changeListed
    dsimp only
    rw [List.map_congr_left each]
    exact @collect_of_listed { manipulator with
      records := manipulator.records.map erased } untimed.toDelayedAction
  rw [records]
  refine ⟨untimed.of_filter fun _ => rfl, ?_⟩
  unfold withoutTimers
  dsimp only
  rw [List.filter_map, List.filter_map, List.filter_map, List.map_map, List.map_map]
  rfl

/-- Without timers a manipulator does what the one without them does. -/
theorem simulates_withoutTimers : Simulates withoutTimers Untimed where
  alreadyManipulated manipulator front untimed := by
    change Basic.alreadyManipulated _ front = manipulator.alreadyManipulated front
    unfold Basic.alreadyManipulated alreadyManipulated withoutTimers
    cases front.eventType with
    | keyDown =>
        dsimp only
        rw [List.any_map, Bool.eq_iff_iff, List.any_eq_true, List.any_eq_true]
        refine exists_congr fun record => and_congr_right fun isRecord => ?_
        rw [Function.comp_apply, untimed.listed record isRecord, Bool.true_and]
    | keyUp => rfl
    | single => rfl
  manipulate manipulator front input output now untimed :=
    withoutTimers_manipulate untimed front input output now
  active manipulator untimed := by
    change (!(manipulator.records.map SharedRecord.current).isEmpty) =
      manipulator.records.any SharedRecord.listed
    cases isRecords : manipulator.records with
    | nil => rfl
    | cons record others =>
        have listed := untimed.listed record (by rw [isRecords]; exact List.mem_cons_self)
        rw [List.any_cons, listed]
        rfl
  getValidity manipulator := rfl
  setValidity manipulator validity untimed :=
    ⟨⟨untimed.toIfHeldDown, untimed.toDelayedAction, untimed.listed, untimed.distinct,
      untimed.made⟩, rfl⟩
  keysReleased manipulator front output untimed := ⟨untimed, rfl⟩
  deviceUngrabbed manipulator deviceId output timeStamp untimed := by
    obtain ⟨kept, same⟩ := withoutTimers_eraseDevice untimed deviceId
    refine ⟨kept, ?_⟩
    change Basic.mk _ _ _ _ _ _ _ _ = _
    rw [← same]
    rfl
  fromEventTap manipulator front output untimed := by
    obtain ⟨kept, same⟩ :=
      withoutTimers_unsetAloneIfNeeded untimed front.originalEvent front.eventType
    exact ⟨kept, congrArg (·, output) same⟩

/-- So does a manager of such manipulators, call after call. -/
theorem stage_manipulate_withoutTimers {stage : Stage TimedBasic}
    (untimed : ∀ manipulator ∈ stage.manipulators, manipulator.Untimed) (now : Int)
    (reorder : Bool) :
    (∀ manipulator ∈ (stage.manipulate now reorder).2.manipulators, manipulator.Untimed) ∧
      (Simulates.viewStage withoutTimers stage).manipulate now reorder =
        ((stage.manipulate now reorder).1,
          Simulates.viewStage withoutTimers (stage.manipulate now reorder).2) :=
  simulates_withoutTimers.stage_manipulate untimed now reorder

end Untimed

end TimedBasic

end Karabiner
