import Karabiner.Basic.OtherKeyPressed
import Karabiner.Basic.TimerLoop

/-! # The held-down timer

The list of `to_if_held_down` is sent for the record of a held key, which keeps its releases for
the key_up. When the device is ungrabbed the record is dropped with them. The timer is not stopped
by that and only checks whether the record is still alive, which the delayed action may see to; it
then sends the list for keys that nobody holds. A key may also be claimed by two records, of which
only one is released. In all other runs everything that the timer presses is released
(`TimerRun.neverStrands_of_stepsMeet`).
-/

namespace Karabiner

open Foundation

namespace TimedBasic

variable [ExpressionLibrary] [MachTimebase]

/-! ## The timer fires -/

/-- What the held-down timer posts from its list. -/
def heldDownList (output : EventQueue) (heldDown : ToIfHeldDown) (front : Entry)
    (record : SharedRecord) : List Entry :=
  ((Sending.releaseToEvents ⟨output, 0, record.current⟩ front).postFromMandatoryModifiersKeyUp
    front).postedAtKeyDown front heldDown.to_

/-- The presses of a list are answered by releases that are posted or kept. -/
theorem balanced_pressToEvents {sending : Sending} (front : Entry)
    (toEvents : List ToEventDefinition) (nothingKept : sending.current.eventsAtKeyUp = []) :
    Balanced ((((sending.postFromMandatoryModifiersKeyUp front).postedAtKeyDown front
        toEvents).map Entry.sent ++
      (sending.pressToEvents front toEvents).current.eventsAtKeyUp.map
        EventAtKeyUp.sent).filterMap Sent.stroke) := by
  have lifted : (sending.postFromMandatoryModifiersKeyUp front).current.eventsAtKeyUp = [] :=
    (Sending.eventsAtKeyUp_postFromMandatoryModifiers sending front).1.trans nothingKept
  have same : (sending.pressToEvents front toEvents).current.eventsAtKeyUp =
      ((sending.postFromMandatoryModifiersKeyUp front).postEventsAtKeyDown front
        toEvents).current.eventsAtKeyUp := by
    unfold Sending.pressToEvents
    dsimp only
    split
    · rfl
    · exact (Sending.eventsAtKeyUp_postFromMandatoryModifiers _ front).2
  rw [same]
  generalize sending.postFromMandatoryModifiersKeyUp front = up at lifted
  cases halted : up.current.halted with
  | true =>
      have idle : up.postEventsAtKeyDown front toEvents = up :=
        Sending.sendFiltered_of_halted halted front toEvents _
      unfold Sending.postedAtKeyDown Sending.entriesPosted
      rw [idle, List.drop_length, lifted]
      exact Balanced.nil
  | false =>
      obtain ⟨posted, kept, byPosition, emits, events, own, rfl⟩ :=
        up.emits_postEventsAtKeyDown front toEvents halted
      have isPosted : (up.postedAtKeyDown front toEvents).map Entry.sent = posted :=
        emits.sent_entriesPosted
      rw [isPosted, own, lifted, List.nil_append]
      exact byPosition.balanced

theorem keys_sendWhenHeldDown (sending : Sending) (front : Entry)
    (toEvents : List ToEventDefinition) :
    (sending.sendWhenHeldDown front toEvents).current.keys = sending.current.keys := by
  have pressed := (Basic.sends_sendAtKeyDown { OtherKeyRun.keyWithOtherKey with to_ := toEvents }
    front (sending.releaseToEvents front)).keys
  have released := (Sending.sends_postFromMandatoryModifiersKeyDown
    (sending.postEventsAtKeyUp front) front).1.keys
  have posted := (Sending.sends_postEventsAtKeyUp sending front).1.keys
  exact pressed.trans (released.trans posted)

omit [MachTimebase] in
theorem eventsAtKeyUp_releaseToEvents (sending : Sending) (front : Entry) :
    (sending.releaseToEvents front).current.eventsAtKeyUp = [] :=
  (Sending.eventsAtKeyUp_postFromMandatoryModifiers (sending.postEventsAtKeyUp front)
    front).2.trans (Sending.sends_postEventsAtKeyUp sending front).2

omit [ExpressionLibrary] in
/-- The record that the timer posts for is the one it is pending for. -/
theorem heldDownTarget_eq_some {manipulator : TimedBasic} {now : Int} {heldDown : ToIfHeldDown}
    {front : Entry} {record : SharedRecord}
    (found : manipulator.heldDownTarget now = some (heldDown, front, record)) :
    record ∈ manipulator.records ∧
      manipulator.pendingHeldDown = some (front, record.identity) := by
  unfold heldDownTarget at found
  obtain ⟨isTask, isHeldDown, found⟩ := Option.bind_eq_some_iff.mp found
  obtain ⟨due, isDue, found⟩ := Option.bind_eq_some_iff.mp found
  split at found
  · obtain ⟨⟨pendingFront, identity⟩, isSetUp, found⟩ := Option.bind_eq_some_iff.mp found
    obtain ⟨alive, isLocked, same⟩ := Option.map_eq_some_iff.mp found
    obtain ⟨rfl, rfl, rfl⟩ : isTask = heldDown ∧ pendingFront = front ∧ alive = record := by
      simpa using same
    obtain ⟨isRecord, rfl⟩ := lock_eq_some isLocked
    refine ⟨isRecord, ?_⟩
    unfold pendingHeldDown
    rw [isHeldDown, Option.bind_some, isDue]
    exact isSetUp
  · cases found

/-- The parts of what the timer posts. What it posts outside the list are key_ups, or key_downs
of modifiers that have been released. -/
theorem parts_sendWhenHeldDown {output : EventQueue} {heldDown : ToIfHeldDown} {front : Entry}
    {record : SharedRecord} {got : List Entry} (keeps : KeepsReleases record.current)
    (lifted : LiftedIn got front.deviceId record.current) :
    ∃ first last, (Sending.sendWhenHeldDown ⟨output, 0, record.current⟩ front
        heldDown.to_).queue.events =
          output.events ++ first ++ heldDownList output heldDown front record ++ last ∧
      ∀ entry ∈ first ++ last, Answered (got ++ first) entry := by
  obtain ⟨kept, keptEvents, isKept, -⟩ := (Sending.emits_postEventsAtKeyUp
    ⟨output, 0, record.current⟩ front).posted
  have stillLifted : LiftedIn got front.deviceId
      (Sending.postEventsAtKeyUp ⟨output, 0, record.current⟩ front).current := by
    rw [(Sending.settles_postEventsAtKeyUp ⟨output, 0, record.current⟩ front).2]
    exact lifted
  obtain ⟨pressed, pressedEvents, isPressed⟩ :=
    restore_postFromMandatoryModifiersKeyDown stillLifted
  have noneLifted := liftedIn_postFromMandatoryModifiersKeyDown [] front.deviceId
    (Sending.postEventsAtKeyUp ⟨output, 0, record.current⟩ front) front
  obtain ⟨first, last, events, isFirst, isLast, -⟩ := parts_pressToEvents heldDown.to_ noneLifted
  refine ⟨kept ++ pressed ++ first, last, ?_, ?_⟩
  · rw [← List.append_assoc, ← List.append_assoc]
    refine events.trans ?_
    rw [pressedEvents, keptEvents]
    rfl
  · have isKeyUp : ∀ entry ∈ kept, Answered got entry := by
      intro entry member isKeyDown
      have isSent : entry.sent ∈ kept.map Entry.sent := List.mem_map_of_mem member
      rw [isKept] at isSent
      obtain ⟨event, isEvent, same⟩ := List.mem_map.mp isSent
      have type : event.eventType = entry.eventType := congrArg Sent.eventType same
      exact absurd (type.trans isKeyDown) (keeps event isEvent)
    intro entry member
    simp only [List.mem_append] at member
    rcases member with ((inKept | inPressed) | inFirst) | inLast
    · exact (isKeyUp entry inKept).mono (List.subset_append_left _ _)
    · exact (isPressed entry inPressed).mono (List.subset_append_left _ _)
    · exact (isFirst entry inFirst).mono (List.nil_subset _)
    · apply (isLast entry inLast).mono
      rw [List.nil_append, ← List.append_assoc]
      exact List.subset_append_right _ _

/-- The record once the timer has posted for it. -/
def heldDownRecord (output : EventQueue) (heldDown : ToIfHeldDown) (front : Entry)
    (record : SharedRecord) : SharedRecord :=
  { record with
    current := (Sending.sendWhenHeldDown ⟨output, 0, record.current⟩ front heldDown.to_).current
    heldDown := true }

section Target

variable {manipulator : TimedBasic} {now : Int} {heldDown : ToIfHeldDown} {front : Entry}
  {record : SharedRecord}

/-- A timer that finds its record posts the list to it and keeps the events to be released with the
record. -/
theorem fireHeldDown_of_target
    (found : manipulator.heldDownTarget now = some (heldDown, front, record))
    (output : EventQueue) :
    manipulator.fireHeldDown output now =
      ((manipulator.change record.identity fun other =>
          { other with
            current := (heldDownRecord output heldDown front record).current
            heldDown := true }).stopHeldDown,
        (Sending.sendWhenHeldDown ⟨output, 0, record.current⟩ front heldDown.to_).queue) := by
  unfold fireHeldDown
  rw [found]
  rfl

theorem pendingHeldDown_fireHeldDown
    (found : manipulator.heldDownTarget now = some (heldDown, front, record))
    (output : EventQueue) : (manipulator.fireHeldDown output now).1.pendingHeldDown = none := by
  rw [fireHeldDown_of_target found]
  exact pendingHeldDown_stopHeldDown _

/-- After the timer has fired each record is one that was there before, or the record it has posted
for. -/
theorem mem_of_fireHeldDown (distinct : manipulator.Distinct)
    (found : manipulator.heldDownTarget now = some (heldDown, front, record))
    {output : EventQueue} {later : SharedRecord}
    (member : later ∈ (manipulator.fireHeldDown output now).1.records) :
    later ∈ manipulator.records ∧ later.identity ≠ record.identity ∨
      later = heldDownRecord output heldDown front record := by
  rw [fireHeldDown_of_target found] at member
  obtain ⟨earlier, isEarlier, rfl⟩ := List.mem_map.mp member
  split
  · rename_i same
    obtain rfl := distinct.eq isEarlier (heldDownTarget_eq_some found).1 same
    exact .inr rfl
  · rename_i other
    exact .inl ⟨isEarlier, other⟩

theorem mem_fireHeldDown_of_other
    (found : manipulator.heldDownTarget now = some (heldDown, front, record))
    (output : EventQueue) {other : SharedRecord} (isOther : other ∈ manipulator.records)
    (different : other.identity ≠ record.identity) :
    other ∈ (manipulator.fireHeldDown output now).1.records := by
  rw [fireHeldDown_of_target found]
  exact List.mem_map.mpr ⟨other, isOther, if_neg different⟩

theorem heldDownRecord_mem_fireHeldDown
    (found : manipulator.heldDownTarget now = some (heldDown, front, record))
    (output : EventQueue) : heldDownRecord output heldDown front record ∈
      (manipulator.fireHeldDown output now).1.records := by
  rw [fireHeldDown_of_target found]
  exact List.mem_map.mpr ⟨record, (heldDownTarget_eq_some found).1, if_pos rfl⟩

theorem fromEvents_heldDownRecord (output : EventQueue) (heldDown : ToIfHeldDown) (front : Entry)
    (record : SharedRecord) :
    (heldDownRecord output heldDown front record).current.fromEvents =
      record.current.fromEvents :=
  congrArg Prod.fst (keys_sendWhenHeldDown ⟨output, 0, record.current⟩ front heldDown.to_)

/-- The record is watched before and after the timer fires. -/
theorem narrows_fireHeldDown (distinct : manipulator.Distinct)
    (found : manipulator.heldDownTarget now = some (heldDown, front, record))
    (output : EventQueue) : Narrows manipulator (manipulator.fireHeldDown output now).1 := by
  obtain ⟨isRecord, isPending⟩ := heldDownTarget_eq_some found
  have stopped : ∀ task, (manipulator.fireHeldDown output now).1.pendingHeldDown = some task →
      manipulator.pendingHeldDown = some task := by
    intro task stillPending
    rw [pendingHeldDown_fireHeldDown found] at stillPending
    cases stillPending
  intro later isLater watches
  rcases mem_of_fireHeldDown distinct found isLater with ⟨isOther, -⟩ | rfl
  · exact ⟨later, isOther, watches.of_same stopped rfl rfl id, rfl, List.Subset.refl _⟩
  · refine ⟨record, isRecord, .inl ?_, rfl, ?_⟩
    · rw [isPending]
      rfl
    · rw [fromEvents_heldDownRecord]
      exact List.Subset.refl _

/-- The timer keeps what is known of the records. -/
theorem Sound.fireHeldDown_of_target {got : List Entry} (sound : manipulator.Sound got)
    (found : manipulator.heldDownTarget now = some (heldDown, front, record))
    (output : EventQueue) : (manipulator.fireHeldDown output now).1.Sound got where
  distinct := by
    rw [TimedBasic.fireHeldDown_of_target found]
    unfold Distinct change stopHeldDown
    rw [List.map_map]
    have same : ∀ other ∈ manipulator.records, (SharedRecord.identity ∘ fun other =>
        if other.identity = record.identity then
          { other with
            current := (heldDownRecord output heldDown front record).current
            heldDown := true }
        else other) other = other.identity := by
      intro other _
      rw [Function.comp_apply]
      split <;> rfl
    rw [List.map_congr_left same]
    exact sound.distinct
  made later isLater := by
    have made : (manipulator.fireHeldDown output now).1.made = manipulator.made := by
      rw [TimedBasic.fireHeldDown_of_target found]
      rfl
    rw [made]
    rcases mem_of_fireHeldDown sound.distinct found isLater with ⟨isOther, -⟩ | rfl
    · exact sound.made later isOther
    · exact sound.made record (heldDownTarget_eq_some found).1
  records later isLater := by
    have basic : (manipulator.fireHeldDown output now).1.basic = manipulator.basic := by
      rw [TimedBasic.fireHeldDown_of_target found]
      rfl
    rw [basic]
    rcases mem_of_fireHeldDown sound.distinct found isLater with ⟨isOther, -⟩ | rfl
    · exact sound.records later isOther
    · obtain ⟨isRecord, isPending⟩ := heldDownTarget_eq_some found
      obtain ⟨-, notReleased, -⟩ := sound.pending _ isPending record isRecord rfl
      have before := sound.records record isRecord
      have same := fromEvents_heldDownRecord output heldDown front record
      refine ⟨?_, ?_, ?_, fun posted => ?_, ?_⟩
      · rw [same]
        exact before.listed_iff
      · rw [same]
        exact before.tested
      · rw [same]
        exact before.own
      · have unchanged : (heldDownRecord output heldDown front record).current.keyUpPosted =
            record.current.keyUpPosted := congrArg (·.2.1)
          (keys_sendWhenHeldDown ⟨output, 0, record.current⟩ front heldDown.to_)
        rw [unchanged, notReleased] at posted
        cases posted
      · apply keepsReleases_pressToEvents front heldDown.to_
        unfold KeepsReleases
        rw [eventsAtKeyUp_releaseToEvents]
        exact fun _ member => absurd member List.not_mem_nil
  held := (narrows_fireHeldDown sound.distinct found output).held sound.held
  pending task isPending := by
    rw [pendingHeldDown_fireHeldDown found] at isPending
    cases isPending

/-- The record keeps the releases of what the timer has posted for it. -/
theorem owes_fireHeldDown
    (found : manipulator.heldDownTarget now = some (heldDown, front, record))
    (listed : record.listed = true) (output : EventQueue) :
    Owes (heldDownList output heldDown front record) record.keys record.since
      (manipulator.fireHeldDown output now).1 := by
  refine ⟨_, heldDownRecord_mem_fireHeldDown found output, listed, rfl, rfl, rfl, ?_⟩
  exact balanced_pressToEvents front heldDown.to_ (eventsAtKeyUp_releaseToEvents _ front)

/-- A record that the timer has posted for is not the one that it is pending for. -/
theorem Owes.fireHeldDown_of_target {posted : List Entry} {keys : List FromEvent}
    {since got : List Entry} (owes : Owes posted keys since manipulator)
    (sound : manipulator.Sound got)
    (found : manipulator.heldDownTarget now = some (heldDown, front, record))
    (output : EventQueue) :
    Owes posted keys since (manipulator.fireHeldDown output now).1 := by
  obtain ⟨isRecord, isPending⟩ := heldDownTarget_eq_some found
  obtain ⟨notPosted, -⟩ := sound.pending _ isPending record isRecord rfl
  obtain ⟨other, isOther, keeps⟩ := owes
  refine ⟨other, mem_fireHeldDown_of_other found output isOther fun same => ?_, keeps⟩
  obtain rfl := sound.distinct.eq isOther isRecord same
  rw [keeps.heldDown] at notPosted
  cases notPosted

end Target

/-- Without a record to post for the timer may stop. -/
theorem quiet_fireHeldDown {manipulator : TimedBasic} {now : Int}
    (none : manipulator.heldDownTarget now = none) (output : EventQueue) :
    Quiet manipulator (manipulator.fireHeldDown output now).1 ∧
      (manipulator.fireHeldDown output now).2 = output := by
  unfold fireHeldDown
  rw [none]
  dsimp only
  split
  · exact ⟨manipulator.quiet_stopHeldDown, rfl⟩
  · exact ⟨.refl manipulator, rfl⟩

end TimedBasic

end Karabiner
