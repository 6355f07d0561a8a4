import Mathlib.Data.List.Nodup
import Karabiner.Basic.Balance

/-! # What the loop over basic manipulators does to a key

At most one manipulator takes a key: the look-ahead claims the front key_down and other
key_downs that are queued, and a key_up goes to the first record that holds its key. All
other manipulators only note that a key was pressed (`Basic.quiet`).
-/

namespace Karabiner

namespace Basic

/-! ## The look-ahead -/

/-- What the look-ahead does with an entry within the threshold, and why. -/
inductive Notes (basic : Basic) (look : LookAhead) (entry : Entry) : LookAhead → Prop where
  | adds (type : entry.eventType = .keyDown)
      (tests : FromEventDefinition.testEvent entry.event basic.from_ = true)
      (absent : entry.event ∉ look.fromEvents.map FromEvent.event) :
      Notes basic look entry { look with
        fromEvents := look.fromEvents ++ [entry.fromEvent]
        orderedKeyDownEvents := look.orderedKeyDownEvents ++ [entry.event] }
  | keeps {noted : LookAhead} (fromEvents : noted.fromEvents = look.fromEvents)
      (ordered : noted.orderedKeyDownEvents = look.orderedKeyDownEvents)
      (notReleased : entry.eventType = .keyUp →
        basic.allFromEventsFound look.fromEvents = false → entry.fromEvent ∉ look.fromEvents)
      (uninterrupted : entry.eventType = .keyDown →
        basic.from_.simultaneousOptions.detectKeyDownUninterruptedly = false →
        basic.allFromEventsFound look.fromEvents = false →
        FromEventDefinition.testEvent entry.event basic.from_ = true) :
      Notes basic look entry noted
  | cancels : Notes basic look entry { look with isTarget := false }

/-- An entry is noted in one of these ways. -/
theorem notes_noteEntry (basic : Basic) (look : LookAhead) (entry : Entry) :
    Notes basic look entry (basic.noteEntry look entry) := by
  unfold Basic.noteEntry
  cases type : entry.eventType with
  | keyDown =>
      have notUp : ∀ {p : Prop}, entry.eventType = .keyUp → p := fun isUp => by
        rw [type] at isUp
        cases isUp
      dsimp only
      cases tests : FromEventDefinition.testEvent entry.event basic.from_ with
      | true =>
          rw [if_pos rfl]
          split
          · exact .keeps rfl rfl notUp fun _ _ _ => tests
          · rename_i absent
            refine .adds type tests fun member => absent ?_
            obtain ⟨fromEvent, found, same⟩ := List.mem_map.mp member
            exact List.any_eq_true.mpr ⟨fromEvent, found, decide_eq_true same⟩
      | false =>
          rw [if_neg Bool.false_ne_true]
          split
          · exact .cancels
          · rename_i kept
            refine .keeps rfl rfl notUp fun _ detect missing => ?_
            simp [detect, missing] at kept
  | keyUp =>
      have notDown : ∀ {p : Prop}, entry.eventType = .keyDown → p := fun isDown => by
        rw [type] at isDown
        cases isDown
      dsimp only
      split
      · split
        · exact .cancels
        · rename_i complete
          have notReleased : entry.eventType = .keyUp →
              basic.allFromEventsFound look.fromEvents = false →
                entry.fromEvent ∉ look.fromEvents := fun _ missing => by
            simp [missing] at complete
          split
          · exact .keeps rfl rfl notReleased notDown
          · exact .keeps rfl rfl notReleased notDown
      · rename_i notHeld
        exact .keeps rfl rfl (fun _ _ => notHeld) notDown
  | single =>
      exact .keeps rfl rfl (fun isUp => by rw [type] at isUp; cases isUp)
        fun isDown => by rw [type] at isDown; cases isDown

/-- What holds of the keys found so far. -/
structure LookAhead.Sound (basic : Basic) (entries : List Entry) (look : LookAhead) : Prop where
  distinct : (look.fromEvents.map FromEvent.event).Nodup
  tested : ∀ fromEvent ∈ look.fromEvents,
    FromEventDefinition.testEvent fromEvent.event basic.from_ = true
  queued : ∀ fromEvent ∈ look.fromEvents,
    ∃ entry ∈ entries, entry.fromEvent = fromEvent ∧ entry.eventType = .keyDown

/-- A key whose event was not found yet is added. -/
theorem nodup_addKey {fromEvents : List FromEvent} {entry : Entry}
    (nodup : (fromEvents.map FromEvent.event).Nodup)
    (absent : entry.event ∉ fromEvents.map FromEvent.event) :
    ((fromEvents ++ [entry.fromEvent]).map FromEvent.event).Nodup := by
  rw [List.map_append]
  refine List.nodup_append.mpr ⟨nodup, List.nodup_singleton _, ?_⟩
  intro event found new isNew equal
  have isEvent : new = entry.event := List.mem_singleton.mp isNew
  rw [equal, isEvent] at found
  exact absent found

/-- Noting an entry of the queue keeps the look ahead sound: it knows of keys of the queue only. -/
theorem LookAhead.Sound.noteEntry {basic : Basic} {entries : List Entry} {look : LookAhead}
    (sound : look.Sound basic entries) {entry : Entry} (member : entry ∈ entries) :
    (basic.noteEntry look entry).Sound basic entries := by
  have notes := notes_noteEntry basic look entry
  generalize basic.noteEntry look entry = noted at notes ⊢
  cases notes with
  | adds type tests absent =>
      exact ⟨nodup_addKey sound.distinct absent,
        List.forall_mem_append.mpr ⟨sound.tested, List.forall_mem_singleton.mpr tests⟩,
        List.forall_mem_append.mpr
          ⟨sound.queued, List.forall_mem_singleton.mpr ⟨entry, member, rfl, type⟩⟩⟩
  | keeps fromEvents =>
      refine ⟨?_, ?_, ?_⟩
      · rw [fromEvents]
        exact sound.distinct
      · rw [fromEvents]
        exact sound.tested
      · rw [fromEvents]
        exact sound.queued
  | cancels => exact ⟨sound.distinct, sound.tested, sound.queued⟩

/-- The whole look ahead is sound, however far it goes. -/
theorem LookAhead.Sound.lookAhead {basic : Basic} {entries : List Entry} (endTimeStamp : Int)
    {seen : List Entry} (subset : ∀ entry ∈ seen, entry ∈ entries) {look : LookAhead}
    (sound : look.Sound basic entries) :
    (basic.lookAhead endTimeStamp seen look).Sound basic entries := by
  induction seen generalizing look with
  | nil => exact sound
  | cons entry rest ih =>
      have others : ∀ other ∈ rest, other ∈ entries :=
        fun other member => subset other (List.mem_cons_of_mem _ member)
      unfold Basic.lookAhead
      split
      · exact sound
      · split
        · exact ih others sound
        · split
          · exact sound
          · exact ih others (sound.noteEntry (subset entry List.mem_cons_self))

/-- A key that has been found stays. -/
theorem mem_lookAhead {basic : Basic} (endTimeStamp : Int) (entries : List Entry)
    {look : LookAhead} {fromEvent : FromEvent} (found : fromEvent ∈ look.fromEvents) :
    fromEvent ∈ (basic.lookAhead endTimeStamp entries look).fromEvents := by
  induction entries generalizing look with
  | nil => exact found
  | cons entry rest ih =>
      have noted : fromEvent ∈ (basic.noteEntry look entry).fromEvents := by
        have notes := notes_noteEntry basic look entry
        generalize basic.noteEntry look entry = noted at notes ⊢
        cases notes with
        | adds type tests absent => exact List.mem_append_left _ found
        | keeps fromEvents ordered notReleased uninterrupted =>
            rw [fromEvents]
            exact found
        | cancels => exact found
      unfold lookAhead
      split
      · exact found
      · split
        · exact ih found
        · split
          · exact found
          · exact ih noted

/-- The keys that the look-ahead claims for a key_down of the front entry. -/
structure ClaimedKeys (basic : Basic) (front : Entry) (rest : List Entry)
    (fromEvents : List FromEvent) : Prop where
  own : front.fromEvent ∈ fromEvents
  nodup : fromEvents.Nodup
  tested : ∀ fromEvent ∈ fromEvents,
    FromEventDefinition.testEvent fromEvent.event basic.from_ = true
  queued : ∀ fromEvent ∈ fromEvents, fromEvent = front.fromEvent ∨
    ∃ entry ∈ rest, entry.fromEvent = fromEvent ∧ entry.eventType = .keyDown

/-- A look ahead that found its keys claims presses that are in the queue, each of them valid and
once. -/
theorem claimedKeys_lookAhead (basic : Basic) {front : Entry} (rest : List Entry)
    (endTimeStamp : Int) (isValid : front.validity = .valid) (isKeyDown : front.eventType = .keyDown)
    (tests : FromEventDefinition.testEvent front.event basic.from_ = true)
    (found : (basic.lookAhead endTimeStamp (front :: rest) ⟨true, [], [], []⟩).fromEvents ≠ []) :
    ClaimedKeys basic front rest
      (basic.lookAhead endTimeStamp (front :: rest) ⟨true, [], [], []⟩).fromEvents := by
  have sound : LookAhead.Sound basic (front :: rest)
      (basic.lookAhead endTimeStamp (front :: rest) ⟨true, [], [], []⟩) :=
    LookAhead.Sound.lookAhead endTimeStamp (fun _ member => member)
      ⟨List.nodup_nil, fun _ member => absurd member List.not_mem_nil,
        fun _ member => absurd member List.not_mem_nil⟩
  refine ⟨?_, List.Nodup.of_map _ sound.distinct, sound.tested, fun fromEvent member => ?_⟩
  · have first : basic.noteEntry ⟨true, [], [], []⟩ front =
        ⟨true, [front.fromEvent], [front.event], []⟩ := by
      unfold noteEntry
      rw [isKeyDown]
      dsimp only
      rw [if_pos tests]
      rfl
    unfold lookAhead at found ⊢
    rw [if_neg (by simp), isValid, if_neg (by simp)] at found ⊢
    split
    · rename_i early
      rw [if_pos early] at found
      exact absurd rfl found
    · rw [first]
      exact mem_lookAhead endTimeStamp rest List.mem_cons_self
  · obtain ⟨entry, isQueued, same, type⟩ := sound.queued fromEvent member
    rcases List.mem_cons.mp isQueued with rfl | later
    · exact .inl same.symm
    · exact .inr ⟨entry, later, same, type⟩

variable [MachTimebase]

/-- A decision leaves the key of the front entry as it is. -/
structure SameKey (front delayed : Entry) : Prop where
  fromEvent : delayed.fromEvent = front.fromEvent
  eventType : delayed.eventType = front.eventType
  validity : delayed.validity = front.validity

omit [MachTimebase] in
theorem SameKey.refl (front : Entry) : SameKey front front := ⟨rfl, rfl, rfl⟩

omit [MachTimebase] in
theorem SameKey.trans {first second third : Entry} (one : SameKey first second)
    (two : SameKey second third) : SameKey first third :=
  ⟨two.fromEvent.trans one.fromEvent, two.eventType.trans one.eventType,
    two.validity.trans one.validity⟩

/-- Deciding by the look ahead leaves the key of the front entry as it is, and claims keys only when
all of them are found. -/
theorem decideByLookAhead_spec {basic : Basic} {front : Entry} {rest : List Entry} {now : Int}
    {mandatory : List ModifierFlag} (isValid : front.validity = .valid)
    (isKeyDown : front.eventType = .keyDown)
    (tests : FromEventDefinition.testEvent front.event basic.from_ = true) :
    SameKey front (basic.decideByLookAhead front (front :: rest) now mandatory).2 ∧
      ∀ fromEvents modifiers,
        (basic.decideByLookAhead front (front :: rest) now mandatory).1 =
            .claims fromEvents modifiers →
          ClaimedKeys basic front rest fromEvents := by
  unfold decideByLookAhead
  dsimp only
  have claimed := claimedKeys_lookAhead basic rest
    (front.eventTimeStamp.timeStamp + basic.simultaneousThreshold) isValid isKeyDown tests
  generalize basic.lookAhead (front.eventTimeStamp.timeStamp + basic.simultaneousThreshold)
    (front :: rest) ⟨true, [], [], []⟩ = look at claimed ⊢
  split
  · exact ⟨SameKey.refl front, fun _ _ isClaim => by cases isClaim⟩
  · rename_i target
    have found : look.fromEvents ≠ [] := by
      intro none
      rw [none] at target
      simp at target
    split
    · split
      · exact ⟨⟨rfl, rfl, rfl⟩, fun _ _ isClaim => by cases isClaim⟩
      · split
        · exact ⟨⟨rfl, rfl, rfl⟩, fun _ _ isClaim => by cases isClaim⟩
        · refine ⟨⟨rfl, rfl, rfl⟩, fun fromEvents modifiers isClaim => ?_⟩
          obtain ⟨rfl, _⟩ := KeyDownDecision.claims.inj isClaim
          exact claimed found
    · refine ⟨SameKey.refl front, fun fromEvents modifiers isClaim => ?_⟩
      obtain ⟨rfl, _⟩ := KeyDownDecision.claims.inj isClaim
      exact claimed found

/-- Deciding what is done with a press leaves its key as it is, and a claim names keys that are
pressed in the queue. -/
theorem decideKeyDown_spec {basic : Basic} {front : Entry} {rest : List Entry}
    {output : EventQueue} {now : Int} (isValid : front.validity = .valid)
    (isKeyDown : front.eventType = .keyDown)
    (tests : FromEventDefinition.testEvent front.event basic.from_ = true) :
    SameKey front (basic.decideKeyDown front (front :: rest) output now).2.1 ∧
      ∀ fromEvents modifiers,
        (basic.decideKeyDown front (front :: rest) output now).1 = .claims fromEvents modifiers →
          ClaimedKeys basic front rest fromEvents := by
  unfold decideKeyDown
  split
  · exact ⟨SameKey.refl front, fun _ _ isClaim => by cases isClaim⟩
  · split
    · exact ⟨SameKey.refl front, fun _ _ isClaim => by cases isClaim⟩
    · split
      · exact ⟨SameKey.refl front, fun _ _ isClaim => by cases isClaim⟩
      · dsimp only
        split
        · exact decideByLookAhead_spec isValid isKeyDown tests
        · exact ⟨SameKey.refl front, fun _ _ isClaim => by cases isClaim⟩

/-! ## One manipulator -/

omit [MachTimebase] in
/-- A manipulator whose records have all been noted as not alone. -/
def quiet (basic : Basic) : Basic :=
  { basic with
    manipulatedOriginalEvents :=
      basic.manipulatedOriginalEvents.map ManipulatedOriginalEvent.unsetAlone }

omit [MachTimebase] in
@[simp] theorem quiet_unsetAloneIfNeeded (basic : Basic) (event : Event) (eventType : EventType) :
    (basic.unsetAloneIfNeeded event eventType).quiet = basic.quiet := by
  unfold unsetAloneIfNeeded quiet
  split
  · dsimp only
    rw [List.map_map]
    rfl
  · rfl

omit [MachTimebase] in
@[simp] theorem from_unsetAloneIfNeeded (basic : Basic) (event : Event) (eventType : EventType) :
    (basic.unsetAloneIfNeeded event eventType).from_ = basic.from_ := by
  unfold unsetAloneIfNeeded
  split <;> rfl

omit [MachTimebase] in
/-- The look-ahead does not read the records. -/
theorem lookAhead_records (basic : Basic) (records : List ManipulatedOriginalEvent)
    (endTimeStamp : Int) (entries : List Entry) (look : LookAhead) :
    { basic with manipulatedOriginalEvents := records }.lookAhead endTimeStamp entries look =
      basic.lookAhead endTimeStamp entries look := by
  induction entries generalizing look with
  | nil => rfl
  | cons entry rest ih =>
      unfold lookAhead
      rw [ih, ih]
      rfl

theorem decideKeyDown_records (basic : Basic) (records : List ManipulatedOriginalEvent)
    (front : Entry) (entries : List Entry) (output : EventQueue) (now : Int) :
    { basic with manipulatedOriginalEvents := records }.decideKeyDown front entries output now =
      basic.decideKeyDown front entries output now := by
  unfold decideKeyDown decideByLookAhead
  dsimp only
  rw [lookAhead_records]
  rfl

/-- Whether a key is taken does not depend on whether it is alone. -/
theorem decideKeyDown_unsetAloneIfNeeded (basic : Basic) (event : Event) (eventType : EventType)
    (front : Entry) (entries : List Entry) (output : EventQueue) (now : Int) :
    (basic.unsetAloneIfNeeded event eventType).decideKeyDown front entries output now =
      basic.decideKeyDown front entries output now := by
  unfold unsetAloneIfNeeded
  split
  · exact decideKeyDown_records basic _ front entries output now
  · rfl

omit [MachTimebase] in
theorem unsetAloneIfNeeded_keyUp {basic : Basic} {event : Event}
    (tests : FromEventDefinition.testEvent event basic.from_ = true) :
    basic.unsetAloneIfNeeded event .keyUp = basic := by
  obtain ⟨key, rfl⟩ := FromEventDefinition.momentarySwitchEvent_of_testEvent tests
  rfl

omit [MachTimebase] in
theorem findRecord_eq_none {fromEvent : FromEvent} {records : List ManipulatedOriginalEvent}
    (none : findRecord fromEvent records = none) :
    ∀ current ∈ records, fromEvent ∉ current.fromEvents := by
  induction records with
  | nil => exact fun _ member => absurd member List.not_mem_nil
  | cons current rest ih =>
      unfold findRecord at none
      split at none
      · cases none
      · rename_i absent
        intro other member
        rcases List.mem_cons.mp member with rfl | later
        · exact fun held => absent (decide_eq_true held)
        · exact ih (Option.map_eq_none_iff.mp none) other later

omit [MachTimebase] in
/-- The record that is found holds the key, and the others are those before and after it. -/
theorem findRecord_eq_some {fromEvent : FromEvent}
    {records before after : List ManipulatedOriginalEvent} {current : ManipulatedOriginalEvent}
    (found : findRecord fromEvent records = some (before, current, after)) :
    records = before ++ current :: after ∧ fromEvent ∈ current.fromEvents := by
  induction records generalizing before with
  | nil => cases found
  | cons first rest ih =>
      unfold findRecord at found
      split at found
      · rename_i held
        obtain ⟨rfl, rfl, rfl⟩ : [] = before ∧ first = current ∧ rest = after := by
          simpa using found
        exact ⟨rfl, of_decide_eq_true held⟩
      · obtain ⟨⟨later, other, others⟩, inRest, equal⟩ := Option.map_eq_some_iff.mp found
        obtain ⟨rfl, rfl, rfl⟩ : first :: later = before ∧ other = current ∧ others = after := by
          simpa using equal
        obtain ⟨split, held⟩ := ih inRest
        exact ⟨by rw [split]; rfl, held⟩

variable [ExpressionLibrary]

/-- An entry that is invalid, not of the `from`, or neither a key_down nor a key_up is
passed. -/
theorem manipulate_of_passes {basic : Basic} {front : Entry} (input output : EventQueue)
    (now : Int) (passes : front.validity = .invalid ∨
      FromEventDefinition.testEvent front.event basic.from_ = false ∨
        front.eventType = .single) :
    basic.manipulate front input output now =
      (.passed, basic.unsetAloneIfNeeded front.event front.eventType, front, output) := by
  unfold manipulate
  dsimp only
  split
  · rfl
  · rename_i isValid
    split
    · rename_i tests
      rw [from_unsetAloneIfNeeded] at tests
      rcases passes with invalid | fails | single
      · exact absurd invalid isValid
      · rw [tests] at fails
        cases fails
      · rw [single]
    · rfl

/-- What a key_down of the `from` does. -/
theorem manipulate_keyDown {basic : Basic} {front : Entry} (input output : EventQueue)
    (now : Int) (isValid : front.validity = .valid) (isKeyDown : front.eventType = .keyDown)
    (tests : FromEventDefinition.testEvent front.event basic.from_ = true) :
    basic.manipulate front input output now =
      (basic.unsetAloneIfNeeded front.event front.eventType).manipulateKeyDown front input output
        now := by
  unfold manipulate
  dsimp only
  rw [if_neg (by simp [isValid]), from_unsetAloneIfNeeded, if_pos tests, isKeyDown]

theorem manipulate_keyUp {basic : Basic} {front : Entry} (input output : EventQueue)
    (now : Int) (isValid : front.validity = .valid) (isKeyUp : front.eventType = .keyUp)
    (tests : FromEventDefinition.testEvent front.event basic.from_ = true) :
    basic.manipulate front input output now = basic.manipulateKeyUp front output := by
  unfold manipulate
  dsimp only
  rw [if_neg (by simp [isValid]), from_unsetAloneIfNeeded, if_pos tests, isKeyUp]
  dsimp only
  rw [unsetAloneIfNeeded_keyUp tests]

/-- Why a manipulator does what it does to a valid entry, and what it then returns. -/
inductive Handles (basic : Basic) (front : Entry) (rest : List Entry) (output : EventQueue)
    (now : Int) : ManipulateResult × Basic × Entry × EventQueue → Prop where
  | ignores (tests : FromEventDefinition.testEvent front.event basic.from_ = false) :
      Handles basic front rest output now
        (.passed, basic.unsetAloneIfNeeded front.event front.eventType, front, output)
  | single (tests : FromEventDefinition.testEvent front.event basic.from_ = true)
      (type : front.eventType = .single) :
      Handles basic front rest output now
        (.passed, basic.unsetAloneIfNeeded front.event front.eventType, front, output)
  | unheld (tests : FromEventDefinition.testEvent front.event basic.from_ = true)
      (type : front.eventType = .keyUp)
      (found : findRecord front.fromEvent basic.manipulatedOriginalEvents = none) :
      Handles basic front rest output now (.passed, basic, front, output)
  | releases {before after : List ManipulatedOriginalEvent} {current : ManipulatedOriginalEvent}
      {sent : Sending} (tests : FromEventDefinition.testEvent front.event basic.from_ = true)
      (type : front.eventType = .keyUp)
      (found : findRecord front.fromEvent basic.manipulatedOriginalEvents =
        some (before, current, after))
      (isSent : sent = basic.sendAtKeyUp front
        ⟨output, 0, current.eraseFromEvent front.fromEvent⟩) :
      Handles basic front rest output now
        (.manipulated, { basic with
          manipulatedOriginalEvents :=
            before ++ (if sent.current.fromEvents = [] then [] else [sent.current]) ++ after },
        { front with validity := .invalid }, finishSending sent)
  | notTarget {delayed : Entry} {environment : ManipulatorEnvironment}
      (tests : FromEventDefinition.testEvent front.event basic.from_ = true)
      (type : front.eventType = .keyDown)
      (decided : basic.decideKeyDown front (front :: rest) output now =
        (.notTarget, delayed, environment)) (same : SameKey front delayed) :
      Handles basic front rest output now
        (.passed, basic.unsetAloneIfNeeded front.event front.eventType, delayed,
          { output with manipulatorEnvironment := environment })
  | waits {delayed : Entry} {environment : ManipulatorEnvironment}
      (tests : FromEventDefinition.testEvent front.event basic.from_ = true)
      (type : front.eventType = .keyDown)
      (decided : basic.decideKeyDown front (front :: rest) output now =
        (.waits, delayed, environment)) (same : SameKey front delayed) :
      Handles basic front rest output now
        (.needsWaitUntilTimeStamp, basic.unsetAloneIfNeeded front.event front.eventType, delayed,
          postStopKeyboardRepeat { output with manipulatorEnvironment := environment } delayed)
  | claims {delayed : Entry} {environment : ManipulatorEnvironment} {fromEvents : List FromEvent}
      {mandatory : List ModifierFlag} {noted : Basic} {sent : Sending}
      (tests : FromEventDefinition.testEvent front.event basic.from_ = true)
      (type : front.eventType = .keyDown)
      (decided : basic.decideKeyDown front (front :: rest) output now =
        (.claims fromEvents mandatory, delayed, environment)) (same : SameKey front delayed)
      (isClaimed : ClaimedKeys basic front rest fromEvents)
      (isNoted : noted = basic.unsetAloneIfNeeded front.event front.eventType)
      (isSent : sent = noted.sendAtKeyDown delayed
        ⟨{ output with manipulatorEnvironment := environment }, 0,
          .make fromEvents mandatory front.eventTimeStamp.timeStamp
            output.modifierFlagManager.makeModifierFlags front.deviceId⟩) :
      Handles basic front rest output now
        (.manipulated, { noted with
          manipulatedOriginalEvents := noted.manipulatedOriginalEvents ++ [sent.current] },
        { delayed with validity := .invalid }, finishSending sent)

/-- A manipulator handles a valid entry in one of these ways. -/
theorem handles_manipulate (basic : Basic) {front : Entry} (rest : List Entry)
    (input output : EventQueue) (now : Int) (isValid : front.validity = .valid) :
    Handles basic front rest output now
      (basic.manipulate front { input with events := front :: rest } output now) := by
  cases tests : FromEventDefinition.testEvent front.event basic.from_ with
  | false =>
      rw [manipulate_of_passes _ output now (.inr (.inl tests))]
      exact .ignores tests
  | true =>
      cases type : front.eventType with
      | single =>
          rw [manipulate_of_passes _ output now (.inr (.inr type))]
          exact .single tests type
      | keyUp =>
          rw [manipulate_keyUp _ output now isValid type tests]
          unfold manipulateKeyUp
          cases found : findRecord front.fromEvent basic.manipulatedOriginalEvents with
          | none => exact .unheld tests type found
          | some parts => exact .releases tests type found rfl
      | keyDown =>
          have spec := @decideKeyDown_spec _ basic front rest output now isValid type tests
          rw [manipulate_keyDown _ output now isValid type tests]
          unfold manipulateKeyDown
          rw [decideKeyDown_unsetAloneIfNeeded]
          dsimp only
          cases decided : basic.decideKeyDown front (front :: rest) output now with
          | mk decision left =>
              rw [decided] at spec
              cases decision with
              | notTarget => exact .notTarget tests type decided spec.1
              | waits => exact .waits tests type decided spec.1
              | claims fromEvents mandatory =>
                  exact .claims tests type decided spec.1 (spec.2 fromEvents mandatory rfl) rfl rfl

end Basic

end Karabiner
