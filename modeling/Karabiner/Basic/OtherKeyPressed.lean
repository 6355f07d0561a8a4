import Karabiner.Basic.HeldKeys
import Karabiner.Basic.LookAhead
import Karabiner.Basic.ModifierDebt
import Karabiner.Foundation.Execution

/-! # Other keys that are pressed

`to_if_other_key_pressed` replaces what was sent for a `from` key by the list of an entry while
another key is pressed. The releases of that list are kept in one slot. A key_up of a `from` key
posts them, but the next key_down that is manipulated resets the slot and they are lost. In all
other runs every press of such a list is released (`OtherKeyRun.released_of_stepsMeet`).
-/

namespace Karabiner

open Foundation

/-- `to_if_other_key_pressed::entry`. -/
structure OtherKeyEntry where
  otherKeys : List FromEventDefinition
  to_ : List ToEventDefinition

/-- `to_if_other_key_pressed`. The record of the `from` key is given by its position among the
records of the manipulator; the device of the `from` key and the output queue are set and reset
together with it. -/
structure ToIfOtherKeyPressed where
  entries : List OtherKeyEntry
  fromRecord : Option (Nat × DeviceId)
  otherKeyRecord : Option ManipulatedOriginalEvent

/-- A basic manipulator with `to_if_other_key_pressed`. -/
structure OtherKeyBasic where
  basic : Basic
  task : ToIfOtherKeyPressed

namespace ToIfOtherKeyPressed

/-- `reset`. -/
def reset (task : ToIfOtherKeyPressed) : ToIfOtherKeyPressed :=
  { task with
    fromRecord := none
    otherKeyRecord := none }

/-- `setup` at a key_down. -/
def setup (task : ToIfOtherKeyPressed) (front : Entry) (position : Nat) : ToIfOtherKeyPressed :=
  { task.reset with fromRecord := some (position, front.deviceId) }

/-- The first entry with an other key that the event is and whose modifiers are pressed, and
the mandatory modifiers that are found. Of the other keys of an entry only the first one that
the event is counts. -/
def findOtherKey (event : Event) (manager : ModifierFlagManager) :
    List OtherKeyEntry → Option (OtherKeyEntry × List ModifierFlag)
  | [] => none
  | entry :: rest =>
      match entry.otherKeys.find? (FromEventDefinition.testEvent event) with
      | none => findOtherKey event manager rest
      | some definition =>
          match definition.fromModifiersDefinition.testModifiers manager with
          | none => findOtherKey event manager rest
          | some mandatory => some (entry, mandatory)

/-- The releases that the slot keeps. -/
def pending (task : ToIfOtherKeyPressed) : List Sent :=
  match task.otherKeyRecord with
  | some record => record.eventsAtKeyUp.map EventAtKeyUp.sent
  | none => []

/-- The start of `handle_other_key_pressed`: the entry that is triggered, with the mandatory
modifiers of its key and the record and the device of the `from` key. -/
def triggered (task : ToIfOtherKeyPressed) (front : Entry) (manager : ModifierFlagManager) :
    Option (OtherKeyEntry × List ModifierFlag × Nat × DeviceId) :=
  if front.eventType = .keyDown ∧ task.otherKeyRecord = none then
    match task.fromRecord with
    | none => none
    | some (position, deviceId) =>
        (findOtherKey front.event manager task.entries).map fun (entry, mandatory) =>
          (entry, mandatory, position, deviceId)
  else none

variable [ExpressionLibrary]

/-- The releases of the slot, as they are posted by `handle_from_key_up`. -/
def postedAtFromKeyUp (task : ToIfOtherKeyPressed) (front : Entry) (output : EventQueue) :
    List Entry :=
  match task.otherKeyRecord, task.fromRecord with
  | some record, some (_, deviceId) =>
      Sending.entriesPosted ⟨output, 0, record⟩
        (Sending.postEventsAtKeyUp ⟨output, 0, record⟩ { front with deviceId := deviceId })
  | _, _ => []

/-- `handle_from_key_up`. -/
def handleFromKeyUp (task : ToIfOtherKeyPressed) (front : Entry) (output : EventQueue) :
    ToIfOtherKeyPressed × EventQueue :=
  match task.otherKeyRecord, task.fromRecord with
  | some record, some (_, deviceId) =>
      (task.reset,
        (Sending.releaseToEvents ⟨output, 0, record⟩ { front with deviceId := deviceId }).queue)
  | _, _ => (task.reset, output)

end ToIfOtherKeyPressed

namespace OtherKeyBasic

variable [ExpressionLibrary]

/-- The `from` key is released for the other key, and the mandatory modifiers of the other key
are released. Everything is posted for the device of the `from` key. -/
def beforeToEvents (front : Entry) (mandatory : List ModifierFlag) (deviceId : DeviceId)
    (record : ManipulatedOriginalEvent) (output : EventQueue) : Sending × Sending :=
  let otherKey := ManipulatedOriginalEvent.make [front.fromEvent] mandatory
    front.eventTimeStamp.timeStamp output.modifierFlagManager.makeModifierFlags front.deviceId
  let own := { front with deviceId := deviceId }
  let released := Sending.releaseToEvents ⟨output, 0, record⟩ own
  (released, Sending.postFromMandatoryModifiersKeyUp
    ⟨released.queue, released.timeStampDelay, otherKey⟩ own)

variable [MachTimebase]

/-- `handle_other_key_pressed`. -/
def handleOtherKeyPressed (state : OtherKeyBasic) (front : Entry) (output : EventQueue) :
    OtherKeyBasic × EventQueue :=
  match state.task.triggered front output.modifierFlagManager with
  | none => (state, output)
  | some (entry, mandatory, position, deviceId) =>
      match state.basic.manipulatedOriginalEvents[position]? with
      | none =>
          -- The record of the `from` key is gone.
          let otherKey := ManipulatedOriginalEvent.make [front.fromEvent] mandatory
            front.eventTimeStamp.timeStamp output.modifierFlagManager.makeModifierFlags
            front.deviceId
          ({ state with task := { state.task with otherKeyRecord := some otherKey } }, output)
      | some record =>
          let own := { front with deviceId := deviceId }
          let (released, lifted) := beforeToEvents front mandatory deviceId record output
          let sent := lifted.postEventsAtKeyDown own entry.to_
          let pressed := if isLastToEventModifierKeyEvent entry.to_ then sent
            else sent.postFromMandatoryModifiersKeyDown own
          ({ basic := { state.basic with
                manipulatedOriginalEvents :=
                  state.basic.manipulatedOriginalEvents.set position released.current }
             task := { state.task with otherKeyRecord := some pressed.current } }, pressed.queue)

/-- What `handle_other_key_pressed` posts from the list of an entry. -/
def postedForOtherKey (state : OtherKeyBasic) (front : Entry) (output : EventQueue) :
    List Entry :=
  match state.task.triggered front output.modifierFlagManager with
  | none => []
  | some (entry, mandatory, position, deviceId) =>
      match state.basic.manipulatedOriginalEvents[position]? with
      | none => []
      | some record => (beforeToEvents front mandatory deviceId record output).2.postedAtKeyDown
          { front with deviceId := deviceId } entry.to_

/-- The key_down of `manipulate`. -/
def manipulateKeyDown (state : OtherKeyBasic) (front : Entry) (input output : EventQueue)
    (now : Int) : ManipulateResult × OtherKeyBasic × Entry × EventQueue :=
  let (result, basic, delayed, sent) := state.basic.manipulateKeyDown front input output now
  match result with
  | .manipulated =>
      (result, ⟨basic, state.task.setup front state.basic.manipulatedOriginalEvents.length⟩,
        delayed, sent)
  | _ => (result, { state with basic := basic }, delayed, sent)

/-- The key_up of `manipulate`. -/
def manipulateKeyUp (state : OtherKeyBasic) (front : Entry) (output : EventQueue) :
    ManipulateResult × OtherKeyBasic × Entry × EventQueue :=
  match Basic.findRecord front.fromEvent state.basic.manipulatedOriginalEvents with
  | none => (.passed, state, front, output)
  | some (before, current, after) =>
      let sent := state.basic.sendAtKeyUp front ⟨output, 0, current.eraseFromEvent front.fromEvent⟩
      let kept := if sent.current.fromEvents = [] then [] else [sent.current]
      let (task, queue) := state.task.handleFromKeyUp front sent.queue
      (.manipulated,
        { basic := { state.basic with manipulatedOriginalEvents := before ++ kept ++ after }
          task := task },
        { front with validity := .invalid }, Basic.finishSending { sent with queue := queue })

/-- What `handle_from_key_up` posts of the releases of the slot. -/
def postedForKeyUp (state : OtherKeyBasic) (front : Entry) (output : EventQueue) : List Entry :=
  match Basic.findRecord front.fromEvent state.basic.manipulatedOriginalEvents with
  | none => []
  | some (_, current, _) => state.task.postedAtFromKeyUp front (state.basic.sendAtKeyUp front
      ⟨output, 0, current.eraseFromEvent front.fromEvent⟩).queue

/-- The manipulator before its own keys are looked at. -/
def noted (state : OtherKeyBasic) (front : Entry) : OtherKeyBasic :=
  { state with basic := state.basic.unsetAloneIfNeeded front.event front.eventType }

/-- `basic::manipulate`. -/
def manipulate (state : OtherKeyBasic) (front : Entry) (input output : EventQueue) (now : Int) :
    ManipulateResult × OtherKeyBasic × Entry × EventQueue :=
  if front.validity = .invalid then (.passed, state.noted front, front, output)
  else
    let (handled, sent) := (state.noted front).handleOtherKeyPressed front output
    if FromEventDefinition.testEvent front.event state.basic.from_ then
      match front.eventType with
      | .keyDown => handled.manipulateKeyDown front input sent now
      | .keyUp => handled.manipulateKeyUp front sent
      | .single => (.passed, handled, front, sent)
    else (.passed, handled, front, sent)

/-- What `manipulate` posts from the lists of entries, and of their releases. -/
def postedForLists (state : OtherKeyBasic) (front : Entry) (output : EventQueue) : List Entry :=
  if front.validity = .invalid then []
  else
    let (handled, sent) := (state.noted front).handleOtherKeyPressed front output
    (state.noted front).postedForOtherKey front output ++
      (if FromEventDefinition.testEvent front.event state.basic.from_ ∧
          front.eventType = .keyUp then handled.postedForKeyUp front sent
        else [])

end OtherKeyBasic

/-! ## The slot -/

namespace OtherKeyBasic

variable [ExpressionLibrary] [MachTimebase]

omit [ExpressionLibrary] [MachTimebase] in
/-- The keys of the records. -/
def recordKeys (state : OtherKeyBasic) : List (List FromEvent) :=
  state.basic.manipulatedOriginalEvents.map ManipulatedOriginalEvent.fromEvents

omit [ExpressionLibrary] [MachTimebase] in
/-- The slot, the `from` and the keys of the records are the same, but for the record of another
key that may have been made. -/
structure SameSlot (before after : OtherKeyBasic) : Prop where
  from_ : after.basic.from_ = before.basic.from_
  fromRecord : after.task.fromRecord = before.task.fromRecord
  recordKeys : after.recordKeys = before.recordKeys
  setUp : after.task.otherKeyRecord ≠ none →
    before.task.otherKeyRecord ≠ none ∨ before.task.fromRecord ≠ none

omit [ExpressionLibrary] [MachTimebase] in
theorem SameSlot.refl (state : OtherKeyBasic) : SameSlot state state :=
  ⟨rfl, rfl, rfl, Or.inl⟩

omit [ExpressionLibrary] [MachTimebase] in
theorem SameSlot.trans {first second third : OtherKeyBasic} (one : SameSlot first second)
    (two : SameSlot second third) : SameSlot first third where
  from_ := two.from_.trans one.from_
  fromRecord := two.fromRecord.trans one.fromRecord
  recordKeys := two.recordKeys.trans one.recordKeys
  setUp isTriggered := by
    rcases two.setUp isTriggered with earlier | isSetUp
    · exact one.setUp earlier
    · exact .inr (one.fromRecord ▸ isSetUp)

omit [ExpressionLibrary] [MachTimebase] in
theorem sameSlot_noted (state : OtherKeyBasic) (front : Entry) :
    SameSlot state (state.noted front) := by
  refine ⟨?_, rfl, ?_, Or.inl⟩
  · unfold noted Basic.unsetAloneIfNeeded
    dsimp only
    split <;> rfl
  · unfold recordKeys noted Basic.unsetAloneIfNeeded
    dsimp only
    split
    · rw [List.map_map]
      rfl
    · rfl

omit [MachTimebase] in
/-- Releasing the `from` key keeps its record in place. -/
theorem fromEvents_releaseToEvents (sending : Sending) (front : Entry) :
    (sending.releaseToEvents front).current.fromEvents = sending.current.fromEvents := by
  have posted := congrArg Prod.fst (Sending.sends_postEventsAtKeyUp sending front).1.keys
  exact (congrArg Prod.fst (Sending.sends_postFromMandatoryModifiersKeyDown
    (sending.postEventsAtKeyUp front) front).1.keys).trans posted

/-- A key that is pressed meanwhile changes the state of the task only, not the manipulator around
it. -/
theorem sameSlot_handleOtherKeyPressed (state : OtherKeyBasic) (front : Entry)
    (output : EventQueue) : SameSlot state (state.handleOtherKeyPressed front output).1 := by
  unfold handleOtherKeyPressed
  cases found : state.task.triggered front output.modifierFlagManager with
  | none => exact SameSlot.refl state
  | some trigger =>
      obtain ⟨entry, mandatory, position, deviceId⟩ := trigger
      have isSetUp : state.task.fromRecord ≠ none := by
        intro none
        unfold ToIfOtherKeyPressed.triggered at found
        rw [none] at found
        split at found
        · cases found
        · cases found
      dsimp only
      cases isRecord : state.basic.manipulatedOriginalEvents[position]? with
      | none => exact ⟨rfl, rfl, rfl, fun _ => .inr isSetUp⟩
      | some record =>
          refine ⟨rfl, rfl, ?_, fun _ => .inr isSetUp⟩
          unfold recordKeys
          dsimp only
          obtain ⟨bound, isRecord⟩ := List.getElem?_eq_some_iff.mp isRecord
          have inside : position < (state.basic.manipulatedOriginalEvents.map
              ManipulatedOriginalEvent.fromEvents).length := by rwa [List.length_map]
          have keys : (beforeToEvents front mandatory deviceId record output).1.current.fromEvents =
              (state.basic.manipulatedOriginalEvents.map
                ManipulatedOriginalEvent.fromEvents)[position] := by
            rw [List.getElem_map, isRecord]
            exact fromEvents_releaseToEvents ⟨output, 0, record⟩ { front with deviceId := deviceId }
          rw [List.map_set, keys, List.set_getElem_self]

/-- A press of an entry's list is answered by the releases that are posted or kept. -/
theorem balanced_handleOtherKeyPressed (state : OtherKeyBasic) (front : Entry)
    (output : EventQueue) {log : List Sent}
    (balanced : Balanced ((log ++ state.task.pending).filterMap Sent.stroke)) :
    Balanced ((log ++ (state.postedForOtherKey front output).map Entry.sent ++
      (state.handleOtherKeyPressed front output).1.task.pending).filterMap Sent.stroke) := by
  unfold handleOtherKeyPressed postedForOtherKey
  cases found : state.task.triggered front output.modifierFlagManager with
  | none =>
      dsimp only
      rw [List.map_nil, List.append_nil]
      exact balanced
  | some trigger =>
      obtain ⟨entry, mandatory, position, deviceId⟩ := trigger
      have nothingKept : state.task.pending = [] := by
        unfold ToIfOtherKeyPressed.triggered at found
        split at found
        · rename_i untriggered
          unfold ToIfOtherKeyPressed.pending
          rw [untriggered.2]
        · cases found
      rw [nothingKept, List.append_nil] at balanced
      dsimp only
      cases isRecord : state.basic.manipulatedOriginalEvents[position]? with
      | none =>
          dsimp only
          rw [List.map_nil, List.append_nil]
          exact (List.append_nil log).symm ▸ balanced
      | some record =>
          dsimp only
          have fresh : (beforeToEvents front mandatory deviceId record output).2.current.halted =
                false ∧
              (beforeToEvents front mandatory deviceId record output).2.current.eventsAtKeyUp =
                [] := by
            unfold beforeToEvents Sending.postFromMandatoryModifiersKeyUp
            dsimp only
            rw [Sending.current_postLazyModifierKeyEvents]
            exact ⟨rfl, rfl⟩
          generalize (beforeToEvents front mandatory deviceId record output).2 = lifted at fresh ⊢
          obtain ⟨posted, kept, byPosition, emits, events, own, same⟩ :=
            lifted.emits_postEventsAtKeyDown { front with deviceId := deviceId } entry.to_ fresh.1
          have isPosted : (lifted.postedAtKeyDown { front with deviceId := deviceId }
              entry.to_).map Entry.sent = posted := emits.sent_entriesPosted
          rw [fresh.2, List.nil_append] at own
          have isKept : ∀ pressed : Sending,
              pressed.current.eventsAtKeyUp = (lifted.postEventsAtKeyDown
                { front with deviceId := deviceId } entry.to_).current.eventsAtKeyUp →
              pressed.current.eventsAtKeyUp.map EventAtKeyUp.sent = kept := by
            intro pressed unchanged
            rw [unchanged, own, same]
          rw [isPosted, List.append_assoc, List.filterMap_append]
          refine balanced.append ?_
          unfold ToIfOtherKeyPressed.pending
          dsimp only
          split
          · rw [isKept _ rfl]
            exact byPosition.balanced
          · rw [isKept _ (Sending.eventsAtKeyUp_postFromMandatoryModifiers _ _).2]
            exact byPosition.balanced

omit [MachTimebase] in
/-- The releases that the slot keeps are posted. -/
theorem balanced_handleFromKeyUp {task : ToIfOtherKeyPressed} (front : Entry)
    (output : EventQueue) (setUp : task.otherKeyRecord ≠ none → task.fromRecord ≠ none)
    {log : List Sent} (balanced : Balanced ((log ++ task.pending).filterMap Sent.stroke)) :
    Balanced ((log ++ (task.postedAtFromKeyUp front output).map Entry.sent ++
      (task.handleFromKeyUp front output).1.pending).filterMap Sent.stroke) := by
  unfold ToIfOtherKeyPressed.postedAtFromKeyUp ToIfOtherKeyPressed.handleFromKeyUp
  cases isRecord : task.otherKeyRecord with
  | none =>
      have nothingKept : task.pending = [] := by
        unfold ToIfOtherKeyPressed.pending
        rw [isRecord]
      rw [nothingKept] at balanced
      dsimp only
      rw [List.map_nil, List.append_nil]
      exact balanced
  | some record =>
      have kept : task.pending = record.eventsAtKeyUp.map EventAtKeyUp.sent := by
        unfold ToIfOtherKeyPressed.pending
        rw [isRecord]
      cases isSetUp : task.fromRecord with
      | none => exact absurd isSetUp (setUp (by rw [isRecord]; exact Option.some_ne_none record))
      | some origin =>
          dsimp only
          rw [(Sending.emits_postEventsAtKeyUp ⟨output, 0, record⟩ _).sent_entriesPosted, ← kept]
          exact (List.append_nil _).symm ▸ balanced

end OtherKeyBasic

/-! ## What is logged is posted -/

/-- Entries are added to a queue, the logged ones among them in order. -/
def EventQueue.Appends (logged : List Entry) (before after : EventQueue) : Prop :=
  ∃ entries, after.events = before.events ++ entries ∧ logged.Sublist entries

namespace EventQueue.Appends

variable {logged more : List Entry} {before middle after : EventQueue}

theorem of_eq (same : after.events = before.events) : Appends [] before after :=
  ⟨[], by rw [same, List.append_nil], .slnil⟩

theorem trans (first : Appends logged before middle) (second : Appends more middle after) :
    Appends (logged ++ more) before after := by
  obtain ⟨entries, events, isLogged⟩ := first
  obtain ⟨others, moreEvents, isMore⟩ := second
  exact ⟨entries ++ others, by rw [moreEvents, events, List.append_assoc], isLogged.append isMore⟩

/-- Nothing of what is posted has to be logged. -/
theorem of_settles {before after : Sending} (settles : Sending.Settles before after) :
    Appends [] before.queue after.queue := by
  obtain ⟨entries, events, -⟩ := settles
  exact ⟨entries, events, List.nil_sublist entries⟩

/-- All that is posted is logged. -/
theorem entriesPosted {before after : Sending} (settles : Sending.Settles before after) :
    Appends (before.entriesPosted after) before.queue after.queue := by
  obtain ⟨entries, events, -⟩ := settles
  rw [Sending.entriesPosted_of_append events]
  exact ⟨entries, events, .refl entries⟩

end EventQueue.Appends

namespace OtherKeyBasic

open EventQueue (Appends)

variable [ExpressionLibrary] [MachTimebase]

/-- Another key that is pressed appends the list of the matching entry to the output queue, and only
that. -/
theorem appends_handleOtherKeyPressed (state : OtherKeyBasic) (front : Entry)
    (output : EventQueue) :
    Appends (state.postedForOtherKey front output) output
      (state.handleOtherKeyPressed front output).2 := by
  unfold handleOtherKeyPressed postedForOtherKey
  cases state.task.triggered front output.modifierFlagManager with
  | none => exact .of_eq rfl
  | some trigger =>
      obtain ⟨entry, mandatory, position, deviceId⟩ := trigger
      dsimp only
      cases state.basic.manipulatedOriginalEvents[position]? with
      | none => exact .of_eq rfl
      | some record =>
          dsimp only
          have lifted : Appends [] output
              (beforeToEvents front mandatory deviceId record output).2.queue := by
            have released := Appends.of_settles (Sending.settles_releaseToEvents
              ⟨output, 0, record⟩ { front with deviceId := deviceId })
            unfold beforeToEvents
            dsimp only
            generalize Sending.releaseToEvents ⟨output, 0, record⟩
              { front with deviceId := deviceId } = after at released ⊢
            have lifted := Appends.of_settles (Sending.settles_postFromMandatoryModifiersKeyUp
              ⟨after.queue, after.timeStampDelay, .make [front.fromEvent] mandatory
                front.eventTimeStamp.timeStamp output.modifierFlagManager.makeModifierFlags
                front.deviceId⟩ { front with deviceId := deviceId })
            exact released.trans lifted
          generalize (beforeToEvents front mandatory deviceId record output).2 = before at lifted ⊢
          have listed := lifted.trans (Appends.entriesPosted (Sending.settles_postEventsAtKeyDown
            before { front with deviceId := deviceId } entry.to_))
          split
          · exact listed
          · have pressed := listed.trans (Appends.of_settles
              (Sending.settles_postFromMandatoryModifiersKeyDown _
                { front with deviceId := deviceId }))
            rw [List.append_nil] at pressed
            exact pressed

omit [MachTimebase] in
/-- The release of the key appends what was kept for it to the output queue, and only that. -/
theorem appends_handleFromKeyUp (task : ToIfOtherKeyPressed) (front : Entry)
    (output : EventQueue) :
    Appends (task.postedAtFromKeyUp front output) output (task.handleFromKeyUp front output).2 := by
  unfold ToIfOtherKeyPressed.postedAtFromKeyUp ToIfOtherKeyPressed.handleFromKeyUp
  cases task.otherKeyRecord with
  | none => exact .of_eq rfl
  | some record =>
      cases task.fromRecord with
      | none => exact .of_eq rfl
      | some origin =>
          let own := { front with deviceId := origin.2 }
          have posted := (Appends.entriesPosted
            (Sending.settles_postEventsAtKeyUp ⟨output, 0, record⟩ own).1).trans
            (Appends.of_settles (Sending.settles_postFromMandatoryModifiersKeyDown
              (Sending.postEventsAtKeyUp ⟨output, 0, record⟩ own) own))
          rw [List.append_nil] at posted
          exact posted

/-- What a call logs is among what it posts. -/
theorem appends_manipulate (state : OtherKeyBasic) (front : Entry) (input output : EventQueue)
    (now : Int) :
    Appends (state.postedForLists front output) output
      (state.manipulate front input output now).2.2.2 := by
  have finished : ∀ sending : Sending, Appends [] sending.queue (Basic.finishSending sending) := by
    intro sending
    refine .of_eq ?_
    unfold Basic.finishSending
    split <;> rfl
  unfold manipulate postedForLists
  split
  · exact .of_eq rfl
  · have handled := (state.noted front).appends_handleOtherKeyPressed front output
    dsimp only
    generalize (state.noted front).handleOtherKeyPressed front output = after at handled ⊢
    obtain ⟨after, sent⟩ := after
    dsimp only at handled ⊢
    cases tests : FromEventDefinition.testEvent front.event state.basic.from_ with
    | false =>
        rw [if_neg (fun both => Bool.false_ne_true both.1), List.append_nil,
          if_neg Bool.false_ne_true]
        exact handled
    | true =>
        rw [if_pos rfl]
        refine handled.trans ?_
        cases front.eventType with
        | single => exact .of_eq rfl
        | keyDown =>
            rw [if_neg (fun both => nomatch both.2)]
            unfold manipulateKeyDown Basic.manipulateKeyDown
            generalize after.basic.decideKeyDown front input.events sent now = decided
            obtain ⟨decision, delayed, environment⟩ := decided
            cases decision with
            | notTarget => exact .of_eq rfl
            | waits => exact ⟨[_], rfl, List.nil_sublist _⟩
            | claims fromEvents mandatory =>
                exact (Appends.of_settles (Sending.settles_pressToEvents
                  ⟨{ sent with manipulatorEnvironment := environment }, 0, _⟩ delayed
                  after.basic.to_)).trans (finished _)
        | keyUp =>
            rw [if_pos ⟨rfl, rfl⟩]
            unfold manipulateKeyUp postedForKeyUp
            cases Basic.findRecord front.fromEvent after.basic.manipulatedOriginalEvents with
            | none => exact .of_eq rfl
            | some parts =>
                obtain ⟨before, current, later⟩ := parts
                dsimp only
                have released := (Appends.of_settles (after.basic.settles_sendAtKeyUp front
                  ⟨sent, 0, current.eraseFromEvent front.fromEvent⟩)).trans
                  (appends_handleFromKeyUp after.task front _)
                have all := released.trans (finished
                  { after.basic.sendAtKeyUp front ⟨sent, 0, current.eraseFromEvent front.fromEvent⟩
                    with queue := (after.task.handleFromKeyUp front (after.basic.sendAtKeyUp front
                      ⟨sent, 0, current.eraseFromEvent front.fromEvent⟩).queue).2 })
                rw [List.append_nil] at all
                exact all

end OtherKeyBasic

/-! ## Runs -/

/-- A manipulator with its output queue, the entries it has handled, all that its calls have
added to the output queue, and which of that came from the lists of its entries and from their
releases. -/
structure OtherKeyRun where
  state : OtherKeyBasic
  output : EventQueue
  processed : List Entry
  posted : List Entry
  listed : List Entry

namespace OtherKeyRun

inductive Action where
  /-- The front entry of the input queue is manipulated; others are queued behind it. -/
  | manipulate (front : Entry) (queued : List Entry) (now : Int)
  /-- Other manipulators, the other optional tasks and the next stage change the output queue,
  and what the records have sent and keep. -/
  | others (output : EventQueue) (records : List ManipulatedOriginalEvent)

variable [ExpressionLibrary] [MachTimebase]

omit [ExpressionLibrary] [MachTimebase] in
/-- No key is pressed and nothing was posted. -/
def start (basic : Basic) (entries : List OtherKeyEntry) : OtherKeyRun :=
  ⟨⟨{ basic with manipulatedOriginalEvents := [] }, ⟨entries, none, none⟩⟩, .initial, [], [], []⟩

/-- A key_down that a record has taken already is not manipulated again. -/
def step (run : OtherKeyRun) : Action → OtherKeyRun
  | .manipulate front queued now =>
      if front.validity = .valid ∧ run.state.basic.alreadyManipulated front then
        { run with processed := run.processed ++ [front] }
      else
        let (result, state, _, output) := run.state.manipulate front
          { EventQueue.initial with events := front :: queued } run.output now
        { state := state
          output := output
          processed := if result = .needsWaitUntilTimeStamp then run.processed
            else run.processed ++ [front]
          posted := run.posted ++ output.events.drop run.output.events.length
          listed := run.listed ++ run.state.postedForLists front run.output }
  | .others output records =>
      { run with
        state := { run.state with
          basic := { run.state.basic with manipulatedOriginalEvents := records } }
        output := output }

omit [ExpressionLibrary] [MachTimebase] in
/-- The entries of each key alternate. Another manipulator may have taken an entry, if its key
is in no record of this one. The keys of the records are not changed by others. -/
def WellFormed (run : OtherKeyRun) : Action → Prop
  | .manipulate front _ _ =>
      (front.event.momentarySwitchEvent?.isSome →
        heldCount front.fromEvent (run.processed ++ [front]) = 0 ∨
          heldCount front.fromEvent (run.processed ++ [front]) = 1) ∧
        (front.validity = .valid ∨
          ∀ current ∈ run.state.basic.manipulatedOriginalEvents,
            front.fromEvent ∉ current.fromEvents)
  | .others _ records =>
      records.map ManipulatedOriginalEvent.fromEvents = run.state.recordKeys

/-- Whether a decision takes the keys. -/
def isClaim : Basic.KeyDownDecision → Bool
  | .claims _ _ => true
  | .notTarget | .waits => false

/-- No key_down is taken while the slot keeps releases. -/
def KeepsReleases (run : OtherKeyRun) : Action → Prop
  | .manipulate front queued now =>
      let (handled, sent) := (run.state.noted front).handleOtherKeyPressed front run.output
      front.validity = .valid → front.eventType = .keyDown →
        FromEventDefinition.testEvent front.event run.state.basic.from_ = true →
        run.state.basic.alreadyManipulated front = false →
        isClaim (handled.basic.decideKeyDown front (front :: queued) sent now).1 = true →
        handled.task.pending = []
  | .others _ _ => True

omit [ExpressionLibrary] [MachTimebase] in
instance (run : OtherKeyRun) : ∀ action, Decidable (run.WellFormed action)
  | .manipulate _ _ _ => inferInstanceAs (Decidable ((_ → _ ∨ _) ∧ (_ ∨ _)))
  | .others _ _ => inferInstanceAs (Decidable (_ = _))

instance (run : OtherKeyRun) : ∀ action, Decidable (run.KeepsReleases action)
  | .manipulate _ _ _ => inferInstanceAs (Decidable (_ → _ → _ → _ → _ → _ = _))
  | .others _ _ => isTrue trivial

omit [ExpressionLibrary] [MachTimebase] in
/-- What comes from the lists of entries and from their releases is in the output queue, in this
order, among the entries that the calls have added to it. -/
def Logged (run : OtherKeyRun) : Prop :=
  run.listed.Sublist run.posted

omit [ExpressionLibrary] [MachTimebase] in
/-- Once no key of the `from` is held, every press that was added to the output queue from the
list of an entry is answered by a release of the same event and device behind it there. -/
def Released (run : OtherKeyRun) : Prop :=
  (∀ fromEvent, FromEventDefinition.testEvent fromEvent.event run.state.basic.from_ = true →
    heldCount fromEvent run.processed = 0) →
  run.listed.Sublist run.posted ∧ Balanced (run.listed.filterMap fun entry => entry.sent.stroke)

omit [ExpressionLibrary] [MachTimebase] in
/-- What holds while no releases are lost. A key of the record that the slot was set up for is
held. -/
structure Sound (run : OtherKeyRun) : Prop where
  alternates : ∀ fromEvent key, fromEvent.event = .momentarySwitchEvent key →
    heldCount fromEvent run.processed = 0 ∨ heldCount fromEvent run.processed = 1
  balanced : Balanced ((run.listed.map Entry.sent ++ run.state.task.pending).filterMap Sent.stroke)
  setUp : run.state.task.otherKeyRecord ≠ none → run.state.task.fromRecord ≠ none
  held : ∀ position deviceId, run.state.task.fromRecord = some (position, deviceId) →
    ∃ keys, run.state.recordKeys[position]? = some keys ∧ ∃ fromEvent ∈ keys,
      FromEventDefinition.testEvent fromEvent.event run.state.basic.from_ = true ∧
        heldCount fromEvent run.processed = 1

omit [ExpressionLibrary] [MachTimebase] in
theorem sound_start (basic : Basic) (entries : List OtherKeyEntry) :
    (start basic entries).Sound :=
  ⟨fun _ _ _ => .inl rfl, Balanced.nil, fun set => absurd rfl set,
    fun _ _ isSetUp => nomatch isSetUp⟩

omit [ExpressionLibrary] [MachTimebase] in
theorem logged_start (basic : Basic) (entries : List OtherKeyEntry) :
    (start basic entries).Logged :=
  List.Sublist.refl []

omit [ExpressionLibrary] [MachTimebase] in
theorem heldCount_concat (fromEvent : FromEvent) (processed : List Entry) (front : Entry) :
    heldCount fromEvent (processed ++ [front]) = heldCount fromEvent processed +
      if front.fromEvent = fromEvent then front.eventType.count else 0 := by
  rw [heldCount_append, heldCount_singleton]

omit [ExpressionLibrary] [MachTimebase] in
/-- The keys go on alternating. -/
theorem Sound.alternates_concat {run : OtherKeyRun} (sound : run.Sound) {front : Entry}
    {queued : List Entry} {now : Int} (wellFormed : run.WellFormed (.manipulate front queued now)) :
    ∀ fromEvent key, fromEvent.event = .momentarySwitchEvent key →
      heldCount fromEvent (run.processed ++ [front]) = 0 ∨
        heldCount fromEvent (run.processed ++ [front]) = 1 := by
  intro fromEvent key isKey
  by_cases own : front.fromEvent = fromEvent
  · subst own
    have event : front.event = .momentarySwitchEvent key := isKey
    exact wellFormed.1 (by rw [event]; rfl)
  · rw [heldCount_concat, if_neg own, Int.add_zero]
    exact sound.alternates fromEvent key isKey

omit [ExpressionLibrary] [MachTimebase] in
/-- An entry after which the slot is set up for the same record, and which is not the key_up of a
key of it. -/
theorem Sound.advance {run : OtherKeyRun} (sound : run.Sound) {front : Entry}
    {queued : List Entry} {now : Int} (wellFormed : run.WellFormed (.manipulate front queued now))
    {state : OtherKeyBasic} (same : OtherKeyBasic.SameSlot run.state state) (output : EventQueue)
    (posted : List Entry) {listed : List Entry}
    (balanced : Balanced ((listed.map Entry.sent ++ state.task.pending).filterMap Sent.stroke))
    (notReleased : front.eventType = .keyUp → ∀ keys ∈ run.state.recordKeys,
      ∀ fromEvent ∈ keys,
        FromEventDefinition.testEvent fromEvent.event run.state.basic.from_ = true →
          front.fromEvent ≠ fromEvent) :
    Sound ⟨state, output, run.processed ++ [front], posted, listed⟩ where
  alternates := sound.alternates_concat wellFormed
  balanced := balanced
  setUp isTriggered := by
    rw [same.fromRecord]
    exact (same.setUp isTriggered).elim sound.setUp id
  held position deviceId isSetUp := by
    dsimp only at isSetUp ⊢
    rw [same.fromRecord] at isSetUp
    obtain ⟨keys, isRecord, fromEvent, member, tested, count⟩ :=
      sound.held position deviceId isSetUp
    rw [same.recordKeys, same.from_]
    refine ⟨keys, isRecord, fromEvent, member, tested, ?_⟩
    obtain ⟨key, isKey⟩ := FromEventDefinition.momentarySwitchEvent_of_testEvent tested
    have next := sound.alternates_concat wellFormed fromEvent key isKey
    rw [heldCount_concat, count] at next ⊢
    by_cases own : front.fromEvent = fromEvent
    · rw [if_pos own] at next ⊢
      cases type : front.eventType with
      | keyDown =>
          rw [type] at next
          exact absurd next (by decide)
      | keyUp =>
          exact absurd own (notReleased type keys (List.mem_of_getElem? isRecord) fromEvent member
            tested)
      | single => rfl
    · rw [if_neg own]
      rfl

/-- What `handle_other_key_pressed` makes of the log. -/
theorem Sound.handled {run : OtherKeyRun} (sound : run.Sound) (front : Entry) :
    OtherKeyBasic.SameSlot run.state
        ((run.state.noted front).handleOtherKeyPressed front run.output).1 ∧
      Balanced (((run.listed ++ (run.state.noted front).postedForOtherKey front run.output).map
          Entry.sent ++ ((run.state.noted front).handleOtherKeyPressed front
            run.output).1.task.pending).filterMap Sent.stroke) := by
  refine ⟨(run.state.sameSlot_noted front).trans
    ((run.state.noted front).sameSlot_handleOtherKeyPressed front run.output), ?_⟩
  rw [List.map_append]
  exact (run.state.noted front).balanced_handleOtherKeyPressed front run.output sound.balanced

/-- A key_down of a key of the `from`. -/
theorem Sound.keyDown {run : OtherKeyRun} (sound : run.Sound) {front : Entry}
    {queued : List Entry} {now : Int} (wellFormed : run.WellFormed (.manipulate front queued now))
    (isValid : front.validity = .valid) (isKeyDown : front.eventType = .keyDown)
    (tests : FromEventDefinition.testEvent front.event run.state.basic.from_ = true)
    {handled : OtherKeyBasic} {sent input : EventQueue} (posted : List Entry)
    {listed : List Entry} (same : OtherKeyBasic.SameSlot run.state handled)
    (balanced : Balanced ((listed.map Entry.sent ++ handled.task.pending).filterMap Sent.stroke))
    (isInput : input.events = front :: queued)
    (keeps : isClaim (handled.basic.decideKeyDown front (front :: queued) sent now).1 = true →
      handled.task.pending = []) :
    let result := handled.manipulateKeyDown front input sent now
    Sound ⟨result.2.1, result.2.2.2, if result.1 = .needsWaitUntilTimeStamp then run.processed
      else run.processed ++ [front], posted, listed⟩ := by
  rw [← same.from_] at tests
  have spec := @Basic.decideKeyDown_spec _ handled.basic front queued sent now isValid isKeyDown
    tests
  have notKeyUp : front.eventType = .keyUp → ∀ keys ∈ run.state.recordKeys,
      ∀ fromEvent ∈ keys, FromEventDefinition.testEvent fromEvent.event run.state.basic.from_ =
        true → front.fromEvent ≠ fromEvent := by
    rw [isKeyDown]
    exact nofun
  unfold OtherKeyBasic.manipulateKeyDown Basic.manipulateKeyDown
  rw [isInput]
  generalize handled.basic.decideKeyDown front (front :: queued) sent now = decided at spec keeps
  obtain ⟨decision, delayed, environment⟩ := decided
  cases decision with
  | notTarget => exact sound.advance wellFormed same _ posted balanced notKeyUp
  | waits =>
      refine ⟨sound.alternates, balanced, fun isTriggered => ?_,
        fun position deviceId isSetUp => ?_⟩
      · dsimp only at isTriggered ⊢
        rw [same.fromRecord]
        exact (same.setUp isTriggered).elim sound.setUp id
      · dsimp only at isSetUp ⊢
        rw [same.fromRecord] at isSetUp
        rw [same.recordKeys, same.from_]
        exact sound.held position deviceId isSetUp
  | claims fromEvents mandatory =>
      rw [keeps rfl, List.append_nil] at balanced
      have claimed := spec.2 fromEvents mandatory rfl
      refine ⟨sound.alternates_concat wellFormed, ?_, fun isTriggered => absurd rfl isTriggered,
        fun position deviceId isSetUp => ?_⟩
      · exact (List.append_nil _).symm ▸ balanced
      · obtain ⟨rfl, rfl⟩ := Prod.mk.inj (Option.some.inj isSetUp)
        have keys := congrArg Prod.fst (handled.basic.sends_sendAtKeyDown delayed
          ⟨{ sent with manipulatorEnvironment := environment }, 0,
            .make fromEvents mandatory front.eventTimeStamp.timeStamp
              sent.modifierFlagManager.makeModifierFlags front.deviceId⟩).keys
        refine ⟨fromEvents, ?_, front.fromEvent, claimed.own, tests, ?_⟩
        · unfold OtherKeyBasic.recordKeys
          dsimp only
          rw [List.map_append, List.getElem?_append_right (by rw [List.length_map]),
            List.length_map, Nat.sub_self]
          exact congrArg some keys
        · obtain ⟨key, isKey⟩ := FromEventDefinition.momentarySwitchEvent_of_testEvent tests
          have before := sound.alternates front.fromEvent key isKey
          have after := sound.alternates_concat wellFormed front.fromEvent key isKey
          change heldCount front.fromEvent (run.processed ++ [front]) = 1
          rw [heldCount_concat, if_pos rfl, isKeyDown] at after ⊢
          change _ + (1 : Int) = 0 ∨ _ + (1 : Int) = 1 at after
          change _ + (1 : Int) = 1
          omega

/-- A key_up of a key of the `from`. -/
theorem Sound.keyUp {run : OtherKeyRun} (sound : run.Sound) {front : Entry}
    {queued : List Entry} {now : Int} (wellFormed : run.WellFormed (.manipulate front queued now))
    {handled : OtherKeyBasic} {sent : EventQueue} (posted : List Entry) {listed : List Entry}
    (same : OtherKeyBasic.SameSlot run.state handled)
    (balanced : Balanced ((listed.map Entry.sent ++ handled.task.pending).filterMap
      Sent.stroke)) :
    let result := handled.manipulateKeyUp front sent
    Sound ⟨result.2.1, result.2.2.2, run.processed ++ [front], posted,
      listed ++ handled.postedForKeyUp front sent⟩ := by
  unfold OtherKeyBasic.manipulateKeyUp OtherKeyBasic.postedForKeyUp
  cases found : Basic.findRecord front.fromEvent handled.basic.manipulatedOriginalEvents with
  | none =>
      dsimp only
      rw [List.append_nil]
      refine sound.advance wellFormed same _ posted balanced
        fun _ keys isRecord fromEvent member _ own => ?_
      rw [← same.recordKeys] at isRecord
      obtain ⟨current, isCurrent, rfl⟩ := List.mem_map.mp isRecord
      exact Basic.findRecord_eq_none found current isCurrent (own ▸ member)
  | some parts =>
      obtain ⟨before, current, after⟩ := parts
      dsimp only
      have setUp : handled.task.otherKeyRecord ≠ none → handled.task.fromRecord ≠ none := by
        intro isTriggered
        rw [same.fromRecord]
        exact (same.setUp isTriggered).elim sound.setUp id
      have released := OtherKeyBasic.balanced_handleFromKeyUp front (handled.basic.sendAtKeyUp front
        ⟨sent, 0, current.eraseFromEvent front.fromEvent⟩).queue setUp balanced
      have reset : ∀ output,
          (handled.task.handleFromKeyUp front output).1 = handled.task.reset := by
        intro output
        unfold ToIfOtherKeyPressed.handleFromKeyUp
        split <;> rfl
      rw [reset] at released ⊢
      refine ⟨sound.alternates_concat wellFormed, ?_, fun isTriggered => absurd rfl isTriggered,
        fun _ _ isSetUp => nomatch isSetUp⟩
      rw [List.map_append]
      exact released

/-- A call keeps what is known. -/
theorem Sound.manipulate {run : OtherKeyRun} (sound : run.Sound) (front : Entry)
    (queued : List Entry) (now : Int) (wellFormed : run.WellFormed (.manipulate front queued now))
    (keeps : run.KeepsReleases (.manipulate front queued now)) :
    (run.step (.manipulate front queued now)).Sound := by
  unfold OtherKeyRun.step
  dsimp only
  split
  · rename_i taken
    refine sound.advance wellFormed (.refl run.state) run.output run.posted sound.balanced
      fun isKeyUp => ?_
    have isTaken := taken.2
    unfold Basic.alreadyManipulated at isTaken
    rw [isKeyUp] at isTaken
    cases isTaken
  · rename_i notTaken
    unfold OtherKeyBasic.manipulate OtherKeyBasic.postedForLists
    cases validity : front.validity with
    | invalid =>
        rw [if_pos rfl, if_pos rfl, List.append_nil]
        refine sound.advance wellFormed (run.state.sameSlot_noted front) run.output _
          sound.balanced fun _ keys isRecord fromEvent member _ own => ?_
        obtain ⟨current, isCurrent, rfl⟩ := List.mem_map.mp isRecord
        rcases wellFormed.2 with isValid | notHeld
        · rw [validity] at isValid
          cases isValid
        · exact notHeld current isCurrent (own ▸ member)
    | valid =>
        have notInvalid : Validity.valid ≠ .invalid := by decide
        rw [if_neg notInvalid, if_neg notInvalid]
        obtain ⟨same, balanced⟩ := sound.handled front
        unfold KeepsReleases at keeps
        dsimp only at keeps
        generalize (run.state.noted front).handleOtherKeyPressed front run.output = after
          at same balanced keeps ⊢
        obtain ⟨handled, sent⟩ := after
        dsimp only at same balanced keeps ⊢
        rw [← List.append_assoc]
        generalize run.listed ++ (run.state.noted front).postedForOtherKey front run.output =
          listed at balanced ⊢
        cases tests : FromEventDefinition.testEvent front.event run.state.basic.from_ with
        | false =>
            simp only [Bool.false_eq_true, false_and, reduceCtorEq, ↓reduceIte, List.append_nil]
            refine sound.advance wellFormed same sent _ balanced
              fun _ _ _ fromEvent _ tested own => ?_
            rw [← own] at tested
            exact Bool.false_ne_true (tests.symm.trans tested)
        | true =>
            simp only [true_and, ↓reduceIte]
            cases type : front.eventType with
            | single =>
                simp only [reduceCtorEq, ↓reduceIte, List.append_nil]
                exact sound.advance wellFormed same sent _ balanced fun isKeyUp => by
                  rw [type] at isKeyUp
                  cases isKeyUp
            | keyUp =>
                simp only [↓reduceIte]
                have released := fun posted => @Sound.keyUp _ _ run sound front queued now
                  wellFormed handled sent posted listed same balanced
                dsimp only at released ⊢
                have running : (handled.manipulateKeyUp front sent).1 ≠
                    .needsWaitUntilTimeStamp := by
                  unfold OtherKeyBasic.manipulateKeyUp
                  split <;> exact nofun
                rw [if_neg running]
                exact released _
            | keyDown =>
                simp only [reduceCtorEq, ↓reduceIte, List.append_nil]
                refine sound.keyDown wellFormed validity type tests _ same balanced rfl
                  fun isClaimed => ?_
                refine keeps validity type tests ?_ isClaimed
                rw [validity] at notTaken
                exact Bool.not_eq_true _ ▸ fun isTaken => notTaken ⟨rfl, isTaken⟩

theorem Sound.step {run : OtherKeyRun} (sound : run.Sound) (action : Action)
    (wellFormed : run.WellFormed action) (keeps : run.KeepsReleases action) :
    (run.step action).Sound := by
  cases action with
  | others output records =>
      have same : OtherKeyBasic.SameSlot run.state { run.state with
          basic := { run.state.basic with manipulatedOriginalEvents := records } } :=
        ⟨rfl, rfl, wellFormed, Or.inl⟩
      refine ⟨sound.alternates, sound.balanced, sound.setUp, fun position deviceId isSetUp => ?_⟩
      unfold OtherKeyRun.step
      dsimp only
      rw [same.recordKeys]
      exact sound.held position deviceId isSetUp
  | manipulate front queued now => exact sound.manipulate front queued now wellFormed keeps

/-- What a call logs it has added to the output queue. -/
theorem Logged.step {run : OtherKeyRun} (logged : run.Logged) (action : Action) :
    (run.step action).Logged := by
  cases action with
  | others output records => exact logged
  | manipulate front queued now =>
      unfold OtherKeyRun.step
      dsimp only
      split
      · exact logged
      · obtain ⟨entries, added, isLogged⟩ := run.state.appends_manipulate front
          { EventQueue.initial with events := front :: queued } run.output now
        change (run.listed ++ run.state.postedForLists front run.output).Sublist
          (run.posted ++ (run.state.manipulate front { EventQueue.initial with
            events := front :: queued } run.output now).2.2.2.events.drop
              run.output.events.length)
        rw [added, List.drop_left]
        exact logged.append isLogged

omit [ExpressionLibrary] [MachTimebase] in
/-- The slot is empty while no key of the `from` is held. -/
theorem Sound.released {run : OtherKeyRun} (sound : run.Sound) (logged : run.Logged) :
    run.Released := by
  intro noneHeld
  refine ⟨logged, ?_⟩
  have notSetUp : run.state.task.fromRecord = none := by
    cases isSetUp : run.state.task.fromRecord with
    | none => rfl
    | some origin =>
        obtain ⟨-, -, fromEvent, -, tested, count⟩ := sound.held origin.1 origin.2 isSetUp
        rw [noneHeld fromEvent tested] at count
        cases count
  have notTriggered : run.state.task.otherKeyRecord = none := by
    by_contra isTriggered
    exact sound.setUp isTriggered notSetUp
  have balanced := sound.balanced
  unfold ToIfOtherKeyPressed.pending at balanced
  rw [notTriggered, List.append_nil, List.filterMap_map] at balanced
  exact balanced

/-- In every run in which no key_down is taken while the slot keeps releases, all presses that the
lists of entries have added to the output queue are released there. -/
theorem released_of_stepsMeet (basic : Basic) (entries : List OtherKeyEntry)
    (actions : List Action)
    (wellFormed : Foundation.Execution.StepsMeet step WellFormed (start basic entries) actions)
    (keeps : Foundation.Execution.StepsMeet step KeepsReleases (start basic entries) actions) :
    (actions.foldl step (start basic entries)).Released := by
  have sound : (actions.foldl step (start basic entries)).Sound :=
    @Foundation.Execution.invariant_of_stepsMeet _ _ step Sound
      (fun run action => run.WellFormed action ∧ run.KeepsReleases action)
      (fun _ action sound both => sound.step action both.1 both.2) _ actions
      (sound_start basic entries) (wellFormed.and keeps)
  have logged : (actions.foldl step (start basic entries)).Logged :=
    @Foundation.Execution.invariant_of_steps _ _ step Logged
      (fun _ action logged => logged.step action) _ (logged_start basic entries) actions
  exact sound.released logged

omit [ExpressionLibrary] [MachTimebase] in
/-- From A to B, and to home while return is pressed. -/
def keyWithOtherKey : Basic where
  validity := .valid
  conditionManager := ⟨[]⟩
  parameters := .initial
  from_ := ⟨[.momentarySwitchEvent (.make UsagePage.keyboardOrKeypad Usage.keyboardA)], ⟨[], []⟩,
    none, .initial⟩
  to_ := [⟨.momentarySwitchEvent (.make UsagePage.keyboardOrKeypad Usage.keyboardB), [], false,
    true, false, 0, ⟨[]⟩⟩]
  toAfterKeyUp := []
  toIfAlone := []
  manipulatedOriginalEvents := []

omit [ExpressionLibrary] [MachTimebase] in
def homeWithReturn : OtherKeyEntry :=
  ⟨[⟨[.momentarySwitchEvent (.make UsagePage.keyboardOrKeypad Usage.keyboardReturnOrEnter)],
      ⟨[], []⟩, none, .initial⟩],
    [⟨.momentarySwitchEvent (.make UsagePage.keyboardOrKeypad Usage.keyboardHome), [], false, true,
      false, 0, ⟨[]⟩⟩]⟩

omit [ExpressionLibrary] [MachTimebase] in
/-- A key of a device is manipulated, with nothing behind it in the input queue. -/
def keyAction (deviceId : DeviceId) (timeStamp : Int) (usage : Usage) (eventType : EventType) :
    Action :=
  .manipulate (.original deviceId timeStamp
    (.momentarySwitchEvent (.make UsagePage.keyboardOrKeypad usage)) eventType) [] timeStamp

omit [ExpressionLibrary] [MachTimebase] in
/-- Return is pressed and released while A is held. -/
def otherKeyPlayed : List Action :=
  [keyAction 1 10 Usage.keyboardA .keyDown, keyAction 1 20 Usage.keyboardReturnOrEnter .keyDown,
    keyAction 1 30 Usage.keyboardReturnOrEnter .keyUp, keyAction 1 40 Usage.keyboardA .keyUp]

omit [ExpressionLibrary] [MachTimebase] in
/-- A is pressed on a second keyboard before it is released. -/
def pressedOnSecondKeyboard : List Action :=
  [keyAction 1 10 Usage.keyboardA .keyDown, keyAction 1 20 Usage.keyboardReturnOrEnter .keyDown,
    keyAction 2 30 Usage.keyboardA .keyDown, keyAction 1 40 Usage.keyboardReturnOrEnter .keyUp,
    keyAction 1 50 Usage.keyboardA .keyUp, keyAction 2 60 Usage.keyboardA .keyUp]

omit [ExpressionLibrary] [MachTimebase] in
/-- A key that is pressed meanwhile posts home, and once all keys are up home is released as well.
-/
theorem released_otherKeyPlayed :
    let _ := zeroExpressions
    let _ := nanosecondTimebase
    (otherKeyPlayed.foldl step (start keyWithOtherKey [homeWithReturn])).Released := by
  intro expressions timebase
  exact released_of_stepsMeet keyWithOtherKey [homeWithReturn] otherKeyPlayed (by decide)
    (by decide)

omit [ExpressionLibrary] [MachTimebase] in
/-- Home is pressed and never released. -/
theorem pressedOnSecondKeyboard_notReleased :
    let _ := zeroExpressions
    let _ := nanosecondTimebase
    let run := pressedOnSecondKeyboard.foldl step (start keyWithOtherKey [homeWithReturn])
    let home := Event.momentarySwitchEvent (.make UsagePage.keyboardOrKeypad Usage.keyboardHome)
    Foundation.Execution.StepsMeet step WellFormed (start keyWithOtherKey [homeWithReturn])
        pressedOnSecondKeyboard ∧
      (∀ fromEvent, heldCount fromEvent run.processed = 0) ∧
      (∃ entry ∈ run.listed, entry ∈ run.output.events ∧ entry.sent = ⟨1, home, .keyDown⟩) ∧
      (∀ entry ∈ run.output.events, entry.event = home → entry.eventType ≠ .keyUp) ∧
      ¬run.Released := by
  intro expressions timebase run home
  have noneHeld : ∀ fromEvent, heldCount fromEvent run.processed = 0 :=
    heldCount_eq_zero_of_mem (by decide)
  refine ⟨by decide, noneHeld, by decide, by decide, fun released => ?_⟩
  have total := (released fun fromEvent _ => noneHeld fromEvent).2.total (.event 1 home)
  exact absurd total (by decide)

end OtherKeyRun

end Karabiner
