import Mathlib.Logic.Function.Basic
import Karabiner.Foundation.Execution
import Karabiner.Grabber.BalanceFilter

/-! # Modifier keys of the event tap

The event tap delivers a press or a release of a modifier key as `kCGEventFlagsChanged`,
which does not say which of the two it was. `event_tap_utility` reads it off the mask bit of
the kind of the key, and the left and the right key of a kind share that bit: the physical keys
are decoded exactly while no key is released before the other key of its kind
(`decodesPhysicalKeys_iff`).
-/

namespace Karabiner

/-! ## Events of the event tap -/

/-- `CGEventType`. -/
inductive CGEventType where
  | null
  | leftMouseDown
  | leftMouseUp
  | rightMouseDown
  | rightMouseUp
  | mouseMoved
  | leftMouseDragged
  | rightMouseDragged
  | keyDown
  | keyUp
  | flagsChanged
  /-- `NX_SYSDEFINED`. -/
  | sysdefined
  | scrollWheel
  | tabletPointer
  | tabletProximity
  | otherMouseDown
  | otherMouseUp
  | otherMouseDragged
  | tapDisabledByTimeout
  | tapDisabledByUserInput
deriving DecidableEq

/-- `CGEventFlags`. -/
abbrev CGEventFlags := BitVec 64

namespace CGEventFlags

def maskAlphaShift : CGEventFlags := 0x00010000
def maskShift : CGEventFlags := 0x00020000
def maskControl : CGEventFlags := 0x00040000
def maskAlternate : CGEventFlags := 0x00080000
def maskCommand : CGEventFlags := 0x00100000
def maskSecondaryFn : CGEventFlags := 0x00800000

/-- `(flags & mask) ? event_type::key_down : event_type::key_up`. -/
def eventTypeOf (flags mask : CGEventFlags) : EventType :=
  if flags &&& mask ≠ 0 then .keyDown else .keyUp

end CGEventFlags

/-- `pqrs::osx::cg_event::event_type`. -/
inductive AuxEventType where
  | keyDown
  | keyUp
deriving DecidableEq

/-- What is asked of a `CGEventRef` that is not null. -/
class CGEventRef (cgEvent : Type) where
  /-- `pqrs::osx::cg_event::make_usage_pair`. -/
  makeUsagePair : cgEvent → Option UsagePair
  /-- `pqrs::osx::cg_event::make_event_type`. -/
  makeEventType : cgEvent → Option AuxEventType
  /-- `CGEventGetFlags`. -/
  getFlags : cgEvent → CGEventFlags

namespace EventTapUtility

/-- `get_modifier_event_type`. -/
def getModifierEventType (event : Event) (flags : CGEventFlags) : Option EventType :=
  match event.momentarySwitchEvent? with
  | none => none
  | some m =>
      let usagePage := m.usagePair.usagePage
      let usage := m.usagePair.usage
      if usagePage = UsagePage.keyboardOrKeypad ∧
          (usage = Usage.keyboardLeftShift ∨ usage = Usage.keyboardRightShift) then
        some (flags.eventTypeOf .maskShift)
      else if usagePage = UsagePage.keyboardOrKeypad ∧
          (usage = Usage.keyboardLeftControl ∨ usage = Usage.keyboardRightControl) then
        some (flags.eventTypeOf .maskControl)
      else if usagePage = UsagePage.keyboardOrKeypad ∧
          (usage = Usage.keyboardLeftAlt ∨ usage = Usage.keyboardRightAlt) then
        some (flags.eventTypeOf .maskAlternate)
      else if usagePage = UsagePage.keyboardOrKeypad ∧
          (usage = Usage.keyboardLeftGui ∨ usage = Usage.keyboardRightGui) then
        some (flags.eventTypeOf .maskCommand)
      else if usagePage = UsagePage.keyboardOrKeypad ∧ usage = Usage.keyboardCapsLock then
        some (flags.eventTypeOf .maskAlphaShift)
      else if usagePage = UsagePage.appleVendorTopCase ∧ usage = Usage.keyboardFn then
        some (flags.eventTypeOf .maskSecondaryFn)
      else if usagePage = UsagePage.appleVendorKeyboard ∧ usage = Usage.function then
        some (flags.eventTypeOf .maskSecondaryFn)
      else none

/-- The event of a pointing button. -/
def button (number : Usage) : Event :=
  .momentarySwitchEvent (.make UsagePage.button number)

variable {cgEvent : Type} [CGEventRef cgEvent]

/-- `make_momentary_switch_event`. -/
def makeMomentarySwitchEvent (event : Option cgEvent) : Option Event := do
  let usagePair ← CGEventRef.makeUsagePair (← event)
  return .momentarySwitchEvent ⟨usagePair⟩

/-- `make_event`. -/
def makeEvent (type : CGEventType) (event : Option cgEvent) : Option (EventType × Event) :=
  match type with
  | .keyDown => (makeMomentarySwitchEvent event).map fun e => (.keyDown, e)
  | .keyUp => (makeMomentarySwitchEvent event).map fun e => (.keyUp, e)
  | .sysdefined => do
      let e ← makeMomentarySwitchEvent event
      match ← CGEventRef.makeEventType (← event) with
      | .keyDown => return (.keyDown, e)
      | .keyUp => return (.keyUp, e)
  | .flagsChanged => do
      let e ← makeMomentarySwitchEvent event
      let eventType ← getModifierEventType e (CGEventRef.getFlags (← event))
      return (eventType, e)
  | .leftMouseDown => some (.keyDown, button 1)
  | .leftMouseUp => some (.keyUp, button 1)
  | .rightMouseDown => some (.keyDown, button 2)
  | .rightMouseUp => some (.keyUp, button 2)
  | .otherMouseDown => some (.keyDown, button 3)
  | .otherMouseUp => some (.keyUp, button 3)
  | .mouseMoved | .leftMouseDragged | .rightMouseDragged | .otherMouseDragged =>
      some (.single, .pointingMotion ⟨0, 0, 0, 0⟩)
  -- A wheel value that is not zero, for `unset_alone_if_needed`.
  | .scrollWheel => some (.single, .pointingMotion ⟨0, 0, 1, 0⟩)
  | .null | .tabletPointer | .tabletProximity | .tapDisabledByTimeout
  | .tapDisabledByUserInput => none

end EventTapUtility

/-! ## The physical keys -/

/-- The kinds of modifier keys that have a mask bit of their own. -/
inductive ModifierKind where
  | shift
  | control
  | option
  | command
  | fn
deriving DecidableEq

namespace ModifierKind

def mask : ModifierKind → CGEventFlags
  | .shift => .maskShift
  | .control => .maskControl
  | .option => .maskAlternate
  | .command => .maskCommand
  | .fn => .maskSecondaryFn

end ModifierKind

/-- A modifier key of a keyboard. -/
inductive ModifierKey where
  | leftShift
  | rightShift
  | leftControl
  | rightControl
  | leftOption
  | rightOption
  | leftCommand
  | rightCommand
  | fn
deriving DecidableEq

namespace ModifierKey

def kind : ModifierKey → ModifierKind
  | .leftShift | .rightShift => .shift
  | .leftControl | .rightControl => .control
  | .leftOption | .rightOption => .option
  | .leftCommand | .rightCommand => .command
  | .fn => .fn

/-- The event of the key. The library reports fn as `apple_vendor_top_case_keyboard_fn`. -/
def momentarySwitchEvent : ModifierKey → MomentarySwitchEvent
  | .leftShift => .ofModifierFlag .leftShift
  | .rightShift => .ofModifierFlag .rightShift
  | .leftControl => .ofModifierFlag .leftControl
  | .rightControl => .ofModifierFlag .rightControl
  | .leftOption => .ofModifierFlag .leftOption
  | .rightOption => .ofModifierFlag .rightOption
  | .leftCommand => .ofModifierFlag .leftCommand
  | .rightCommand => .ofModifierFlag .rightCommand
  | .fn => .ofModifierFlag .fn

theorem momentarySwitchEvent_injective : Function.Injective momentarySwitchEvent := by
  intro first second same
  cases first <;> cases second <;> first | rfl | (simp [momentarySwitchEvent] at same; cases same)

theorem getModifierEventType_momentarySwitchEvent (key : ModifierKey) (flags : CGEventFlags) :
    EventTapUtility.getModifierEventType (.momentarySwitchEvent key.momentarySwitchEvent) flags =
      some (flags.eventTypeOf key.kind.mask) := by
  cases key <;> rfl

end ModifierKey

/-! ## Presses and releases -/

/-- A press or a release of a modifier key. -/
structure ModifierChange where
  key : ModifierKey
  pressed : Bool
deriving DecidableEq

namespace ModifierChange

/-- The keys that are down after the change. -/
def after (down : ModifierKey → Bool) (change : ModifierChange) : ModifierKey → Bool :=
  Function.update down change.key change.pressed

def eventType (change : ModifierChange) : EventType :=
  if change.pressed then .keyDown else .keyUp

end ModifierChange

/-- Some key of the kind is down. -/
def SomeDown (down : ModifierKey → Bool) (kind : ModifierKind) : Prop :=
  ∃ key : ModifierKey, key.kind = kind ∧ down key = true

section Deliveries

variable {cgEvent : Type} [CGEventRef cgEvent]

/-- A change of a modifier key and the event it is delivered as. -/
structure Delivery (cgEvent : Type) where
  change : ModifierChange
  event : cgEvent

namespace Delivery

def step (down : ModifierKey → Bool) (delivery : Delivery cgEvent) : ModifierKey → Bool :=
  delivery.change.after down

/-- Only a key that is up is pressed and only one that is down released. The event names the
key, and its mask bit says whether a key of the kind is down after the change. -/
structure Delivered (down : ModifierKey → Bool) (delivery : Delivery cgEvent) : Prop where
  inTurn : down delivery.change.key = !delivery.change.pressed
  key : CGEventRef.makeUsagePair delivery.event =
    some delivery.change.key.momentarySwitchEvent.usagePair
  mask : CGEventRef.getFlags delivery.event &&& delivery.change.key.kind.mask ≠ 0 ↔
    SomeDown (delivery.change.after down) delivery.change.key.kind

/-- No other key of the kind is down when the key is released. -/
def LastOfKind (down : ModifierKey → Bool) (delivery : Delivery cgEvent) : Prop :=
  delivery.change.pressed = false → ∀ other : ModifierKey,
    other.kind = delivery.change.key.kind → other ≠ delivery.change.key → down other = false

/-- What `make_event` returns for the event. -/
def made (delivery : Delivery cgEvent) : Option (EventType × Event) :=
  EventTapUtility.makeEvent .flagsChanged (some delivery.event)

/-- The event is decoded to the change of the key. -/
def Decoded (delivery : Delivery cgEvent) : Prop :=
  delivery.made =
    some (delivery.change.eventType, .momentarySwitchEvent delivery.change.key.momentarySwitchEvent)

instance (delivery : Delivery cgEvent) : Decidable delivery.Decoded :=
  inferInstanceAs (Decidable (_ = _))

/-- What `event_tap_keyboard_event_arrived` gives the balance filter. -/
def feeds (deliveries : List (Delivery cgEvent)) : List BalanceFilter.Action :=
  deliveries.filterMap fun delivery =>
    delivery.made.map fun pair => .feed 0 pair.2 pair.1

variable {down : ModifierKey → Bool} {delivery : Delivery cgEvent}

/-- The event is decoded by whether a key of the kind is down. -/
theorem Delivered.made_eq (delivered : Delivered down delivery) :
    delivery.made = some (CGEventFlags.eventTypeOf (CGEventRef.getFlags delivery.event)
      delivery.change.key.kind.mask,
        .momentarySwitchEvent delivery.change.key.momentarySwitchEvent) := by
  have event : EventTapUtility.makeMomentarySwitchEvent (some delivery.event) =
      some (.momentarySwitchEvent delivery.change.key.momentarySwitchEvent) := by
    simp [EventTapUtility.makeMomentarySwitchEvent, delivered.key]
  simp [made, EventTapUtility.makeEvent, event,
    ModifierKey.getModifierEventType_momentarySwitchEvent]

/-- A press is decoded as it is, and a release when no other key of the kind is down. -/
theorem Delivered.decoded_iff (delivered : Delivered down delivery) :
    delivery.Decoded ↔ LastOfKind down delivery := by
  have isDecoded : delivery.Decoded ↔
      (SomeDown (delivery.change.after down) delivery.change.key.kind ↔
        delivery.change.pressed = true) := by
    rw [Decoded, delivered.made_eq, ← delivered.mask, CGEventFlags.eventTypeOf,
      ModifierChange.eventType]
    split <;> split <;> simp_all
  rw [isDecoded, LastOfKind]
  cases pressed : delivery.change.pressed with
  | true =>
      refine iff_of_true (iff_of_true ⟨delivery.change.key, rfl, ?_⟩ rfl) nofun
      simp [ModifierChange.after, pressed]
  | false =>
      rw [iff_false_right Bool.false_ne_true]
      constructor
      · intro noneDown _ other sameKind different
        by_contra isDown
        refine noneDown ⟨other, sameKind, ?_⟩
        rw [ModifierChange.after, Function.update_of_ne different]
        exact Bool.eq_true_of_not_eq_false isDown
      · rintro lastOfKind ⟨other, sameKind, isDown⟩
        by_cases same : other = delivery.change.key
        · rw [same, ModifierChange.after, Function.update_self, pressed] at isDown
          exact Bool.false_ne_true isDown
        · rw [ModifierChange.after, Function.update_of_ne same,
            lastOfKind rfl other sameKind same] at isDown
          exact Bool.false_ne_true isDown

/-- What is decoded to the changes of the keys alternates for each key. -/
theorem alternating_feeds {deliveries : List (Delivery cgEvent)}
    (delivered : Foundation.Execution.StepsMeet step Delivered down deliveries)
    (decoded : ∀ delivery ∈ deliveries, delivery.Decoded) (deviceId : DeviceId)
    (key : MomentarySwitchEvent) (heldBefore : Bool)
    (held : ∀ own : ModifierKey, deviceId = 0 → own.momentarySwitchEvent = key →
      heldBefore = down own) :
    BalanceFilter.Alternating deviceId key heldBefore (feeds deliveries) := by
  induction deliveries generalizing down heldBefore with
  | nil => trivial
  | cons delivery rest ih =>
      obtain ⟨isDelivered, later⟩ := delivered
      have isDecoded : delivery.made = _ := decoded delivery List.mem_cons_self
      have fed : feeds (delivery :: rest) =
          .feed 0 (.momentarySwitchEvent delivery.change.key.momentarySwitchEvent)
            delivery.change.eventType :: feeds rest := by
        simp [feeds, isDecoded]
      have laterDecoded := fun delivery member => decoded delivery (List.mem_cons_of_mem _ member)
      rw [fed]
      by_cases own : deviceId = 0 ∧ delivery.change.key.momentarySwitchEvent = key
      · obtain ⟨rfl, rfl⟩ := own
        rw [BalanceFilter.alternating_cons_of_own, held _ rfl rfl, isDelivered.inTurn]
        constructor
        · unfold ModifierChange.eventType
          cases delivery.change.pressed <;> rfl
        · apply ih later laterDecoded
          intro other _ sameEvent
          obtain rfl := ModifierKey.momentarySwitchEvent_injective sameEvent
          rw [step, ModifierChange.after, Function.update_self, ModifierChange.eventType]
          cases delivery.change.pressed <;> rfl
      · rw [BalanceFilter.alternating_cons_of_other]
        · apply ih later laterDecoded
          intro other isFilter sameEvent
          have different : other ≠ delivery.change.key := by
            rintro rfl
            exact own ⟨isFilter, sameEvent⟩
          rw [step, ModifierChange.after, Function.update_of_ne different]
          exact held other isFilter sameEvent
        · simp only [BalanceFilter.Action.concernsKey, Bool.and_eq_false_iff,
            decide_eq_false_iff_not, Event.momentarySwitchEvent.injEq]
          exact (not_and_or.mp own).imp (fun isOther isZero => isOther isZero.symm) id

/-- The events of the modifier keys are decoded to what happens to the physical keys. -/
structure DecodesPhysicalKeys (deliveries : List (Delivery cgEvent)) : Prop where
  /-- key_down for exactly the presses and key_up for exactly the releases. -/
  decoded : ∀ delivery ∈ deliveries, delivery.Decoded
  alternates : ∀ deviceId (key : MomentarySwitchEvent), key.valid = true →
    BalanceFilter.Alternating deviceId key false (feeds deliveries)
  /-- `unbalanced_momentary_switch_event` drops none of the events. -/
  keeps : BalanceFilter.accepted .initial (feeds deliveries) = feeds deliveries

/-- From a keyboard with no modifier key down, the events are decoded to what happens to the
physical keys exactly when no key is released before the other key of its kind. -/
theorem decodesPhysicalKeys_iff (deliveries : List (Delivery cgEvent))
    (delivered : Foundation.Execution.StepsMeet step Delivered (fun _ => false) deliveries) :
    DecodesPhysicalKeys deliveries ↔
      Foundation.Execution.StepsMeet step LastOfKind (fun _ => false) deliveries := by
  have decodedIff : ∀ (down : ModifierKey → Bool) (deliveries : List (Delivery cgEvent)),
      Foundation.Execution.StepsMeet step Delivered down deliveries →
      ((∀ delivery ∈ deliveries, delivery.Decoded) ↔
        Foundation.Execution.StepsMeet step LastOfKind down deliveries) := by
    intro down deliveries delivered
    induction deliveries generalizing down with
    | nil => simp
    | cons delivery rest ih =>
        rw [List.forall_mem_cons, delivered.1.decoded_iff, ih _ delivered.2,
          Foundation.Execution.stepsMeet_cons]
  rw [← decodedIff _ _ delivered]
  constructor
  · exact fun physical => physical.decoded
  · intro decoded
    have alternates := fun deviceId (key : MomentarySwitchEvent) (_ : key.valid = true) =>
      alternating_feeds delivered decoded deviceId key false fun _ _ _ => rfl
    exact ⟨decoded, alternates,
      (BalanceFilter.acceptsAlternating (feeds deliveries)).entirely alternates⟩

end Delivery

end Deliveries

/-! ## Two shift keys -/

section Shifts

/-- Events by what is asked of them. -/
@[reducible] def usagePairAndFlags : CGEventRef (UsagePair × CGEventFlags) :=
  ⟨fun event => some event.1, fun _ => none, fun event => event.2⟩

/-- The event a shift key is delivered as while a shift key is down, or none is. -/
def shiftDelivery (key : ModifierKey) (pressed someDown : Bool) :
    Delivery (UsagePair × CGEventFlags) :=
  ⟨⟨key, pressed⟩, key.momentarySwitchEvent.usagePair, if someDown then .maskShift else 0⟩

/-- Left shift is held while right shift is pressed and released, then left shift is released. -/
def releasedUnderTheOther : List (Delivery (UsagePair × CGEventFlags)) :=
  [shiftDelivery .leftShift true true, shiftDelivery .rightShift true true,
    shiftDelivery .rightShift false true, shiftDelivery .leftShift false false]

/-- One after the other, both shift keys are decoded: no other shift key is down when the left one
is released. -/
theorem decodesPhysicalKeys_shifts :
    let _ := usagePairAndFlags
    Delivery.DecodesPhysicalKeys [shiftDelivery .leftShift true true,
      shiftDelivery .leftShift false false, shiftDelivery .rightShift true true] := by
  intro _
  refine (Delivery.decodesPhysicalKeys_iff _ ?_).mpr ?_
  · refine ⟨⟨rfl, rfl, ?_⟩, ⟨rfl, rfl, ?_⟩, ⟨rfl, rfl, ?_⟩, trivial⟩
    · exact iff_of_true (by decide) ⟨.leftShift, rfl, rfl⟩
    · refine iff_of_false (by decide) ?_
      rintro ⟨key, _, isDown⟩
      cases key <;> cases isDown
    · exact iff_of_true (by decide) ⟨.rightShift, rfl, rfl⟩
  · refine ⟨nofun, fun _ other _ notLeft => ?_, nofun, trivial⟩
    cases other <;> first | rfl | exact absurd rfl notLeft

/-- The release of right shift under left shift is decoded as a key_down and dropped. -/
theorem rightShift_release_dropped :
    let _ := usagePairAndFlags
    Foundation.Execution.StepsMeet Delivery.step Delivery.Delivered (fun _ => false)
        releasedUnderTheOther ∧
      ¬Delivery.DecodesPhysicalKeys releasedUnderTheOther := by
  intro _
  constructor
  · refine ⟨⟨rfl, rfl, ?_⟩, ⟨rfl, rfl, ?_⟩, ⟨rfl, rfl, ?_⟩, ⟨rfl, rfl, ?_⟩, trivial⟩
    · exact iff_of_true (by decide) ⟨.leftShift, rfl, rfl⟩
    · exact iff_of_true (by decide) ⟨.leftShift, rfl, rfl⟩
    · exact iff_of_true (by decide) ⟨.leftShift, rfl, rfl⟩
    · refine iff_of_false (by decide) ?_
      rintro ⟨key, _, isDown⟩
      cases key <;> cases isDown
  · intro physical
    have released := physical.decoded (shiftDelivery .rightShift false true) (by
      simp [releasedUnderTheOther])
    exact absurd released (by decide)

end Shifts

end Karabiner
