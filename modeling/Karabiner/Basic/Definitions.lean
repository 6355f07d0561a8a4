import Karabiner.EventQueue.Queue

/-! # What a basic manipulator is configured with

The events of a `from` and of a `to` definition, their modifiers, conditions and
options (`manipulator/types` and `from_event_definition`). The sets of modifiers are
lists without an order of their own; a definition that JSON cannot make is kept out by
the loader and not by these types.
-/

namespace Karabiner

/-- `modifier_definition::modifier`; the sentinel `end_` is left out. -/
inductive Modifier where
  | any
  | capsLock
  | command
  | control
  | fn
  | leftCommand
  | leftControl
  | leftOption
  | leftShift
  | option
  | rightCommand
  | rightControl
  | rightOption
  | rightShift
  | shift
deriving DecidableEq

namespace Modifier

/-- The modifiers in the order of the enumeration. -/
def all : List Modifier :=
  [.any, .capsLock, .command, .control, .fn, .leftCommand, .leftControl, .leftOption, .leftShift,
    .option, .rightCommand, .rightControl, .rightOption, .rightShift, .shift]

/-- `get_modifier_flags`. -/
def getModifierFlags : Modifier → List ModifierFlag
  | .any => []
  | .capsLock => [.capsLock]
  | .command => [.leftCommand, .rightCommand]
  | .control => [.leftControl, .rightControl]
  | .fn => [.fn]
  | .leftCommand => [.leftCommand]
  | .leftControl => [.leftControl]
  | .leftOption => [.leftOption]
  | .leftShift => [.leftShift]
  | .option => [.leftOption, .rightOption]
  | .rightCommand => [.rightCommand]
  | .rightControl => [.rightControl]
  | .rightOption => [.rightOption]
  | .rightShift => [.rightShift]
  | .shift => [.leftShift, .rightShift]

end Modifier

/-- `from_modifiers_definition`. -/
structure FromModifiersDefinition where
  mandatoryModifiers : List Modifier
  optionalModifiers : List Modifier

namespace FromModifiersDefinition

/-- `test_modifier`, with no flag in place of `modifier_flag::zero`. -/
def testModifier (manager : ModifierFlagManager) (modifier : Modifier) :
    Bool × Option ModifierFlag :=
  if modifier = .any then (true, none)
  else
    match modifier.getModifierFlags.find? manager.isPressed with
    | some flag => (true, some flag)
    | none => (false, none)

/-- The loop of `test_modifiers` over the mandatory modifiers. -/
def testMandatory (manager : ModifierFlagManager) :
    List Modifier → List ModifierFlag → Option (List ModifierFlag)
  | [], found => some found
  | modifier :: rest, found =>
      match testModifier manager modifier with
      | (false, _) => none
      | (true, none) => testMandatory manager rest found
      | (true, some flag) => testMandatory manager rest (found.insert flag)

/-- `test_modifiers`: the flags that are pressed as mandatory modifiers, if the modifiers
that are pressed are allowed. -/
def testModifiers (definition : FromModifiersDefinition) (manager : ModifierFlagManager) :
    Option (List ModifierFlag) :=
  if .any ∈ definition.mandatoryModifiers then
    some (ModifierFlagManager.allModifierFlags.filter manager.isPressed)
  else
    match testMandatory manager
        (Modifier.all.filter fun modifier => decide (modifier ∈ definition.mandatoryModifiers))
        [] with
    | none => none
    | some found =>
        let covered := (Modifier.all.filter fun modifier =>
          decide (modifier ∈ definition.mandatoryModifiers) ||
            decide (modifier ∈ definition.optionalModifiers)).flatMap Modifier.getModifierFlags
        let extra :=
          ModifierFlagManager.allModifierFlags.filter fun flag => !decide (flag ∈ covered)
        if .any ∉ definition.optionalModifiers ∧ extra.any manager.isPressed then none
        else some found

end FromModifiersDefinition

/-- `event_definition::any_type`. -/
inductive AnyType where
  | keyCode
  | consumerKeyCode
  | appleVendorKeyboardKeyCode
  | appleVendorTopCaseKeyCode
  | pointingButton
deriving DecidableEq

/-- `event_definition`: the type and its value. -/
inductive EventDefinition where
  | none
  | momentarySwitchEvent (event : MomentarySwitchEvent)
  | fromEvent
  | any (type : AnyType)
  | shellCommand (command : String)
  | sendUserCommand (json : String)
  | selectInputSource (specifiers : List InputSourceProperties)
  | setVariable (command : SetVariable)
  | setNotificationMessage (message : NotificationMessage)
  | mouseKey (key : MouseKey)
  | stickyModifier (modifierFlag : ModifierFlag) (type : StickyModifierType)
  | softwareFunction (json : String)
deriving DecidableEq

namespace EventDefinition

/-- `event_definition::to_event`. -/
def toEvent : EventDefinition → Option Event
  | .none | .fromEvent | .any _ => Option.none
  | .momentarySwitchEvent event => some (.momentarySwitchEvent event)
  | .shellCommand command => some (.shellCommand command)
  | .sendUserCommand json => some (.sendUserCommand json)
  | .selectInputSource specifiers => some (.selectInputSource specifiers)
  | .setVariable command => some (.setVariable command)
  | .setNotificationMessage message => some (.setNotificationMessage message)
  | .mouseKey key => some (.mouseKey key)
  | .stickyModifier modifierFlag type => some (.stickyModifier modifierFlag type)
  | .softwareFunction json => some (.softwareFunction json)

end EventDefinition

/-- `conditions::condition_context`. -/
structure ConditionContext where
  deviceId : DeviceId
  state : EntryState

/-- `condition_manager`. A condition is what it says about a context and an
environment. -/
structure ConditionManager where
  conditions : List (ConditionContext → ManipulatorEnvironment → Bool)

/-- `condition_manager::is_fulfilled`, which refreshes the clock of the environment. -/
def ConditionManager.isFulfilled (manager : ConditionManager) (context : ConditionContext)
    (environment : ManipulatorEnvironment) : Bool × ManipulatorEnvironment :=
  let refreshed := environment.setVariableSystemNowMilliseconds
  (manager.conditions.all fun condition => condition context refreshed, refreshed)

/-- `to_event_definition`. -/
structure ToEventDefinition where
  eventDefinition : EventDefinition
  modifiers : List Modifier
  lazy : Bool
  repeat_ : Bool
  halt : Bool
  holdDownMilliseconds : Int
  conditionManager : ConditionManager

namespace ToEventDefinition

/-- `make_from_momentary_switch_event`. -/
def makeFromMomentarySwitchEvent (event : MomentarySwitchEvent) (base : ToEventDefinition) :
    ToEventDefinition :=
  { base with eventDefinition := .momentarySwitchEvent event }

/-- `make_modifier_events`: the first flag of each modifier. -/
def makeModifierEvents (definition : ToEventDefinition) : List MomentarySwitchEvent :=
  definition.modifiers.filterMap fun modifier =>
    match modifier.getModifierFlags with
    | flag :: _ =>
        let event := MomentarySwitchEvent.ofModifierFlag flag
        if event.valid then some event else none
    | [] => none

end ToEventDefinition

/-- `simultaneous_options::key_order`. -/
inductive KeyOrder where
  | insensitive
  | strict
  | strictInverse
deriving DecidableEq

/-- `simultaneous_options::key_up_when`. -/
inductive KeyUpWhen where
  | any
  | all
deriving DecidableEq

/-- `simultaneous_options`. -/
structure SimultaneousOptions where
  detectKeyDownUninterruptedly : Bool
  keyDownOrder : KeyOrder
  keyUpOrder : KeyOrder
  keyUpWhen : KeyUpWhen
  toAfterKeyUp : List ToEventDefinition

/-- The default options. -/
def SimultaneousOptions.initial : SimultaneousOptions :=
  ⟨false, .insensitive, .insensitive, .any, []⟩

/-- `from_event_definition`. -/
structure FromEventDefinition where
  eventDefinitions : List EventDefinition
  fromModifiersDefinition : FromModifiersDefinition
  eventIntegerValue : Option Int
  simultaneousOptions : SimultaneousOptions

namespace FromEventDefinition

/-- The usage page an `any` definition stands for. -/
def usagePage : AnyType → UsagePage
  | .keyCode => UsagePage.keyboardOrKeypad
  | .consumerKeyCode => UsagePage.consumer
  | .appleVendorKeyboardKeyCode => UsagePage.appleVendorKeyboard
  | .appleVendorTopCaseKeyCode => UsagePage.appleVendorTopCase
  | .pointingButton => UsagePage.button

/-- `test_event` of an event and one event definition. -/
def testEventDefinition (event : Event) (definition : EventDefinition) : Bool :=
  match event.momentarySwitchEvent?, definition with
  | some e, .momentarySwitchEvent other => decide (e = other)
  | some e, .any type => e.valid && decide (e.usagePair.usagePage = usagePage type)
  | _, _ => false

/-- `test_event`. -/
def testEvent (event : Event) (definition : FromEventDefinition) : Bool :=
  definition.eventDefinitions.any (testEventDefinition event)

/-- The events, paired with the definitions from the front on, all pass their test. -/
def testInOrder : List Event → List EventDefinition → Bool
  | event :: events, definition :: definitions =>
      testEventDefinition event definition && testInOrder events definitions
  | _, _ => true

/-- `test_key_order`. -/
def testKeyOrder (events : List Event) (keyOrder : KeyOrder)
    (definitions : List EventDefinition) : Bool :=
  match keyOrder with
  | .insensitive => true
  | .strict => testInOrder events definitions
  | .strictInverse => testInOrder events definitions.reverse

/-- Only the event of a key passes the test. -/
theorem momentarySwitchEvent_of_testEvent {event : Event} {definition : FromEventDefinition}
    (passes : testEvent event definition = true) :
    ∃ key, event = .momentarySwitchEvent key := by
  obtain ⟨one, _, passed⟩ := List.any_eq_true.mp passes
  unfold testEventDefinition at passed
  cases isKey : event.momentarySwitchEvent? with
  | none =>
      rw [isKey] at passed
      cases passed
  | some key => exact ⟨key, Event.momentarySwitchEvent?_eq_some.mp isKey⟩

end FromEventDefinition

end Karabiner
