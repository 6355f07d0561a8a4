import Karabiner.Basic.DefinitionValues

/-! # Event definitions as they are loaded

An `event_definition` keeps its type and its value apart, and `handle_json` sets them for one
member of the object after another. Every member that sets a type sets a value of that type, with
one exception: a `sticky_modifier` sets its value in a loop over its own members, so an object
without members leaves the value as it was (`LoadedToEventDefinition.agrees_iff`).
-/

namespace Karabiner

/-- `event_definition::type`. -/
inductive DefinitionType where
  | none
  | momentarySwitchEvent
  | fromEvent
  | any
  | shellCommand
  | sendUserCommand
  | selectInputSource
  | setVariable
  | setNotificationMessage
  | mouseKey
  | stickyModifier
  | softwareFunction
deriving DecidableEq

/-- `event_definition::value_t`. -/
inductive DefinitionValue where
  | momentarySwitchEvent (event : MomentarySwitchEvent)
  | anyType (type : AnyType)
  | string (value : String)
  | json (value : Json)
  | specifiers (specifiers : List InputSourceProperties)
  | setVariable (command : SetVariable)
  | notificationMessage (message : NotificationMessage)
  | mouseKey (key : MouseKey)
  | stickyModifier (modifierFlag : ModifierFlag) (type : StickyModifierType)
  | softwareFunction (json : String)
  | monostate

/-- The alternative is the one for the type. -/
def DefinitionValue.isFor : DefinitionValue → DefinitionType → Bool
  | .momentarySwitchEvent _, .momentarySwitchEvent => true
  | .anyType _, .any => true
  | .string _, .shellCommand => true
  | .json _, .sendUserCommand => true
  | .specifiers _, .selectInputSource => true
  | .setVariable _, .setVariable => true
  | .notificationMessage _, .setNotificationMessage => true
  | .mouseKey _, .mouseKey => true
  | .stickyModifier _ _, .stickyModifier => true
  | .softwareFunction _, .softwareFunction => true
  | .monostate, .fromEvent => true
  | .monostate, .none => true
  | _, _ => false

/-- `std::bad_variant_access`. -/
inductive BadVariantAccess where
  | badVariantAccess
deriving DecidableEq

/-- `event_definition`, with its tag. -/
structure TaggedEventDefinition where
  type : DefinitionType
  value : DefinitionValue

namespace TaggedEventDefinition

/-- The constructor. -/
def initial : TaggedEventDefinition := ⟨.none, .monostate⟩

/-- `make_from_momentary_switch_event`. -/
def makeFromMomentarySwitchEvent (event : MomentarySwitchEvent) : TaggedEventDefinition :=
  ⟨.momentarySwitchEvent, .momentarySwitchEvent event⟩

/-- The type and the value agree. -/
def Agrees (definition : TaggedEventDefinition) : Prop :=
  definition.value.isFor definition.type = true

/-- `to_event`, which throws when `std::get` does not find the alternative of the type. -/
def toEvent [JsonText] (definition : TaggedEventDefinition) :
    Except BadVariantAccess (Option Event) :=
  match definition.type, definition.value with
  | .none, _ | .fromEvent, _ | .any, _ => .ok Option.none
  | .momentarySwitchEvent, .momentarySwitchEvent event => .ok (some (.momentarySwitchEvent event))
  | .shellCommand, .string command => .ok (some (.shellCommand command))
  | .sendUserCommand, .json json => .ok (some (.sendUserCommand (JsonText.dump json)))
  | .selectInputSource, .specifiers specifiers => .ok (some (.selectInputSource specifiers))
  | .setVariable, .setVariable command => .ok (some (.setVariable command))
  | .setNotificationMessage, .notificationMessage message =>
      .ok (some (.setNotificationMessage message))
  | .mouseKey, .mouseKey key => .ok (some (.mouseKey key))
  | .stickyModifier, .stickyModifier modifierFlag type =>
      .ok (some (.stickyModifier modifierFlag type))
  | .softwareFunction, .softwareFunction json => .ok (some (.softwareFunction json))
  | _, _ => .error .badVariantAccess

/-! ## Reading a member -/

/-- `check_type`. -/
def checkType (definition : TaggedEventDefinition) (json : Json) : Except DefinitionError Unit :=
  if definition.type = .none then .ok () else .error (.multipleTypes json)

/-- The keys of momentary switch events. -/
def momentarySwitchEventKeys : List String :=
  ["key_code", "consumer_key_code", "apple_vendor_keyboard_key_code",
    "apple_vendor_top_case_key_code", "generic_desktop", "pointing_button"]

/-- The value of `any`. -/
def readAny (value : Json) : Except DefinitionError AnyType := do
  match ← required (value.requiresString (quoted "any")) with
  | "key_code" => return .keyCode
  | "consumer_key_code" => return .consumerKeyCode
  | "apple_vendor_keyboard_key_code" => return .appleVendorKeyboardKeyCode
  | "apple_vendor_top_case_key_code" => return .appleVendorTopCaseKeyCode
  | "pointing_button" => return .pointingButton
  | _ => throw (.unknownValue "any" value)

/-- The loop over the members of a `sticky_modifier`: each of them sets the value. -/
def readStickyModifier (value : DefinitionValue) (members : List (String × Json)) :
    Except DefinitionError DefinitionValue :=
  members.foldlM (fun _ member => do
    let modifierFlag ←
      (ModifierFlag.ofJson (.string member.1)).mapError (.rethrow "sticky_modifier")
    let type ← (StickyModifierType.ofJson member.2).mapError (.rethrow "sticky_modifier")
    return .stickyModifier modifierFlag type) value

variable [DefinitionLibrary]

/-- The value of `select_input_source`. -/
def readSpecifiers (value : Json) : Except DefinitionError (List InputSourceProperties) :=
  match value with
  | .object _ =>
      return [← (DefinitionLibrary.specifier value).mapError (.rethrow "select_input_source")]
  | .array values =>
      (values.mapM DefinitionLibrary.specifier).mapError (.rethrow "select_input_source")
  | _ => throw (.mustBeOneOf (quoted "select_input_source") "object or array of objects" value)

/-- The value of `set_variable`, which has a name and something to set. -/
def readSetVariable (value : Json) : Except DefinitionError SetVariable := do
  let command ← (SetVariable.ofJson value).mapError (.rethrow "set_variable")
  if command.name = none then throw (.memberNotFound "set_variable" "name" value)
  if command.type = .set ∧ command.value = none ∧ command.expression = none ∧
      command.keyUpValue = none ∧ command.keyUpExpression = none then
    throw (.nothingToSet "set_variable" value)
  return command

/-- `handle_json`, without a result when it returns `false`. A definition that throws is not
used again, so what a branch has set by then is left out. -/
def handleJson (definition : TaggedEventDefinition) (key : String) (value json : Json) :
    Except DefinitionError (Option TaggedEventDefinition) :=
  if key ∈ momentarySwitchEventKeys then do
    definition.checkType json
    let usagePair ← (DefinitionLibrary.makeUsagePair key value).mapError (.rethrow key)
    return some ⟨.momentarySwitchEvent, .momentarySwitchEvent ⟨usagePair⟩⟩
  else
    match key with
    | "any" => do
        definition.checkType json
        return some ⟨.any, .anyType (← readAny value)⟩
    | "from_event" => do
        definition.checkType json
        if ← required (value.requiresBoolean (quoted key)) then
          return some ⟨.fromEvent, .monostate⟩
        return some definition
    | "shell_command" => do
        definition.checkType json
        return some ⟨.shellCommand, .string (← required (value.requiresString (quoted key)))⟩
    | "send_user_command" => do
        definition.checkType json
        let _ ← required (value.requiresObject (quoted key))
        return some ⟨.sendUserCommand, .json value⟩
    | "select_input_source" => do
        definition.checkType json
        return some ⟨.selectInputSource, .specifiers (← readSpecifiers value)⟩
    | "set_variable" => do
        definition.checkType json
        return some ⟨.setVariable, .setVariable (← readSetVariable value)⟩
    | "set_notification_message" => do
        definition.checkType json
        let message ← (NotificationMessage.ofJson value).mapError (.rethrow key)
        return some ⟨.setNotificationMessage, .notificationMessage message⟩
    | "mouse_key" => do
        definition.checkType json
        let mouseKey ← (MouseKey.ofJson value).mapError (.rethrow key)
        return some ⟨.mouseKey, .mouseKey mouseKey⟩
    | "sticky_modifier" => do
        definition.checkType json
        let members ← required (value.requiresObject (quoted key))
        return some ⟨.stickyModifier, ← readStickyModifier definition.value members⟩
    | "software_function" => do
        definition.checkType json
        let function ← (DefinitionLibrary.softwareFunction value).mapError (.rethrow key)
        return some ⟨.softwareFunction, .softwareFunction function⟩
    | "description" => return some definition
    | _ => return none

end TaggedEventDefinition

/-- `to_event_definition`, as it is loaded. -/
structure LoadedToEventDefinition where
  eventDefinition : TaggedEventDefinition
  modifiers : List Modifier
  lazy : Bool
  repeat_ : Bool
  halt : Bool
  holdDownMilliseconds : Int
  conditionManager : ConditionManager

namespace LoadedToEventDefinition

/-- The constructor without arguments. -/
def initial : LoadedToEventDefinition := ⟨.initial, [], false, true, false, 0, ⟨[]⟩⟩

variable [DefinitionLibrary]

/-- A member of the object that `handle_json` does not know. -/
def readOption (definition : LoadedToEventDefinition) (key : String) (value json : Json) :
    Except DefinitionError LoadedToEventDefinition :=
  match key with
  | "modifiers" =>
      return { definition with modifiers := ← (makeModifiers value).mapError (.rethrow key) }
  | "lazy" =>
      return { definition with lazy := ← required (value.requiresBoolean (quoted key)) }
  | "repeat" =>
      return { definition with repeat_ := ← required (value.requiresBoolean (quoted key)) }
  | "halt" =>
      return { definition with halt := ← required (value.requiresBoolean (quoted key)) }
  | "hold_down_milliseconds" | "held_down_milliseconds" =>
      return { definition with
        holdDownMilliseconds := ← required (value.requiresInt (quoted key)) }
  | "conditions" => do
      let values ← required (value.requiresArray (quoted key))
      let conditions ← values.mapM DefinitionLibrary.makeCondition
      return { definition with
        conditionManager := ⟨definition.conditionManager.conditions ++ conditions⟩ }
  | _ => throw (.unknownKey key json)

/-- The body of the loop over the members of the object. -/
def readMember (json : Json) (definition : LoadedToEventDefinition) (member : String × Json) :
    Except DefinitionError LoadedToEventDefinition := do
  match ← definition.eventDefinition.handleJson member.1 member.2 json with
  | some eventDefinition => return { definition with eventDefinition }
  | none => definition.readOption member.1 member.2 json

/-- The constructor from JSON. -/
def ofJson (json : Json) : Except DefinitionError LoadedToEventDefinition := do
  let members ← required (json.requiresObject "json")
  let definition ← members.foldlM (readMember json) initial
  match definition.eventDefinition.type with
  | .none | .any => throw (.invalidEventType json)
  | _ => return definition

end LoadedToEventDefinition

/-- A `sticky_modifier` without members. -/
def IsEmptyStickyModifier (member : String × Json) : Prop :=
  member = ("sticky_modifier", .object [])

/-! ## The type and the value -/

namespace TaggedEventDefinition

section JsonText

variable [JsonText] {definition : TaggedEventDefinition}

/-- An event with a type to send is sent exactly when it has a value of the type. -/
theorem exists_toEvent_iff (notNone : definition.type ≠ .none) (notAny : definition.type ≠ .any)
    (notFromEvent : definition.type ≠ .fromEvent) :
    (∃ event, definition.toEvent = .ok (some event)) ↔ definition.Agrees := by
  obtain ⟨type, value⟩ := definition
  cases type with
  | none => exact absurd rfl notNone
  | any => exact absurd rfl notAny
  | fromEvent => exact absurd rfl notFromEvent
  | _ => cases value <;> simp [toEvent, Agrees, DefinitionValue.isFor]

end JsonText

variable {definition next : TaggedEventDefinition} {key : String} {value json : Json}

theorem eq_none_of_checkType {result : Unit} (isFree : definition.checkType json = .ok result) :
    definition.type = .none := by
  rw [checkType] at isFree
  split at isFree
  · assumption
  · cases isFree

/-- The value of a `sticky_modifier` is of its type, unless it has no members. -/
theorem readStickyModifier_eq_ok {start value : DefinitionValue} {members : List (String × Json)}
    (isRead : readStickyModifier start members = .ok value) :
    members = [] ∧ value = start ∨ members ≠ [] ∧ value.isFor .stickyModifier = true := by
  induction members generalizing start with
  | nil => exact .inl ⟨rfl, (Except.ok.inj isRead).symm⟩
  | cons member rest ih =>
      refine .inr ⟨List.cons_ne_nil _ _, ?_⟩
      rw [readStickyModifier, List.foldlM_cons] at isRead
      obtain ⟨own, isOwn, later⟩ := exists_of_bind_eq_ok isRead
      obtain ⟨modifierFlag, _, isOwn⟩ := exists_of_bind_eq_ok isOwn
      obtain ⟨type, _, isOwn⟩ := exists_of_bind_eq_ok isOwn
      obtain rfl := Except.ok.inj isOwn
      rcases ih later with ⟨_, rfl⟩ | ⟨_, isFor⟩
      · rfl
      · exact isFor

/-- A branch that checks the type, reads a value and sets both. -/
theorem agrees_of_set {α : Type} {read : Except DefinitionError α} {type : DefinitionType}
    {alternative : α → DefinitionValue}
    (isRead : (do
      definition.checkType json
      let own ← read
      return some ⟨type, alternative own⟩ : Except DefinitionError _) = .ok (some next))
    (isFor : ∀ own, (alternative own).isFor type = true) (isType : type ≠ .none) :
    definition.type = .none ∧ next.type ≠ .none ∧ next.Agrees := by
  obtain ⟨_, isFree, isRead⟩ := exists_of_bind_eq_ok isRead
  obtain ⟨own, _, isRead⟩ := exists_of_bind_eq_ok isRead
  obtain rfl := Option.some.inj (Except.ok.inj isRead)
  exact ⟨eq_none_of_checkType isFree, isType, isFor own⟩

variable [DefinitionLibrary]

/-- What a member does to the definition: nothing, or it sets a value of its type, or it is a
`sticky_modifier`. -/
theorem handleJson_cases (isRead : definition.handleJson key value json = .ok (some next)) :
    next = definition ∧ key ≠ "sticky_modifier" ∨
      (definition.type = .none ∧ next.type ≠ .none ∧ next.Agrees) ∧ key ≠ "sticky_modifier" ∨
      definition.type = .none ∧ key = "sticky_modifier" ∧ next.type = .stickyModifier ∧
        ∃ members, value = .object members ∧
          readStickyModifier definition.value members = .ok next.value := by
  unfold handleJson at isRead
  split at isRead
  · rename_i isKey
    refine .inr (.inl ⟨agrees_of_set isRead (fun _ => rfl) nofun, ?_⟩)
    rintro rfl
    exact absurd isKey (by decide)
  · split at isRead
    case h_2 =>
      -- `from_event`
      obtain ⟨_, isFree, isRead⟩ := exists_of_bind_eq_ok isRead
      obtain ⟨isFromEvent, _, isRead⟩ := exists_of_bind_eq_ok isRead
      split at isRead
      · obtain rfl := Option.some.inj (Except.ok.inj isRead)
        exact .inr (.inl ⟨⟨eq_none_of_checkType isFree, nofun, rfl⟩, by decide⟩)
      · obtain rfl := Option.some.inj (Except.ok.inj isRead)
        exact .inl ⟨rfl, by decide⟩
    case h_9 =>
      -- `sticky_modifier`
      obtain ⟨_, isFree, isRead⟩ := exists_of_bind_eq_ok isRead
      obtain ⟨members, isObject, isRead⟩ := exists_of_bind_eq_ok isRead
      obtain ⟨own, isOwn, isRead⟩ := exists_of_bind_eq_ok isRead
      obtain rfl := Option.some.inj (Except.ok.inj isRead)
      refine .inr (.inr ⟨eq_none_of_checkType isFree, rfl, rfl, members, ?_, isOwn⟩)
      cases value with
      | object own => rw [Except.ok.inj (eq_ok_of_mapError_eq_ok isObject)]
      | _ => cases isObject
    case h_11 =>
      -- `description`
      obtain rfl := Option.some.inj (Except.ok.inj isRead)
      exact .inl ⟨rfl, by decide⟩
    case h_12 => cases isRead
    all_goals exact .inr (.inl ⟨agrees_of_set isRead (fun _ => rfl) nofun, by decide⟩)

omit [DefinitionLibrary] in
theorem eq_monostate_of_agrees (agrees : definition.Agrees) (isFree : definition.type = .none) :
    definition.value = .monostate := by
  rw [Agrees, isFree] at agrees
  cases isValue : definition.value with
  | monostate => rfl
  | _ => simp [isValue, DefinitionValue.isFor] at agrees

/-- The type and the value agree after a member exactly when they did before and the member is
no empty `sticky_modifier`. -/
theorem agrees_handleJson_iff
    (isRead : definition.handleJson key value json = .ok (some next))
    (startsAgreed : definition.type ≠ .stickyModifier → definition.Agrees) :
    (next.Agrees ↔ definition.Agrees ∧ ¬IsEmptyStickyModifier (key, value)) ∧
      (next.type ≠ .stickyModifier → next.Agrees) := by
  have other : key ≠ "sticky_modifier" → ¬IsEmptyStickyModifier (key, value) :=
    fun different isEmpty => different (congrArg Prod.fst isEmpty)
  rcases handleJson_cases isRead with ⟨rfl, different⟩ | ⟨⟨isFree, isType, agrees⟩, different⟩ |
    ⟨isFree, rfl, isType, members, rfl, isValue⟩
  · exact ⟨(and_iff_left (other different)).symm, startsAgreed⟩
  · exact ⟨iff_of_true agrees ⟨startsAgreed (by rw [isFree]; nofun), other different⟩,
      fun _ => agrees⟩
  · refine ⟨?_, fun different => absurd isType different⟩
    have start := startsAgreed (by rw [isFree]; nofun)
    rw [Agrees, isType]
    rcases readStickyModifier_eq_ok isValue with ⟨rfl, isStart⟩ | ⟨some, isFor⟩
    · rw [isStart, eq_monostate_of_agrees start isFree]
      exact iff_of_false nofun fun both => both.2 rfl
    · refine iff_of_true isFor ⟨start, fun isEmpty => some ?_⟩
      exact Json.object.inj (congrArg Prod.snd isEmpty)

/-- Every `sticky_modifier` is handled. -/
theorem ne_stickyModifier_of_handleJson (isRead : definition.handleJson key value json = .ok none) :
    key ≠ "sticky_modifier" := by
  rintro rfl
  obtain ⟨_, _, isRead⟩ := exists_of_bind_eq_ok
    (show (definition.checkType json >>= _) = .ok none from isRead)
  obtain ⟨_, _, isRead⟩ := exists_of_bind_eq_ok isRead
  obtain ⟨_, _, isRead⟩ := exists_of_bind_eq_ok isRead
  cases isRead

end TaggedEventDefinition

namespace LoadedToEventDefinition

open TaggedEventDefinition

variable [DefinitionLibrary] {definition next : LoadedToEventDefinition} {json : Json}

/-- An option leaves the event as it is. -/
theorem eventDefinition_readOption {key : String} {value : Json}
    (isRead : definition.readOption key value json = .ok next) :
    next.eventDefinition = definition.eventDefinition := by
  unfold readOption at isRead
  split at isRead
  case h_7 =>
    obtain ⟨_, _, isRead⟩ := exists_of_bind_eq_ok isRead
    obtain ⟨_, _, isRead⟩ := exists_of_bind_eq_ok isRead
    rw [← Except.ok.inj isRead]
  case h_8 => cases isRead
  all_goals
    obtain ⟨_, _, isRead⟩ := exists_of_bind_eq_ok isRead
    rw [← Except.ok.inj isRead]

/-- One member. -/
theorem agrees_readMember_iff {member : String × Json}
    (isRead : definition.readMember json member = .ok next)
    (startsAgreed : definition.eventDefinition.type ≠ .stickyModifier →
      definition.eventDefinition.Agrees) :
    (next.eventDefinition.Agrees ↔
        definition.eventDefinition.Agrees ∧ ¬IsEmptyStickyModifier member) ∧
      (next.eventDefinition.type ≠ .stickyModifier → next.eventDefinition.Agrees) := by
  obtain ⟨handled, isHandled, isRead⟩ := exists_of_bind_eq_ok isRead
  cases handled with
  | some eventDefinition =>
      obtain rfl := Except.ok.inj isRead
      exact agrees_handleJson_iff isHandled startsAgreed
  | none =>
      have different := ne_stickyModifier_of_handleJson isHandled
      rw [eventDefinition_readOption isRead]
      exact ⟨(and_iff_left fun isEmpty => different (congrArg Prod.fst isEmpty)).symm,
        startsAgreed⟩

/-- The loop over the members. -/
theorem agrees_foldlM_iff {members : List (String × Json)}
    (isRead : members.foldlM (readMember json) definition = .ok next)
    (startsAgreed : definition.eventDefinition.type ≠ .stickyModifier →
      definition.eventDefinition.Agrees) :
    (next.eventDefinition.Agrees ↔
        definition.eventDefinition.Agrees ∧ ∀ member ∈ members, ¬IsEmptyStickyModifier member) ∧
      (next.eventDefinition.type ≠ .stickyModifier → next.eventDefinition.Agrees) := by
  induction members generalizing definition with
  | nil =>
      obtain rfl := Except.ok.inj isRead
      exact ⟨by simp, startsAgreed⟩
  | cons member rest ih =>
      rw [List.foldlM_cons] at isRead
      obtain ⟨middle, isMiddle, later⟩ := exists_of_bind_eq_ok isRead
      obtain ⟨own, agreed⟩ := agrees_readMember_iff isMiddle startsAgreed
      obtain ⟨others, stillAgreed⟩ := ih later agreed
      refine ⟨?_, stillAgreed⟩
      rw [others, own, List.forall_mem_cons, and_assoc]

/-- What is accepted is an object, and it has a type that may be sent. -/
theorem ofJson_eq_ok (accepted : ofJson json = .ok definition) :
    ∃ members, json = .object members ∧
      members.foldlM (readMember json) initial = .ok definition ∧
      definition.eventDefinition.type ≠ .none ∧ definition.eventDefinition.type ≠ .any := by
  obtain ⟨members, isObject, isRead⟩ := exists_of_bind_eq_ok accepted
  obtain ⟨own, isOwn, isRead⟩ := exists_of_bind_eq_ok isRead
  have isJson : json = .object members := by
    cases json with
    | object others => rw [Except.ok.inj (eq_ok_of_mapError_eq_ok isObject)]
    | _ => cases isObject
  split at isRead
  · cases isRead
  · cases isRead
  · rename_i notNone notAny
    obtain rfl := Except.ok.inj isRead
    exact ⟨members, isJson, isOwn, notNone, notAny⟩

/-- An accepted definition has a value of its type exactly when its JSON has no empty
`sticky_modifier`. -/
theorem agrees_iff (accepted : ofJson json = .ok definition) :
    definition.eventDefinition.Agrees ↔ ∀ member ∈ json.items, ¬IsEmptyStickyModifier member := by
  obtain ⟨members, rfl, isRead, -, -⟩ := ofJson_eq_ok accepted
  exact (agrees_foldlM_iff isRead fun _ => rfl).1.trans (and_iff_right rfl)

/-- Only a `sticky_modifier` is accepted without a value of its type. -/
theorem agrees_of_ne_stickyModifier (accepted : ofJson json = .ok definition)
    (different : definition.eventDefinition.type ≠ .stickyModifier) :
    definition.eventDefinition.Agrees := by
  obtain ⟨members, -, isRead, -, -⟩ := ofJson_eq_ok accepted
  exact (agrees_foldlM_iff isRead fun _ => rfl).2 different

end LoadedToEventDefinition

/-- A definition that the constructor accepts, with its JSON. -/
structure AcceptedDefinition [DefinitionLibrary] where
  json : Json
  definition : LoadedToEventDefinition
  accepted : LoadedToEventDefinition.ofJson json = .ok definition

namespace AcceptedDefinition

variable [DefinitionLibrary]

/-- The object has a `sticky_modifier` without members. -/
def HasEmptyStickyModifier (own : AcceptedDefinition) : Prop :=
  ∃ member ∈ own.json.items, IsEmptyStickyModifier member

/-- The type and the value agree, and `to_event` gives an event, but for `from_event`. -/
structure Settled [JsonText] (own : AcceptedDefinition) : Prop where
  agrees : own.definition.eventDefinition.Agrees
  toEvent : ∃ event, own.definition.eventDefinition.toEvent = .ok event ∧
    (event = none → own.definition.eventDefinition.type = .fromEvent)

theorem agrees_iff (own : AcceptedDefinition) :
    own.definition.eventDefinition.Agrees ↔ ¬own.HasEmptyStickyModifier := by
  rw [LoadedToEventDefinition.agrees_iff own.accepted, HasEmptyStickyModifier]
  push Not
  rfl

/-- What the loader accepts has a value of the kind its tag names, exactly unless it is a sticky
modifier without any flag. -/
theorem settled_iff [JsonText] (own : AcceptedDefinition) :
    own.Settled ↔ ¬own.HasEmptyStickyModifier := by
  refine ⟨fun settled => own.agrees_iff.mp settled.agrees, fun filled => ?_⟩
  have agrees := own.agrees_iff.mpr filled
  obtain ⟨members, -, -, notNone, notAny⟩ := LoadedToEventDefinition.ofJson_eq_ok own.accepted
  refine ⟨agrees, ?_⟩
  by_cases isFromEvent : own.definition.eventDefinition.type = .fromEvent
  · exact ⟨none, by rw [TaggedEventDefinition.toEvent, isFromEvent], fun _ => isFromEvent⟩
  · obtain ⟨event, isEvent⟩ :=
      (TaggedEventDefinition.exists_toEvent_iff notNone notAny isFromEvent).mpr agrees
    exact ⟨some event, isEvent, nofun⟩

end AcceptedDefinition

end Karabiner
