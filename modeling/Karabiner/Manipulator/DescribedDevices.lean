import Karabiner.Foundation.MemberLoop
import Karabiner.Manipulator.AskedConditions

/-! # Devices that a condition describes

The entries of a device condition are read member by member into definitions, and the entries that
say nothing are dropped. A device is described exactly when all the members of some entry that says
something agree with it.
-/

namespace Karabiner

open Foundation

namespace Json

theorem requiresUnsigned_ok {json : Json} {first second : String} {value : Nat}
    (isRead : json.requiresUnsigned first = .ok value) (other : Nat) :
    json.requiresUnsigned second = .ok other ↔ value = other := by
  cases json <;> simp_all [requiresUnsigned]

theorem requiresInt_ok {json : Json} {first second : String} {value : Int}
    (isRead : json.requiresInt first = .ok value) (other : Int) :
    json.requiresInt second = .ok other ↔ value = other := by
  cases json <;> simp_all [requiresInt]

theorem requiresBoolean_ok {json : Json} {name : String} {value : Bool} :
    json.requiresBoolean name = .ok value ↔ json = .boolean value := by
  cases json <;> simp [requiresBoolean]

theorem requiresString_ok {json : Json} {name : String} {value : String} :
    json.requiresString name = .ok value ↔ json = .string value := by
  cases json <;> simp [requiresString]

theorem elements_of_requiresArray {json : Json} {name : String} {entries : List Json}
    (isArray : json.requiresArray name = .ok entries) : json.elements = entries := by
  cases json with
  | array others => exact Except.ok.inj isArray
  | _ => cases isArray

end Json

namespace DeviceDefinition

/-- A value has been read at a key. -/
def isSet (definition : DeviceDefinition) : String → Bool
  | "vendor_id" => definition.vendorId.isSome
  | "product_id" => definition.productId.isSome
  | "location_id" => definition.locationId.isSome
  | "device_address" => definition.deviceAddress.isSome
  | "is_keyboard" => definition.isKeyboard.isSome
  | "is_pointing_device" => definition.isPointingDevice.isSome
  | "is_game_pad" => definition.isGamePad.isSome
  | "is_consumer" => definition.isConsumer.isSome
  | "is_touch_bar" => definition.isTouchBar.isSome
  | "is_built_in_keyboard" => definition.isBuiltInKeyboard.isSome
  | _ => false

variable {entry : Json} {definition next : DeviceDefinition} {member : String × Json}

@[simp] theorem agrees_none {α : Type} [BEq α] (actual : α) : agrees none actual = true := rfl

@[simp] theorem agrees_some {α : Type} [BEq α] [LawfulBEq α] (expected actual : α) :
    agrees (some expected) actual = true ↔ expected = actual := beq_iff_eq

open AskedCondition in
/-- A definition that has read one more member asks for what it asked before and for what the member
says. -/
theorem fulfilled_readMember_iff (context : DeviceConditionContext) (deviceId : DeviceId)
    (properties : DeviceProperties)
    (isRead : definition.readMember entry member = .ok next)
    (unset : ¬definition.isSet member.1 = true) :
    (next.fulfilled context deviceId properties = true ↔
      definition.fulfilled context deviceId properties = true ∧
        IdentifierAgrees context deviceId properties member) := by
  obtain ⟨key, value⟩ := member
  unfold readMember at isRead
  dsimp only at isRead
  split at isRead
  case h_11 =>
    obtain rfl := Except.ok.inj isRead
    exact (and_iff_left trivial).symm
  case h_12 => cases isRead
  case h_1 | h_2 =>
    obtain ⟨number, isNumber, isRead⟩ := exists_of_bind_eq_ok isRead
    obtain rfl := Except.ok.inj isRead
    have absent := Option.not_isSome_iff_eq_none.mp unset
    simp only [fulfilled, absent, agrees_none, agrees_some, Bool.and_eq_true, IdentifierAgrees,
      Json.requiresUnsigned_ok isNumber]
    tauto
  case h_3 =>
    obtain ⟨number, isNumber, isRead⟩ := exists_of_bind_eq_ok isRead
    obtain rfl := Except.ok.inj isRead
    have absent := Option.not_isSome_iff_eq_none.mp unset
    simp only [fulfilled, absent, agrees_none, agrees_some, Bool.and_eq_true, IdentifierAgrees,
      Json.requiresInt_ok isNumber]
    tauto
  case h_4 =>
    obtain ⟨text, isText, isRead⟩ := exists_of_bind_eq_ok isRead
    obtain rfl := Except.ok.inj isRead
    obtain rfl := Json.requiresString_ok.mp isText
    have absent := Option.not_isSome_iff_eq_none.mp unset
    simp only [fulfilled, absent, agrees_none, agrees_some, Bool.and_eq_true, IdentifierAgrees,
      Json.string.injEq]
    tauto
  all_goals
    obtain ⟨flag, isFlag, isRead⟩ := exists_of_bind_eq_ok isRead
    obtain rfl := Except.ok.inj isRead
    obtain rfl := Json.requiresBoolean_ok.mp isFlag
    have absent := Option.not_isSome_iff_eq_none.mp unset
    simp only [fulfilled, absent, agrees_none, agrees_some, Bool.and_eq_true, IdentifierAgrees,
      Json.boolean.injEq]
    tauto

/-- A member sets the value of its key and no other. -/
theorem isSet_readMember (isRead : definition.readMember entry member = .ok next) (key : String) :
    next.isSet key =
      if key = member.1 ∧ key ≠ "description" then true else definition.isSet key := by
  obtain ⟨own, value⟩ := member
  unfold readMember at isRead
  dsimp only at isRead
  split at isRead
  case h_11 =>
    obtain rfl := Except.ok.inj isRead
    have unchanged : ¬(key = "description" ∧ key ≠ "description") := fun both => both.2 both.1
    exact (if_neg unchanged).symm
  case h_12 => cases isRead
  all_goals
    obtain ⟨read, -, isRead⟩ := exists_of_bind_eq_ok isRead
    obtain rfl := Except.ok.inj isRead
    dsimp only
    split
    · rename_i both
      rw [both.1]
      rfl
    · rename_i different
      unfold isSet
      split <;> first | rfl | simp at different

/-- A definition is valid exactly when a key of it is set. -/
theorem valid_iff : definition.valid = true ↔ ∃ key, definition.isSet key = true := by
  constructor
  · intro valid
    simp only [DeviceDefinition.valid, Bool.or_eq_true] at valid
    obtain (((((((((isSet | isSet) | isSet) | isSet) | isSet) | isSet) | isSet) | isSet) |
      isSet) | isSet) := valid
    exacts [⟨"vendor_id", isSet⟩, ⟨"product_id", isSet⟩, ⟨"location_id", isSet⟩,
      ⟨"device_address", isSet⟩, ⟨"is_keyboard", isSet⟩, ⟨"is_pointing_device", isSet⟩,
      ⟨"is_game_pad", isSet⟩, ⟨"is_consumer", isSet⟩, ⟨"is_touch_bar", isSet⟩,
      ⟨"is_built_in_keyboard", isSet⟩]
  · rintro ⟨key, isSet⟩
    unfold DeviceDefinition.isSet at isSet
    split at isSet
    case h_11 => cases isSet
    all_goals simp [DeviceDefinition.valid, isSet]

/-- The keys that are set are those that were set before and those that were read, descriptions
apart. -/
theorem isSet_foldlM_iff {members : List (String × Json)}
    (isRead : members.foldlM (readMember entry) definition = .ok next) (key : String) :
    next.isSet key = true ↔
      definition.isSet key = true ∨
        ∃ member ∈ members, key = member.1 ∧ member.1 ≠ "description" := by
  induction members generalizing definition with
  | nil =>
      obtain rfl := Except.ok.inj isRead
      simp
  | cons member rest ih =>
      obtain ⟨middle, isMiddle, later⟩ := MemberLoop.foldlM_cons_eq_ok isRead
      rw [ih later, isSet_readMember isMiddle key]
      simp only [List.mem_cons, exists_eq_or_imp]
      split
      · rename_i both
        simp [both.1, both.1 ▸ both.2]
      · rename_i different
        have other : ¬(key = member.1 ∧ member.1 ≠ "description") := fun both =>
          different ⟨both.1, both.1 ▸ both.2⟩
        rw [eq_false other, false_or]

/-- A definition is kept when its entry says something. -/
theorem valid_foldlM_iff {members : List (String × Json)}
    (isRead : members.foldlM (readMember entry) .unspecified = .ok next) :
    next.valid = true ↔ ∃ member ∈ members, member.1 ≠ "description" := by
  rw [valid_iff]
  have unset : ∀ key, ¬unspecified.isSet key = true := fun key => by
    unfold isSet
    split <;> exact Bool.false_ne_true
  constructor
  · rintro ⟨key, isSet⟩
    obtain isSet | ⟨member, isMember, -, other⟩ := (isSet_foldlM_iff isRead key).mp isSet
    · exact absurd isSet (unset key)
    · exact ⟨member, isMember, other⟩
  · rintro ⟨member, isMember, other⟩
    exact ⟨member.1, (isSet_foldlM_iff isRead _).mpr (.inr ⟨member, isMember, rfl, other⟩)⟩

open AskedCondition in
/-- The definition of an entry describes the devices that all of its members agree with. -/
theorem fulfilled_foldlM_iff (context : DeviceConditionContext) (deviceId : DeviceId)
    (properties : DeviceProperties) {members : List (String × Json)}
    (keys : (members.map Prod.fst).Nodup)
    (isRead : members.foldlM (readMember entry) .unspecified = .ok next) :
    next.fulfilled context deviceId properties = true ↔
      ∀ member ∈ members, IdentifierAgrees context deviceId properties member := by
  have unset : ∀ member ∈ members, ¬unspecified.isSet member.1 = true := fun member _ => by
    unfold isSet
    split <;> exact Bool.false_ne_true
  have agreed := MemberLoop.holds_foldlM_iff
    (fun definition => definition.fulfilled context deviceId properties = true)
    (IdentifierAgrees context deviceId properties)
    (fun definition key => definition.isSet key = true)
    (fun _ _ _ isMiddle unset =>
      fulfilled_readMember_iff context deviceId properties isMiddle unset)
    (fun definition member next key isMiddle different => by
      rw [isSet_readMember isMiddle key, if_neg fun both => different both.1])
    keys unset isRead
  exact agreed.trans (and_iff_right rfl)

end DeviceDefinition

namespace DeviceCondition

open AskedCondition

variable {condition : DeviceCondition}

/-- The entries that say nothing leave no definition. -/
theorem any_readIdentifiers_iff (context : DeviceConditionContext) (deviceId : DeviceId)
    (properties : DeviceProperties) {entries : List Json}
    (distinct : ∀ entry ∈ entries, entry.DistinctKeys) {start last : List DeviceDefinition}
    (isRead : entries.foldlM readIdentifiers start = .ok last) :
    last.any (·.fulfilled context deviceId properties) = true ↔
      start.any (·.fulfilled context deviceId properties) = true ∨
        ∃ entry ∈ entries, (∃ member ∈ entry.items, member.1 ≠ "description") ∧
          ∀ member ∈ entry.items, IdentifierAgrees context deviceId properties member := by
  induction entries generalizing start with
  | nil =>
      obtain rfl := Except.ok.inj isRead
      simp
  | cons entry rest ih =>
      rw [List.foldlM_cons] at isRead
      obtain ⟨middle, isMiddle, later⟩ := exists_of_bind_eq_ok isRead
      obtain ⟨distinctOwn, distinctRest⟩ := List.forall_mem_cons.mp distinct
      obtain ⟨members, isObject, isMiddle⟩ := exists_of_bind_eq_ok isMiddle
      obtain ⟨definition, isDefinition, isMiddle⟩ := exists_of_bind_eq_ok isMiddle
      obtain rfl := Except.ok.inj isMiddle
      have isMembers : entry.items = members := by
        cases entry with
        | object others => exact Except.ok.inj isObject
        | _ => cases isObject
      have agreed := DeviceDefinition.fulfilled_foldlM_iff context deviceId properties
        (isMembers ▸ distinctOwn) isDefinition
      have kept := DeviceDefinition.valid_foldlM_iff isDefinition
      rw [ih distinctRest later]
      simp only [List.mem_cons, exists_eq_or_imp, isMembers, ← agreed, ← kept]
      rw [← or_assoc]
      refine or_congr_left ?_
      split
      · rename_i valid
        simp [valid]
      · rename_i invalid
        simp [invalid]

end DeviceCondition

/-- `conditions::device::type` in JSON. -/
def DeviceConditionType.name : DeviceConditionType → String
  | .deviceIf => "device_if"
  | .deviceUnless => "device_unless"
  | .deviceExistsIf => "device_exists_if"
  | .deviceExistsUnless => "device_exists_unless"

namespace DeviceCondition

variable {json : Json} {condition next : DeviceCondition} {key : String} {value : Json}

/-- What a member may be, and what it leaves. -/
theorem readMember_cases (isRead : condition.readMember json (key, value) = .ok next) :
    (key = "type" ∧ ∃ type : DeviceConditionType, value = .string type.name ∧
      next = { condition with type := type }) ∨
    (key = "identifiers" ∧ ∃ definitions,
      value.elements.foldlM readIdentifiers condition.definitions = .ok definitions ∧
        next = { condition with definitions := definitions }) ∨
    (key = "description" ∧ next = condition) := by
  unfold readMember at isRead
  dsimp only at isRead
  split at isRead
  · obtain ⟨name, isName, isRead⟩ := exists_of_bind_eq_ok isRead
    have isString := Json.requiresString_ok.mp isName
    split at isRead
    · exact .inl ⟨rfl, .deviceIf, isString, (Except.ok.inj isRead).symm⟩
    · exact .inl ⟨rfl, .deviceUnless, isString, (Except.ok.inj isRead).symm⟩
    · exact .inl ⟨rfl, .deviceExistsIf, isString, (Except.ok.inj isRead).symm⟩
    · exact .inl ⟨rfl, .deviceExistsUnless, isString, (Except.ok.inj isRead).symm⟩
    · cases isRead
  · obtain ⟨entries, isArray, isRead⟩ := exists_of_bind_eq_ok isRead
    obtain ⟨definitions, areDefinitions, isRead⟩ := exists_of_bind_eq_ok isRead
    refine .inr (.inl ⟨rfl, definitions, ?_, (Except.ok.inj isRead).symm⟩)
    rwa [Json.elements_of_requiresArray isArray]
  · exact .inr (.inr ⟨rfl, (Except.ok.inj isRead).symm⟩)
  · cases isRead

/-- What the constructor leaves. -/
theorem ofJson_eq_ok (distinct : json.DistinctKeysWithin) (accepted : ofJson json = .ok condition)
    {type : String} (isType : json.find? "type" = some (.string type)) :
    type = condition.type.name ∧ ∀ context deviceId,
      condition.describes context deviceId = true ↔
        AskedCondition.IsDescribed json context deviceId := by
  obtain ⟨members, isObject, isRead⟩ := exists_of_bind_eq_ok accepted
  have isJson : json = .object members := by
    cases json with
    | object others => rw [Except.ok.inj isObject]
    | _ => cases isObject
  subst isJson
  have ownType : MemberLoop.Component (readMember (.object members)) (·.type) "type"
      fun _ value after => value = .string after.name := by
    constructor <;> grind [→ readMember_cases]
  have definitions : MemberLoop.Component (readMember (.object members)) (·.definitions)
      "identifiers" fun before value after =>
        value.elements.foldlM readIdentifiers before = .ok after := by
    constructor <;> grind [→ readMember_cases]
  constructor
  · have changed := ownType.field_of_foldlM distinct.1 isRead
    rw [show (Json.items (.object members)).lookup "type" = some (.string type) from isType]
      at changed
    exact Json.string.inj changed
  intro context deviceId
  have changed : MemberLoop.Changed (fun before value after =>
      value.elements.foldlM readIdentifiers before = .ok after) []
      (Json.find? (.object members) "identifiers") condition.definitions :=
    definitions.field_of_foldlM distinct.1 isRead
  unfold describes AskedCondition.IsDescribed
  cases known : context.environment.deviceProperties deviceId with
  | none => simp
  | some properties =>
      cases found : Json.find? (.object members) "identifiers" with
      | none =>
          rw [found] at changed
          have noDefinitions : condition.definitions = [] := changed
          simp [noDefinitions, Json.entriesAt, found]
      | some value =>
          rw [found] at changed
          have atKey : Json.entriesAt (.object members) "identifiers" = value.elements := by
            rw [Json.entriesAt, found, Option.elim_some]
          have described := any_readIdentifiers_iff context deviceId properties
            (fun entry isEntry => distinct.entry (atKey ▸ isEntry)) changed
          simpa [atKey] using described

end DeviceCondition

end Karabiner
