import Karabiner.Manipulator.DescribedDevices

/-! # What the constructors of the conditions leave

For each condition there is one lemma for what a member may be and what it leaves, and one for the
condition that the constructor makes of an object in which each key stands once.
-/

namespace Karabiner

open Foundation

theorem checked_eq_ok {α : Type} {read : Except UnmarshalError α} {value : α} :
    checked read = .ok value ↔ read = .ok value := by
  cases read <;> simp [checked, Except.mapError]

/-- The name of one of the two types. -/
def ConditionSense.name (sense : ConditionSense) (ifName unlessName : String) : String :=
  match sense with
  | .if_ => ifName
  | .unless => unlessName

theorem string_of_readSense {ifName unlessName : String} {value : Json} {sense : ConditionSense}
    (isRead : readSense ifName unlessName value = .ok sense) :
    value = .string (sense.name ifName unlessName) := by
  obtain ⟨type, isType, isRead⟩ := exists_of_bind_eq_ok isRead
  rw [Json.requiresString_ok.mp (checked_eq_ok.mp isType)]
  split at isRead
  · rename_i same
    rw [← Except.ok.inj isRead, same, ConditionSense.name]
  · split at isRead
    · rename_i same
      rw [← Except.ok.inj isRead, same, ConditionSense.name]
    · cases isRead

theorem name_of_changed {json : Json} {ifName unlessName type : String}
    {before sense : ConditionSense}
    (changed : MemberLoop.Changed
      (fun _ value after => readSense ifName unlessName value = .ok after) before
      (json.find? "type") sense)
    (isType : json.find? "type" = some (.string type)) : type = sense.name ifName unlessName := by
  rw [isType] at changed
  exact Json.string.inj (string_of_readSense changed)

theorem eq_object_of_checked {json : Json} {name : String} {members : List (String × Json)}
    (isObject : checked (json.requiresObject name) = .ok members) : json = .object members := by
  cases json with
  | object others => rw [Except.ok.inj (checked_eq_ok.mp isObject)]
  | _ => cases isObject

/-- A constructor reads the members of an object. -/
theorem members_of_checked {α : Type} {json : Json} {start result : α}
    {read : α → String × Json → Except ConditionError α}
    (accepted : (do (← checked (json.requiresObject "json")).foldlM read start) = .ok result) :
    ∃ members, json = .object members ∧ members.foldlM read start = .ok result := by
  obtain ⟨members, isObject, isRead⟩ := exists_of_bind_eq_ok accepted
  exact ⟨members, eq_object_of_checked isObject, isRead⟩

theorem kept_of_changed {φ : Type} {before after : φ} {value : Option Json}
    (changed : MemberLoop.Changed (fun before _ after => after = before) before value after) :
    after = before := by
  cases value <;> exact changed

section Regexes

variable [RegexLibrary]

theorem string_of_readRegex {json : Json} {text : String} (isRead : readRegex json = .ok text) :
    json = .string text := by
  obtain ⟨own, isText, isRead⟩ := exists_of_bind_eq_ok isRead
  rw [Json.requiresString_ok.mp (checked_eq_ok.mp isText)]
  split at isRead
  · rw [← Except.ok.inj isRead]
  · cases isRead

/-- The expressions of an array are its texts. -/
theorem texts_of_readRegexes {key : String} {value : Json} {patterns : List String}
    (isRead : readRegexes key value = .ok patterns) :
    value.elements.filterMap Json.text? = patterns := by
  obtain ⟨entries, isArray, isRead⟩ := exists_of_bind_eq_ok isRead
  rw [Json.elements_of_requiresArray (checked_eq_ok.mp isArray)]
  refine MemberLoop.filterMap_eq_of_mapM (fun entry text isText => ?_)
    (eq_ok_of_mapError_eq_ok isRead)
  rw [string_of_readRegex isText, Json.text?]

theorem texts_of_changed {json : Json} {key : String} {patterns : List String}
    (changed : MemberLoop.Changed (fun _ value after => readRegexes key value = .ok after) []
      (json.find? key) patterns) : patterns = json.textsAt key := by
  unfold Json.textsAt Json.entriesAt
  cases found : json.find? key with
  | none =>
      rw [found] at changed
      exact changed
  | some value =>
      rw [found] at changed
      exact (texts_of_readRegexes changed).symm

namespace FrontmostApplicationCondition

variable {json : Json} {condition next : FrontmostApplicationCondition} {key : String}
  {value : Json}

/-- What a member may be, and what it leaves. -/
theorem readMember_cases (isRead : condition.readMember json (key, value) = .ok next) :
    (key = "type" ∧ ∃ sense,
      readSense "frontmost_application_if" "frontmost_application_unless" value = .ok sense ∧
        next = { condition with sense := sense }) ∨
    (key = "bundle_identifiers" ∧ ∃ patterns, readRegexes key value = .ok patterns ∧
      next = { condition with bundleIdentifiers := patterns }) ∨
    (key = "file_paths" ∧ ∃ patterns, readRegexes key value = .ok patterns ∧
      next = { condition with filePaths := patterns }) ∨
    (key = "description" ∧ next = condition) := by
  unfold readMember at isRead
  dsimp only at isRead
  split at isRead
  case h_4 => exact .inr (.inr (.inr ⟨rfl, (Except.ok.inj isRead).symm⟩))
  case h_5 => cases isRead
  all_goals obtain ⟨result, isResult, isRead⟩ := exists_of_bind_eq_ok isRead
  · exact .inl ⟨rfl, result, isResult, (Except.ok.inj isRead).symm⟩
  · exact .inr (.inl ⟨rfl, result, isResult, (Except.ok.inj isRead).symm⟩)
  · exact .inr (.inr (.inl ⟨rfl, result, isResult, (Except.ok.inj isRead).symm⟩))

/-- What the constructor leaves. -/
theorem ofJson_eq_ok (distinct : json.DistinctKeys) (accepted : ofJson json = .ok condition)
    {type : String} (isType : json.find? "type" = some (.string type)) :
    type = condition.sense.name "frontmost_application_if" "frontmost_application_unless" ∧
      condition.bundleIdentifiers = json.textsAt "bundle_identifiers" ∧
      condition.filePaths = json.textsAt "file_paths" ∧ condition.cachedResult = none := by
  obtain ⟨members, rfl, isRead⟩ := members_of_checked accepted
  have sense : MemberLoop.Component (readMember (.object members)) (·.sense) "type"
      fun _ value after =>
        readSense "frontmost_application_if" "frontmost_application_unless" value = .ok after := by
    constructor <;> grind [readMember_cases]
  have bundleIdentifiers : MemberLoop.Component (readMember (.object members))
      (·.bundleIdentifiers) "bundle_identifiers"
      fun _ value after => readRegexes "bundle_identifiers" value = .ok after := by
    constructor <;> grind [readMember_cases]
  have filePaths : MemberLoop.Component (readMember (.object members)) (·.filePaths) "file_paths"
      fun _ value after => readRegexes "file_paths" value = .ok after := by
    constructor <;> grind [readMember_cases]
  have cachedResult : MemberLoop.Component (readMember (.object members)) (·.cachedResult) ""
      fun before _ after => after = before := by
    constructor <;> grind [readMember_cases]
  refine ⟨name_of_changed (sense.field_of_foldlM distinct isRead) isType,
    texts_of_changed (bundleIdentifiers.field_of_foldlM distinct isRead),
    texts_of_changed (filePaths.field_of_foldlM distinct isRead), ?_⟩
  exact kept_of_changed (cachedResult.field_of_foldlM distinct isRead)

end FrontmostApplicationCondition

namespace InputSourceCondition

/-- A text has been read at a key of a specifier. -/
def isSet (specifier : InputSourceProperties) : String → Bool
  | "language" => specifier.firstLanguage.isSome
  | "input_source_id" => specifier.inputSourceId.isSome
  | "input_mode_id" => specifier.inputModeId.isSome
  | _ => false

theorem string_of_readSpecifierText {key text : String} {value : Json}
    (isRead : readSpecifierText key value = .ok text) : value = .string text := by
  obtain ⟨own, isText, isRead⟩ := exists_of_bind_eq_ok isRead
  rw [Json.requiresString_ok.mp (checked_eq_ok.mp isText)]
  split at isRead
  · rw [← Except.ok.inj isRead]
  · cases isRead

/-- What a member of a specifier asks of an input source. -/
def MemberAgrees (source : CurrentInputSource) (member : String × Json) : Prop :=
  ∃ pattern actual, member.2 = .string pattern ∧
    AskedCondition.sourceText source member.1 = some actual ∧ RegexLibrary.search pattern actual

@[simp] theorem agrees_none (text : Option String) : agrees none text = true := rfl

@[simp] theorem agrees_some_iff {pattern : String} {text : Option String} :
    agrees (some pattern) text = true ↔
      ∃ actual, text = some actual ∧ RegexLibrary.search pattern actual = true := by
  simp [agrees, Option.any_eq_true]

theorem memberAgrees_iff {source : CurrentInputSource} {key pattern : String} :
    MemberAgrees source (key, .string pattern) ↔
      ∃ actual, AskedCondition.sourceText source key = some actual ∧
        RegexLibrary.search pattern actual = true := by
  simp [MemberAgrees]

/-- A specifier that has read one more member tests what it tested before and that the source agrees
with the member. -/
theorem test_readSpecifierMember_iff (source : CurrentInputSource)
    {specifier next : InputSourceProperties} {member : String × Json}
    (isRead : readSpecifierMember specifier member = .ok next)
    (unset : ¬isSet specifier member.1 = true) :
    test next source = true ↔ test specifier source = true ∧ MemberAgrees source member := by
  obtain ⟨key, value⟩ := member
  unfold readSpecifierMember at isRead
  dsimp only at isRead
  split at isRead
  case h_4 => cases isRead
  all_goals
    obtain ⟨pattern, isPattern, isRead⟩ := exists_of_bind_eq_ok isRead
    obtain rfl := Except.ok.inj isRead
    obtain rfl := string_of_readSpecifierText isPattern
    have absent := Option.not_isSome_iff_eq_none.mp unset
    simp only [test, absent, Bool.and_eq_true, agrees_some_iff, agrees_none, memberAgrees_iff,
      AskedCondition.sourceText]
    tauto

theorem isSet_readSpecifierMember {specifier next : InputSourceProperties}
    {member : String × Json} (isRead : readSpecifierMember specifier member = .ok next)
    {key : String} (different : key ≠ member.1) : isSet next key = isSet specifier key := by
  obtain ⟨own, value⟩ := member
  unfold readSpecifierMember at isRead
  dsimp only at isRead
  split at isRead
  case h_4 => cases isRead
  all_goals
    obtain ⟨pattern, -, isRead⟩ := exists_of_bind_eq_ok isRead
    obtain rfl := Except.ok.inj isRead
    unfold isSet
    split <;> first | rfl | exact absurd rfl different

/-- The specifier of an entry selects the input sources that all of its members agree with. -/
theorem test_readSpecifier_iff (source : CurrentInputSource) {entry : Json}
    {specifier : InputSourceProperties} (distinct : entry.DistinctKeys)
    (isRead : readSpecifier entry = .ok specifier) :
    test specifier source = true ↔ ∀ member ∈ entry.items, MemberAgrees source member := by
  obtain ⟨members, rfl, isRead⟩ := members_of_checked isRead
  have unset : ∀ member ∈ members, ¬isSet ⟨none, none, none⟩ member.1 = true := fun member _ => by
    unfold isSet
    split <;> exact Bool.false_ne_true
  have agreed := MemberLoop.holds_foldlM_iff (fun specifier => test specifier source = true)
    (MemberAgrees source) (fun specifier key => isSet specifier key = true)
    (fun specifier member next isMiddle => test_readSpecifierMember_iff source isMiddle)
    (fun specifier member next key isMiddle different => by
      rw [isSet_readSpecifierMember isMiddle different])
    distinct unset isRead
  exact agreed.trans (and_iff_right rfl)

variable {json : Json} {condition next : InputSourceCondition} {key : String} {value : Json}

/-- The entries of an array are the specifiers that are appended. -/
def Appended (before : List InputSourceProperties) (value : Json)
    (after : List InputSourceProperties) : Prop :=
  ∃ specifiers, after = before ++ specifiers ∧
    value.elements.mapM (fun entry =>
      (readSpecifier entry).mapError (ConditionError.entryOf "input_sources")) = .ok specifiers

/-- What a member may be, and what it leaves. -/
theorem readMember_cases (isRead : condition.readMember json (key, value) = .ok next) :
    (key = "type" ∧ ∃ sense,
      readSense "input_source_if" "input_source_unless" value = .ok sense ∧
        next = { condition with sense := sense }) ∨
    (key = "input_sources" ∧ ∃ specifiers,
      Appended condition.inputSourceSpecifiers value specifiers ∧
        next = { condition with inputSourceSpecifiers := specifiers }) ∨
    (key = "description" ∧ next = condition) := by
  unfold readMember at isRead
  dsimp only at isRead
  split at isRead
  · obtain ⟨sense, isSense, isRead⟩ := exists_of_bind_eq_ok isRead
    exact .inl ⟨rfl, sense, isSense, (Except.ok.inj isRead).symm⟩
  · obtain ⟨entries, isArray, isRead⟩ := exists_of_bind_eq_ok isRead
    obtain ⟨specifiers, areSpecifiers, isRead⟩ := exists_of_bind_eq_ok isRead
    refine .inr (.inl ⟨rfl, _, ⟨specifiers, rfl, ?_⟩, (Except.ok.inj isRead).symm⟩)
    rwa [Json.elements_of_requiresArray (checked_eq_ok.mp isArray)]
  · exact .inr (.inr ⟨rfl, (Except.ok.inj isRead).symm⟩)
  · cases isRead

/-- What the constructor leaves. -/
theorem ofJson_eq_ok (distinct : json.DistinctKeysWithin) (accepted : ofJson json = .ok condition)
    {type : String} (isType : json.find? "type" = some (.string type)) :
    type = condition.sense.name "input_source_if" "input_source_unless" ∧
      (∀ source, condition.inputSourceSpecifiers.any (test · source) = true ↔
        AskedCondition.IsSelected json source) ∧ condition.cachedResult = none := by
  obtain ⟨members, rfl, isRead⟩ := members_of_checked accepted
  have sense : MemberLoop.Component (readMember (.object members)) (·.sense) "type"
      fun _ value after =>
        readSense "input_source_if" "input_source_unless" value = .ok after := by
    constructor <;> grind [readMember_cases]
  have specifiers : MemberLoop.Component (readMember (.object members))
      (·.inputSourceSpecifiers) "input_sources" Appended := by
    constructor <;> grind [readMember_cases]
  have cachedResult : MemberLoop.Component (readMember (.object members)) (·.cachedResult) ""
      fun before _ after => after = before := by
    constructor <;> grind [readMember_cases]
  refine ⟨name_of_changed (sense.field_of_foldlM distinct.1 isRead) isType, fun source => ?_,
    kept_of_changed (cachedResult.field_of_foldlM distinct.1 isRead)⟩
  have changed : MemberLoop.Changed Appended [] (Json.find? (.object members) "input_sources")
    condition.inputSourceSpecifiers := specifiers.field_of_foldlM distinct.1 isRead
  rw [List.any_eq_true]
  cases found : Json.find? (.object members) "input_sources" with
  | none =>
      rw [found] at changed
      have noSpecifiers : condition.inputSourceSpecifiers = [] := changed
      simp [noSpecifiers, AskedCondition.IsSelected, Json.entriesAt, found]
  | some value =>
      rw [found] at changed
      obtain ⟨read, isAppended, areRead⟩ := changed
      have atKey : Json.entriesAt (.object members) "input_sources" = value.elements := by
        rw [Json.entriesAt, found, Option.elim_some]
      rw [isAppended, List.nil_append, AskedCondition.IsSelected, atKey]
      refine MemberLoop.exists_mem_iff_of_mapM areRead fun entry isEntry specifier isSpecifier => ?_
      exact test_readSpecifier_iff source (distinct.entry (atKey ▸ isEntry))
        (eq_ok_of_mapError_eq_ok isSpecifier)

end InputSourceCondition

end Regexes

theorem value_of_changed {α : Type} (Read : Json → α → Prop) {value : Option Json} {result : α}
    (changed : MemberLoop.Changed (fun _ value after => ∃ result, Read value result ∧
      after = some result) none value (some result)) :
    ∃ json, value = some json ∧ Read json result := by
  cases value with
  | none => cases changed
  | some json =>
      obtain ⟨own, isRead, same⟩ := changed
      exact ⟨json, rfl, Option.some.inj same ▸ isRead⟩

namespace VariableCondition

variable {json : Json}

/-- What a member may be, and what it leaves. -/
theorem readMember_cases {condition next : VariableMembers} {key : String} {value : Json}
    (isRead : condition.readMember json (key, value) = .ok next) :
    (key = "type" ∧ ∃ sense, readSense "variable_if" "variable_unless" value = .ok sense ∧
      next = { condition with sense := sense }) ∨
    (key = "name" ∧ ∃ name, value = .string name ∧ next = { condition with name := some name }) ∨
    (key = "value" ∧ ∃ own, VariableValue.ofJson value = .ok own ∧
      next = { condition with value := some own }) ∨
    (key = "description" ∧ next = condition) := by
  unfold VariableMembers.readMember at isRead
  dsimp only at isRead
  split at isRead
  case h_4 => exact .inr (.inr (.inr ⟨rfl, (Except.ok.inj isRead).symm⟩))
  case h_5 => cases isRead
  all_goals obtain ⟨result, isResult, isRead⟩ := exists_of_bind_eq_ok isRead
  · exact .inl ⟨rfl, result, isResult, (Except.ok.inj isRead).symm⟩
  · have isString := Json.requiresString_ok.mp (checked_eq_ok.mp isResult)
    exact .inr (.inl ⟨rfl, result, isString, (Except.ok.inj isRead).symm⟩)
  · have isValue := eq_ok_of_mapError_eq_ok isResult
    exact .inr (.inr (.inl ⟨rfl, result, isValue, (Except.ok.inj isRead).symm⟩))

/-- What the constructor leaves. -/
theorem ofJson_eq_ok {condition : VariableCondition} (distinct : json.DistinctKeys)
    (accepted : ofJson json = .ok condition) {type : String}
    (isType : json.find? "type" = some (.string type)) :
    type = condition.sense.name "variable_if" "variable_unless" ∧
      json.find? "name" = some (.string condition.name) ∧
      ∃ value, json.find? "value" = some value ∧
        VariableValue.ofJson value = .ok condition.value := by
  obtain ⟨members, isObject, accepted⟩ := exists_of_bind_eq_ok accepted
  obtain rfl := eq_object_of_checked isObject
  obtain ⟨last, isRead, made⟩ := exists_of_bind_eq_ok accepted
  have sense : MemberLoop.Component (VariableMembers.readMember (.object members)) (·.sense) "type"
      fun _ value after => readSense "variable_if" "variable_unless" value = .ok after := by
    constructor <;> grind [→ readMember_cases]
  have name : MemberLoop.Component (VariableMembers.readMember (.object members)) (·.name) "name"
      fun _ value after => ∃ name, value = .string name ∧ after = some name := by
    constructor <;> grind [→ readMember_cases]
  have value : MemberLoop.Component (VariableMembers.readMember (.object members)) (·.value)
      "value" fun _ value after => ∃ own, VariableValue.ofJson value = .ok own ∧
        after = some own := by
    constructor <;> grind [→ readMember_cases]
  have ownSense := name_of_changed (sense.field_of_foldlM distinct isRead) isType
  have ownName := name.field_of_foldlM distinct isRead
  have ownValue := value.field_of_foldlM distinct isRead
  split at made
  · cases made
  · cases made
  · rename_i isName isValue
    obtain rfl := Except.ok.inj made
    rw [isName] at ownName
    rw [isValue] at ownValue
    obtain ⟨_, atName, rfl⟩ :=
      value_of_changed (fun value name => value = .string name) ownName
    obtain ⟨written, atValue, isRead⟩ :=
      value_of_changed (fun value own => VariableValue.ofJson value = .ok own) ownValue
    exact ⟨ownSense, atName, written, atValue, isRead⟩

end VariableCondition

namespace KeyboardTypeCondition

variable {json : Json} {condition next : KeyboardTypeCondition} {key : String} {value : Json}

/-- What a member may be, and what it leaves. -/
theorem readMember_cases (isRead : condition.readMember json (key, value) = .ok next) :
    (key = "type" ∧ ∃ sense,
      readSense "keyboard_type_if" "keyboard_type_unless" value = .ok sense ∧
        next = { condition with sense := sense }) ∨
    (key = "keyboard_types" ∧
      next = { condition with
        keyboardTypes := condition.keyboardTypes ++ value.elements.filterMap Json.text? }) ∨
    (key = "description" ∧ next = condition) := by
  unfold readMember at isRead
  dsimp only at isRead
  split at isRead
  · obtain ⟨sense, isSense, isRead⟩ := exists_of_bind_eq_ok isRead
    exact .inl ⟨rfl, sense, isSense, (Except.ok.inj isRead).symm⟩
  · obtain ⟨entries, isArray, isRead⟩ := exists_of_bind_eq_ok isRead
    obtain ⟨types, areTypes, isRead⟩ := exists_of_bind_eq_ok isRead
    have texts : entries.filterMap Json.text? = types :=
      MemberLoop.filterMap_eq_of_mapM (fun entry text isText => by
        rw [Json.requiresString_ok.mp (checked_eq_ok.mp isText), Json.text?]) areTypes
    refine .inr (.inl ⟨rfl, ?_⟩)
    rw [Json.elements_of_requiresArray (checked_eq_ok.mp isArray), texts]
    exact (Except.ok.inj isRead).symm
  · exact .inr (.inr ⟨rfl, (Except.ok.inj isRead).symm⟩)
  · cases isRead

/-- What the constructor leaves. -/
theorem ofJson_eq_ok (distinct : json.DistinctKeys) (accepted : ofJson json = .ok condition)
    {type : String} (isType : json.find? "type" = some (.string type)) :
    type = condition.sense.name "keyboard_type_if" "keyboard_type_unless" ∧
      condition.keyboardTypes = json.textsAt "keyboard_types" := by
  obtain ⟨members, rfl, isRead⟩ := members_of_checked accepted
  have sense : MemberLoop.Component (readMember (.object members)) (·.sense) "type"
      fun _ value after =>
        readSense "keyboard_type_if" "keyboard_type_unless" value = .ok after := by
    constructor <;> grind [→ readMember_cases]
  have types : MemberLoop.Component (readMember (.object members)) (·.keyboardTypes)
      "keyboard_types"
      fun before value after => after = before ++ value.elements.filterMap Json.text? := by
    constructor <;> grind [→ readMember_cases]
  refine ⟨name_of_changed (sense.field_of_foldlM distinct isRead) isType, ?_⟩
  have changed : MemberLoop.Changed
      (fun before value after => after = before ++ value.elements.filterMap Json.text?) []
      (Json.find? (.object members) "keyboard_types") condition.keyboardTypes :=
    types.field_of_foldlM distinct isRead
  unfold Json.textsAt Json.entriesAt
  cases found : Json.find? (.object members) "keyboard_types" with
  | none =>
      rw [found] at changed
      exact changed
  | some value =>
      rw [found] at changed
      exact changed

end KeyboardTypeCondition

namespace EventChangedCondition

variable {json : Json}

/-- What a member may be, and what it leaves. -/
theorem readMember_cases {condition next : ConditionSense × Option Bool} {key : String}
    {value : Json} (isRead : readMember json condition (key, value) = .ok next) :
    (key = "type" ∧ ∃ sense,
      readSense "event_changed_if" "event_changed_unless" value = .ok sense ∧
        next = (sense, condition.2)) ∨
    (key = "value" ∧ ∃ own, value = .boolean own ∧ next = (condition.1, some own)) ∨
    (key = "description" ∧ next = condition) := by
  unfold readMember at isRead
  dsimp only at isRead
  split at isRead
  · obtain ⟨sense, isSense, isRead⟩ := exists_of_bind_eq_ok isRead
    exact .inl ⟨rfl, sense, isSense, (Except.ok.inj isRead).symm⟩
  · obtain ⟨own, isOwn, isRead⟩ := exists_of_bind_eq_ok isRead
    have isBoolean := Json.requiresBoolean_ok.mp (checked_eq_ok.mp isOwn)
    exact .inr (.inl ⟨rfl, own, isBoolean, (Except.ok.inj isRead).symm⟩)
  · exact .inr (.inr ⟨rfl, (Except.ok.inj isRead).symm⟩)
  · cases isRead

/-- What the constructor leaves. -/
theorem ofJson_eq_ok {condition : EventChangedCondition} (distinct : json.DistinctKeys)
    (accepted : ofJson json = .ok condition) {type : String}
    (isType : json.find? "type" = some (.string type)) :
    type = condition.sense.name "event_changed_if" "event_changed_unless" ∧
      json.find? "value" = some (.boolean condition.value) := by
  obtain ⟨members, isObject, accepted⟩ := exists_of_bind_eq_ok accepted
  obtain rfl := eq_object_of_checked isObject
  obtain ⟨last, isRead, made⟩ := exists_of_bind_eq_ok accepted
  have sense : MemberLoop.Component (readMember (.object members)) Prod.fst "type"
      fun _ value after =>
        readSense "event_changed_if" "event_changed_unless" value = .ok after := by
    constructor <;> grind [→ readMember_cases]
  have value : MemberLoop.Component (readMember (.object members)) Prod.snd "value"
      fun _ value after => ∃ own, value = .boolean own ∧ after = some own := by
    constructor <;> grind [→ readMember_cases]
  have ownSense := name_of_changed (sense.field_of_foldlM distinct isRead) isType
  have ownValue := value.field_of_foldlM distinct isRead
  split at made
  · obtain rfl := Except.ok.inj made
    obtain ⟨_, atValue, rfl⟩ :=
      value_of_changed (fun value own => value = .boolean own) ownValue
    exact ⟨ownSense, atValue⟩
  · cases made

end EventChangedCondition

namespace ExpressionCondition

variable [DefinitionLibrary] {json : Json} {condition next : ExpressionCondition} {key : String}
  {value : Json}

theorem unmarshalString_of_expression {text : String}
    (isRead : SetVariable.unmarshalExpressionString key value = .ok text) :
    JsonUtility.unmarshalString key value = .ok text := by
  obtain ⟨own, isText, isRead⟩ := exists_of_bind_eq_ok isRead
  split at isRead
  · rw [← Except.ok.inj isRead]
    exact eq_ok_of_mapError_eq_ok isText
  · cases isRead

/-- What a member may be, and what it leaves. -/
theorem readMember_cases (isRead : condition.readMember json (key, value) = .ok next) :
    (key = "type" ∧ ∃ sense, readSense "expression_if" "expression_unless" value = .ok sense ∧
      next = { condition with sense := sense }) ∨
    (key = "expression" ∧ ∃ text, JsonUtility.unmarshalString "expression" value = .ok text ∧
      next = { condition with expression := some text }) ∨
    (key = "description" ∧ next = condition) := by
  unfold readMember at isRead
  dsimp only at isRead
  split at isRead
  · obtain ⟨sense, isSense, isRead⟩ := exists_of_bind_eq_ok isRead
    exact .inl ⟨rfl, sense, isSense, (Except.ok.inj isRead).symm⟩
  · obtain ⟨text, isText, isRead⟩ := exists_of_bind_eq_ok isRead
    have isString := unmarshalString_of_expression (eq_ok_of_mapError_eq_ok isText)
    exact .inr (.inl ⟨rfl, text, isString, (Except.ok.inj isRead).symm⟩)
  · exact .inr (.inr ⟨rfl, (Except.ok.inj isRead).symm⟩)
  · cases isRead

/-- What the constructor leaves. -/
theorem ofJson_eq_ok (distinct : json.DistinctKeys) (accepted : ofJson json = .ok condition)
    {type : String} (isType : json.find? "type" = some (.string type)) :
    type = condition.sense.name "expression_if" "expression_unless" ∧
      ∀ text, condition.expression = some text ↔
        ∃ source, json.find? "expression" = some source ∧
          JsonUtility.unmarshalString "expression" source = .ok text := by
  obtain ⟨members, rfl, isRead⟩ := members_of_checked accepted
  have sense : MemberLoop.Component (readMember (.object members)) (·.sense) "type"
      fun _ value after => readSense "expression_if" "expression_unless" value = .ok after := by
    constructor <;> grind [→ readMember_cases]
  have expression : MemberLoop.Component (readMember (.object members)) (·.expression)
      "expression" fun _ value after => ∃ text,
        JsonUtility.unmarshalString "expression" value = .ok text ∧ after = some text := by
    constructor <;> grind [→ readMember_cases]
  refine ⟨name_of_changed (sense.field_of_foldlM distinct isRead) isType, fun text => ?_⟩
  let Read (value : Json) (text : String) : Prop :=
    JsonUtility.unmarshalString "expression" value = .ok text
  have changed : MemberLoop.Changed (fun _ value after => ∃ text, Read value text ∧
      after = some text) none (Json.find? (.object members) "expression") condition.expression :=
    expression.field_of_foldlM distinct isRead
  constructor
  · intro isExpression
    rw [isExpression] at changed
    exact value_of_changed Read changed
  · rintro ⟨source, found, isText⟩
    rw [found] at changed
    obtain ⟨own, isOwn, same⟩ := changed
    rw [same, Except.ok.inj (isOwn.symm.trans isText)]

end ExpressionCondition

end Karabiner
