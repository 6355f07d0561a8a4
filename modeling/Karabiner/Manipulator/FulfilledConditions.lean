import Karabiner.Basic.LoadedPosting
import Karabiner.Foundation.LastResult
import Karabiner.Manipulator.ReadConditions

/-! # Conditions are fulfilled when what they ask is so

Two of the conditions answer with a result that they have kept. The kept results are those of the
conditions, so that every call of `condition_manager::is_fulfilled` asks the objects that the
conditions have been made of (`LoadedCondition.results_iff`).
-/

namespace Karabiner

open Foundation

namespace LoadedCondition

variable [RegexLibrary]

/-- `is_fulfilled` without the results that are kept. -/
def answer (inputs : ConditionInputs) (position : Nat) : LoadedCondition → Bool
  | .device condition => condition.isFulfilled inputs.devices inputs.context.deviceId
  | .eventChanged condition => condition.isFulfilled inputs.context.state
  | .expression condition => condition.isFulfilled (inputs.expressionValue position)
  | .frontmostApplication condition => condition.compute inputs.frontmostApplication
  | .inputSource condition => condition.compute inputs.inputSource
  | .variable condition => condition.isFulfilled inputs
  | .keyboardType condition => condition.isFulfilled inputs

/-- The result that a condition keeps is its own. -/
def Sound : LoadedCondition → Prop
  | .frontmostApplication condition =>
      LastResult.Sound condition.compute condition.cachedResult
  | .inputSource condition => LastResult.Sound condition.compute condition.cachedResult
  | _ => True

/-- A condition keeps its own results and answers what its object asks. -/
structure Answers (json : Json) (condition : LoadedCondition) : Prop where
  sound : condition.Sound
  asks : ∀ inputs position,
    condition.answer inputs position = true ↔ AskedCondition.Asks inputs position json

/-- A call returns the answer and leaves a condition that answers the same. -/
theorem Answers.isFulfilled {json : Json} {condition : LoadedCondition}
    (answers : Answers json condition) (inputs : ConditionInputs) (position : Nat) :
    (condition.isFulfilled inputs position).1 = condition.answer inputs position ∧
      Answers json (condition.isFulfilled inputs position).2 := by
  cases condition with
  | frontmostApplication condition =>
      obtain ⟨same, sound⟩ := LastResult.Sound.read answers.sound inputs.frontmostApplication
      exact ⟨same, sound, answers.asks⟩
  | inputSource condition =>
      obtain ⟨same, sound⟩ := LastResult.Sound.read answers.sound inputs.inputSource
      exact ⟨same, sound, answers.asks⟩
  | _ => exact ⟨rfl, answers⟩

/-- One call of the manager. -/
theorem allFulfilled_iff {jsons : List Json} {conditions : List LoadedCondition}
    (answers : List.Forall₂ Answers jsons conditions) (inputs : ConditionInputs)
    (position : Nat) :
    ((allFulfilled inputs position conditions).1 = true ↔
        ∀ asked ∈ jsons.zipIdx position, AskedCondition.Asks inputs asked.2 asked.1) ∧
      List.Forall₂ Answers jsons (allFulfilled inputs position conditions).2 := by
  induction answers generalizing position with
  | nil => exact ⟨by simp [allFulfilled], .nil⟩
  | @cons json condition jsons conditions own _ ih =>
      obtain ⟨result, ownAfter⟩ := own.isFulfilled inputs position
      obtain ⟨others, othersAfter⟩ := ih (position + 1)
      refine ⟨?_, .cons ownAfter othersAfter⟩
      rw [List.zipIdx_cons, List.forall_mem_cons, ← others, ← own.asks, ← result]
      exact Bool.and_eq_true_iff

/-- The calls of the manager. -/
theorem forall₂_results {jsons : List Json} {conditions : List LoadedCondition}
    (answers : List.Forall₂ Answers jsons conditions) (calls : List ConditionInputs) :
    List.Forall₂ (fun inputs result => result = true ↔
        ∀ asked ∈ jsons.zipIdx, AskedCondition.Asks inputs asked.2 asked.1)
      calls (results conditions calls) := by
  induction calls generalizing conditions with
  | nil => exact .nil
  | cons inputs calls ih =>
      obtain ⟨result, after⟩ := allFulfilled_iff answers inputs 0
      exact .cons result (ih after)

variable {json : Json}

theorem answers_device {condition : DeviceCondition} (distinct : json.DistinctKeysWithin)
    (accepted : DeviceCondition.ofJson json = .ok condition) {type : String}
    (isType : json.find? "type" = some (.string type)) : Answers json (.device condition) := by
  refine ⟨trivial, fun inputs position => ?_⟩
  obtain ⟨isOwnType, described⟩ := DeviceCondition.ofJson_eq_ok distinct accepted isType
  obtain rfl := isOwnType
  cases sense : condition.type <;>
    simp [answer, DeviceCondition.isFulfilled, AskedCondition.Asks, isType, sense, described,
      DeviceConditionType.name, ← Bool.not_eq_true]

theorem answers_eventChanged {condition : EventChangedCondition} (distinct : json.DistinctKeys)
    (accepted : EventChangedCondition.ofJson json = .ok condition) {type : String}
    (isType : json.find? "type" = some (.string type)) :
    Answers json (.eventChanged condition) := by
  refine ⟨trivial, fun inputs position => ?_⟩
  obtain ⟨rfl, isValue⟩ := EventChangedCondition.ofJson_eq_ok distinct accepted isType
  cases sense : condition.sense <;> cases value : condition.value <;>
    simp [answer, EventChangedCondition.isFulfilled, AskedCondition.Asks, AskedCondition.IsState,
      isType, sense, isValue, value, ConditionSense.name]

/-- A condition with an expression answers what its object asks. -/
theorem answers_expression [DefinitionLibrary] {condition : ExpressionCondition}
    (distinct : json.DistinctKeys)
    (accepted : ExpressionCondition.ofJson json = .ok condition) {type : String}
    (isType : json.find? "type" = some (.string type)) : Answers json (.expression condition) := by
  refine ⟨trivial, fun inputs position => ?_⟩
  obtain ⟨rfl, isExpression⟩ := ExpressionCondition.ofJson_eq_ok distinct accepted isType
  have evaluates : ∀ value, AskedCondition.Evaluates json (inputs.expressionValue position) value ↔
      condition.expression.bind (inputs.expressionValue position) = some value := fun value => by
    rw [Option.bind_eq_some_iff]
    simp only [isExpression]
    constructor
    · rintro ⟨source, text, found, isText, isValue⟩
      exact ⟨text, ⟨source, found, isText⟩, isValue⟩
    · rintro ⟨text, ⟨source, found, isText⟩, isValue⟩
      exact ⟨source, text, found, isText, isValue⟩
  cases sense : condition.sense <;>
    cases isValue : condition.expression.bind (inputs.expressionValue position) <;>
    simp [answer, ExpressionCondition.isFulfilled, AskedCondition.Asks, isType, sense, isValue,
      evaluates, ConditionSense.name, ConditionSense.answer]

/-- A condition on the frontmost application answers what its object asks. -/
theorem answers_frontmostApplication {condition : FrontmostApplicationCondition}
    (distinct : json.DistinctKeys)
    (accepted : FrontmostApplicationCondition.ofJson json = .ok condition) {type : String}
    (isType : json.find? "type" = some (.string type)) :
    Answers json (.frontmostApplication condition) := by
  obtain ⟨rfl, bundleIdentifiers, filePaths, cachedResult⟩ :=
    FrontmostApplicationCondition.ofJson_eq_ok distinct accepted isType
  refine ⟨?_, fun inputs position => ?_⟩
  · rw [Sound, cachedResult]
    exact LastResult.sound_none
  have isFound : ∀ key text, FrontmostApplicationCondition.finds (json.textsAt key) text = true ↔
      AskedCondition.IsFound json key text := fun key text => by
    simp [FrontmostApplicationCondition.finds, AskedCondition.IsFound, Option.any_eq_true]
  cases sense : condition.sense <;>
    simp [answer, FrontmostApplicationCondition.compute, AskedCondition.Asks,
      AskedCondition.IsFrontmost, isType, sense, bundleIdentifiers, filePaths, isFound,
      ConditionSense.name, ConditionSense.answer, ← Bool.not_eq_true]

/-- A condition on the input source answers what its object asks. -/
theorem answers_inputSource {condition : InputSourceCondition}
    (distinct : json.DistinctKeysWithin)
    (accepted : InputSourceCondition.ofJson json = .ok condition) {type : String}
    (isType : json.find? "type" = some (.string type)) : Answers json (.inputSource condition) := by
  obtain ⟨rfl, isSelected, cachedResult⟩ :=
    InputSourceCondition.ofJson_eq_ok distinct accepted isType
  refine ⟨?_, fun inputs position => ?_⟩
  · rw [Sound, cachedResult]
    exact LastResult.sound_none
  have selected := isSelected inputs.inputSource
  cases sense : condition.sense with
  | if_ =>
      rw [answer, InputSourceCondition.compute, sense, ConditionSense.answer, selected]
      simp [AskedCondition.Asks, isType, sense, ConditionSense.name]
  | «unless» =>
      rw [answer, InputSourceCondition.compute, sense, ConditionSense.answer, Bool.not_eq_true',
        ← Bool.not_eq_true, selected]
      simp [AskedCondition.Asks, isType, sense, ConditionSense.name]

theorem answers_variable {condition : VariableCondition} (distinct : json.DistinctKeys)
    (accepted : VariableCondition.ofJson json = .ok condition) {type : String}
    (isType : json.find? "type" = some (.string type)) : Answers json (.variable condition) := by
  refine ⟨trivial, fun inputs position => ?_⟩
  obtain ⟨rfl, isName, value, isValue, isRead⟩ :=
    VariableCondition.ofJson_eq_ok distinct accepted isType
  have hasValue : AskedCondition.HasValue json inputs.getVariable ↔
      inputs.getVariable condition.name = condition.value := by
    simp [AskedCondition.HasValue, isName, isValue, isRead, eq_comm]
  cases sense : condition.sense <;>
    simp [answer, VariableCondition.isFulfilled, AskedCondition.Asks, isType, sense, hasValue,
      ConditionSense.name, ConditionSense.answer]

theorem answers_keyboardType {condition : KeyboardTypeCondition} (distinct : json.DistinctKeys)
    (accepted : KeyboardTypeCondition.ofJson json = .ok condition) {type : String}
    (isType : json.find? "type" = some (.string type)) :
    Answers json (.keyboardType condition) := by
  refine ⟨trivial, fun inputs position => ?_⟩
  obtain ⟨rfl, areTypes⟩ := KeyboardTypeCondition.ofJson_eq_ok distinct accepted isType
  cases sense : condition.sense <;>
    simp [answer, KeyboardTypeCondition.isFulfilled, AskedCondition.Asks, isType, sense, areTypes,
      ConditionSense.name, ConditionSense.answer, ← Bool.not_eq_true]

variable [DefinitionLibrary]

/-- What the factory makes answers what the object asks. -/
theorem answers_of_makeCondition {condition : LoadedCondition} (distinct : json.DistinctKeysWithin)
    (made : makeCondition json = .ok condition) : Answers json condition := by
  unfold makeCondition at made
  cases found : json.find? "type" with
  | none =>
      rw [found] at made
      cases made
  | some value =>
      rw [found] at made
      obtain ⟨type, isString, picked⟩ := exists_of_bind_eq_ok made
      obtain rfl := Json.requiresString_ok.mp (checked_eq_ok.mp isString)
      split at picked
      case h_17 => cases picked
      all_goals
        obtain ⟨own, accepted, picked⟩ := exists_of_bind_eq_ok picked
        obtain rfl := Except.ok.inj picked
      · exact answers_device distinct (checked_eq_ok.mp accepted) found
      · exact answers_device distinct (checked_eq_ok.mp accepted) found
      · exact answers_device distinct (checked_eq_ok.mp accepted) found
      · exact answers_device distinct (checked_eq_ok.mp accepted) found
      · exact answers_eventChanged distinct.1 accepted found
      · exact answers_eventChanged distinct.1 accepted found
      · exact answers_expression distinct.1 accepted found
      · exact answers_expression distinct.1 accepted found
      · exact answers_frontmostApplication distinct.1 accepted found
      · exact answers_frontmostApplication distinct.1 accepted found
      · exact answers_inputSource distinct accepted found
      · exact answers_inputSource distinct accepted found
      · exact answers_variable distinct.1 accepted found
      · exact answers_variable distinct.1 accepted found
      · exact answers_keyboardType distinct.1 accepted found
      · exact answers_keyboardType distinct.1 accepted found

/-- Conditions that the factory makes of objects are fulfilled, in every call of any run of calls,
exactly when what each of the objects asks is so. -/
theorem results_iff {jsons : List Json} {conditions : List LoadedCondition}
    (distinct : ∀ json ∈ jsons, json.DistinctKeysWithin)
    (made : jsons.mapM makeCondition = .ok conditions) (calls : List ConditionInputs) :
    List.Forall₂ (fun inputs result => result = true ↔
        ∀ asked ∈ jsons.zipIdx, AskedCondition.Asks inputs asked.2 asked.1)
      calls (results conditions calls) := by
  refine forall₂_results ?_ calls
  have each := MemberLoop.forall₂_of_mapM made
  clear made
  induction each with
  | nil => exact .nil
  | cons own _ ih =>
      obtain ⟨distinctOwn, distinctRest⟩ := List.forall_mem_cons.mp distinct
      exact .cons (answers_of_makeCondition distinctOwn own) (ih distinctRest)

end LoadedCondition

/-- A library of expressions that are found in themselves. -/
@[reducible] def literalTexts : RegexLibrary where
  compiles _ := true
  search pattern text := decide (pattern = text)

/-- A condition on the application, and one on a variable. -/
def terminalWithoutVim : List Json :=
  [.object [("type", .string "frontmost_application_if"),
      ("bundle_identifiers", .array [.string "Terminal"])],
    .object [("type", .string "variable_unless"), ("name", .string "vim"), ("value", .unsigned 1)]]

/-- A call while an application is in front and a variable has a value. -/
def callIn (bundleIdentifier : String) (vim : Int) : ConditionInputs where
  context := ⟨0, .original⟩
  devices := ⟨.initial, [], fun _ => 0, fun _ => false⟩
  frontmostApplication := ⟨some bundleIdentifier, none, none, none, .workspace⟩
  inputSource := ⟨none, none, none, [], none⟩
  getVariable _ := .integer vim
  keyboardTypeV2 := "ansi"
  expressionValue _ _ := none

/-- The result for an application is kept while the variable changes. -/
theorem LoadedCondition.results_terminalWithoutVim :
    let _ := literalTexts; let _ := AcceptedDefinition.keyALibrary;
    ∃ conditions, terminalWithoutVim.mapM makeCondition = .ok conditions ∧
      LoadedCondition.results conditions [callIn "Terminal" 0, callIn "Terminal" 1, callIn "Safari" 0] =
        [true, false, false] ∧
      List.Forall₂ (fun inputs result => result = true ↔
          ∀ asked ∈ terminalWithoutVim.zipIdx, AskedCondition.Asks inputs asked.2 asked.1)
        [callIn "Terminal" 0, callIn "Terminal" 1, callIn "Safari" 0] [true, false, false] := by
  let _ := literalTexts
  let _ := AcceptedDefinition.keyALibrary
  have distinct : ∀ json ∈ terminalWithoutVim, json.DistinctKeysWithin := by decide
  exact ⟨_, rfl, rfl, results_iff distinct rfl _⟩

end Karabiner
