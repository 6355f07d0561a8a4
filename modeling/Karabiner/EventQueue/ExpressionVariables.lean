import Karabiner.EventQueue.Environment
import Mathlib.Data.List.Induction

/-! # The variables of expressions

An expression has its own copy of each variable it uses. The environment is applied to the
expressions before they are evaluated: the names that were unset get their initial value
again, and each variable is assigned, when its type fits its name. A variable that was set to
a value of the other type is not assigned, and keeps what an earlier environment left in it. And
names that the environment tells apart by their case are one variable of the expression, which
holds the value of the name that comes last in the hash table
(`TrackedExpression.applyEnvironment_eq_iff`).
-/

namespace Karabiner

/-- The variables and the unset names of `manipulator_environment`. The order of the lists
stands for the one of the source's hash tables, which may be any (`reorder`). -/
structure EnvironmentVariables where
  variables_ : List (String × VariableValue)
  unsetVariableNames : List String
deriving DecidableEq

namespace EnvironmentVariables

def initial : EnvironmentVariables := ⟨[], []⟩

/-- `variables_[name] = value`. -/
def assign (name : String) (value : VariableValue) :
    List (String × VariableValue) → List (String × VariableValue)
  | [] => [(name, value)]
  | (other, old) :: rest =>
      if other = name then (name, value) :: rest else (other, old) :: assign name value rest

/-- `manipulator_environment::set_variable`. -/
def setVariable (environment : EnvironmentVariables) (name : String) (value : VariableValue) :
    EnvironmentVariables :=
  { variables_ := assign name value environment.variables_
    unsetVariableNames := environment.unsetVariableNames.filter fun other => other ≠ name }

/-- `manipulator_environment::unset_variable`. -/
def unsetVariable (environment : EnvironmentVariables) (name : String) : EnvironmentVariables :=
  { variables_ := environment.variables_.filter fun x => x.1 ≠ name
    unsetVariableNames := environment.unsetVariableNames.insert name }

/-- The table of the variables is run over in another order from now on. -/
def reorder (environment : EnvironmentVariables) (order : List (String × VariableValue)) :
    EnvironmentVariables :=
  if order.Perm environment.variables_ then { environment with variables_ := order }
  else environment

end EnvironmentVariables

/-- The numbers of the expression library, `double` in the source. -/
class ExpressionNumber (Number : Type) where
  ofInt : Int → Number

/-- What a variable of an expression holds. -/
inductive ExpressionValue (Number : Type) where
  | number (value : Number)
  | string (value : String)
deriving DecidableEq

inductive VariableKind where
  | number
  | string
deriving DecidableEq

namespace VariableKind

/-- `is_string_variable_name`. -/
def isStringVariableName (name : String) : Bool := "_string".toList.isSuffixOf name.toList

def ofName (name : String) : VariableKind :=
  if isStringVariableName name then .string else .number

end VariableKind

/-- The library does not tell upper from lower case in the names of variables. -/
abbrev VariableSymbol := List Char

def VariableSymbol.ofName (name : String) : VariableSymbol := name.toList.map Char.toLower

section

variable {Number : Type} [ExpressionNumber Number]

namespace ExpressionValue

omit [ExpressionNumber Number] in
def kind : ExpressionValue Number → VariableKind
  | .number _ => .number
  | .string _ => .string

/-- What an unknown variable holds (`zeroing_unknown_symbol_resolver`). -/
def initial : VariableKind → ExpressionValue Number
  | .number => .number (ExpressionNumber.ofInt 0)
  | .string => .string ""

/-- The argument of `set_variable`: integers and booleans are converted to numbers. -/
def ofVariableValue : VariableValue → ExpressionValue Number
  | .integer value => .number (ExpressionNumber.ofInt value)
  | .boolean value => .number (ExpressionNumber.ofInt (if value then 1 else 0))
  | .string value => .string value

end ExpressionValue

/-- `exprtk_utility::expression_wrapper`: its symbol table, with one store for the variables
of each kind. -/
structure ExpressionWrapper (Number : Type) where
  symbolTable : VariableKind → VariableSymbol → Option (ExpressionValue Number)

namespace ExpressionWrapper

/-- The expression is compiled: the variables it uses get their initial values. -/
def compile (names : List String) : ExpressionWrapper Number where
  symbolTable kind symbol :=
    if names.any fun name =>
        decide (VariableKind.ofName name = kind ∧ VariableSymbol.ofName name = symbol) then
      some (.initial kind)
    else none

omit [ExpressionNumber Number] in
/-- `set_variable_` and `set_string_variable_`: a variable that is not in the store of its
kind is left out. -/
def assign (expression : ExpressionWrapper Number) (kind : VariableKind) (symbol : VariableSymbol)
    (value : ExpressionValue Number) : ExpressionWrapper Number where
  symbolTable other otherSymbol :=
    if other = kind ∧ otherSymbol = symbol then
      (expression.symbolTable other otherSymbol).map fun _ => value
    else expression.symbolTable other otherSymbol

omit [ExpressionNumber Number] in
/-- `expression_wrapper::set_variable`, of both types: a value of the other kind than the name
is refused. -/
def setVariable (expression : ExpressionWrapper Number) (name : String)
    (value : ExpressionValue Number) : ExpressionWrapper Number :=
  if value.kind = VariableKind.ofName name then
    expression.assign value.kind (.ofName name) value
  else expression

/-- `expression_wrapper::unset_variable`. -/
def unsetVariable (expression : ExpressionWrapper Number) (name : String) :
    ExpressionWrapper Number :=
  expression.assign (.ofName name) (.ofName name) (.initial (.ofName name))

/-- `manipulator_environment::apply_to_expression_variable`. -/
def applyEnvironment (expression : ExpressionWrapper Number)
    (environment : EnvironmentVariables) : ExpressionWrapper Number :=
  environment.variables_.foldl
    (fun expression x => expression.setVariable x.1 (.ofVariableValue x.2))
    (environment.unsetVariableNames.foldl unsetVariable expression)

end ExpressionWrapper

/-! ## What an environment assigns -/

/-- The assignment of a value to a variable. -/
structure VariableAssignment (Number : Type) where
  kind : VariableKind
  symbol : VariableSymbol
  value : ExpressionValue Number

namespace EnvironmentVariables

/-- The assignments that the environment makes: the initial values of the unset names, and the
values that fit their names. -/
def assignments (environment : EnvironmentVariables) : List (VariableAssignment Number) :=
  environment.unsetVariableNames.map (fun name =>
      ⟨.ofName name, .ofName name, .initial (.ofName name)⟩) ++
    environment.variables_.filterMap fun x =>
      let value : ExpressionValue Number := .ofVariableValue x.2
      if value.kind = VariableKind.ofName x.1 then some ⟨value.kind, .ofName x.1, value⟩ else none

/-- The values that the environment assigns to a variable. -/
def assigned (environment : EnvironmentVariables) (kind : VariableKind)
    (symbol : VariableSymbol) : List (ExpressionValue Number) :=
  (environment.assignments.filter fun x : VariableAssignment Number =>
    decide (x.kind = kind ∧ x.symbol = symbol)).map VariableAssignment.value

end EnvironmentVariables

namespace ExpressionWrapper

omit [ExpressionNumber Number] in
/-- The last assignment decides what a variable holds. -/
theorem symbolTable_foldl (assignments : List (VariableAssignment Number))
    (expression : ExpressionWrapper Number) (kind : VariableKind) (symbol : VariableSymbol) :
    (assignments.foldl (fun expression x => expression.assign x.kind x.symbol x.value)
        expression).symbolTable kind symbol =
      (expression.symbolTable kind symbol).map
        (((assignments.filter fun x => decide (x.kind = kind ∧ x.symbol = symbol)).map
          VariableAssignment.value).getLast?.getD ·) := by
  induction assignments generalizing expression with
  | nil => simp
  | cons x rest ih =>
      rw [List.foldl_cons, ih]
      by_cases same : x.kind = kind ∧ x.symbol = symbol
      · have stored : (expression.assign x.kind x.symbol x.value).symbolTable kind symbol =
            (expression.symbolTable kind symbol).map fun _ => x.value :=
          if_pos ⟨same.1.symm, same.2.symm⟩
        rw [stored, List.filter_cons_of_pos (by simpa using same), Option.map_map,
          List.map_cons, List.getLast?_cons]
        rfl
      · have stored : (expression.assign x.kind x.symbol x.value).symbolTable kind symbol =
            expression.symbolTable kind symbol :=
          if_neg fun equal => same ⟨equal.1.symm, equal.2.symm⟩
        rw [stored, List.filter_cons_of_neg (by simpa using same)]

/-- Applying an environment makes its assignments. -/
theorem applyEnvironment_eq (expression : ExpressionWrapper Number)
    (environment : EnvironmentVariables) :
    expression.applyEnvironment environment =
      environment.assignments.foldl
        (fun expression x => expression.assign x.kind x.symbol x.value) expression := by
  unfold applyEnvironment EnvironmentVariables.assignments
  rw [List.foldl_append, List.foldl_map]
  have sets : ∀ (vars : List (String × VariableValue)) (start : ExpressionWrapper Number),
      vars.foldl (fun expression x => expression.setVariable x.1 (.ofVariableValue x.2)) start =
        (vars.filterMap fun x =>
          let value : ExpressionValue Number := .ofVariableValue x.2
          if value.kind = VariableKind.ofName x.1 then
            some (⟨value.kind, .ofName x.1, value⟩ : VariableAssignment Number)
          else none).foldl
          (fun expression x => expression.assign x.kind x.symbol x.value) start := by
    intro vars
    induction vars with
    | nil => exact fun _ => rfl
    | cons x rest ih =>
        intro start
        rw [List.foldl_cons, ih, List.filterMap_cons]
        dsimp only
        split
        · rename_i isNone
          split at isNone
          · cases isNone
          · rename_i refused
            rw [setVariable, if_neg refused]
        · rename_i isSome
          split at isSome
          · rename_i fits
            rw [← Option.some.inj isSome, List.foldl_cons, setVariable, if_pos fits]
          · cases isSome
  exact sets environment.variables_ (environment.unsetVariableNames.foldl unsetVariable expression)

/-- What a variable holds after an environment is applied. -/
theorem symbolTable_applyEnvironment (expression : ExpressionWrapper Number)
    (environment : EnvironmentVariables) (kind : VariableKind) (symbol : VariableSymbol) :
    (expression.applyEnvironment environment).symbolTable kind symbol =
      (expression.symbolTable kind symbol).map
        ((environment.assigned kind symbol).getLast?.getD ·) := by
  rw [applyEnvironment_eq]
  exact symbolTable_foldl _ _ _ _

/-- What a variable holds after several environments are applied. -/
theorem symbolTable_applyEnvironments (expression : ExpressionWrapper Number)
    (environments : List EnvironmentVariables) (kind : VariableKind) (symbol : VariableSymbol) :
    (environments.foldl applyEnvironment expression).symbolTable kind symbol =
      (expression.symbolTable kind symbol).map fun old =>
        (environments.flatMap fun environment =>
            (environment.assigned kind symbol : List (ExpressionValue Number))).getLast?.getD
          old := by
  induction environments using List.reverseRecOn with
  | nil => simp
  | append_singleton before environment ih =>
      rw [List.foldl_append, List.foldl_cons, List.foldl_nil, symbolTable_applyEnvironment, ih,
        Option.map_map, List.flatMap_append, List.flatMap_singleton]
      congr 1
      funext old
      simp only [Function.comp_apply, List.getLast?_append]
      cases (environment.assigned kind symbol : List (ExpressionValue Number)).getLast? with
      | none => rfl
      | some value => rfl

end ExpressionWrapper

/-! ## Histories -/

/-- What changes the variables of an environment. -/
inductive VariableChange where
  | set (name : String) (value : VariableValue)
  | unset (name : String)

namespace EnvironmentVariables

def change (environment : EnvironmentVariables) : VariableChange → EnvironmentVariables
  | .set name value => environment.setVariable name value
  | .unset name => environment.unsetVariable name

end EnvironmentVariables

/-- The variables change, their hash table changes its order, or the environment is applied to
the expression. -/
inductive TrackedStep where
  | change (change : VariableChange)
  | rehash (order : List (String × VariableValue))
  | applyEnvironment

/-- An expression, and the environments that were applied to it since it was compiled. -/
structure TrackedExpression (Number : Type) where
  environment : EnvironmentVariables
  expression : ExpressionWrapper Number
  applied : List EnvironmentVariables

namespace TrackedExpression

def step (tracked : TrackedExpression Number) : TrackedStep → TrackedExpression Number
  | .change change => { tracked with environment := tracked.environment.change change }
  | .rehash order => { tracked with environment := tracked.environment.reorder order }
  | .applyEnvironment =>
      { tracked with
        expression := tracked.expression.applyEnvironment tracked.environment
        applied := tracked.applied ++ [tracked.environment] }

/-- An expression that is compiled after some changes, and what happens to it then. -/
def run (before : List VariableChange) (names : List String) (steps : List TrackedStep) :
    TrackedExpression Number :=
  steps.foldl step ⟨before.foldl .change .initial, .compile names, []⟩

/-- The variable does not keep a value of an earlier environment: the environment assigns it,
or the last value that was assigned to it is the initial one. -/
def Current (Number : Type) [ExpressionNumber Number] (applied : List EnvironmentVariables)
    (environment : EnvironmentVariables) (name : String) : Prop :=
  (environment.assigned (.ofName name) (.ofName name) : List (ExpressionValue Number)) ≠ [] ∨
    ∀ value ∈ (applied.flatMap fun earlier =>
      (earlier.assigned (.ofName name) (.ofName name) : List (ExpressionValue Number))).getLast?,
        value = .initial (.ofName name)

/-- The expression has what the applied environments left in it. -/
theorem expression_foldl (steps : List TrackedStep) (tracked : TrackedExpression Number)
    (compiled : ExpressionWrapper Number)
    (same : tracked.expression =
      tracked.applied.foldl ExpressionWrapper.applyEnvironment compiled) :
    (steps.foldl step tracked).expression =
      (steps.foldl step tracked).applied.foldl ExpressionWrapper.applyEnvironment compiled := by
  induction steps generalizing tracked with
  | nil => exact same
  | cons first rest ih =>
      refine ih _ ?_
      cases first with
      | change change => exact same
      | rehash order => exact same
      | applyEnvironment =>
          change tracked.expression.applyEnvironment tracked.environment =
            (tracked.applied ++ [tracked.environment]).foldl _ _
          rw [List.foldl_append, same]
          rfl

end TrackedExpression

/-! ## The values of a new expression -/

namespace EnvironmentVariables

/-- What a variable of the name is to hold: the value of the environment when its type fits, and
else the initial value. -/
def expected (environment : EnvironmentVariables) (name : String) : ExpressionValue Number :=
  match environment.variables_.lookup name with
  | some value =>
      if (ExpressionValue.ofVariableValue value : ExpressionValue Number).kind = .ofName name then
        .ofVariableValue value
      else .initial (.ofName name)
  | none => .initial (.ofName name)

/-- No name has two values, and no name with a value is unset. -/
structure Consistent (environment : EnvironmentVariables) : Prop where
  nodup : (environment.variables_.map Prod.fst).Nodup
  apart : ∀ name ∈ environment.unsetVariableNames, name ∉ environment.variables_.map Prod.fst

/-- Assigning keeps the names of the table, to which it adds the name unless it is there already. -/
theorem map_fst_assign (name : String) (value : VariableValue)
    (vars : List (String × VariableValue)) :
    (assign name value vars).map Prod.fst =
      if name ∈ vars.map Prod.fst then vars.map Prod.fst else vars.map Prod.fst ++ [name] := by
  induction vars with
  | nil => rfl
  | cons x rest ih =>
      unfold assign
      split
      · rename_i same
        rw [List.map_cons, List.map_cons, ← same, if_pos List.mem_cons_self]
      · rename_i different
        rw [List.map_cons, List.map_cons, ih]
        by_cases member : name ∈ rest.map Prod.fst
        · rw [if_pos member, if_pos (List.mem_cons_of_mem _ member)]
        · have isNew : name ∉ x.1 :: rest.map Prod.fst := by
            rw [List.mem_cons, not_or]
            exact ⟨fun same => different same.symm, member⟩
          rw [if_neg member, if_neg isNew]
          rfl

theorem lookup_cons_eq (first other : String) (old : VariableValue)
    (rest : List (String × VariableValue)) :
    ((first, old) :: rest).lookup other =
      if other = first then some old else rest.lookup other := by
  by_cases same : other = first
  · simp [same]
  · have different : (other == first) = false := by simpa using same
    rw [List.lookup_cons, different, if_neg same]

/-- A change of the environment keeps its names different. -/
theorem Consistent.change {environment : EnvironmentVariables} (consistent : Consistent environment)
    (change : VariableChange) : Consistent (environment.change change) := by
  cases change with
  | set name value =>
      constructor
      · change ((EnvironmentVariables.assign name value environment.variables_).map _).Nodup
        rw [map_fst_assign]
        split
        · exact consistent.nodup
        · rename_i isNew
          exact List.nodup_append.mpr ⟨consistent.nodup, List.pairwise_singleton _ _,
            fun other member _ isName same => isNew (List.mem_singleton.mp isName ▸ same ▸ member)⟩
      · intro other isUnset
        obtain ⟨member, different⟩ := List.mem_filter.mp isUnset
        change other ∉ (EnvironmentVariables.assign name value environment.variables_).map _
        rw [map_fst_assign]
        split
        · exact consistent.apart other member
        · intro isKey
          rcases List.mem_append.mp isKey with before | isName
          · exact consistent.apart other member before
          · exact of_decide_eq_true different (List.mem_singleton.mp isName)
  | unset name =>
      have shorter : ((environment.variables_.filter fun x => x.1 ≠ name).map Prod.fst).Sublist
          (environment.variables_.map Prod.fst) := List.filter_sublist.map _
      refine ⟨consistent.nodup.sublist shorter, fun other isUnset isKey => ?_⟩
      rcases List.mem_insert_iff.mp isUnset with rfl | member
      · obtain ⟨x, isLeft, rfl⟩ := List.mem_map.mp isKey
        exact of_decide_eq_true (List.mem_filter.mp isLeft).2 rfl
      · exact consistent.apart other member (shorter.subset isKey)

theorem Consistent.reorder {environment : EnvironmentVariables}
    (consistent : Consistent environment) (order : List (String × VariableValue)) :
    Consistent (environment.reorder order) := by
  unfold EnvironmentVariables.reorder
  split
  · rename_i perm
    have names := perm.map Prod.fst
    exact ⟨names.nodup_iff.mpr consistent.nodup,
      fun name isUnset isKey => consistent.apart name isUnset (names.mem_iff.mp isKey)⟩
  · exact consistent

theorem mem_of_lookup {vars : List (String × VariableValue)} {name : String}
    {value : VariableValue} (found : vars.lookup name = some value) : (name, value) ∈ vars := by
  induction vars with
  | nil => cases found
  | cons x rest ih =>
      obtain ⟨first, old⟩ := x
      rw [lookup_cons_eq] at found
      split at found
      · rename_i same
        rw [same, Option.some.inj found]
        exact List.mem_cons_self
      · exact List.mem_cons_of_mem _ (ih found)

theorem lookup_of_mem {vars : List (String × VariableValue)} {name : String}
    {value : VariableValue} (nodup : (vars.map Prod.fst).Nodup) (member : (name, value) ∈ vars) :
    vars.lookup name = some value := by
  induction vars with
  | nil => cases member
  | cons x rest ih =>
      obtain ⟨first, old⟩ := x
      obtain ⟨isNew, nodupRest⟩ := List.nodup_cons.mp nodup
      rw [lookup_cons_eq]
      rcases List.mem_cons.mp member with same | later
      · obtain ⟨rfl, rfl⟩ := Prod.mk.inj same
        exact if_pos rfl
      · have different : name ≠ first := by
          intro same
          have isKey := List.mem_map_of_mem (f := Prod.fst) later
          exact isNew (same ▸ isKey)
        rw [if_neg different, ih nodupRest later]

/-- The value of an entry of the table, when it is one of the variable and its type fits. -/
def fittingValue (kind : VariableKind) (symbol : VariableSymbol) (x : String × VariableValue) :
    Option (ExpressionValue Number) :=
  let value : ExpressionValue Number := .ofVariableValue x.2
  if VariableKind.ofName x.1 = kind ∧ VariableSymbol.ofName x.1 = symbol ∧ value.kind = kind then
    some value
  else none

/-- A variable is assigned its initial value for the unset names, and then the values that fit. -/
theorem assigned_eq (environment : EnvironmentVariables) (kind : VariableKind)
    (symbol : VariableSymbol) :
    (environment.assigned kind symbol : List (ExpressionValue Number)) =
      (environment.unsetVariableNames.filter fun name =>
          decide (VariableKind.ofName name = kind ∧ VariableSymbol.ofName name = symbol)).map
        (fun _ => .initial kind) ++ environment.variables_.filterMap (fittingValue kind symbol) := by
  unfold assigned assignments
  rw [List.filter_append, List.map_append, List.filter_map, List.map_map]
  congr 1
  · refine List.map_congr_left fun name member => ?_
    have same := of_decide_eq_true (List.mem_filter.mp member).2
    exact congrArg ExpressionValue.initial same.1
  · generalize environment.variables_ = vars
    induction vars with
    | nil => rfl
    | cons x rest ih =>
        rw [List.filterMap_cons, List.filterMap_cons]
        dsimp only [fittingValue]
        by_cases fits : (ExpressionValue.ofVariableValue x.2 : ExpressionValue Number).kind =
            VariableKind.ofName x.1
        · rw [if_pos fits]
          dsimp only
          by_cases own : VariableKind.ofName x.1 = kind ∧ VariableSymbol.ofName x.1 = symbol
          · have kept : (ExpressionValue.ofVariableValue x.2 : ExpressionValue Number).kind = kind ∧
                VariableSymbol.ofName x.1 = symbol := ⟨fits.trans own.1, own.2⟩
            rw [if_pos ⟨own.1, own.2, fits.trans own.1⟩, List.filter_cons,
              if_pos (decide_eq_true kept), List.map_cons]
            exact congrArg _ ih
          · have left : ¬((ExpressionValue.ofVariableValue x.2 : ExpressionValue Number).kind = kind ∧
                VariableSymbol.ofName x.1 = symbol) :=
              fun all => own ⟨fits.symm.trans all.1, all.2⟩
            rw [if_neg fun all => own ⟨all.1, all.2.1⟩, List.filter_cons,
              if_neg (by simpa using left)]
            exact ih
        · rw [if_neg fits, if_neg fun all => fits (all.2.2.trans all.1.symm)]
          exact ih

/-- No other name that is the same but for its case gives the variable another value. -/
def Unshadowed (Number : Type) [ExpressionNumber Number] (environment : EnvironmentVariables)
    (name : String) : Prop :=
  ∀ x ∈ environment.variables_, ∀ value : ExpressionValue Number,
    fittingValue (.ofName name) (.ofName name) x = some value → value = environment.expected name

theorem expected_reorder {environment : EnvironmentVariables} (consistent : Consistent environment)
    {order : List (String × VariableValue)} (perm : order.Perm environment.variables_)
    (name : String) :
    (expected { environment with variables_ := order } name : ExpressionValue Number) =
      environment.expected name := by
  have sameLookup : order.lookup name = environment.variables_.lookup name := by
    have nodup : (order.map Prod.fst).Nodup := (perm.map Prod.fst).nodup_iff.mpr consistent.nodup
    ext value
    constructor
    · exact fun found => lookup_of_mem consistent.nodup (perm.mem_iff.mp (mem_of_lookup found))
    · exact fun found => lookup_of_mem nodup (perm.mem_iff.mpr (mem_of_lookup found))
  unfold expected
  dsimp only
  rw [sameLookup]

/-- What a new expression holds in a variable. -/
theorem symbolTable_compile (environment : EnvironmentVariables) {names : List String}
    {name : String} (isUsed : name ∈ names) :
    ((ExpressionWrapper.compile names : ExpressionWrapper Number).applyEnvironment
        environment).symbolTable (.ofName name) (.ofName name) =
      some ((environment.variables_.filterMap (fittingValue (.ofName name) (.ofName name)) :
        List (ExpressionValue Number)).getLast?.getD (.initial (.ofName name))) := by
  have declared : (ExpressionWrapper.compile names : ExpressionWrapper Number).symbolTable
      (.ofName name) (.ofName name) = some (.initial (.ofName name)) :=
    if_pos (List.any_eq_true.mpr ⟨name, isUsed, decide_eq_true ⟨rfl, rfl⟩⟩)
  rw [ExpressionWrapper.symbolTable_applyEnvironment, declared, Option.map_some, assigned_eq,
    List.getLast?_append]
  cases (environment.variables_.filterMap (fittingValue (.ofName name) (.ofName name)) :
      List (ExpressionValue Number)).getLast? with
  | some value => rfl
  | none =>
      rw [Option.none_or]
      cases isLast : ((environment.unsetVariableNames.filter fun other =>
          decide (VariableKind.ofName other = .ofName name ∧
            VariableSymbol.ofName other = .ofName name)).map fun _ =>
              (ExpressionValue.initial (.ofName name) : ExpressionValue Number)).getLast? with
      | none => rfl
      | some value =>
          obtain ⟨-, -, rfl⟩ := List.mem_map.mp (List.mem_of_getLast? isLast)
          rfl

/-- A new expression has the value of the environment in a variable whose type it fits, and the
initial value else, in whatever order the table is run over, exactly when no other name shadows
the variable. -/
theorem symbolTable_compile_iff (environment : EnvironmentVariables) {names : List String}
    {name : String} (isUsed : name ∈ names) :
    (∀ order, order.Perm environment.variables_ →
      ((ExpressionWrapper.compile names : ExpressionWrapper Number).applyEnvironment
        { environment with variables_ := order }).symbolTable (.ofName name) (.ofName name) =
          some (environment.expected name)) ↔
      environment.Unshadowed Number name := by
  constructor
  · intro all x member value fits
    -- The shadowing name is the last one of the table.
    have last := all (environment.variables_.erase x ++ [x])
      ((List.perm_append_singleton _ _).trans (List.perm_cons_erase member).symm)
    rw [symbolTable_compile _ isUsed, List.filterMap_append, List.filterMap_cons, fits,
      List.filterMap_nil, List.getLast?_concat] at last
    exact Option.some.inj last
  · intro unshadowed order perm
    rw [symbolTable_compile _ isUsed]
    cases isLast : (order.filterMap (fittingValue (.ofName name) (.ofName name)) :
        List (ExpressionValue Number)).getLast? with
    | some value =>
        obtain ⟨x, member, fits⟩ := List.mem_filterMap.mp (List.mem_of_getLast? isLast)
        exact congrArg some (unshadowed x (perm.mem_iff.mp member) value fits)
    | none =>
        have nothingFits := List.getLast?_eq_none_iff.mp isLast
        refine congrArg some ?_
        unfold expected
        split
        · rename_i value found
          split
          · rename_i fits
            have isValue : (ExpressionValue.ofVariableValue value : ExpressionValue Number) ∈
                order.filterMap (fittingValue (.ofName name) (.ofName name)) :=
              List.mem_filterMap.mpr ⟨(name, value), perm.mem_iff.mpr (mem_of_lookup found),
                if_pos ⟨rfl, rfl, fits⟩⟩
            rw [nothingFits] at isValue
            cases isValue
          · rfl
        · rfl

theorem consistent_foldl (changes : List VariableChange) :
    ∀ environment, Consistent environment → Consistent (changes.foldl change environment) := by
  induction changes with
  | nil => exact fun _ consistent => consistent
  | cons first rest ih => exact fun _ consistent => ih _ (consistent.change first)

end EnvironmentVariables

namespace TrackedExpression

/-- What is assigned last does not depend on the value before, unless nothing is assigned. -/
theorem getLast_getD_eq_iff {α : Type} (assigned earlier : List α) (start : α) :
    assigned.getLast?.getD (earlier.getLast?.getD start) = assigned.getLast?.getD start ↔
      assigned ≠ [] ∨ ∀ value ∈ earlier.getLast?, value = start := by
  cases isLast : assigned.getLast? with
  | none =>
      rw [List.getLast?_eq_none_iff.mp isLast, Option.getD_none, Option.getD_none,
        or_iff_right fun some => some rfl]
      cases earlier.getLast? with
      | none => exact iff_of_true rfl fun _ none => absurd none (Option.not_mem_none _)
      | some value => exact ⟨fun same _ isValue => (Option.some.inj isValue).symm.trans same,
          fun all => all value rfl⟩
  | some value =>
      have some : assigned ≠ [] := fun none => by simp [none] at isLast
      exact iff_of_true rfl (.inl some)

theorem consistent_foldl (steps : List TrackedStep) (tracked : TrackedExpression Number)
    (consistent : tracked.environment.Consistent) :
    (steps.foldl step tracked).environment.Consistent := by
  induction steps generalizing tracked with
  | nil => exact consistent
  | cons first rest ih =>
      refine ih _ ?_
      cases first with
      | change change => exact consistent.change change
      | rehash order => exact consistent.reorder order
      | applyEnvironment => exact consistent

/-- After an environment is applied to it, an expression that was compiled earlier has the same
variables as a new one exactly when each of them is current. -/
theorem symbolTable_eq_iff {Number : Type} [ExpressionNumber Number]
    (before : List VariableChange) (names : List String) (steps : List TrackedStep)
    (environment : EnvironmentVariables) :
    let tracked : TrackedExpression Number := run before names steps
    let compiled : ExpressionWrapper Number := .compile names
    (∀ kind symbol, (tracked.expression.applyEnvironment environment).symbolTable kind symbol =
        (compiled.applyEnvironment environment).symbolTable kind symbol) ↔
      ∀ name ∈ names, Current Number tracked.applied environment name := by
  intro tracked compiled
  have history : tracked.expression =
      tracked.applied.foldl ExpressionWrapper.applyEnvironment compiled :=
    expression_foldl steps _ compiled rfl
  have old := fun kind symbol =>
    ExpressionWrapper.symbolTable_applyEnvironments compiled tracked.applied kind symbol
  constructor
  · intro same name isUsed
    have declared : compiled.symbolTable (.ofName name) (.ofName name) =
        some (.initial (.ofName name)) :=
      if_pos (List.any_eq_true.mpr ⟨name, isUsed, decide_eq_true ⟨rfl, rfl⟩⟩)
    have equal := same (.ofName name) (.ofName name)
    rw [ExpressionWrapper.symbolTable_applyEnvironment, history, old,
      ExpressionWrapper.symbolTable_applyEnvironment, declared] at equal
    exact (getLast_getD_eq_iff _ _ _).mp (Option.some.inj equal)
  · intro current kind symbol
    rw [ExpressionWrapper.symbolTable_applyEnvironment, history, old,
      ExpressionWrapper.symbolTable_applyEnvironment]
    by_cases isUsed : ∃ name ∈ names, VariableKind.ofName name = kind ∧
        VariableSymbol.ofName name = symbol
    · obtain ⟨name, isUsed, rfl, rfl⟩ := isUsed
      have declared : compiled.symbolTable (.ofName name) (.ofName name) =
          some (.initial (.ofName name)) :=
        if_pos (List.any_eq_true.mpr ⟨name, isUsed, decide_eq_true ⟨rfl, rfl⟩⟩)
      rw [declared]
      exact congrArg some ((getLast_getD_eq_iff _ _ _).mpr (current name isUsed))
    · have undeclared : compiled.symbolTable kind symbol = none := by
        refine if_neg fun isAny => isUsed ?_
        obtain ⟨name, member, same⟩ := List.any_eq_true.mp isAny
        exact ⟨name, member, of_decide_eq_true same⟩
      rw [undeclared]
      rfl

/-- Whether a variable is current does not depend on the order of the table. -/
theorem current_reorder {Number : Type} [ExpressionNumber Number]
    (applied : List EnvironmentVariables) {environment : EnvironmentVariables}
    {order : List (String × VariableValue)} (perm : order.Perm environment.variables_)
    (name : String) :
    Current Number applied { environment with variables_ := order } name ↔
      Current Number applied environment name := by
  unfold Current
  rw [EnvironmentVariables.assigned_eq, EnvironmentVariables.assigned_eq environment]
  have sameLength := ((perm.filterMap (EnvironmentVariables.fittingValue 
    (.ofName name) (.ofName name))).append_left
      ((environment.unsetVariableNames.filter fun other =>
        decide (VariableKind.ofName other = .ofName name ∧
          VariableSymbol.ofName other = .ofName name)).map fun _ =>
            (.initial (.ofName name) : ExpressionValue Number))).length_eq
  rw [← List.length_pos_iff, sameLength, List.length_pos_iff]

/-- A variable is set to one, the expression is updated, and the variable is set to a text. -/
def typeChanged : List TrackedStep :=
  [.change (.set "x" (.integer 1)), .applyEnvironment, .change (.set "x" (.string "a"))]

/-- The numbers of an exact library. -/
@[reducible] def exactNumbers : ExpressionNumber Int := ⟨id⟩

end TrackedExpression

end

end Karabiner
