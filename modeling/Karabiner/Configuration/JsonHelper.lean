import Karabiner.Configuration.SimpleModifications
import Karabiner.Types.JsonUtility

/-! # Values of a configuration object

An object of the configuration keeps the JSON it was read from and the values of its keys. A
value is written to the JSON when it differs from its default, and its key is erased when it
does not. A value of a wrong type is refused when errors are handled strictly and ignored
otherwise.
-/

namespace Karabiner

/-- `error_handling`. -/
inductive ErrorHandling where
  | strict
  | loose
deriving DecidableEq

/-- What the constructors of the configuration throw. -/
inductive ConfigurationError where
  | unmarshal (error : UnmarshalError)
  | simpleModifications (error : SimpleModificationsError)
  /-- "`key` error: …" -/
  | within (key : String) (error : ConfigurationError)
  /-- "`key` entry error: …" -/
  | entryOf (key : String) (error : ConfigurationError)

namespace ConfigurationError

/-- Whether the error is an `unmarshal_error`; `erase` throws a `type_error`. -/
def isUnmarshal : ConfigurationError → Bool
  | .simpleModifications (.cannotErase _) => false
  | _ => true

/-- An `unmarshal_error` is caught and thrown with the key; another error passes. -/
def rethrow (addKey : ConfigurationError → ConfigurationError) (error : ConfigurationError) :
    ConfigurationError :=
  if error.isUnmarshal then addKey error else error

end ConfigurationError

/-- The members of a JSON object. -/
abbrev Members := List (String × Json)

namespace Members

/-- `json[key] = value`, and `json.erase(key)` without a value. -/
def put (members : Members) (key : String) (value : Option Json) : Members :=
  members.filter (fun member => member.1 != key) ++ (value.map fun json => (key, json)).toList

theorem lookup_filter_ne {members : Members} {key other : String} (different : other ≠ key) :
    (members.filter fun member => member.1 != key).lookup other = members.lookup other := by
  induction members with
  | nil => rfl
  | cons member rest ih =>
      obtain ⟨first, json⟩ := member
      by_cases isKey : first = key
      · subst isKey
        simpa [List.lookup_cons, beq_eq_false_iff_ne.mpr different] using ih
      · rw [List.filter_cons_of_pos (by simpa using isKey), List.lookup_cons, List.lookup_cons, ih]

@[simp]
theorem lookup_put (members : Members) (key other : String) (value : Option Json) :
    (members.put key value).lookup other = if other = key then value else members.lookup other := by
  rw [put, List.lookup_append]
  split
  · rename_i same
    have none : (members.filter fun member => member.1 != key).lookup other = none := by
      rw [List.lookup_eq_none_iff]
      intro member isMember
      rw [same, bne_comm]
      exact (List.mem_filter.mp isMember).2
    rw [none, Option.none_or, same]
    cases value <;> simp
  · rename_i different
    rw [lookup_filter_ne different]
    cases value <;> simp [List.lookup_cons, beq_eq_false_iff_ne.mpr different]

/-- A member is the one that was put, or one of another key. -/
theorem mem_put {members : Members} {key : String} {value : Option Json} {member : String × Json} :
    member ∈ members.put key value ↔
      member ∈ members ∧ member.1 ≠ key ∨ member.1 = key ∧ value = some member.2 := by
  obtain ⟨own, json⟩ := member
  cases value with
  | none => simp [put]
  | some value =>
      simp only [put, List.mem_append, List.mem_filter, bne_iff_ne, Option.map_some,
        Option.toList_some, List.mem_singleton, Prod.mk.injEq, Option.some.injEq]
      exact or_congr_right (and_congr_right fun _ => eq_comm)

end Members

/-! ## A value -/

/-- A type of values of `value_t`. -/
class SettingType (T : Type) where
  unmarshal (key : String) (json : Json) : Except UnmarshalError T
  marshal : T → Json

/-- "`key`". -/
def quoted (key : String) : String := "`" ++ key ++ "`"

/-- `requires_number` and `get<double>`. -/
def Json.requiresDouble (json : Json) (name : String) : Except UnmarshalError Rat :=
  match json with
  | .unsigned value => .ok value
  | .integer value => .ok value
  | .float value => .ok value
  | _ => .error (.mustBe name "number" json)

instance : SettingType Bool where
  unmarshal key json := json.requiresBoolean (quoted key)
  marshal := .boolean

instance : SettingType Rat where
  unmarshal key json := json.requiresDouble (quoted key)
  marshal := .float

/-- An `int`, and `std::chrono::milliseconds`. -/
instance : SettingType Int where
  unmarshal key json := json.requiresInt (quoted key)
  marshal := .integer

instance : SettingType String where
  unmarshal := JsonUtility.unmarshalString
  marshal := JsonUtility.marshalString

/-- What is written is read again, if not as the same value. -/
class LawfulSettingType (T : Type) [SettingType T] : Prop where
  unmarshal_marshal (key : String) (value : T) :
    ∃ read, SettingType.unmarshal (T := T) key (SettingType.marshal value) = .ok read

instance : LawfulSettingType Bool := ⟨fun _ value => ⟨value, rfl⟩⟩
instance : LawfulSettingType Rat := ⟨fun _ value => ⟨value, rfl⟩⟩
instance : LawfulSettingType Int := ⟨fun _ _ => ⟨_, rfl⟩⟩
instance : LawfulSettingType String :=
  ⟨fun key value => ⟨_, JsonUtility.unmarshalString_marshal key value⟩⟩

/-- `value_t`. -/
structure ValueT (T : Type) where
  key : String
  value : T
  defaultValue : T

namespace ValueT

variable {T : Type}

/-- The constructor. -/
def new (key : String) (defaultValue : T) : ValueT T := ⟨key, defaultValue, defaultValue⟩

/-- `set_default_value`. -/
def setDefaultValue [DecidableEq T] (value : ValueT T) (defaultValue : T) : ValueT T :=
  if value.value = value.defaultValue then ⟨value.key, defaultValue, defaultValue⟩
  else { value with defaultValue }

variable [SettingType T]

/-- `update_value`. -/
def updateValue (value : ValueT T) (members : Members) (errorHandling : ErrorHandling) :
    Except UnmarshalError (ValueT T) :=
  match members.lookup value.key with
  | none => .ok value
  | some json =>
      match SettingType.unmarshal value.key json with
      | .ok read => .ok { value with value := read }
      | .error error => if errorHandling = .strict then .error error else .ok value

variable [DecidableEq T]

/-- What `update_json` writes. -/
def written (value : ValueT T) : Option Json :=
  if value.value ≠ value.defaultValue then some (SettingType.marshal value.value) else none

/-- `update_json`. -/
def updateJson (value : ValueT T) (members : Members) : Members :=
  members.put value.key value.written

end ValueT

/-! ## A table of values -/

/-- A value of `helper_values`, by its type. -/
inductive HelperValue where
  | boolean (value : ValueT Bool)
  | double (value : ValueT Rat)
  | int (value : ValueT Int)
  | string (value : ValueT String)

namespace HelperValue

def key : HelperValue → String
  | .boolean value => value.key
  | .double value => value.key
  | .int value => value.key
  | .string value => value.key

def updateValue (members : Members) (errorHandling : ErrorHandling) :
    HelperValue → Except UnmarshalError HelperValue
  | .boolean value => .boolean <$> value.updateValue members errorHandling
  | .double value => .double <$> value.updateValue members errorHandling
  | .int value => .int <$> value.updateValue members errorHandling
  | .string value => .string <$> value.updateValue members errorHandling

def written : HelperValue → Option Json
  | .boolean value => value.written
  | .double value => value.written
  | .int value => value.written
  | .string value => value.written

def updateJson (members : Members) (value : HelperValue) : Members :=
  members.put value.key value.written

end HelperValue

/-- `helper_values.update_value`. -/
def updateValues (values : List HelperValue) (members : Members) (errorHandling : ErrorHandling) :
    Except UnmarshalError (List HelperValue) :=
  values.mapM fun value => value.updateValue members errorHandling

/-- `helper_values.update_json`. -/
def updateJson (values : List HelperValue) (members : Members) : Members :=
  values.foldl HelperValue.updateJson members

/-- A key that no value has keeps its member. -/
theorem lookup_updateJson_of_not_mem {values : List HelperValue} {key : String}
    (notKey : ∀ value ∈ values, value.key ≠ key) (members : Members) :
    (updateJson values members).lookup key = members.lookup key := by
  induction values generalizing members with
  | nil => rfl
  | cons value rest ih =>
      obtain ⟨different, later⟩ := List.forall_mem_cons.mp notKey
      exact (ih later _).trans (by rw [HelperValue.updateJson, Members.lookup_put,
        if_neg (Ne.symm different)])

/-- Among values of different keys each is written under its own. -/
theorem lookup_updateJson_of_mem {values : List HelperValue}
    (distinct : (values.map HelperValue.key).Nodup) {value : HelperValue} (member : value ∈ values)
    (members : Members) : (updateJson values members).lookup value.key = value.written := by
  induction values generalizing members with
  | nil => cases member
  | cons first rest ih =>
      obtain ⟨notLater, distinct⟩ := List.nodup_cons.mp distinct
      rcases List.mem_cons.mp member with rfl | later
      · have others : ∀ other ∈ rest, other.key ≠ value.key :=
          fun other isLater same => notLater (List.mem_map.mpr ⟨other, isLater, same⟩)
        exact (lookup_updateJson_of_not_mem others _).trans
          (by rw [HelperValue.updateJson, Members.lookup_put, if_pos rfl])
      · exact ih distinct later _

/-! ### Reading again -/

/-- The types of `value_t`. -/
inductive SettingKind where
  | boolean
  | double
  | int
  | string
deriving DecidableEq

/-- The key and the type of a value, which never change. -/
def HelperValue.shape : HelperValue → String × SettingKind
  | .boolean value => (value.key, .boolean)
  | .double value => (value.key, .double)
  | .int value => (value.key, .int)
  | .string value => (value.key, .string)

theorem keys_eq_of_shapes {values others : List HelperValue}
    (same : values.map HelperValue.shape = others.map HelperValue.shape) :
    values.map HelperValue.key = others.map HelperValue.key := by
  have keyOf : HelperValue.key = fun value => value.shape.1 := by
    funext value
    cases value <;> rfl
  have keys := congrArg (List.map Prod.fst) same
  rw [List.map_map, List.map_map] at keys
  rw [keyOf]
  exact keys

/-- An update changes the value only. -/
theorem ValueT.updateValue_eq_ok {T : Type} [SettingType T] {value read : ValueT T}
    {members : Members} {errorHandling : ErrorHandling}
    (isRead : value.updateValue members errorHandling = .ok read) :
    read.key = value.key ∧ read.defaultValue = value.defaultValue := by
  unfold ValueT.updateValue at isRead
  split at isRead
  · obtain rfl := Except.ok.inj isRead
    exact ⟨rfl, rfl⟩
  · split at isRead
    · obtain rfl := Except.ok.inj isRead
      exact ⟨rfl, rfl⟩
    · split at isRead
      · cases isRead
      · obtain rfl := Except.ok.inj isRead
        exact ⟨rfl, rfl⟩

/-- A member of the value's own type is read. -/
theorem ValueT.exists_updateValue {T : Type} [SettingType T] [LawfulSettingType T]
    [DecidableEq T] {value saved : ValueT T} {members : Members} (errorHandling : ErrorHandling)
    (sameKey : value.key = saved.key) (isWritten : members.lookup saved.key = saved.written) :
    ∃ read, value.updateValue members errorHandling = .ok read := by
  rw [ValueT.updateValue, sameKey, isWritten, ValueT.written]
  split
  · exact ⟨_, rfl⟩
  · rename_i json isSome
    split at isSome
    · obtain rfl := Option.some.inj isSome
      obtain ⟨read, isRead⟩ := LawfulSettingType.unmarshal_marshal saved.key saved.value
      rw [isRead]
      exact ⟨_, rfl⟩
    · cases isSome

theorem exists_of_map_eq_ok {α β ε : Type} {f : α → β} {result : Except ε α} {mapped : β}
    (isMapped : f <$> result = .ok mapped) : ∃ value, result = .ok value ∧ mapped = f value := by
  cases result with
  | error thrown => cases isMapped
  | ok value => exact ⟨value, rfl, (Except.ok.inj isMapped).symm⟩

/-- A computation that returns has returned at each of its steps. -/
theorem exists_of_bind_eq_ok {α β ε : Type} {first : Except ε α} {next : α → Except ε β}
    {result : β} (isOk : (first >>= next) = .ok result) :
    ∃ value, first = .ok value ∧ next value = .ok result := by
  cases first with
  | error thrown => cases isOk
  | ok value => exact ⟨value, rfl, isOk⟩

theorem eq_ok_of_mapError_eq_ok {α ε ε' : Type} {change : ε → ε'} {result : Except ε α} {value : α}
    (isOk : result.mapError change = .ok value) : result = .ok value := by
  cases result with
  | error thrown => cases isOk
  | ok own => rw [Except.ok.inj isOk]

theorem exists_map_eq_ok {α β ε : Type} {f : α → β} {result : Except ε α}
    (isOk : ∃ value, result = .ok value) : ∃ mapped, f <$> result = .ok mapped := by
  obtain ⟨value, rfl⟩ := isOk
  exact ⟨f value, rfl⟩

theorem HelperValue.updateValue_shape {value read : HelperValue} {members : Members}
    {errorHandling : ErrorHandling}
    (isRead : value.updateValue members errorHandling = .ok read) : read.shape = value.shape := by
  cases value with
  | boolean value | double value | int value | string value =>
      obtain ⟨own, ownRead, rfl⟩ := exists_of_map_eq_ok isRead
      simp only [HelperValue.shape, (ValueT.updateValue_eq_ok ownRead).1]

/-- A member that was written for the value's key is read. -/
theorem HelperValue.exists_updateValue {value saved : HelperValue} {members : Members}
    (errorHandling : ErrorHandling) (sameShape : value.shape = saved.shape)
    (isWritten : members.lookup saved.key = saved.written) :
    ∃ read, value.updateValue members errorHandling = .ok read := by
  cases value with
  | boolean value | double value | int value | string value =>
      -- a value of another type does not have the shape
      cases saved <;>
        first
        | exact exists_map_eq_ok (ValueT.exists_updateValue errorHandling
            (Prod.mk.inj sameShape).1 isWritten)
        | cases (Prod.mk.inj sameShape).2

/-- An update reads values of the same keys and types. -/
theorem shape_updateValues {values read : List HelperValue} {members : Members}
    {errorHandling : ErrorHandling}
    (isRead : updateValues values members errorHandling = .ok read) :
    read.map HelperValue.shape = values.map HelperValue.shape := by
  induction values generalizing read with
  | nil =>
      obtain rfl := Except.ok.inj isRead
      rfl
  | cons value rest ih =>
      rw [updateValues, List.mapM_cons] at isRead
      cases first : value.updateValue members errorHandling with
      | error thrown => rw [first] at isRead; cases isRead
      | ok own =>
          rw [first] at isRead
          cases later : updateValues rest members errorHandling with
          | error thrown =>
              rw [updateValues] at later
              simp only [Except.bind, bind, later] at isRead
              cases isRead
          | ok others =>
              have onRest := ih later
              rw [updateValues] at later
              simp only [Except.bind, bind, later] at isRead
              obtain rfl := Except.ok.inj isRead
              rw [List.map_cons, List.map_cons, onRest, HelperValue.updateValue_shape first]

/-- Values without members are read as they are. -/
theorem updateValues_of_absent {values : List HelperValue} {members : Members}
    (errorHandling : ErrorHandling)
    (absent : ∀ value ∈ values, members.lookup value.key = none) :
    updateValues values members errorHandling = .ok values := by
  induction values with
  | nil => rfl
  | cons value rest ih =>
      obtain ⟨first, later⟩ := List.forall_mem_cons.mp absent
      have own : value.updateValue members errorHandling = .ok value := by
        cases value with
        | boolean value | double value | int value | string value =>
            rw [HelperValue.updateValue, ValueT.updateValue,
              show members.lookup value.key = none from first]
            rfl
      have others := ih later
      rw [updateValues] at others ⊢
      rw [List.mapM_cons, own, others]
      rfl

/-- Values whose members were written for values of the same keys and types are read. -/
theorem exists_updateValues {values saved : List HelperValue} {members : Members}
    (errorHandling : ErrorHandling)
    (sameShape : values.map HelperValue.shape = saved.map HelperValue.shape)
    (areWritten : ∀ value ∈ saved, members.lookup value.key = value.written) :
    ∃ read, updateValues values members errorHandling = .ok read := by
  induction values generalizing saved with
  | nil => exact ⟨[], rfl⟩
  | cons value rest ih =>
      cases saved with
      | nil => cases sameShape
      | cons first others =>
          obtain ⟨sameFirst, sameRest⟩ := List.cons.inj sameShape
          obtain ⟨firstWritten, restWritten⟩ := List.forall_mem_cons.mp areWritten
          obtain ⟨own, ownRead⟩ :=
            HelperValue.exists_updateValue errorHandling sameFirst firstWritten
          obtain ⟨read, isRead⟩ := ih sameRest restWritten
          refine ⟨own :: read, ?_⟩
          rw [updateValues] at isRead ⊢
          rw [List.mapM_cons, ownRead, isRead]
          rfl

/-! ## An object of values only -/

/-- An object such as `parameters`, of nothing but values. -/
structure HelperObject where
  json : Members
  values : List HelperValue

namespace HelperObject

/-- The constructor of an object with these values. -/
def ofJson (values : List HelperValue) (json : Json) (errorHandling : ErrorHandling) :
    Except UnmarshalError HelperObject := do
  let members ← json.requiresObject "json"
  return ⟨members, ← updateValues values members errorHandling⟩

def toJson (object : HelperObject) : Json := .object (updateJson object.values object.json)

end HelperObject

end Karabiner
