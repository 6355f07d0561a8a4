import Mathlib.Data.Rat.Floor

/-! # JSON values

The values of `nlohmann::json`, the type checks of `pqrs::json` and the errors they
throw. An object lists its members by key; the order of the list is the order of
the keys in the source, and no function here depends on it.
-/

namespace Karabiner

/-- `nlohmann::json`. A `double` is a rational number: neither infinities nor NaN
occur in a JSON text. -/
inductive Json where
  | null
  | boolean (value : Bool)
  | unsigned (value : Nat)
  | integer (value : Int)
  | float (value : Rat)
  | string (value : String)
  | array (values : List Json)
  | object (members : List (String × Json))

/-- `pqrs::json::unmarshal_error`, by the parts its text is made of. -/
inductive UnmarshalError where
  | mustBe (name kind : String) (json : Json)
  | unknownKey (key : String) (json : Json)
  | unknownType (type : String)

namespace Json

def empty : Json := .object []

/-- `json.find(key)`; only objects have members. -/
def find? : Json → String → Option Json
  | .object members, key => members.lookup key
  | _, _ => none

/-- `json.items()` of an object. -/
def items : Json → List (String × Json)
  | .object members => members
  | _ => []

/-- The values of an array. -/
def elements : Json → List Json
  | .array values => values
  | _ => []

def isArray : Json → Bool
  | .array _ => true
  | _ => false

/-- The kind of a value, with the length of an array and the keys of an object. -/
inductive Outline where
  | value
  | array (length : Nat)
  | object (keys : List String)
deriving DecidableEq

def outline : Json → Outline
  | .array values => .array values.length
  | .object members => .object (members.map Prod.fst)
  | _ => .value

/-- `requires_object`. -/
def requiresObject (json : Json) (name : String) : Except UnmarshalError (List (String × Json)) :=
  match json with
  | .object members => .ok members
  | _ => .error (.mustBe name "object" json)

/-- `requires_array`. -/
def requiresArray (json : Json) (name : String) : Except UnmarshalError (List Json) :=
  match json with
  | .array values => .ok values
  | _ => .error (.mustBe name "array" json)

/-- `requires_boolean` and `get<bool>`. -/
def requiresBoolean (json : Json) (name : String) : Except UnmarshalError Bool :=
  match json with
  | .boolean value => .ok value
  | _ => .error (.mustBe name "boolean" json)

/-- `requires_string` and `get<std::string>`. -/
def requiresString (json : Json) (name : String) : Except UnmarshalError String :=
  match json with
  | .string value => .ok value
  | _ => .error (.mustBe name "string" json)

/-- A `double` as an integer type from `least` to `greatest`: it is truncated, and beyond the range,
where C++ leaves the value open, it is the nearest one, as arm64 converts it. -/
def truncate (least greatest : Int) (value : Rat) : Int :=
  max least (min greatest (value.num.tdiv value.den))

/-- `requires_number` and `get<std::uint64_t>`. -/
def requiresUnsigned (json : Json) (name : String) : Except UnmarshalError Nat :=
  match json with
  | .unsigned value => .ok value
  | .integer value => .ok (value % 2 ^ 64).toNat
  | .float value => .ok (truncate 0 (2 ^ 64 - 1) value).toNat
  | _ => .error (.mustBe name "number" json)

/-- `requires_number` and `get<int>`. -/
def requiresInt (json : Json) (name : String) : Except UnmarshalError Int :=
  match json with
  | .unsigned value => .ok (Int.bmod value (2 ^ 32))
  | .integer value => .ok (Int.bmod value (2 ^ 32))
  | .float value => .ok (truncate (-2 ^ 31) (2 ^ 31 - 1) value)
  | _ => .error (.mustBe name "number" json)

end Json

end Karabiner
