import DeviceGateway.Json.Printer
import DeviceGateway.Text.Basic

/-! What a JSON value is to be, and what is said of one that is something else. -/

namespace DeviceGateway.Json

/-! ### Causes -/

inductive DecodeCause where
  | missingField (name : String)
  | duplicateField (name : String)
  | unknownVariant (found : String) (expected : List String)
  | invalidType (found : Json) (wanted : String)
  | invalidValue (found : Json) (wanted : String)
  | tooShort (length : Nat) (wanted : String)
  | tooLong (length : Nat)
  deriving BEq

/-- What a value is called in an error. -/
def kindText : Json → String
  | .null => "null"
  | .bool true => "boolean `true`"
  | .bool false => "boolean `false`"
  | .integer n => "integer `" ++ String.ofList (integerText n) ++ "`"
  | .float x => "floating point `" ++ String.ofList (floatText x) ++ "`"
  | .string s => "string " ++ Text.quote s
  | .array _ => "sequence"
  | .object _ => "map"

def quoteName (s : String) : String := "`" ++ s ++ "`"

def DecodeCause.message : DecodeCause → String
  | .missingField name => "missing field " ++ quoteName name
  | .duplicateField name => "duplicate field " ++ quoteName name
  | .unknownVariant found [a, b] =>
    "unknown variant " ++ quoteName found ++ ", expected " ++ quoteName a ++ " or " ++ quoteName b
  | .unknownVariant found expected =>
    "unknown variant " ++ quoteName found ++ ", expected one of " ++
      String.intercalate ", " (expected.map quoteName)
  | .invalidType found wanted =>
    "invalid type: " ++ found.kindText ++ ", expected " ++ wanted
  | .invalidValue found wanted =>
    "invalid value: " ++ found.kindText ++ ", expected " ++ wanted
  | .tooShort length wanted =>
    "invalid length " ++ toString length ++ ", expected " ++ wanted
  | .tooLong length =>
    "invalid length " ++ toString length ++ ", expected fewer elements in array"

/-! ### Schemas -/

/-- What a value is to be. The fields of a record are given by name, with whether they
must be present. -/
inductive Schema where
  | anything
  | unit
  | text
  /-- An integer between `low` and `high`, called `name`. -/
  | integer (low high : Int) (name : String)
  | list (item : Schema)
  | table (entry : Schema)
  /-- One of a list of names, alone or as the only key of an object, over a null. -/
  | variant (names : List String)
  | record (name : String) (fields : List (String × Bool × Schema))
  deriving Inhabited

namespace Schema

/-- What a value of the schema is called in an error. -/
def wanted : Schema → String
  | .anything => "any value"
  | .unit => "unit"
  | .text => "a string"
  | .integer _ _ name => name
  | .list _ => "a sequence"
  | .table _ => "a map"
  | .variant _ => "string or map"
  | .record name _ => "struct " ++ name

/-- What is wrong with a value that is neither array nor object. -/
def scalarFault? : Schema → Json → Option DecodeCause
  | .anything, _ | .unit, .null | .text, .string _ => none
  | .integer low high name, .integer n =>
    if low ≤ n ∧ n ≤ high then none else some (.invalidValue (.integer n) name)
  | s, j => some (.invalidType j s.wanted)

/-- What an array of too few fields was to be. -/
def wantedFields (name : String) (count : Nat) : String :=
  "struct " ++ name ++ " with " ++ toString count ++
    if count = 1 then " element" else " elements"

end Schema

end DeviceGateway.Json
