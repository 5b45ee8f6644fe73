import DeviceGateway.Configuration.Setting
import DeviceGateway.Binary.Arithmetic
import DeviceGateway.Text.Lowercase
import DeviceGateway.Text.Basic

/-! What can be wrong with a configuration, and how settings are read as typed values.
A scalar is read as any type that its value makes sense in. -/

namespace DeviceGateway

inductive ConfigurationError where
  /-- A file that must be there cannot be used. -/
  | unavailable (detail : String)
  /-- A file cannot be read as TOML. -/
  | malformed (file detail : String)
  /-- A value cannot be read as its type. -/
  | mistyped (found wanted : String) (key : Option String) (source : Option String)
  /-- The settings do not have the wanted shape. -/
  | misshapen (detail : String)
  deriving DecidableEq, Repr

namespace ConfigurationError

/-- What is wrong, without the source. -/
def statement : ConfigurationError → String
  | .unavailable detail | .malformed _ detail | .misshapen detail => detail
  | .mistyped found wanted key _ =>
    "invalid type: " ++ found ++ ", expected " ++ wanted ++
      (key.elim "" fun k => " for key `" ++ k ++ "`")

def source? : ConfigurationError → Option String
  | .malformed file _ => some file
  | .mistyped _ _ _ source => source
  | _ => none

def message (e : ConfigurationError) : String :=
  e.statement ++ e.source?.elim "" (" in " ++ ·)

/-- The error of the entry with this key, seen from the whole table. -/
def underKey (key : String) : ConfigurationError → ConfigurationError
  | .mistyped found wanted inner source =>
    let inner := inner.getD ""
    let dot := if inner = "" ∨ inner.toList.head? = some '[' then "" else "."
    .mistyped found wanted (some (key ++ dot ++ inner)) source
  | e => e

/-- The error of the item at this index, seen from the whole list. -/
def underIndex (index : Nat) : ConfigurationError → ConfigurationError
  | .mistyped found wanted inner source =>
    .mistyped found wanted (some ("[" ++ toString index ++ "]" ++ inner.getD "")) source
  | e => e

end ConfigurationError

namespace Setting

/-- How settings are read as values of type `α`. -/
abbrev Conversion (α : Type) := Setting → Except ConfigurationError α

/-- The value of a scalar in a message about its type. -/
def scalarText : SettingScalar → String
  | .bool b => "boolean `" ++ toString b ++ "`"
  | .integer n => "integer 64 bit `" ++ String.ofList (integerText n) ++ "`"
  | .float x => "floating point `" ++ String.ofList x.text ++ "`"
  | .text s => "string " ++ Text.quote s

/-- The error of a value that is not of the wanted type. -/
def mistyped {α : Type} (s : Setting) (wanted : String) : Except ConfigurationError α :=
  let found := match s with
    | .nothing => "unit value"
    | .scalar _ v => scalarText v
    | .list _ _ => "sequence"
    | .table _ _ => "map"
  .error (.mistyped found wanted none s.source?)

/-! ### Scalars -/

/-- The truth value that a word of any case stands for. -/
def truth? (s : String) : Option Bool :=
  let word := Text.lowercase s
  if word ∈ ["true", "on", "yes"] then some true
  else if word ∈ ["false", "off", "no"] then some false
  else none

def bool : Conversion Bool
  | .scalar _ (.bool b) => .ok b
  | .scalar _ (.integer n) => .ok (n ≠ 0)
  | .scalar _ (.float x) => .ok !x.isZero
  | .scalar source (.text s) =>
    match truth? s with
    | some b => .ok b
    | none =>
      if s = "1" then .ok true
      else if s = "0" then .ok false
      else mistyped (.scalar source (.text (Text.lowercase s))) "a boolean"
  | s => mistyped s "a boolean"

/-- The nearest number of 64 bits without sign. -/
def nearestUnsigned (x : Double) : Nat :=
  if x.isNaN then 0 else min (2 ^ 64 - 1) x.nearestInteger.toNat

/-- A number of 64 bits without sign. -/
def unsigned : Conversion Nat
  | .scalar _ (.bool b) => .ok b.toNat
  | .scalar _ (.float x) => .ok (nearestUnsigned x)
  | .scalar source (.integer n) =>
    if 0 ≤ n then .ok n.toNat
    else mistyped (.scalar source (.integer n)) "an unsigned 64 bit or less integer"
  | .scalar source (.text s) =>
    match truth? s, integerOfText 0 (2 ^ 64 - 1) s.toList with
    | some b, _ => .ok b.toNat
    | none, .ok n => .ok n.toNat
    | none, .error _ => mistyped (.scalar source (.text s)) "an integer"
  | s => mistyped s "an integer"

/-- The low 16 bits of a number. -/
def port : Conversion UInt16 := fun s => (unsigned s).map UInt16.ofNat

def text : Conversion String
  | .scalar _ (.bool b) => .ok (toString b)
  | .scalar _ (.integer n) => .ok (String.ofList (integerText n))
  | .scalar _ (.float x) => .ok (String.ofList x.text)
  | .scalar _ (.text s) => .ok s
  | s => mistyped s "a string"

/-! ### Lists and records -/

/-- The error of a value that has not the wanted shape. -/
def misshapen {α : Type} (s : Setting) (wanted : String) : Except ConfigurationError α :=
  let found := match s with
    | .nothing => "unit value"
    | .scalar _ (.bool b) => "boolean `" ++ toString b ++ "`"
    | .scalar _ (.integer n) => "integer `" ++ String.ofList (integerText n) ++ "`"
    | .scalar _ (.float x) => "floating point `" ++ String.ofList x.pointedText ++ "`"
    | .scalar _ (.text s) => "string " ++ Text.quote s
    | .list _ _ => "sequence"
    | .table _ _ => "map"
  .error (.misshapen ("invalid type: " ++ found ++ ", expected " ++ wanted))

def itemsFrom {α : Type} (read : Conversion α) :
    Nat → List Setting → Except ConfigurationError (List α)
  | _, [] => .ok []
  | i, s :: r => do
    let a ← (read s).mapError (·.underIndex i)
    return a :: (← itemsFrom read (i + 1) r)

def listOf {α : Type} (read : Conversion α) : Conversion (List α)
  | .list _ items => itemsFrom read 0 items
  | s => misshapen s "a sequence"

/-- The fields of a record: by name, or in order. -/
inductive Fields where
  | named (entries : List (String × Setting))
  | listed (record : String) (count : Nat) (items : List Setting)

/-- The fields of the record of this name, which has `count` of them. -/
def fields (record : String) (count : Nat) : Conversion Fields
  | .table _ es => .ok (.named es)
  | .list _ items => .ok (.listed record count items)
  | s => misshapen s ("struct " ++ record)

namespace Fields

/-- The value of the field with this position and name, if it is there. -/
def get? {α : Type} (fs : Fields) (index : Nat) (name : String) (read : Conversion α) :
    Except ConfigurationError (Option α) :=
  match fs with
  | .named es =>
    match es.find? (·.1 = name) with
    | some (_, s) => ((read s).map some).mapError (·.underKey name)
    | none => .ok none
  | .listed _ _ items =>
    match items[index]? with
    | some s => ((read s).map some).mapError (·.underIndex index)
    | none => .ok none

/-- The error of a field that must be there. -/
def missing {α : Type} (fs : Fields) (index : Nat) (name : String) :
    Except ConfigurationError α :=
  match fs with
  | .named _ => .error (.misshapen ("missing field `" ++ name ++ "`"))
  | .listed record count _ =>
    let elements := if count = 1 then " element" else " elements"
    .error (.misshapen ("invalid length " ++ toString index ++ ", expected struct " ++ record ++
      " with " ++ toString count ++ elements))

end Fields

end Setting

end DeviceGateway
