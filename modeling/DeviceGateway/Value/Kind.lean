/-! The kinds of scalars that drivers produce and consume, and how each is laid
out. -/

namespace DeviceGateway

inductive ValueKind where
  | bool | string
  | uint8 | uint16 | uint32 | uint64
  | int8 | int16 | int32 | int64
  | float32 | float64
  deriving DecidableEq, Repr

/-- How values of a kind are represented; integers by their sign and size in bytes. -/
inductive Layout where
  | flag
  | text
  | integer (signed : Bool) (bytes : Nat)
  | single
  | double
  deriving DecidableEq, Repr

namespace ValueKind

instance : Inhabited ValueKind := ⟨.string⟩

def all : List ValueKind :=
  [.bool, .string, .uint8, .uint16, .uint32, .uint64, .int8, .int16, .int32, .int64,
    .float32, .float64]

def name : ValueKind → String
  | .bool => "Bool"
  | .string => "String"
  | .uint8 => "Uint8"
  | .uint16 => "Uint16"
  | .uint32 => "Uint32"
  | .uint64 => "Uint64"
  | .int8 => "Int8"
  | .int16 => "Int16"
  | .int32 => "Int32"
  | .int64 => "Int64"
  | .float32 => "Float32"
  | .float64 => "Float64"

def names : List (String × ValueKind) := all.map fun k => (k.name, k)

def layout : ValueKind → Layout
  | .bool => .flag
  | .string => .text
  | .uint8 => .integer false 1
  | .uint16 => .integer false 2
  | .uint32 => .integer false 4
  | .uint64 => .integer false 8
  | .int8 => .integer true 1
  | .int16 => .integer true 2
  | .int32 => .integer true 4
  | .int64 => .integer true 8
  | .float32 => .single
  | .float64 => .double

/-- The size of a number of this kind in bytes, none for other kinds. -/
def byteWidth (k : ValueKind) : Option Nat :=
  match k.layout with
  | .flag | .text => none
  | .integer _ bytes => some bytes
  | .single => some 4
  | .double => some 8

/-- Numbers are stored as big-endian bytes of a fixed size. -/
def isNumeric (k : ValueKind) : Bool := k.byteWidth.isSome

def isFloat (k : ValueKind) : Bool :=
  match k.layout with
  | .single | .double => true
  | _ => false

def isInteger (k : ValueKind) : Bool := k.isNumeric && !k.isFloat

end ValueKind

/-- The least integer of a layout. -/
def leastInteger (signed : Bool) (bytes : Nat) : Int :=
  if signed then -(2 ^ (8 * bytes - 1)) else 0

/-- The greatest integer of a layout. -/
def greatestInteger (signed : Bool) (bytes : Nat) : Int :=
  if signed then 2 ^ (8 * bytes - 1) - 1 else 2 ^ (8 * bytes) - 1

end DeviceGateway
