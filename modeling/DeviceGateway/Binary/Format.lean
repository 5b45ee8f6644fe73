/-! Binary floating-point formats and their bit patterns. Every finite value of a
format is a whole number of *units*, the smallest positive value, so exact
arithmetic is arithmetic of integers: `Binary.units` reads a pattern and
`BinaryFormat.round` takes a quotient of units back to the nearest pattern, ties
to even. -/

namespace DeviceGateway

-- powers of integers are the built-in ones, whatever else is imported
attribute [instance (high), default_instance (high + 1)] instPowNat

/-- An interchange format, by the sizes of its stored fraction and exponent. -/
structure BinaryFormat where
  fractionBits : Nat
  exponentBits : Nat
  deriving DecidableEq, Repr

namespace BinaryFormat

/-- The 32-bit format. -/
def single : BinaryFormat := ⟨23, 8⟩

/-- The 64-bit format. -/
def double : BinaryFormat := ⟨52, 11⟩

variable (f : BinaryFormat)

/-- Bits below the sign. -/
def magnitudeBits : Nat := f.exponentBits + f.fractionBits

def width : Nat := f.magnitudeBits + 1

/-- The unit is `2 ^ -scale`. -/
def scale : Nat := 2 ^ (f.exponentBits - 1) - 2 + f.fractionBits

/-- The magnitude of an infinity; every larger one is a NaN. -/
def infinity : Nat := (2 ^ f.exponentBits - 1) * 2 ^ f.fractionBits

/-- The magnitude of the NaN that operations give. -/
def quietNaN : Nat := f.infinity + 2 ^ (f.fractionBits - 1)

/-- The value of a magnitude in units, continued past the infinity as if the
exponents went on. -/
def unitsOf (magnitude : Nat) : Nat :=
  let exponent := magnitude / 2 ^ f.fractionBits
  if exponent = 0 then magnitude
  else (2 ^ f.fractionBits + magnitude % 2 ^ f.fractionBits) * 2 ^ (exponent - 1)

/-- The integer nearest to `n / d`, the even one of two. -/
def nearestEven (n d : Nat) : Nat :=
  let q := n / d
  let r := n % d
  if 2 * r < d then q
  else if d < 2 * r then q + 1
  else q + q % 2

/-- The magnitude nearest to `n / d` units, the even one of two; from half a step
past the largest finite value it is the infinity. -/
def round (n d : Nat) : Nat :=
  let shift := (n / d).log2 - f.fractionBits
  min (shift * 2 ^ f.fractionBits + nearestEven n (d * 2 ^ shift)) f.infinity

end BinaryFormat

/-- A bit pattern of the format. -/
abbrev Binary (f : BinaryFormat) := BitVec f.width

namespace Binary

variable {f : BinaryFormat}

def magnitude (x : Binary f) : Nat := x.toNat % 2 ^ f.magnitudeBits

def isNegative (x : Binary f) : Bool := decide (2 ^ f.magnitudeBits ≤ x.toNat)

/-- The pattern with the given sign and magnitude. -/
def ofParts (negative : Bool) (magnitude : Nat) : Binary f :=
  BitVec.ofNat _ (if negative then 2 ^ f.magnitudeBits + magnitude else magnitude)

def isNaN (x : Binary f) : Bool := decide (f.infinity < x.magnitude)

def isInfinite (x : Binary f) : Bool := decide (x.magnitude = f.infinity)

def isFinite (x : Binary f) : Bool := decide (x.magnitude < f.infinity)

def isZero (x : Binary f) : Bool := decide (x.magnitude = 0)

/-- The absolute value in units. -/
def units (x : Binary f) : Nat := f.unitsOf x.magnitude

/-- The value in units. -/
def signedUnits (x : Binary f) : Int :=
  if x.isNegative then -(x.units : Int) else x.units

def nan : Binary f := ofParts false f.quietNaN

def infinite (negative : Bool) : Binary f := ofParts negative f.infinity

def zero (negative : Bool) : Binary f := ofParts negative 0

/-- The largest finite number. -/
def greatest : Binary f := ofParts false (f.infinity - 1)

/-- The pattern nearest to the integer `n`. -/
def ofInt (n : Int) : Binary f :=
  ofParts (decide (n < 0)) (f.round (n.natAbs * 2 ^ f.scale) 1)

/-- The integer part, toward zero. -/
def truncate (x : Binary f) : Int :=
  if x.isNegative then -((x.units / 2 ^ f.scale : Nat) : Int)
  else (x.units / 2 ^ f.scale : Nat)

/-- True of a finite value without a fractional part. -/
def isInteger (x : Binary f) : Bool :=
  x.isFinite && decide (x.units % 2 ^ f.scale = 0)

end Binary

/-- A double: the 64-bit format carries every transform. -/
abbrev Double := Binary .double

/-- A single: 32 bits. -/
abbrev Single := Binary .single

end DeviceGateway
