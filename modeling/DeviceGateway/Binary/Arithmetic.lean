import DeviceGateway.Binary.Format

/-! Arithmetic on bit patterns: each operation takes the exact result of its
operands and rounds it once. A NaN operand, and an operation without a value,
give a NaN. -/

namespace DeviceGateway.Binary

variable {f g : BinaryFormat}

/-! ### Sign and order -/

def negate (x : Binary f) : Binary f := ofParts (!x.isNegative) x.magnitude

def abs (x : Binary f) : Binary f := ofParts false x.magnitude

/-- Patterns other than NaNs in the order of their values; the two zeros share a
key. -/
def orderKey (x : Binary f) : Int :=
  if x.isNegative then -(x.magnitude : Int) else x.magnitude

/-- `x < y`; false when either is a NaN. -/
def lt (x y : Binary f) : Bool :=
  !x.isNaN && !y.isNaN && decide (x.orderKey < y.orderKey)

/-- `x ≤ y`; false when either is a NaN. -/
def le (x y : Binary f) : Bool :=
  !x.isNaN && !y.isNaN && decide (x.orderKey ≤ y.orderKey)

/-- Equality of values: the zeros are equal, a NaN equals nothing. -/
def eq (x y : Binary f) : Bool :=
  !x.isNaN && !y.isNaN && decide (x.orderKey = y.orderKey)

/-! ### The four operations -/

/-- A sum that is exactly zero is negative only when both operands are. -/
def add (x y : Binary f) : Binary f :=
  if x.isNaN || y.isNaN then nan
  else if x.isInfinite then
    if y.isInfinite && (x.isNegative != y.isNegative) then nan else x
  else if y.isInfinite then y
  else
    let sum := x.signedUnits + y.signedUnits
    if sum = 0 then zero (x.isNegative && y.isNegative)
    else ofParts (decide (sum < 0)) (f.round sum.natAbs 1)

def sub (x y : Binary f) : Binary f := add x y.negate

def mul (x y : Binary f) : Binary f :=
  let negative := x.isNegative != y.isNegative
  if x.isNaN || y.isNaN then nan
  else if x.isInfinite || y.isInfinite then
    if x.isZero || y.isZero then nan else infinite negative
  else ofParts negative (f.round (x.units * y.units) (2 ^ f.scale))

def div (x y : Binary f) : Binary f :=
  let negative := x.isNegative != y.isNegative
  if x.isNaN || y.isNaN then nan
  else if x.isInfinite then
    if y.isInfinite then nan else infinite negative
  else if y.isInfinite then zero negative
  else if y.isZero then
    if x.isZero then nan else infinite negative
  else ofParts negative (f.round (x.units * 2 ^ f.scale) y.units)

/-! ### Conversion -/

/-- The nearest pattern of another format. -/
def convert (x : Binary f) : Binary g :=
  if x.isNaN then ofParts x.isNegative g.quietNaN
  else if x.isInfinite then infinite x.isNegative
  else ofParts x.isNegative (g.round (x.units * 2 ^ g.scale) (2 ^ f.scale))

/-- The number without its fraction. -/
def whole (x : Binary f) : Binary f :=
  if x.isFinite then ofParts x.isNegative (f.round (x.units / 2 ^ f.scale * 2 ^ f.scale) 1)
  else x

/-- The integer part, or the nearer one of `low` and `high` when it is not between
them. A NaN counts as zero. -/
def clamp (low high : Int) (x : Binary f) : Int :=
  if x.isNaN then 0 else max low (min x.truncate high)

/-- The nearest integer, a half going away from zero. -/
def nearestInteger (x : Binary f) : Int :=
  let n : Nat := (2 * x.units + 2 ^ f.scale) / (2 * 2 ^ f.scale)
  if x.isNegative then -(n : Int) else n

end DeviceGateway.Binary
