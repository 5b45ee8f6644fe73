import DeviceGateway.Binary.Arithmetic

/-! Natural logarithm and power of doubles. Both are computed in integers to more
places than a double holds. A margin of `2 ^ -56` of the result is kept: where the
result less and plus the margin round alike, that is the answer, and the few
results near a midpoint are left to the machine's functions. -/

namespace DeviceGateway.Binary

/-! ### Rounding with a margin -/

/-- The magnitude that `n / d` units and everything within the margin round to, if
there is one; none is given for subnormal results. -/
def decided (n d : Nat) : Option Nat :=
  let low := BinaryFormat.double.round (n * (2 ^ 56 - 1)) (d * 2 ^ 56)
  let high := BinaryFormat.double.round (n * (2 ^ 56 + 1)) (d * 2 ^ 56)
  if low = high ∧ 2 ^ 52 ≤ low then some low else none

/-- A function of the machine on patterns. -/
def machine (operation : Float → Float) (x : Double) : Double :=
  BitVec.ofNat _ (operation (Float.ofBits (UInt64.ofNat x.toNat))).toBits.toNat

/-! ### Logarithm -/

/-- Places of the fixed-point numbers of the logarithm. -/
def logPlaces : Nat := 200

/-- The terms of `2 * atanh (p / q)` from the power `p / q * (p / q) ^ (2 * i)` on,
scaled, until they vanish. -/
def atanhTerms (p q : Nat) : Nat → Nat → Nat → Nat
  | 0, _, _ => 0
  | fuel + 1, power, i =>
    if power = 0 then 0
    else 2 * power / (2 * i + 1) + atanhTerms p q fuel (power * (p * p) / (q * q)) (i + 1)

/-- `2 * atanh (p / q)`, scaled; the logarithm of `(q + p) / (q - p)`. -/
def twiceAtanh (p q : Nat) : Nat :=
  atanhTerms p q logPlaces (p * 2 ^ logPlaces / q) 0

/-- The logarithm of `n / d`, scaled, as its sign and size. The quotient is first
brought near 1 by a power of two. -/
def scaledLog (n d : Nat) : Int :=
  let shift : Int := (n.log2 : Int) - d.log2
  let n' := n * 2 ^ (-shift).toNat
  let d' := d * 2 ^ shift.toNat
  let (n', d', shift) := if 4 * d' < 3 * n' then (n', 2 * d', shift + 1) else (n', d', shift)
  let near : Int :=
    if d' ≤ n' then twiceAtanh (n' - d') (n' + d') else -(twiceAtanh (d' - n') (n' + d') : Int)
  shift * twiceAtanh 1 3 + near

/-- The natural logarithm. It is a NaN of negative numbers and the negative
infinity of both zeros. -/
def ln (x : Double) : Double :=
  if x.isNaN then nan
  else if x.isZero then infinite true
  else if x.isNegative then nan
  else if x.isInfinite then infinite false
  else if x.units = 2 ^ BinaryFormat.double.scale then zero false
  else
    let l := scaledLog x.units (2 ^ BinaryFormat.double.scale)
    match decided (l.natAbs * 2 ^ BinaryFormat.double.scale) (2 ^ logPlaces) with
    | some m => ofParts (decide (l < 0)) m
    | none => machine Float.log x

/-- The logarithm to a base, as a quotient of two rounded logarithms. -/
def logBase (x base : Double) : Double := div x.ln base.ln

/-! ### Power -/

/-- A finite power with a small integer as its exponent, when it is decided. -/
def integerPower? (x y : Double) : Option Double :=
  if x.isFinite && !x.isZero && y.isInteger && decide (y.truncate.natAbs ≤ 1024) then
    let n := x.units ^ y.truncate.natAbs
    let d := 2 ^ (BinaryFormat.double.scale * y.truncate.natAbs)
    let negative := x.isNegative && decide (y.truncate % 2 ≠ 0)
    let magnitude :=
      if 0 ≤ y.truncate then decided (n * 2 ^ BinaryFormat.double.scale) d
      else decided (d * 2 ^ BinaryFormat.double.scale) n
    magnitude.bind fun m =>
      if m < BinaryFormat.double.infinity then some (ofParts negative m) else none
  else none

/-- `x` to the power `y`. -/
def pow (x y : Double) : Double :=
  match integerPower? x y with
  | some z => z
  | none =>
    BitVec.ofNat _ (Float.pow (Float.ofBits (UInt64.ofNat x.toNat))
      (Float.ofBits (UInt64.ofNat y.toNat))).toBits.toNat

end DeviceGateway.Binary
