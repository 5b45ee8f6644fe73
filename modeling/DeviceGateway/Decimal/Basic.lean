import DeviceGateway.Binary.Format

/-! Decimals `coefficient * 10 ^ exponent`: the pattern nearest to one, and the
shortest one that reads back as a given pattern. -/

namespace DeviceGateway

/-- A non-negative decimal. -/
structure Decimal where
  coefficient : Nat
  exponent : Int
  deriving DecidableEq, Repr

namespace BinaryFormat

/-- The magnitude nearest to a decimal. Decimals from `10 ^ 400` on and below
`10 ^ -400` lie beyond both formats and are settled without their powers of ten. -/
def ofDecimal (f : BinaryFormat) (d : Decimal) : Nat :=
  let top := d.exponent + (Nat.toDigits 10 d.coefficient).length
  if d.coefficient = 0 ∨ top < -400 then 0
  else if 400 < top then f.infinity
  else match d.exponent with
    | .ofNat k => f.round (d.coefficient * 10 ^ k * 2 ^ f.scale) 1
    | .negSucc k => f.round (d.coefficient * 2 ^ f.scale) (10 ^ (k + 1))

end BinaryFormat

/-- Which of two decimals is taken that are equally near: the upper one, or the one
whose last digit is even. -/
inductive Tie where
  | upper
  | even
  deriving DecidableEq, Repr

/-! ### Shortest digits

A finite value of `u` units is the whole number `u * 5 ^ scale` of steps
`10 ^ -scale`, so all comparisons are of integers. -/

namespace Binary

variable {f : BinaryFormat}

/-- A decimal of `c` steps of `10 ^ j` reads back as `magnitude`: it lies between
the midpoints to the neighbours, which count when the magnitude is even. -/
def readsBack (f : BinaryFormat) (magnitude c j : Nat) : Bool :=
  let twice := 2 * (c * 10 ^ j)
  let low := (f.unitsOf (magnitude - 1) + f.unitsOf magnitude) * 5 ^ f.scale
  let high := (f.unitsOf magnitude + f.unitsOf (magnitude + 1)) * 5 ^ f.scale
  if magnitude % 2 = 0 then decide (low ≤ twice) && decide (twice ≤ high)
  else decide (low < twice) && decide (twice < high)

/-- The better of the two points of the grid `10 ^ j` around the value, if one
reads back; of two the nearer. -/
def nearestOnGrid (f : BinaryFormat) (tie : Tie) (magnitude j : Nat) : Option Nat :=
  let value := f.unitsOf magnitude * 5 ^ f.scale
  let below := value / 10 ^ j
  let above := below + 1
  match readsBack f magnitude below j, readsBack f magnitude above j with
  | false, false => none
  | true, false => some below
  | false, true => some above
  | true, true =>
    let isTie := 2 * (value % 10 ^ j) = 10 ^ j
    if 2 * (value % 10 ^ j) < 10 ^ j ∨ isTie ∧ tie = .even ∧ below % 2 = 0 then some below
    else some above

/-- The first grid from `10 ^ j` down with a point that reads back. The last one
holds the value itself. -/
def firstGrid (f : BinaryFormat) (tie : Tie) (magnitude : Nat) : Nat → Decimal
  | 0 => ⟨f.unitsOf magnitude * 5 ^ f.scale, -f.scale⟩
  | j + 1 =>
    match nearestOnGrid f tie magnitude (j + 1) with
    | some c => ⟨c, (j + 1 : Nat) - (f.scale : Int)⟩
    | none => firstGrid f tie magnitude j

/-- The decimal with the fewest digits that reads back as the absolute value of a
finite pattern, and of those the nearest. -/
def shortest (tie : Tie) (x : Binary f) : Decimal :=
  let value := x.units * 5 ^ f.scale
  firstGrid f tie x.magnitude ((Nat.toDigits 10 value).length - 1)

end Binary

end DeviceGateway
