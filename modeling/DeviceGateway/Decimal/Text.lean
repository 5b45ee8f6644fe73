import DeviceGateway.Decimal.Basic

/-! Decimal text of numbers: positional, in exponent form, or with two places. -/

namespace DeviceGateway

/-- The decimal digits of a number, most significant first. -/
abbrev digits (n : Nat) : List Char := Nat.toDigits 10 n

/-- The last `k` digits of `n`, with leading zeros. -/
def paddedDigits (k n : Nat) : List Char :=
  let ds := digits n
  List.replicate (k - ds.length) '0' ++ ds

/-- Trailing zeros dropped. -/
def dropTrailingZeros (ds : List Char) : List Char :=
  (ds.reverse.dropWhile (· == '0')).reverse

namespace Decimal

/-- Positional notation: no exponent, no superfluous zeros after the point. -/
def plain (d : Decimal) : List Char :=
  match d.exponent with
  | .ofNat k => digits (d.coefficient * 10 ^ k)
  | .negSucc k =>
    let whole := digits (d.coefficient / 10 ^ (k + 1))
    let fraction := dropTrailingZeros (paddedDigits (k + 1) (d.coefficient % 10 ^ (k + 1)))
    if fraction.isEmpty then whole else whole ++ '.' :: fraction

/-- The digits without trailing zeros, and how many of them stand before the point. -/
def significant (d : Decimal) : List Char × Int :=
  let ds := digits d.coefficient
  (dropTrailingZeros ds, d.exponent + ds.length)

end Decimal

namespace Binary

variable {f : BinaryFormat}

def sign (x : Binary f) : List Char := if x.isNegative then ['-'] else []

/-- Shortest positional text; also of the zeros, infinities and NaNs. -/
def text (x : Binary f) : List Char :=
  if x.isNaN then "NaN".toList
  else if x.isInfinite then x.sign ++ "inf".toList
  else if x.isZero then x.sign ++ ['0']
  else x.sign ++ (x.shortest .upper).plain

/-- As `text`, but a finite number always has a point. -/
def pointedText (x : Binary f) : List Char :=
  let whole := !x.isNaN && !x.isInfinite && !x.text.contains '.'
  if whole then x.text ++ ".0".toList else x.text

/-- Text with exactly two places, a half going to the even neighbour. -/
def twoPlaces (x : Binary f) : List Char :=
  if x.isNaN then "NaN".toList
  else if x.isInfinite then x.sign ++ "inf".toList
  else
    let hundredths := BinaryFormat.nearestEven (x.units * 100) (2 ^ f.scale)
    x.sign ++ digits (hundredths / 100) ++ '.' :: paddedDigits 2 (hundredths % 100)

end Binary

/-- Decimal text of an integer. -/
def integerText : Int → List Char
  | .ofNat n => digits n
  | .negSucc n => '-' :: digits (n + 1)

end DeviceGateway
