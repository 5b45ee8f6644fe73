import DeviceGateway.Decimal.Basic

/-! Reading numerals. A decimal numeral is an optional sign, digits with an
optional point among or around them, and an optional exponent; beside these the
words for infinity and not-a-number are read in any case. -/

namespace DeviceGateway

/-- Why a text is no floating-point number. -/
inductive FloatFault where
  | empty
  | invalid
  deriving DecidableEq, Repr

def FloatFault.message : FloatFault → String
  | .empty => "cannot parse float from empty string"
  | .invalid => "invalid float literal"

/-- Why a text is no integer of the wanted range. -/
inductive IntegerFault where
  | empty
  | invalidDigit
  | tooLarge
  | tooSmall
  deriving DecidableEq, Repr

def IntegerFault.message : IntegerFault → String
  | .empty => "cannot parse integer from empty string"
  | .invalidDigit => "invalid digit found in string"
  | .tooLarge => "number too large to fit in target type"
  | .tooSmall => "number too small to fit in target type"

namespace Numeral

/-- The number a list of digits stands for. -/
def value (ds : List Char) : Nat := Nat.ofDigitChars 10 ds 0

/-- A leading sign, true for minus, and the rest. -/
def splitSign : List Char → Bool × List Char
  | '-' :: r => (true, r)
  | '+' :: r => (false, r)
  | cs => (false, cs)

/-- The exponent part, which must be the whole text: nothing, or a mark, an
optional sign and digits. -/
def exponent? : List Char → Option Int
  | [] => some 0
  | c :: r =>
    if c = 'e' ∨ c = 'E' then
      let (negative, ds) := splitSign r
      if ds.isEmpty || !ds.all Char.isDigit then none
      else some (if negative then -(value ds : Int) else value ds)
    else none

/-- An unsigned decimal numeral that is the whole text. -/
def decimal? (cs : List Char) : Option Decimal :=
  let whole := cs.takeWhile Char.isDigit
  let rest := cs.dropWhile Char.isDigit
  let (fraction, tail) :=
    match rest with
    | '.' :: r => (r.takeWhile Char.isDigit, r.dropWhile Char.isDigit)
    | r => ([], r)
  if whole.isEmpty && fraction.isEmpty then none
  else (exponent? tail).map fun e => ⟨value (whole ++ fraction), e - fraction.length⟩

/-- The words that stand for a magnitude. -/
def word? (f : BinaryFormat) (cs : List Char) : Option Nat :=
  let lower := cs.map Char.toLower
  if lower = "inf".toList ∨ lower = "infinity".toList then some f.infinity
  else if lower = "nan".toList then some f.quietNaN
  else none

end Numeral

/-- The pattern nearest to the number a text denotes. -/
def Binary.ofText (f : BinaryFormat) (cs : List Char) : Except FloatFault (Binary f) :=
  let (negative, rest) := Numeral.splitSign cs
  if cs.isEmpty then .error .empty
  else match Numeral.word? f rest with
    | some m => .ok (.ofParts negative m)
    | none =>
      match Numeral.decimal? rest with
      | some d => .ok (.ofParts negative (f.ofDecimal d))
      | none => .error .invalid

/-- The integer between `low` and `high` a text denotes. A minus sign is a digit
fault where no negative number is wanted, and a fault of range shows only after
the digits up to it. -/
def integerOfText (low high : Int) (cs : List Char) : Except IntegerFault Int :=
  let (negative, ds) :=
    match cs with
    | '+' :: r => (false, r)
    | '-' :: r => if low < 0 then (true, r) else (false, '-' :: r)
    | r => (false, r)
  if cs.isEmpty then .error .empty
  else if ds.isEmpty then .error .invalidDigit
  else
    let within := fun n : Nat => if negative then low ≤ -(n : Int) else (n : Int) ≤ high
    let rec accumulate : Nat → List Char → Except IntegerFault Nat
      | n, [] => .ok n
      | n, c :: r =>
        if !c.isDigit then .error .invalidDigit
        else
          let next := 10 * n + (c.toNat - '0'.toNat)
          if within next then accumulate next r
          else .error (if negative then .tooSmall else .tooLarge)
    (accumulate 0 ds).map fun n => if negative then -(n : Int) else n

end DeviceGateway
