import DeviceGateway.Json.Fault
import DeviceGateway.Decimal.Numeral

/-! The scalars of JSON text: strings, words and numbers. -/

namespace DeviceGateway.Json

def skipBlanks : List Char → List Char :=
  List.dropWhile fun c => c == ' ' || c == '\n' || c == '\t' || c == '\r'

/-! ### Strings -/

def hexValue? (c : Char) : Option Nat :=
  if c.isDigit then some (c.toNat - '0'.toNat)
  else if 'a' ≤ c ∧ c ≤ 'f' then some (c.toNat - 'a'.toNat + 10)
  else if 'A' ≤ c ∧ c ≤ 'F' then some (c.toNat - 'A'.toNat + 10)
  else none

def hexQuad? : List Char → Option (Nat × List Char)
  | a :: b :: c :: d :: r => do
    return ((((← hexValue? a) * 16 + (← hexValue? b)) * 16 + (← hexValue? c)) * 16 +
      (← hexValue? d), r)
  | _ => none

/-- Four hexadecimal digits, in the next four bytes. -/
def hexQuad (cs : List Char) : Except Fault (Nat × List Char) :=
  match hexQuad? cs with
  | some result => .ok result
  | none =>
    if byteCount cs < 4 then fail .endInString []
    else .error { cause := .invalidEscape, rest := cs, further := 4 }

/-- The character of an escape by code unit; one beyond the first plane takes two. -/
def unicodeEscape (cs : List Char) : Except Fault (Char × List Char) := do
  let (n, r) ← hexQuad cs
  if 0xdc00 ≤ n ∧ n ≤ 0xdfff then fail .loneSurrogate r
  else if n < 0xd800 ∨ 0xdbff < n then .ok (Char.ofNat n, r)
  else
    match r with
    | [] | ['\\'] => fail .endInString []
    | '\\' :: 'u' :: r =>
      let (m, r) ← hexQuad r
      if m < 0xdc00 ∨ 0xdfff < m then fail .loneSurrogate r
      else .ok (Char.ofNat ((n - 0xd800) * 0x400 + (m - 0xdc00) + 0x10000), r)
    | '\\' :: r | r => failNext .endOfHexEscape r

/-- The character that an escape stands for, after the backslash. -/
def escaped : List Char → Except Fault (Char × List Char)
  | [] => fail .endInString []
  | '"' :: r => .ok ('"', r)
  | '\\' :: r => .ok ('\\', r)
  | '/' :: r => .ok ('/', r)
  | 'b' :: r => .ok (Char.ofNat 8, r)
  | 'f' :: r => .ok (Char.ofNat 12, r)
  | 'n' :: r => .ok ('\n', r)
  | 'r' :: r => .ok ('\r', r)
  | 't' :: r => .ok ('\t', r)
  | 'u' :: r => unicodeEscape r
  | r => failNext .invalidEscape r

/-- The rest of a string after its opening quote; `taken` is reversed. -/
def stringRest : Nat → List Char → List Char → Except Fault (String × List Char)
  | 0, _, cs => fail .endInString cs
  | _ + 1, _, [] => fail .endInString []
  | fuel + 1, taken, c :: r =>
    if c = '"' then .ok (String.ofList taken.reverse, r)
    else if c = '\\' then
      match escaped r with
      | .ok (c, r) => stringRest fuel (c :: taken) r
      | .error f => .error f
    else if c.toNat < 0x20 then fail .controlCharacter r
    else stringRest fuel (c :: taken) r

/-- A string whose opening quote was taken. -/
def quoted (cs : List Char) : Except Fault (String × List Char) :=
  stringRest (cs.length + 1) [] cs

/-! ### Words -/

/-- The text after the remaining letters of a word. -/
def word : List Char → List Char → Except Fault (List Char)
  | [], cs => .ok cs
  | _ :: _, [] => fail .endInValue []
  | w :: ws, c :: cs => if c = w then word ws cs else failNext .expectedIdent (c :: cs)

/-! ### Numbers

A number that is no integer of 64 bits is made of a significand of 64 bits, whose
further digits are dropped, and a power of ten, by one multiplication or division
of doubles. -/

/-- The digits that the significand takes, and those left over. -/
def absorb : Nat → List Char → Nat × List Char
  | n, [] => (n, [])
  | n, c :: r =>
    let next := 10 * n + (c.toNat - '0'.toNat)
    if next < 2 ^ 64 then absorb next r else (n, c :: r)

def powerOfTen (k : Nat) : Double :=
  Binary.ofParts false (BinaryFormat.double.ofDecimal ⟨1, k⟩)

/-- `x` divided by `10 ^ k`, at most `10 ^ 308` at a time. -/
def divideByPower : Nat → Double → Nat → Double
  | 0, x, _ => x
  | fuel + 1, x, k =>
    if k ≤ 308 then x.div (powerOfTen k)
    else if x.isZero then x
    else divideByPower fuel (x.div (powerOfTen 308)) (k - 308)

/-- `significand * 10 ^ exponent`, if it is finite. -/
def ofParts? (significand : Nat) (exponent : Int) : Option Double :=
  let x : Double := Binary.ofInt significand
  match exponent with
  | .ofNat k =>
    if x.isZero then some x
    else if 308 < k then none
    else
      let y := x.mul (powerOfTen k)
      if y.isInfinite then none else some y
  | .negSucc k => some (divideByPower 8 x (k + 1))

/-- What follows the digit with which a decimal numeral leaves 31 bits, if it does. -/
def pastWordRange? : Nat → List Char → Option (List Char)
  | _, [] => none
  | n, c :: r =>
    if c.isDigit then
      let next := 10 * n + (c.toNat - '0'.toNat)
      if next < 2 ^ 31 then pastWordRange? next r else some r
    else none

/-- The exponent of a significand, after its mark: its value and the text that follows.
The digits of one that is too large for any significand are not read to the end. -/
def exponentPart (significand : Nat) (cs : List Char) : Except Fault (Int × List Char) :=
  let (negative, r) := Numeral.splitSign cs
  match r with
  | [] => fail .endInValue []
  | c :: _ =>
    if c.isDigit then
      match (if significand = 0 || negative then none else pastWordRange? 0 r) with
      | some r => fail .numberOutOfRange r
      | none =>
        let n : Int := Numeral.value (r.takeWhile Char.isDigit)
        .ok (if negative then -n else n, r.dropWhile Char.isDigit)
    else failNext .invalidNumber r

/-- The digits after a point, and the text that follows. -/
def fractionPart (cs : List Char) : Except Fault (List Char × List Char) :=
  match cs.takeWhile Char.isDigit, cs with
  | [], [] => fail .endInValue []
  | [], r => failNext .invalidNumber r
  | ds, r => .ok (ds, r.dropWhile Char.isDigit)

/-- A number after its sign. -/
def number (negative : Bool) (cs : List Char) : Except Fault (Json × List Char) := do
  let whole := cs.takeWhile Char.isDigit
  let r := cs.dropWhile Char.isDigit
  match whole, r with
  | [], [] => fail .endInValue []
  | [], r => failNext .invalidNumber r
  | '0' :: d :: ds, _ => failNext .invalidNumber (d :: ds ++ r)
  | _, _ =>
    let (n, dropped) := absorb 0 whole
    let (fraction, r) ← match r with
      | '.' :: r => (fractionPart r).map fun (ds, r) => (some ds, r)
      | r => .ok (none, r)
    let (m, leftOver) := absorb n (fraction.getD [])
    let scale : Int := dropped.length - (((fraction.getD []).length - leftOver.length : Nat) : Int)
    let (e, r) ← match r with
      | c :: r' =>
        if c = 'e' ∨ c = 'E' then (exponentPart m r').map fun (e, r) => (some e, r)
        else .ok (none, r)
      | [] => .ok (none, [])
    if fraction.isNone && e.isNone && dropped.isEmpty then
      if !negative then .ok (.integer n, r)
      else if n = 0 ∨ 2 ^ 63 < n then .ok (.float (Binary.ofInt n).negate, r)
      else .ok (.integer (-n), r)
    else match ofParts? m (scale + e.getD 0) with
      | some x => .ok (.float (if negative then x.negate else x), r)
      | none => fail .numberOutOfRange r

/-! ### All scalars -/

/-- A value that is neither array nor object, on the text from its first character. -/
def scalar : List Char → Except Fault (Json × List Char)
  | [] => failNext .endInValue []
  | '"' :: r => (quoted r).map fun (s, r) => (.string s, r)
  | 'n' :: r => (word "ull".toList r).map (.null, ·)
  | 't' :: r => (word "rue".toList r).map (.bool true, ·)
  | 'f' :: r => (word "alse".toList r).map (.bool false, ·)
  | '-' :: r => number true r
  | c :: r => if c.isDigit then number false (c :: r) else failNext .expectedValue (c :: r)

end DeviceGateway.Json
