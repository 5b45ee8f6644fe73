import DeviceGateway.Json.Scalar

/-! Passing over a value that nothing is made of. Its form is looked at more loosely than
that of a value which is taken: numbers have no range, escapes by code unit need not pair
up, and there is no limit to the nesting. -/

namespace DeviceGateway.Json

/-- The text after an escape whose backslash was taken. -/
def skipEscape : List Char → Except Fault (List Char)
  | [] => fail .endInString []
  | 'u' :: r => (hexQuad r).map (·.2)
  | c :: r => if c ∈ "\"\\/bfnrt".toList then .ok r else failNext .invalidEscape (c :: r)

/-- The text after a string whose opening quote was taken. -/
def skipStringRest : Nat → List Char → Except Fault (List Char)
  | 0, cs => fail .endInString cs
  | _ + 1, [] => fail .endInString []
  | fuel + 1, c :: r =>
    if c = '"' then .ok r
    else if c = '\\' then
      match skipEscape r with
      | .ok r => skipStringRest fuel r
      | .error f => .error f
    else if c.toNat < 0x20 then fail .controlCharacter (c :: r)
    else skipStringRest fuel r

def skipString (cs : List Char) : Except Fault (List Char) := skipStringRest (cs.length + 1) cs

/-- The text after an exponent whose mark was taken. -/
def skipExponent (cs : List Char) : Except Fault (List Char) :=
  match (Numeral.splitSign cs).2 with
  | c :: r =>
    if c.isDigit then .ok (r.dropWhile Char.isDigit) else failNext .invalidNumber (c :: r)
  | [] => fail .invalidNumber []

/-- The text after an exponent, if there is one. -/
def skipExponent? : List Char → Except Fault (List Char)
  | c :: r => if c = 'e' ∨ c = 'E' then skipExponent r else .ok (c :: r)
  | [] => .ok []

/-- The text after a number whose sign was taken. -/
def skipNumber (cs : List Char) : Except Fault (List Char) :=
  match cs.takeWhile Char.isDigit, cs.dropWhile Char.isDigit with
  | [], r => failNext .invalidNumber r
  | '0' :: d :: ds, r => failNext .invalidNumber (d :: ds ++ r)
  | _, '.' :: r =>
    if (r.takeWhile Char.isDigit).isEmpty then failNext .invalidNumber r
    else skipExponent? (r.dropWhile Char.isDigit)
  | _, r => skipExponent? r

def skipScalar : List Char → Except Fault (List Char)
  | [] => failNext .endInValue []
  | '"' :: r => skipString r
  | 'n' :: r => word "ull".toList r
  | 't' :: r => word "rue".toList r
  | 'f' :: r => word "alse".toList r
  | '-' :: r => skipNumber r
  | c :: r => if c.isDigit then skipNumber (c :: r) else failNext .expectedValue (c :: r)

/-- The text after the key of a member and its colon. -/
def skipKey (cs : List Char) : Except Fault (List Char) :=
  match skipBlanks cs with
  | [] => failNext .endInObject []
  | '"' :: r =>
    match skipString r with
    | .error f => .error f
    | .ok r =>
      match skipBlanks r with
      | [] => failNext .endInObject []
      | ':' :: r => .ok r
      | r => failNext .expectedColon r
  | r => failNext .keyMustBeString r

/-- A bracket that is open: that of an array or that of an object. -/
inductive Bracket where
  | array
  | object
  deriving DecidableEq, Repr

namespace Bracket

def closing : Bracket → Char
  | .array => ']'
  | .object => '\x7d'

/-- The fault of a text that ends where the bracket could be closed. -/
def ending : Bracket → FaultCause
  | .array => .endInList
  | .object => .endInObject

/-- The fault of a character that neither closes the bracket nor leads on. -/
def expected : Bracket → FaultCause
  | .array => .expectedListCommaOrEnd
  | .object => .expectedObjectCommaOrEnd

/-- The text of the next value, after the key if there is one. -/
def lead : Bracket → List Char → Except Fault (List Char)
  | .array, cs => .ok cs
  | .object, cs => skipKey cs

end Bracket

/-- What follows a value inside brackets, innermost first: the brackets that are open at
the next value, and the text from there. There is no next value when all are closed. -/
def skipOnward : List Bracket → List Char → Except Fault (List Bracket × List Char)
  | [], cs => .ok ([], cs)
  | b :: up, cs =>
    match skipBlanks cs with
    | [] => failNext b.ending []
    | c :: r =>
      if c = ',' then (b.lead r).map (b :: up, ·)
      else if c = b.closing then skipOnward up r
      else failNext b.expected (c :: r)

/-- What follows the opening of a bracket, in the same form. -/
def skipInto (b : Bracket) (up : List Bracket) (cs : List Char) :
    Except Fault (List Bracket × List Char) :=
  match skipBlanks cs with
  | [] => failNext b.ending []
  | c :: r => if c = b.closing then skipOnward up r else (b.lead (c :: r)).map (b :: up, ·)

/-- What follows the start of a value, in the same form. -/
def skipStep (opened : List Bracket) (cs : List Char) : Except Fault (List Bracket × List Char) :=
  match skipBlanks cs with
  | '[' :: r => skipInto .array opened r
  | '\x7b' :: r => skipInto .object opened r
  | r => skipScalar r >>= skipOnward opened

/-- The text after a value and the brackets around it. A step of fuel for each character
suffices. -/
def skipValue : Nat → List Bracket → List Char → Except Fault (List Char)
  | 0, _, cs => failNext .expectedValue cs
  | fuel + 1, opened, cs =>
    match skipStep opened cs with
    | .error f => .error f
    | .ok ([], r) => .ok r
    | .ok (b :: up, r) => skipValue fuel (b :: up) r

/-- The text after a value. -/
def skip (cs : List Char) : Except Fault (List Char) := skipValue (cs.length + 1) [] cs

end DeviceGateway.Json
