import DeviceGateway.Json.Schema

/-! Faults of JSON text, of form and of content, and where in the text they are. -/

namespace DeviceGateway.Json

/-! ### Causes -/

inductive FaultCause where
  | endInList | endInObject | endInString | endInValue
  | expectedColon | expectedListCommaOrEnd | expectedObjectCommaOrEnd
  | expectedIdent | expectedValue | invalidEscape | invalidNumber | numberOutOfRange
  | controlCharacter | keyMustBeString | loneSurrogate | endOfHexEscape
  | trailingComma | trailingCharacters | recursionLimit
  /-- The text is well formed up to here, but not of the schema. -/
  | content (cause : DecodeCause)

namespace FaultCause

def message : FaultCause → String
  | .endInList => "EOF while parsing a list"
  | .endInObject => "EOF while parsing an object"
  | .endInString => "EOF while parsing a string"
  | .endInValue => "EOF while parsing a value"
  | .expectedColon => "expected `:`"
  | .expectedListCommaOrEnd => "expected `,` or `]`"
  | .expectedObjectCommaOrEnd => "expected `,` or `\x7d`"
  | .expectedIdent => "expected ident"
  | .expectedValue => "expected value"
  | .invalidEscape => "invalid escape"
  | .invalidNumber => "invalid number"
  | .numberOutOfRange => "number out of range"
  | .controlCharacter =>
    "control character (\\u0000-\\u001F) found while parsing a string"
  | .keyMustBeString => "key must be a string"
  | .loneSurrogate => "lone leading surrogate in hex escape"
  | .endOfHexEscape => "unexpected end of hex escape"
  | .trailingComma => "trailing comma"
  | .trailingCharacters => "trailing characters"
  | .recursionLimit => "recursion limit exceeded"
  | .content cause => cause.message

/-- True when the text ends too early. -/
def isEnd : FaultCause → Bool
  | .endInList | .endInObject | .endInString | .endInValue => true
  | _ => false

/-- True when the text is not of the schema. -/
def isContent : FaultCause → Bool
  | .content _ => true
  | _ => false

end FaultCause

/-! ### Places -/

/-- A fault, with the text from the point where it was noticed; that was `further` bytes
past the start of this text, or at its end. -/
structure Fault where
  cause : FaultCause
  rest : List Char
  further : Nat := 0

/-- A fault between what stands before `rest` and `rest`. -/
def fail {α : Type} (cause : FaultCause) (rest : List Char) : Except Fault α :=
  .error { cause, rest }

/-- A fault of the next byte. -/
def failNext {α : Type} (cause : FaultCause) (rest : List Char) : Except Fault α :=
  .error { cause, rest, further := 1 }

/-- A fault of content. -/
def refuse {α : Type} (cause : DecodeCause) (rest : List Char) : Except Fault α :=
  .error { cause := .content cause, rest }

def byteCount (cs : List Char) : Nat := cs.foldl (fun n c => n + c.utf8Size) 0

/-- Line and column of the place some bytes further, a character counting by its bytes. -/
def advance : Nat → Nat → Nat → List Char → Nat × Nat
  | line, column, _, [] => (line, column)
  | line, column, bytes, c :: r =>
    if bytes < c.utf8Size then (line, column + bytes)
    else if c = '\n' then advance (line + 1) 0 (bytes - 1) r
    else advance line (column + c.utf8Size) (bytes - c.utf8Size) r

namespace Fault

/-- Line and column of a fault in a text. -/
def position (f : Fault) (text : List Char) : Nat × Nat :=
  advance 1 0 (byteCount text - byteCount f.rest + f.further) text

/-- What is said of a fault in a text, and where it is. -/
def message (f : Fault) (text : String) : String :=
  let (line, column) := f.position text.toList
  f.cause.message ++ " at line " ++ toString line ++ " column " ++ toString column

end Fault

end DeviceGateway.Json
