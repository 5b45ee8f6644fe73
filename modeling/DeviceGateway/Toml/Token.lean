import DeviceGateway.Text.Basic

/-! The tokens of TOML text. A place in a text is what is left of the text from there on. -/

namespace DeviceGateway.Toml

/-! ### Faults -/

inductive FaultCause where
  | unexpectedEnd
  | stringCharacter (found : Char)
  | escape (found : Char)
  | hexEscape (found : Char)
  | escapeValue (code : Nat)
  | newlineInString
  | unexpected (found : Char)
  | unterminatedString
  | multilineKey
  | wanted (expected found : String)
  | duplicateTable (name : String)
  | redefinedAsArray
  | invalidNumber
  | invalidDate
  | unquotedString
  | extendsValue
  | duplicateKey (key : String)
  | invalidMoment
  /-- A value that cannot be a moment, by what it is called. -/
  | noMoment (found : String)
  deriving DecidableEq, Repr

/-- A character as it is shown in a message. -/
def shown (c : Char) : String :=
  if c = '\t' then "\\t" else if c = '\r' then "\\r" else if c = '\n' then "\\n"
  else if c = '\'' ∨ c = '"' ∨ c = '\\' then String.ofList ['\\', c]
  else if 0x20 ≤ c.toNat ∧ c.toNat < 0x7f then c.toString
  else String.ofList (['\\', 'u', '\x7b'] ++ Text.hexadecimal c.toNat ++ ['\x7d'])

def FaultCause.message : FaultCause → String
  | .unexpectedEnd => "unexpected eof encountered"
  | .stringCharacter c => "invalid character in string: `" ++ shown c ++ "`"
  | .escape c => "invalid escape character in string: `" ++ shown c ++ "`"
  | .hexEscape c => "invalid hex escape character in string: `" ++ shown c ++ "`"
  | .escapeValue n => "invalid escape value: `" ++ toString n ++ "`"
  | .newlineInString => "newline in string found"
  | .unexpected c => "unexpected character found: `" ++ shown c ++ "`"
  | .unterminatedString => "unterminated string"
  | .multilineKey => "multiline strings are not allowed for key"
  | .wanted expected found => "expected " ++ expected ++ ", found " ++ found
  | .duplicateTable name => "redefinition of table `" ++ name ++ "`"
  | .redefinedAsArray => "table redefined as array"
  | .invalidNumber => "invalid number"
  | .invalidDate => "invalid date"
  | .unquotedString => "invalid TOML value, did you mean to use a quoted string?"
  | .extendsValue => "dotted key attempted to extend non-table type"
  | .duplicateKey key => "duplicate key: `" ++ key ++ "`"
  | .invalidMoment => "failed to parse datetime"
  | .noMoment found => "invalid type: " ++ found ++ ", expected string containing a datetime"

/-- What is wrong with a text, and where: the keys that lead there, and the place, unless
only the whole text shows it. -/
structure Fault where
  cause : FaultCause
  place : Option (List Char)
  keys : List String := []
  deriving DecidableEq, Repr

/-- A fault at a place. -/
def fault (cause : FaultCause) (place : List Char) : Fault := ⟨cause, some place, []⟩

/-- Line and column of a place in a text, the column in bytes. -/
def position (text place : List Char) : Nat × Nat :=
  let before := text.take (text.length - place.length)
  let line := before.reverse.takeWhile (· != '\n')
  (before.count '\n' + 1, line.foldl (fun n c => n + c.utf8Size) 1)

def Fault.message (text : List Char) (f : Fault) : String :=
  let keys := if f.keys.isEmpty then "" else " for key `" ++ String.intercalate "." f.keys ++ "`"
  let place := match f.place with
    | none => ""
    | some place =>
      let (line, column) := position text place
      " at line " ++ toString line ++ " column " ++ toString column
  f.cause.message ++ keys ++ place

/-! ### Tokens -/

inductive Token where
  | blanks
  | newline
  | comment
  | equals
  | period
  | comma
  | colon
  | plus
  | leftBrace
  | rightBrace
  | leftBracket
  | rightBracket
  /-- A run of letters, digits, hyphens and underscores. -/
  | word (text : List Char)
  | string (text : String) (multiline : Bool)
  deriving DecidableEq, Repr

def Token.describe : Token → String
  | .blanks => "whitespace"
  | .newline => "a newline"
  | .comment => "a comment"
  | .equals => "an equals"
  | .period => "a period"
  | .comma => "a comma"
  | .colon => "a colon"
  | .plus => "a plus"
  | .leftBrace => "a left brace"
  | .rightBrace => "a right brace"
  | .leftBracket => "a left bracket"
  | .rightBracket => "a right bracket"
  | .word _ => "an identifier"
  | .string _ false => "a string"
  | .string _ true => "a multiline string"

def isBlank (c : Char) : Bool := c == ' ' || c == '\t'

def isWordCharacter (c : Char) : Bool := c.isAlphanum || c == '-' || c == '_'

/-- True of the characters that a comment may hold. -/
def isCommentCharacter (c : Char) : Bool := c == '\t' || decide (0x20 ≤ c.toNat)

/-- True of the characters that a string may hold as they are. -/
def isStringCharacter (c : Char) : Bool :=
  c == '\t' || (decide (0x20 ≤ c.toNat) && c.toNat != 0x7f)

/-- The text with every line ended by a line feed alone. -/
def unifyLines : List Char → List Char
  | [] => []
  | '\r' :: '\n' :: r => '\n' :: unifyLines r
  | c :: r => c :: unifyLines r

/-! ### Strings -/

def digit? (radix : Nat) (c : Char) : Option Nat :=
  let n :=
    if c.isDigit then c.toNat - '0'.toNat
    else if c.isAlpha then c.toLower.toNat - 'a'.toNat + 10
    else radix
  if n < radix then some n else none

/-- The number of `count` hexadecimal digits; `start` is where the string starts. -/
def hexDigits (start : List Char) : Nat → Nat → List Char → Except Fault (Nat × List Char)
  | 0, n, cs => .ok (n, cs)
  | _ + 1, _, [] => .error (fault .unterminatedString start)
  | count + 1, n, c :: r =>
    match digit? 16 c with
    | some d => hexDigits start count (16 * n + d) r
    | none => .error (fault (.hexEscape c) (c :: r))

/-- The character of an escape by code point, whose letter stands at `place`. -/
def codeEscape (start place : List Char) (count : Nat) (cs : List Char) :
    Except Fault (List Char × List Char) := do
  let (n, r) ← hexDigits start count 0 cs
  if n.isValidChar then .ok ([Char.ofNat n], r) else .error (fault (.escapeValue n) place)

/-- What an escape stands for, after the backslash. At the end of a line of a string of
several lines it stands for nothing, and takes in the blanks and lines that follow. -/
def escaped (start : List Char) (multiline : Bool) (cs : List Char) :
    Except Fault (List Char × List Char) :=
  match cs with
  | [] => .error (fault .unterminatedString start)
  | c :: r =>
    let plain := fun c : Char => .ok ([c], r)
    match c with
    | '"' | '\\' => plain c
    | 'b' => plain (Char.ofNat 8)
    | 'f' => plain (Char.ofNat 12)
    | 'n' => plain '\n'
    | 'r' => plain '\r'
    | 't' => plain '\t'
    | 'u' => codeEscape start cs 4 r
    | 'U' => codeEscape start cs 8 r
    | c =>
      let lines := cs.dropWhile fun c => isBlank c || c == '\n'
      match cs.dropWhile isBlank with
      | [] => if multiline ∧ isBlank c then .ok ([], []) else .error (fault (.escape c) cs)
      | '\n' :: _ => if multiline then .ok ([], lines) else .error (fault (.escape c) cs)
      | _ => .error (fault (.escape c) cs)

/-- The rest of a string of several lines after a closing delimiter: up to two more of
them still belong to the text. -/
def closing (delimiter : Char) (taken : List Char) : List Char → String × List Char
  | a :: b :: r =>
    if a = delimiter then
      if b = delimiter then (String.ofList (b :: a :: taken).reverse, r)
      else (String.ofList (a :: taken).reverse, b :: r)
    else (String.ofList taken.reverse, a :: b :: r)
  | [a] =>
    if a = delimiter then (String.ofList (a :: taken).reverse, [])
    else (String.ofList taken.reverse, [a])
  | [] => (String.ofList taken.reverse, [])

/-- The rest of a string; `taken` is reversed. A step of fuel for each character
suffices. -/
def stringRest (delimiter : Char) (multiline : Bool) (start : List Char) :
    Nat → List Char → List Char → Except Fault (String × List Char)
  | 0, _, _ | _ + 1, _, [] => .error (fault .unterminatedString start)
  | fuel + 1, taken, c :: r =>
    if c = '\n' then
      if multiline then stringRest delimiter multiline start fuel (c :: taken) r
      else .error (fault .newlineInString (c :: r))
    else if c = delimiter then
      if multiline then
        match r with
        | a :: b :: r' =>
          if a = delimiter ∧ b = delimiter then .ok (closing delimiter taken r')
          else stringRest delimiter multiline start fuel (c :: taken) r
        | _ => stringRest delimiter multiline start fuel (c :: taken) r
      else .ok (String.ofList taken.reverse, r)
    else if c = '\\' ∧ delimiter = '"' then
      match escaped start multiline r with
      | .ok (cs, r) => stringRest delimiter multiline start fuel (cs.reverse ++ taken) r
      | .error f => .error f
    else if isStringCharacter c then stringRest delimiter multiline start fuel (c :: taken) r
    else .error (fault (.stringCharacter c) (c :: r))

/-- A string after its first delimiter. Three of them open one of several lines, which
does not begin with a line end. -/
def stringToken (delimiter : Char) (start cs : List Char) : Except Fault (Token × List Char) :=
  let token := fun multiline cs =>
    (stringRest delimiter multiline start (cs.length + 1) [] cs).map
      fun (s, r) => (Token.string s multiline, r)
  match cs with
  | a :: b :: r =>
    if a = delimiter then
      if b = delimiter then
        match r with
        | '\n' :: r => token true r
        | r => token true r
      else .ok (.string "" false, b :: r)
    else token false cs
  | [a] => if a = delimiter then .ok (.string "" false, []) else token false cs
  | [] => token false []

/-- The next token and the text after it. -/
def next : List Char → Except Fault (Option (Token × List Char))
  | [] => .ok none
  | c :: r =>
    let one := fun t : Token => .ok (some (t, r))
    match c with
    | '\n' => one .newline
    | '=' => one .equals
    | '.' => one .period
    | ',' => one .comma
    | ':' => one .colon
    | '+' => one .plus
    | '\x7b' => one .leftBrace
    | '\x7d' => one .rightBrace
    | '[' => one .leftBracket
    | ']' => one .rightBracket
    | '"' | '\'' => (stringToken c (c :: r) r).map some
    | '#' => .ok (some (.comment, r.dropWhile isCommentCharacter))
    | c =>
      if isBlank c then .ok (some (.blanks, r.dropWhile isBlank))
      else if isWordCharacter c then
        .ok (some (.word ((c :: r).takeWhile isWordCharacter), r.dropWhile isWordCharacter))
      else .error (fault (.unexpected c) (c :: r))

end DeviceGateway.Toml
