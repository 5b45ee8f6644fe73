import DeviceGateway.Decimal.Numeral
import DeviceGateway.Toml.Moment
import DeviceGateway.Toml.Token

/-! Reading TOML text into sections: a header and the entries below it, as they are
written. What the sections make together is decided later. -/

namespace DeviceGateway.Toml

/-! ### Sections -/

inductive Scalar where
  | string (value : String)
  | integer (value : Int)
  | float (value : Double)
  | bool (value : Bool)
  /-- The text of a date or a time, or of both. -/
  | moment (text : List Char)
  deriving DecidableEq

/-- A value, with the place where it starts. -/
inductive Node where
  | scalar (start : List Char) (value : Scalar)
  | array (start : List Char) (items : List Node)
  /-- A table in braces, or one that dotted keys make and that more of them extend. -/
  | table (start : List Char) (extensible : Bool) (entries : List (String × Node))

def Node.start : Node → List Char
  | .scalar start _ | .array start _ | .table start _ _ => start

structure Section where
  /-- Where the header starts. -/
  start : List Char
  /-- The keys of the header, none for the entries before the first one. -/
  header : List String
  /-- True of a header in double brackets. -/
  isItem : Bool
  entries : List (String × Node)

/-- The first entry of the key with another value. -/
def replaceFirst (key : String) (n : Node) : List (String × Node) → List (String × Node)
  | [] => []
  | (k, m) :: r => if k = key then (k, n) :: r else (k, m) :: replaceFirst key n r

/-- An entry under a dotted key. All but the last part name tables, which entries in
braces or brackets cannot be. -/
def addEntry : List String → Node → List (String × Node) → Except Fault (List (String × Node))
  | [], _, es => .ok es
  | [k], n, es => .ok (es ++ [(k, n)])
  | k :: ks, n, es =>
    match es.find? (·.1 = k) with
    | some (_, .table start true inner) =>
      (addEntry ks n inner).map fun inner => replaceFirst k (.table start true inner) es
    | some (_, m) => .error (fault .extendsValue m.start)
    | none =>
      (addEntry ks n []).map fun inner => es ++ [(k, .table n.start true inner)]

/-! ### Reading by tokens -/

/-- Reads from the front of a text. -/
abbrev Reader := StateT (List Char) (Except Fault)

namespace Reader

def failAt {α : Type} (cause : FaultCause) (place : List Char) : Reader α :=
  throw (fault cause place)

/-- The next token, taken. -/
def take : Reader (Option Token) := do
  match ← next (← get) with
  | none => return none
  | some (t, r) =>
    set r
    return some t

/-- Takes the next token if it is this one. -/
def eat (t : Token) : Reader Bool := do
  match ← next (← get) with
  | none => return false
  | some (t', r) =>
    if t = t' then set r
    return t == t'

def expect (t : Token) : Reader Unit := do
  let here ← get
  match ← take with
  | none => failAt (.wanted t.describe "eof") []
  | some t' => if t = t' then return () else failAt (.wanted t.describe t'.describe) here

def skipBlanks : Reader Unit := modify (List.dropWhile isBlank)

/-- The end of a line or of the text. -/
def endLine : Reader Unit := do
  let here ← get
  match ← take with
  | none | some .newline => return ()
  | some t => failAt (.wanted "newline" t.describe) here

/-- Takes a comment with the end of its line, if there is one. -/
def eatComment : Reader Bool := do
  match ← get with
  | '#' :: r =>
    set (r.dropWhile isCommentCharacter)
    endLine
    return true
  | _ => return false

def key : Reader String := do
  let here ← get
  match ← take with
  | none => failAt (.wanted "a table key" "eof") []
  | some (.word w) => return String.ofList w
  | some (.string s false) => return s
  | some (.string _ true) => failAt .multilineKey here
  | some t => failAt (.wanted "a table key" t.describe) here

/-- The further parts of a dotted key. -/
def keyParts : Nat → Reader (List String)
  | 0 => return []
  | fuel + 1 => do
    skipBlanks
    if ← eat .period then
      skipBlanks
      let k ← key
      return k :: (← keyParts fuel)
    else return []

def dottedKey : Reader (List String) := do
  let k ← key
  return k :: (← keyParts (← get).length)

/-! ### Numbers -/

/-- How many characters of a word are a number: digits, single underscores between them,
and a sign before them where that is allowed. `place` is where the word starts. -/
def digitsLength (radix : Nat) (signed leadingZeros : Bool) (word place : List Char) :
    Except Fault Nat :=
  let rec scan : Nat → Bool → Bool → Bool → List Char → Except Fault Nat
    | i, first, _, underscore, [] =>
      if first || underscore then .error (fault .invalidNumber place) else .ok i
    | i, first, zero, underscore, c :: r =>
      if i = 0 ∧ (c = '+' ∨ c = '-') ∧ signed then scan 1 first zero underscore r
      else if c = '0' ∧ first then scan (i + 1) false true underscore r
      else if (digit? radix c).isSome then
        if !first && zero && !leadingZeros then .error (fault .invalidNumber (place.drop i))
        else scan (i + 1) false zero false r
      else if c = '_' ∧ first then .error (fault .invalidNumber (place.drop i))
      else if c = '_' ∧ !underscore then scan (i + 1) false zero true r
      else if first || underscore then .error (fault .invalidNumber place)
      else .ok i
  scan 0 true false false word

def dropUnderscores (cs : List Char) : List Char := cs.filter (· != '_')

/-- The integer of 64 bits that a word is. -/
def integer (radix : Nat) (word place : List Char) : Except Fault Scalar := do
  let n ← digitsLength radix (radix == 10) (radix != 10) word place
  let (negative, ds) := Numeral.splitSign (dropUnderscores word)
  let magnitude := ds.foldl (fun m c => radix * m + (digit? radix c).getD 0) 0
  let value : Int := if negative then -(magnitude : Int) else magnitude
  if n = word.length ∧ -(2 ^ 63) ≤ value ∧ value < 2 ^ 63 then return .integer value
  else throw (fault .invalidNumber place)

/-- The digits of an exponent after its mark, of which `rest` is what the word still has.
A plus sign is a token of its own, with the digits in the next word. -/
def exponentDigits (rest place wordPlace : List Char) : Reader (List Char) := do
  let (ds, n) ← match rest with
    | [] =>
      let _ ← eat .plus
      let here ← get
      match ← take with
      | some (.word w) => pure (w, ← digitsLength 10 false true w here)
      | _ => failAt .invalidNumber wordPlace
    | ds => pure (ds, ← digitsLength 10 true true ds place)
  if n = ds.length then return ds else failAt .invalidNumber wordPlace

/-- A floating-point number that starts with a word; `fraction` is the word after its
point, with its place. -/
def float (word place : List Char) (fraction : Option (List Char × List Char)) :
    Reader Scalar := do
  let n ← digitsLength 10 true false word place
  let whole := word.take n
  let (digits, rest, restPlace) ← match fraction with
    | none => pure ([], word.drop n, place.drop n)
    | some (w, p) =>
      if n ≠ word.length then failAt .invalidNumber place
      let m ← digitsLength 10 false true w p
      pure ('.' :: w.take m, w.drop m, p.drop m)
  let exponent ← match rest with
    | [] => pure []
    | c :: r =>
      if c = 'e' ∨ c = 'E' then pure ('e' :: (← exponentDigits r (restPlace.drop 1) place))
      else failAt .invalidNumber place
  match Binary.ofText .double (dropUnderscores (whole ++ digits ++ exponent)) with
  | .ok x => if x.isInfinite || x.isNaN then failAt .invalidNumber place else return .float x
  | .error _ => failAt .invalidNumber place

/-- A number that starts at `start` and has a word at `place`. One with a point but no
exponent in this word counts as starting after the point. -/
def number (start word place : List Char) : Reader Node := do
  let special := fun negative magnitude =>
    Node.scalar start (.float (Binary.ofParts negative magnitude))
  match word with
  | '0' :: 'x' :: r => return .scalar start (← integer 16 r (place.drop 2))
  | '0' :: 'o' :: r => return .scalar start (← integer 8 r (place.drop 2))
  | '0' :: 'b' :: r => return .scalar start (← integer 2 r (place.drop 2))
  | _ =>
    if 'e' ∈ word ∨ 'E' ∈ word then return .scalar start (← float word place none)
    else if ← eat .period then
      let here ← get
      match ← take with
      | some (.word w) => return .scalar here (← float word place (some (w, here)))
      | _ => failAt .invalidNumber here
    else if word = "inf".toList then return special false BinaryFormat.double.infinity
    else if word = "-inf".toList then return special true BinaryFormat.double.infinity
    else if word = "nan".toList then return special false BinaryFormat.double.quietNaN
    else if word = "-nan".toList then return special true BinaryFormat.double.quietNaN
    else return .scalar start (← integer 10 word place)

/-! ### Dates and times -/

/-- Takes a word, or fails with an invalid date. -/
def dateWord (start : List Char) : Reader Unit := do
  match ← take with
  | some (.word _) => return ()
  | _ => failAt .invalidDate start

/-- The text of a moment whose first word, and the colon after it if so, was taken. A
time may follow a date after one blank. -/
def moment (start : List Char) (colonTaken : Bool) : Reader Scalar := do
  match ← get with
  | ' ' :: c :: r =>
    if isWordCharacter c then set ((c :: r).dropWhile isWordCharacter)
  | _ => pure ()
  let hasTime ← if colonTaken then pure true else eat .colon
  if hasTime then
    dateWord start
    expect .colon
    dateWord start
    if ← eat .period then dateWord start
    if ← eat .plus then dateWord start
    if ← eat .colon then dateWord start
  return .moment (start.take (start.length - (← get).length))

/-- True when a word has a hyphen right after the mark of an exponent. -/
def hasNegativeExponent : List Char → Bool
  | c :: '-' :: r => c == 'e' || c == 'E' || hasNegativeExponent ('-' :: r)
  | _ :: r => hasNegativeExponent r
  | [] => false

/-- A number or a moment that starts with a word. -/
def numberOrMoment (word place : List Char) : Reader Node := do
  if 'T' ∈ word ∨ 't' ∈ word ∨ ('-' ∈ word.tail ∧ !hasNegativeExponent word) then
    return .scalar place (← moment place false)
  else if ← eat .colon then return .scalar place (← moment place true)
  else number place word place

/-- The value that a word starts. -/
def wordValue (word place : List Char) : Reader Node :=
  match word with
  | [] => failAt .unquotedString place
  | c :: _ =>
    if word = "true".toList then return .scalar place (.bool true)
    else if word = "false".toList then return .scalar place (.bool false)
    else if word = "inf".toList ∨ word = "nan".toList ∨ c = '-' ∨ c.isDigit then
      numberOrMoment word place
    else failAt .unquotedString place

/-! ### Values -/

/-- Takes blanks, line ends and comments, as they may stand between items. -/
def skipLines : Nat → Reader Unit
  | 0 => return ()
  | fuel + 1 => do
    skipBlanks
    if ← eat .newline then skipLines fuel
    else if ← eatComment then skipLines fuel
    else return ()

mutual

/-- A value. Two steps of fuel for each character suffice. -/
def value : Nat → Reader Node
  | 0 => do failAt .unexpectedEnd (← get)
  | fuel + 1 => do
    let here ← get
    match ← take with
    | none => failAt .unexpectedEnd []
    | some (.string s _) => return .scalar here (.string s)
    | some (.word w) => wordValue w here
    | some .plus =>
      let place ← get
      match ← take with
      | some (.word w) => number here w place
      | _ => failAt .invalidNumber place
    | some .leftBracket => return .array here (← items fuel)
    | some .leftBrace =>
      skipBlanks
      if ← eat .rightBrace then return .table here false []
      else return .table here false (← entries fuel [])
    | some t => failAt (.wanted "a value" t.describe) here

/-- The items of an array up to its bracket. -/
def items : Nat → Reader (List Node)
  | 0 => do failAt .unexpectedEnd (← get)
  | fuel + 1 => do
    skipLines fuel
    if ← eat .rightBracket then return []
    else
      let n ← value fuel
      skipLines fuel
      if ← eat .comma then return n :: (← items fuel)
      else
        expect .rightBracket
        return [n]

/-- The entries in braces up to the closing one. -/
def entries : Nat → List (String × Node) → Reader (List (String × Node))
  | 0, _ => do failAt .unexpectedEnd (← get)
  | fuel + 1, es => do
    let k ← dottedKey
    skipBlanks
    expect .equals
    skipBlanks
    let n ← value fuel
    let es ← addEntry k n es
    skipBlanks
    if ← eat .rightBrace then return es
    else
      expect .comma
      skipBlanks
      entries fuel es

end

/-! ### Lines -/

/-- The parts of a header up to its end. -/
def headerParts (isItem : Bool) : Nat → Reader (List String)
  | 0 => do failAt .unexpectedEnd (← get)
  | fuel + 1 => do
    skipBlanks
    if ← eat .period then
      skipBlanks
      let k ← key
      return k :: (← headerParts isItem fuel)
    else
      expect .rightBracket
      if isItem then expect .rightBracket
      skipBlanks
      if ← eatComment then return []
      else
        endLine
        return []

/-- A section without entries, from its header. -/
def header : Reader Section := do
  let start ← get
  expect .leftBracket
  let isItem ← eat .leftBracket
  skipBlanks
  let k ← key
  return ⟨start, k :: (← headerParts isItem (← get).length.succ), isItem, []⟩

/-- A line with an entry. -/
def entry : Reader (List String × Node) := do
  let k ← dottedKey
  skipBlanks
  expect .equals
  skipBlanks
  let n ← value (2 * (← get).length + 2)
  skipBlanks
  if !(← eatComment) then endLine
  return (k, n)

/-- The sections of the text from here on; `current` is the one that entries are added
to, if there is one yet. -/
def sections (text : List Char) : Nat → Option Section → Reader (List Section)
  | 0, current => return current.toList
  | fuel + 1, current => do
    skipLines (fuel + 1)
    match ← get with
    | [] => return current.toList
    | '[' :: _ =>
      let s ← header
      return current.toList ++ (← sections text fuel (some s))
    | _ =>
      let (k, n) ← entry
      let s := current.getD ⟨text, [], false, []⟩
      let es ← addEntry k n s.entries
      sections text fuel (some { s with entries := es })

end Reader

/-- The sections of a text. -/
def readSections (text : List Char) : Except Fault (List Section) :=
  ((Reader.sections text (text.length + 1) none).run text).map (·.1)

end DeviceGateway.Toml
