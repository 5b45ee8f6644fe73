import DeviceGateway.Json.Decode
import DeviceGateway.Json.Skip

/-! Reading JSON text by a schema. A fault of content is found where a value of the wrong
kind begins or ends, and comes before every fault of form that stands later in the text.
Members that the schema does not name are passed over. -/

namespace DeviceGateway.Json

/-- How deep arrays and objects may nest, plus one. -/
def depthLimit : Nat := 128

/-! ### Punctuation -/

/-- Where the items of an array go on: at the next item, or after the bracket. -/
inductive Onward where
  | item (rest : List Char)
  | finish (rest : List Char)

/-- What stands before an item, `first` when none came before. -/
def beforeItem (first : Bool) (cs : List Char) : Except Fault Onward :=
  match skipBlanks cs with
  | [] => failNext .endInList []
  | ']' :: r => .ok (.finish r)
  | c :: r =>
    if first then .ok (.item (c :: r))
    else if c = ',' then
      match skipBlanks r with
      | [] => failNext .endInValue []
      | ']' :: r => failNext .trailingComma (']' :: r)
      | r => .ok (.item r)
    else failNext .expectedListCommaOrEnd (c :: r)

/-- What stands before the key of a member and its quote. -/
def beforeMember (first : Bool) (cs : List Char) : Except Fault Onward :=
  match skipBlanks cs with
  | [] => failNext .endInObject []
  | '\x7d' :: r => .ok (.finish r)
  | c :: r =>
    if first then
      if c = '"' then .ok (.item r) else failNext .keyMustBeString (c :: r)
    else if c = ',' then
      match skipBlanks r with
      | [] => failNext .endInValue []
      | '"' :: r => .ok (.item r)
      | '\x7d' :: r => failNext .trailingComma ('\x7d' :: r)
      | r => failNext .keyMustBeString r
    else failNext .expectedObjectCommaOrEnd (c :: r)

/-- The bracket of an array of which nothing more is wanted. -/
def closeArray (cs : List Char) : Except Fault (List Char) :=
  match skipBlanks cs with
  | [] => failNext .endInList []
  | ']' :: r => .ok r
  | ',' :: r =>
    match skipBlanks r with
    | ']' :: r => failNext .trailingComma (']' :: r)
    | r => failNext .trailingCharacters r
  | r => failNext .trailingCharacters r

def colon (cs : List Char) : Except Fault (List Char) :=
  match skipBlanks cs with
  | [] => failNext .endInObject []
  | ':' :: r => .ok r
  | r => failNext .expectedColon r

/-! ### Values without parts -/

/-- A scalar of the schema, on the text from its first character. -/
def scalarOf (schema : Schema) : List Char → Except Fault (Json × List Char)
  | '[' :: r => refuse (.invalidType (.array []) schema.wanted) ('[' :: r)
  | '\x7b' :: r => refuse (.invalidType (.object []) schema.wanted) ('\x7b' :: r)
  | cs => do
    let (j, r) ← scalar cs
    match schema.scalarFault? j with
    | some cause => refuse cause r
    | none => .ok (j, r)

/-- The name of a variant, whose opening quote was taken. -/
def variantName (names : List String) (cs : List Char) : Except Fault (String × List Char) := do
  let (s, r) ← quoted cs
  if s ∈ names then .ok (s, r) else refuse (.unknownVariant s names) r

/-- A variant, on the text from its first character. -/
def variantOf (depth : Nat) (names : List String) : List Char → Except Fault (Json × List Char)
  | [] => failNext .endInValue []
  | '"' :: r => (variantName names r).map fun (s, r) => (.string s, r)
  | '\x7b' :: r => do
    if depth ≤ 1 then failNext .recursionLimit ('\x7b' :: r)
    let (s, r) ← match skipBlanks r with
      | [] => failNext .endInObject []
      | '"' :: r => variantName names r
      | r => failNext .keyMustBeString r
    let (_, r) ← scalarOf .unit (skipBlanks (← colon r))
    match skipBlanks r with
    | [] => fail .endInObject []
    | '\x7d' :: r => .ok (.string s, r)
    | r => fail .expectedValue r
  | r => failNext .expectedValue r

/-! ### Records -/

/-- The first field, of those not yet seen, that must be present. -/
def absentField? (fields : List (String × Bool × Schema)) (seen : List (String × Json)) :
    Option String :=
  (fields.find? fun (name, required, _) => required && !seen.any (·.1 = name)).map (·.1)

/-- A field seen before. The text is read on to the next character, or past the brace. -/
def duplicate {α : Type} (name : String) (cs : List Char) : Except Fault α :=
  match skipBlanks cs with
  | '\x7d' :: r => refuse (.duplicateField name) r
  | r => refuse (.duplicateField name) r

/-! ### Values -/

/-- The schema of the items, where an array may stand that is no record. -/
def Schema.item? : Schema → Option Schema
  | .anything => some .anything
  | .list item => some item
  | _ => none

/-- The schema of the entries, where an object may stand that is no record. -/
def Schema.entry? : Schema → Option Schema
  | .anything => some .anything
  | .table entry => some entry
  | _ => none

mutual

/-- A value of a schema; a record becomes the object of its fields. `depth` bounds how
deep arrays and objects may nest. Two steps of fuel for each character suffice. -/
def value : Nat → Nat → Schema → List Char → Except Fault (Json × List Char)
  | 0, _, _, cs => failNext .expectedValue cs
  | fuel + 1, depth, schema, cs =>
    let enter := fun (r : List Char) (read : List Char → Except Fault (Json × List Char)) =>
      if depth ≤ 1 then failNext .recursionLimit (skipBlanks cs) else read r
    match schema, skipBlanks cs with
    | .variant names, r => variantOf depth names r
    | .record name fields, '[' :: r =>
      enter r fun r => (fieldItems fuel (depth - 1) name fields.length fields true r).map
        fun (ms, r) => (.object ms, r)
    | .record _ fields, '\x7b' :: r =>
      enter r fun r => (fieldMembers fuel (depth - 1) fields [] true r).map
        fun (ms, r) => (.object ms, r)
    | schema, '[' :: r =>
      match schema.item? with
      | some item =>
        enter r fun r => (items fuel (depth - 1) item true r).map fun (js, r) => (.array js, r)
      | none => scalarOf schema ('[' :: r)
    | schema, '\x7b' :: r =>
      match schema.entry? with
      | some entry =>
        enter r fun r => (entries fuel (depth - 1) entry true r).map fun (ms, r) => (.object ms, r)
      | none => scalarOf schema ('\x7b' :: r)
    | schema, r => scalarOf schema r

/-- The items of an array up to its bracket. -/
def items : Nat → Nat → Schema → Bool → List Char → Except Fault (List Json × List Char)
  | 0, _, _, _, cs => failNext .expectedValue cs
  | fuel + 1, depth, schema, first, cs => do
    match ← beforeItem first cs with
    | .finish r => .ok ([], r)
    | .item r =>
      let (j, r) ← value fuel depth schema r
      let (js, r) ← items fuel depth schema false r
      return (j :: js, r)

/-- The members of an object up to its brace. -/
def entries : Nat → Nat → Schema → Bool → List Char →
    Except Fault (List (String × Json) × List Char)
  | 0, _, _, _, cs => failNext .expectedValue cs
  | fuel + 1, depth, schema, first, cs => do
    match ← beforeMember first cs with
    | .finish r => .ok ([], r)
    | .item r =>
      let (k, r) ← quoted r
      let (j, r) ← value fuel depth schema (← colon r)
      let (ms, r) ← entries fuel depth schema false r
      return ((k, j) :: ms, r)

/-- The fields of a record from the members of an object, up to its brace; `seen` is
reversed. -/
def fieldMembers : Nat → Nat → List (String × Bool × Schema) → List (String × Json) → Bool →
    List Char → Except Fault (List (String × Json) × List Char)
  | 0, _, _, _, _, cs => failNext .expectedValue cs
  | fuel + 1, depth, fields, seen, first, cs => do
    match ← beforeMember first cs with
    | .finish r =>
      match absentField? fields seen with
      | some name => refuse (.missingField name) r
      | none => .ok (seen.reverse, r)
    | .item r =>
      let (k, r) ← quoted r
      match fields.find? (·.1 = k) with
      | none => fieldMembers fuel depth fields seen false (← skip (← colon r))
      | some (_, _, schema) =>
        if seen.any (·.1 = k) then duplicate k r
        else
          let (j, r) ← value fuel depth schema (← colon r)
          fieldMembers fuel depth fields ((k, j) :: seen) false r

/-- The fields of a record of `count` fields from the items of an array, up to its
bracket. -/
def fieldItems : Nat → Nat → String → Nat → List (String × Bool × Schema) → Bool →
    List Char → Except Fault (List (String × Json) × List Char)
  | 0, _, _, _, _, _, cs => failNext .expectedValue cs
  | _ + 1, _, _, _, [], _, cs => (closeArray cs).map ([], ·)
  | fuel + 1, depth, name, count, (field, required, schema) :: fields, first, cs => do
    match ← beforeItem first cs with
    | .finish r =>
      match ((field, required, schema) :: fields).findIdx? fun (_, required, _) => required with
      | some i =>
        refuse (.tooShort (count - fields.length - 1 + i) (Schema.wantedFields name count)) r
      | none => .ok ([], r)
    | .item r =>
      let (j, r) ← value fuel depth schema r
      let (ms, r) ← fieldItems fuel depth name count fields false r
      return ((field, j) :: ms, r)

end

/-! ### Documents -/

/-- The value of a schema that a text stands for. -/
def readAs (schema : Schema) (text : String) : Except Fault Json := do
  let cs := text.toList
  let (j, r) ← value (2 * cs.length + 2) depthLimit schema cs
  match skipBlanks r with
  | [] => .ok j
  | r => failNext .trailingCharacters r

/-- The value a text stands for. -/
def read (text : String) : Except Fault Json := readAs .anything text

/-- The value of a text, by a decoder. -/
def decodeText {α : Type} (d : Decoder α) (text : String) : Except Fault α := do
  let j ← readAs d.schema text
  match d j with
  | .ok a => .ok a
  | .error cause => refuse cause []

end DeviceGateway.Json
