import DeviceGateway.Json.Schema

/-! Decoding JSON values into typed records. A decoder knows the schema of what it
takes. Members of an object are visited in the order they have, and missing fields are
reported after them, in the order of declaration. -/

namespace DeviceGateway.Json

/-- A decoder of values of type `α`. -/
structure Decoder (α : Type) where
  schema : Schema
  run : Json → Except DecodeCause α

instance {α : Type} : CoeFun (Decoder α) fun _ => Json → Except DecodeCause α := ⟨Decoder.run⟩

namespace Decoder

variable {α β : Type}

def map (g : α → β) (d : Decoder α) : Decoder β := ⟨d.schema, fun j => (d j).map g⟩

/-! ### Scalars and containers -/

/-- A value of the schema, as `pick` takes it. -/
def scalar (schema : Schema) (pick : Json → Option α) : Decoder α :=
  ⟨schema, fun j =>
    match schema.scalarFault? j, pick j with
    | none, some a => .ok a
    | some cause, _ => .error cause
    | none, none => .error (.invalidType j schema.wanted)⟩

end Decoder

/-- Any value, as it is. -/
def anything : Decoder Json := ⟨.anything, .ok⟩

def text : Decoder String := .scalar .text fun
  | .string s => some s
  | _ => none

/-- An integer between `low` and `high`, called `name`. -/
def integerIn (low high : Int) (name : String) : Decoder Int :=
  .scalar (.integer low high name) fun
    | .integer n => some n
    | _ => none

def port : Decoder UInt16 := (integerIn 0 65535 "u16").map fun n => UInt16.ofNat n.toNat

def epoch : Decoder Int64 := (integerIn (-(2 ^ 63)) (2 ^ 63 - 1) "i64").map Int64.ofInt

section Containers

variable {α : Type}

def list (d : Decoder α) : Decoder (List α) := ⟨.list d.schema, fun
  | .array items => items.mapM d.run
  | j => .error (.invalidType j (Schema.list d.schema).wanted)⟩

def table (d : Decoder α) : Decoder (Table α) := ⟨.table d.schema, fun
  | .object members =>
    members.foldlM (fun t (k, j) => (d j).map fun a => t.insert k a) Table.empty
  | j => .error (.invalidType j (Schema.table d.schema).wanted)⟩

/-- What a name stands for. -/
def named (names : List (String × α)) (s : String) : Except DecodeCause α :=
  match names.find? (·.1 = s) with
  | some (_, a) => .ok a
  | none => .error (.unknownVariant s (names.map (·.1)))

/-- One of a list of names, alone or as the only key of an object, over a null. -/
def variant (names : List (String × α)) : Decoder α :=
  let schema := Schema.variant (names.map (·.1))
  ⟨schema, fun
    | .string s => named names s
    | .object [(k, v)] => do
      let a ← named names k
      match Schema.unit.scalarFault? v with
      | none => .ok a
      | some cause => .error cause
    | .object ms => .error (.invalidValue (.object ms) "map with a single key")
    | j => .error (.invalidType j schema.wanted)⟩

end Containers

/-! ### Records -/

/-- A field of a record: its name and schema, a check of its value, and whether it must
be present. -/
structure FieldRule where
  name : String
  schema : Schema
  check : Json → Except DecodeCause Unit
  required : Bool

/-- The rules of a record's fields, and the record from the values of the fields
present. -/
structure Shape (α : Type) where
  fields : List FieldRule
  build : (String → Option Json) → Except DecodeCause α

namespace Shape

variable {α β : Type}

def pure (a : α) : Shape α := ⟨[], fun _ => .ok a⟩

/-- A field that must be present. -/
def required (name : String) (d : Decoder α) : Shape α :=
  ⟨[⟨name, d.schema, fun j => (d j).map fun _ => (), true⟩], fun get =>
    match get name with
    | some j => d j
    | none => .error (.missingField name)⟩

/-- A field that has a default. -/
def optional (name : String) (default : α) (d : Decoder α) : Shape α :=
  ⟨[⟨name, d.schema, fun j => (d j).map fun _ => (), false⟩], fun get =>
    match get name with
    | some j => d j
    | none => .ok default⟩

def and (s : Shape (α → β)) (t : Shape α) : Shape β :=
  ⟨s.fields ++ t.fields, fun get => do
    let g ← s.build get
    let a ← t.build get
    return g a⟩

def map (g : α → β) (s : Shape α) : Shape β :=
  ⟨s.fields, fun get => (s.build get).map g⟩

/-- The members of an object checked in order; names that are no field are passed
over. -/
def visit (fields : List FieldRule) :
    List String → List (String × Json) → Except DecodeCause Unit
  | _, [] => .ok ()
  | seen, (k, j) :: r =>
    match fields.find? (·.name = k) with
    | none => visit fields seen r
    | some field =>
      if k ∈ seen then .error (.duplicateField k)
      else do
        field.check j
        visit fields (k :: seen) r

/-- The items of an array checked against the fields in order. -/
def visitItems (wanted : String) :
    Nat → List FieldRule → List Json → Except DecodeCause Unit
  | _, [], [] => .ok ()
  | i, [], _ :: r => .error (.tooLong (i + r.length + 1))
  | i, field :: fields, [] =>
    if field.required then .error (.tooShort i wanted)
    else visitItems wanted (i + 1) fields []
  | i, field :: fields, j :: r => do
    field.check j
    visitItems wanted (i + 1) fields r

def schema (name : String) (s : Shape α) : Schema :=
  .record name (s.fields.map fun f => (f.name, f.required, f.schema))

/-- The record called `name`, from an object or from an array of its fields. -/
def decode (name : String) (s : Shape α) : Decoder α := ⟨s.schema name, fun
  | .object members => do
    visit s.fields [] members
    s.build fun k => (members.find? (·.1 = k)).map (·.2)
  | .array items => do
    visitItems (Schema.wantedFields name s.fields.length) 0 s.fields items
    s.build fun k => ((s.fields.map (·.name)).zip items |>.find? (·.1 = k)).map (·.2)
  | j => .error (.invalidType j (s.schema name).wanted)⟩

end Shape

end DeviceGateway.Json
