import DeviceGateway.Toml.Reader

/-! TOML documents: the sections of a text put together into one table. A header may come
before or after those of the tables inside it, but no table is defined twice. -/

namespace DeviceGateway

inductive Toml where
  | string (value : String)
  | integer (value : Int)
  | float (value : Double)
  | bool (value : Bool)
  | moment (value : Toml.Moment)
  | array (items : List Toml)
  | table (entries : List (String × Toml))

namespace Toml

/-! ### Values within a section -/

def scalarValue (start : List Char) : Scalar → Except Fault Toml
  | .string s => .ok (.string s)
  | .integer n => .ok (.integer n)
  | .float x => .ok (.float x)
  | .bool b => .ok (.bool b)
  | .moment text =>
    match Moment.ofText? text with
    | some m => .ok (.moment m)
    | none => .error (fault .invalidMoment start)

/-- The key that makes a table a moment. Where it comes first, its value is the text of
the moment, and the rest of the table does not count. -/
def momentKey : String := "$__toml_private_datetime"

/-- The moment whose text a value is. -/
def nodeMoment : Node → Except Fault Toml
  | .scalar start (.string s) => scalarValue start (.moment s.toList)
  | .scalar start (.integer n) =>
    .error (fault (.noMoment ("integer `" ++ String.ofList (integerText n) ++ "`")) start)
  | .scalar start (.float x) =>
    .error (fault (.noMoment ("floating point `" ++ String.ofList x.pointedText ++ "`")) start)
  | .scalar start (.bool b) => .error (fault (.noMoment ("boolean `" ++ toString b ++ "`")) start)
  | .scalar start (.moment _) | .table start _ _ => .error (fault (.noMoment "map") start)
  | .array start _ => .error (fault (.noMoment "sequence") start)

mutual

def nodeValue : Node → Except Fault Toml
  | .scalar start v => scalarValue start v
  | .array _ items => (itemValues items).map .array
  | .table _ _ [] => .ok (.table [])
  | .table start _ ((k, n) :: r) =>
    if k = momentKey then nodeMoment n
    else do
      let v ← nodeValue n
      return .table ((k, v) :: (← entryValues start [k] r))

def itemValues : List Node → Except Fault (List Toml)
  | [] => .ok []
  | n :: r => do
    let v ← nodeValue n
    return v :: (← itemValues r)

/-- The entries of a table that starts at `start`, after those with the keys `seen`. -/
def entryValues (start : List Char) (seen : List String) :
    List (String × Node) → Except Fault (List (String × Toml))
  | [] => .ok []
  | (k, n) :: r => do
    if k ∈ seen then throw (fault (.duplicateKey k) start)
    let v ← nodeValue n
    return (k, v) :: (← entryValues start (k :: seen) r)

end

/-! ### Sections -/

/-- Puts sections together, and keeps the indices of those whose entries were taken. -/
abbrev Assembler := StateT (List Nat) (Except Fault)

namespace Assembler

variable (all : List Section)

def header (i : Nat) : List String := (all[i]?.map (·.header)).getD []

def isItem (i : Nat) : Bool := (all[i]?.map (·.isItem)).getD false

def start (i : Nat) : List Char := (all[i]?.map (·.start)).getD []

/-- The entries of a section, which cannot be taken again. -/
def takeEntries (i : Nat) : Assembler (List (String × Node)) := do
  modify (i :: ·)
  return (all[i]?.map (·.entries)).getD []

/-- The first section not taken, from `low` up to but not including `limit`, whose
header starts with `stem`. -/
def next? (stem : List String) (low limit : Nat) : Assembler (Option Nat) := do
  let taken ← get
  return (List.range limit).find? fun i =>
    decide (low ≤ i) && !taken.contains i && stem.isPrefixOf (header all i)

/-- The first section after `i` and before `limit` for a further item under the header of
`i`, or `limit`. -/
def nextItem (i limit : Nat) : Nat :=
  ((List.range limit).find? fun j =>
    decide (i < j) && isItem all j && header all i == header all j).getD limit

/-- Adds the key to the faults of what is under it. -/
def below {α : Type} (key : String) (a : Assembler α) : Assembler α := fun s =>
  (a s).mapError fun f => { f with keys := key :: f.keys }

mutual

/-- The table at `depth` that the section `parent` belongs to, whose entries `done` are
known: first its `own` entries follow, those of a section that was taken, then what the
sections from `low` up to but not including `limit` add. -/
def members : Nat → Nat → Nat → Nat → Nat → List (String × Node) → List (String × Toml) →
    Assembler Toml
  | 0, _, _, _, _, _, done => pure (.table done)
  | fuel + 1, depth, parent, limit, low, own, done => do
    let unused := fun k : String =>
      if done.any (·.1 = k) then throw ⟨.duplicateKey k, none, []⟩ else pure ()
    if parent = limit ∨ low = limit then return .table done
    match own with
    | (k, n) :: own =>
      if k = momentKey ∧ done.isEmpty then below k (nodeMoment n)
      else
        unused k
        let v ← below k (nodeValue n)
        members fuel depth parent limit low own (done ++ [(k, v)])
    | [] =>
      match ← next? all ((header all parent).take depth) low limit with
      | none => return .table done
      | some i =>
        let keys := header all i
        if parent ≠ i ∧ header all parent = keys then
          throw (fault (.duplicateTable (String.intercalate "." keys)) (start all i))
        let parent := if keys.length < (header all parent).length then i else parent
        match keys[depth]? with
        | some k =>
          unused k
          let isArray := isItem all i && depth + 1 = keys.length
          if k = momentKey ∧ done.isEmpty then
            below k (throw ⟨.noMoment (if isArray then "sequence" else "map"), none, []⟩)
          let v ← below k (
            if isArray then (items fuel depth i limit).map .array
            else members fuel (depth + 1) i limit 0 [] [])
          members fuel depth parent limit (i + 1) [] (done ++ [(k, v)])
        | none =>
          if isItem all i then throw (fault .redefinedAsArray (start all i))
          members fuel depth parent limit i (← takeEntries all i) done

/-- The items of an array of tables: one for each header of it, the first that of the
section `i`. -/
def items : Nat → Nat → Nat → Nat → Assembler (List Toml)
  | 0, _, _, _ => pure []
  | fuel + 1, depth, i, limit => do
    if i = limit then return []
    let following := nextItem all i limit
    let table ← members fuel (depth + 1) i following 0 (← takeEntries all i) []
    return table :: (← items fuel depth following limit)

end

/-- The steps that suffice: below each part of the longest header, one for each entry
and two for each section. -/
def fuel : Nat :=
  let depth := (all.map (·.header.length)).foldl max 0
  let steps := (all.flatMap (·.entries)).length + 2 * all.length + 4
  (depth + 2) * steps

end Assembler

/-- What sections make. A fault without a place is put at the last section. -/
def assemble (all : List Section) : Except Fault Toml :=
  ((Assembler.members all (Assembler.fuel all) 0 0 all.length 0 [] []).run []).map (·.1)
    |>.mapError fun f => { f with place := f.place <|> all.getLast?.map (·.start) }

/-- The entries of a table, none of anything else. -/
def entries : Toml → List (String × Toml)
  | .table es => es
  | _ => []

/-- What a text stands for, or what is wrong with it. A mark of the byte order at its start
is passed over. -/
def read (text : String) : Except String Toml :=
  let cs := unifyLines text.toList
  let body := if cs.head? = some '\ufeff' then cs.tail else cs
  (readSections body >>= assemble).mapError (·.message cs)

end Toml

end DeviceGateway
