import DeviceGateway.Toml.Document

/-! Settings: a tree of values from several sources. A later source is put over the
earlier ones; where both have a table the two are merged. -/

namespace DeviceGateway

inductive SettingScalar where
  | bool (value : Bool)
  | integer (value : Int)
  | float (value : Double)
  | text (value : String)
  deriving DecidableEq

/-- A value, with the source that it came from. A table that sources were merged in has
none. -/
inductive Setting where
  | nothing
  | scalar (source : Option String) (value : SettingScalar)
  | list (source : Option String) (items : List Setting)
  | table (source : Option String) (entries : List (String × Setting))

namespace Setting

def source? : Setting → Option String
  | .nothing => none
  | .scalar source _ | .list source _ | .table source _ => source

/-- A text that no source gave. -/
def ofText (s : String) : Setting := .scalar none (.text s)

/-! ### From documents -/

mutual

/-- The settings of a document; moments become text. -/
def ofToml (source : String) : Toml → Setting
  | .string s => .scalar source (.text s)
  | .integer n => .scalar source (.integer n)
  | .float x => .scalar source (.float x)
  | .bool b => .scalar source (.bool b)
  | .moment m => .scalar source (.text m.text)
  | .array items => .list source (ofTomlItems source items)
  | .table entries => .table source (ofTomlEntries source entries)

def ofTomlItems (source : String) : List Toml → List Setting
  | [] => []
  | t :: r => ofToml source t :: ofTomlItems source r

def ofTomlEntries (source : String) : List (String × Toml) → List (String × Setting)
  | [] => []
  | (k, t) :: r => (k, ofToml source t) :: ofTomlEntries source r

end

/-! ### Merging -/

/-- The entries of a table, none of anything else. -/
def entries : Setting → List (String × Setting)
  | .table _ es => es
  | _ => []

/-- The items of a list, none of anything else. -/
def items : Setting → List Setting
  | .list _ is => is
  | _ => []

def find? (key : String) (s : Setting) : Option Setting :=
  (s.entries.find? (·.1 = key)).map (·.2)

/-- The entry with another value in its place, or the entry at the end. -/
def setEntry (key : String) (v : Setting) : List (String × Setting) → List (String × Setting)
  | [] => [(key, v)]
  | (k, v') :: r => if k = key then (k, v) :: r else (k, v') :: setEntry key v r

/-- A table with one entry set. What is no table is given up for one. -/
def set (s : Setting) (key : String) (v : Setting) : Setting :=
  match s with
  | .table source es => .table source (setEntry key v es)
  | _ => .table none [(key, v)]

mutual

/-- `v` put under a key: a table is merged into what is there, anything else takes its
place. -/
def put (s : Setting) (key : String) (v : Setting) : Setting :=
  match v with
  | .table _ es => s.set key (putAll ((s.find? key).getD (.table none [])) es)
  | v => s.set key v

def putAll (s : Setting) (es : List (String × Setting)) : Setting :=
  match es with
  | [] => s
  | (k, v) :: r => putAll (put s k v) r

end

/-! ### Paths -/

/-- A step to a part of a setting. A negative index counts from the end. -/
inductive Step where
  | entry (key : String)
  | item (index : Int)
  deriving DecidableEq, Repr

/-- The place of an index in a list, which may lie beyond its end. -/
def place (index : Int) (length : Nat) : Nat :=
  if index < 0 then length - index.natAbs else index.toNat

/-- The list with the item at a place changed, filled up with nothing as far as needed. -/
def changeItem (i : Nat) (f : Setting → Setting) (is : List Setting) : List Setting :=
  let filled := is ++ List.replicate (i + 1 - is.length) .nothing
  filled.modify i f

/-- `v` put at the end of a path, with the tables and lists that lead there. -/
def assign (s : Setting) (path : List Step) (v : Setting) : Setting :=
  match path with
  | [] => v
  | [.entry k] => s.put k v
  | .entry k :: r => s.set k (assign ((s.find? k).getD .nothing) r v)
  | .item i :: r =>
    let source := match s with
      | .list source _ => source
      | _ => none
    .list source (changeItem (place i s.items.length) (assign · r v) s.items)

/-! ### Paths in text -/

/-- True of the characters of a key in a path. -/
def isKeyCharacter (c : Char) : Bool := c.isAlphanum || c == ' ' || c == '_' || c == '-'

/-- The index that a text is, blanks around it aside. -/
def index? (cs : List Char) : Option Int :=
  let trimmed := (cs.dropWhile Toml.isBlank).reverse.dropWhile Toml.isBlank |>.reverse
  match trimmed with
  | '+' :: _ => none
  | cs => (integerOfText (-(2 ^ 63)) (2 ^ 63 - 1) cs).toOption

/-- The steps after the first: `.key` or `[index]`. -/
def furtherSteps? : Nat → List Char → Option (List Step)
  | _, [] => some []
  | 0, _ => none
  | fuel + 1, '.' :: r =>
    let key := r.takeWhile isKeyCharacter
    if key.isEmpty then none
    else (furtherSteps? fuel (r.dropWhile isKeyCharacter)).map (.entry (String.ofList key) :: ·)
  | fuel + 1, '[' :: r =>
    match index? (r.takeWhile (· != ']')), r.dropWhile (· != ']') with
    | some i, ']' :: r => (furtherSteps? fuel r).map (.item i :: ·)
    | _, _ => none
  | _ + 1, _ => none

/-- The steps that a text describes. A text that describes none is a key itself. -/
def steps (path : String) : List Step :=
  let cs := path.toList
  let key := cs.takeWhile isKeyCharacter
  let further := furtherSteps? cs.length (cs.dropWhile isKeyCharacter)
  match key, further with
  | _ :: _, some further => .entry (String.ofList key) :: further
  | _, _ => [.entry path]

/-- The settings with those of a source put over them, each at the path that its key
describes. -/
def overlay (s : Setting) (es : List (String × Setting)) : Setting :=
  es.foldl (fun s (k, v) => s.assign (steps k) v) s

end Setting

end DeviceGateway
