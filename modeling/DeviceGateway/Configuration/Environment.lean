import DeviceGateway.Configuration.Setting
import DeviceGateway.Table
import DeviceGateway.Text.Alphanumeric
import DeviceGateway.Text.Basic
import DeviceGateway.Text.Lowercase

/-! The environment: the variables that a program is started with, those that a file adds,
and the settings that they give. -/

namespace DeviceGateway

/-- The variables that a program is started with. -/
abbrev Environment := List (String × String)

namespace Environment

def get? (env : Environment) (name : String) : Option String :=
  (env.find? (·.1 = name)).map (·.2)

/-- What the names of variables with settings start with, in any case. -/
def settingPrefix : String := "devsvc__"

/-- The value of a variable: a truth value in any case, an integer of 64 bits, a
floating-point number, or text. -/
def scalar (s : String) : SettingScalar :=
  if Text.lowercase s = "true" then .bool true
  else if Text.lowercase s = "false" then .bool false
  else match integerOfText (-(2 ^ 63)) (2 ^ 63 - 1) s.toList with
    | .ok n => .integer n
    | .error _ =>
      match Binary.ofText .double s.toList with
      | .ok x => .float x
      | .error _ => .text s

/-- The text with a point for every two underscores. -/
def pointed : List Char → List Char
  | '_' :: '_' :: r => '.' :: pointed r
  | c :: r => c :: pointed r
  | [] => []

/-- The path of the setting that a variable gives, if it gives one. -/
def path? (name : String) : Option String :=
  let cs := (Text.lowercase name).toList
  if settingPrefix.toList.isPrefixOf cs then
    some (String.ofList (pointed (cs.drop settingPrefix.length)))
  else none

/-- The settings that variables give, by path. -/
def settings (env : Environment) : List (String × Setting) :=
  let entries := env.filterMap fun (name, value) =>
    (path? name).map fun path => (path, Setting.scalar (some "the environment") (scalar value))
  (Table.ofList entries).entries

/-! ### Files of variables

A line is a comment, or `NAME=VALUE`, with or without the word `export` before it. A value
may stand in quotes, and names other variables after a dollar sign. -/

/-- A value while it is read. Its text and the name in it are reversed. -/
structure ValueDraft where
  text : List Char := []
  /-- The quote that is open. -/
  quote : Option Char := none
  escaped : Bool := false
  /-- True after a blank, which ends the value. -/
  ended : Bool := false
  /-- The name that is being read, and whether in braces. -/
  name : Option (List Char × Bool) := none

/-- The draft with the value of the variable whose name was read. -/
def ValueDraft.substitute (d : ValueDraft) (env : Environment) : ValueDraft :=
  match d.name with
  | none => d
  | some (name, _) =>
    let value := (env.get? (String.ofList name.reverse)).getD ""
    { d with text := value.toList.reverse ++ d.text, name := none }

/-- The draft with one more character of a name. -/
def ValueDraft.nameStep (d : ValueDraft) (env : Environment) (name : List Char) (braces : Bool)
    (c : Char) : ValueDraft :=
  if Text.isAlphanumeric c then { d with name := some (c :: name, braces) }
  else if braces then
    if c = '\x7d' then d.substitute env else { d with name := some (c :: name, true) }
  else if c = '\x7b' ∧ name = [] then { d with name := some ([], true) }
  else
    let d := d.substitute env
    if c = '$' then { d with name := some ([], false) } else { d with text := c :: d.text }

/-- The draft with one more character, if it may stand there. -/
def ValueDraft.step? (d : ValueDraft) (env : Environment) (c : Char) : Option ValueDraft :=
  let plain := { d with text := c :: d.text }
  if d.ended then if c = ' ' ∨ c = '\t' then some d else none
  else if d.escaped then
    if c = 'n' then some { d with text := '\n' :: d.text, escaped := false }
    else if c ∈ ['\\', '\'', '"', '$', ' '] then some { plain with escaped := false }
    else none
  else if d.quote = some '\'' then some (if c = '\'' then { d with quote := none } else plain)
  else match d.name with
    | some (name, braces) => some (d.nameStep env name braces c)
    | none =>
      if c = '$' then some { d with name := some ([], false) }
      else if c = '\\' then some { d with escaped := true }
      else if d.quote = some '"' then some (if c = '"' then { d with quote := none } else plain)
      else if c = '\'' ∨ c = '"' then some { d with quote := some c }
      else if c = ' ' ∨ c = '\t' then some { d with ended := true }
      else some plain

/-- The value that a draft becomes with the rest of a line. -/
def ValueDraft.finish? (d : ValueDraft) (env : Environment) : List Char → Option String
  | [] =>
    if d.quote.isSome ∨ d.name.any (·.2) then none
    else some (String.ofList (d.substitute env).text.reverse)
  | c :: r =>
    if d.ended ∧ c = '#' then finish? d env []
    else (d.step? env c).bind (·.finish? env r)

/-- A name at the start of a text, and what follows after blanks. -/
def name? (cs : List Char) : Option (String × List Char) :=
  match cs with
  | [] => none
  | c :: _ =>
    let inName := fun c : Char => c.isAlphanum || c == '_' || c == '.'
    if c.isAlpha || c == '_' then
      some (String.ofList (cs.takeWhile inName), (cs.dropWhile inName).dropWhile Text.isBlank)
    else none

/-- The name and the value of a line, none of a line without them; fails on any other. -/
def line? (env : Environment) (line : List Char) : Option (Option (String × String)) := do
  let cs := Text.trim line
  if cs.isEmpty || cs.head? == some '#' then return none
  let (name, r) ← name? cs
  let (name, r) ← if name = "export" ∧ r.head? ≠ some '=' then name? r else some (name, r)
  match r with
  | '=' :: r =>
    let r := r.dropWhile Text.isBlank
    if r.head? = some '#' then return some (name, "")
    else return some (name, ← ({} : ValueDraft).finish? env r)
  | _ => none

/-- The environment with the variables of the lines that it does not have, up to the first
line that cannot be read. -/
def withLines : Environment → List (List Char) → Environment
  | env, [] => env
  | env, line :: r =>
    match line? env line with
    | none => env
    | some none => withLines env r
    | some (some (name, value)) =>
      withLines (if (env.get? name).isSome then env else env ++ [(name, value)]) r

/-- The environment with the variables that a file adds. -/
def withFile (env : Environment) (text : String) : Environment :=
  env.withLines (text.toList.splitOn '\n')

end Environment

end DeviceGateway
