import DeviceGateway.Json.Basic
import DeviceGateway.Decimal.Text

/-! JSON text, in one line or indented by two blanks. Members are written in the
order they have. -/

namespace DeviceGateway.Json

/-! ### Scalars -/

/-- A number with a point or an exponent: positional from `10 ^ -5` up to but not
including `10 ^ 16`, with `.0` when it is integral, else with an exponent. -/
def floatText (x : Double) : List Char :=
  if x.isNaN || x.isInfinite then "null".toList
  else if x.isZero then x.sign ++ "0.0".toList
  else
    let (ds, point) := (x.shortest .even).significant
    let body :=
      if 16 < point || point ≤ -5 then
        let exponent := point - 1
        let mark := if exponent < 0 then "e-".toList else "e+".toList
        let fraction := if ds.tail.isEmpty then [] else '.' :: ds.tail
        ds.take 1 ++ fraction ++ mark ++ digits exponent.natAbs
      else if point ≤ 0 then
        "0.".toList ++ List.replicate point.natAbs '0' ++ ds
      else if ds.length ≤ point.toNat then
        ds ++ List.replicate (point.toNat - ds.length) '0' ++ ".0".toList
      else ds.take point.toNat ++ '.' :: ds.drop point.toNat
    x.sign ++ body

/-- A character inside a JSON string. -/
def escape (c : Char) : List Char :=
  if c = '"' then ['\\', '"']
  else if c = '\\' then ['\\', '\\']
  else if c = '\n' then ['\\', 'n']
  else if c = '\r' then ['\\', 'r']
  else if c = '\t' then ['\\', 't']
  else if c.toNat = 8 then ['\\', 'b']
  else if c.toNat = 12 then ['\\', 'f']
  else if c.toNat < 0x20 then
    let ds := Nat.toDigits 16 c.toNat
    ['\\', 'u'] ++ List.replicate (4 - ds.length) '0' ++ ds
  else [c]

def stringText (s : String) : List Char :=
  '"' :: s.toList.flatMap escape ++ ['"']

/-! ### One line -/

mutual

def compact : Json → List Char
  | .null => "null".toList
  | .bool true => "true".toList
  | .bool false => "false".toList
  | .integer n => integerText n
  | .float x => floatText x
  | .string s => stringText s
  | .array items => '[' :: compactItems items ++ [']']
  | .object members => '\x7b' :: compactMembers members ++ ['\x7d']

def compactItems : List Json → List Char
  | [] => []
  | [j] => compact j
  | j :: r => compact j ++ ',' :: compactItems r

def compactMembers : List (String × Json) → List Char
  | [] => []
  | [(k, j)] => stringText k ++ ':' :: compact j
  | (k, j) :: r => stringText k ++ ':' :: compact j ++ ',' :: compactMembers r

end

/-! ### Indented -/

/-- A new line indented to the depth. -/
def newline (depth : Nat) : List Char := '\n' :: List.replicate (2 * depth) ' '

mutual

def indented (depth : Nat) : Json → List Char
  | .array (j :: r) =>
    '[' :: indentedItems (depth + 1) (j :: r) ++ newline depth ++ [']']
  | .object (m :: r) =>
    '\x7b' :: indentedMembers (depth + 1) (m :: r) ++ newline depth ++ ['\x7d']
  | j => compact j

def indentedItems (depth : Nat) : List Json → List Char
  | [] => []
  | [j] => newline depth ++ indented depth j
  | j :: r => newline depth ++ indented depth j ++ ',' :: indentedItems depth r

def indentedMembers (depth : Nat) : List (String × Json) → List Char
  | [] => []
  | [(k, j)] => newline depth ++ stringText k ++ ": ".toList ++ indented depth j
  | (k, j) :: r =>
    newline depth ++ stringText k ++ ": ".toList ++ indented depth j ++
      ',' :: indentedMembers depth r

end

def toCompact (j : Json) : String := String.ofList j.compact

def toIndented (j : Json) : String := String.ofList (j.indented 0)

end DeviceGateway.Json
