import DeviceGateway.Binary.Arithmetic
import DeviceGateway.Table

/-! JSON values. Integers that fit 64 bits, signed or unsigned, are kept apart from
all other numbers, which are doubles. -/

namespace DeviceGateway

inductive Json where
  | null
  | bool (value : Bool)
  | integer (value : Int)
  | float (value : Double)
  | string (value : String)
  | array (items : List Json)
  | object (members : List (String × Json))
  deriving Inhabited

namespace Json

mutual

/-- Whether two values are the same, objects also in the order of their members. -/
def same : Json → Json → Bool
  | .null, .null => true
  | .bool a, .bool b => a = b
  | .integer m, .integer n => m = n
  | .float x, .float y => x = y
  | .string s, .string t => s = t
  | .array is, .array js => sameItems is js
  | .object ms, .object ns => sameMembers ms ns
  | _, _ => false

def sameItems : List Json → List Json → Bool
  | [], [] => true
  | i :: is, j :: js => same i j && sameItems is js
  | _, _ => false

def sameMembers : List (String × Json) → List (String × Json) → Bool
  | [], [] => true
  | (k, i) :: ms, (l, j) :: ns => decide (k = l) && same i j && sameMembers ms ns
  | _, _ => false

end

mutual

theorem same_iff : ∀ i j : Json, same i j = true ↔ i = j
  | .null, j => by cases j <;> simp [same]
  | .bool a, j => by cases j <;> simp [same]
  | .integer n, j => by cases j <;> simp [same]
  | .float x, j => by cases j <;> simp [same]
  | .string s, j => by cases j <;> simp [same]
  | .array is, j => by cases j <;> simp [same, sameItems_iff is]
  | .object ms, j => by cases j <;> simp [same, sameMembers_iff ms]

theorem sameItems_iff : ∀ is js : List Json, sameItems is js = true ↔ is = js
  | [], js => by cases js <;> simp [sameItems]
  | i :: is, js => by cases js <;> simp [sameItems, same_iff i, sameItems_iff is]

theorem sameMembers_iff : ∀ ms ns : List (String × Json), sameMembers ms ns = true ↔ ms = ns
  | [], ns => by cases ns <;> simp [sameMembers]
  | (k, i) :: ms, ns => by
    cases ns <;> simp [sameMembers, Prod.ext_iff, same_iff i, sameMembers_iff ms]

end

instance : DecidableEq Json := fun i j => decidable_of_iff _ (same_iff i j)

mutual

/-- Every object with its members in ascending key order, of equal keys the last. -/
def canonical : Json → Json
  | .array items => .array (canonicalItems items)
  | .object members => .object (canonicalMembers members)
  | j => j

def canonicalItems : List Json → List Json
  | [] => []
  | j :: r => canonical j :: canonicalItems r

def canonicalMembers : List (String × Json) → List (String × Json)
  | [] => []
  | (k, j) :: r =>
    let rest := canonicalMembers r
    if rest.any (·.1 = k) then rest else Table.insertEntry k (canonical j) rest

end

/-- The value of the last member with the key. -/
def member? (key : String) : Json → Option Json
  | .object members => (members.reverse.find? (·.1 = key)).map (·.2)
  | _ => none

end Json

end DeviceGateway
