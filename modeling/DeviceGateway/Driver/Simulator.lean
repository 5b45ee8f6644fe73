import DeviceGateway.Binary.Elementary
import DeviceGateway.Driver.Basic
import DeviceGateway.Json.Printer

/-! The simulator: a driver without devices. It remembers what was written, makes up
what was not from the attributes of the objects, and pushes the objects that it
watches. -/

namespace DeviceGateway

structure Simulator where
  /-- Milliseconds between two pushes; without pushes if zero. -/
  interval : Nat := 0
  /-- The last value written, by addressable and object. -/
  writes : Table (Table TypedValue) := ∅
  /-- The objects pushed, each with its device. -/
  watches : List (String × DeviceObject) := []
  stopped : Bool := false
  /-- The wave between -1 and 1 that values in a range follow, by the time of the wall clock.
  One that has just begun is above zero. -/
  wave : Int64 → Double := fun _ => Binary.ofParts false 1

/-- A JSON number as a double. -/
def Json.double? : Json → Option Double
  | .integer n => some (Binary.ofInt n)
  | .float x => some x
  | _ => none

namespace Simulator

/-! ### Waves -/

/-- The seconds from `started` to `now`. -/
def secondsSince (started now : Int64) : Double :=
  let ms := (now.toInt - started.toInt).toNat
  let whole : Double := Binary.ofInt (ms / 1000 : Nat)
  whole.add ((Binary.ofInt (ms % 1000 * 1000000 : Nat)).div (Binary.ofInt 1000000000))

/-- The sine wave that began at `started`, with a period of ten seconds. -/
def sineWave (started now : Int64) : Double :=
  let tenth : Double := BitVec.ofNat _ 0x3fb999999999999a
  let pi : Double := BitVec.ofNat _ 0x400921fb54442d18
  Binary.machine Float.sin ((((secondsSince started now).mul tenth).mul (Binary.ofInt 2)).mul pi)

/-! ### Values from attributes -/

/-- The ends of the range that the attributes give, if they do. -/
def range? (attributes : Table Json) : Option (Double × Double) := do
  let low ← (← attributes.get? "min").double?
  let high ← (← attributes.get? "max").double?
  return (low, high)

/-- The number in a range at a height of the wave: the middle of the range at zero. -/
def inRange (low high height : Double) : Double :=
  let half := (high.sub low).div (Binary.ofInt 2)
  (low.add half).add (half.mul height)

/-- The text of a number in a range: a whole number of 64 bits for the integer kinds, two
places for the others. -/
def rangeText (kind : ValueKind) (x : Double) : String :=
  if kind.isInteger then
    let n := if x.isNaN then 0 else x.nearestInteger
    String.ofList (integerText (max (leastInteger true 8) (min n (greatestInteger true 8))))
  else String.ofList x.twoPlaces

/-- The text that stands for nothing in a kind. -/
def zeroText : ValueKind → String
  | .bool => "false"
  | .string => ""
  | _ => "0"

/-- The text of an object that was not written, at a height of the wave: its attribute `value`,
else for a number one in its range, else the zero of its kind. -/
def attributeText (o : DeviceObject) (height : Double) : String :=
  match o.attributes.get? "value" with
  | some (.string s) => s
  | some j => j.canonical.toCompact
  | none =>
    match range? o.attributes with
    | some (low, high) =>
      if o.kind.isNumeric then rangeText o.kind (inRange low high height) else zeroText o.kind
    | none => zeroText o.kind

/-! ### Reading and writing -/

variable (s : Simulator)

def written? (device object : String) : Option TypedValue :=
  (s.writes.get? device).bind (·.get? object)

/-- The text of an object at `now`: that of the last value written, if there is one. -/
def objectText (now : Int64) (device : String) (o : DeviceObject) : String :=
  match s.written? device o.name with
  | some v => v.text
  | none => attributeText o (s.wave now)

/-- The value of an object at `now`. -/
def generate (now : Int64) (device : String) (o : DeviceObject) :
    Except GatewayError TypedValue :=
  (TypedValue.parse o.kind o.name now (s.objectText now device o)).mapError fun e =>
    .driver ("simulated " ++ o.name ++ " on " ++ device ++ ": " ++ e.message)

/-- The values of the requests in order; fails at the first that has none. -/
def readAll (now : Int64) (device : String) : List Request → Except GatewayError (List TypedValue)
  | [] => .ok []
  | r :: rs => do
    let v ← s.generate now device r.object
    let vs ← readAll now device rs
    return v :: vs

def remember (device object : String) (v : TypedValue) : Simulator :=
  let known := (s.writes.get? device).getD ∅
  { s with writes := s.writes.insert device (known.insert object v) }

def writeAll (device : String) (pairs : List (Request × TypedValue)) : Simulator :=
  pairs.foldl (fun s (r, v) => s.remember device r.object.name v) s

def watch (device : String) (o : DeviceObject) : Simulator :=
  { s with watches := s.watches ++ [(device, o)] }

/-- Drops all that is known under the name. -/
def forget (device : String) : Simulator :=
  { s with
    writes := s.writes.erase device
    watches := s.watches.filter (·.1 ≠ device) }

/-! ### Pushing -/

/-- The values of the watched objects by device; those that fail are left out. -/
def pushes (now : Int64) : List Batch :=
  let values := s.watches.foldl (fun t (device, o) =>
    match s.generate now device o with
    | .ok v => Table.insert t device ((t.get? device).getD [] ++ [v])
    | .error _ => t) (∅ : Table (List TypedValue))
  values.entries.map fun (device, vs) => ⟨device, vs⟩

instance : Driver Simulator where
  start s := (.ok (), s)
  read s now a requests := (⟨0, s.readAll now a.name requests⟩, s)
  write s a requests values :=
    if requests.length = values.length then
      (⟨0, .ok ()⟩, s.writeAll a.name (requests.zip values))
    else
      (⟨0, .error (.driver (toString requests.length ++ " requests but " ++
        toString values.length ++ " parameters"))⟩, s)
  stop s _ := (.ok (), { s with stopped := true })
  disconnect s a := (.ok (), s.forget a.name)
  period? s := if s.interval = 0 ∨ s.stopped then none else some s.interval
  push s now := s.pushes now

/-- Watches every object of the devices whose attribute `async` is true, by the profile
of each device; also gives how many there are. -/
def watchAll (devices : List Device) (profiles : List Profile) : Simulator × Nat :=
  let objects := devices.flatMap fun d =>
    match profiles.find? (·.name = d.profile) with
    | none => []
    | some p =>
      (p.objects.filter fun o => o.attributes.get? "async" == some (.bool true)).map (d.name, ·)
  (objects.foldl (fun s (device, o) => s.watch device o) s, objects.length)

end Simulator

end DeviceGateway
