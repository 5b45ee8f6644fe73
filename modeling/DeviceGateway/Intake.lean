import DeviceGateway.Normalization

/-! Unsolicited values. A driver hands them over in batches, and each batch becomes at
most one event. A value is read through the operation with which the profile of the
device reads its object, so that mappings apply as they do for commands. -/

namespace DeviceGateway

/-- Values that a driver pushed without being asked. -/
structure Batch where
  device : String
  values : List TypedValue
  deriving DecidableEq, Inhabited

namespace Batch

/-- The request that a value of the profile answers, if its object is known. -/
def request? (r : Registry) (profile : String) (v : TypedValue) : Option Request :=
  match r.object profile v.resource with
  | .error _ => none
  | .ok o =>
    let operation := (r.readOperation? profile o.name).getD (.ofNames "get" o.name)
    some ⟨operation, o⟩

/-- The values whose objects are known, each with its request. -/
def answered (r : Registry) (profile : String) (vs : List TypedValue) :
    List (Request × TypedValue) :=
  vs.filterMap fun v => (request? r profile v).map (·, v)

/-- What becomes of the batch; none when its device is unknown. -/
def outcome? (b : Batch) (transform : Bool) (now : Int64) (r : Registry) : Option Outcome :=
  match r.deviceByName b.device with
  | .error _ => none
  | .ok d =>
    let pairs := answered r d.profile b.values
    some (.ofValues transform now d.name (pairs.map (·.1)) (pairs.map (·.2)))

/-- The event of the batch; none when no value survives. -/
def event? (b : Batch) (transform : Bool) (now : Int64) (r : Registry) : Option Event :=
  match b.outcome? transform now r with
  | none => none
  | some o => if o.readings.isEmpty then none else some ⟨b.device, now, o.readings⟩

end Batch

end DeviceGateway
