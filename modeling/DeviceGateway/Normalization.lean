import DeviceGateway.Metadata.Source
import DeviceGateway.Value.Transform

/-! Normalisation: how the values of a driver become readings. Every value is treated on
its own, and one that fails is dropped. A failed assertion also disables the device, in
the registry and the source of metadata. -/

namespace DeviceGateway

/-- A value as callers see it: transformed if `transform` is set, checked, mapped. -/
def Request.normalize (r : Request) (transform : Bool) (v : TypedValue) :
    Except GatewayError TypedValue := do
  let v ← if transform then r.object.spec.inbound v else .ok v
  r.object.spec.check v
  r.operation.mapValue v

/-- The request that each value answers: the one in its place if there are as many
values as requests, else the first one for the object that the value names. -/
def pairing (requests : List Request) (values : List TypedValue) :
    List (Option Request × TypedValue) :=
  if values.length = requests.length then (requests.map some).zip values
  else values.map fun v => (requests.find? (·.object.name = v.resource), v)

/-- What became of some values. -/
structure Outcome where
  readings : List Reading := []
  /-- False when a value was dropped. -/
  complete : Bool := true
  /-- How many values failed their assertion. -/
  failedAssertions : Nat := 0
  deriving DecidableEq, Inhabited

namespace Outcome

def append (a b : Outcome) : Outcome where
  readings := a.readings ++ b.readings
  complete := a.complete && b.complete
  failedAssertions := a.failedAssertions + b.failedAssertions

def isAssertionFailure : GatewayError → Bool
  | .assertionFailed .. => true
  | _ => false

/-- What becomes of one value and the request that it answers. A value without a time of
its own is read at `now`. -/
def ofValue (transform : Bool) (now : Int64) (device : String) :
    Option Request × TypedValue → Outcome
  | (none, _) => { complete := false }
  | (some r, v) =>
    match r.normalize transform v with
    | .ok w => { readings := [w.toReading now device r.object.name] }
    | .error e => { complete := false, failedAssertions := if isAssertionFailure e then 1 else 0 }

def ofPairs (transform : Bool) (now : Int64) (device : String)
    (pairs : List (Option Request × TypedValue)) : Outcome :=
  (pairs.map (ofValue transform now device)).foldr append {}

/-- What becomes of the values that a driver gave for the requests. -/
def ofValues (transform : Bool) (now : Int64) (device : String) (requests : List Request)
    (values : List TypedValue) : Outcome :=
  ofPairs transform now device (pairing requests values)

/-- The registry after the outcome for the device. -/
def settle (o : Outcome) (device : String) (r : Registry) : Registry :=
  if o.failedAssertions = 0 then r else r.disable device

end Outcome

end DeviceGateway
