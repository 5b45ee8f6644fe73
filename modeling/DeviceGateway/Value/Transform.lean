import DeviceGateway.Binary.Elementary
import DeviceGateway.Profile.Basic
import DeviceGateway.Value.Numeric

/-! Transforms between the value that a device holds and the one that callers see.
Inbound a value becomes `base ^ v * scale + offset`; outbound the steps are undone
in reverse. Unset steps are skipped, and with none set the value is not even read
as a number. -/

namespace DeviceGateway

namespace ValueSpec

/-- A parameter of a transform, read as a double. -/
def parameter (name raw : String) : Except GatewayError Double :=
  match Binary.ofText .double (Text.trim raw.toList) with
  | .ok x => .ok x
  | .error e =>
    .error (.transformParse
      ("invalid " ++ name ++ " parameter " ++ Text.quote raw ++ ": " ++ e.message))

/-- A step with its parameter, or `x` unchanged when the parameter is not set. -/
def step (name raw : String) (x : Double) (f : Double → Except GatewayError Double) :
    Except GatewayError Double :=
  if raw = "" then .ok x
  else do
    let p ← parameter name raw
    f p

/-- The inbound steps: power, scale, offset. -/
def inboundNumber (s : ValueSpec) (x : Double) : Except GatewayError Double := do
  let x ← step "base" s.base x fun p => .ok (p.pow x)
  let x ← step "scale" s.scale x fun p => .ok (x.mul p)
  step "offset" s.offset x fun p => .ok (x.add p)

/-- The outbound steps: offset, scale, logarithm. A zero scale cannot be undone, nor
can a base without a logarithm. -/
def outboundNumber (s : ValueSpec) (resource : String) (x : Double) :
    Except GatewayError Double := do
  let x ← step "offset" s.offset x fun p => .ok (x.sub p)
  let x ← step "scale" s.scale x fun p =>
    if p.isZero then
      .error (.invalidParameter ("scale of " ++ resource ++ " is zero, cannot invert"))
    else .ok (x.div p)
  step "base" s.base x fun p =>
    if p.le (Binary.zero false) || p.eq (Binary.ofInt 1) then
      .error (.invalidParameter
        ("base " ++ String.ofList p.text ++ " of " ++ resource ++ " has no logarithm"))
    else .ok (x.logBase p)

/-- A value from a device, as callers see it. -/
def inbound (s : ValueSpec) (v : TypedValue) : Except GatewayError TypedValue :=
  if s.hasTransform then do
    let x ← v.toDouble
    let y ← s.inboundNumber x
    v.replace y
  else .ok v

/-- A value from a caller, as the device takes it. -/
def outbound (s : ValueSpec) (v : TypedValue) : Except GatewayError TypedValue :=
  if s.hasTransform then do
    let x ← v.toDouble
    let y ← s.outboundNumber v.resource x
    v.replace y
  else .ok v

/-- Fails when an assertion is set and the text of the value is another. -/
def check (s : ValueSpec) (v : TypedValue) : Except GatewayError Unit :=
  if s.assertion = "" ∨ v.text = s.assertion then .ok ()
  else .error (.assertionFailed s.assertion v.text)

end ValueSpec

/-- The value with its text replaced through the mappings of the operation, if it has
any. -/
def Operation.mapValue (o : Operation) (v : TypedValue) : Except GatewayError TypedValue :=
  if o.mappings.isEmpty then .ok v
  else match o.mappings.get? v.text with
    | some s => .ok (.ofString v.resource v.origin s)
    | none => .error (.mappingNotFound v.text)

end DeviceGateway
