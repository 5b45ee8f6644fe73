import DeviceGateway.Gateway.Run

/-! The commands that callers give to a gateway: reading and writing one device, and
reading all of them. -/

namespace DeviceGateway.Gateway

variable {δ μ : Type} [Driver δ] [MetadataSource μ] (g : Gateway δ μ)

/-! ### Reading -/

/-- Reads a command of the device with the key. -/
def get (key command : String) : Except GatewayError Answer × Gateway δ μ :=
  match g.beginRead key command with
  | (.error e, g) => (.error e, g)
  | (.ok p, g) => (g.pass p.wait).finishRead p

/-- The unlocked devices whose profiles declare the command. -/
def targets (command : String) : List Device :=
  g.registry.devices.filter fun d =>
    !d.isLocked && (g.registry.declares d.profile command).toOption.getD false

/-- Reads a command of every device that has it, all at once; the answers by name. -/
def getAll (command : String) : List (String × Except GatewayError Answer) × Gateway δ μ :=
  let targets := g.targets command
  if targets.isEmpty then ([], g)
  else
    let tasks := targets.map fun d => GatewayTask.read d.name d.id command
    let g := ({ g with answers := [] }.enqueue tasks).await answerTime? (targets.length + 1)
    (g.answers.mergeSort fun a b => decide (a.1 ≤ b.1), { g with answers := [] })

/-! ### Writing -/

/-- The text from which the value of a request is made: the parameter under the name of
its object, else that of the operation, else the default of the object. -/
def parameterText (r : Request) (parameters : Table String) : Except GatewayError String :=
  match parameters.get? r.object.name with
  | some text => .ok text
  | none =>
    if r.operation.parameter ≠ "" then .ok r.operation.parameter
    else if r.object.spec.defaultValue ≠ "" then .ok r.object.spec.defaultValue
    else .error (.invalidParameter ("no value given for " ++ r.object.name))

/-- The value that the driver is given for a request. -/
def parameterValue (transform : Bool) (now : Int64) (r : Request) (parameters : Table String) :
    Except GatewayError TypedValue := do
  let text ← parameterText r parameters
  let v ← TypedValue.parse r.object.kind r.object.name now text
  if transform then r.object.spec.outbound v else .ok v

/-- The values of the requests, in order; fails at the first that has none. -/
def parameterValues (transform : Bool) (now : Int64) (parameters : Table String) :
    List Request → Except GatewayError (List TypedValue)
  | [] => .ok []
  | r :: rs => do
    let v ← parameterValue transform now r parameters
    let vs ← parameterValues transform now parameters rs
    return v :: vs

/-- The device of a key, and the requests and values with which a command is written. -/
def prepareWrite (key command : String) (parameters : Table String) :
    Except GatewayError (Device × List Request × List TypedValue) := do
  let (d, requests) ← g.prepare key command .set
  let values ← parameterValues g.settings.dataTransform g.wall parameters requests
  return (d, requests, values)

/-- Writes a command of the device with the key: all of it is handed to the driver at
once, or nothing. -/
def put (key command : String) (parameters : Table String) :
    Except GatewayError Unit × Gateway δ μ :=
  match g.prepareWrite key command parameters with
  | .error e => (.error e, g)
  | .ok (d, requests, values) =>
    let (reply, driver) := Driver.write g.driver d.addressable requests values
    let (wait, outcome) := reply.asDriver.within g.settings.timeout
    (outcome, ({ g with driver }.record (.wrote d.addressable requests values)).pass wait)

end DeviceGateway.Gateway
