import DeviceGateway.Registry.Basic

/-! Resolving a command of a device to the requests that its driver is given. Either
all targets of the command are found or the whole command fails. -/

namespace DeviceGateway.Registry

/-- The requests of the operations, in order; fails at the first target that is
missing. -/
def requests (r : Registry) (profile : String) :
    List Operation → Except GatewayError (List Request)
  | [] => .ok []
  | o :: os => do
    let target ← r.object profile o.object
    let rest ← r.requests profile os
    return ⟨o, target⟩ :: rest

/-- What the command of the device amounts to, at most `limit` operations. -/
def resolve (r : Registry) (limit : Nat) (d : Device) (command : String) (m : Method) :
    Except GatewayError (List Request) := do
  if !(← r.declares d.profile command) then
    .error (.commandNotFound d.profile command)
  else
    let os ← r.operations d.profile command m
    if os.isEmpty then .error (.commandNotFound d.profile command)
    else if limit < os.length then
      .error (.tooManyOperations d.name command os.length limit)
    else r.requests d.profile os

end DeviceGateway.Registry
