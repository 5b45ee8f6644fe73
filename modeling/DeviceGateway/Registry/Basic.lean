import DeviceGateway.Device.Basic
import DeviceGateway.Error
import DeviceGateway.Registry.Catalogue

/-! The registry of the devices and profiles that a gateway knows. Devices are kept by
name, with a second table from ids to names; profiles are kept as catalogues. An
operation that fails gives no new registry. -/

namespace DeviceGateway

structure Registry where
  byName : Table Device := ∅
  nameById : Table String := ∅
  catalogues : Table Catalogue := ∅
  initialized : Bool := false

namespace Registry

instance : Inhabited Registry := ⟨{}⟩

def empty : Registry := {}

/-! ### Devices -/

variable (r : Registry)

def devices : List Device := r.byName.values

def deviceByName (name : String) : Except GatewayError Device :=
  match r.byName.get? name with
  | some d => .ok d
  | none => .error (.deviceNotFound name)

def deviceById (id : String) : Except GatewayError Device :=
  match (r.nameById.get? id).bind r.byName.get? with
  | some d => .ok d
  | none => .error (.deviceNotFound id)

/-- The device with the id or, if there is none, with the name. -/
def lookup (key : String) : Except GatewayError Device :=
  match r.deviceById key with
  | .ok d => .ok d
  | .error _ => r.deviceByName key

/-- The registry with a new device, whose name and id must both be free. -/
def addDevice (d : Device) : Except GatewayError Registry :=
  if r.byName.contains d.name then .error (.alreadyExists ("device " ++ d.name))
  else if r.nameById.contains d.id then .error (.alreadyExists ("device id " ++ d.id))
  else .ok { r with
    nameById := r.nameById.insert d.id d.name
    byName := r.byName.insert d.name d }

/-- The registry with `d` in place of the device of that name. A new id must be free. -/
def updateDevice (d : Device) : Except GatewayError Registry :=
  match r.byName.get? d.name with
  | none => .error (.deviceNotFound d.name)
  | some old =>
    if old.id = d.id then .ok { r with byName := r.byName.insert d.name d }
    else if r.nameById.contains d.id then .error (.alreadyExists ("device id " ++ d.id))
    else .ok { r with
      nameById := (r.nameById.erase old.id).insert d.id d.name
      byName := r.byName.insert d.name d }

/-- The device of the name, and the registry without it. -/
def removeDevice (name : String) : Except GatewayError (Device × Registry) :=
  match r.byName.get? name with
  | none => .error (.deviceNotFound name)
  | some d => .ok (d, { r with
    byName := r.byName.erase name
    nameById := r.nameById.erase d.id })

def updateAdminState (id : String) (state : AdminState) : Except GatewayError Registry :=
  match r.nameById.get? id with
  | none => .error (.deviceNotFound id)
  | some name =>
    match r.byName.get? name with
    | none => .ok r
    | some d => .ok { r with byName := r.byName.insert name { d with adminState := state } }

def updateOperatingState (name : String) (state : OperatingState) :
    Except GatewayError Registry :=
  match r.byName.get? name with
  | none => .error (.deviceNotFound name)
  | some d => .ok { r with byName := r.byName.insert name { d with operatingState := state } }

/-- The registry with the device disabled, if it has one of the name. -/
def disable (name : String) : Registry :=
  match r.updateOperatingState name .disabled with
  | .ok r' => r'
  | .error _ => r

/-! ### Profiles -/

def profiles : List Profile := r.catalogues.values.map (·.profile)

def catalogue (profile : String) : Except GatewayError Catalogue :=
  match r.catalogues.get? profile with
  | some c => .ok c
  | none => .error (.profileNotFound profile)

def putProfile (p : Profile) : Registry :=
  { r with catalogues := r.catalogues.insert p.name (.ofProfile p) }

def addProfile (p : Profile) : Except GatewayError Registry :=
  if r.catalogues.contains p.name then .error (.alreadyExists ("profile " ++ p.name))
  else .ok (r.putProfile p)

def updateProfile (p : Profile) : Except GatewayError Registry :=
  if r.catalogues.contains p.name then .ok (r.putProfile p)
  else .error (.profileNotFound p.name)

/-- The profile of the name, and the registry without it. -/
def removeProfile (name : String) : Except GatewayError (Profile × Registry) :=
  match r.catalogues.get? name with
  | none => .error (.profileNotFound name)
  | some c => .ok (c.profile, { r with catalogues := r.catalogues.erase name })

def profileByName (name : String) : Except GatewayError Profile :=
  (r.catalogue name).map (·.profile)

/-! ### What a profile has -/

def object (profile object : String) : Except GatewayError DeviceObject := do
  let c ← r.catalogue profile
  match c.objects.get? object with
  | some o => .ok o
  | none => .error (.objectNotFound profile object)

def operations (profile command : String) (m : Method) :
    Except GatewayError (List Operation) := do
  let c ← r.catalogue profile
  match c.operations? command m with
  | some os => .ok os
  | none => .error (.commandNotFound profile command)

/-- The operation that reads an object, if a resource of the profile does. -/
def readOperation? (profile object : String) : Option Operation :=
  (r.catalogues.get? profile).bind (·.reads.get? object)

/-- Whether the profile declares the command. -/
def declares (profile command : String) : Except GatewayError Bool :=
  (r.catalogue profile).map fun c => decide (command ∈ c.profile.commands)

end Registry

end DeviceGateway
