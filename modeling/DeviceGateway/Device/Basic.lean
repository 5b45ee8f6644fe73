/-! Devices: what is known of each, how it is reached and in what state it is. -/

namespace DeviceGateway

/-- The state that operators set. -/
inductive AdminState where
  | locked
  | unlocked
  deriving DecidableEq, Repr

namespace AdminState

def name : AdminState → String
  | .locked => "LOCKED"
  | .unlocked => "UNLOCKED"

def names : List (String × AdminState) := [("LOCKED", .locked), ("UNLOCKED", .unlocked)]

def isLocked : AdminState → Bool
  | .locked => true
  | .unlocked => false

/-- Reads a state in any ASCII case. -/
def ofText (s : String) : Except String AdminState :=
  let upper := String.ofList (s.toList.map Char.toUpper)
  if upper = "LOCKED" then .ok .locked
  else if upper = "UNLOCKED" then .ok .unlocked
  else .error ("unknown admin state: " ++ upper)

end AdminState

/-- A device is disabled when one of its assertions fails. -/
inductive OperatingState where
  | enabled
  | disabled
  deriving DecidableEq, Repr

namespace OperatingState

def name : OperatingState → String
  | .enabled => "ENABLED"
  | .disabled => "DISABLED"

def names : List (String × OperatingState) :=
  [("ENABLED", .enabled), ("DISABLED", .disabled)]

end OperatingState

/-- Where and how a driver reaches a device. -/
structure Addressable where
  name : String := ""
  protocol : String := ""
  address : String := ""
  port : UInt16 := 0
  path : String := ""
  deriving DecidableEq, Repr, Inhabited

/-- A device, bound to its profile by name. -/
structure Device where
  id : String
  name : String
  profile : String
  adminState : AdminState := .unlocked
  operatingState : OperatingState := .enabled
  addressable : Addressable := {}
  description : String := ""
  labels : List String := []
  deriving DecidableEq, Repr

namespace Device

instance : Inhabited Device := ⟨{ id := "", name := "", profile := "" }⟩

/-- An unlocked and enabled device that is addressed by its own name. -/
def ofNames (id name profile : String) : Device :=
  { id, name, profile, addressable := { name } }

def isLocked (d : Device) : Bool := d.adminState.isLocked

end Device

end DeviceGateway
