import DeviceGateway.Driver.Basic

/-! Scripted drivers: every answer is laid down beforehand, by the name of the
addressable. They serve to rehearse a gateway without devices. -/

namespace DeviceGateway

namespace Script

/-- How requests to one addressable are answered. -/
structure Action where
  delay : Nat := 0
  /-- The values of a read. -/
  values : Except GatewayError (List TypedValue) := .ok []
  /-- The outcome of a write. -/
  written : Except GatewayError Unit := .ok ()

end Script

structure Script where
  actions : Table Script.Action := ∅
  /-- For the addressables that have no action of their own. -/
  otherwise : Option Script.Action := none
  startFault : Option GatewayError := none
  stopFault : Option GatewayError := none
  disconnectFault : Option GatewayError := none

namespace Script

/-- Without an action every request fails. -/
def action (s : Script) (a : Addressable) : Action :=
  match s.actions.get? a.name, s.otherwise with
  | some action, _ => action
  | none, some action => action
  | none, none =>
    { values := .error (.driver "no script"), written := .error (.driver "no script") }

def outcome (fault : Option GatewayError) : Except GatewayError Unit := fault.elim (.ok ()) .error

instance : Driver Script where
  start s := (outcome s.startFault, s)
  read s _ a _ := (⟨(s.action a).delay, (s.action a).values⟩, s)
  write s a _ _ := (⟨(s.action a).delay, (s.action a).written⟩, s)
  stop s _ := (outcome s.stopFault, s)
  disconnect s _ := (outcome s.disconnectFault, s)
  period? _ := none
  push _ _ := []

end Script

end DeviceGateway
