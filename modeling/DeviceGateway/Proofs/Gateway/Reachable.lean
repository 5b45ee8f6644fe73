import DeviceGateway.Gateway.Command
import DeviceGateway.Gateway.Lifecycle
import DeviceGateway.Proofs.Registry.Tables

/-! Gateways in use: what can be asked of a gateway, and what can come of a new one when that is
asked in any order. -/

namespace DeviceGateway.Gateway

variable {δ μ : Type}

/-! ### What can happen -/

section Steps

variable [Driver δ] [MetadataSource μ]

/-- One thing that is asked of a gateway, or that happens around it. -/
inductive Step (g : Gateway δ μ) : Gateway δ μ → Prop
  | start : Step g g.start.2
  | stop (force : Bool) : Step g (g.stop force)
  | setLocked (locked : Bool) : Step g (g.setLocked locked)
  | get (key command : String) : Step g (g.get key command).2
  | getAll (command : String) : Step g (g.getAll command).2
  | put (key command : String) (parameters : Table String) :
    Step g (g.put key command parameters).2
  | push (b : Batch) : Step g (g.push b).2
  | reserve : Step g g.reserve.2
  | release : Step g g.release
  | settle : Step g g.settle
  | pass (ms : Nat) : Step g (g.pass ms)
  /-- The registry is changed, through the gateway or past it. -/
  | manage {registry : Registry} (h : g.registry.Step registry) : Step g { g with registry }
  | removeDevice (id : String) : Step g (g.removeDevice id).2
  /-- The driver changes of its own accord. -/
  | drive (driver : δ) : Step g { g with driver }

/-- What comes of a new gateway by anything that can happen, in any order. -/
inductive Reachable : Gateway δ μ → Prop
  | new (settings : Settings) (driver : δ) (source : μ) (publisher : Publisher) (epoch : Int64) :
    Reachable { settings, driver, source, publisher, epoch }
  | step {g g' : Gateway δ μ} (h : Reachable g) (hs : g.Step g') : Reachable g'

end Steps

/-- A gateway that has just started, and publishes whatever it is to. -/
def launched [Driver δ] (driver : δ) (devices : List Device) (profiles : List Profile) :
    Gateway δ FixedSource :=
  let new : Gateway δ FixedSource := {
    settings := {}
    driver
    source := { devices, profiles }
    publisher := ⟨fun _ => { outcome := .ok () }⟩
    epoch := 0 }
  new.start.2

theorem launched_reachable [Driver δ] (driver : δ) (devices : List Device)
    (profiles : List Profile) : (launched driver devices profiles).Reachable :=
  .step (.new ..) .start

/-- A meter with one object, which is read and written by a command of its name. -/
def gauge (o : DeviceObject) : Profile :=
  Profile.withResource { name := "Meter", objects := [o] }
    { name := o.name, get := [.ofNames "get" o.name], set := [.ofNames "set" o.name] }

end DeviceGateway.Gateway
