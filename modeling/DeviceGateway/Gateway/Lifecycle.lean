import DeviceGateway.Gateway.Run

/-! Starting and stopping a gateway. -/

namespace DeviceGateway.Gateway

variable {δ μ : Type} [Driver δ] [MetadataSource μ] (g : Gateway δ μ)

/-- Takes in the metadata, opens the channel with its intake, and starts the driver.
Without effect while the gateway runs. -/
def start : Except GatewayError Unit × Gateway δ μ :=
  if g.running then (.ok (), g)
  else
    let (registry, _) := g.registry.bootstrap g.source g.settings.name
    let (result, driver) := Driver.start g.driver
    let feeder := match result with
      | .ok () => Feeder.ofDriver? driver g.clock
      | .error _ => none
    (result, ({ g with
      registry, driver, feeder
      channel := .ofCapacity g.settings.bufferSize
      intake := .serving none
      running := true
      hasSender := true }.enqueue [.intake]).record .started)

/-- Takes the channel back, lets the intake drain it, and stops the driver, whatever that
says. -/
def stop (force : Bool) : Gateway δ μ :=
  let wasRunning := g.running
  let g := { g with cancelled := true, hasSender := false, running := false }.wakeIntake
  let g := if wasRunning then g.await intakeTime? (g.channel.capacity + 4) else g
  { g with driver := (Driver.stop g.driver force).2 }.record (.stopped force)

omit [Driver δ] [MetadataSource μ] in
/-- Locks or unlocks the gateway for commands. -/
def setLocked (locked : Bool) : Gateway δ μ := { g with locked }

/-- The answer to a caller who asks whether there is a gateway. -/
def status : String := "pong"

end DeviceGateway.Gateway
