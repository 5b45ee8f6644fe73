import DeviceGateway.Feeder
import DeviceGateway.Registry.Resolve

/-! The gateway: the registry, a driver, a source of metadata and a publisher, and the
intake of unsolicited values between them. It is a value. Time is a clock in
milliseconds that the gateway itself moves, what is still to be done is a list of
tasks, and all that happens is written into a trace. -/

namespace DeviceGateway

structure Settings where
  name : String := "device-service"
  /-- How long a driver may take, in milliseconds. -/
  timeout : Nat := 5000
  maxOperations : Nat := 128
  dataTransform : Bool := true
  bufferSize : Nat := 16
  /-- How long the intake may take to drain, in milliseconds. -/
  drainTimeout : Nat := 1000
  deriving DecidableEq, Repr

instance : Inhabited Settings := ⟨{}⟩

/-- Where events go. Publishing an event takes its time and may fail, which the gateway
only notes. -/
structure Publisher where
  publish : Event → Reply Unit

/-- What the intake counts when it has ended: the batches that it processed while
draining, and those that it gave up at the deadline, if it met that. -/
structure DrainReport where
  drained : Nat
  discarded : Option Nat := none
  deriving DecidableEq, Repr

/-- What the intake is doing. While it publishes an event it is busy until a time. -/
inductive IntakeState where
  /-- There is none. -/
  | absent
  | serving (busy : Option Nat)
  | draining (deadline drained : Nat) (busy : Option Nat)
  deriving DecidableEq, Repr

/-- Something that happened and that others could see. -/
inductive Deed where
  | started
  | read (target : Addressable) (requests : List Request)
  | wrote (target : Addressable) (requests : List Request) (values : List TypedValue)
  | stopped (force : Bool)
  | disconnected (target : Addressable)
  /-- A batch was let into the channel. -/
  | accepted (batch : Batch)
  /-- The intake began to process a batch. -/
  | began (batch : Batch)
  /-- An event was handed to the publisher. -/
  | published (event : Event)
  /-- A state was reported to the source. -/
  | reported (device : String) (state : OperatingState)
  | drained (report : DrainReport)

/-- What a command gives: the event of its readings. -/
structure Answer where
  event : Event
  /-- False when a value was dropped. -/
  complete : Bool

/-- A read that the driver was asked for, and what comes of it after `wait`. -/
structure PendingRead where
  device : Device
  requests : List Request
  wait : Nat
  outcome : Except GatewayError (List TypedValue)

/-- Something that can be done at once. -/
inductive GatewayTask where
  | intake
  | publish (event : Event)
  | report (device : String)
  /-- A command for one of many devices: its name, its id and the command. -/
  | read (name id command : String)
  /-- The end of such a command. -/
  | finish (name : String) (pending : PendingRead)

structure Gateway (δ μ : Type) where
  settings : Settings
  driver : δ
  source : μ
  publisher : Publisher
  registry : Registry := .empty
  locked : Bool := false
  /-- Set for good by the first stop. -/
  cancelled : Bool := false
  /-- True from a start to the next stop. -/
  running : Bool := false
  /-- True while the channel is handed out to those who push. -/
  hasSender : Bool := false
  channel : Channel Batch := { capacity := 1, closed := true }
  intake : IntakeState := .absent
  feeder : Option Feeder := none
  clock : Nat := 0
  /-- The wall clock at time zero. -/
  epoch : Int64 := 0
  /-- What can be done at once, in order. -/
  ready : List GatewayTask := []
  /-- What is to be done at a time. -/
  sleeping : List (Nat × GatewayTask) := []
  /-- The answers of a command for many devices, by device name. -/
  answers : List (String × Except GatewayError Answer) := []
  /-- What happened, the latest last. -/
  trace : List (Nat × Deed) := []

namespace Gateway

variable {δ μ : Type} (g : Gateway δ μ)

/-- The time of the wall clock. -/
def wall : Int64 := g.epoch + Int64.ofNat g.clock

def record (d : Deed) : Gateway δ μ := { g with trace := g.trace ++ [(g.clock, d)] }

def recordAll (ds : List Deed) : Gateway δ μ :=
  { g with trace := g.trace ++ ds.map (g.clock, ·) }

def enqueue (ts : List GatewayTask) : Gateway δ μ := { g with ready := g.ready ++ ts }

/-- The gateway after the outcome for a device: a failed assertion disables the device,
and each one is reported to the source. -/
def settleOutcome (device : String) (o : Outcome) : Gateway δ μ :=
  { g with registry := o.settle device g.registry }.enqueue
    (List.replicate o.failedAssertions (.report device))

/-! ### Managed metadata -/

/-- The gateway with the registry that a change gives, if it succeeds. -/
def withRegistry : Except GatewayError Registry → Except GatewayError Unit × Gateway δ μ
  | .ok registry => (.ok (), { g with registry })
  | .error e => (.error e, g)

def updateAdminState (id : String) (state : AdminState) :
    Except GatewayError Unit × Gateway δ μ :=
  g.withRegistry (g.registry.updateAdminState id state)

def addProfile (p : Profile) : Except GatewayError Unit × Gateway δ μ :=
  g.withRegistry (g.registry.addProfile p)

def updateProfile (p : Profile) : Except GatewayError Unit × Gateway δ μ :=
  g.withRegistry (g.registry.updateProfile p)

def removeProfile (name : String) : Except GatewayError Profile × Gateway δ μ :=
  match g.registry.removeProfile name with
  | .ok (p, registry) => (.ok p, { g with registry })
  | .error e => (.error e, g)

/-- Adds a device, whose profile must be known. -/
def addDevice (d : Device) : Except GatewayError Unit × Gateway δ μ :=
  match g.registry.profileByName d.profile with
  | .error e => (.error e, g)
  | .ok _ => g.withRegistry (g.registry.addDevice d)

/-- Removes the device of the id, and has the driver forget it. -/
def removeDevice [Driver δ] (id : String) : Except GatewayError Device × Gateway δ μ :=
  match g.registry.deviceById id with
  | .error e => (.error e, g)
  | .ok d =>
    match g.registry.removeDevice d.name with
    | .error e => (.error e, g)
    | .ok (d, registry) =>
      let driver := (Driver.disconnect g.driver d.addressable).2
      (.ok d, { g with registry, driver }.record (.disconnected d.addressable))

end Gateway

end DeviceGateway
