import DeviceGateway.Configuration.Conversion
import DeviceGateway.Gateway.Basic
import DeviceGateway.Publish.Sink

/-! The configuration of a gateway. -/

namespace DeviceGateway

structure ServiceOptions where
  name : String
  /-- How long a driver may take, in milliseconds. -/
  timeout : Nat := 5000
  labels : List String := []
  deriving DecidableEq, Repr

structure CommandOptions where
  maxOperations : Nat := 128
  dataTransform : Bool := true
  bufferSize : Nat := 16
  /-- How long the intake may take to drain, in milliseconds. -/
  drainTimeout : Nat := 1000
  deriving DecidableEq, Repr

/-- Where to find a broker. -/
structure BrokerAddress where
  host : String
  port : UInt16
  topic : String := "devices/events"
  deriving DecidableEq, Repr

structure Configuration where
  service : ServiceOptions
  device : CommandOptions := {}
  /-- The path of the metadata file. -/
  metadata : String
  broker : Option BrokerAddress := none
  /-- Milliseconds between two pushes of the simulator; without pushes if zero. -/
  pushInterval : Nat := 0
  deriving DecidableEq, Repr

namespace Configuration

open Setting

/-! ### From settings

A field that is there is read before any that is missing is reported. -/

def serviceOptions : Conversion ServiceOptions := fun s => do
  let fs ← fields "ServiceSection" 3 s
  let name ← fs.get? 0 "name" text
  let timeout ← fs.get? 1 "timeout_ms" unsigned
  let labels ← fs.get? 2 "labels" (listOf text)
  match name with
  | some name => return ⟨name, timeout.getD 5000, labels.getD []⟩
  | none => fs.missing 0 "name"

def commandOptions : Conversion CommandOptions := fun s => do
  let fs ← fields "DeviceSection" 4 s
  let maxOperations ← fs.get? 0 "max_cmd_ops" unsigned
  let dataTransform ← fs.get? 1 "data_transform" bool
  let bufferSize ← fs.get? 2 "async_buffer_size" unsigned
  let drainTimeout ← fs.get? 3 "async_drain_timeout_ms" unsigned
  return ⟨maxOperations.getD 128, dataTransform.getD true, bufferSize.getD 16,
    drainTimeout.getD 1000⟩

def metadataPath : Conversion String := fun s => do
  let fs ← fields "MetadataSection" 1 s
  match ← fs.get? 0 "path" text with
  | some path => return path
  | none => fs.missing 0 "path"

def brokerAddress : Conversion (Option BrokerAddress)
  | .nothing => .ok none
  | s => do
    let fs ← fields "MqttConfig" 3 s
    let host ← fs.get? 0 "host" text
    let port ← fs.get? 1 "port" Setting.port
    let topic ← fs.get? 2 "topic_prefix" text
    match host, port with
    | some host, some port => return some ⟨host, port, topic.getD "devices/events"⟩
    | none, _ => fs.missing 0 "host"
    | some _, none => fs.missing 1 "port"

def intervalOf : Conversion Nat := fun s => do
  let fs ← fields "SimulatorSection" 1 s
  return (← fs.get? 0 "async_interval_ms" unsigned).getD 0

def ofSetting : Conversion Configuration := fun s => do
  let fs ← fields "ServiceConfig" 5 s
  let service ← fs.get? 0 "service" serviceOptions
  let device ← fs.get? 1 "device" commandOptions
  let metadata ← fs.get? 2 "metadata" metadataPath
  let broker ← fs.get? 3 "mqtt" brokerAddress
  let pushInterval ← fs.get? 4 "simulator" intervalOf
  match service, metadata with
  | some service, some metadata =>
    return ⟨service, device.getD {}, metadata, broker.join, pushInterval.getD 0⟩
  | none, _ => fs.missing 0 "service"
  | some _, none => fs.missing 2 "metadata"

/-! ### What it configures -/

variable (c : Configuration)

def settings : Settings where
  name := c.service.name
  timeout := c.service.timeout
  maxOperations := c.device.maxOperations
  dataTransform := c.device.dataTransform
  bufferSize := c.device.bufferSize
  drainTimeout := c.device.drainTimeout

/-- Where events are published: the log, and the broker if there is one, to which there is
no connection at first. -/
def sink : Sink :=
  let brokers := c.broker.toList.map fun b => .broker (.ofTopic b.topic false none)
  .all (.log :: brokers)

/-- The configuration with another host and port for the broker, if it has one. -/
def withBroker (host : Option String) (port : Option UInt16) : Configuration :=
  { c with broker := c.broker.map fun b =>
      { b with host := host.getD b.host, port := port.getD b.port } }

end Configuration

end DeviceGateway
