import DeviceGateway.Event.Codec
import DeviceGateway.Publish.Log

/-! Sinks: where events are published. A sink writes log lines, sends messages to a
broker, or hands the event to several other sinks. -/

namespace DeviceGateway

/-- A message for a broker. -/
structure Message where
  topic : String
  payload : String
  /-- Quality of service: delivered at least once. -/
  quality : Nat := 1
  retained : Bool := false
  deriving DecidableEq, Repr

/-- A connection to a broker under a topic. -/
structure Broker where
  /-- What stands before the device in a topic. -/
  root : String
  connected : Bool := true
  /-- Why sending fails, if it does. -/
  fault : Option String := none
  deriving DecidableEq, Repr

namespace Broker

/-- A broker under a topic, whose slashes at the end do not count. -/
def ofTopic (topic : String) (connected : Bool) (fault : Option String) : Broker where
  root := String.ofList (topic.toList.reverse.dropWhile (· == '/')).reverse
  connected
  fault

def topicFor (b : Broker) (device : String) : String := b.root ++ "/" ++ device

end Broker

inductive Sink where
  | log
  | broker (b : Broker)
  /-- Does nothing, or fails. -/
  | plain (fault : Option String)
  /-- Hands every event to each of the sinks, whatever becomes of it. -/
  | all (sinks : List Sink)

/-- What publishing an event does. -/
structure Publication where
  lines : List LogLine := []
  messages : List Message := []
  outcome : Except String Unit := .ok ()

namespace Sink

def readingLine (r : Reading) : LogLine :=
  ⟨.debug, "Reading", [("device", .text r.device), ("resource", .text r.name),
    ("value", .text r.value), ("origin", .number r.origin.toInt)]⟩

def eventLine (e : Event) : LogLine :=
  ⟨.info, "Event", [("device", .text e.device), ("origin", .number e.origin.toInt),
    ("readings", .number e.readings.length)]⟩

/-- The event as a message for a broker: one line of JSON. -/
def brokerMessage (b : Broker) (e : Event) : Message where
  topic := b.topicFor e.device
  payload := e.encode.toCompact

def outcomeOf (fault : Option String) : Except String Unit := fault.elim (.ok ()) .error

/-- A broker is sent the event even while it is not connected. -/
def publishToBroker (b : Broker) (e : Event) : Publication where
  lines :=
    (if b.connected then []
     else [⟨.warn, "MQTT not connected, publishing anyway", [("device", .text e.device)]⟩]) ++
    (if b.fault.isNone then
      [⟨.debug, "Event published to MQTT", [("topic", .text (b.topicFor e.device)),
        ("readings", .number e.readings.length)]⟩]
     else [])
  messages := [brokerMessage b e]
  outcome := outcomeOf b.fault

mutual

def publish (e : Event) : Sink → Publication
  | .log => { lines := eventLine e :: e.readings.map readingLine }
  | .broker b => publishToBroker b e
  | .plain fault => { outcome := outcomeOf fault }
  | .all sinks => publishAll e sinks

/-- The event handed to each sink in order; a failure is logged. -/
def publishAll (e : Event) : List Sink → Publication
  | [] => {}
  | s :: rest =>
    let p := publish e s
    let failure := match p.outcome with
      | .ok () => []
      | .error detail =>
        [⟨.error, "Publisher failed", [("device", .text e.device), ("error", .text detail)]⟩]
    let q := publishAll e rest
    { lines := p.lines ++ failure ++ q.lines, messages := p.messages ++ q.messages }

end

end Sink

end DeviceGateway
