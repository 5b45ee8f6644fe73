/-! Readings and events: what the gateway publishes. Times are milliseconds of the
epoch; the time at which something happens is handed in. -/

namespace DeviceGateway

/-- One normalised value of one resource of one device. -/
structure Reading where
  device : String
  name : String
  value : String
  origin : Int64
  deriving DecidableEq, Repr

/-- The readings of one command or of one unsolicited batch. -/
structure Event where
  device : String
  origin : Int64
  readings : List Reading
  deriving DecidableEq, Repr

namespace Event

def isEmpty (e : Event) : Bool := e.readings.isEmpty

/-- The first reading of a resource. -/
def reading? (e : Event) (resource : String) : Option Reading :=
  e.readings.find? (·.name = resource)

end Event

end DeviceGateway
