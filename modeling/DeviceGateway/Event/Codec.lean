import DeviceGateway.Event.Basic
import DeviceGateway.Json.Decode

/-! The JSON form of readings and events, with all fields in order of declaration. -/

namespace DeviceGateway

open Json (Decoder Shape)

namespace Reading

def encode (r : Reading) : Json := .object [
  ("device", .string r.device), ("name", .string r.name), ("value", .string r.value),
  ("origin", .integer r.origin.toInt)]

def shape : Shape Reading :=
  Shape.pure Reading.mk
    |>.and (.required "device" Json.text)
    |>.and (.required "name" Json.text)
    |>.and (.required "value" Json.text)
    |>.and (.required "origin" Json.epoch)

def decode : Decoder Reading := shape.decode "Reading"

end Reading

namespace Event

def encode (e : Event) : Json := .object [
  ("device", .string e.device), ("origin", .integer e.origin.toInt),
  ("readings", .array (e.readings.map Reading.encode))]

def shape : Shape Event :=
  Shape.pure Event.mk
    |>.and (.required "device" Json.text)
    |>.and (.required "origin" Json.epoch)
    |>.and (.required "readings" (Json.list Reading.decode))

def decode : Decoder Event := shape.decode "Event"

end Event

end DeviceGateway
