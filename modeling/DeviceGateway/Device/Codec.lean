import DeviceGateway.Device.Basic
import DeviceGateway.Profile.Codec

/-! The JSON form of devices. -/

namespace DeviceGateway

open Json (Decoder Shape)

def AdminState.encode (s : AdminState) : Json := .string s.name

def AdminState.decode : Decoder AdminState := Json.variant AdminState.names

def OperatingState.encode (s : OperatingState) : Json := .string s.name

def OperatingState.decode : Decoder OperatingState := Json.variant OperatingState.names

namespace Addressable

def encode (a : Addressable) : Json := .object [
  ("name", .string a.name), ("protocol", .string a.protocol), ("address", .string a.address),
  ("port", .integer a.port.toNat), ("path", .string a.path)]

def shape : Shape Addressable :=
  Shape.pure Addressable.mk
    |>.and (.optional "name" "" Json.text)
    |>.and (.optional "protocol" "" Json.text)
    |>.and (.optional "address" "" Json.text)
    |>.and (.optional "port" 0 Json.port)
    |>.and (.optional "path" "" Json.text)

def decode : Decoder Addressable := shape.decode "Addressable"

end Addressable

namespace Device

def encode (d : Device) : Json := .object [
  ("id", .string d.id), ("name", .string d.name), ("profile", .string d.profile),
  ("admin_state", d.adminState.encode), ("operating_state", d.operatingState.encode),
  ("addressable", d.addressable.encode), ("description", .string d.description),
  ("labels", encodeTexts d.labels)]

def shape : Shape Device :=
  Shape.pure Device.mk
    |>.and (.required "id" Json.text)
    |>.and (.required "name" Json.text)
    |>.and (.required "profile" Json.text)
    |>.and (.optional "admin_state" .unlocked AdminState.decode)
    |>.and (.optional "operating_state" .enabled OperatingState.decode)
    |>.and (.optional "addressable" {} Addressable.decode)
    |>.and (.optional "description" "" Json.text)
    |>.and (.optional "labels" [] (Json.list Json.text))

def decode : Decoder Device := shape.decode "Device"

end Device

end DeviceGateway
