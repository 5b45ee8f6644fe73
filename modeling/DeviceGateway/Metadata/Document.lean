import DeviceGateway.Device.Codec
import DeviceGateway.Json.Reader

/-! The metadata document: the devices and profiles of an installation, as kept in a
file. -/

namespace DeviceGateway

open Json (Decoder Shape)

structure MetadataDocument where
  devices : List Device := []
  profiles : List Profile := []
  deriving Inhabited

namespace MetadataDocument

def encode (d : MetadataDocument) : Json := .object [
  ("devices", .array (d.devices.map Device.encode)),
  ("profiles", .array (d.profiles.map Profile.encode))]

def shape : Shape MetadataDocument :=
  Shape.pure MetadataDocument.mk
    |>.and (.optional "devices" [] (Json.list Device.decode))
    |>.and (.optional "profiles" [] (Json.list Profile.decode))

def decode : Decoder MetadataDocument := shape.decode "MetadataDocument"

def ofText (text : String) : Except Json.Fault MetadataDocument :=
  Json.decodeText decode text

end MetadataDocument

end DeviceGateway
