import DeviceGateway.Json.Decode
import DeviceGateway.Profile.Basic

/-! The JSON form of profiles: encoding writes every field, decoding fills in what is
missing and passes over what is unknown. -/

namespace DeviceGateway

open Json (Decoder Shape)

/-- A table as an object. -/
def Table.encode {α : Type} (f : α → Json) (t : Table α) : Json :=
  .object (t.entries.map fun (k, a) => (k, f a))

def encodeTexts (ss : List String) : Json := .array (ss.map .string)

/-! ### Kinds and methods -/

def ValueKind.encode (k : ValueKind) : Json := .string k.name

def ValueKind.decode : Decoder ValueKind := Json.variant ValueKind.names

def Method.encode (m : Method) : Json := .string m.name

def Method.decode : Decoder Method := Json.variant Method.names

/-! ### Objects -/

namespace ValueSpec

def encode (s : ValueSpec) : Json := .object [
  ("type", s.kind.encode), ("read_write", .string s.readWrite),
  ("minimum", .string s.minimum), ("maximum", .string s.maximum),
  ("default_value", .string s.defaultValue), ("base", .string s.base),
  ("scale", .string s.scale), ("offset", .string s.offset),
  ("assertion", .string s.assertion)]

def shape : Shape ValueSpec :=
  Shape.pure ValueSpec.mk
    |>.and (.optional "type" .string ValueKind.decode)
    |>.and (.optional "read_write" "" Json.text)
    |>.and (.optional "minimum" "" Json.text)
    |>.and (.optional "maximum" "" Json.text)
    |>.and (.optional "default_value" "" Json.text)
    |>.and (.optional "base" "" Json.text)
    |>.and (.optional "scale" "" Json.text)
    |>.and (.optional "offset" "" Json.text)
    |>.and (.optional "assertion" "" Json.text)

def decode : Decoder ValueSpec := shape.decode "PropertyValue"

end ValueSpec

namespace Units

def encode (u : Units) : Json := .object [
  ("type", .string u.kind), ("read_write", .string u.readWrite),
  ("default_value", .string u.defaultValue)]

def shape : Shape Units :=
  Shape.pure Units.mk
    |>.and (.optional "type" "" Json.text)
    |>.and (.optional "read_write" "" Json.text)
    |>.and (.optional "default_value" "" Json.text)

def decode : Decoder Units := shape.decode "Units"

end Units

namespace Properties

def encode (p : Properties) : Json :=
  .object [("value", p.value.encode), ("units", p.units.encode)]

def shape : Shape Properties :=
  Shape.pure Properties.mk
    |>.and (.optional "value" {} ValueSpec.decode)
    |>.and (.optional "units" {} Units.decode)

def decode : Decoder Properties := shape.decode "ProfileProperty"

end Properties

namespace DeviceObject

def encode (o : DeviceObject) : Json := .object [
  ("name", .string o.name), ("description", .string o.description), ("tag", .string o.tag),
  ("properties", o.properties.encode), ("attributes", o.attributes.encode id)]

def shape : Shape DeviceObject :=
  Shape.pure DeviceObject.mk
    |>.and (.required "name" Json.text)
    |>.and (.optional "description" "" Json.text)
    |>.and (.optional "tag" "" Json.text)
    |>.and (.optional "properties" {} Properties.decode)
    |>.and (.optional "attributes" ∅ (Json.table Json.anything))

def decode : Decoder DeviceObject := shape.decode "DeviceObject"

end DeviceObject

/-! ### Operations and resources -/

namespace Operation

def encode (o : Operation) : Json := .object [
  ("index", .string o.index), ("operation", .string o.operation),
  ("object", .string o.object), ("parameter", .string o.parameter),
  ("resource", .string o.resource), ("secondary", encodeTexts o.secondary),
  ("mappings", o.mappings.encode .string)]

def shape : Shape Operation :=
  Shape.pure Operation.mk
    |>.and (.optional "index" "" Json.text)
    |>.and (.optional "operation" "" Json.text)
    |>.and (.optional "object" "" Json.text)
    |>.and (.optional "parameter" "" Json.text)
    |>.and (.optional "resource" "" Json.text)
    |>.and (.optional "secondary" [] (Json.list Json.text))
    |>.and (.optional "mappings" ∅ (Json.table Json.text))

def decode : Decoder Operation := shape.decode "ResourceOperation"

end Operation

namespace Resource

def encode (r : Resource) : Json := .object [
  ("name", .string r.name), ("get", .array (r.get.map Operation.encode)),
  ("set", .array (r.set.map Operation.encode))]

def shape : Shape Resource :=
  Shape.pure Resource.mk
    |>.and (.required "name" Json.text)
    |>.and (.optional "get" [] (Json.list Operation.decode))
    |>.and (.optional "set" [] (Json.list Operation.decode))

def decode : Decoder Resource := shape.decode "ProfileResource"

end Resource

/-- A command is an object with a name. -/
def encodeCommand (name : String) : Json := .object [("name", .string name)]

def decodeCommand : Decoder String := (Shape.required "name" Json.text).decode "Command"

/-! ### Profiles and requests -/

namespace Profile

def encode (p : Profile) : Json := .object [
  ("id", .string p.id), ("name", .string p.name), ("manufacturer", .string p.manufacturer),
  ("model", .string p.model), ("description", .string p.description),
  ("labels", encodeTexts p.labels),
  ("device_objects", .array (p.objects.map DeviceObject.encode)),
  ("resources", .array (p.resources.map Resource.encode)),
  ("commands", .array (p.commands.map encodeCommand))]

def shape : Shape Profile :=
  Shape.pure Profile.mk
    |>.and (.optional "id" "" Json.text)
    |>.and (.required "name" Json.text)
    |>.and (.optional "manufacturer" "" Json.text)
    |>.and (.optional "model" "" Json.text)
    |>.and (.optional "description" "" Json.text)
    |>.and (.optional "labels" [] (Json.list Json.text))
    |>.and (.optional "device_objects" [] (Json.list DeviceObject.decode))
    |>.and (.optional "resources" [] (Json.list Resource.decode))
    |>.and (.optional "commands" [] (Json.list decodeCommand))

def decode : Decoder Profile := shape.decode "DeviceProfile"

end Profile

namespace Request

def encode (r : Request) : Json :=
  .object [("operation", r.operation.encode), ("object", r.object.encode)]

def shape : Shape Request :=
  Shape.pure Request.mk
    |>.and (.required "operation" Operation.decode)
    |>.and (.required "object" DeviceObject.decode)

def decode : Decoder Request := shape.decode "CommandRequest"

end Request

end DeviceGateway
