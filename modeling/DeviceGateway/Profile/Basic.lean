import DeviceGateway.Json.Basic
import DeviceGateway.Value.Kind

/-! Profiles: templates of devices. A profile lists the objects that a device of its
kind has and, under the name of each resource, the operations that read and write
them. -/

namespace DeviceGateway

/-- The two ways to run a command. -/
inductive Method where
  | get
  | set
  deriving DecidableEq, Repr

namespace Method

def name : Method → String
  | .get => "get"
  | .set => "set"

def names : List (String × Method) := [("get", .get), ("set", .set)]

/-- Reads a method in any ASCII case; a put is a set. -/
def ofText (s : String) : Except String Method :=
  let lower := String.ofList (s.toList.map Char.toLower)
  if lower = "get" then .ok .get
  else if lower = "set" ∨ lower = "put" then .ok .set
  else .error ("unknown method: " ++ lower)

end Method

/-- What the value of an object is, and the parameters of its transforms. A parameter
is a text; the empty text means that the step is not configured. -/
structure ValueSpec where
  kind : ValueKind := .string
  readWrite : String := ""
  minimum : String := ""
  maximum : String := ""
  defaultValue : String := ""
  base : String := ""
  scale : String := ""
  offset : String := ""
  assertion : String := ""
  deriving DecidableEq, Repr

namespace ValueSpec

instance : Inhabited ValueSpec := ⟨{}⟩

/-- A readable and writable value without transforms. -/
def plain (kind : ValueKind) : ValueSpec := { kind, readWrite := "RW" }

def hasTransform (s : ValueSpec) : Bool :=
  s.base ≠ "" || s.scale ≠ "" || s.offset ≠ ""

end ValueSpec

structure Units where
  kind : String := ""
  readWrite : String := ""
  defaultValue : String := ""
  deriving DecidableEq, Repr

structure Properties where
  value : ValueSpec := {}
  units : Units := {}
  deriving DecidableEq, Repr

/-- A single addressable point of a device. The attributes are for the driver. -/
structure DeviceObject where
  name : String
  description : String := ""
  tag : String := ""
  properties : Properties := {}
  attributes : Table Json := ∅

namespace DeviceObject

instance : Inhabited DeviceObject := ⟨{ name := "" }⟩

def spec (o : DeviceObject) : ValueSpec := o.properties.value

def kind (o : DeviceObject) : ValueKind := o.spec.kind

/-- An object with the given value and nothing else. -/
def ofSpec (name : String) (value : ValueSpec) : DeviceObject :=
  { name, properties := { value } }

end DeviceObject

/-- One step of a command, aimed at one object. The mappings replace the text of a
value. -/
structure Operation where
  index : String := ""
  operation : String := ""
  object : String := ""
  parameter : String := ""
  resource : String := ""
  secondary : List String := []
  mappings : Table String := ∅
  deriving DecidableEq

namespace Operation

instance : Inhabited Operation := ⟨{}⟩

def ofNames (operation object : String) : Operation := { operation, object }

end Operation

/-- A named command with the operations of both methods, in order. -/
structure Resource where
  name : String
  get : List Operation := []
  set : List Operation := []
  deriving DecidableEq

namespace Resource

def operations (r : Resource) : Method → List Operation
  | .get => r.get
  | .set => r.set

end Resource

structure Profile where
  id : String := ""
  name : String
  manufacturer : String := ""
  model : String := ""
  description : String := ""
  labels : List String := []
  objects : List DeviceObject := []
  resources : List Resource := []
  /-- The names that callers may use as commands. -/
  commands : List String := []

namespace Profile

instance : Inhabited Profile := ⟨{ name := "" }⟩

def withObject (p : Profile) (o : DeviceObject) : Profile :=
  { p with objects := p.objects ++ [o] }

/-- The profile with one more resource, whose name becomes a command. -/
def withResource (p : Profile) (r : Resource) : Profile :=
  { p with
    commands := if r.name ∈ p.commands then p.commands else p.commands ++ [r.name]
    resources := p.resources ++ [r] }

end Profile

/-- One resolved step of a command: the operation and the object it is aimed at. -/
structure Request where
  operation : Operation
  object : DeviceObject
  deriving Inhabited

end DeviceGateway
