import DeviceGateway.Metadata.Document
import DeviceGateway.Metadata.Source

/-! The metadata store: a metadata document that serves as the source of metadata. The
states that are reported change the store and not the file. -/

namespace DeviceGateway

/-- The document that a store serves. -/
structure MetadataStore where
  document : MetadataDocument

/-- The device with the name of its addressable filled in: its own, if none is given. -/
def Device.addressed (d : Device) : Device :=
  if d.addressable.name = "" then
    { d with addressable := { d.addressable with name := d.name } }
  else d

namespace MetadataStore

def ofDocument (d : MetadataDocument) : MetadataStore :=
  ⟨{ d with devices := d.devices.map Device.addressed }⟩

/-- The first device of the name with another operating state; none without one. -/
def updateFirst (name : String) (state : OperatingState) : List Device → Option (List Device)
  | [] => none
  | d :: r =>
    if d.name = name then some ({ d with operatingState := state } :: r)
    else (updateFirst name state r).map (d :: ·)

def report (s : MetadataStore) (name : String) (state : OperatingState) :
    Except GatewayError MetadataStore :=
  match updateFirst name state s.document.devices with
  | some devices => .ok ⟨{ s.document with devices }⟩
  | none => .error (.deviceNotFound name)

/-- Every device belongs to every service. -/
instance : MetadataSource MetadataStore where
  devicesFor s _ := .ok s.document.devices
  profiles s := .ok s.document.profiles
  report := report

/-! ### Loading -/

/-- Why a store could not be loaded. -/
inductive LoadError where
  /-- The file could not be read, with what the system says. -/
  | unreadable (path detail : String)
  | invalid (path text : String) (error : Json.Fault)

/-- What failed. -/
def LoadError.message : LoadError → String
  | .unreadable path _ => "Failed to read metadata file " ++ path
  | .invalid path _ _ => "Invalid metadata file " ++ path

/-- Why it failed. -/
def LoadError.detail : LoadError → String
  | .unreadable _ detail => detail
  | .invalid _ text e => e.message text

/-- The store of the file at `path`, from its text or from what the system says instead. -/
def load (path : String) (content : Except String String) : Except LoadError MetadataStore :=
  match content with
  | .error detail => .error (.unreadable path detail)
  | .ok text =>
    match MetadataDocument.ofText text with
    | .ok d => .ok (ofDocument d)
    | .error e => .error (.invalid path text e)

end MetadataStore

end DeviceGateway
