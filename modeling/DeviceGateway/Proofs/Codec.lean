import DeviceGateway.Device.Codec
import DeviceGateway.Event.Codec
import DeviceGateway.Proofs.Json.Additions
import DeviceGateway.Proofs.Json.RoundTrip

/-! The JSON forms of what the gateway reads and writes. Each is decoded to what it was encoded
from, and members that are no fields, in it or in what it is made of, change nothing. -/

namespace DeviceGateway

open Json
open Json.Shape (Writes)
open Relation (ReflTransGen)

/-- What is encoded is decoded to what it was encoded from. What is accepted is accepted with any
members more that are no fields, and is decoded to the same, which its encoding is decoded to. -/
structure Json.Faithful {α : Type} (encode : α → Json) (decode : Decoder α) : Prop where
  decode_encode : ∀ a, decode (encode a) = .ok a
  accepted : ∀ j a, decode j = .ok a →
    (∀ j', ReflTransGen (Adds decode.schema) j j' → decode j' = .ok a) ∧ decode (encode a) = .ok a

theorem Json.Faithful.of_tolerant {α : Type} {encode : α → Json} {decode : Decoder α}
    [decode.Tolerant] (h : ∀ a, decode (encode a) = .ok a) : Faithful encode decode where
  decode_encode := h
  accepted _ a hok := ⟨fun _ hadds => Decoder.Tolerant.accepts_many decode hadds hok, h a⟩

/-! ### Names, texts and attributes -/

theorem AdminState.decode_encode (s : AdminState) : decode s.encode = .ok s := by
  cases s <;> rfl

instance : AdminState.decode.Tolerant := inferInstanceAs (Json.variant AdminState.names).Tolerant

theorem OperatingState.decode_encode (s : OperatingState) : decode s.encode = .ok s := by
  cases s <;> rfl

instance : OperatingState.decode.Tolerant :=
  inferInstanceAs (Json.variant OperatingState.names).Tolerant

theorem ValueKind.decode_encode (k : ValueKind) : decode k.encode = .ok k := by
  cases k <;> rfl

instance : ValueKind.decode.Tolerant := inferInstanceAs (Json.variant ValueKind.names).Tolerant

theorem decode_encodeTexts (ss : List String) : Json.list text (encodeTexts ss) = .ok ss :=
  list_encode text_encode ss

theorem decode_encodeAttributes (t : Table Json) : Json.table anything (t.encode id) = .ok t :=
  table_encode (fun _ => rfl) t

theorem decode_encodeCommand (name : String) : decodeCommand (encodeCommand name) = .ok name :=
  (Writes.required (text_encode name)).decode (by decide)

instance : decodeCommand.Tolerant := Shape.Tolerant.decode (by decide) _

/-! ### Profiles and requests -/

namespace Units

theorem decode_encode (u : Units) : decode u.encode = .ok u := by
  have h : shape.Writes u _ := Writes.pure Units.mk
    |>.and (.optional (text_encode u.kind))
    |>.and (.optional (text_encode u.readWrite))
    |>.and (.optional (text_encode u.defaultValue))
  exact h.decode (by decide)

instance : shape.Tolerant := by
  unfold shape
  infer_instance

instance : decode.Tolerant := Shape.Tolerant.decode (by decide) _

end Units

namespace ValueSpec

theorem decode_encode (s : ValueSpec) : decode s.encode = .ok s := by
  have h : shape.Writes s _ := Writes.pure ValueSpec.mk
    |>.and (.optional (ValueKind.decode_encode s.kind))
    |>.and (.optional (text_encode s.readWrite))
    |>.and (.optional (text_encode s.minimum))
    |>.and (.optional (text_encode s.maximum))
    |>.and (.optional (text_encode s.defaultValue))
    |>.and (.optional (text_encode s.base))
    |>.and (.optional (text_encode s.scale))
    |>.and (.optional (text_encode s.offset))
    |>.and (.optional (text_encode s.assertion))
  exact h.decode (by decide)

instance : shape.Tolerant := by
  unfold shape
  infer_instance

instance : decode.Tolerant := Shape.Tolerant.decode (by decide) _

end ValueSpec

namespace Properties

theorem decode_encode (p : Properties) : decode p.encode = .ok p := by
  have h : shape.Writes p _ := Writes.pure Properties.mk
    |>.and (.optional (ValueSpec.decode_encode p.value))
    |>.and (.optional (Units.decode_encode p.units))
  exact h.decode (by decide)

instance : shape.Tolerant := by
  unfold shape
  infer_instance

instance : decode.Tolerant := Shape.Tolerant.decode (by decide) _

end Properties

namespace DeviceObject

theorem decode_encode (o : DeviceObject) : decode o.encode = .ok o := by
  have h : shape.Writes o _ := Writes.pure DeviceObject.mk
    |>.and (.required (text_encode o.name))
    |>.and (.optional (text_encode o.description))
    |>.and (.optional (text_encode o.tag))
    |>.and (.optional (Properties.decode_encode o.properties))
    |>.and (.optional (decode_encodeAttributes o.attributes))
  exact h.decode (by decide)

instance : shape.Tolerant := by
  unfold shape
  infer_instance

instance : decode.Tolerant := Shape.Tolerant.decode (by decide) _

end DeviceObject

namespace Operation

theorem decode_encode (o : Operation) : decode o.encode = .ok o := by
  have h : shape.Writes o _ := Writes.pure Operation.mk
    |>.and (.optional (text_encode o.index))
    |>.and (.optional (text_encode o.operation))
    |>.and (.optional (text_encode o.object))
    |>.and (.optional (text_encode o.parameter))
    |>.and (.optional (text_encode o.resource))
    |>.and (.optional (decode_encodeTexts o.secondary))
    |>.and (.optional (table_encode text_encode o.mappings))
  exact h.decode (by decide)

instance : shape.Tolerant := by
  unfold shape
  infer_instance

instance : decode.Tolerant := Shape.Tolerant.decode (by decide) _

end Operation

namespace Resource

theorem decode_encode (r : Resource) : decode r.encode = .ok r := by
  have h : shape.Writes r _ := Writes.pure Resource.mk
    |>.and (.required (text_encode r.name))
    |>.and (.optional (list_encode Operation.decode_encode r.get))
    |>.and (.optional (list_encode Operation.decode_encode r.set))
  exact h.decode (by decide)

instance : shape.Tolerant := by
  unfold shape
  infer_instance

instance : decode.Tolerant := Shape.Tolerant.decode (by decide) _

end Resource

namespace Profile

theorem decode_encode (p : Profile) : decode p.encode = .ok p := by
  have h : shape.Writes p _ := Writes.pure Profile.mk
    |>.and (.optional (text_encode p.id))
    |>.and (.required (text_encode p.name))
    |>.and (.optional (text_encode p.manufacturer))
    |>.and (.optional (text_encode p.model))
    |>.and (.optional (text_encode p.description))
    |>.and (.optional (decode_encodeTexts p.labels))
    |>.and (.optional (list_encode DeviceObject.decode_encode p.objects))
    |>.and (.optional (list_encode Resource.decode_encode p.resources))
    |>.and (.optional (list_encode decode_encodeCommand p.commands))
  exact h.decode (by decide)

instance : shape.Tolerant := by
  unfold shape
  infer_instance

instance : decode.Tolerant := Shape.Tolerant.decode (by decide) _

end Profile

namespace Request

theorem decode_encode (r : Request) : decode r.encode = .ok r := by
  have h : shape.Writes r _ := Writes.pure Request.mk
    |>.and (.required (Operation.decode_encode r.operation))
    |>.and (.required (DeviceObject.decode_encode r.object))
  exact h.decode (by decide)

instance : shape.Tolerant := by
  unfold shape
  infer_instance

instance : decode.Tolerant := Shape.Tolerant.decode (by decide) _

end Request

/-! ### Devices -/

namespace Addressable

theorem decode_encode (a : Addressable) : decode a.encode = .ok a := by
  have h : shape.Writes a _ := Writes.pure Addressable.mk
    |>.and (.optional (text_encode a.name))
    |>.and (.optional (text_encode a.protocol))
    |>.and (.optional (text_encode a.address))
    |>.and (.optional (port_encode a.port))
    |>.and (.optional (text_encode a.path))
  exact h.decode (by decide)

instance : shape.Tolerant := by
  unfold shape
  infer_instance

instance : decode.Tolerant := Shape.Tolerant.decode (by decide) _

end Addressable

namespace Device

theorem decode_encode (d : Device) : decode d.encode = .ok d := by
  have h : shape.Writes d _ := Writes.pure Device.mk
    |>.and (.required (text_encode d.id))
    |>.and (.required (text_encode d.name))
    |>.and (.required (text_encode d.profile))
    |>.and (.optional (AdminState.decode_encode d.adminState))
    |>.and (.optional (OperatingState.decode_encode d.operatingState))
    |>.and (.optional (Addressable.decode_encode d.addressable))
    |>.and (.optional (text_encode d.description))
    |>.and (.optional (decode_encodeTexts d.labels))
  exact h.decode (by decide)

instance : shape.Tolerant := by
  unfold shape
  infer_instance

instance : decode.Tolerant := Shape.Tolerant.decode (by decide) _

end Device

/-! ### Events -/

namespace Reading

theorem decode_encode (r : Reading) : decode r.encode = .ok r := by
  have h : shape.Writes r _ := Writes.pure Reading.mk
    |>.and (.required (text_encode r.device))
    |>.and (.required (text_encode r.name))
    |>.and (.required (text_encode r.value))
    |>.and (.required (epoch_encode r.origin))
  exact h.decode (by decide)

instance : shape.Tolerant := by
  unfold shape
  infer_instance

instance : decode.Tolerant := Shape.Tolerant.decode (by decide) _

end Reading

namespace Event

theorem decode_encode (e : Event) : decode e.encode = .ok e := by
  have h : shape.Writes e _ := Writes.pure Event.mk
    |>.and (.required (text_encode e.device))
    |>.and (.required (epoch_encode e.origin))
    |>.and (.required (list_encode Reading.decode_encode e.readings))
  exact h.decode (by decide)

instance : shape.Tolerant := by
  unfold shape
  infer_instance

instance : decode.Tolerant := Shape.Tolerant.decode (by decide) _

end Event

/-! ### All of them -/

/-- Every form in which something is read or written is decoded to what it was encoded from,
whatever else its objects hold. -/
theorem json_forms_faithful :
    Faithful Device.encode Device.decode ∧
    Faithful Addressable.encode Addressable.decode ∧
    Faithful Profile.encode Profile.decode ∧
    Faithful DeviceObject.encode DeviceObject.decode ∧
    Faithful ValueSpec.encode ValueSpec.decode ∧
    Faithful Resource.encode Resource.decode ∧
    Faithful Operation.encode Operation.decode ∧
    Faithful Request.encode Request.decode ∧
    Faithful Reading.encode Reading.decode ∧
    Faithful Event.encode Event.decode :=
  ⟨.of_tolerant Device.decode_encode, .of_tolerant Addressable.decode_encode,
    .of_tolerant Profile.decode_encode, .of_tolerant DeviceObject.decode_encode,
    .of_tolerant ValueSpec.decode_encode, .of_tolerant Resource.decode_encode,
    .of_tolerant Operation.decode_encode, .of_tolerant Request.decode_encode,
    .of_tolerant Reading.decode_encode, .of_tolerant Event.decode_encode⟩

/-- What an addressable does not know is passed over within a device, too. -/
example : Device.decode (.object [("id", .string "1"), ("zone", .null), ("name", .string "Pump"),
    ("profile", .string "Meter"), ("addressable", .object [("slot", .integer 4)])]) =
      .ok { id := "1", name := "Pump", profile := "Meter" } := rfl

end DeviceGateway
