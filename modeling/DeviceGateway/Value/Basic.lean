import DeviceGateway.Binary.Arithmetic
import DeviceGateway.Decimal.Numeral
import DeviceGateway.Error
import DeviceGateway.Event.Basic
import DeviceGateway.Text.Basic
import DeviceGateway.Value.Bytes

/-! Typed values: a scalar that a driver read from, or is to write to, one resource,
with the time at which it was read. Its payload is what travels: a flag, a text,
or the big-endian bytes of a number. -/

namespace DeviceGateway

inductive Payload where
  | flag (value : Bool)
  | text (value : String)
  | number (bytes : List UInt8)
  deriving DecidableEq, Repr

/-- A value of one resource. The origin is zero while the time is not known. -/
structure TypedValue where
  resource : String
  origin : Int64
  kind : ValueKind
  payload : Payload
  deriving DecidableEq, Repr

/-- A value as the caller's own type. -/
inductive Native where
  | flag (value : Bool)
  | string (value : String)
  | integer (value : Int)
  | single (value : Single)
  | double (value : Double)
  deriving DecidableEq

namespace TypedValue

variable (resource : String) (origin : Int64)

/-! ### Construction -/

def ofBool (b : Bool) : TypedValue := ⟨resource, origin, .bool, .flag b⟩

def ofString (s : String) : TypedValue := ⟨resource, origin, .string, .text s⟩

/-- A number of the kind from its bit pattern. -/
def ofPattern (kind : ValueKind) (pattern : Nat) : TypedValue :=
  ⟨resource, origin, kind, .number (Bytes.ofNat (kind.byteWidth.getD 0) pattern)⟩

/-- An integer of the kind. -/
def ofInteger (kind : ValueKind) (n : Int) : TypedValue :=
  ⟨resource, origin, kind, .number (Bytes.ofInt (kind.byteWidth.getD 0) n)⟩

def ofSingle (x : Single) : TypedValue := ofPattern resource origin .float32 x.toNat

def ofDouble (x : Double) : TypedValue := ofPattern resource origin .float64 x.toNat

/-! ### The value as the caller's own type -/

variable (v : TypedValue)

/-- The bytes of a number, most significant first. -/
def bytes? : Option (List UInt8) :=
  match v.payload with
  | .number bytes => some bytes
  | _ => none

/-- The bytes of a number of the requested kind. -/
def bytesFor (requested : ValueKind) : Except GatewayError (List UInt8) :=
  match v.bytes? with
  | some bytes =>
    if some bytes.length = requested.byteWidth then .ok bytes
    else .error (.server (requested.name ++ " payload has " ++ toString bytes.length ++ " bytes"))
  | none => .error (.typeMismatch v.kind requested)

/-- The payload read as the requested kind. -/
def decode (requested : ValueKind) : Except GatewayError Native :=
  match requested.layout with
  | .flag =>
    match v.payload with
    | .flag b => .ok (.flag b)
    | _ => .error (.typeMismatch v.kind requested)
  | .text =>
    match v.payload with
    | .text s => .ok (.string s)
    | _ => .error (.typeMismatch v.kind requested)
  | .integer signed _ => (v.bytesFor requested).map fun bs => .integer (Bytes.toInt signed bs)
  | .single => (v.bytesFor requested).map fun bs => .single (BitVec.ofNat _ (Bytes.toNat bs))
  | .double => (v.bytesFor requested).map fun bs => .double (BitVec.ofNat _ (Bytes.toNat bs))

/-- The value as the requested kind, which must be its own. -/
def as (requested : ValueKind) : Except GatewayError Native :=
  if v.kind = requested then v.decode requested
  else .error (.typeMismatch v.kind requested)

/-! ### Text -/

end TypedValue

/-- The text of a native value. -/
def Native.text : Native → String
  | .flag true => "true"
  | .flag false => "false"
  | .string s => s
  | .integer n => String.ofList (integerText n)
  | .single x => String.ofList x.text
  | .double x => String.ofList x.text

namespace TypedValue

/-- The text of a number. -/
def numberText (v : TypedValue) : Except GatewayError String :=
  if v.kind.isNumeric then (v.decode v.kind).map Native.text
  else .error (.server (v.kind.name ++ " value has no numeric payload"))

/-- The text of a value: numbers positionally, with the fewest digits that read
back. -/
def text (v : TypedValue) : String :=
  match v.payload with
  | .flag true => "true"
  | .flag false => "false"
  | .text s => s
  | .number _ =>
    match v.numberText with
    | .ok s => s
    | .error e => e.message

/-- The kind and the text, for messages. -/
def describe (v : TypedValue) : String := v.kind.name ++ ": " ++ v.text

/-- What a text denotes as a value of the kind, or what is wrong with it. Blanks at
either end do not count, except in a string. -/
def native? (kind : ValueKind) (text : String) : Except String Native :=
  let trimmed := Text.trim text.toList
  match kind.layout with
  | .flag =>
    if trimmed = "true".toList then .ok (.flag true)
    else if trimmed = "false".toList then .ok (.flag false)
    else .error "provided string was not `true` or `false`"
  | .text => .ok (.string text)
  | .integer signed bytes =>
    match integerOfText (leastInteger signed bytes) (greatestInteger signed bytes) trimmed with
    | .ok n => .ok (.integer n)
    | .error e => .error e.message
  | .single =>
    match Binary.ofText .single trimmed with
    | .ok x => .ok (.single x)
    | .error e => .error e.message
  | .double =>
    match Binary.ofText .double trimmed with
    | .ok x => .ok (.double x)
    | .error e => .error e.message

/-- The value of a kind that holds a native value. -/
def ofNative (resource : String) (origin : Int64) (kind : ValueKind) : Native → TypedValue
  | .flag b => ofBool resource origin b
  | .string s => ofString resource origin s
  | .integer n => ofInteger resource origin kind n
  | .single x => ofSingle resource origin x
  | .double x => ofDouble resource origin x

/-- The value of the kind that a text denotes. -/
def parse (kind : ValueKind) (resource : String) (origin : Int64) (text : String) :
    Except GatewayError TypedValue :=
  match native? kind text with
  | .ok n => .ok (ofNative resource origin kind n)
  | .error detail =>
    .error (.invalidParameter
      ("cannot parse " ++ Text.quote text ++ " as " ++ kind.name ++ ": " ++ detail))

/-- The reading of a value, at `now` when its own time is not known. -/
def toReading (v : TypedValue) (now : Int64) (device name : String) : Reading :=
  ⟨device, name, v.text, if v.origin = 0 then now else v.origin⟩

end TypedValue

end DeviceGateway
