import DeviceGateway.Decimal.Text
import DeviceGateway.Value.Kind

/-! What can go wrong between a caller and a device, and how it is worded. -/

namespace DeviceGateway

inductive GatewayError where
  | locked (what : String)
  | deviceNotFound (device : String)
  | profileNotFound (profile : String)
  | commandNotFound (profile command : String)
  | objectNotFound (profile object : String)
  | alreadyExists (what : String)
  | tooManyOperations (device command : String) (count max : Nat)
  | typeMismatch (actual requested : ValueKind)
  | transformParse (detail : String)
  | invalidParameter (detail : String)
  | overflow (value : Double) (kind : ValueKind)
  | assertionFailed (expected actual : String)
  | mappingNotFound (value : String)
  | timeout (milliseconds : Nat)
  | driver (detail : String)
  | server (detail : String)
  deriving DecidableEq

namespace GatewayError

def message : GatewayError → String
  | .locked what => what ++ " is locked"
  | .deviceNotFound device => "Device not found: " ++ device
  | .profileNotFound profile => "Device profile not found: " ++ profile
  | .commandNotFound profile command =>
    "Command " ++ command ++ " not found for profile " ++ profile
  | .objectNotFound profile object =>
    "Device object " ++ object ++ " not found in profile " ++ profile
  | .alreadyExists what => what ++ " already exists"
  | .tooManyOperations device command count max =>
    "MaxCmdOps (" ++ toString max ++ ") exceeded for device " ++ device ++ " command " ++
      command ++ ": " ++ toString count ++ " operations"
  | .typeMismatch actual requested =>
    "Type mismatch: value is " ++ actual.name ++ ", requested " ++ requested.name
  | .transformParse detail => "Transform parse error: " ++ detail
  | .invalidParameter detail => "Invalid parameter: " ++ detail
  | .overflow value kind =>
    "Value " ++ String.ofList value.text ++ " overflows " ++ kind.name
  | .assertionFailed expected actual =>
    "Assertion (" ++ expected ++ ") failed with value: " ++ actual
  | .mappingNotFound value => "No mapping found for value: " ++ value
  | .timeout milliseconds => "Operation timed out after " ++ toString milliseconds ++ " ms"
  | .driver detail => "Driver error: " ++ detail
  | .server detail => "Internal error: " ++ detail

/-- Errors that callers see as "not found". -/
def isNotFound : GatewayError → Bool
  | .deviceNotFound _ | .profileNotFound _ | .commandNotFound .. | .objectNotFound .. => true
  | _ => false

/-- Errors that callers see as a failure of the gateway. -/
def isServerError : GatewayError → Bool
  | .tooManyOperations .. | .driver _ | .server _ | .timeout _ => true
  | _ => false

/-- Failures of one value, which drop a reading and not the whole command. -/
def isTransformError : GatewayError → Bool
  | .transformParse _ | .overflow .. | .assertionFailed .. | .mappingNotFound _
  | .typeMismatch .. => true
  | _ => false

end GatewayError

end DeviceGateway
