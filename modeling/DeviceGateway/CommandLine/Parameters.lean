import DeviceGateway.Table
import DeviceGateway.Text.Basic

/-! Parameters on the command line: `NAME=VALUE`, cut at the first sign. -/

namespace DeviceGateway

inductive ParameterError where
  | noValue (argument : String)
  | noName (argument : String)
  deriving DecidableEq, Repr

def ParameterError.message : ParameterError → String
  | .noValue argument => "Expected NAME=VALUE, got " ++ Text.quote argument
  | .noName argument => "Empty parameter name in " ++ Text.quote argument

/-- The name and the value of an argument. -/
def parameter (argument : String) : Except ParameterError (String × String) :=
  let (name, rest) := argument.toList.span (· != '=')
  match rest with
  | [] => .error (.noValue argument)
  | _ :: value =>
    if name.isEmpty then .error (.noName argument)
    else .ok (String.ofList name, String.ofList value)

/-- The parameters of the arguments; the last of one name counts. -/
def parameters (arguments : List String) : Except ParameterError (Table String) :=
  (arguments.mapM parameter).map Table.ofList

end DeviceGateway
