import DeviceGateway.Device.Basic
import DeviceGateway.Error
import DeviceGateway.Intake

/-! Drivers: what speaks the protocol of the devices. A driver in state `δ` answers
reads and writes, each after some time, and may push values of its own at regular
times. -/

namespace DeviceGateway

/-- An answer, and how many milliseconds it takes. -/
structure Reply (α : Type) where
  delay : Nat := 0
  outcome : Except GatewayError α

/-- What can be asked of a driver in state `δ`. Times are of the wall clock. -/
class Driver (δ : Type) where
  start : δ → Except GatewayError Unit × δ
  /-- Values for the requests, in order, of those that could be satisfied. -/
  read : δ → Int64 → Addressable → List Request → Reply (List TypedValue) × δ
  /-- Writes one value for each request. -/
  write : δ → Addressable → List Request → List TypedValue → Reply Unit × δ
  stop : δ → Bool → Except GatewayError Unit × δ
  /-- Forgets a device that is no longer there. -/
  disconnect : δ → Addressable → Except GatewayError Unit × δ
  /-- How many milliseconds pass between two pushes, if there are any. -/
  period? : δ → Option Nat
  /-- What is pushed at a time. -/
  push : δ → Int64 → List Batch

namespace Reply

/-- The answer as it comes under a time limit: how long it is waited for, and what is
got. An answer after exactly the limit still counts. -/
def within {α : Type} (r : Reply α) (limit : Nat) : Nat × Except GatewayError α :=
  if r.delay ≤ limit then (r.delay, r.outcome) else (limit, .error (.timeout limit))

/-- The answer with its error as one of the driver. -/
def asDriver {α : Type} (r : Reply α) : Reply α :=
  { r with outcome := r.outcome.mapError fun
    | .driver detail => .driver detail
    | e => .driver e.message }

end Reply

end DeviceGateway
