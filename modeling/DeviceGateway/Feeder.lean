import DeviceGateway.Channel
import DeviceGateway.Driver.Basic

/-! The feeder of a channel: it takes what a driver pushes, at the driver's own pace,
and waits with what finds no room. Pushes that fall due while it waits are made up
for afterwards. -/

namespace DeviceGateway

structure Feeder where
  /-- When the next push is due. -/
  next : Nat
  /-- What was pushed and is not yet accepted. -/
  outbox : List Batch := []

namespace Feeder

/-- The feeder of a driver that pushes, first at `clock`. -/
def ofDriver? {δ : Type} [Driver δ] (driver : δ) (clock : Nat) : Option Feeder :=
  (Driver.period? driver).map fun _ => { next := clock }

/-- The feeder after it sends what there is room for; it ends at a closed channel. -/
def deliver (f : Feeder) (c : Channel Batch) : Option Feeder × Channel Batch :=
  let (c', rest) := c.fill f.outbox
  (if rest.isEmpty || !c.closed then some { f with outbox := rest } else none, c')

/-- True when a push is to be made at `clock`. -/
def isDue (f : Feeder) (clock : Nat) : Bool := f.outbox.isEmpty && decide (f.next ≤ clock)

/-- The feeder with the push that is due; none when the driver pushes no more. -/
def tick {δ : Type} [Driver δ] (f : Feeder) (driver : δ) (wall : Int64) : Option Feeder :=
  (Driver.period? driver).map fun p =>
    { next := f.next + p, outbox := Driver.push driver wall }

/-- How many pushes are due at `clock` at most. -/
def overdue {δ : Type} [Driver δ] (f : Feeder) (driver : δ) (clock : Nat) : Nat :=
  (clock + 1 - f.next) / (Driver.period? driver).getD 1 + 1

end Feeder

end DeviceGateway
