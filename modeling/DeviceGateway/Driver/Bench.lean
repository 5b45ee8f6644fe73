import DeviceGateway.Feeder

/-! A driver on the bench: alone with a channel, without a gateway. It shows what the
driver pushes while time passes. -/

namespace DeviceGateway

structure Bench (δ : Type) where
  driver : δ
  clock : Nat := 0
  /-- The wall clock at time zero. -/
  epoch : Int64 := 0
  feeder : Option Feeder := none
  channel : Channel Batch := { capacity := 1, closed := true }

namespace Bench

variable {δ : Type} [Driver δ] (b : Bench δ)

def wall : Int64 := b.epoch + Int64.ofNat b.clock

/-- The driver started on a new channel. -/
def start (capacity : Nat) : Except GatewayError Unit × Bench δ :=
  let (result, driver) := Driver.start b.driver
  (result, { b with
    driver
    channel := .ofCapacity capacity
    feeder := Feeder.ofDriver? driver b.clock })

/-- At most `n` times what is pushed is sent and the next push is made. -/
def settleSteps : Nat → Bench δ → Bench δ
  | 0, b => b
  | n + 1, b =>
    match b.feeder with
    | none => b
    | some f =>
      let (feeder, channel) := f.deliver b.channel
      match feeder with
      | none => { b with feeder := none, channel }
      | some f =>
        if f.isDue b.clock then
          settleSteps n { b with feeder := f.tick b.driver b.wall, channel }
        else { b with feeder := some f, channel }

/-- All that happens without time passing. -/
def settle : Bench δ :=
  match b.feeder with
  | none => b
  | some f => settleSteps (f.overdue b.driver b.clock + 1) b

/-- The time of the next push, unless something waits to be sent. -/
def nextPush? : Option Nat :=
  b.feeder.bind fun f => if f.outbox.isEmpty then some f.next else none

/-- Time passes up to `stop`, in at most `n` pushes. -/
def passSteps (stop : Nat) : Nat → Bench δ → Bench δ
  | 0, b => { b with clock := stop }
  | n + 1, b =>
    let b := b.settle
    match b.nextPush? with
    | none => { b with clock := stop }
    | some t => if t < stop then passSteps stop n { b with clock := t } else { b with clock := stop }

/-- `ms` milliseconds pass. What falls due at the end of them is still to come. -/
def pass (ms : Nat) : Bench δ := passSteps (b.clock + ms) (ms + 1) b

/-- What waits in the channel, and the bench with the channel emptied. -/
def collect : List Batch × Bench δ :=
  (b.channel.queue, { b with channel := { b.channel with queue := [] } })

/-- The receiving side gone, with what waits for it. -/
def close : Bench δ := { b with channel := { b.channel.close with queue := [] } }

end Bench

end DeviceGateway
