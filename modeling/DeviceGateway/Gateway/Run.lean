import DeviceGateway.Gateway.Basic

/-! How a gateway runs: what each task does, and how time passes. The intake processes
one batch after the other. Once a stop is called it closes the channel and drains it;
the deadline counts only while it has nothing to process. -/

namespace DeviceGateway.Gateway

variable {δ μ : Type} [Driver δ] [MetadataSource μ] (g : Gateway δ μ)

/-! ### The channel and its feeder -/

/-- The intake is to look at the channel, unless it is busy. -/
def wakeIntake : Gateway δ μ :=
  match g.intake with
  | .serving none | .draining _ _ none => g.enqueue [.intake]
  | _ => g

/-- What the feeder holds is let into the channel as far as there is room. -/
def refill : Gateway δ μ :=
  match g.feeder with
  | none => g
  | some f =>
    let (feeder, channel) := f.deliver g.channel
    let accepted := channel.queue.drop g.channel.queue.length
    { g with feeder, channel }.recordAll (accepted.map .accepted)

/-- A push of the driver that is due. -/
def feed : Gateway δ μ :=
  match g.feeder with
  | none => g
  | some f => { g with feeder := f.tick g.driver g.wall }.refill.wakeIntake

/-- Offers a batch without waiting. -/
def push (b : Batch) : Offer × Gateway δ μ :=
  match g.channel.offer with
  | .accepted =>
    (.accepted, { g with channel := g.channel.send b }.record (.accepted b) |>.wakeIntake)
  | other => (other, g)

/-- Reserves a slot of the channel. -/
def reserve : Offer × Gateway δ μ :=
  (g.channel.offer, { g with channel := g.channel.reserve })

/-- Gives back all reserved slots. -/
def release : Gateway δ μ := { g with channel := g.channel.release }.refill.wakeIntake

/-! ### The intake -/

/-- The intake processes a batch: until when is it busy? -/
def process (b : Batch) : Option Nat × Gateway δ μ :=
  let g := g.record (.began b)
  let transform := g.settings.dataTransform
  match b.outcome? transform g.wall g.registry with
  | none => (none, g)
  | some o =>
    let event := b.event? transform g.wall g.registry
    let g := g.settleOutcome b.device o
    match event with
    | none => (none, g)
    | some e =>
      let delay := (g.publisher.publish e).delay
      (if delay = 0 then none else some (g.clock + delay), g.record (.published e))

/-- One step of the intake; none when it has to wait or there is none. -/
def intakeStep : Option (Gateway δ μ) :=
  match g.intake with
  | .absent => none
  | .serving (some t) => if g.clock < t then none else some { g with intake := .serving none }
  | .serving none =>
    if g.cancelled then
      some { g with
        channel := g.channel.close
        intake := .draining (g.clock + g.settings.drainTimeout) 0 none }.refill
    else
      match g.channel.take? with
      | some (b, channel) =>
        let (busy, g) := { g with channel }.refill.process b
        some { g with intake := .serving busy }
      -- without a stop only its last sender can have closed the channel
      | none => if g.channel.isDone then some { g with intake := .absent } else none
  | .draining deadline n (some t) =>
    if g.clock < t then none else some { g with intake := .draining deadline (n + 1) none }
  | .draining deadline n none =>
    match g.channel.take? with
    | some (b, channel) =>
      let (busy, g) := { g with channel }.process b
      let intake := match busy with
        | none => .draining deadline (n + 1) none
        | some t => .draining deadline n (some t)
      some { g with intake }
    | none =>
      if g.channel.isDone then
        some ({ g with intake := .absent }.record (.drained ⟨n, none⟩))
      else if deadline ≤ g.clock then
        some ({ g with intake := .absent }.record (.drained ⟨n, some 0⟩))
      else none

/-- At most `n` steps of the intake. -/
def intakeSteps : Nat → Gateway δ μ → Gateway δ μ
  | 0, g => g
  | n + 1, g =>
    match g.intakeStep with
    | none => g
    | some g => intakeSteps n g

/-- The intake works until it has to wait: it takes each batch once, and has at most
four steps besides. -/
def runIntake : Gateway δ μ :=
  let outbox := (g.feeder.map (·.outbox.length)).getD 0
  g.intakeSteps (g.channel.queue.length + outbox + 4)

/-! ### Commands -/

/-- Fails while the gateway is locked. -/
def checkLock : Except GatewayError Unit :=
  if g.locked then .error (.locked ("service " ++ g.settings.name)) else .ok ()

/-- The device of a key, and what a command of it amounts to. -/
def prepare (key command : String) (m : Method) :
    Except GatewayError (Device × List Request) := do
  g.checkLock
  let d ← g.registry.lookup key
  if d.isLocked then .error (.locked ("device " ++ d.name))
  else
    let requests ← g.registry.resolve g.settings.maxOperations d command m
    return (d, requests)

/-- Asks the driver for the values of a command. -/
def beginRead (key command : String) : Except GatewayError PendingRead × Gateway δ μ :=
  match g.prepare key command .get with
  | .error e => (.error e, g)
  | .ok (d, requests) =>
    let (reply, driver) := Driver.read g.driver g.wall d.addressable requests
    let (wait, outcome) := reply.asDriver.within g.settings.timeout
    (.ok ⟨d, requests, wait, outcome⟩,
      { g with driver }.record (.read d.addressable requests))

/-- The answer of a command once the driver has answered. An event without readings is
not published. -/
def finishRead (p : PendingRead) : Except GatewayError Answer × Gateway δ μ :=
  match p.outcome with
  | .error e => (.error e, g)
  | .ok values =>
    let o := Outcome.ofValues g.settings.dataTransform g.wall p.device.name p.requests values
    let event : Event := ⟨p.device.name, g.wall, o.readings⟩
    let g := g.settleOutcome p.device.name o
    (.ok ⟨event, o.complete⟩, if event.isEmpty then g else g.enqueue [.publish event])

/-! ### Tasks -/

def answer (name : String) (r : Except GatewayError Answer) : Gateway δ μ :=
  { g with answers := g.answers ++ [(name, r)] }

/-- The end of a read for one of many devices. -/
def runFinish (name : String) (p : PendingRead) : Gateway δ μ :=
  let (r, g) := g.finishRead p
  g.answer name r

def runTask : GatewayTask → Gateway δ μ
  | .intake => g.runIntake
  | .publish e => g.record (.published e)
  | .report device =>
    let g := g.record (.reported device .disabled)
    match MetadataSource.report g.source device .disabled with
    | .ok source => { g with source }
    | .error _ => g
  | .read name id command =>
    match g.beginRead id command with
    | (.error e, g) => g.answer name (.error e)
    | (.ok p, g) =>
      if p.wait = 0 then g.runFinish name p
      else { g with sleeping := g.sleeping ++ [(g.clock + p.wait, .finish name p)] }
  | .finish name p => g.runFinish name p

/-- The tasks that are ready are run, in order; what they make ready is left. -/
def runReady : Gateway δ μ := g.ready.foldl runTask { g with ready := [] }

/-! ### Time -/

/-- Runs what is ready. What that makes ready is at most the publishing and reporting of
what it did, and the intake. -/
def quiesce : Gateway δ μ := g.runReady.runReady.runReady

def feedIsDue : Bool := (g.feeder.map (·.isDue g.clock)).getD false

/-- At most `n` pushes that are due. -/
def feedSteps : Nat → Gateway δ μ → Gateway δ μ
  | 0, g => g
  | n + 1, g => if g.feedIsDue then feedSteps n g.feed.quiesce else g

/-- All that happens without time passing. -/
def settle : Gateway δ μ :=
  let g := g.quiesce
  match g.feeder with
  | none => g
  | some f => g.feedSteps (f.overdue g.driver g.clock)

/-- The time at which the intake is to go on by itself. -/
def intakeTime? : Option Nat :=
  match g.intake with
  | .serving busy => busy
  | .draining _ _ (some t) => some t
  | .draining deadline _ none => some deadline
  | .absent => none

/-- The time of the next push, unless something waits to be let in. -/
def feedTime? : Option Nat :=
  g.feeder.bind fun f => if f.outbox.isEmpty then some f.next else none

/-- The times at which something is to be done. -/
def times : List Nat :=
  g.intakeTime?.toList ++ g.feedTime?.toList ++ g.sleeping.map (·.1)

/-- The clock set to `t`, and what is due then made ready. -/
def jump (t : Nat) : Gateway δ μ :=
  let woken := if g.intakeTime?.any (· ≤ t) then [GatewayTask.intake] else []
  let due := g.sleeping.filter (·.1 ≤ t)
  { g with clock := t, sleeping := g.sleeping.filter (t < ·.1) }.enqueue
    (woken ++ due.map Prod.snd)

/-- Time passes up to `stop`, in at most `n` jumps. What falls due at `stop` is made ready
and not yet run. -/
def passSteps (stop : Nat) : Nat → Gateway δ μ → Gateway δ μ
  | 0, g => g.jump stop
  | n + 1, g =>
    let g := g.settle
    match (g.times.filter (· < stop)).min? with
    | none => g.jump stop
    | some t => passSteps stop n (g.jump t)

/-- `ms` milliseconds pass. -/
def pass (ms : Nat) : Gateway δ μ :=
  if ms = 0 then g else g.passSteps (g.clock + ms) ms

/-- The time at which the next command for many devices has its answer. -/
def answerTime? : Option Nat := (g.sleeping.map (·.1)).min?

/-- Something is waited for until it has no time any more at which it goes on, at most `n` times. -/
def await (time? : Gateway δ μ → Option Nat) : Nat → Gateway δ μ → Gateway δ μ
  | 0, g => g
  | n + 1, g =>
    let g := g.settle
    match time? g with
    | none => g
    | some t => await time? n (g.pass (t - g.clock))

end DeviceGateway.Gateway
