import DeviceGateway.Gateway.Run

/-! Steps of a gateway, one equation for each state that a step can start from, and what
follows for whole runs: what every task keeps is kept while time passes. -/

namespace DeviceGateway.Gateway

variable {δ μ : Type}

/-! ### Steps -/

section Steps

variable (g : Gateway δ μ)

theorem process_eq (b : Batch) : g.process b =
    match b.outcome? g.settings.dataTransform g.wall g.registry with
    | none => (none, g.record (.began b))
    | some o =>
      match b.event? g.settings.dataTransform g.wall g.registry with
      | none => (none, (g.record (.began b)).settleOutcome b.device o)
      | some e =>
        (if (g.publisher.publish e).delay = 0 then none
          else some (g.clock + (g.publisher.publish e).delay),
        ((g.record (.began b)).settleOutcome b.device o).record (.published e)) := rfl

variable {g}

theorem intakeStep_absent (h : g.intake = .absent) : g.intakeStep = none := by
  simp only [intakeStep, h]

theorem intakeStep_publishing {t : Nat} (h : g.intake = .serving (some t)) : g.intakeStep =
    if g.clock < t then none else some { g with intake := .serving none } := by
  simp only [intakeStep, h]

/-- The intake notices a stop before it looks at the channel. -/
theorem intakeStep_serving (h : g.intake = .serving none) : g.intakeStep =
    if g.cancelled then
      some { g with
        channel := g.channel.close
        intake := .draining (g.clock + g.settings.drainTimeout) 0 none }.refill
    else
      match g.channel.take? with
      | some p => some { ({ g with channel := p.2 }.refill.process p.1).2 with
          intake := .serving ({ g with channel := p.2 }.refill.process p.1).1 }
      | none => if g.channel.isDone then some { g with intake := .absent } else none := by
  simp only [intakeStep, h]
  cases g.channel.take? <;> rfl

theorem intakeStep_drain_publishing {deadline n t : Nat}
    (h : g.intake = .draining deadline n (some t)) : g.intakeStep =
    if g.clock < t then none else some { g with intake := .draining deadline (n + 1) none } := by
  simp only [intakeStep, h]

/-- What the intake does after a batch that it began while draining. -/
def drainState (deadline n : Nat) : Option Nat → IntakeState
  | none => .draining deadline (n + 1) none
  | some t => .draining deadline n (some t)

theorem intakeStep_draining {deadline n : Nat} (h : g.intake = .draining deadline n none) :
    g.intakeStep =
    match g.channel.take? with
    | some p => some { ({ g with channel := p.2 }.process p.1).2 with
        intake := drainState deadline n ({ g with channel := p.2 }.process p.1).1 }
    | none =>
      if g.channel.isDone then some ({ g with intake := .absent }.record (.drained ⟨n, none⟩))
      else if deadline ≤ g.clock then
        some ({ g with intake := .absent }.record (.drained ⟨n, some 0⟩))
      else none := by
  simp only [intakeStep, h, drainState]
  cases g.channel.take? <;> rfl

variable (g) in
/-- What one step of the intake can be. -/
inductive IntakeMove : Gateway δ μ → Prop
  | publish {t : Nat} (hi : g.intake = .serving (some t)) (ht : t ≤ g.clock) :
    IntakeMove { g with intake := .serving none }
  | notice (hi : g.intake = .serving none) (hc : g.cancelled = true) :
    IntakeMove { g with
      channel := g.channel.close
      intake := .draining (g.clock + g.settings.drainTimeout) 0 none }.refill
  | take {p : Batch × Channel Batch} (hi : g.intake = .serving none) (hc : g.cancelled = false)
    (hp : g.channel.take? = some p) :
    IntakeMove { ({ g with channel := p.2 }.refill.process p.1).2 with
      intake := .serving ({ g with channel := p.2 }.refill.process p.1).1 }
  /-- Nobody is left who could send. -/
  | leave (hi : g.intake = .serving none) (hc : g.cancelled = false)
    (hp : g.channel.take? = none) (hd : g.channel.isDone = true) :
    IntakeMove { g with intake := .absent }
  | drainPublish {deadline n t : Nat} (hi : g.intake = .draining deadline n (some t))
    (ht : t ≤ g.clock) : IntakeMove { g with intake := .draining deadline (n + 1) none }
  | drainTake {deadline n : Nat} {p : Batch × Channel Batch}
    (hi : g.intake = .draining deadline n none) (hp : g.channel.take? = some p) :
    IntakeMove { ({ g with channel := p.2 }.process p.1).2 with
      intake := drainState deadline n ({ g with channel := p.2 }.process p.1).1 }
  | finish {deadline n : Nat} (hi : g.intake = .draining deadline n none)
    (hp : g.channel.take? = none) (hd : g.channel.isDone = true) :
    IntakeMove ({ g with intake := .absent }.record (.drained ⟨n, none⟩))
  | giveUp {deadline n : Nat} (hi : g.intake = .draining deadline n none)
    (hp : g.channel.take? = none) (hd : g.channel.isDone = false) (ht : deadline ≤ g.clock) :
    IntakeMove ({ g with intake := .absent }.record (.drained ⟨n, some 0⟩))

theorem intakeMove_of_step {g' : Gateway δ μ} (h : g.intakeStep = some g') :
    g.IntakeMove g' := by
  cases hi : g.intake with
  | absent => simp [intakeStep_absent hi] at h
  | serving busy =>
    cases busy with
    | some t =>
      rw [intakeStep_publishing hi] at h
      split at h <;> cases h
      next ht => exact .publish hi (Nat.le_of_not_lt ht)
    | none =>
      rw [intakeStep_serving hi] at h
      split at h
      · next hc =>
        cases h
        exact .notice hi hc
      · next hc =>
        have hserving : g.cancelled = false := by simpa using hc
        split at h
        · next p hp =>
          cases h
          exact .take hi hserving hp
        · next hp =>
          split at h <;> cases h
          next hd => exact .leave hi hserving hp hd
  | draining deadline n busy =>
    cases busy with
    | some t =>
      rw [intakeStep_drain_publishing hi] at h
      split at h <;> cases h
      next ht => exact .drainPublish hi (Nat.le_of_not_lt ht)
    | none =>
      rw [intakeStep_draining hi] at h
      split at h
      · next p hp =>
        cases h
        exact .drainTake hi hp
      · next hp =>
        split at h
        · next hd =>
          cases h
          exact .finish hi hp hd
        · next hd =>
          split at h <;> cases h
          next ht => exact .giveUp hi hp (by simpa using hd) ht

variable (g) in
/-- A read that succeeded is settled, and its event is published if it has readings. -/
theorem finishRead_ok {p : PendingRead} {values : List TypedValue} (h : p.outcome = .ok values) :
    let o := Outcome.ofValues g.settings.dataTransform g.wall p.device.name p.requests values
    let event : Event := ⟨p.device.name, g.wall, o.readings⟩
    g.finishRead p = (.ok ⟨event, o.complete⟩, (g.settleOutcome p.device.name o).enqueue
      (if event.isEmpty then [] else [.publish event])) := by
  intro o event
  simp only [finishRead, h]
  by_cases he : event.isEmpty
  · simp only [o, event] at he
    simp [o, event, he, enqueue, settleOutcome]
  · simp only [o, event] at he
    simp [o, event, he]

theorem intakeSteps_succ {g' : Gateway δ μ} (h : g.intakeStep = some g') (n : Nat) :
    g.intakeSteps (n + 1) = g'.intakeSteps n := by
  simp only [intakeSteps, h]

theorem intakeSteps_of_none (h : g.intakeStep = none) (n : Nat) : g.intakeSteps n = g := by
  cases n with
  | zero => rfl
  | succ n => simp only [intakeSteps, h]

section Tasks

variable [Driver δ]

theorem beginRead_error {key command : String} {e : GatewayError}
    (h : g.prepare key command .get = .error e) : g.beginRead key command = (.error e, g) := by
  simp only [beginRead, h]

/-- The driver is asked, and its answer is held back until it is due. -/
theorem beginRead_ok {key command : String} {d : Device} {rs : List Request}
    (h : g.prepare key command .get = .ok (d, rs)) :
    let reply := Driver.read g.driver g.wall d.addressable rs
    let answer := reply.1.asDriver.within g.settings.timeout
    g.beginRead key command = (.ok ⟨d, rs, answer.1, answer.2⟩,
      { g with driver := reply.2 }.record (.read d.addressable rs)) := by
  simp only [beginRead, h]

variable [MetadataSource μ] (g)

theorem runTask_report (device : String) : g.runTask (.report device) =
    match MetadataSource.report g.source device .disabled with
    | .ok source => { g.record (.reported device .disabled) with source }
    | .error _ => g.record (.reported device .disabled) := rfl

/-- The trace says that a report is made, whether or not the source takes it. -/
theorem exists_runTask_report (device : String) : ∃ source, g.runTask (.report device) =
    { g.record (.reported device .disabled) with source } := by
  rw [runTask_report]
  split
  · exact ⟨_, rfl⟩
  · exact ⟨g.source, rfl⟩

theorem runTask_read (name id command : String) : g.runTask (.read name id command) =
    match (g.beginRead id command).1 with
    | .error e => (g.beginRead id command).2.answer name (.error e)
    | .ok p =>
      if p.wait = 0 then (g.beginRead id command).2.runFinish name p
      else { (g.beginRead id command).2 with
        sleeping := (g.beginRead id command).2.sleeping ++
          [((g.beginRead id command).2.clock + p.wait, .finish name p)] } := by
  simp only [runTask]
  split <;> simp only [*]

end Tasks

end Steps

/-! ### Runs -/

section Runs

/-- What every step of the intake keeps is kept however many it makes. -/
theorem intakeSteps_keeps {P : Gateway δ μ → Prop}
    (hstep : ∀ g g', P g → g.intakeStep = some g' → P g') {g : Gateway δ μ} (h : P g) (n : Nat) :
    P (g.intakeSteps n) := by
  induction n generalizing g with
  | zero => exact h
  | succ n ih =>
    unfold intakeSteps
    split
    · exact h
    · next g' hg => exact ih (hstep g g' h hg)

variable [Driver δ] [MetadataSource μ]

/-- What each task keeps, in view of the tasks that are left, is kept when all of them are run. -/
theorem foldl_runTask {P : List GatewayTask → Gateway δ μ → Prop}
    (htask : ∀ t ts g, P (t :: ts) g → P ts (g.runTask t)) {ts : List GatewayTask}
    {g : Gateway δ μ} (h : P ts g) : P [] (ts.foldl runTask g) := by
  induction ts generalizing g with
  | nil => exact h
  | cons t ts ih => exact ih (htask t ts g h)

/-- A property that outlives whatever is ready, and the pushes of the driver. -/
structure Stable (P : Gateway δ μ → Prop) : Prop where
  runReady : ∀ g, P g → P g.runReady
  feed : ∀ g, P g → P g.feed

/-- A property that no task and no push of the driver undoes. -/
structure Kept (P : Gateway δ μ → Prop) : Prop where
  task : ∀ g t, P g → P (g.runTask t)
  feed : ∀ g, P g → P g.feed
  ready : ∀ g ts, P g → P { g with ready := ts }

section Kept

variable {P Q : Gateway δ μ → Prop} {g : Gateway δ μ}

theorem Kept.or (hp : Kept P) (hq : Kept Q) : Kept fun g => P g ∨ Q g where
  task g t h := h.imp (hp.task g t) (hq.task g t)
  feed g h := h.imp (hp.feed g) (hq.feed g)
  ready g ts h := h.imp (hp.ready g ts) (hq.ready g ts)

theorem Kept.exists {ι : Type} {P : ι → Gateway δ μ → Prop} (hk : ∀ i, Kept (P i)) :
    Kept fun g => ∃ i, P i g where
  task g t h := h.imp fun i => (hk i).task g t
  feed g h := h.imp fun i => (hk i).feed g
  ready g ts h := h.imp fun i => (hk i).ready g ts

theorem Kept.foldl (hk : Kept P) (h : P g) (ts : List GatewayTask) : P (ts.foldl runTask g) :=
  foldl_runTask (P := fun _ => P) (fun t _ g => hk.task g t) h

theorem Kept.stable (hk : Kept P) : Stable P where
  runReady g h := hk.foldl (hk.ready g [] h) g.ready
  feed := hk.feed

end Kept

namespace Stable

variable {P R : Gateway δ μ → Prop} {g : Gateway δ μ}

theorem quiesce (hk : Stable P) (h : P g) : P g.quiesce :=
  hk.runReady _ (hk.runReady _ (hk.runReady g h))

theorem feedSteps (hk : Stable P) (h : P g) (n : Nat) : P (g.feedSteps n) := by
  induction n generalizing g with
  | zero => exact h
  | succ n ih =>
    unfold Gateway.feedSteps
    split
    · exact ih (hk.quiesce (hk.feed g h))
    · exact h

/-- What is ready may give the property first. -/
theorem settle_of_runReady (hk : Stable P) (h : P g.runReady) : P g.settle := by
  have hq : P g.quiesce := hk.runReady _ (hk.runReady _ h)
  unfold Gateway.settle
  simp only
  split
  · exact hq
  · exact hk.feedSteps hq _

theorem settle (hk : Stable P) (h : P g) : P g.settle := hk.settle_of_runReady (hk.runReady g h)

/-- While time passes what is kept has to survive the jumps before the end; the last jump
may give something else. -/
theorem passSteps (hk : Stable P) {stop : Nat} (hjump : ∀ g t, t < stop → P g → P (g.jump t))
    (hend : ∀ g, P g → R (g.jump stop)) (h : P g) (n : Nat) : R (g.passSteps stop n) := by
  induction n generalizing g with
  | zero => exact hend g h
  | succ n ih =>
    unfold Gateway.passSteps
    have hs := hk.settle h
    simp only
    split
    · exact hend _ hs
    · next t ht =>
      have hlt : t < stop := by
        simpa using (List.mem_filter.1 (List.min?_mem ht)).2
      exact ih (hjump _ t hlt hs)

end Stable

/-- A property that outlives, besides, that the clock is moved. -/
structure Enduring (P : Gateway δ μ → Prop) : Prop extends Stable P where
  jump : ∀ g t, P g → P (g.jump t)

namespace Enduring

variable {P : Gateway δ μ → Prop} {g : Gateway δ μ}

theorem pass (hk : Enduring P) (h : P g) (ms : Nat) : P (g.pass ms) := by
  unfold Gateway.pass
  split
  · exact h
  · exact hk.passSteps (fun g t _ => hk.jump g t) (fun g => hk.jump g _) h ms

theorem await (hk : Enduring P) (time? : Gateway δ μ → Option Nat) (h : P g) (n : Nat) :
    P (g.await time? n) := by
  induction n generalizing g with
  | zero => exact h
  | succ n ih =>
    unfold Gateway.await
    have hs := hk.settle h
    simp only
    split
    · exact hs
    · exact ih (hk.pass hs _)

end Enduring

/-! ### Quiet gateways -/

/-- Nothing is to be done, now or later. -/
structure Quiet (g : Gateway δ μ) : Prop where
  ready : g.ready = []
  sleeping : g.sleeping = []
  feeder : g.feeder = none
  intake : g.intakeTime? = none

namespace Quiet

variable {g : Gateway δ μ}

theorem settle_eq (h : g.Quiet) : g.settle = g := by
  have hrun : g.runReady = g := by
    rw [runReady, h.ready, List.foldl_nil, ← h.ready]
  have hquiesce : g.quiesce = g := by rw [quiesce, hrun, hrun, hrun]
  unfold settle
  simp only [hquiesce, h.feeder]

/-- Time passes over a quiet gateway, and nothing else happens. -/
theorem pass_eq (h : g.Quiet) (ms : Nat) : g.pass ms = { g with clock := g.clock + ms } := by
  have hjump : g.jump (g.clock + ms) = { g with clock := g.clock + ms } := by
    simp [jump, enqueue, h.intake, h.sleeping]
  have htimes : g.times = [] := by
    simp [times, feedTime?, h.intake, h.sleeping, h.feeder]
  unfold pass
  split
  · next hms => rw [hms, Nat.add_zero]
  · cases ms with
    | zero => exact hjump
    | succ n =>
      unfold passSteps
      simp only [h.settle_eq, htimes, List.filter_nil, List.min?_nil]
      exact hjump

end Quiet

end Runs

end DeviceGateway.Gateway
