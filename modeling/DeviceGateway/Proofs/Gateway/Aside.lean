import DeviceGateway.Proofs.Channel
import DeviceGateway.Proofs.Gateway.Frame
import DeviceGateway.Proofs.Intake

/-! What goes on beside the intake. Commands, reports and publications leave the intake and
its channel alone, and they do not change how long a batch takes to publish; once the
channel is closed the same holds for what a driver pushes. -/

namespace DeviceGateway.Gateway

variable {δ μ : Type}

/-! ### What the intake does with batches -/

/-- For how long the intake publishes a batch that it begins at `clock`. -/
def publishTime (g : Gateway δ μ) (clock : Nat) (b : Batch) : Nat :=
  match b.event? g.settings.dataTransform (g.epoch + Int64.ofNat clock) g.registry with
  | none => 0
  | some e => (g.publisher.publish e).delay

/-- The batches that the intake began, and when. -/
def begun (g : Gateway δ μ) : List (Nat × Batch) :=
  g.trace.filterMap fun e => match e.2 with
    | .began b => some (e.1, b)
    | _ => none

/-- `h` is `g` but for what goes on beside the intake. -/
structure Aside (g h : Gateway δ μ) : Prop where
  intake : h.intake = g.intake
  channel : h.channel = g.channel
  clock : h.clock = g.clock
  cancelled : h.cancelled = g.cancelled
  begun : h.begun = g.begun
  publishTime : h.publishTime = g.publishTime
  /-- What is ready stays so. -/
  ready : g.ready ⊆ h.ready

namespace Aside

variable {g h k : Gateway δ μ}

theorem refl (g : Gateway δ μ) : g.Aside g :=
  ⟨rfl, rfl, rfl, rfl, rfl, rfl, List.Subset.refl _⟩

theorem trans (hgh : g.Aside h) (hhk : h.Aside k) : g.Aside k where
  intake := hhk.intake.trans hgh.intake
  channel := hhk.channel.trans hgh.channel
  clock := hhk.clock.trans hgh.clock
  cancelled := hhk.cancelled.trans hgh.cancelled
  begun := hhk.begun.trans hgh.begun
  publishTime := hhk.publishTime.trans hgh.publishTime
  ready := List.Subset.trans hgh.ready hhk.ready

end Aside

variable (g : Gateway δ μ)

theorem begun_record (d : Deed) : (g.record d).begun =
    g.begun ++ match d with
      | .began b => [(g.clock, b)]
      | _ => [] := by
  unfold begun record
  rw [List.filterMap_append]
  cases d <;> rfl

theorem record_aside {d : Deed} (hd : ∀ b, d ≠ .began b) : g.Aside (g.record d) := by
  refine ⟨rfl, rfl, rfl, rfl, ?_, rfl, List.Subset.refl _⟩
  rw [begun_record]
  cases d with
  | began b => exact absurd rfl (hd b)
  | _ => exact List.append_nil _

theorem settleOutcome_aside (device : String) (o : Outcome) :
    g.Aside (g.settleOutcome device o) := by
  refine ⟨rfl, rfl, rfl, rfl, rfl, ?_, List.subset_append_left ..⟩
  funext clock b
  have he := b.event?_settle g.registry device g.settings.dataTransform
    (g.epoch + Int64.ofNat clock) o
  unfold publishTime settleOutcome enqueue
  simp only [he]

theorem enqueue_aside (ts : List GatewayTask) : g.Aside (g.enqueue ts) :=
  ⟨rfl, rfl, rfl, rfl, rfl, rfl, List.subset_append_left ..⟩

theorem aside_outcome : OutcomeFrame (Aside (δ := δ) (μ := μ)) where
  refl := .refl
  trans := .trans
  settle := settleOutcome_aside
  publish g _ := g.enqueue_aside _
  published g _ := g.record_aside fun _ => Deed.noConfusion

/-- A batch that is processed has begun, and keeps the intake busy while it is published. -/
theorem process_begins (b : Batch) :
    (g.process b).1 = (if g.publishTime g.clock b = 0 then none
      else some (g.clock + g.publishTime g.clock b)) ∧
    (g.record (.began b)).Aside (g.process b).2 := by
  refine ⟨?_, aside_outcome.process g b⟩
  rw [process_eq]
  have hevent : g.publishTime g.clock b =
      match b.event? g.settings.dataTransform g.wall g.registry with
      | none => 0
      | some e => (g.publisher.publish e).delay := rfl
  cases ho : b.outcome? g.settings.dataTransform g.wall g.registry with
  | none =>
    have he : b.event? g.settings.dataTransform g.wall g.registry = none := by
      simp only [Batch.event?, ho]
    rw [he] at hevent
    rw [hevent, if_pos rfl]
  | some o =>
    cases he : b.event? g.settings.dataTransform g.wall g.registry with
    | none =>
      rw [he] at hevent
      rw [hevent, if_pos rfl]
    | some e =>
      rw [he] at hevent
      rw [hevent]

/-- Commands and reports go on beside the intake. -/
theorem aside_report [Driver δ] : ReportFrame (Aside (δ := δ) (μ := μ)) where
  toOutcomeFrame := aside_outcome
  answer _ _ _ := ⟨rfl, rfl, rfl, rfl, rfl, rfl, List.Subset.refl _⟩
  sleep _ _ _ _ := ⟨rfl, rfl, rfl, rfl, rfl, rfl, List.Subset.refl _⟩
  read g d rs := by
    have hdriver : g.Aside { g with
      driver := (Driver.read g.driver g.wall d.addressable rs).2 } :=
      ⟨rfl, rfl, rfl, rfl, rfl, rfl, List.Subset.refl _⟩
    exact hdriver.trans (record_aside _ fun _ => Deed.noConfusion)
  reported g device source := by
    have hnoted := g.record_aside (d := .reported device .disabled) fun _ => Deed.noConfusion
    exact hnoted.trans ⟨rfl, rfl, rfl, rfl, rfl, rfl, List.Subset.refl _⟩

/-! ### The channel and its feeder -/

theorem wakeIntake_aside : g.Aside g.wakeIntake :=
  aside_outcome.toFrame.wakeIntake (fun g => g.enqueue_aside _) g

theorem begun_channel : ChannelFrame fun g h : Gateway δ μ => h.begun = g.begun where
  refl _ := rfl
  trans hgh hhk := hhk.trans hgh
  conduit _ _ _ _ := rfl
  accepted g b := (g.begun_record (.accepted b)).trans (List.append_nil _)

/-- A refill changes nothing but the channel. -/
theorem refill_aside : { g with channel := g.refill.channel }.Aside g.refill := by
  have hbegun := begun_channel.refill g
  unfold refill at hbegun ⊢
  cases hf : g.feeder with
  | none => exact ⟨rfl, rfl, rfl, rfl, rfl, rfl, List.Subset.refl _⟩
  | some f =>
    rw [hf] at hbegun
    exact ⟨rfl, rfl, rfl, rfl, hbegun, rfl, List.Subset.refl _⟩

theorem refill_channel : ∃ bs, g.refill.channel = (g.channel.fill bs).1 := by
  unfold refill
  cases g.feeder with
  | none => exact ⟨[], rfl⟩
  | some f => exact ⟨f.outbox, rfl⟩

theorem refill_aside_of_closed (h : g.channel.closed = true) : g.Aside g.refill := by
  obtain ⟨bs, hbs⟩ := g.refill_channel
  rw [Channel.fill_of_closed h] at hbs
  have haside := g.refill_aside
  rwa [hbs] at haside

section Feed

variable [Driver δ]

/-- A push of the driver changes nothing but the channel. -/
theorem feed_aside : { g with channel := g.feed.channel }.Aside g.feed := by
  unfold feed
  cases g.feeder with
  | none => exact ⟨rfl, rfl, rfl, rfl, rfl, rfl, List.Subset.refl _⟩
  | some f =>
    have hwake := wakeIntake_aside { g with feeder := f.tick g.driver g.wall }.refill
    have hrefill := refill_aside { g with feeder := f.tick g.driver g.wall }
    have haside := hrefill.trans hwake
    simp only [hwake.channel]
    exact ⟨haside.intake, haside.channel, haside.clock, haside.cancelled, haside.begun,
      haside.publishTime, haside.ready⟩

theorem feed_channel : ∃ bs, g.feed.channel = (g.channel.fill bs).1 := by
  unfold feed
  cases g.feeder with
  | none => exact ⟨[], rfl⟩
  | some f =>
    obtain ⟨bs, hbs⟩ := refill_channel { g with feeder := f.tick g.driver g.wall }
    exact ⟨bs, (wakeIntake_aside _).channel.trans hbs⟩

theorem feed_aside_of_closed (h : g.channel.closed = true) : g.Aside g.feed := by
  obtain ⟨bs, hbs⟩ := g.feed_channel
  rw [Channel.fill_of_closed h] at hbs
  have haside := g.feed_aside
  rwa [hbs] at haside

end Feed

/-- What survives everything beside the intake, pushes, and steps of the intake is kept. -/
theorem Kept.of_aside [Driver δ] [MetadataSource μ] {P : Gateway δ μ → Prop}
    (haside : ∀ g h, P g → g.Aside h → P h) (hready : ∀ g ts, P g → P { g with ready := ts })
    (hfeed : ∀ g, P g → P g.feed) (hstep : ∀ g g', P g → g.intakeStep = some g' → P g') :
    Kept P :=
  .of_intakeStep (fun g _ ht h => haside g _ h (aside_report.runTask g ht)) hready hfeed hstep

end DeviceGateway.Gateway
