import DeviceGateway.Proofs.Gateway.Frame
import DeviceGateway.Proofs.Gateway.Reachable

/-! What goes on apart from the batches. Commands, reports and what commands publish leave
the intake, its channel and its feeder alone, and write nothing about batches. What outlives
that, the work of the intake, pushes and the passing of time outlives everything that can be
asked of a gateway, but for a start or a stop. -/

namespace DeviceGateway

/-- What tells of no batch, and of no start or stop. -/
def Deed.isApart : Deed → Bool
  | .accepted _ | .began _ | .started | .stopped _ => false
  | _ => true

namespace Gateway

variable {δ μ : Type}

/-- `h` is `g` but for what goes on apart from the batches. -/
structure Apart (g h : Gateway δ μ) : Prop where
  intake : h.intake = g.intake
  channel : h.channel = g.channel
  feeder : h.feeder = g.feeder
  clock : h.clock = g.clock
  cancelled : h.cancelled = g.cancelled
  running : h.running = g.running
  hasSender : h.hasSender = g.hasSender
  /-- What is ready stays so. -/
  ready : g.ready ⊆ h.ready
  trace : ∃ new, h.trace = g.trace ++ new ∧ ∀ e ∈ new, e.2.isApart

namespace Apart

variable {g h k : Gateway δ μ}

theorem refl (g : Gateway δ μ) : g.Apart g :=
  ⟨rfl, rfl, rfl, rfl, rfl, rfl, rfl, List.Subset.refl _, [], (List.append_nil _).symm, by simp⟩

theorem trans (hgh : g.Apart h) (hhk : h.Apart k) : g.Apart k where
  intake := hhk.intake.trans hgh.intake
  channel := hhk.channel.trans hgh.channel
  feeder := hhk.feeder.trans hgh.feeder
  clock := hhk.clock.trans hgh.clock
  cancelled := hhk.cancelled.trans hgh.cancelled
  running := hhk.running.trans hgh.running
  hasSender := hhk.hasSender.trans hgh.hasSender
  ready := List.Subset.trans hgh.ready hhk.ready
  trace := exists_append_trans hgh.trace hhk.trace

end Apart

variable (g : Gateway δ μ)

/-- Other changes than those of batches and of the trace are apart. -/
theorem apart_of_eq {h : Gateway δ μ} (hintake : h.intake = g.intake)
    (hchannel : h.channel = g.channel) (hfeeder : h.feeder = g.feeder)
    (hclock : h.clock = g.clock) (hcancelled : h.cancelled = g.cancelled)
    (hrunning : h.running = g.running) (hsender : h.hasSender = g.hasSender)
    (hready : g.ready ⊆ h.ready) (htrace : h.trace = g.trace) : g.Apart h :=
  ⟨hintake, hchannel, hfeeder, hclock, hcancelled, hrunning, hsender, hready, [],
    by rw [htrace, List.append_nil], by simp⟩

theorem record_apart {d : Deed} (hd : d.isApart) : g.Apart (g.record d) := by
  refine ⟨rfl, rfl, rfl, rfl, rfl, rfl, rfl, List.Subset.refl _, [(g.clock, d)], rfl, ?_⟩
  intro e he
  rw [List.mem_singleton.1 he]
  exact hd

theorem enqueue_apart (ts : List GatewayTask) : g.Apart (g.enqueue ts) :=
  apart_of_eq g rfl rfl rfl rfl rfl rfl rfl (List.subset_append_left ..) rfl

theorem settleOutcome_apart (device : String) (o : Outcome) :
    g.Apart (g.settleOutcome device o) :=
  apart_of_eq g rfl rfl rfl rfl rfl rfl rfl (List.subset_append_left ..) rfl

theorem apart_outcome : OutcomeFrame (Apart (δ := δ) (μ := μ)) where
  refl := .refl
  trans := .trans
  settle := settleOutcome_apart
  publish g _ := g.enqueue_apart _
  published g _ := g.record_apart rfl

theorem wakeIntake_apart : g.Apart g.wakeIntake :=
  apart_outcome.toFrame.wakeIntake (fun g => g.enqueue_apart _) g

/-- Commands and reports go on apart from the batches. -/
theorem apart_report [Driver δ] : ReportFrame (Apart (δ := δ) (μ := μ)) where
  toOutcomeFrame := apart_outcome
  answer g _ _ := apart_of_eq g rfl rfl rfl rfl rfl rfl rfl (List.Subset.refl _) rfl
  sleep g _ _ _ := apart_of_eq g rfl rfl rfl rfl rfl rfl rfl (List.Subset.refl _) rfl
  read g d rs := by
    have hdriver : g.Apart { g with
        driver := (Driver.read g.driver g.wall d.addressable rs).2 } :=
      apart_of_eq g rfl rfl rfl rfl rfl rfl rfl (List.Subset.refl _) rfl
    exact hdriver.trans (record_apart _ rfl)
  reported g device source := by
    have hnoted := g.record_apart (d := .reported device .disabled) rfl
    exact hnoted.trans (apart_of_eq _ rfl rfl rfl rfl rfl rfl rfl (List.Subset.refl _) rfl)

section Tasks

variable [Driver δ]

theorem removeDevice_apart (id : String) : g.Apart (g.removeDevice id).2 := by
  unfold removeDevice
  split
  · exact .refl g
  · split
    · exact .refl g
    · next d registry _ =>
      have hremoved : g.Apart { g with
          registry, driver := (Driver.disconnect g.driver d.addressable).2 } :=
        apart_of_eq g rfl rfl rfl rfl rfl rfl rfl (List.Subset.refl _) rfl
      exact hremoved.trans (record_apart _ rfl)

end Tasks

section Durable

variable [Driver δ] [MetadataSource μ]

/-- What survives everything apart from the batches, pushes, and steps of the intake is
kept. -/
theorem Kept.of_apart {P : Gateway δ μ → Prop} (hapart : ∀ g h, P g → g.Apart h → P h)
    (hready : ∀ g ts, P g → P { g with ready := ts }) (hfeed : ∀ g, P g → P g.feed)
    (hstep : ∀ g g', P g → g.intakeStep = some g' → P g') : Kept P :=
  .of_intakeStep (fun g _ ht h => hapart g _ h (apart_report.runTask g ht)) hready hfeed hstep

/-- A property that outlives what goes on apart from the batches, what is done with the
channel, and the passing of time. -/
structure Durable (P : Gateway δ μ → Prop) : Prop extends Enduring P where
  apart : ∀ g h, P g → g.Apart h → P h
  push : ∀ g b, P g → P (g.push b).2
  reserve : ∀ g, P g → P g.reserve.2
  release : ∀ g, P g → P g.release

namespace Durable

variable {P : Gateway δ μ → Prop} {g}

theorem get (hk : Durable P) (h : P g) (key command : String) : P (g.get key command).2 :=
  hk.toEnduring.get (hk.apart _ _ h (apart_report.beginRead g key command)) fun _ p hh =>
    hk.apart _ _ hh (apart_report.finishRead _ p)

theorem getAll (hk : Durable P) (h : P g) (command : String) : P (g.getAll command).2 := by
  have hforget : ∀ g : Gateway δ μ, g.Apart { g with answers := [] } := fun g =>
    apart_of_eq g rfl rfl rfl rfl rfl rfl rfl (List.Subset.refl _) rfl
  exact hk.toEnduring.getAll h (hk.apart _ _ h ((hforget g).trans (enqueue_apart _ _)))
    fun _ hh => hk.apart _ _ hh (hforget _)

theorem put (hk : Durable P) (h : P g) (key command : String) (parameters : Table String) :
    P (g.put key command parameters).2 := by
  refine hk.toEnduring.put h fun d rs vs _ => hk.apart _ _ h ?_
  have hdriver : g.Apart { g with driver := (Driver.write g.driver d.addressable rs vs).2 } :=
    apart_of_eq g rfl rfl rfl rfl rfl rfl rfl (List.Subset.refl _) rfl
  exact hdriver.trans (record_apart _ rfl)

/-- It outlives every step that is not a start or a stop. -/
theorem step (hk : Durable P) (h : P g) {g' : Gateway δ μ} (hs : g.Step g') :
    P g' ∨ g' = g.start.2 ∨ ∃ force, g' = g.stop force := by
  cases hs with
  | start => exact .inr (.inl rfl)
  | stop force => exact .inr (.inr ⟨force, rfl⟩)
  | get key command => exact .inl (hk.get h key command)
  | getAll command => exact .inl (hk.getAll h command)
  | put key command parameters => exact .inl (hk.put h key command parameters)
  | push b => exact .inl (hk.push g b h)
  | reserve => exact .inl (hk.reserve g h)
  | release => exact .inl (hk.release g h)
  | settle => exact .inl (hk.settle h)
  | pass ms => exact .inl (hk.pass h ms)
  | removeDevice id => exact .inl (hk.apart _ _ h (g.removeDevice_apart id))
  | setLocked | manage | drive =>
    exact .inl (hk.apart _ _ h
      (apart_of_eq g rfl rfl rfl rfl rfl rfl rfl (List.Subset.refl _) rfl))

end Durable

end Durable

end Gateway

end DeviceGateway
