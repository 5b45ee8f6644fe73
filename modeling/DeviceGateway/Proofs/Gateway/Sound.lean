import DeviceGateway.Proofs.Gateway.Apart
import DeviceGateway.Proofs.Gateway.Aside

/-! Sound gateways. Whatever is asked of a gateway, in any order, its channel holds no more
than it has room for, and its intake never oversleeps: it has its turn when what it
publishes is published. -/

namespace DeviceGateway.Gateway

variable {δ μ : Type}

/-- What the intake publishes is published later. -/
def Ahead (g : Gateway δ μ) : Prop := ∀ t, g.intake = .serving (some t) → g.clock < t

/-- The channel has room for what it holds, and the intake, if it is due, is among what is
ready or still to be run. -/
structure Sound (todo : List GatewayTask) (g : Gateway δ μ) : Prop where
  fits : g.channel.Fits
  awake : g.Ahead ∨ .intake ∈ g.ready ∨ .intake ∈ todo

variable {g h : Gateway δ μ} {todo : List GatewayTask}

theorem ahead_of_ne (hi : ∀ t, g.intake ≠ .serving (some t)) : g.Ahead :=
  fun t ht => absurd ht (hi t)

theorem Sound.congr (hg : g.Sound todo) (hintake : h.intake = g.intake)
    (hchannel : h.channel = g.channel) (hclock : h.clock = g.clock) (hready : g.ready ⊆ h.ready) :
    h.Sound todo where
  fits := by rw [hchannel]; exact hg.fits
  awake := by
    refine hg.awake.imp (fun hahead t ht => ?_) (Or.imp_left fun hmem => hready hmem)
    rw [hclock]
    exact hahead t (hintake.symm.trans ht)

theorem Sound.aside (hg : g.Sound todo) (hh : g.Aside h) : h.Sound todo :=
  hg.congr hh.intake hh.channel hh.clock hh.ready

/-! ### The intake -/

/-- An intake that has taken a step is ahead. -/
theorem ahead_intakeStep {g' : Gateway δ μ} (hstep : g.intakeStep = some g') : g'.Ahead := by
  cases intakeMove_of_step hstep with
  | publish | leave | drainPublish => exact ahead_of_ne (by simp)
  | notice =>
    refine ahead_of_ne fun t ht => ?_
    rw [(refill_aside _).intake] at ht
    cases ht
  | @take p =>
    obtain ⟨hbusy, haside⟩ := process_begins { g with channel := p.2 }.refill p.1
    have hclock := haside.clock
    intro t ht
    simp only [hbusy, IntakeState.serving.injEq] at ht
    split at ht <;> cases ht
    simp only [hclock, record]
    omega
  | drainTake =>
    refine ahead_of_ne fun t ht => ?_
    simp only [drainState] at ht
    split at ht <;> cases ht
  | finish | giveUp => exact ahead_of_ne (by simp [record])

/-- An intake without a step is ahead, too. -/
theorem ahead_of_intakeStep_none (hstep : g.intakeStep = none) : g.Ahead := by
  intro t hi
  rw [intakeStep_publishing hi] at hstep
  split at hstep
  · assumption
  · cases hstep

theorem ahead_intakeSteps (g : Gateway δ μ) (n : Nat) : (g.intakeSteps (n + 1)).Ahead := by
  cases hstep : g.intakeStep with
  | none =>
    rw [intakeSteps_of_none hstep]
    exact ahead_of_intakeStep_none hstep
  | some g' =>
    rw [intakeSteps_succ hstep]
    exact intakeSteps_keeps (fun _ _ _ => ahead_intakeStep) (ahead_intakeStep hstep) n

theorem fits_refill (hg : g.channel.Fits) : g.refill.channel.Fits := by
  obtain ⟨bs, hbs⟩ := g.refill_channel
  rw [hbs]
  exact hg.fill bs

theorem fits_feed [Driver δ] (hg : g.channel.Fits) : g.feed.channel.Fits := by
  obtain ⟨bs, hbs⟩ := g.feed_channel
  rw [hbs]
  exact hg.fill bs

theorem fits_process (hg : g.channel.Fits) (b : Batch) : (g.process b).2.channel.Fits := by
  rw [(g.process_begins b).2.channel]
  exact hg

theorem fits_intakeStep (hg : g.channel.Fits) {g' : Gateway δ μ}
    (hstep : g.intakeStep = some g') : g'.channel.Fits := by
  cases intakeMove_of_step hstep with
  | publish | leave | drainPublish | finish | giveUp => exact hg
  | notice =>
    have hclosed : g.channel.close.Fits := hg
    exact fits_refill hclosed
  | @take p _ _ hp =>
    have htaken : Channel.Fits { g with channel := p.2 }.channel := hg.take? hp
    exact fits_process (fits_refill htaken) p.1
  | @drainTake _ _ p _ hp =>
    have htaken : Channel.Fits { g with channel := p.2 }.channel := hg.take? hp
    exact fits_process htaken p.1

/-! ### Runs -/

/-- At any time the intake is ahead or has just been made ready. -/
theorem Sound.jump (hg : g.Sound todo) (t : Nat) : (g.jump t).Sound todo := by
  refine ⟨hg.fits, ?_⟩
  by_cases hlate : ∃ u, g.intake = .serving (some u) ∧ u ≤ t
  · obtain ⟨u, hu, hle⟩ := hlate
    refine .inr (.inl ?_)
    simp [Gateway.jump, enqueue, intakeTime?, hu, hle]
  · exact .inl fun u hu => Nat.lt_of_not_le fun hle => hlate ⟨u, hu, hle⟩

theorem Sound.refill (hg : g.Sound todo) : g.refill.Sound todo := by
  have hfilled : Sound todo { g with channel := g.refill.channel } :=
    ⟨fits_refill hg.fits, hg.awake⟩
  exact hfilled.aside g.refill_aside

theorem Sound.feed [Driver δ] (hg : g.Sound todo) : g.feed.Sound todo := by
  have hfed : Sound todo { g with channel := g.feed.channel } := ⟨fits_feed hg.fits, hg.awake⟩
  exact hfed.aside g.feed_aside

theorem Sound.push (hg : g.Sound []) (b : Batch) : (g.push b).2.Sound [] := by
  unfold Gateway.push
  split
  · have hsent : Sound [] ({ g with channel := g.channel.send b }.record (.accepted b)) :=
      ⟨hg.fits.send b, hg.awake⟩
    exact hsent.aside (wakeIntake_aside _)
  · exact hg

theorem Sound.release (hg : g.Sound []) : g.release.Sound [] := by
  have hreleased : Sound [] { g with channel := g.channel.release } :=
    ⟨hg.fits.release, hg.awake⟩
  exact hreleased.refill.aside (wakeIntake_aside _)

section Runs

variable [Driver δ] [MetadataSource μ]

/-- A task is done with, and the intake may be due to run again only if it was before. -/
theorem Sound.runTask {t : GatewayTask} (hg : g.Sound (t :: todo)) :
    (g.runTask t).Sound todo := by
  by_cases ht : t = .intake
  · subst ht
    exact ⟨intakeSteps_keeps (fun _ _ h => fits_intakeStep h) hg.fits _,
      .inl (g.ahead_intakeSteps _)⟩
  · have hrest : g.Sound todo := by
      refine ⟨hg.fits, hg.awake.imp_right (Or.imp_right fun h => ?_)⟩
      exact List.mem_of_ne_of_mem (Ne.symm ht) h
    exact hrest.aside (aside_report.runTask g ht)

theorem durable_sound : Durable (Sound (δ := δ) (μ := μ) []) where
  runReady g hg := by
    have hready : Sound g.ready { g with ready := [] } := by
      refine ⟨hg.fits, hg.awake.imp_right fun h => .inr ?_⟩
      simpa using h
    exact foldl_runTask (P := fun ts g => g.Sound ts) (fun _ _ _ hg => hg.runTask) hready
  feed _ hg := hg.feed
  apart _ _ hg hh := hg.congr hh.intake hh.channel hh.clock hh.ready
  jump _ t hg := hg.jump t
  push _ b hg := hg.push b
  reserve _ hg := ⟨hg.fits.reserve, hg.awake⟩
  release _ hg := hg.release

theorem Sound.start (hg : g.Sound []) : g.start.2.Sound [] := by
  unfold Gateway.start
  split
  · exact hg
  · exact ⟨.ofCapacity _, .inl (ahead_of_ne (by simp [Gateway.record, Gateway.enqueue]))⟩

theorem Sound.stop (hg : g.Sound []) (force : Bool) : (g.stop force).Sound [] := by
  let cancelled : Gateway δ μ :=
    { g with cancelled := true, hasSender := false, running := false }
  have hcancelled : cancelled.Sound [] := ⟨hg.fits, hg.awake⟩
  have hawaited := durable_sound.awaited (g := g)
    (hcancelled.aside cancelled.wakeIntake_aside)
  exact ⟨hawaited.fits, hawaited.awake⟩

/-- Whatever is asked of a gateway, it stays sound. -/
theorem Sound.step {g' : Gateway δ μ} (hg : g.Sound []) (hs : g.Step g') : g'.Sound [] := by
  rcases durable_sound.step hg hs with hh | rfl | ⟨force, rfl⟩
  · exact hh
  · exact hg.start
  · exact hg.stop force

theorem Reachable.sound (h : g.Reachable) : g.Sound [] := by
  induction h with
  | new settings driver source publisher epoch =>
    exact ⟨Nat.zero_le _, .inl (ahead_of_ne (by simp))⟩
  | step _ hs ih => exact ih.step hs

end Runs

end DeviceGateway.Gateway
