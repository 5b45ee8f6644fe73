import DeviceGateway.Driver.Script
import DeviceGateway.Proofs.Gateway.Drain
import DeviceGateway.Proofs.Gateway.Sound

/-! Stopping a gateway that is in use. The intake notices the stop when it has published
what it is at, and then drains what waits. The time that it has for that is kept exactly
when it suffices for all publications but the last. -/

namespace DeviceGateway.Gateway

variable {δ μ : Type} {g h : Gateway δ μ} {t : Nat}

/-! ### Until the stop is noticed -/

/-- `g` after some time in which the intake still publishes, until `t`, when it is to notice
the stop. -/
structure Publishing (g : Gateway δ μ) (t : Nat) (h : Gateway δ μ) : Prop where
  intake : h.intake = .serving (some t)
  later : h.clock < t
  cancelled : h.cancelled = true
  begun : h.begun = g.begun
  publishTime : h.publishTime = g.publishTime
  waiting : g.channel.queue <+: h.channel.queue
  capacity : h.channel.capacity = g.channel.capacity
  fits : h.channel.Fits

namespace Publishing

variable {k : Gateway δ μ}

theorem aside (hh : g.Publishing t h) (hk : h.Aside k) : g.Publishing t k where
  intake := hk.intake.trans hh.intake
  later := by rw [hk.clock]; exact hh.later
  cancelled := hk.cancelled.trans hh.cancelled
  begun := hk.begun.trans hh.begun
  publishTime := hk.publishTime.trans hh.publishTime
  waiting := by rw [hk.channel]; exact hh.waiting
  capacity := by rw [hk.channel]; exact hh.capacity
  fits := by rw [hk.channel]; exact hh.fits

/-- A push adds to what waits, as far as there is room. -/
theorem feed [Driver δ] (hh : g.Publishing t h) : g.Publishing t h.feed := by
  obtain ⟨bs, hbs⟩ := h.feed_channel
  obtain ⟨hcapacity, hqueue⟩ := h.channel.fill_queue bs
  rw [← hbs, hh.capacity] at hcapacity
  rw [← hbs] at hqueue
  have hfed : g.Publishing t { h with channel := h.feed.channel } :=
    ⟨hh.intake, hh.later, hh.cancelled, hh.begun, hh.publishTime, hh.waiting.trans hqueue,
      hcapacity, fits_feed hh.fits⟩
  exact hfed.aside h.feed_aside

variable [Driver δ] [MetadataSource μ]

theorem kept (g : Gateway δ μ) (t : Nat) : Kept (g.Publishing t) :=
  .of_aside (fun _ _ hh hk => hh.aside hk)
    (fun _ _ hh => ⟨hh.intake, hh.later, hh.cancelled, hh.begun, hh.publishTime, hh.waiting,
      hh.capacity, hh.fits⟩)
    (fun _ hh => hh.feed) fun h h' hh hstep => by
    rw [intakeStep_publishing hh.intake, if_pos hh.later] at hstep
    cases hstep

/-- When the publication ends the intake is to notice the stop. -/
theorem pass (hh : g.Publishing t h) :
    ∃ waiting, g.channel.queue <+: waiting ∧
      (h.pass (t - h.clock)).Due (g.begun ++ drainSchedule g.publishTime t waiting)
        g.channel.capacity ∧
      .intake ∈ (h.pass (t - h.clock)).ready := by
  have hlater := hh.later
  have hstop : h.clock + (t - h.clock) = t := by omega
  unfold Gateway.pass
  rw [if_neg (by omega), hstop]
  refine (kept g t).stable.passSteps (R := fun k => ∃ waiting, g.channel.queue <+: waiting ∧
    k.Due (g.begun ++ drainSchedule g.publishTime t waiting) g.channel.capacity ∧
    .intake ∈ k.ready) ?_ ?_ hh _
  · intro k t' ht' hk
    exact ⟨hk.intake, ht', hk.cancelled, hk.begun, hk.publishTime, hk.waiting, hk.capacity,
      hk.fits⟩
  · intro k hk
    have hdue : (k.jump t).Due (g.begun ++ drainSchedule g.publishTime t k.channel.queue)
        g.channel.capacity := by
      refine ⟨.inl ⟨some t, hk.intake, hk.cancelled, ?_⟩, ?_, ?_⟩
      · intro t' ht'
        cases ht'
        exact Nat.le_refl t
      · rw [← hk.capacity]
        exact hk.fits.length_le
      · rw [← hk.begun, ← hk.publishTime]
        rfl
    refine ⟨k.channel.queue, hk.waiting, hdue, ?_⟩
    simp [jump, enqueue, intakeTime?, hk.intake]

/-- Awaited once more, the intake begins all that waits when it notices the stop. -/
theorem awaitIntake (hh : g.Publishing t h) {n : Nat} (hn : g.channel.capacity ≤ n) :
    ∃ waiting, g.channel.queue <+: waiting ∧
      (h.await intakeTime? (n + 1)).begun = g.begun ++ drainSchedule g.publishTime t waiting ∧
      (h.await intakeTime? (n + 1)).channel.queue = [] := by
  have hsettle : g.Publishing t h.settle := (kept g t).stable.settle hh
  have htime : h.settle.intakeTime? = some t := by simp only [intakeTime?, hsettle.intake]
  obtain ⟨waiting, hwaiting, hdue, hready⟩ := hsettle.pass
  have hdue' : (h.settle.pass (t - h.settle.clock)).Due
      (g.begun ++ drainSchedule g.publishTime t waiting) n :=
    ⟨hdue.intake, Nat.le_trans hdue.fewer hn, hdue.begun⟩
  refine ⟨waiting, hwaiting, ?_⟩
  simp only [Gateway.await, htime]
  exact hdue'.awaitIntake hready

end Publishing

/-! ### Stopping -/

section Stop

variable {busy : Option Nat}

/-- The intake is to go on now if it is idle or has published. -/
theorem halted_due (hi : g.intake = .serving busy) (hbusy : ∀ t ∈ busy, t ≤ g.clock)
    (hfits : g.channel.Fits) :
    g.halted.Due (g.begun ++ drainSchedule g.publishTime g.clock g.channel.queue)
      (g.channel.capacity + 4) := by
  let cancelled : Gateway δ μ :=
    { g with cancelled := true, hasSender := false, running := false }
  have hdue : cancelled.Due (g.begun ++ drainSchedule g.publishTime g.clock g.channel.queue)
      (g.channel.capacity + 4) :=
    ⟨.inl ⟨busy, hi, rfl, hbusy⟩, Nat.le_add_right_of_le hfits.length_le, rfl⟩
  exact hdue.aside cancelled.wakeIntake_aside

theorem halted_publishing {t : Nat} (hi : g.intake = .serving (some t)) (hlater : g.clock < t)
    (hfits : g.channel.Fits) : g.Publishing t g.halted := by
  let cancelled : Gateway δ μ :=
    { g with cancelled := true, hasSender := false, running := false }
  have hpublishing : g.Publishing t cancelled :=
    ⟨hi, hlater, rfl, rfl, rfl, List.prefix_rfl, rfl, hfits⟩
  exact hpublishing.aside cancelled.wakeIntake_aside

/-- The intake is scheduled if it is idle, or was scheduled before. -/
theorem intake_mem_halted (hi : g.intake = .serving busy)
    (hready : ∀ t ∈ busy, .intake ∈ g.ready) : .intake ∈ g.halted.ready := by
  unfold halted wakeIntake
  simp only [hi]
  cases busy with
  | none => simp [enqueue]
  | some t => exact hready t rfl

variable [Driver δ] [MetadataSource μ]

theorem stop_of_running (g : Gateway δ μ) (force : Bool) (h : g.running = true) :
    (g.stop force).begun = (g.halted.await intakeTime? (g.channel.capacity + 4)).begun ∧
      (g.stop force).channel = (g.halted.await intakeTime? (g.channel.capacity + 4)).channel := by
  have hcapacity : g.halted.channel.capacity = g.channel.capacity :=
    congrArg Channel.capacity (wakeIntake_aside _).channel
  unfold stop
  simp only [h, if_true]
  refine ⟨?_, ?_⟩
  · rw [begun_record, List.append_nil, ← hcapacity]
    rfl
  · rw [← hcapacity]
    rfl

/-- The intake notices the stop when it has published what it is at. It begins all that
waits then, and leaves nothing. -/
theorem Sound.awaitIntake_halted (hg : g.Sound []) (hi : g.intake = .serving busy) :
    let noticed := max g.clock (busy.getD 0)
    let done := g.halted.await intakeTime? (g.channel.capacity + 4)
    ∃ waiting, g.channel.queue <+: waiting ∧ (busy = none → waiting = g.channel.queue) ∧
      done.begun = g.begun ++ drainSchedule g.publishTime noticed waiting ∧
      done.channel.queue = [] := by
  intro noticed done
  cases busy with
  | none =>
    have hnoticed : noticed = g.clock := Nat.max_eq_left (Nat.zero_le g.clock)
    have hready : .intake ∈ g.halted.ready := intake_mem_halted hi (by simp)
    rw [hnoticed]
    exact ⟨_, List.prefix_rfl, fun _ => rfl,
      (halted_due hi (by simp) hg.fits).awaitIntake hready⟩
  | some t =>
    by_cases hlater : g.clock < t
    · have hnoticed : noticed = t := Nat.max_eq_right (Nat.le_of_lt hlater)
      obtain ⟨waiting, hwaiting, hdone⟩ :=
        (halted_publishing hi hlater hg.fits).awaitIntake (Nat.le_add_right _ 3)
      rw [hnoticed]
      exact ⟨waiting, hwaiting, nofun, hdone⟩
    · have hnoticed : noticed = g.clock := Nat.max_eq_left (Nat.not_lt.1 hlater)
      have hready : .intake ∈ g.ready := by
        rcases hg.awake with hahead | hready | hnone
        · exact absurd (hahead t hi) hlater
        · exact hready
        · cases hnone
      have hbusy : ∀ t' ∈ some t, t' ≤ g.clock := by
        intro t' ht'
        cases ht'
        exact Nat.not_lt.1 hlater
      rw [hnoticed]
      exact ⟨_, List.prefix_rfl, fun _ => rfl,
        (halted_due hi hbusy hg.fits).awaitIntake (intake_mem_halted hi fun _ _ => hready)⟩

/-- Whatever waits when the intake notices a stop is begun and nothing is given up. So no
batch begins after the time for draining exactly when all but the last are published
within it. -/
theorem Reachable.stop_in_time_iff (hg : g.Reachable) (force : Bool) (hrunning : g.running = true)
    (hi : g.intake = .serving busy) :
    let noticed := max g.clock (busy.getD 0)
    ∃ waiting, g.channel.queue <+: waiting ∧ (busy = none → waiting = g.channel.queue) ∧
      (g.stop force).begun = g.begun ++ drainSchedule g.publishTime noticed waiting ∧
      (g.stop force).channel.queue = [] ∧
      ((∀ e ∈ (g.stop force).begun.drop g.begun.length,
          e.1 ≤ noticed + g.settings.drainTimeout) ↔
        drainTime g.publishTime noticed waiting.dropLast ≤ g.settings.drainTimeout) := by
  intro noticed
  obtain ⟨hbegun, hchannel⟩ := g.stop_of_running force hrunning
  obtain ⟨waiting, hwaiting, hidle, hdone, hqueue⟩ := hg.sound.awaitIntake_halted hi
  rw [hdone] at hbegun
  rw [← hchannel] at hqueue
  refine ⟨waiting, hwaiting, hidle, hbegun, hqueue, ?_⟩
  rw [hbegun, List.drop_left, drainSchedule_le_iff]
  constructor
  · rintro (rfl | h)
    · exact Nat.zero_le _
    · exact Nat.le_of_add_le_add_left h
  · intro h
    exact .inr (Nat.add_le_add_left h noticed)

/-- A gateway to which three batches are pushed at once after its start. Its publisher
takes 400 milliseconds for each of their events. -/
def crowded (drainTimeout : Nat) : Gateway Script FixedSource :=
  let new : Gateway Script FixedSource := {
    settings := { drainTimeout }
    driver := {}
    source := {
      devices := [.ofNames "1" "Pump" "Meter"]
      profiles := [{ name := "Meter", objects := [.ofSpec "Level" (.plain .string)] }] }
    publisher := ⟨fun _ => { delay := 400, outcome := .ok () }⟩
    epoch := 0 }
  let batch : Batch := ⟨"Pump", [.ofString "Level" 0 "low"]⟩
  (((new.start.2.push batch).2.push batch).2.push batch).2

theorem crowded_reachable (drainTimeout : Nat) : (crowded drainTimeout).Reachable :=
  .step (.step (.step (.step (.new ..) .start) (.push _)) (.push _)) (.push _)

/-- Two publications just fit. -/
theorem stop_in_time_iff_crowded : (crowded 800).Reachable ∧ (crowded 800).running = true ∧
    (crowded 800).intake = .serving none ∧
    ∀ e ∈ ((crowded 800).stop false).begun.drop (crowded 800).begun.length,
      e.1 ≤ (crowded 800).clock + (crowded 800).settings.drainTimeout := by
  have hi : (crowded 800).intake = .serving none := rfl
  obtain ⟨waiting, -, hidle, -, -, hiff⟩ := (crowded_reachable 800).stop_in_time_iff false rfl hi
  rw [hidle rfl] at hiff
  exact ⟨crowded_reachable 800, rfl, rfl, hiff.2 (by decide +kernel)⟩

/-- With 500 milliseconds to drain the last batch begins after 800. -/
theorem stop_begins_after_deadline : (crowded 500).Reachable ∧ (crowded 500).running = true ∧
    (crowded 500).intake = .serving none ∧
    ∃ e ∈ ((crowded 500).stop false).begun.drop (crowded 500).begun.length,
      (crowded 500).clock + (crowded 500).settings.drainTimeout < e.1 :=
  ⟨crowded_reachable 500, rfl, rfl, (800, ⟨"Pump", [.ofString "Level" 0 "low"]⟩),
    by decide +kernel, by decide +kernel⟩

end Stop

end DeviceGateway.Gateway
