import DeviceGateway.Proofs.Gateway.Flow

/-! An intake that could go on is scheduled: it is among what is ready. It works until it
has to wait, and nothing but a push or the time wakes it again. So once everything is done
that takes no time, the intake has nothing to do at once. -/

namespace DeviceGateway

namespace IntakeState

/-- How many steps an intake takes at most besides those that take a batch. -/
def rank : IntakeState → Nat
  | .absent => 0
  | .draining _ _ none => 1
  | .draining _ _ (some _) => 2
  | .serving none => 3
  | .serving (some _) => 4

theorem rank_le (i : IntakeState) : i.rank ≤ 4 := by
  unfold rank
  split <;> decide

end IntakeState

namespace Gateway

variable {δ μ : Type} {g h : Gateway δ μ} {todo : List GatewayTask}

/-! ### Intakes that have to wait -/

/-- The intake has nothing to do at once. -/
def Resting (g : Gateway δ μ) : Prop :=
  match g.intake with
  | .absent => True
  | .serving none => g.cancelled = false ∧ g.channel.queue = [] ∧ g.channel.isDone = false
  | .serving (some t) | .draining _ _ (some t) => g.clock < t
  | .draining deadline _ none =>
    g.channel.queue = [] ∧ g.channel.isDone = false ∧ g.clock < deadline

theorem intakeStep_eq_none_iff : g.intakeStep = none ↔ g.Resting := by
  unfold Resting
  cases hi : g.intake with
  | absent => simp [intakeStep_absent hi]
  | serving busy =>
    cases busy with
    | some t => simp [intakeStep_publishing hi]
    | none =>
      rw [intakeStep_serving hi]
      cases hp : g.channel.take? with
      | some p => cases hc : g.cancelled <;> simp [(Channel.take?_eq_some hp).1]
      | none => cases hc : g.cancelled <;> simp [Channel.take?_eq_none.1 hp]
  | draining deadline n busy =>
    cases busy with
    | some t => simp [intakeStep_drain_publishing hi]
    | none =>
      rw [intakeStep_draining hi]
      cases hp : g.channel.take? with
      | some p => simp [(Channel.take?_eq_some hp).1]
      | none => cases hd : g.channel.isDone <;> simp [Channel.take?_eq_none.1 hp]

theorem Resting.congr (hg : g.Resting) (hintake : h.intake = g.intake)
    (hchannel : h.channel = g.channel) (hclock : h.clock = g.clock)
    (hcancelled : h.cancelled = g.cancelled) : h.Resting := by
  unfold Resting at hg ⊢
  rwa [hintake, hchannel, hclock, hcancelled]

/-- While it publishes an intake rests, whatever else happens. -/
theorem Resting.of_busy {t : Nat} (hclock : g.clock < t)
    (hi : g.intake = .serving (some t) ∨ ∃ deadline n, g.intake = .draining deadline n (some t)) :
    g.Resting := by
  unfold Resting
  rcases hi with hi | ⟨deadline, n, hi⟩
  · simpa only [hi] using hclock
  · simpa only [hi] using hclock

/-! ### An intake works until it has to wait -/

/-- How many batches wait in the channel, or for room in it. -/
def backlog (g : Gateway δ μ) : Nat :=
  g.channel.queue.length + (g.feeder.map (·.outbox.length)).getD 0

theorem backlog_refill (g : Gateway δ μ) : g.refill.backlog ≤ g.backlog := by
  unfold refill backlog
  cases hf : g.feeder with
  | none => simp [hf]
  | some f =>
    have hlength := g.channel.fill_length f.outbox
    simp only [Feeder.deliver, recordAll, Option.map_some, Option.getD_some]
    split
    · simp only [Option.map_some, Option.getD_some]
      omega
    · simp only [Option.map_none, Option.getD_none]
      omega

theorem backlog_process (g : Gateway δ μ) (b : Batch) : (g.process b).2.backlog = g.backlog := by
  have hapart := apart_outcome.process g b
  unfold backlog
  rw [hapart.channel, hapart.feeder]
  rfl

theorem backlog_of_take? {p : Batch × Channel Batch} (hp : g.channel.take? = some p) :
    backlog { g with channel := p.2 } < g.backlog := by
  unfold backlog
  rw [(Channel.take?_eq_some hp).1, List.length_cons]
  simp only
  omega

/-- What an intake publishes it publishes later. -/
theorem clock_lt_of_process {b : Batch} {t : Nat} (h : (g.process b).1 = some t) :
    (g.process b).2.clock < t := by
  rw [(apart_outcome.process g b).clock]
  rw [(g.process_begins b).1] at h
  split at h <;> cases h
  exact Nat.lt_add_of_pos_right (Nat.pos_of_ne_zero ‹_›)

/-- With every step the intake has less left to do, unless it comes to wait. -/
theorem intakeStep_descends (hstep : g.intakeStep = some h) :
    h.Resting ∨ h.backlog + h.intake.rank < g.backlog + g.intake.rank := by
  cases intakeMove_of_step hstep with
  | publish hi | leave hi | drainPublish hi =>
    refine .inr ?_
    rw [hi]
    exact Nat.add_lt_add_left (by simp [IntakeState.rank]) g.backlog
  | notice hi =>
    have hbacklog := backlog_refill { g with
      channel := g.channel.close
      intake := .draining (g.clock + g.settings.drainTimeout) 0 none }
    refine .inr ?_
    rw [hi, (refill_aside _).intake]
    exact Nat.add_lt_add_of_le_of_lt hbacklog (by simp [IntakeState.rank])
  | @take p hi _ hp =>
    have htaken := backlog_of_take? hp
    have hrefill := backlog_refill { g with channel := p.2 }
    have hprocess := backlog_process { g with channel := p.2 }.refill p.1
    have hrank : g.intake.rank = 3 := by rw [hi]; rfl
    -- without a publication to wait for the intake is idle again, with one batch less
    cases hb : ({ g with channel := p.2 }.refill.process p.1).1 with
    | none =>
      refine .inr ?_
      rw [hrank]
      refine Nat.add_lt_add_of_lt_of_le ?_ (Nat.le_refl _)
      exact Nat.lt_of_le_of_lt (Nat.le_trans (Nat.le_of_eq hprocess) hrefill) htaken
    | some t => exact .inl (.of_busy (t := t) (clock_lt_of_process hb) (.inl rfl))
  | @drainTake deadline n p hi hp =>
    have htaken := backlog_of_take? hp
    have hprocess := backlog_process { g with channel := p.2 } p.1
    have hrank : g.intake.rank = 1 := by rw [hi]; rfl
    cases hb : ({ g with channel := p.2 }.process p.1).1 with
    | none =>
      refine .inr ?_
      rw [hrank]
      exact Nat.add_lt_add_of_lt_of_le (Nat.lt_of_le_of_lt (Nat.le_of_eq hprocess) htaken)
        (Nat.le_refl _)
    | some t =>
      exact .inl (.of_busy (t := t) (clock_lt_of_process hb) (.inr ⟨deadline, n, rfl⟩))
  | finish hi | giveUp hi =>
    refine .inr ?_
    rw [hi]
    exact Nat.add_lt_add_left (by simp [IntakeState.rank, record]) g.backlog

theorem resting_intakeSteps {n : Nat} (hn : g.backlog + g.intake.rank ≤ n) :
    (g.intakeSteps n).Resting := by
  induction n generalizing g with
  | zero =>
    have hrank : g.intake.rank = 0 := by omega
    cases hi : g.intake with
    | absent => simp [intakeSteps, Resting, hi]
    | serving busy => cases busy <;> simp [hi, IntakeState.rank] at hrank
    | draining deadline n busy => cases busy <;> simp [hi, IntakeState.rank] at hrank
  | succ n ih =>
    cases hstep : g.intakeStep with
    | none =>
      rw [intakeSteps_of_none hstep]
      exact intakeStep_eq_none_iff.1 hstep
    | some g' =>
      rw [intakeSteps_succ hstep]
      rcases intakeStep_descends hstep with hrest | hless
      · rwa [intakeSteps_of_none (intakeStep_eq_none_iff.2 hrest)]
      · exact ih (by omega)

theorem resting_runIntake (g : Gateway δ μ) : g.runIntake.Resting :=
  resting_intakeSteps (Nat.add_le_add_left g.intake.rank_le _)

/-! ### Alert gateways -/

/-- The intake rests, or is among what is ready or still to be run. -/
def Alert (todo : List GatewayTask) (g : Gateway δ μ) : Prop :=
  g.Resting ∨ .intake ∈ g.ready ∨ .intake ∈ todo

namespace Alert

theorem congr (hg : g.Alert todo) (hintake : h.intake = g.intake)
    (hchannel : h.channel = g.channel) (hclock : h.clock = g.clock)
    (hcancelled : h.cancelled = g.cancelled) (hready : g.ready ⊆ h.ready) : h.Alert todo :=
  hg.imp (fun hrest => hrest.congr hintake hchannel hclock hcancelled)
    (Or.imp_left fun hmem => hready hmem)

theorem apart (hg : g.Alert todo) (hh : g.Apart h) : h.Alert todo :=
  hg.congr hh.intake hh.channel hh.clock hh.cancelled hh.ready

/-- An intake that is not busy is woken, whatever is new to it. -/
theorem wakeIntake (hg : g.Alert todo) (hintake : h.intake = g.intake)
    (hclock : h.clock = g.clock) (hready : g.ready ⊆ h.ready) : h.wakeIntake.Alert todo := by
  have hbusy : ∀ t, (g.intake = .serving (some t) ∨
      ∃ deadline n, g.intake = .draining deadline n (some t)) → h.Alert todo := by
    intro t hi
    rcases hg with hrest | hmem | hmem
    · refine .inl (.of_busy (t := t) ?_ (by rwa [hintake]))
      unfold Resting at hrest
      rw [hclock]
      rcases hi with hi | ⟨deadline, n, hi⟩ <;> simpa only [hi] using hrest
    · exact .inr (.inl (hready hmem))
    · exact .inr (.inr hmem)
  unfold Gateway.wakeIntake
  rw [hintake]
  cases hi : g.intake with
  | absent => exact .inl (by simp [Resting, hintake, hi])
  | serving busy =>
    cases busy with
    | none => exact .inr (.inl (by simp [enqueue]))
    | some t => exact hbusy t (.inl hi)
  | draining deadline n busy =>
    cases busy with
    | none => exact .inr (.inl (by simp [enqueue]))
    | some t => exact hbusy t (.inr ⟨deadline, n, hi⟩)

theorem jump (hg : g.Alert todo) (t : Nat) : (g.jump t).Alert todo := by
  have hkeep : g.ready ⊆ (g.jump t).ready := List.subset_append_left ..
  have hwoken : ∀ u, g.intakeTime? = some u → u ≤ t → .intake ∈ (g.jump t).ready := by
    intro u hu hle
    simp [Gateway.jump, enqueue, hu, hle]
  rcases hg with hrest | hmem | hmem
  · unfold Resting at hrest
    cases hi : g.intake with
    | absent => exact .inl (by simp [Resting, Gateway.jump, enqueue, hi])
    | serving busy =>
      cases busy with
      | none => exact .inl (by simpa [Resting, Gateway.jump, enqueue, hi] using hrest)
      | some u =>
        by_cases hle : u ≤ t
        · exact .inr (.inl (hwoken u (by simp only [intakeTime?, hi]) hle))
        · exact .inl (.of_busy (t := u) (Nat.lt_of_not_le hle) (.inl hi))
    | draining deadline n busy =>
      cases busy with
      | none =>
        rw [hi] at hrest
        by_cases hle : deadline ≤ t
        · exact .inr (.inl (hwoken deadline (by simp only [intakeTime?, hi]) hle))
        · refine .inl ?_
          simp only [Resting, Gateway.jump, enqueue, hi]
          exact ⟨hrest.1, hrest.2.1, Nat.lt_of_not_le hle⟩
      | some u =>
        by_cases hle : u ≤ t
        · exact .inr (.inl (hwoken u (by simp only [intakeTime?, hi]) hle))
        · exact .inl (.of_busy (t := u) (Nat.lt_of_not_le hle) (.inr ⟨deadline, n, hi⟩))
  · exact .inr (.inl (hkeep hmem))
  · exact .inr (.inr hmem)

theorem reserve (hg : g.Alert todo) : g.reserve.2.Alert todo := by
  by_cases hoffer : g.channel.offer = .accepted
  · refine hg.imp_left fun hrest => ?_
    have hopen : g.channel.closed = false := by
      rw [← Bool.not_eq_true]
      intro hclosed
      rw [Channel.offer_of_closed hclosed] at hoffer
      cases hoffer
    unfold Resting at hrest ⊢
    simpa [Gateway.reserve, Channel.reserve, hoffer, Channel.isDone, hopen] using hrest
  · refine hg.congr rfl ?_ rfl rfl (List.Subset.refl _)
    simp only [Gateway.reserve, Channel.reserve, if_neg hoffer]

theorem push (hg : g.Alert todo) (b : Batch) : (g.push b).2.Alert todo := by
  unfold Gateway.push
  split
  · exact hg.wakeIntake rfl rfl (List.Subset.refl _)
  · exact hg

theorem release (hg : g.Alert todo) : g.release.Alert todo := by
  have haside := refill_aside { g with channel := g.channel.release }
  exact hg.wakeIntake haside.intake haside.clock haside.ready

section Tasks

variable [Driver δ]

theorem feed (hg : g.Alert todo) : g.feed.Alert todo := by
  unfold Gateway.feed
  cases g.feeder with
  | none => exact hg
  | some f =>
    have haside := refill_aside { g with feeder := f.tick g.driver g.wall }
    exact hg.wakeIntake haside.intake haside.clock haside.ready

variable [MetadataSource μ]

/-- A task is done with, and the intake may be due to run again only if it was before. -/
theorem runTask {t : GatewayTask} (hg : g.Alert (t :: todo)) : (g.runTask t).Alert todo := by
  by_cases ht : t = .intake
  · subst ht
    exact .inl g.resting_runIntake
  · have hrest : g.Alert todo :=
      hg.imp_right (Or.imp_right fun h => List.mem_of_ne_of_mem (Ne.symm ht) h)
    exact hrest.apart (apart_report.runTask g ht)

end Tasks

end Alert

section Runs

variable [Driver δ] [MetadataSource μ]

theorem durable_alert : Durable (Alert (δ := δ) (μ := μ) []) where
  runReady g hg := by
    have hready : Alert g.ready { g with ready := [] } :=
      hg.imp (fun hrest => hrest.congr rfl rfl rfl rfl) fun h => .inr (by simpa using h)
    exact foldl_runTask (P := fun ts g => g.Alert ts) (fun _ _ _ hg => hg.runTask) hready
  feed _ hg := hg.feed
  apart _ _ hg hh := hg.apart hh
  jump _ t hg := hg.jump t
  push _ b hg := hg.push b
  reserve _ hg := hg.reserve
  release _ hg := hg.release

/-! ### When all is done that takes no time -/

omit [MetadataSource μ] in
theorem intake_not_ready_report :
    ReportFrame fun g h : Gateway δ μ => .intake ∉ g.ready → .intake ∉ h.ready where
  refl _ h := h
  trans hgh hhk h := hhk (hgh h)
  settle _ _ _ h := by simpa [settleOutcome, enqueue] using h
  publish _ _ h := by simpa [enqueue] using h
  published _ _ h := h
  answer _ _ _ h := h
  sleep _ _ _ _ h := h
  read _ _ _ h := h
  reported _ _ _ h := h

omit [MetadataSource μ] in
theorem intake_not_ready_intake :
    IntakeFrame fun g h : Gateway δ μ => .intake ∉ g.ready → .intake ∉ h.ready where
  toFrame := intake_not_ready_report.toFrame
  conduit _ _ _ _ h := h
  accepted _ _ h := h
  process := intake_not_ready_report.process
  drained _ _ h := h

/-- No task makes the intake ready. -/
theorem intake_not_mem_runTask (hg : .intake ∉ g.ready) (t : GatewayTask) :
    .intake ∉ (g.runTask t).ready := by
  by_cases ht : t = .intake
  · rw [ht]
    exact intake_not_ready_intake.runIntake g hg
  · exact intake_not_ready_report.runTask g ht hg

theorem Alert.resting_runReady (hg : g.Alert []) : g.runReady.Resting := by
  have hfold : ∀ (ts : List GatewayTask) (g : Gateway δ μ), .intake ∉ g.ready →
      .intake ∉ (ts.foldl Gateway.runTask g).ready := by
    intro ts
    induction ts with
    | nil => exact fun g hg => hg
    | cons t ts ih => exact fun g hg => ih _ (intake_not_mem_runTask hg t)
  have hready : .intake ∉ g.runReady.ready := hfold g.ready _ (by simp)
  rcases durable_alert.runReady g hg with hrest | hmem | hmem
  · exact hrest
  · exact absurd hmem hready
  · cases hmem

theorem Alert.settle (hg : g.Alert []) : g.settle.Resting ∧ g.settle.Alert [] := by
  have hquiesce : ∀ g : Gateway δ μ, g.Alert [] → g.quiesce.Resting := fun g hg =>
    (durable_alert.runReady _ (durable_alert.runReady g hg)).resting_runReady
  have hfeed : ∀ n (g : Gateway δ μ), g.Resting → g.Alert [] → (g.feedSteps n).Resting := by
    intro n
    induction n with
    | zero => exact fun g hg _ => hg
    | succ n ih =>
      intro g hg halert
      unfold feedSteps
      split
      · exact ih _ (hquiesce _ halert.feed) (durable_alert.quiesce halert.feed)
      · exact hg
  refine ⟨?_, durable_alert.settle hg⟩
  unfold Gateway.settle
  simp only
  split
  · exact hquiesce g hg
  · exact hfeed _ _ (hquiesce g hg) (durable_alert.quiesce hg)

theorem Alert.start (hg : g.Alert []) : g.start.2.Alert [] := by
  unfold Gateway.start
  split
  · exact hg
  · exact .inr (.inl (by simp [record, enqueue]))

omit [Driver δ] [MetadataSource μ] in
theorem Alert.halted (hg : g.Alert []) : g.halted.Alert [] :=
  hg.wakeIntake rfl rfl (List.Subset.refl _)

theorem Alert.step (hg : g.Alert []) (hs : g.Step h) : h.Alert [] := by
  rcases durable_alert.step hg hs with hh | rfl | ⟨force, rfl⟩
  · exact hh
  · exact hg.start
  · exact (durable_alert.awaited hg.halted).congr rfl rfl rfl rfl (List.Subset.refl _)

theorem Reachable.alert (hg : g.Reachable) : g.Alert [] := by
  induction hg with
  | new => exact .inl trivial
  | step _ hs ih => exact ih.step hs

end Runs

end Gateway

end DeviceGateway
