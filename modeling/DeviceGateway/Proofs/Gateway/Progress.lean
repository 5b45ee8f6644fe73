import DeviceGateway.Proofs.Gateway.Alert
import DeviceGateway.Proofs.Gateway.Sound
import DeviceGateway.Proofs.Gateway.Trace

/-! How an intake that is waited for gets on. What it has left to do is measured by a number
that each of its steps makes smaller, and that nothing else makes larger. Each time the
intake is waited for it takes at least one step, so in the end nothing is left. From this
follows that a stop returns only when the intake has ended. -/

namespace DeviceGateway.Gateway

variable {δ μ : Type}

section Measure

variable [Driver δ] [MetadataSource μ]

/-- A measure `V` of what the intake has left to do, among the gateways that `I` holds of. It
is even when the intake rests; and while it is not zero there is a time to wait for. -/
structure Measure (I : Gateway δ μ → Prop) (V : Gateway δ μ → Nat) : Prop where
  congr : ∀ g h, I g → h.intake = g.intake → h.channel = g.channel →
    h.cancelled = g.cancelled → h.begun = g.begun → I h ∧ V h = V g
  feed : ∀ g, I g → I g.feed ∧ V g.feed ≤ V g
  step : ∀ g h, I g → g.intakeStep = some h → I h ∧ V h ≤ V g - 1
  even : ∀ g, I g → g.Resting → V g % 2 = 0
  waits : ∀ g, I g → g.Resting → V g ≠ 0 → ∃ t, g.intakeTime? = some t

variable {I : Gateway δ μ → Prop} {V : Gateway δ μ → Nat} {g h : Gateway δ μ} {m t : Nat}

omit [Driver δ] [MetadataSource μ] in
theorem Apart.begun (hh : g.Apart h) : h.begun = g.begun := by
  obtain ⟨new, hnew, hapart⟩ := hh.trace
  unfold Gateway.begun
  rw [hnew, List.filterMap_append]
  refine (congrArg (_ ++ ·) (List.filterMap_eq_nil_iff.2 fun e he => ?_)).trans
    (List.append_nil _)
  have hdeed := hapart e he
  split
  · next hb => simp [hb, Deed.isApart] at hdeed
  · rfl

omit [Driver δ] [MetadataSource μ] in
/-- A resting intake waits for a time that is still to come. -/
theorem Resting.later (hg : g.Resting) (ht : g.intakeTime? = some t) : g.clock < t := by
  unfold Resting at hg
  unfold intakeTime? at ht
  cases hi : g.intake with
  | absent => simp [hi] at ht
  | serving busy =>
    cases busy with
    | none => simp [hi] at ht
    | some u =>
      simp only [hi, Option.some.injEq] at hg ht
      omega
  | draining deadline n busy =>
    cases busy with
    | none =>
      simp only [hi, Option.some.injEq] at hg ht
      omega
    | some u =>
      simp only [hi, Option.some.injEq] at hg ht
      omega

omit [Driver δ] [MetadataSource μ] in
/-- At its time an intake goes on. -/
theorem exists_intakeStep (ht : g.intakeTime? = some t) (hle : t ≤ g.clock) :
    ∃ h, g.intakeStep = some h := by
  refine Option.ne_none_iff_exists'.1 fun hnone => ?_
  exact Nat.not_lt.2 hle ((intakeStep_eq_none_iff.1 hnone).later ht)

namespace Measure

/-- What is left never grows. -/
theorem kept (hm : Measure I V) (m : Nat) : Kept fun g => I g ∧ V g ≤ m := by
  have hsame : ∀ g h, (I g ∧ V g ≤ m) → h.intake = g.intake → h.channel = g.channel →
      h.cancelled = g.cancelled → h.begun = g.begun → I h ∧ V h ≤ m := by
    rintro g h ⟨hg, hle⟩ hi hc hcancelled hbegun
    obtain ⟨hh, hv⟩ := hm.congr g h hg hi hc hcancelled hbegun
    exact ⟨hh, hv ▸ hle⟩
  refine .of_apart (fun g h hg ha => hsame g h hg ha.intake ha.channel ha.cancelled ha.begun)
    (fun g ts hg => hsame g _ hg rfl rfl rfl rfl) ?_ ?_
  · rintro g ⟨hg, hle⟩
    exact ⟨(hm.feed g hg).1, Nat.le_trans (hm.feed g hg).2 hle⟩
  · rintro g h ⟨hg, hle⟩ hstep
    obtain ⟨hh, hless⟩ := hm.step g h hg hstep
    exact ⟨hh, by omega⟩

omit [MetadataSource μ] in
theorem jump (hm : Measure I V) (hg : I g ∧ V g ≤ m) (t : Nat) :
    I (g.jump t) ∧ V (g.jump t) ≤ m := by
  obtain ⟨hh, hv⟩ := hm.congr g (g.jump t) hg.1 rfl rfl rfl rfl
  exact ⟨hh, hv ▸ hg.2⟩

/-- Until `t` the intake waits, or has less left to do. -/
def Until (I : Gateway δ μ → Prop) (V : Gateway δ μ → Nat) (m t : Nat) (g : Gateway δ μ) :
    Prop :=
  I g ∧ (V g ≤ m ∨ g.intakeTime? = some t ∧ g.clock < t ∧ V g ≤ m + 1)

theorem until_kept (hm : Measure I V) (m t : Nat) : Kept (Until I V m t) := by
  have hsame : ∀ g h, Until I V m t g → h.intake = g.intake → h.channel = g.channel →
      h.cancelled = g.cancelled → h.begun = g.begun → h.clock = g.clock →
      Until I V m t h := by
    rintro g h ⟨hg, hleft⟩ hi hc hcancelled hbegun hclock
    obtain ⟨hh, hv⟩ := hm.congr g h hg hi hc hcancelled hbegun
    refine ⟨hh, ?_⟩
    unfold intakeTime? at hleft ⊢
    rwa [hv, hi, hclock]
  refine .of_apart
    (fun g h hg ha => hsame g h hg ha.intake ha.channel ha.cancelled ha.begun ha.clock)
    (fun g ts hg => hsame g _ hg rfl rfl rfl rfl rfl) ?_ ?_
  · rintro g ⟨hg, hleft⟩
    obtain ⟨hfed, hle⟩ := hm.feed g hg
    refine ⟨hfed, ?_⟩
    rcases hleft with hless | ⟨ht, hclock, hless⟩
    · exact .inl (Nat.le_trans hle hless)
    · refine .inr ⟨?_, ?_, Nat.le_trans hle hless⟩
      · unfold intakeTime? at ht ⊢
        rwa [g.feed_aside.intake]
      · rwa [g.feed_aside.clock]
  · rintro g h ⟨hg, hleft⟩ hstep
    obtain ⟨hh, hless⟩ := hm.step g h hg hstep
    refine ⟨hh, .inl ?_⟩
    rcases hleft with hle | ⟨-, -, hle⟩ <;> omega

/-- At `t` the intake is to go on, or has less left to do. -/
def At (I : Gateway δ μ → Prop) (V : Gateway δ μ → Nat) (m t : Nat) (todo : List GatewayTask)
    (g : Gateway δ μ) : Prop :=
  I g ∧ (V g ≤ m ∨ .intake ∈ todo ∧ g.intakeTime? = some t ∧ t ≤ g.clock ∧ V g ≤ m + 1)

theorem foldl (hm : Measure I V) {todo : List GatewayTask} (hg : At I V m t todo g) :
    I (todo.foldl runTask g) ∧ V (todo.foldl runTask g) ≤ m := by
  -- on what is still to be run: the intake is due until it has its turn, and nothing that
  -- comes later undoes its step
  induction todo generalizing g with
  | nil => exact ⟨hg.1, hg.2.resolve_right fun h => nomatch h.1⟩
  | cons task todo ih =>
    rcases hg.2 with hless | ⟨hmem, ht, hle, hless⟩
    · exact (hm.kept m).foldl ⟨hg.1, hless⟩ (task :: todo)
    · by_cases htask : task = .intake
      · subst htask
        obtain ⟨h, hstep⟩ := exists_intakeStep ht hle
        obtain ⟨hh, hdown⟩ := hm.step g h hg.1 hstep
        have hrun : g.runIntake = h.intakeSteps (g.backlog + 3) := intakeSteps_succ hstep _
        refine (hm.kept m).foldl (g := g.runIntake) ?_ todo
        rw [hrun]
        exact intakeSteps_keeps (P := fun g => I g ∧ V g ≤ m)
          (fun g g' hg hs => ⟨(hm.step g g' hg.1 hs).1, by
            have hnext := (hm.step g g' hg.1 hs).2
            omega⟩)
          ⟨hh, by omega⟩ _
      · have hapart := apart_report.runTask g htask
        obtain ⟨hh, hv⟩ := hm.congr g (g.runTask task) hg.1 hapart.intake hapart.channel
          hapart.cancelled hapart.begun
        refine ih ⟨hh, .inr ⟨List.mem_of_ne_of_mem (Ne.symm htask) hmem, ?_, ?_, ?_⟩⟩
        · unfold intakeTime? at ht ⊢
          rwa [hapart.intake]
        · rwa [hapart.clock]
        · rwa [hv]

/-- When it has been waited for an intake has less left to do. -/
theorem pass_settle (hm : Measure I V) (hg : I g) (hv : V g ≤ m + 1)
    (ht : g.intakeTime? = some t) (hlater : g.clock < t) :
    I (g.pass (t - g.clock)) ∧ V (g.pass (t - g.clock)).settle ≤ m := by
  have hstop : g.clock + (t - g.clock) = t := by omega
  have hat : At I V m t (g.pass (t - g.clock)).ready (g.pass (t - g.clock)) := by
    unfold Gateway.pass
    rw [if_neg (by omega), hstop]
    refine (hm.until_kept m t).stable.passSteps (R := fun g => At I V m t g.ready g) ?_ ?_
      ⟨hg, .inr ⟨ht, hlater, hv⟩⟩ _
    · rintro h t' hlt ⟨hh, hleft⟩
      obtain ⟨hj, hvj⟩ := hm.congr h (h.jump t') hh rfl rfl rfl rfl
      refine ⟨hj, ?_⟩
      rw [hvj]
      exact hleft.imp_right fun ⟨htime, _, hle⟩ => ⟨htime, hlt, hle⟩
    · rintro h ⟨hh, hleft⟩
      obtain ⟨hj, hvj⟩ := hm.congr h (h.jump t) hh rfl rfl rfl rfl
      refine ⟨hj, ?_⟩
      rw [hvj]
      refine hleft.imp_right fun ⟨htime, _, hle⟩ => ⟨?_, htime, Nat.le_refl t, hle⟩
      simp [Gateway.jump, enqueue, htime]
  have hrun : ∀ p : Gateway δ μ, At I V m t p.ready p → I p.settle ∧ V p.settle ≤ m := by
    intro p hp
    obtain ⟨hh, hvh⟩ := hm.congr p { p with ready := [] } hp.1 rfl rfl rfl rfl
    exact (hm.kept m).stable.settle_of_runReady (hm.foldl ⟨hh, by rw [hvh]; exact hp.2⟩)
  exact ⟨hat.1, (hrun _ hat).2⟩

/-- With nothing left to do an intake is waited for in vain. -/
theorem awaitIntake_of_zero (hm : Measure I V) (hg : I g.settle) (hzero : V g.settle = 0)
    (n : Nat) : I (g.await intakeTime? (n + 1)) ∧ V (g.await intakeTime? (n + 1)) = 0 := by
  have henduring : Enduring fun g => I g ∧ V g ≤ 0 :=
    ⟨(hm.kept 0).stable, fun _ t hg => hm.jump hg t⟩
  have hs : I g.settle ∧ V g.settle ≤ 0 := ⟨hg, Nat.le_of_eq hzero⟩
  have hend : I (g.await intakeTime? (n + 1)) ∧ V (g.await intakeTime? (n + 1)) ≤ 0 := by
    unfold Gateway.await
    simp only
    split
    · exact hs
    · exact henduring.await intakeTime? (henduring.pass hs _) n
  exact ⟨hend.1, Nat.le_zero.1 hend.2⟩

/-- Waited for often enough, an intake has nothing left to do. -/
theorem awaitIntake (hm : Measure I V) {n : Nat} (hg : I g) (halert : g.Alert [])
    (hv : V g.settle ≤ 2 * n + 1) :
    I (g.await intakeTime? (n + 1)) ∧ V (g.await intakeTime? (n + 1)) = 0 := by
  induction n generalizing g with
  | zero =>
    have hs := ((hm.kept _).stable.settle ⟨hg, Nat.le_refl (V g)⟩).1
    have heven := hm.even _ hs halert.settle.1
    exact hm.awaitIntake_of_zero hs (by omega) 0
  | succ n ih =>
    obtain ⟨hrest, hsettled⟩ := halert.settle
    have hs := ((hm.kept _).stable.settle ⟨hg, Nat.le_refl (V g)⟩).1
    have heven := hm.even _ hs hrest
    by_cases hzero : V g.settle = 0
    · exact hm.awaitIntake_of_zero hs hzero _
    · obtain ⟨t, ht⟩ := hm.waits _ hs hrest hzero
      obtain ⟨m, hm'⟩ := Nat.exists_eq_succ_of_ne_zero hzero
      obtain ⟨hp, hless⟩ := hm.pass_settle hs (Nat.le_of_eq hm') ht (hrest.later ht)
      -- what was left is even, so that one less is within the bound for `n`
      have hwaited := durable_alert.pass hsettled (t - g.settle.clock)
      rw [Gateway.await]
      simp only [ht]
      exact ih hp hwaited (by omega)

end Measure

end Measure

/-! ### The end of a stop -/

section Stop

/-- What an intake has left to do once a stop is called: two for each batch that it has to
publish still, and for its end. While it serves it may come to process as many batches as the
channel has room for. -/
def leftToStop (i : IntakeState) (c : Channel Batch) : Nat :=
  match i with
  | .absent => 0
  | .draining _ _ none => if c.queue = [] then 2 else 2 * c.queue.length + 3
  | .draining _ _ (some _) => 2 * c.queue.length + 4
  | .serving none => 2 * c.capacity + 5
  | .serving (some _) => 2 * c.capacity + 6

section Left

variable {i : IntakeState} {c : Channel Batch}

theorem leftToStop_le (hfits : c.Fits) : leftToStop i c ≤ 2 * c.capacity + 6 := by
  have hlength := hfits.length_le
  unfold leftToStop
  split
  · omega
  · split <;> omega
  · omega
  · omega
  · omega

theorem leftToStop_draining (deadline n : Nat) (c : Channel Batch) :
    2 ≤ leftToStop (.draining deadline n none) c ∧
      leftToStop (.draining deadline n none) c ≤ 2 * c.queue.length + 3 := by
  simp only [leftToStop]
  split <;> omega

/-- With one batch fewer to drain there is less left to do. -/
theorem leftToStop_drainState (deadline n : Nat) (busy : Option Nat) (c : Channel Batch) :
    leftToStop (drainState deadline n busy) c ≤ 2 * c.queue.length + 4 := by
  cases busy with
  | none => exact Nat.le_succ_of_le (leftToStop_draining deadline (n + 1) c).2
  | some t => exact Nat.le_refl _

end Left

variable {g h : Gateway δ μ}

theorem leftToStop_intakeStep (hfits : g.channel.Fits) (hcancelled : g.cancelled = true)
    (hstep : g.intakeStep = some h) :
    leftToStop h.intake h.channel ≤ leftToStop g.intake g.channel - 1 := by
  have hlength := hfits.length_le
  cases intakeMove_of_step hstep with
  | publish hi =>
    rw [hi]
    exact Nat.le_refl _
  | notice hi =>
    have haside := refill_aside_of_closed (g := { g with
      channel := g.channel.close
      intake := .draining (g.clock + g.settings.drainTimeout) 0 none }) rfl
    have hdrain := leftToStop_draining (g.clock + g.settings.drainTimeout) 0 g.channel.close
    rw [haside.intake, haside.channel, hi]
    simp only [leftToStop, Channel.close] at hdrain ⊢
    omega
  | take _ hc | leave _ hc => cases hcancelled.symm.trans hc
  | @drainPublish deadline n _ hi =>
    rw [hi]
    exact (leftToStop_draining deadline (n + 1) g.channel).2
  | @drainTake deadline n p hi hp =>
    have hqueue := (Channel.take?_eq_some hp).1
    have hchannel := (process_writes { g with channel := p.2 } p.1).2
    have hleft : leftToStop g.intake g.channel = 2 * (p.2.queue.length + 1) + 3 := by
      simp [leftToStop, hi, hqueue]
    rw [hleft]
    simp only [hchannel]
    exact leftToStop_drainState deadline n _ p.2
  | finish | giveUp => exact Nat.zero_le _

/-- A stop is called, and the channel is as it should be. -/
structure Stopping (g : Gateway δ μ) : Prop where
  cancelled : g.cancelled = true
  shut : g.Shut
  fits : g.channel.Fits

theorem Stopping.intakeStep [Driver δ] (hg : g.Stopping) (hstep : g.intakeStep = some h) :
    h.Stopping where
  cancelled := (own_frame.intakeStep hstep).cancelled.trans hg.cancelled
  shut := hg.shut.intakeStep hstep
  fits := fits_intakeStep hg.fits hstep

section Runs

variable [Driver δ] [MetadataSource μ]

theorem Stopping.feed (hg : g.Stopping) : g.feed.Stopping where
  cancelled := g.feed_aside.cancelled.trans hg.cancelled
  shut := durable_shut.feed g hg.shut
  fits := fits_feed hg.fits

omit [MetadataSource μ] in
/-- A push of the driver adds nothing that is not counted. -/
theorem leftToStop_feed (hg : g.Shut) :
    leftToStop g.feed.intake g.feed.channel = leftToStop g.intake g.channel := by
  have hcapacity : g.feed.channel.capacity = g.channel.capacity := by
    obtain ⟨bs, hbs⟩ := g.feed_channel
    rw [hbs, (g.channel.fill_queue bs).1]
  rw [g.feed_aside.intake]
  unfold Shut at hg
  cases hi : g.intake with
  | absent => rfl
  | serving busy => cases busy <;> simp only [leftToStop, hcapacity]
  | draining deadline n busy =>
    rw [hi] at hg
    rw [(g.feed_aside_of_closed hg).channel]

theorem measure_stop :
    Measure (Stopping (δ := δ) (μ := μ)) fun g => leftToStop g.intake g.channel where
  congr g h hg hi hc hcancelled hbegun := by
    refine ⟨⟨hcancelled.trans hg.cancelled, ?_, hc ▸ hg.fits⟩, by rw [hi, hc]⟩
    exact hg.shut.of_closed hi fun hclosed => by simp [hc, hclosed]
  feed g hg := ⟨hg.feed, Nat.le_of_eq (leftToStop_feed hg.shut)⟩
  step g h hg hstep :=
    ⟨hg.intakeStep hstep, leftToStop_intakeStep hg.fits hg.cancelled hstep⟩
  even g hg hrest := by
    unfold Resting at hrest
    cases hi : g.intake with
    | absent => rfl
    | serving busy =>
      cases busy with
      | none =>
        rw [hi] at hrest
        cases hg.cancelled.symm.trans hrest.1
      | some t =>
        simp only [leftToStop]
        omega
    | draining deadline n busy =>
      cases busy with
      | none =>
        rw [hi] at hrest
        simp only [leftToStop, if_pos hrest.1]
      | some t =>
        simp only [leftToStop]
        omega
  waits g hg hrest hleft := by
    unfold Resting at hrest
    unfold intakeTime?
    cases hi : g.intake with
    | absent => simp [hi, leftToStop] at hleft
    | serving busy =>
      cases busy with
      | none =>
        rw [hi] at hrest
        cases hg.cancelled.symm.trans hrest.1
      | some t => exact ⟨t, rfl⟩
    | draining deadline n busy =>
      cases busy with
      | none => exact ⟨deadline, rfl⟩
      | some t => exact ⟨t, rfl⟩

omit [Driver δ] [MetadataSource μ] in
theorem absent_of_leftToStop (hzero : leftToStop g.intake g.channel = 0) :
    g.intake = .absent := by
  cases hi : g.intake with
  | absent => rfl
  | serving busy => cases busy <;> simp [hi, leftToStop] at hzero
  | draining deadline n busy =>
    cases busy with
    | none =>
      have hdrain := (leftToStop_draining deadline n g.channel).1
      rw [hi] at hzero
      omega
    | some t => simp [hi, leftToStop] at hzero

theorem Shut.start (hg : g.Shut) : g.start.2.Shut := by
  unfold Gateway.start
  split
  · exact hg
  · trivial

theorem Shut.step (hg : g.Shut) (hs : g.Step h) : h.Shut := by
  rcases hs.flow with ⟨log, hf⟩ | rfl
  · exact hf.shut hg
  · exact hg.start

theorem Reachable.shut (hg : g.Reachable) : g.Shut := by
  induction hg with
  | new => exact ⟨rfl, rfl⟩
  | step _ hs ih => exact ih.step hs

/-- A stop waits until the intake has ended. -/
theorem Reachable.intake_stop (hg : g.Reachable) (hrunning : g.running = true) (force : Bool) :
    (g.stop force).intake = .absent := by
  have haside : { g with cancelled := true, hasSender := false, running := false }.Aside
      g.halted := wakeIntake_aside _
  have hstopping : g.halted.Stopping := by
    refine ⟨haside.cancelled, ?_, ?_⟩
    · exact (flow_halted g).shut hg.shut
    · rw [haside.channel]
      exact hg.sound.fits
  have hleft := ((measure_stop.kept _).stable.settle ⟨hstopping, Nat.le_refl _⟩).2
  have hcapacity := leftToStop_le (i := g.halted.intake) hstopping.fits
  have hend := measure_stop.awaitIntake (n := g.halted.channel.capacity + 3) hstopping
    hg.alert.halted (by omega)
  rw [stop_eq, awaited, if_pos hrunning]
  exact absent_of_leftToStop hend.2

end Runs

end Stop

end DeviceGateway.Gateway
