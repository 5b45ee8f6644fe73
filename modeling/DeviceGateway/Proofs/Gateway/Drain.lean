import DeviceGateway.Proofs.Gateway.Aside

/-! How the intake drains its channel. It takes the batches that wait one after the other,
each as soon as the one before is published, and it looks at its deadline only when nothing
waits. So it begins every batch, however long that takes. -/

namespace DeviceGateway.Gateway

/-! ### Schedules -/

section Schedule

variable (press : Nat → Batch → Nat)

/-- When each of the batches begins if the first one begins at `t`. -/
def drainSchedule : Nat → List Batch → List (Nat × Batch)
  | _, [] => []
  | t, b :: bs => (t, b) :: drainSchedule (t + press t b) bs

/-- How long the batches take together if the first one begins at `t`. -/
def drainTime : Nat → List Batch → Nat
  | _, [] => 0
  | t, b :: bs => press t b + drainTime (t + press t b) bs

/-- The last batch begins when all others are published. -/
theorem drainSchedule_le_iff (t limit : Nat) (bs : List Batch) :
    (∀ e ∈ drainSchedule press t bs, e.1 ≤ limit) ↔
      bs = [] ∨ t + drainTime press t bs.dropLast ≤ limit := by
  induction bs generalizing t with
  | nil => simp [drainSchedule]
  | cons b bs ih =>
    cases bs with
    | nil => simp [drainSchedule, drainTime]
    | cons c bs =>
      have hrest := ih (t + press t b)
      rw [drainSchedule, List.forall_mem_cons, hrest, List.dropLast_cons_cons, drainTime]
      simp only [List.cons_ne_nil, false_or]
      omega

end Schedule

variable {δ μ : Type}

/-! ### States of a drain -/

/-- Every batch has begun, and the intake is not to serve any more. -/
structure Drained (S : List (Nat × Batch)) (g : Gateway δ μ) : Prop where
  intake : g.intake = .absent ∨ ∃ deadline n busy, g.intake = .draining deadline n busy
  closed : g.channel.closed = true
  queue : g.channel.queue = []
  begun : g.begun = S

/-- The intake publishes until `t` and is to begin the other batches as in `S`. -/
structure Busy (S : List (Nat × Batch)) (bound t : Nat) (g : Gateway δ μ) : Prop where
  intake : ∃ deadline n, g.intake = .draining deadline n (some t)
  later : g.clock < t
  closed : g.channel.closed = true
  fewer : g.channel.queue.length < bound
  begun : g.begun ++ drainSchedule g.publishTime t g.channel.queue = S

/-- The intake has to wait in its drain. -/
def Settled (S : List (Nat × Batch)) (bound : Nat) (g : Gateway δ μ) : Prop :=
  g.Drained S ∨ ∃ t, g.Busy S bound t

/-- The intake is to go on draining now, or to notice now that it has to. -/
structure Due (S : List (Nat × Batch)) (bound : Nat) (g : Gateway δ μ) : Prop where
  intake : (∃ busy, g.intake = .serving busy ∧ g.cancelled = true ∧ ∀ t ∈ busy, t ≤ g.clock) ∨
    ∃ deadline n busy, g.intake = .draining deadline n busy ∧ g.channel.closed = true ∧
      ∀ t ∈ busy, t ≤ g.clock
  fewer : g.channel.queue.length ≤ bound
  begun : g.begun ++ drainSchedule g.publishTime g.clock g.channel.queue = S

variable {S : List (Nat × Batch)} {bound t : Nat} {g h : Gateway δ μ}

theorem Drained.aside (hg : g.Drained S) (hh : g.Aside h) : h.Drained S where
  intake := by rw [hh.intake]; exact hg.intake
  closed := by rw [hh.channel]; exact hg.closed
  queue := by rw [hh.channel]; exact hg.queue
  begun := hh.begun.trans hg.begun

theorem Busy.aside (hg : g.Busy S bound t) (hh : g.Aside h) : h.Busy S bound t where
  intake := by rw [hh.intake]; exact hg.intake
  later := by rw [hh.clock]; exact hg.later
  closed := by rw [hh.channel]; exact hg.closed
  fewer := by rw [hh.channel]; exact hg.fewer
  begun := by rw [hh.begun, hh.publishTime, hh.channel]; exact hg.begun

theorem Due.aside (hg : g.Due S bound) (hh : g.Aside h) : h.Due S bound where
  intake := by rw [hh.intake, hh.cancelled, hh.channel, hh.clock]; exact hg.intake
  fewer := by rw [hh.channel]; exact hg.fewer
  begun := by rw [hh.begun, hh.publishTime, hh.channel, hh.clock]; exact hg.begun

theorem Drained.jump (hg : g.Drained S) (t : Nat) : (g.jump t).Drained S :=
  ⟨hg.intake, hg.closed, hg.queue, hg.begun⟩

/-- A drained gateway has at most to count what it drained. -/
theorem Drained.intakeStep (hg : g.Drained S) {g' : Gateway δ μ}
    (hstep : g.intakeStep = some g') : g'.Drained S := by
  have hserving : ∀ busy, g.intake ≠ .serving busy := by
    intro busy hi
    rcases hg.intake with h | ⟨deadline, n, busy', h⟩ <;> cases h.symm.trans hi
  have htake : g.channel.take? = none := by
    unfold Channel.take?
    rw [hg.queue]
  have hend : ∀ report, ({ g with intake := .absent }.record (.drained report)).Drained S := by
    intro report
    refine ⟨.inl rfl, hg.closed, hg.queue, ?_⟩
    rw [begun_record]
    exact (List.append_nil _).trans hg.begun
  cases intakeMove_of_step hstep with
  | publish hi | notice hi | take hi | leave hi => exact absurd hi (hserving _)
  | @drainPublish deadline n =>
    exact ⟨.inr ⟨deadline, n + 1, none, rfl⟩, hg.closed, hg.queue, hg.begun⟩
  | drainTake _ hp => cases htake.symm.trans hp
  | finish | giveUp => exact hend _

/-- A busy intake has no step. -/
theorem Busy.intakeStep (hg : g.Busy S bound t) : g.intakeStep = none := by
  obtain ⟨deadline, n, hi⟩ := hg.intake
  rw [intakeStep_drain_publishing hi, if_pos hg.later]

/-! ### Steps of a drain -/

/-- A draining intake begins what waits first, and goes on when that is published. -/
theorem draining_step {deadline n : Nat} {b : Batch} {bs : List Batch}
    (hi : g.intake = .draining deadline n none) (hclosed : g.channel.closed = true)
    (hq : g.channel.queue = b :: bs) :
    let busy := g.clock + g.publishTime g.clock b
    ∃ g', g.intakeStep = some g' ∧ g'.channel.closed = true ∧ g'.channel.queue = bs ∧
      g'.clock = g.clock ∧ g'.publishTime = g.publishTime ∧
      g'.begun = g.begun ++ [(g.clock, b)] ∧
      ((g'.intake = .draining deadline (n + 1) none ∧ busy = g.clock) ∨
        g'.intake = .draining deadline n (some busy) ∧ g.clock < busy) := by
  intro busy
  let taken : Gateway δ μ := { g with channel := { g.channel with queue := bs } }
  have htake : g.channel.take? = some (b, taken.channel) := by
    simp only [Channel.take?, hq, taken]
  obtain ⟨hbusy, haside⟩ := taken.process_begins b
  have hbegun : (taken.process b).2.begun = g.begun ++ [(g.clock, b)] := by
    rw [haside.begun, begun_record]
    rfl
  refine ⟨{ (taken.process b).2 with intake := drainState deadline n (taken.process b).1 },
    ?_, ?_, ?_, haside.clock, haside.publishTime, hbegun, ?_⟩
  · rw [intakeStep_draining hi, htake]
  · exact (congrArg Channel.closed haside.channel).trans hclosed
  · exact congrArg Channel.queue haside.channel
  · rw [hbusy]
    by_cases hzero : taken.publishTime taken.clock b = 0
    · rw [if_pos hzero]
      exact .inl ⟨rfl, congrArg (g.clock + ·) hzero⟩
    · rw [if_neg hzero]
      exact .inr ⟨rfl, Nat.lt_add_of_pos_right (Nat.pos_of_ne_zero hzero)⟩

/-- A draining intake begins one batch after the other until it has to publish. -/
theorem settled_of_draining {deadline n m : Nat} (hi : g.intake = .draining deadline n none)
    (hclosed : g.channel.closed = true) (hm : g.channel.queue.length ≤ m)
    (hfewer : g.channel.queue.length ≤ bound)
    (hbegun : g.begun ++ drainSchedule g.publishTime g.clock g.channel.queue = S) :
    (g.intakeSteps m).Settled S bound := by
  generalize hq : g.channel.queue = bs at hm hfewer hbegun
  induction bs generalizing g n m with
  | nil =>
    have hg : g.Drained S :=
      ⟨.inr ⟨deadline, n, none, hi⟩, hclosed, hq, (List.append_nil _).symm.trans hbegun⟩
    exact .inl (intakeSteps_keeps (fun _ _ h => h.intakeStep) hg m)
  | cons b bs ih =>
    rw [List.length_cons] at hm hfewer
    obtain ⟨m, rfl⟩ : ∃ k, m = k + 1 := ⟨m - 1, by omega⟩
    obtain ⟨g', hstep, hclosed', hq', hclock, hpress, hbegun', hstate⟩ :=
      draining_step hi hclosed hq
    -- the other batches begin when this one is published
    have hrest : g'.begun ++ drainSchedule g'.publishTime
        (g.clock + g.publishTime g.clock b) bs = S := by
      rw [hbegun', hpress, ← hbegun, drainSchedule]
      exact (List.append_cons ..).symm
    rw [intakeSteps_succ hstep]
    rcases hstate with ⟨hi', hbusy⟩ | ⟨hi', hbusy⟩
    · rw [hbusy, ← hclock] at hrest
      exact ih hi' hclosed' hq' (by omega) (by omega) hrest
    · have hg' : g'.Busy S bound (g.clock + g.publishTime g.clock b) := by
        refine ⟨⟨deadline, n, hi'⟩, ?_, hclosed', ?_, ?_⟩
        · rw [hclock]
          exact hbusy
        · rw [hq']
          omega
        · rw [hq']
          exact hrest
      rw [intakeSteps_of_none hg'.intakeStep]
      exact .inr ⟨_, hg'⟩

namespace Due

/-- An intake that drains goes on after what it has published. -/
theorem draining_steps (hg : g.Due S bound) {deadline n m : Nat} {busy : Option Nat}
    (hi : g.intake = .draining deadline n busy) (hclosed : g.channel.closed = true)
    (hbusy : ∀ t ∈ busy, t ≤ g.clock) (hm : g.channel.queue.length < m) :
    (g.intakeSteps m).Settled S bound := by
  cases busy with
  | none => exact settled_of_draining hi hclosed (Nat.le_of_lt hm) hg.fewer hg.begun
  | some t =>
    obtain ⟨m, rfl⟩ : ∃ k, m = k + 1 := ⟨m - 1, by omega⟩
    let next : Gateway δ μ := { g with intake := .draining deadline (n + 1) none }
    have hstep : g.intakeStep = some next := by
      rw [intakeStep_drain_publishing hi, if_neg (Nat.not_lt.2 (hbusy t rfl))]
    have hlength : next.channel.queue.length ≤ m := Nat.lt_succ_iff.1 hm
    rw [intakeSteps_succ hstep]
    exact settled_of_draining rfl hclosed hlength hg.fewer hg.begun

/-- An intake that serves notices the stop, and no push comes in between. -/
theorem serving_steps (hg : g.Due S bound) {m : Nat} (hi : g.intake = .serving none)
    (hcancelled : g.cancelled = true) (hm : g.channel.queue.length < m) :
    (g.intakeSteps m).Settled S bound := by
  obtain ⟨m, rfl⟩ : ∃ k, m = k + 1 := ⟨m - 1, by omega⟩
  let closed : Gateway δ μ := { g with
    channel := g.channel.close
    intake := .draining (g.clock + g.settings.drainTimeout) 0 none }
  have hstep : g.intakeStep = some closed.refill := by
    rw [intakeStep_serving hi, if_pos hcancelled]
  have haside : closed.Aside closed.refill := closed.refill_aside_of_closed rfl
  have hqueue : closed.refill.channel.queue = g.channel.queue := by
    rw [haside.channel]
    rfl
  have hclosed : closed.refill.channel.closed = true := by
    rw [haside.channel]
    rfl
  have hbegun : closed.refill.begun ++ drainSchedule closed.refill.publishTime
      closed.refill.clock closed.refill.channel.queue = S := by
    rw [hqueue, haside.begun, haside.publishTime, haside.clock]
    exact hg.begun
  have hfewer := hg.fewer
  rw [intakeSteps_succ hstep]
  apply settled_of_draining haside.intake hclosed _ _ hbegun
  · rw [hqueue]
    omega
  · rw [hqueue]
    exact hfewer

/-- The intake works until it has to wait. -/
theorem runIntake (hg : g.Due S bound) : g.runIntake.Settled S bound := by
  unfold Gateway.runIntake
  rcases hg.intake with ⟨busy, hi, hcancelled, hbusy⟩ | ⟨deadline, n, busy, hi, hclosed, hbusy⟩
  · cases busy with
    | none => exact hg.serving_steps hi hcancelled (by omega)
    | some t =>
      let next : Gateway δ μ := { g with intake := .serving none }
      have hstep : g.intakeStep = some next := by
        rw [intakeStep_publishing hi, if_neg (Nat.not_lt.2 (hbusy t rfl))]
      have hnext : next.Due S bound :=
        ⟨.inl ⟨none, rfl, hcancelled, by simp⟩, hg.fewer, hg.begun⟩
      rw [intakeSteps_succ hstep]
      apply hnext.serving_steps rfl hcancelled
      simp only [next]
      omega
  · exact hg.draining_steps hi hclosed hbusy (by omega)

end Due

section Runs

variable [Driver δ] [MetadataSource μ]

theorem drained_kept : Kept (Drained (δ := δ) (μ := μ) S) :=
  .of_aside (fun _ _ hg hh => hg.aside hh)
    (fun _ _ hg => ⟨hg.intake, hg.closed, hg.queue, hg.begun⟩)
    (fun g hg => hg.aside (g.feed_aside_of_closed hg.closed))
    fun _ _ hg hstep => hg.intakeStep hstep

theorem drained_enduring : Enduring (Drained (δ := δ) (μ := μ) S) :=
  ⟨drained_kept.stable, fun _ t hg => hg.jump t⟩

theorem busy_kept : Kept (Busy (δ := δ) (μ := μ) S bound t) :=
  .of_aside (fun _ _ hg hh => hg.aside hh)
    (fun _ _ hg => ⟨hg.intake, hg.later, hg.closed, hg.fewer, hg.begun⟩)
    (fun g hg => hg.aside (g.feed_aside_of_closed hg.closed))
    fun _ _ hg hstep => by
      rw [hg.intakeStep] at hstep
      cases hstep

theorem settled_kept : Kept (Settled (δ := δ) (μ := μ) S bound) :=
  drained_kept.or (.exists fun _ => busy_kept)

/-- Once the intake has had its turn it has to wait, whatever else was ready. -/
theorem Due.foldl (hg : g.Due S bound) {ts : List GatewayTask} (hts : .intake ∈ ts) :
    (ts.foldl runTask g).Settled S bound := by
  induction ts generalizing g with
  | nil => cases hts
  | cons task ts ih =>
    by_cases htask : task = .intake
    · subst htask
      exact settled_kept.foldl hg.runIntake ts
    · have hrest : .intake ∈ ts := List.mem_of_ne_of_mem (Ne.symm htask) hts
      exact ih (hg.aside (aside_report.runTask g htask)) hrest

theorem Due.settle (hg : g.Due S bound) (hready : .intake ∈ g.ready) :
    g.settle.Settled S bound := by
  have hempty : Due S bound { g with ready := [] } := ⟨hg.intake, hg.fewer, hg.begun⟩
  exact settled_kept.stable.settle_of_runReady (hempty.foldl hready)

/-- When the publication ends the intake is to go on. -/
theorem Busy.pass (hg : g.Busy S (bound + 1) t) :
    (g.pass (t - g.clock)).Due S bound ∧ .intake ∈ (g.pass (t - g.clock)).ready := by
  have hlater := hg.later
  have hstop : g.clock + (t - g.clock) = t := by omega
  unfold Gateway.pass
  rw [if_neg (by omega), hstop]
  refine busy_kept.stable.passSteps (R := fun h => h.Due S bound ∧ .intake ∈ h.ready) ?_ ?_ hg _
  · intro h t' ht' hh
    exact ⟨hh.intake, ht', hh.closed, hh.fewer, hh.begun⟩
  · intro h hh
    obtain ⟨deadline, n, hi⟩ := hh.intake
    refine ⟨⟨.inr ⟨deadline, n, some t, hi, hh.closed, ?_⟩, Nat.le_of_lt_succ hh.fewer,
      hh.begun⟩, ?_⟩
    · intro t' ht'
      cases ht'
      exact Nat.le_refl t
    · simp [jump, enqueue, intakeTime?, hi]

/-- Every batch that waits is begun, at its time, if the intake is awaited at least once for
each of them. -/
theorem Due.awaitIntake {n : Nat} (hg : g.Due S n) (hready : .intake ∈ g.ready) :
    (g.await intakeTime? n).begun = S ∧ (g.await intakeTime? n).channel.queue = [] := by
  induction n generalizing g with
  | zero =>
    have hqueue : g.channel.queue = [] := List.length_eq_zero_iff.1 (Nat.le_zero.1 hg.fewer)
    have hbegun := hg.begun
    rw [hqueue] at hbegun
    exact ⟨(List.append_nil _).symm.trans hbegun, hqueue⟩
  | succ n ih =>
    rcases hg.settle hready with hsettled | ⟨t, hsettled⟩
    · have hdrained : (g.await intakeTime? (n + 1)).Drained S := by
        unfold Gateway.await
        simp only
        split
        · exact hsettled
        · exact drained_enduring.await intakeTime? (drained_enduring.pass hsettled _) n
      exact ⟨hdrained.begun, hdrained.queue⟩
    · obtain ⟨deadline, k, hi⟩ := hsettled.intake
      have htime : g.settle.intakeTime? = some t := by simp only [intakeTime?, hi]
      obtain ⟨hdue, hready'⟩ := hsettled.pass
      simp only [Gateway.await, htime]
      exact ih hdue hready'

end Runs

end DeviceGateway.Gateway
