import DeviceGateway.Proofs.Gateway.Frame

/-! The trace of a gateway is a log: what a gateway does next does not depend on what is
written there, and it only ever adds to it. So the same time may pass with one past or
another, and brings the same. -/

namespace DeviceGateway

/-- What needs no caller: nobody else has a gateway started or stopped, or has it write to
a device or forget one. -/
def Deed.isOwn : Deed → Bool
  | .started | .wrote _ _ _ | .stopped _ | .disconnected _ => false
  | _ => true

namespace Gateway

variable {δ μ : Type}

section After

variable (past : List (Nat × Deed)) (g : Gateway δ μ)

/-- The gateway with a past before its own. -/
def after (past : List (Nat × Deed)) (g : Gateway δ μ) : Gateway δ μ :=
  { g with trace := past ++ g.trace }

/-! ### What it writes -/

theorem record_after (d : Deed) : (g.after past).record d = (g.record d).after past := by
  simp [record, after]

theorem recordAll_after (ds : List Deed) :
    (g.after past).recordAll ds = (g.recordAll ds).after past := by
  simp [recordAll, after]

theorem wakeIntake_after : (g.after past).wakeIntake = g.wakeIntake.after past := by
  unfold wakeIntake
  rw [show (g.after past).intake = g.intake from rfl]
  split <;> rfl

theorem refill_after : (g.after past).refill = g.refill.after past := by
  unfold refill
  rw [show (g.after past).feeder = g.feeder from rfl]
  split
  · rfl
  · next f _ =>
    exact recordAll_after past { g with
      feeder := (f.deliver g.channel).1, channel := (f.deliver g.channel).2 } _

theorem process_after (b : Batch) :
    (g.after past).process b = ((g.process b).1, (g.process b).2.after past) := by
  rw [process_eq, process_eq]
  rw [show (g.after past).settings = g.settings from rfl,
    show (g.after past).registry = g.registry from rfl,
    show (g.after past).wall = g.wall from rfl]
  cases b.outcome? g.settings.dataTransform g.wall g.registry with
  | none => exact congrArg (none, ·) (record_after past g _)
  | some o =>
    have hsettle : ((g.after past).record (.began b)).settleOutcome b.device o =
        ((g.record (.began b)).settleOutcome b.device o).after past := by
      rw [record_after]
      rfl
    cases b.event? g.settings.dataTransform g.wall g.registry with
    | none => exact congrArg (none, ·) hsettle
    | some e =>
      have hlast : (((g.after past).record (.began b)).settleOutcome b.device o).record
          (.published e) = (((g.record (.began b)).settleOutcome b.device o).record
            (.published e)).after past := by
        rw [hsettle, record_after]
      exact congrArg (Prod.mk (if (g.publisher.publish e).delay = 0 then none
        else some (g.clock + (g.publisher.publish e).delay))) hlast

theorem feed_after [Driver δ] : (g.after past).feed = g.feed.after past := by
  unfold feed
  rw [show (g.after past).feeder = g.feeder from rfl]
  split
  · rfl
  · next f _ =>
    have hrefill := refill_after past { g with feeder := f.tick g.driver g.wall }
    exact (congrArg wakeIntake hrefill).trans (wakeIntake_after past _)

theorem intakeStep_after :
    (g.after past).intakeStep = g.intakeStep.map (after past) := by
  have hi : (g.after past).intake = g.intake := rfl
  cases h : g.intake with
  | absent => rw [intakeStep_absent h, intakeStep_absent (hi.trans h), Option.map_none]
  | serving busy =>
    cases busy with
    | some t =>
      rw [intakeStep_publishing h, intakeStep_publishing (hi.trans h), apply_ite (Option.map _)]
      rfl
    | none =>
      rw [intakeStep_serving h, intakeStep_serving (hi.trans h), apply_ite (Option.map _)]
      congr 1
      · exact congrArg some (refill_after past { g with
          channel := g.channel.close
          intake := .draining (g.clock + g.settings.drainTimeout) 0 none })
      · rw [show (g.after past).channel = g.channel from rfl]
        cases g.channel.take? with
        | some p =>
          have hp := (congrArg (process · p.1) (refill_after past { g with channel := p.2 })).trans
            (process_after past _ p.1)
          exact congrArg (fun r => some { r.2 with intake := .serving r.1 }) hp
        | none =>
          simp only [apply_ite (Option.map _), Option.map_some, Option.map_none]
          rfl
  | draining deadline n busy =>
    cases busy with
    | some t =>
      rw [intakeStep_drain_publishing h, intakeStep_drain_publishing (hi.trans h),
        apply_ite (Option.map _)]
      rfl
    | none =>
      rw [intakeStep_draining h, intakeStep_draining (hi.trans h)]
      rw [show (g.after past).channel = g.channel from rfl]
      cases g.channel.take? with
      | some p =>
        have hp := process_after past { g with channel := p.2 } p.1
        exact congrArg (fun r => some { r.2 with intake := drainState deadline n r.1 }) hp
      | none =>
        simp only [apply_ite (Option.map _), Option.map_some, Option.map_none, ← record_after]
        rfl

theorem intakeSteps_after (n : Nat) :
    (g.after past).intakeSteps n = (g.intakeSteps n).after past := by
  induction n generalizing g with
  | zero => rfl
  | succ n ih =>
    simp only [intakeSteps, intakeStep_after]
    cases g.intakeStep with
    | none => rfl
    | some g' => exact ih g'

theorem runIntake_after : (g.after past).runIntake = g.runIntake.after past :=
  intakeSteps_after past g _

/-! ### Commands and tasks -/

theorem finishRead_after (p : PendingRead) :
    (g.after past).finishRead p = ((g.finishRead p).1, (g.finishRead p).2.after past) := by
  cases h : p.outcome with
  | error e => simp only [finishRead, h]
  | ok values =>
    rw [finishRead_ok g h, finishRead_ok (g.after past) h]
    rfl

theorem runFinish_after (name : String) (p : PendingRead) :
    (g.after past).runFinish name p = (g.runFinish name p).after past := by
  unfold runFinish
  rw [finishRead_after]
  rfl

variable [Driver δ]

theorem beginRead_after (key command : String) :
    (g.after past).beginRead key command =
      ((g.beginRead key command).1, (g.beginRead key command).2.after past) := by
  have hp : (g.after past).prepare key command .get = g.prepare key command .get := rfl
  cases h : g.prepare key command .get with
  | error e => rw [beginRead_error h, beginRead_error (hp.trans h)]
  | ok p =>
    rw [beginRead_ok h, beginRead_ok (hp.trans h)]
    exact congrArg (Prod.mk _) (record_after past { g with
      driver := (Driver.read g.driver g.wall p.1.addressable p.2).2 } _)

variable [MetadataSource μ]

theorem runTask_after (t : GatewayTask) : (g.after past).runTask t = (g.runTask t).after past := by
  cases t with
  | intake => exact runIntake_after past g
  | publish e => exact record_after past g _
  | report device =>
    rw [runTask_report, runTask_report, record_after]
    rw [show (g.after past).source = g.source from rfl]
    split <;> rfl
  | read name id command =>
    rw [runTask_read, runTask_read, beginRead_after]
    cases (g.beginRead id command).1 with
    | error e => rfl
    | ok p =>
      simp only
      split
      · exact runFinish_after past _ name p
      · rfl
  | finish name p => exact runFinish_after past g name p

theorem runReady_after : (g.after past).runReady = g.runReady.after past := by
  have hfold : ∀ (ts : List GatewayTask) (g : Gateway δ μ),
      ts.foldl runTask (g.after past) = (ts.foldl runTask g).after past := by
    intro ts
    induction ts with
    | nil => exact fun g => rfl
    | cons t ts ih =>
      intro g
      rw [List.foldl_cons, runTask_after, ih, List.foldl_cons]
  exact hfold g.ready { g with ready := [] }

theorem quiesce_after : (g.after past).quiesce = g.quiesce.after past := by
  simp only [quiesce, runReady_after]

/-! ### Time -/

theorem feedSteps_after (n : Nat) : (g.after past).feedSteps n = (g.feedSteps n).after past := by
  induction n generalizing g with
  | zero => rfl
  | succ n ih =>
    unfold feedSteps
    rw [show (g.after past).feedIsDue = g.feedIsDue from rfl, feed_after, quiesce_after, ih]
    split <;> rfl

theorem settle_after : (g.after past).settle = g.settle.after past := by
  unfold settle
  simp only [quiesce_after]
  rw [show (g.quiesce.after past).feeder = g.quiesce.feeder from rfl]
  split
  · rfl
  · exact feedSteps_after past _ _

theorem passSteps_after (stop n : Nat) :
    (g.after past).passSteps stop n = (g.passSteps stop n).after past := by
  induction n generalizing g with
  | zero => rfl
  | succ n ih =>
    unfold passSteps
    simp only [settle_after]
    rw [show (g.settle.after past).times = g.settle.times from rfl]
    split
    · rfl
    · next t _ => exact ih (g.settle.jump t)

theorem pass_after (ms : Nat) : (g.after past).pass ms = (g.pass ms).after past := by
  unfold pass
  split
  · rfl
  · exact passSteps_after past g _ _

end After

/-! ### What a gateway does by itself -/

section Own

/-- From `g` to `h` nothing is done that needs a caller. -/
structure Own (g h : Gateway δ μ) : Prop where
  running : h.running = g.running
  hasSender : h.hasSender = g.hasSender
  cancelled : h.cancelled = g.cancelled
  trace : ∃ new, h.trace = g.trace ++ new ∧ ∀ e ∈ new, e.2.isOwn

namespace Own

variable {g h k : Gateway δ μ}

theorem of_eq (hrunning : h.running = g.running) (hsender : h.hasSender = g.hasSender)
    (hcancelled : h.cancelled = g.cancelled) (htrace : h.trace = g.trace) : g.Own h :=
  ⟨hrunning, hsender, hcancelled, [], by rw [htrace, List.append_nil], by simp⟩

theorem refl (g : Gateway δ μ) : g.Own g := .of_eq rfl rfl rfl rfl

theorem trans (hgh : g.Own h) (hhk : h.Own k) : g.Own k where
  running := hhk.running.trans hgh.running
  hasSender := hhk.hasSender.trans hgh.hasSender
  cancelled := hhk.cancelled.trans hgh.cancelled
  trace := exists_append_trans hgh.trace hhk.trace

theorem record (g : Gateway δ μ) {d : Deed} (hd : d.isOwn) : g.Own (g.record d) :=
  ⟨rfl, rfl, rfl, [(g.clock, d)], rfl, by simpa using hd⟩

end Own

variable [Driver δ]

theorem own_report : ReportFrame (Own (δ := δ) (μ := μ)) where
  refl := .refl
  trans := .trans
  settle _ _ _ := .of_eq rfl rfl rfl rfl
  publish _ _ := .of_eq rfl rfl rfl rfl
  published g _ := .record g rfl
  answer _ _ _ := .of_eq rfl rfl rfl rfl
  sleep _ _ _ _ := .of_eq rfl rfl rfl rfl
  read g d rs := by
    have hdriver : g.Own { g with
      driver := (Driver.read g.driver g.wall d.addressable rs).2 } := .of_eq rfl rfl rfl rfl
    exact hdriver.trans (.record _ rfl)
  reported g device source := by
    have hnoted := Own.record g (d := .reported device .disabled) rfl
    exact hnoted.trans (.of_eq rfl rfl rfl rfl)

/-- All that a gateway does by itself is its own. -/
theorem own_frame : SelfFrame (Own (δ := δ) (μ := μ)) where
  toReportFrame := own_report
  conduit _ _ _ _ := .of_eq rfl rfl rfl rfl
  accepted g _ := .record g rfl
  wake _ := .of_eq rfl rfl rfl rfl
  process g b := (Own.record g rfl).trans (own_report.process g b)
  drained g _ := .record g rfl
  ready _ _ := .of_eq rfl rfl rfl rfl
  jump _ _ := .of_eq rfl rfl rfl rfl

/-- While time passes a gateway adds the same to any past: what it does by itself. -/
theorem pass_trace [MetadataSource μ] (g : Gateway δ μ) (ms : Nat) :
    ∃ new, (∀ e ∈ new, e.2.isOwn) ∧ ∀ past,
      { g with trace := past }.pass ms = { g.pass ms with trace := past ++ new } := by
  let fresh : Gateway δ μ := { g with trace := [] }
  have hpast : ∀ past,
      { g with trace := past }.pass ms = (fresh.pass ms).after past := by
    intro past
    rw [← pass_after]
    simp [after, fresh]
  obtain ⟨new, hnew, hown⟩ := ((own_frame.enduring_from fresh).pass (.refl fresh) ms).trace
  refine ⟨new, hown, fun past => ?_⟩
  have hg : g.pass ms = (fresh.pass ms).after g.trace := hpast g.trace
  rw [hpast, hg, after, hnew]
  rfl

end Own

end Gateway

end DeviceGateway
