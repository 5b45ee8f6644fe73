import DeviceGateway.Gateway.Command
import DeviceGateway.Gateway.Lifecycle
import DeviceGateway.Proofs.Gateway.Run

/-! Frames. All that a gateway does is made of a few elementary changes: something happens at
the channel, the intake is woken, a batch is processed, an outcome is settled, a task is ended
or put off. A relation between a gateway and what comes of it is a frame for some of these if it
composes and they fall under it; then whatever is made of them falls under it, too. The same is
said of properties: what outlives the tasks of a gateway and the passing of time outlives a
request if it outlives the few things that are particular to that. -/

namespace DeviceGateway.Gateway

variable {δ μ : Type}

/-- A relation that says what happens from one gateway to another. -/
structure Frame (R : Gateway δ μ → Gateway δ μ → Prop) : Prop where
  refl : ∀ g, R g g
  trans : ∀ {g h k}, R g h → R h k → R g k

/-- Channel, feeder and intake may change, and batches be let in. -/
structure ChannelFrame (R : Gateway δ μ → Gateway δ μ → Prop) : Prop extends Frame R where
  conduit : ∀ g channel feeder intake, R g { g with channel, feeder, intake }
  accepted : ∀ g b, R g (g.record (.accepted b))

/-- What is done with the channel may wake the intake. -/
structure FeedFrame (R : Gateway δ μ → Gateway δ μ → Prop) : Prop extends ChannelFrame R where
  wake : ∀ g, R g (g.enqueue [.intake])

/-- The intake may process batches, and end. -/
structure IntakeFrame (R : Gateway δ μ → Gateway δ μ → Prop) : Prop extends ChannelFrame R where
  process : ∀ g b, R g (g.process b).2
  drained : ∀ g report, R g (g.record (.drained report))

/-- Outcomes may be settled, and their events published. -/
structure OutcomeFrame (R : Gateway δ μ → Gateway δ μ → Prop) : Prop extends Frame R where
  settle : ∀ g device o, R g (g.settleOutcome device o)
  publish : ∀ g e, R g (g.enqueue [.publish e])
  published : ∀ g e, R g (g.record (.published e))

/-- Reads may be ended, and put off. -/
structure TaskFrame (R : Gateway δ μ → Gateway δ μ → Prop) : Prop extends OutcomeFrame R where
  answer : ∀ g name r, R g (g.answer name r)
  sleep : ∀ g t name p, R g { g with sleeping := g.sleeping ++ [(t, .finish name p)] }

/-- The driver may be asked. -/
structure ReadFrame [Driver δ] (R : Gateway δ μ → Gateway δ μ → Prop) : Prop
    extends TaskFrame R where
  read : ∀ g d rs, R g ({ g with
    driver := (Driver.read g.driver g.wall (Device.addressable d) rs).2 }.record
      (.read d.addressable rs))

/-- States may be reported to the source. -/
structure ReportFrame [Driver δ] (R : Gateway δ μ → Gateway δ μ → Prop) : Prop
    extends ReadFrame R where
  reported : ∀ g device source, R g { g.record (.reported device .disabled) with source }

/-- All that a gateway does by itself. -/
structure SelfFrame [Driver δ] (R : Gateway δ μ → Gateway δ μ → Prop) : Prop
    extends FeedFrame R, IntakeFrame R, ReportFrame R where
  ready : ∀ g ready, R g { g with ready }
  jump : ∀ g t, R g (g.jump t)

/-- Two extensions of a list are one. -/
theorem exists_append_trans {α : Type} {as bs cs : List α} {ok : α → Prop}
    (h : ∃ new, bs = as ++ new ∧ ∀ a ∈ new, ok a) (h' : ∃ new, cs = bs ++ new ∧ ∀ a ∈ new, ok a) :
    ∃ new, cs = as ++ new ∧ ∀ a ∈ new, ok a := by
  obtain ⟨new, hnew, hok⟩ := h
  obtain ⟨new', hnew', hok'⟩ := h'
  refine ⟨new ++ new', by rw [hnew', hnew, List.append_assoc], fun a ha => ?_⟩
  exact (List.mem_append.1 ha).elim (hok a) (hok' a)

section Frames

variable {R : Gateway δ μ → Gateway δ μ → Prop}

/-! ### The channel and the intake -/

theorem ChannelFrame.recordAll (hf : ChannelFrame R) (g : Gateway δ μ) (bs : List Batch) :
    R g (g.recordAll (bs.map .accepted)) := by
  induction bs generalizing g with
  | nil =>
    have hnone : g.recordAll [] = g := by simp [Gateway.recordAll]
    rw [List.map_nil, hnone]
    exact hf.refl g
  | cons b bs ih =>
    have hfirst : g.recordAll ((b :: bs).map .accepted) =
        (g.record (.accepted b)).recordAll (bs.map .accepted) := by
      simp [Gateway.recordAll, record]
    rw [hfirst]
    exact hf.trans (hf.accepted g b) (ih _)

theorem ChannelFrame.refill (hf : ChannelFrame R) (g : Gateway δ μ) : R g g.refill := by
  unfold Gateway.refill
  split
  · exact hf.refl g
  · exact hf.trans (hf.conduit g _ _ g.intake) (hf.recordAll _ _)

theorem Frame.wakeIntake (hf : Frame R) (hwake : ∀ g, R g (g.enqueue [.intake]))
    (g : Gateway δ μ) : R g g.wakeIntake := by
  unfold Gateway.wakeIntake
  split
  · exact hwake g
  · exact hwake g
  · exact hf.refl g

namespace FeedFrame

theorem wakeIntake (hf : FeedFrame R) (g : Gateway δ μ) : R g g.wakeIntake :=
  hf.toFrame.wakeIntake hf.wake g

theorem release (hf : FeedFrame R) (g : Gateway δ μ) : R g g.release := by
  have hreleased := hf.conduit g g.channel.release g.feeder g.intake
  exact hf.trans (hf.trans hreleased (hf.refill _)) (hf.wakeIntake _)

theorem feed [Driver δ] (hf : FeedFrame R) (g : Gateway δ μ) : R g g.feed := by
  unfold Gateway.feed
  split
  · exact hf.refl g
  · next f _ =>
    have hticked := hf.conduit g g.channel (f.tick g.driver g.wall) g.intake
    exact hf.trans (hf.trans hticked (hf.refill _)) (hf.wakeIntake _)

theorem push (hf : FeedFrame R) (g : Gateway δ μ) (b : Batch) : R g (g.push b).2 := by
  unfold Gateway.push
  split
  · have hsent := hf.conduit g (g.channel.send b) g.feeder g.intake
    exact hf.trans (hf.trans hsent (hf.accepted _ b)) (hf.wakeIntake _)
  · exact hf.refl g

end FeedFrame

namespace IntakeFrame

variable {g g' : Gateway δ μ}

theorem intakeStep (hf : IntakeFrame R) (hstep : g.intakeStep = some g') : R g g' := by
  cases intakeMove_of_step hstep with
  | publish | leave | drainPublish => exact hf.conduit g g.channel g.feeder _
  | notice => exact hf.trans (hf.conduit g g.channel.close g.feeder _) (hf.refill _)
  | @take p =>
    have htaken := hf.conduit g p.2 g.feeder g.intake
    have hprocessed := hf.trans (hf.trans htaken (hf.refill _)) (hf.process _ p.1)
    exact hf.trans hprocessed (hf.conduit _ _ _ _)
  | @drainTake _ _ p =>
    have htaken := hf.conduit g p.2 g.feeder g.intake
    exact hf.trans (hf.trans htaken (hf.process _ p.1)) (hf.conduit _ _ _ _)
  | finish | giveUp => exact hf.trans (hf.conduit g g.channel g.feeder .absent) (hf.drained _ _)

theorem runIntake (hf : IntakeFrame R) (g : Gateway δ μ) : R g g.runIntake :=
  intakeSteps_keeps (fun _ _ hg hstep => hf.trans hg (hf.intakeStep hstep)) (hf.refl g) _

end IntakeFrame

/-! ### Outcomes and tasks -/

/-- A batch that is processed has begun; the rest is settled and published. -/
theorem OutcomeFrame.process (hf : OutcomeFrame R) (g : Gateway δ μ) (b : Batch) :
    R (g.record (.began b)) (g.process b).2 := by
  rw [process_eq]
  split
  · exact hf.refl _
  · next o _ =>
    have hsettled := hf.settle (g.record (.began b)) b.device o
    split
    · exact hsettled
    · exact hf.trans hsettled (hf.published _ _)

theorem OutcomeFrame.finishRead (hf : OutcomeFrame R) (g : Gateway δ μ) (p : PendingRead) :
    R g (g.finishRead p).2 := by
  unfold Gateway.finishRead
  split
  · exact hf.refl g
  · have hsettled := hf.settle g p.device.name
    simp only
    split
    · exact hsettled _
    · exact hf.trans (hsettled _) (hf.publish _ _)

theorem TaskFrame.runFinish (hf : TaskFrame R) (g : Gateway δ μ) (name : String)
    (p : PendingRead) : R g (g.runFinish name p) :=
  hf.trans (hf.finishRead g p) (hf.answer _ _ _)

section Tasks

variable [Driver δ]

theorem ReadFrame.beginRead (hf : ReadFrame R) (g : Gateway δ μ) (key command : String) :
    R g (g.beginRead key command).2 := by
  cases hp : g.prepare key command .get with
  | error e =>
    rw [beginRead_error hp]
    exact hf.refl g
  | ok p =>
    rw [beginRead_ok hp]
    exact hf.read g p.1 p.2

variable [MetadataSource μ]

/-- Once a read is begun it is ended or put off. -/
theorem TaskFrame.runTask_read (hf : TaskFrame R) (g : Gateway δ μ) (name id command : String) :
    R (g.beginRead id command).2 (g.runTask (.read name id command)) := by
  rw [Gateway.runTask_read]
  split
  · exact hf.answer _ _ _
  · split
    · exact hf.runFinish _ _ _
    · exact hf.sleep _ _ _ _

theorem ReadFrame.runTask (hf : ReadFrame R) (g : Gateway δ μ) {t : GatewayTask}
    (hintake : t ≠ .intake) (hreport : ∀ device, t ≠ .report device) : R g (g.runTask t) := by
  cases t with
  | intake => exact absurd rfl hintake
  | publish e => exact hf.published g e
  | report device => exact absurd rfl (hreport device)
  | read name id command => exact hf.trans (hf.beginRead g id command) (hf.runTask_read _ _ _ _)
  | finish name p => exact hf.runFinish g name p

theorem ReportFrame.runTask (hf : ReportFrame R) (g : Gateway δ μ) {t : GatewayTask}
    (hintake : t ≠ .intake) : R g (g.runTask t) := by
  by_cases hreport : ∃ device, t = .report device
  · obtain ⟨device, rfl⟩ := hreport
    obtain ⟨source, heq⟩ := g.exists_runTask_report device
    rw [heq]
    exact hf.reported g device source
  · exact hf.toReadFrame.runTask g hintake fun device ht => hreport ⟨device, ht⟩

end Tasks

end Frames

/-! ### Properties -/

section Properties

variable [Driver δ] [MetadataSource μ]

/-- The gateway in which a stop begins to wait for the intake. -/
def halted (g : Gateway δ μ) : Gateway δ μ :=
  { g with cancelled := true, hasSender := false, running := false }.wakeIntake

/-- The gateway when a stop has waited for the intake. -/
def awaited (g : Gateway δ μ) : Gateway δ μ :=
  if g.running then g.halted.await intakeTime? (g.halted.channel.capacity + 4) else g.halted

theorem stop_eq (g : Gateway δ μ) (force : Bool) : g.stop force =
    { g.awaited with driver := (Driver.stop g.awaited.driver force).2 }.record (.stopped force) :=
  rfl

namespace Enduring

variable {P : Gateway δ μ → Prop} {g : Gateway δ μ}

theorem get (hk : Enduring P) {key command : String} (hbegun : P (g.beginRead key command).2)
    (hfinish : ∀ h p, P h → P (h.finishRead p).2) : P (g.get key command).2 := by
  unfold Gateway.get
  split
  · next hb => rwa [hb] at hbegun
  · next p g' hb =>
    rw [hb] at hbegun
    exact hfinish _ p (hk.pass hbegun p.wait)

theorem getAll (hk : Enduring P) (h : P g) {command : String}
    (hasked : P (enqueue { g with answers := [] }
      ((g.targets command).map fun d => .read d.name d.id command)))
    (hforgotten : ∀ h, P h → P { h with answers := [] }) : P (g.getAll command).2 := by
  unfold Gateway.getAll
  simp only
  split
  · exact h
  · exact hforgotten _ (hk.await answerTime? hasked _)

theorem put (hk : Enduring P) (h : P g) {key command : String} {parameters : Table String}
    (hcalled : ∀ d rs vs, g.prepareWrite key command parameters = .ok (d, rs, vs) →
      P ({ g with driver := (Driver.write g.driver d.addressable rs vs).2 }.record
        (.wrote d.addressable rs vs))) : P (g.put key command parameters).2 := by
  unfold Gateway.put
  split
  · exact h
  · next d rs vs hp => exact hk.pass (hcalled d rs vs hp) _

/-- A stop that has begun to wait does not end it before it is noted. -/
theorem awaited (hk : Enduring P) (h : P g.halted) : P g.awaited := by
  unfold Gateway.awaited
  split
  · exact hk.await intakeTime? h _
  · exact h

end Enduring

/-- What survives every task but those of the intake, pushes, and steps of the intake is kept. -/
theorem Kept.of_intakeStep {P : Gateway δ μ → Prop}
    (htask : ∀ g t, t ≠ .intake → P g → P (g.runTask t))
    (hready : ∀ g ts, P g → P { g with ready := ts }) (hfeed : ∀ g, P g → P g.feed)
    (hstep : ∀ g g', P g → g.intakeStep = some g' → P g') : Kept P where
  task g t h := by
    by_cases ht : t = .intake
    · subst ht
      exact intakeSteps_keeps hstep h _
    · exact htask g t ht h
  feed := hfeed
  ready := hready

namespace SelfFrame

variable {R : Gateway δ μ → Gateway δ μ → Prop}

theorem runTask (hf : SelfFrame R) (g : Gateway δ μ) (t : GatewayTask) : R g (g.runTask t) := by
  by_cases ht : t = .intake
  · rw [ht]
    exact hf.runIntake g
  · exact hf.toReportFrame.runTask g ht

theorem enduring (hf : SelfFrame R) {P : Gateway δ μ → Prop} (hP : ∀ g h, P g → R g h → P h) :
    Enduring P where
  toStable := Kept.stable {
    task := fun g t hg => hP _ _ hg (hf.runTask g t)
    feed := fun g hg => hP _ _ hg (hf.feed g)
    ready := fun g ts hg => hP _ _ hg (hf.ready g ts) }
  jump g t hg := hP _ _ hg (hf.jump g t)

theorem enduring_from (hf : SelfFrame R) (g : Gateway δ μ) : Enduring (R g) :=
  hf.enduring fun _ _ => hf.trans

theorem get (hf : SelfFrame R) (g : Gateway δ μ) (key command : String) :
    R g (g.get key command).2 :=
  (hf.enduring_from g).get (hf.beginRead g key command) fun _ p hh =>
    hf.trans hh (hf.finishRead _ p)

end SelfFrame

end Properties

end DeviceGateway.Gateway
