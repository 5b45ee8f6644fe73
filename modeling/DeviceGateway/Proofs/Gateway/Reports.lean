import DeviceGateway.Proofs.Gateway.Orders
import DeviceGateway.Proofs.Metadata.Store
import DeviceGateway.Proofs.Registry.Disable

/-! Reports of a device that is disabled. As long as no report is made the source stays as it is,
and a device whose state changes is disabled and has its report among what is ready. What outlives
that, the reports themselves and the passing of time outlives everything that is asked of a
gateway but a start or a change of the registry. -/

namespace DeviceGateway

/-- The operating state of the device of a name. -/
def Registry.state? (r : Registry) (name : String) : Option OperatingState :=
  (r.byName.get? name).map (·.operatingState)

theorem Registry.state?_disable (r : Registry) (device name : String) :
    (r.disable device).state? name =
      if name = device then (r.state? name).map fun _ => .disabled else r.state? name := by
  unfold state?
  rw [byName_disable, Option.map_map]
  by_cases hname : name = device
  · rw [if_pos hname, Option.map_map]
    simp only [Function.comp_def, stateAmong, hname, List.mem_singleton, if_true]
  · rw [if_neg hname]
    simp only [Function.comp_def, stateAmong, List.mem_singleton, hname, if_false]

namespace Gateway

open MetadataSource (noted)

variable {δ μ : Type} {name : String}

/-! ### What makes no report -/

/-- From `g` to `h` nothing is reported; and the device keeps its state, or it is disabled and is
to be reported. -/
structure Notes (name : String) (g h : Gateway δ μ) : Prop where
  source : h.source = g.source
  sleeping : (∀ e ∈ g.sleeping, e.2 ≠ .report name) → ∀ e ∈ h.sleeping, e.2 ≠ .report name
  ready : .report name ∈ g.ready → .report name ∈ h.ready
  state : (h.registry.state? name = g.registry.state? name ∧
      (.report name ∈ h.ready → .report name ∈ g.ready)) ∨
    (h.registry.state? name = (g.registry.state? name).map (fun _ => .disabled) ∧
      .report name ∈ h.ready)

namespace Notes

variable {g h k : Gateway δ μ}

theorem of_eq (hsource : h.source = g.source) (hsleeping : h.sleeping = g.sleeping)
    (hready : h.ready = g.ready) (hregistry : h.registry = g.registry) : g.Notes name h :=
  ⟨hsource, by rw [hsleeping]; exact id, by rw [hready]; exact id,
    .inl ⟨by rw [hregistry], by rw [hready]; exact id⟩⟩

theorem refl (g : Gateway δ μ) : g.Notes name g := .of_eq rfl rfl rfl rfl

theorem trans (hgh : g.Notes name h) (hhk : h.Notes name k) : g.Notes name k where
  source := hhk.source.trans hgh.source
  sleeping hg := hhk.sleeping (hgh.sleeping hg)
  ready hg := hhk.ready (hgh.ready hg)
  state := by
    rcases hgh.state with ⟨hsame, hback⟩ | ⟨hdisabled, hready⟩ <;>
      rcases hhk.state with ⟨hsame', hback'⟩ | ⟨hdisabled', hready'⟩
    · exact .inl ⟨hsame'.trans hsame, fun hk => hback (hback' hk)⟩
    · exact .inr ⟨by rw [hdisabled', hsame], hready'⟩
    · exact .inr ⟨hsame'.trans hdisabled, hhk.ready hready⟩
    · exact .inr ⟨by rw [hdisabled', hdisabled, Option.map_map]; rfl, hready'⟩

end Notes

section Notes

variable (g : Gateway δ μ)

theorem enqueue_notes {ts : List GatewayTask} (hts : .report name ∉ ts) :
    g.Notes name (g.enqueue ts) := by
  refine ⟨rfl, id, List.mem_append_left ts, .inl ⟨rfl, fun h => ?_⟩⟩
  exact (List.mem_append.1 h).resolve_right hts

theorem settleOutcome_notes (device : String) (o : Outcome) :
    g.Notes name (g.settleOutcome device o) := by
  refine ⟨rfl, id, List.mem_append_left _, ?_⟩
  show ((o.settle device g.registry).state? name = _ ∧ _) ∨
    ((o.settle device g.registry).state? name = _ ∧ _)
  unfold Outcome.settle
  by_cases hnone : o.failedAssertions = 0
  · simp [settleOutcome, enqueue, hnone]
  · rw [if_neg hnone, Registry.state?_disable]
    by_cases hname : name = device
    · exact .inr ⟨if_pos hname, List.mem_append_right _ (by simp [hname, hnone])⟩
    · refine .inl ⟨if_neg hname, fun h => ?_⟩
      refine (List.mem_append.1 h).resolve_right fun hreport => hname ?_
      simpa using (List.mem_replicate.1 hreport).2

/-- A command makes no report, and puts none to sleep. -/
theorem notes_read [Driver δ] : ReadFrame (Notes (δ := δ) (μ := μ) name) where
  refl := .refl
  trans := .trans
  settle := settleOutcome_notes
  publish g _ := enqueue_notes g (by simp)
  published _ _ := .of_eq rfl rfl rfl rfl
  answer _ _ _ := .of_eq rfl rfl rfl rfl
  sleep g t name' p := by
    refine ⟨rfl, fun hasleep e he => ?_, fun h => h, .inl ⟨rfl, fun h => h⟩⟩
    rcases List.mem_append.1 he with he | he
    · exact hasleep e he
    · rw [List.mem_singleton.1 he]
      simp
  read _ _ _ := .of_eq rfl rfl rfl rfl

theorem notes_intake [Driver δ] : IntakeFrame (Notes (δ := δ) (μ := μ) name) where
  toFrame := notes_read.toFrame
  conduit _ _ _ _ := .of_eq rfl rfl rfl rfl
  accepted _ _ := .of_eq rfl rfl rfl rfl
  process g b := by
    have hbegan : g.Notes name (g.record (.began b)) := .of_eq rfl rfl rfl rfl
    exact hbegan.trans (notes_read.process g b)
  drained _ _ := .of_eq rfl rfl rfl rfl

theorem notes_feed [Driver δ] : FeedFrame (Notes (δ := δ) (μ := μ) name) where
  toChannelFrame := notes_intake.toChannelFrame
  wake g := enqueue_notes g (by simp)

end Notes

/-! ### Reports -/

section Tasks

variable [Driver δ] [MetadataSource μ]

theorem runTask_report_eq (g : Gateway δ μ) (device : String) :
    g.runTask (.report device) = { g with
      source := noted device g.source
      trace := g.trace ++ [(g.clock, .reported device .disabled)] } := by
  rw [runTask_report, noted]
  cases MetadataSource.report g.source device .disabled <;> rfl

/-- Any other task makes no report. -/
theorem runTask_notes (g : Gateway δ μ) {t : GatewayTask} (ht : ∀ device, t ≠ .report device) :
    g.Notes name (g.runTask t) := by
  by_cases hintake : t = .intake
  · rw [hintake]
    exact notes_intake.runIntake g
  · exact notes_read.runTask g hintake ht

/-- A property that outlives what makes no report, the tasks that are ready, and the passing of
time. -/
structure Lasting (name : String) (P : Gateway δ μ → Prop) : Prop extends Enduring P where
  notes : ∀ g h, P g → g.Notes name h → P h

theorem Lasting.of_report {P : Gateway δ μ → Prop}
    (hreport : ∀ g device, P g → P { g with
      source := noted device g.source
      trace := g.trace ++ [(g.clock, .reported device .disabled)] })
    (hready : ∀ g ts, P g → P { g with ready := ts })
    (hnotes : ∀ g h, P g → g.Notes name h → P h) (hjump : ∀ g t, P g → P (g.jump t)) :
    Lasting name P where
  toStable := Kept.stable {
    task := fun g t hg => by
      by_cases ht : ∃ device, t = .report device
      · obtain ⟨device, rfl⟩ := ht
        rw [runTask_report_eq]
        exact hreport g device hg
      · exact hnotes _ _ hg (runTask_notes g fun device heq => ht ⟨device, heq⟩)
    feed := fun g hg => hnotes _ _ hg (notes_feed.feed g)
    ready := hready }
  notes := hnotes
  jump := hjump

/-- It outlives whatever is asked of a gateway, but for a start and a change of the registry. -/
theorem Lasting.serve {P : Gateway δ μ → Prop} (hk : Lasting name P) {g : Gateway δ μ} (hg : P g)
    {o : Order} (hstart : o ≠ .start) (hmanage : ∀ m, o ≠ .manage m) : P (g.serve o) := by
  have hsame : ∀ {g h}, P g → h.source = g.source → h.sleeping = g.sleeping →
      h.ready = g.ready → h.registry = g.registry → P h :=
    fun hg hsource hsleeping hready hregistry =>
      hk.notes _ _ hg (.of_eq hsource hsleeping hready hregistry)
  cases o with
  | start => exact absurd rfl hstart
  | manage m => exact absurd rfl (hmanage m)
  | stop force =>
    have hcancelled : P { g with cancelled := true, hasSender := false, running := false } :=
      hsame hg rfl rfl rfl rfl
    have hawaited := hk.awaited (hk.notes _ _ hcancelled (notes_feed.wakeIntake _))
    exact hsame hawaited rfl rfl rfl rfl
  | get key command =>
    exact hk.get (hk.notes _ _ hg (notes_read.beginRead g key command)) fun h p hh =>
      hk.notes _ _ hh (notes_read.finishRead h p)
  | getAll command =>
    have hreads : .report name ∉
        (g.targets command).map fun d => GatewayTask.read d.name d.id command := by simp
    have hforgotten : ∀ h, P h → P { h with answers := [] } := fun h hh =>
      hsame hh rfl rfl rfl rfl
    exact hk.getAll hg (hk.notes _ _ (hforgotten g hg) (enqueue_notes _ hreads)) hforgotten
  | put key command parameters => exact hk.put hg fun _ _ _ _ => hsame hg rfl rfl rfl rfl
  | push b => exact hk.notes _ _ hg (notes_feed.push g b)
  | release => exact hk.notes _ _ hg (notes_feed.release g)
  | settle => exact hk.settle hg
  | pass ms => exact hk.pass hg ms
  | setLocked | reserve => exact hsame hg rfl rfl rfl rfl

end Tasks

end Gateway

end DeviceGateway
