import DeviceGateway.Proofs.Gateway.Aside
import DeviceGateway.Proofs.Gateway.Race

/-! What goes on elsewhere while a command for many devices is under way. The intake, the
reports, what is published and what the driver pushes leave the command alone: they answer
nothing, put nothing to sleep and begin no read, and all that they do to the registry is to
disable devices of which the intake has a batch. -/

namespace DeviceGateway

/-- Part of a command for many devices. -/
def GatewayTask.isCommand : GatewayTask → Bool
  | .read .. | .finish .. => true
  | _ => false

namespace Gateway

variable {δ μ : Type} {g h k : Gateway δ μ}

theorem Meanwhile.refl (g : Gateway δ μ) : g.Meanwhile [] g := ⟨rfl, rfl, rfl, rfl⟩

theorem Meanwhile.trans {names names' : List String} (hgh : g.Meanwhile names h)
    (hhk : h.Meanwhile names' k) : g.Meanwhile (names ++ names') k where
  settings := hhk.settings.trans hgh.settings
  locked := hhk.locked.trans hgh.locked
  driver := hhk.driver.trans hgh.driver
  registry := by rw [hhk.registry, hgh.registry, Registry.disableAll_append]

/-- From `g` to `h` no time passes, what is made ready is not part of a command, and `new` is
put to sleep. -/
structure Proceeds (new : List (Nat × GatewayTask)) (g h : Gateway δ μ) : Prop where
  clock : h.clock = g.clock
  ready : ∃ ts, h.ready = g.ready ++ ts ∧ ∀ t ∈ ts, t.isCommand = false
  sleeping : h.sleeping = g.sleeping ++ new

theorem Proceeds.of_eq (hclock : h.clock = g.clock) (hready : h.ready = g.ready)
    (hsleeping : h.sleeping = g.sleeping) : g.Proceeds [] h :=
  ⟨hclock, ⟨[], by rw [hready, List.append_nil], by simp⟩, by rw [hsleeping, List.append_nil]⟩

theorem Proceeds.trans {new new' : List (Nat × GatewayTask)} (hgh : g.Proceeds new h)
    (hhk : h.Proceeds new' k) : g.Proceeds (new ++ new') k where
  clock := hhk.clock.trans hgh.clock
  ready := exists_append_trans hgh.ready hhk.ready
  sleeping := by rw [hhk.sleeping, hgh.sleeping, List.append_assoc]

/-- From `g` to `h` the intake has begun a batch of each of the devices. -/
def Began (names : List String) (g h : Gateway δ μ) : Prop :=
  ∃ new, h.begun = g.begun ++ new ∧ ∀ n ∈ names, ∃ e ∈ new, e.2.device = n

theorem began_nil (hbegun : h.begun = g.begun) : g.Began [] h :=
  ⟨[], by rw [hbegun, List.append_nil], by simp⟩

theorem Began.trans {names names' : List String} (hgh : g.Began names h)
    (hhk : h.Began names' k) : g.Began (names ++ names') k := by
  obtain ⟨new, hnew, hdevices⟩ := hgh
  obtain ⟨new', hnew', hdevices'⟩ := hhk
  refine ⟨new ++ new', by rw [hnew', hnew, List.append_assoc], fun n hn => ?_⟩
  rcases List.mem_append.1 hn with hn | hn
  · obtain ⟨e, he, hdevice⟩ := hdevices n hn
    exact ⟨e, List.mem_append_left _ he, hdevice⟩
  · obtain ⟨e, he, hdevice⟩ := hdevices' n hn
    exact ⟨e, List.mem_append_right _ he, hdevice⟩

theorem Began.same {names : List String} (hgh : g.Began names h) (hbegun : k.begun = h.begun) :
    g.Began names k := by
  obtain ⟨new, hnew, hdevices⟩ := hgh
  exact ⟨new, hbegun.trans hnew, hdevices⟩

/-- From `g` to `h` nothing happens to a command that is under way, but that devices are
disabled because of batches. -/
structure Elsewhere (g h : Gateway δ μ) : Prop extends Proceeds [] g h where
  meanwhile : ∃ names, g.Meanwhile names h ∧ g.Began names h
  answers : h.answers = g.answers

namespace Elsewhere

theorem of_eq (hsettings : h.settings = g.settings) (hlocked : h.locked = g.locked)
    (hdriver : h.driver = g.driver) (hregistry : h.registry = g.registry)
    (hbegun : h.begun = g.begun) (hproceeds : g.Proceeds [] h) (hanswers : h.answers = g.answers) :
    g.Elsewhere h :=
  ⟨hproceeds, ⟨[], ⟨hsettings, hlocked, hdriver, hregistry⟩, began_nil hbegun⟩, hanswers⟩

theorem refl (g : Gateway δ μ) : g.Elsewhere g :=
  .of_eq rfl rfl rfl rfl rfl (.of_eq rfl rfl rfl) rfl

theorem trans (hgh : g.Elsewhere h) (hhk : h.Elsewhere k) : g.Elsewhere k := by
  obtain ⟨names, hm, hb⟩ := hgh.meanwhile
  obtain ⟨names', hm', hb'⟩ := hhk.meanwhile
  exact ⟨hgh.toProceeds.trans hhk.toProceeds, ⟨_, hm.trans hm', hb.trans hb'⟩,
    hhk.answers.trans hgh.answers⟩

theorem driver_eq (hgh : g.Elsewhere h) : h.driver = g.driver := by
  obtain ⟨names, hmeanwhile, -⟩ := hgh.meanwhile
  exact hmeanwhile.driver

end Elsewhere

/-! ### What is elsewhere -/

variable (g)

theorem enqueue_proceeds {ts : List GatewayTask} (hts : ∀ t ∈ ts, t.isCommand = false) :
    g.Proceeds [] (g.enqueue ts) := ⟨rfl, ⟨ts, rfl, hts⟩, (List.append_nil _).symm⟩

theorem settleOutcome_proceeds (device : String) (o : Outcome) :
    g.Proceeds [] (g.settleOutcome device o) := by
  have hsettled : g.Proceeds [] { g with registry := o.settle device g.registry } :=
    .of_eq rfl rfl rfl
  refine hsettled.trans (enqueue_proceeds _ fun t ht => ?_)
  rw [List.eq_of_mem_replicate ht]
  rfl

/-- What is settled and published is not part of a command, and answers none. -/
theorem proceeds_outcome : OutcomeFrame fun g h : Gateway δ μ =>
    g.Proceeds [] h ∧ h.begun = g.begun ∧ h.answers = g.answers where
  refl _ := ⟨.of_eq rfl rfl rfl, rfl, rfl⟩
  trans hgh hhk :=
    ⟨hgh.1.trans hhk.1, hhk.2.1.trans hgh.2.1, hhk.2.2.trans hgh.2.2⟩
  settle g device o := ⟨settleOutcome_proceeds g device o, rfl, rfl⟩
  publish g _ := ⟨enqueue_proceeds g (by simp [GatewayTask.isCommand]), rfl, rfl⟩
  published g _ := ⟨.of_eq rfl rfl rfl, (record_aside g fun _ => Deed.noConfusion).begun, rfl⟩

theorem record_elsewhere {d : Deed} (hd : ∀ b, d ≠ .began b) : g.Elsewhere (g.record d) :=
  .of_eq rfl rfl rfl rfl (record_aside g hd).begun (.of_eq rfl rfl rfl) rfl

/-- A batch that is begun disables at most its own device. -/
theorem process_meanwhile (b : Batch) :
    ∃ names, (∀ n ∈ names, n = b.device) ∧ g.Meanwhile names (g.process b).2 := by
  have hsettled : ∀ o : Outcome, ∃ names, (∀ n ∈ names, n = b.device) ∧
      g.Meanwhile names ((g.record (.began b)).settleOutcome b.device o) := by
    intro o
    by_cases ho : o.failedAssertions = 0
    · exact ⟨[], by simp, rfl, rfl, rfl, if_pos ho⟩
    · exact ⟨[b.device], by simp, rfl, rfl, rfl, if_neg ho⟩
  rw [process_eq]
  split
  · exact ⟨[], by simp, rfl, rfl, rfl, rfl⟩
  · next o _ =>
    obtain ⟨names, hnames, hm⟩ := hsettled o
    split
    · exact ⟨names, hnames, hm⟩
    · exact ⟨names, hnames, hm.settings, hm.locked, hm.driver, hm.registry⟩

theorem process_elsewhere (b : Batch) : g.Elsewhere (g.process b).2 := by
  obtain ⟨names, hnames, hm⟩ := process_meanwhile g b
  obtain ⟨hproceeds, hbegun, hanswers⟩ := proceeds_outcome.process g b
  have hbegan : g.Began names (g.process b).2 :=
    ⟨_, hbegun.trans (begun_record g _),
      fun n hn => ⟨_, List.mem_singleton_self _, (hnames n hn).symm⟩⟩
  have hrecorded : g.Proceeds [] (g.record (.began b)) := .of_eq rfl rfl rfl
  exact ⟨hrecorded.trans hproceeds, ⟨names, hm, hbegan⟩, hanswers⟩

theorem elsewhere_intake : IntakeFrame (Elsewhere (δ := δ) (μ := μ)) where
  refl := .refl
  trans := .trans
  conduit _ _ _ _ := .of_eq rfl rfl rfl rfl rfl (.of_eq rfl rfl rfl) rfl
  accepted g _ := g.record_elsewhere fun _ => Deed.noConfusion
  process := process_elsewhere
  drained g _ := g.record_elsewhere fun _ => Deed.noConfusion

theorem elsewhere_feed : FeedFrame (Elsewhere (δ := δ) (μ := μ)) where
  toChannelFrame := elsewhere_intake.toChannelFrame
  wake g := .of_eq rfl rfl rfl rfl rfl (enqueue_proceeds g (by decide)) rfl

section Tasks

variable [Driver δ] [MetadataSource μ]

/-- Tasks that are not part of a command: those of the intake, publications and reports. -/
theorem IntakeFrame.runTask {R : Gateway δ μ → Gateway δ μ → Prop} (hf : IntakeFrame R)
    (hpublished : ∀ g e, R g (g.record (.published e)))
    (hreported : ∀ g device source, R g { g.record (.reported device .disabled) with source })
    (g : Gateway δ μ) {t : GatewayTask} (ht : t.isCommand = false) : R g (g.runTask t) := by
  cases t with
  | intake => exact hf.runIntake g
  | publish e => exact hpublished g e
  | report device =>
    obtain ⟨source, hreport⟩ := g.exists_runTask_report device
    rw [hreport]
    exact hreported g device source
  | read | finish => cases ht

theorem runTask_elsewhere (g : Gateway δ μ) {t : GatewayTask} (ht : t.isCommand = false) :
    g.Elsewhere (g.runTask t) := by
  refine elsewhere_intake.runTask (fun g _ => g.record_elsewhere fun _ => Deed.noConfusion)
    (fun g device source => ?_) g ht
  have hnoted := g.record_elsewhere (d := .reported device .disabled) fun _ => Deed.noConfusion
  exact hnoted.trans (.of_eq rfl rfl rfl rfl rfl (.of_eq rfl rfl rfl) rfl)

end Tasks

end Gateway

end DeviceGateway
