import DeviceGateway.Proofs.Gateway.Errand

/-! One command for many devices at once. There is one errand for each device, and the errands
take their steps in any order, while others may disable devices in between. However that comes
out, in the end every device has the one answer that it has when it is asked alone, but for
times, and it depends only on the devices, and on whom the others have disabled, which
registry is left. -/

namespace DeviceGateway

/-! ### Errands -/

/-- How far a command has come for one of many devices. -/
inductive Errand where
  | spawned (d : Device)
  /-- The device that is found may be in another state by now. -/
  | found (d now : Device)
  | asked (d : Device) (p : PendingRead)

namespace Errand

/-- Whom it is for. -/
def device : Errand → Device
  | .spawned d => d
  | .found d _ => d
  | .asked d _ => d

/-- How many steps it takes at most. -/
def stepsLeft : Errand → Nat
  | .spawned _ => 3
  | .found _ _ => 2
  | .asked _ _ => 1

variable {δ μ : Type} [Driver δ]

/-- The next step: how far the errand comes, or the answer that it ends with. -/
def advance (command : String) (g : Gateway δ μ) :
    Errand → (Errand ⊕ Except GatewayError Answer) × Gateway δ μ
  | .spawned d =>
    match g.find d.id with
    | .error e => (.inr (.error e), g)
    | .ok now => (.inl (.found d now), g)
  | .found d now =>
    match g.ask now command with
    | (.error e, g) => (.inr (.error e), g)
    | (.ok p, g) => (.inl (.asked d p), g)
  | .asked _ p => (.inr (g.finishRead p).1, (g.finishRead p).2)

end Errand

namespace Gateway

variable {δ μ : Type}

/-- What else happens to `g` while a command is under way: the devices of the names are
disabled. Settings, locks and profiles stay, and the driver is not called. -/
structure Meanwhile (names : List String) (g h : Gateway δ μ) : Prop where
  settings : h.settings = g.settings
  locked : h.locked = g.locked
  driver : h.driver = g.driver
  registry : h.registry = g.registry.disableAll names

section

variable [Driver δ] (g : Gateway δ μ) (command : String)

/-- What the device answers when it is asked alone and its driver answers at once. -/
def expected (d : Device) : Except GatewayError Answer :=
  match (g.beginRead d.id command).1 with
  | .error e => .error e
  | .ok p => (g.finishRead p).1

/-- The device that is disabled thereby, if one is. -/
def failing (d : Device) : List String :=
  match (g.beginRead d.id command).1 with
  | .error _ => []
  | .ok p => p.failing g.settings.dataTransform

/-- The errand has come as far as it would alone, but for times and states. -/
def Expects : Errand → Prop
  | .spawned _ => True
  | .found d now => (g.find d.id).map Device.stateless = .ok now.stateless
  | .asked d p => (g.beginRead d.id command).1.map PendingRead.undated = .ok p.undated

/-- `h` answers reads as `g` does, but for times and states. -/
structure SameReads (g h : Gateway δ μ) : Prop extends SameGates g h where
  driver : Driver.AfterReads g.driver h.driver

end

end Gateway

/-! ### Races -/

/-- A command for many devices under way. -/
structure Race (δ μ : Type) where
  gateway : Gateway δ μ
  errands : List Errand
  /-- The answers of the errands that have ended, in that order. -/
  answers : List (Device × Except GatewayError Answer) := []
  /-- Whom others have disabled in the meantime. -/
  others : List String := []

namespace Race

variable {δ μ : Type} [Driver δ]

/-- One errand takes a step, whichever it is, or something else happens. -/
inductive Step (command : String) (r : Race δ μ) : Race δ μ → Prop
  | goes {e e' : Errand} {rest : List Errand} {h : Gateway δ μ}
    (hpick : r.errands.Perm (e :: rest)) (hnext : e.advance command r.gateway = (.inl e', h)) :
    Step command r { r with gateway := h, errands := e' :: rest }
  | ends {e : Errand} {rest : List Errand} {answer : Except GatewayError Answer}
    {h : Gateway δ μ} (hpick : r.errands.Perm (e :: rest))
    (hnext : e.advance command r.gateway = (.inr answer, h)) :
    Step command r { r with
      gateway := h, errands := rest, answers := r.answers ++ [(e.device, answer)] }
  | meanwhile {names : List String} {h : Gateway δ μ} (hm : r.gateway.Meanwhile names h) :
    Step command r { r with gateway := h, others := r.others ++ names }

/-- An errand for each device that has the command and is not locked. -/
def start (g : Gateway δ μ) (command : String) : Race δ μ where
  gateway := g
  errands := (g.targets command).map .spawned

/-- What a command can come to from `g`, in any order. -/
inductive Run (g : Gateway δ μ) (command : String) : Race δ μ → Prop
  | start : Run g command (start g command)
  | step {r r' : Race δ μ} (hr : Run g command r) (hs : Step command r r') : Run g command r'

/-- The race is as it is to be when it comes from `g`. -/
structure Fair (g : Gateway δ μ) (command : String) (r : Race δ μ) : Prop where
  reads : g.SameReads r.gateway
  /-- Every device has an errand or an answer. -/
  devices : (r.errands.map Errand.device ++ r.answers.map (·.1)).Perm (g.targets command)
  errands : ∀ e ∈ r.errands, g.Expects command e
  answers : ∀ a ∈ r.answers, a.2.map Answer.undated = (g.expected command a.1).map Answer.undated
  registry : r.gateway.registry =
    g.registry.disableAll (r.others ++ r.answers.flatMap fun a => g.failing command a.1)

end Race

namespace Gateway

variable {δ μ : Type} [Driver δ] {g h k : Gateway δ μ} {command : String}

theorem SameReads.meanwhile {names : List String} (hgh : g.SameReads h)
    (hm : h.Meanwhile names k) : g.SameReads k where
  settings := hm.settings.trans hgh.settings
  locked := hm.locked.trans hgh.locked
  registry := by
    rw [hm.registry]
    exact hgh.registry.trans (Registry.sameButStates_disableAll names h.registry)
  driver := by
    rw [hm.driver]
    exact hgh.driver

/-- Asking the driver changes nothing else that matters. -/
theorem SameReads.asked (hgh : g.SameReads h) (d : Device) (command : String) :
    g.SameReads (h.ask d command).2 ∧ (h.ask d command).2.registry = h.registry := by
  unfold ask
  split
  · exact ⟨hgh, rfl⟩
  · exact ⟨⟨⟨hgh.settings, hgh.locked, hgh.registry⟩, hgh.driver.read ..⟩, rfl⟩

omit [Driver δ] in
theorem finishRead_meanwhile (g : Gateway δ μ) (p : PendingRead) :
    g.Meanwhile (p.failing g.settings.dataTransform) (g.finishRead p).2 := by
  refine ⟨?_, ?_, ?_, registry_finishRead g p⟩ <;>
  · cases ho : p.outcome with
    | error e => simp only [finishRead, ho]
    | ok values =>
      rw [finishRead_ok g ho]
      rfl

/-- The driver is asked what it would be asked if the device were alone. -/
theorem Expects.asks (hsteady : Driver.Steady g.settings.timeout g.driver) (hgh : g.SameReads h)
    {d now : Device} (he : g.Expects command (.found d now)) :
    (h.ask now command).1.map PendingRead.undated =
      (g.beginRead d.id command).1.map PendingRead.undated := by
  obtain ⟨d₀, hfind, hsame⟩ := map_eq_ok.1 he
  rw [beginRead_eq, hfind]
  exact hgh.toSameGates.ask hsteady hgh.driver hsame.symm command

/-- An errand that goes on comes as far as it would alone, and disables nobody. -/
theorem Expects.goes (hsteady : Driver.Steady g.settings.timeout g.driver) (hgh : g.SameReads h)
    {e e' : Errand} (he : g.Expects command e) (hnext : e.advance command h = (.inl e', k)) :
    e'.device = e.device ∧ g.Expects command e' ∧ g.SameReads k ∧ k.registry = h.registry := by
  cases e with
  | spawned d =>
    have hfind := hgh.toSameGates.find d.id
    simp only [Errand.advance] at hnext
    split at hnext
    · cases hnext
    · next now hnow =>
      cases hnext
      rw [hnow] at hfind
      exact ⟨rfl, hfind.symm, hgh, rfl⟩
  | found d now =>
    have hasks := Expects.asks hsteady hgh he
    obtain ⟨hreads, hregistry⟩ := hgh.asked now command
    simp only [Errand.advance] at hnext
    split at hnext
    · cases hnext
    · next p h' hask =>
      cases hnext
      rw [hask] at hasks hreads hregistry
      exact ⟨rfl, hasks.symm, hreads, hregistry⟩
  | asked d p => cases hnext

/-- An errand that ends has the answer that it has alone, and disables whom it disables alone. -/
theorem Expects.ends (hsteady : Driver.Steady g.settings.timeout g.driver) (hgh : g.SameReads h)
    {e : Errand} {answer : Except GatewayError Answer} (he : g.Expects command e)
    (hnext : e.advance command h = (.inr answer, k)) :
    answer.map Answer.undated = (g.expected command e.device).map Answer.undated ∧
      g.SameReads k ∧ k.registry = h.registry.disableAll (g.failing command e.device) := by
  cases e with
  | spawned d =>
    have hfind := hgh.toSameGates.find d.id
    simp only [Errand.advance] at hnext
    split at hnext
    · next e hnow =>
      cases hnext
      rw [hnow] at hfind
      have hfailed : g.find d.id = .error e := map_eq_error.1 hfind.symm
      have hbegun : g.beginRead d.id command = (.error e, g) := by rw [beginRead_eq, hfailed]
      simp only [expected, failing, Errand.device, hbegun]
      exact ⟨trivial, hgh, rfl⟩
    · cases hnext
  | found d now =>
    have hasks := Expects.asks hsteady hgh he
    obtain ⟨hreads, hregistry⟩ := hgh.asked now command
    simp only [Errand.advance] at hnext
    split at hnext
    · next e h' hask =>
      cases hnext
      rw [hask] at hasks hreads hregistry
      have hbegun : (g.beginRead d.id command).1 = .error e := map_eq_error.1 hasks.symm
      simp only [expected, failing, Errand.device, hbegun]
      exact ⟨trivial, hreads, hregistry⟩
    · cases hnext
  | asked d p =>
    obtain ⟨q, hq, hsame⟩ := map_eq_ok.1 he
    have hmeanwhile := finishRead_meanwhile h p
    cases hnext
    simp only [expected, failing, Errand.device, hq]
    refine ⟨finishRead_undated hgh.settings hsame.symm, hgh.meanwhile hmeanwhile, ?_⟩
    rw [hmeanwhile.registry, hgh.settings, failing_undated _ hsame.symm]

end Gateway

/-! ### The end of a race -/

namespace Race

variable {δ μ : Type} [Driver δ] {g : Gateway δ μ} {command : String} {r r' : Race δ μ}

theorem fair_start (g : Gateway δ μ) (command : String) : Fair g command (start g command) where
  reads := ⟨.refl g, .refl⟩
  devices := by
    have hall : ((g.targets command).map Errand.spawned).map Errand.device = g.targets command := by
      rw [List.map_map]
      exact List.map_id _
    simp [start, hall]
  errands := by simp [start, Gateway.Expects]
  answers := by simp [start]
  registry := rfl

theorem Fair.step (hsteady : Driver.Steady g.settings.timeout g.driver) (hf : Fair g command r)
    (hs : Step command r r') : Fair g command r' := by
  cases hs with
  | @goes e e' rest h hpick hnext =>
    have he := hf.errands e (hpick.mem_iff.2 List.mem_cons_self)
    obtain ⟨hdevice, hexpects, hreads, hregistry⟩ := he.goes hsteady hf.reads hnext
    refine ⟨hreads, ?_, fun x hx => ?_, hf.answers, hregistry.trans hf.registry⟩
    · refine List.Perm.trans (List.Perm.append_right _ ?_) hf.devices
      rw [List.map_cons, hdevice]
      exact (hpick.map Errand.device).symm
    · rcases List.mem_cons.1 hx with rfl | hx
      · exact hexpects
      · exact hf.errands x (hpick.mem_iff.2 (List.mem_cons_of_mem _ hx))
  | @ends e rest answer h hpick hnext =>
    have he := hf.errands e (hpick.mem_iff.2 List.mem_cons_self)
    obtain ⟨hanswer, hreads, hregistry⟩ := he.ends hsteady hf.reads hnext
    refine ⟨hreads, ?_, fun x hx => ?_, fun a ha => ?_, ?_⟩
    · refine List.Perm.trans ?_ hf.devices
      have hmove : (rest.map Errand.device ++ (r.answers ++ [(e.device, answer)]).map (·.1)).Perm
          (e.device :: rest.map Errand.device ++ r.answers.map (·.1)) := by
        rw [List.map_append, ← List.append_assoc]
        exact List.perm_append_singleton ..
      exact hmove.trans ((hpick.map Errand.device).symm.append_right _)
    · exact hf.errands x (hpick.mem_iff.2 (List.mem_cons_of_mem _ hx))
    · rcases List.mem_append.1 ha with ha | ha
      · exact hf.answers a ha
      · rw [List.mem_singleton.1 ha]
        exact hanswer
    · rw [hregistry, hf.registry, ← Registry.disableAll_append, List.append_assoc,
        List.flatMap_append, List.flatMap_singleton]
  | @meanwhile names h hm =>
    refine ⟨hf.reads.meanwhile hm, hf.devices, hf.errands, hf.answers, ?_⟩
    rw [hm.registry, hf.registry, ← Registry.disableAll_append]
    refine Registry.disableAll_congr _ fun n => ?_
    simp only [List.mem_append]
    rw [or_assoc, or_assoc, or_comm (a := n ∈ names)]

theorem Run.fair (hsteady : Driver.Steady g.settings.timeout g.driver) (hr : Run g command r) :
    Fair g command r := by
  induction hr with
  | start => exact fair_start g command
  | step _ hs ih => exact ih.step hsteady hs

/-- An errand that goes on has fewer steps to take. -/
theorem stepsLeft_lt {e e' : Errand} {h k : Gateway δ μ}
    (hnext : e.advance command h = (.inl e', k)) : e'.stepsLeft < e.stepsLeft := by
  cases e with
  | asked d p => cases hnext
  | spawned d =>
    simp only [Errand.advance] at hnext
    split at hnext <;> cases hnext
    exact Nat.lt_succ_self 2
  | found d now =>
    simp only [Errand.advance] at hnext
    split at hnext <;> cases hnext
    exact Nat.lt_succ_self 1

/-- No order of the steps gets stuck: what has been begun can be run to the end. -/
theorem Run.finishes (hr : Run g command r) : ∃ r', Run g command r' ∧ r'.errands = [] ∧
    r'.others = r.others ∧ r.answers <+: r'.answers := by
  induction hn : (r.errands.map Errand.stepsLeft).sum using Nat.strongRecOn generalizing r with
  | ind n ih =>
    cases herrands : r.errands with
    | nil => exact ⟨r, hr, herrands, rfl, List.prefix_refl _⟩
    | cons e rest =>
      have hpick : r.errands.Perm (e :: rest) := .of_eq herrands
      rw [herrands, List.map_cons, List.sum_cons] at hn
      generalize hnext : e.advance command r.gateway = next
      obtain ⟨result, h⟩ := next
      cases result with
      | inl e' =>
        have hless := stepsLeft_lt hnext
        have hstep := hr.step (.goes hpick hnext)
        obtain ⟨r', hr', hdone, hothers, hprefix⟩ :=
          ih (e'.stepsLeft + (rest.map Errand.stepsLeft).sum) (by omega) hstep List.sum_cons
        exact ⟨r', hr', hdone, hothers, hprefix⟩
      | inr answer =>
        have hsome : 0 < e.stepsLeft := by cases e <;> exact Nat.succ_pos _
        have hstep := hr.step (.ends hpick hnext)
        obtain ⟨r', hr', hdone, hothers, hprefix⟩ :=
          ih (rest.map Errand.stepsLeft).sum (by omega) hstep rfl
        exact ⟨r', hr', hdone, hothers, (List.prefix_append ..).trans hprefix⟩

/-- When all errands have ended every device has the answer that it has alone, and those are
disabled that would be alone or have been by others. -/
theorem Run.outcome (hsteady : Driver.Steady g.settings.timeout g.driver) (hr : Run g command r)
    (hdone : r.errands = []) :
    (r.answers.map fun a => (a.1.name, a.2.map Answer.undated)).Perm
      ((g.targets command).map fun d => (d.name, (g.expected command d).map Answer.undated)) ∧
    r.gateway.registry = g.registry.disableAll
      (r.others ++ (g.targets command).flatMap (g.failing command)) := by
  have hf := hr.fair hsteady
  have hdevices : (r.answers.map (·.1)).Perm (g.targets command) := by
    simpa [hdone] using hf.devices
  constructor
  · have hanswers : (r.answers.map fun a => (a.1.name, a.2.map Answer.undated)) =
        (r.answers.map (·.1)).map fun d => (d.name, (g.expected command d).map Answer.undated) := by
      rw [List.map_map]
      exact List.map_congr_left fun a ha => congrArg (Prod.mk a.1.name) (hf.answers a ha)
    rw [hanswers]
    exact hdevices.map _
  · rw [hf.registry]
    refine Registry.disableAll_congr _ fun n => ?_
    have hsame : (n ∈ r.answers.flatMap fun a => g.failing command a.1) ↔
        n ∈ (g.targets command).flatMap (g.failing command) := by
      rw [← (hdevices.flatMap_right (g.failing command)).mem_iff, List.flatMap_map]
    rw [List.mem_append, List.mem_append, hsame]

end Race

end DeviceGateway
