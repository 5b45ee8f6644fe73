import DeviceGateway.Proofs.Gateway.All
import DeviceGateway.Proofs.Gateway.Watch

/-! What a simulator keeps of a device that is removed. It is told to forget the name in the
addressable, under which it has the values written to the device, but it watches objects under the
names of devices. So a removal ends the pushes for the device exactly if that is addressed by its
own name, and it ends those for a device whose name is the one in the addressable. -/

namespace DeviceGateway

namespace Simulator

open Driver (Call runAll)

/-! ### What is watched under a name -/

/-- What is watched under a name, in order. -/
def watchesOf (s : Simulator) (device : String) : List (String × DeviceObject) :=
  s.watches.filter (·.1 = device)

theorem watchesOf_forget (s : Simulator) (device device' : String) :
    (s.forget device).watchesOf device' =
      if device' = device then [] else s.watchesOf device' := by
  unfold watchesOf forget
  rw [List.filter_filter]
  split
  · next hsame => exact List.filter_eq_nil_iff.2 fun w _ => by simp [hsame]
  · next hother => exact List.filter_congr fun w _ => by grind

/-- The call forgets the name. -/
def forgets (device : String) : Call → Bool
  | .disconnect target => decide (target.name = device)
  | _ => false

theorem watchesOf_run (s : Simulator) (c : Call) (device : String) :
    (c.run s).watchesOf device = if forgets device c then [] else s.watchesOf device := by
  by_cases hc : ∃ target, c = .disconnect target
  · obtain ⟨target, rfl⟩ := hc
    show (s.forget target.name).watchesOf device = _
    rw [watchesOf_forget]
    simp [forgets, eq_comm]
  · have hnone : ∀ target, Call.disconnect target ∉ [c] :=
      fun target ht => hc ⟨target, (List.mem_singleton.1 ht).symm⟩
    have hkept : (c.run s).watches = s.watches := watches_runAll hnone s
    have hforgets : forgets device c = false := by
      cases c with
      | disconnect target => exact absurd ⟨target, rfl⟩ hc
      | _ => rfl
    simp [watchesOf, hkept, hforgets]

/-- What is watched under a name stays until the name is forgotten, and does not come back. -/
theorem watchesOf_runAll (s : Simulator) (cs : List Call) (device : String) :
    (runAll s cs).watchesOf device =
      if cs.any (forgets device) then [] else s.watchesOf device := by
  induction cs generalizing s with
  | nil => rfl
  | cons c cs ih =>
    show (runAll (c.run s) cs).watchesOf device = _
    rw [ih, watchesOf_run, List.any_cons]
    cases forgets device c <;> cases cs.any (forgets device) <;> rfl

/-! ### Ticks -/

/-- Whatever the simulator is called for from now on, no tick sends a batch for the device. -/
def Silent (s : Simulator) (device : String) : Prop :=
  ∀ (cs : List Call) (f f' : Feeder) (now : Int64), f.tick (runAll s cs) now = some f' →
    ∀ b ∈ f'.outbox, b.device ≠ device

theorem Silent.runAll {s : Simulator} {device : String} (h : s.Silent device) (cs : List Call) :
    (runAll s cs).Silent device := by
  intro cs' f f' now
  rw [Driver.runAll, Driver.runAll, ← List.foldl_append]
  exact h (cs ++ cs') f f' now

theorem outbox_tick {s : Simulator} {f f' : Feeder} {now : Int64} (h : f.tick s now = some f') :
    f'.outbox = Driver.push s now := by
  obtain ⟨p, -, rfl⟩ := Option.map_eq_some_iff.1 h
  rfl

/-- A name under which nothing is watched is silent for good. -/
theorem silent_of_watchesOf {s : Simulator} {device : String} (h : s.watchesOf device = []) :
    s.Silent device := by
  rintro cs f f' now hf b hb rfl
  rw [outbox_tick hf, mem_push_iff, pushed, valuesOf] at hb
  have hnone : (runAll s cs).watchesOf b.device = [] := by rw [watchesOf_runAll, h, ite_self]
  rw [watchesOf] at hnone
  rw [hnone, List.filterMap_nil] at hb
  exact hb.2 hb.1

/-- What is watched is sent by every tick until the name is forgotten. -/
theorem mem_outbox_of_watched {s : Simulator} {device : String} {o : DeviceObject}
    (hwatched : (device, o) ∈ s.watchesOf device) {cs : List Call}
    (hcs : cs.any (forgets device) = false) {f f' : Feeder} {now : Int64}
    (hf : f.tick (runAll s cs) now = some f') {v : TypedValue}
    (hv : (runAll s cs).generate now device o = .ok v) :
    ∃ b ∈ f'.outbox, b.device = device ∧ v ∈ b.values := by
  have hkept : (runAll s cs).watchesOf device = s.watchesOf device := by
    rw [watchesOf_runAll, hcs, if_neg Bool.false_ne_true]
  have hstill : (device, o) ∈ (runAll s cs).watches :=
    (List.mem_filter.1 (hkept ▸ hwatched)).1
  have hmem := (runAll s cs).mem_pushed now hstill hv
  refine ⟨⟨device, (runAll s cs).pushed now device⟩, ?_, rfl, hmem⟩
  rw [outbox_tick hf, mem_push_iff]
  exact ⟨rfl, List.ne_nil_of_mem hmem⟩

end Simulator

namespace Gateway

open Driver (runAll)
open Simulator (forgets)

variable {μ : Type} [MetadataSource μ] {g : Gateway Simulator μ} {d : Device}

/-! ### Removals -/

omit [MetadataSource μ] in
theorem removeDevice_ok {δ : Type} [Driver δ] {g : Gateway δ μ}
    (hg : g.registry.Consistent) (hd : d ∈ g.registry.devices) :
    g.removeDevice d.id = (.ok d, { g with
      registry := { g.registry with
        byName := g.registry.byName.erase d.name
        nameById := g.registry.nameById.erase d.id }
      driver := (Driver.disconnect g.driver d.addressable).2 }.record
        (.disconnected d.addressable)) := by
  simp only [removeDevice, hg.deviceById_of_mem hd, Registry.removeDevice,
    hg.deviceByName_of_mem hd]

/-- A device that is registered is removed, and the simulator forgets the name in its addressable.
So nothing is left of what was written to the device. Nothing is watched for it any more exactly
if that is its own name, or nothing was watched for it before; then no tick sends a batch for it,
whatever is asked of the gateway or called for after that. Otherwise the ticks go on to send its
values until its own name is forgotten, too. What is watched for another device stays exactly if
that does not bear the name, or nothing was watched for it; and what was written to it stays
exactly if it is not addressed by the name, or nothing was written to it. -/
theorem Reachable.removal_silences_iff (hg : g.Reachable) (hd : d ∈ g.registry.devices) :
    let h := (g.removeDevice d.id).2
    (g.removeDevice d.id).1 = .ok d ∧
    (∀ object, h.driver.written? d.addressable.name object = none) ∧
    (h.driver.watchesOf d.name = [] ↔
      d.addressable.name = d.name ∨ g.driver.watchesOf d.name = []) ∧
    (h.driver.watchesOf d.name = [] →
      ∀ os : List Order, (h.serveAll os).driver.Silent d.name) ∧
    (d.addressable.name ≠ d.name → ∀ o, (d.name, o) ∈ g.driver.watches →
      ∀ cs, cs.any (forgets d.name) = false → ∀ (f f' : Feeder) now,
        f.tick (runAll h.driver cs) now = some f' →
        ∀ v, (runAll h.driver cs).generate now d.name o = .ok v →
          ∃ b ∈ f'.outbox, b.device = d.name ∧ v ∈ b.values) ∧
    ∀ e ∈ g.registry.devices, e ≠ d →
      e ∈ h.registry.devices ∧
      (h.driver.watchesOf e.name = g.driver.watchesOf e.name ↔
        e.name ≠ d.addressable.name ∨ g.driver.watchesOf e.name = []) ∧
      ((∀ object, h.driver.written? e.addressable.name object =
          g.driver.written? e.addressable.name object) ↔
        e.addressable.name ≠ d.addressable.name ∨
          ∀ object, g.driver.written? e.addressable.name object = none) := by
  intro h
  have hconsistent := hg.consistent
  have hremoved := removeDevice_ok hconsistent hd
  have hdriver : h.driver = g.driver.forget d.addressable.name :=
    congrArg (fun r => r.2.driver) hremoved
  have hregistry : h.registry.byName = g.registry.byName.erase d.name :=
    congrArg (fun r => r.2.registry.byName) hremoved
  refine ⟨congrArg Prod.fst hremoved, fun object => ?_, ?_, fun hnone os => ?_,
    fun hname o ho cs hcs f f' now hf v hv => ?_, fun e he hne => ⟨?_, ?_, ?_⟩⟩
  · rw [hdriver, Simulator.written?_forget, if_pos rfl]
  · rw [hdriver, Simulator.watchesOf_forget]
    by_cases hname : d.name = d.addressable.name
    · simp [← hname]
    · simp [hname, Ne.symm hname]
  · obtain ⟨cs, hdrives, -⟩ := serveAll_drives Simulator.unmoved h os
    rw [hdrives.driver]
    exact (Simulator.silent_of_watchesOf hnone).runAll cs
  · refine Simulator.mem_outbox_of_watched ?_ hcs hf hv
    rw [hdriver, Simulator.watchesOf_forget, if_neg (Ne.symm hname)]
    exact List.mem_filter.2 ⟨ho, by simp⟩
  · have hother : e.name ≠ d.name := fun heq => by
      have hsame := hconsistent.deviceByName_of_mem he
      rw [heq, hconsistent.deviceByName_of_mem hd] at hsame
      exact hne (Option.some.inj hsame).symm
    refine Table.mem_values.2 ⟨e.name, ?_⟩
    rw [hregistry, Table.get?_erase, if_neg hother, hconsistent.deviceByName_of_mem he]
  · rw [hdriver, Simulator.watchesOf_forget]
    by_cases hname : e.name = d.addressable.name
    · simp only [hname, if_true, not_true, ne_eq, false_or]
      exact eq_comm
    · simp [hname]
  · simp only [hdriver, Simulator.written?_forget]
    by_cases hname : e.addressable.name = d.addressable.name
    · simp only [hname, if_true, not_true, ne_eq, false_or]
      exact forall_congr' fun object => eq_comm
    · simp [hname]

/-- The valve is addressed by its own name, which the pump does not bear: when it is removed its
pushes end, and those of the pump do not. -/
theorem removal_silences_iff_remote :
    remote.watching.Reachable ∧ Device.ofNames "2" "Valve" "Meter" ∈ remote.registry.devices ∧
    let h := (remote.watching.removeDevice "2").2
    (∀ os : List Order, (h.serveAll os).driver.Silent "Valve") ∧
    h.driver.watchesOf "Pump" = [("Pump", pushedLevel)] := by
  have hreachable : remote.watching.Reachable := .step (launched_reachable ..) (.drive _)
  have hvalve : Device.ofNames "2" "Valve" "Meter" ∈ remote.watching.registry.devices := by
    decide +kernel
  have hpump : { Device.ofNames "1" "Pump" "Meter" with addressable := { name := "north" } } ∈
      remote.watching.registry.devices := by decide +kernel
  obtain ⟨-, -, hnone, hsilent, -, hothers⟩ := hreachable.removal_silences_iff hvalve
  obtain ⟨-, hwatches, -⟩ := hothers _ hpump (by decide)
  exact ⟨hreachable, hvalve, hsilent (hnone.2 (.inl rfl)), hwatches.2 (.inl (by decide))⟩

/-- A gateway that has just started, with a pump that is addressed by the name of the valve. -/
def entangled : Gateway Simulator FixedSource :=
  launched { interval := 100 }
    [{ Device.ofNames "1" "Pump" "Meter" with addressable := { name := "Valve" } },
      .ofNames "2" "Valve" "Meter"]
    [gauge pushedLevel]

/-- The pump is removed, and it is the pushes of the valve that end. -/
theorem removal_silences_namesake_entangled :
    let removed := entangled.watching.removeDevice "1"
    entangled.watching.Reachable ∧
    (Driver.push entangled.watching.driver 9).map (·.device) = ["Pump", "Valve"] ∧
    removed.1.map (·.name) = .ok "Pump" ∧
    removed.2.registry.devices.map (·.name) = ["Valve"] ∧
    (Driver.push removed.2.driver 9).map (·.device) = ["Pump"] := by
  intro removed
  exact ⟨.step (launched_reachable ..) (.drive _), rfl, rfl, by decide +kernel, rfl⟩

end Gateway

end DeviceGateway
