import DeviceGateway.Proofs.Gateway.All

/-! Whom a command acts on. The key of a command is an id or a name, and an id comes first. So
the id of a device always leads to the device, but its name does only as long as no other device
has that name for its id. Whoever it is that is found, everything else is done with that one
device: its lock is checked, its profile is resolved, and the driver is called once, for its
addressable. -/

namespace DeviceGateway

namespace Gateway

variable {δ μ : Type} [Driver δ] [MetadataSource μ]

/-! ### While a gateway waits -/

section Rests

/-- From `g` to `h` no part of a command is under way, and the driver is left alone. -/
structure Rests (g h : Gateway δ μ) : Prop extends Calm g h where
  idle : h.Idle
  driver : h.driver = g.driver

theorem runTask_calm (g : Gateway δ μ) {t : GatewayTask} (ht : t.isCommand = false) :
    g.Calm (g.runTask t) := by
  refine calm_intake.runTask (fun g _ => g.record_calm rfl) (fun g device source => ?_) g ht
  have hnoted := g.record_calm (d := .reported device .disabled) rfl
  exact hnoted.trans (.of_eq rfl rfl rfl rfl)

theorem rests_enduring (g : Gateway δ μ) : Enduring fun h => g.Rests h where
  runReady h hh := by
    have hnone : g.Rests { h with ready := [] } :=
      ⟨hh.toCalm.trans (.of_eq rfl rfl rfl rfl), ⟨by simp [Calmed], hh.idle.sleeping⟩, hh.driver⟩
    refine (foldl_runTask (P := fun ts h => (∀ t ∈ ts, t.isCommand = false) ∧ g.Rests h) ?_
      ⟨hh.idle.calmed, hnone⟩).2
    rintro t ts h ⟨hts, hh⟩
    obtain ⟨ht, hrest⟩ := List.forall_mem_cons.1 hts
    have helsewhere := runTask_elsewhere h ht
    exact ⟨hrest, hh.toCalm.trans (runTask_calm h ht), helsewhere.toProceeds.idle hh.idle,
      helsewhere.driver_eq.trans hh.driver⟩
  feed h hh := by
    have helsewhere := elsewhere_feed.feed h
    exact ⟨hh.toCalm.trans (calm_feed.feed h), helsewhere.toProceeds.idle hh.idle,
      helsewhere.driver_eq.trans hh.driver⟩
  jump _ t hh := ⟨hh.toCalm.trans (.of_eq rfl rfl rfl rfl), hh.idle.jump t, hh.driver⟩

variable {g : Gateway δ μ}

theorem Idle.rests_pass (hg : g.Idle) (ms : Nat) : g.Rests (g.pass ms) :=
  (rests_enduring g).pass ⟨.refl g, hg, rfl⟩ ms

omit [Driver δ] [MetadataSource μ] in
theorem reads_of_uncalled {new : List (Nat × Deed)} (h : ∀ e ∈ new, e.2.target? = none) :
    reads { g with trace := new } = [] := by
  refine List.filterMap_eq_nil_iff.2 fun e he => ?_
  have huncalled := h e he
  split
  · next hread => simp [hread, Deed.target?] at huncalled
  · rfl

/-- Nothing is read while an idle gateway waits. -/
theorem Idle.reads_pass (hg : g.Idle) (ms : Nat) : (g.pass ms).reads = g.reads := by
  obtain ⟨new, -, hpast⟩ := g.pass_trace ms
  have htrace : (g.pass ms).trace = g.trace ++ new := congrArg trace (hpast g.trace)
  have hcalls := (hg.rests_pass ms).calls
  simp only [calls, htrace, List.filterMap_append, List.append_right_eq_self] at hcalls
  have hnone := reads_of_uncalled (g := g) (List.filterMap_eq_nil_iff.1 hcalls)
  simp only [reads] at hnone ⊢
  rw [htrace, List.filterMap_append, hnone, List.append_nil]

end Rests

/-! ### Acting on a device -/

variable {g : Gateway δ μ} {key command : String}

/-- What is asked under the key is asked of the device. -/
structure ActsOn (g : Gateway δ μ) (key : String) (d : Device) : Prop where
  found : g.registry.lookup key = .ok d
  /-- It is its lock that is checked. -/
  barred : g.locked = false → d.isLocked = true → ∀ command parameters,
    g.get key command = (.error (.locked ("device " ++ d.name)), g) ∧
    g.put key command parameters = (.error (.locked ("device " ++ d.name)), g)
  /-- It is its profile that a command is resolved with. -/
  unresolved : g.locked = false → d.isLocked = false → ∀ command parameters e,
    (g.registry.resolve g.settings.maxOperations d command .get = .error e →
      g.get key command = (.error e, g)) ∧
    (g.registry.resolve g.settings.maxOperations d command .set = .error e →
      g.put key command parameters = (.error e, g))
  /-- It is its addressable that is read from, once, and its event that is made of that. -/
  reads : g.locked = false → d.isLocked = false → ∀ command rs,
    g.registry.resolve g.settings.maxOperations d command .get = .ok rs →
      (g.get key command).2.reads = g.reads ++ [(d.addressable, rs)] ∧
      (g.get key command).2.driver = (Driver.read g.driver g.wall d.addressable rs).2 ∧
      ∀ a, (g.get key command).1 = .ok a → a.event.device = d.name
  /-- It is its addressable that is written to, once, or there is no value for a request. -/
  writes : g.locked = false → d.isLocked = false → ∀ command parameters rs,
    g.registry.resolve g.settings.maxOperations d command .set = .ok rs →
    match parameterValues g.settings.dataTransform g.wall parameters rs with
    | .error e => g.put key command parameters = (.error e, g)
    | .ok vs =>
      (g.put key command parameters).2.writes = g.writes ++ [(d.addressable, rs, vs)] ∧
      (g.put key command parameters).2.driver = (Driver.write g.driver d.addressable rs vs).2

/-- A read that is admitted in an idle gateway is the only one, and all that the driver
notices. -/
theorem Idle.get_of_admits (hg : g.Idle) {d : Device} {rs : List Request}
    (h : g.Admits key command .get d rs) :
    (g.get key command).2.reads = g.reads ++ [(d.addressable, rs)] ∧
    (g.get key command).2.driver = (Driver.read g.driver g.wall d.addressable rs).2 ∧
    ∀ a, (g.get key command).1 = .ok a → a.event.device = d.name := by
  let reply := Driver.read g.driver g.wall d.addressable rs
  let asked : Gateway δ μ := { g with driver := reply.2 }.record (.read d.addressable rs)
  have hasked : asked.Idle := ⟨hg.calmed, hg.sleeping⟩
  have hawaited : g.awaitRead d rs = asked.pass (min reply.1.delay g.settings.timeout) := rfl
  have hget := Gateway.get_of_admits h
  rw [hget]
  refine ⟨?_, ?_, fun a ha => device_of_finishRead ha⟩
  · have hreads := hasked.reads_pass (min reply.1.delay g.settings.timeout)
    rw [Gateway.reads, trace_finishRead, hawaited]
    refine hreads.trans ?_
    simp [Gateway.reads, asked, record]
  · rw [driver_finishRead, hawaited]
    exact (hasked.rests_pass _).driver

theorem Idle.driver_put_of_ready (hg : g.Idle) {parameters : Table String} {d : Device}
    {rs : List Request} {vs : List TypedValue} (h : g.Ready key command parameters d rs vs) :
    (g.put key command parameters).2.driver = (Driver.write g.driver d.addressable rs vs).2 := by
  obtain ⟨new, -, -, hput⟩ := put_of_ready h
  rw [hput]
  have hcalled : Idle { g with driver := (Driver.write g.driver d.addressable rs vs).2 } :=
    ⟨hg.calmed, hg.sleeping⟩
  exact (hcalled.rests_pass _).driver

/-- A command acts on the device that is found. -/
theorem Idle.actsOn (hg : g.Idle) {d : Device} (h : g.registry.lookup key = .ok d) :
    g.ActsOn key d where
  found := h
  barred hunlocked hlocked command parameters := by
    have hbars : ∀ m, g.Bars key command m (.locked ("device " ++ d.name)) :=
      fun m => .deviceLocked hunlocked h hlocked
    exact ⟨get_of_bars (hbars .get), put_of_refuses (.barred (hbars .set))⟩
  unresolved hunlocked hdevice command parameters e :=
    ⟨fun hr => get_of_bars (.unresolved hunlocked h hdevice hr),
      fun hr => put_of_refuses (.barred (.unresolved hunlocked h hdevice hr))⟩
  reads hunlocked hdevice command rs hr := hg.get_of_admits ⟨hunlocked, h, hdevice, hr⟩
  writes hunlocked hdevice command parameters rs hr := by
    have hadmits : g.Admits key command .set d rs := ⟨hunlocked, h, hdevice, hr⟩
    cases hvs : parameterValues g.settings.dataTransform g.wall parameters rs with
    | error e =>
      obtain ⟨before, r, after, rfl, hbefore, hr⟩ := parameterValues_eq_error.1 hvs
      exact put_of_refuses (.valueless hadmits hbefore hr)
    | ok vs =>
      have hready : g.Ready key command parameters d rs vs :=
        ⟨hadmits, parameterValues_eq_ok.1 hvs⟩
      exact ⟨writes_put_of_ready hready, hg.driver_put_of_ready hready⟩

end Gateway

/-! ### Ids before names -/

namespace Registry.Consistent

variable {r : Registry} (hr : r.Consistent) {d : Device}

include hr in
theorem of_deviceById {id : String} (h : r.deviceById id = .ok d) :
    d ∈ r.devices ∧ d.id = id := by
  unfold Registry.deviceById at h
  split at h <;> cases h
  next hd =>
    obtain ⟨name, hname, hd⟩ := Option.bind_eq_some_iff.1 hd
    obtain ⟨e, he, hid⟩ := hr.identified id name hname
    obtain rfl : d = e := Option.some.inj (hd.symm.trans he)
    exact ⟨Table.mem_values.2 ⟨name, hd⟩, hid⟩

variable (hd : d ∈ r.devices)

include hr hd

/-- A device is found by its id, whatever other devices are called. -/
theorem lookup_id : r.lookup d.id = .ok d := by
  rw [Registry.lookup, hr.deviceById_of_mem hd]

/-- A device is found by its name unless another has that for its id. -/
theorem lookup_name : r.lookup d.name = .ok d ↔ ∀ e ∈ r.devices, e.id = d.name → e = d := by
  constructor
  · intro hlookup e he hid
    have hfirst := hr.lookup_id he
    rw [hid, hlookup] at hfirst
    exact (Except.ok.inj hfirst).symm
  · intro honly
    unfold Registry.lookup
    split
    · next e he =>
      obtain ⟨hmem, hid⟩ := hr.of_deviceById he
      exact congrArg Except.ok (honly e hmem hid)
    · rw [Registry.deviceByName, hr.deviceByName_of_mem hd]

end Registry.Consistent

namespace Gateway

section Keys

variable {δ μ : Type} [Driver δ] [MetadataSource μ] {g : Gateway δ μ}

/-- The id of a device that is registered always leads to it. Its name does unless it is the id
of another device, on which the commands act then. -/
theorem Reachable.id_before_name (hg : g.Reachable) {d : Device}
    (hd : d ∈ g.registry.devices) :
    g.ActsOn d.id d ∧
    (g.ActsOn d.name d ↔ ∀ e ∈ g.registry.devices, e.id = d.name → e = d) ∧
    ∀ e ∈ g.registry.devices, e.id = d.name → g.ActsOn d.name e := by
  have hconsistent := hg.consistent
  refine ⟨hg.idle.actsOn (hconsistent.lookup_id hd), ?_, fun e he hid => ?_⟩
  · rw [← hconsistent.lookup_name hd]
    exact ⟨ActsOn.found, hg.idle.actsOn⟩
  · rw [← hid]
    exact hg.idle.actsOn (hconsistent.lookup_id he)

end Keys

/-- A gateway that has just started. What the device in the north is called is the id of the one
in the south. A third device is locked. -/
def shadowed : Gateway Script FixedSource :=
  launched { otherwise := some { values := .ok [.ofString "Level" 7 "low"] } }
    [{ Device.ofNames "1" "2" "Meter" with addressable := { name := "north" } },
      { Device.ofNames "2" "3" "Meter" with addressable := { name := "south" } },
      { Device.ofNames "4" "Drain" "Meter" with adminState := .locked }]
    [gauge (.ofSpec "Level" (.plain .string))]

/-- The device in the north is reached by its id alone, and the locked one by its name, too. -/
theorem id_before_name_shadowed :
    let north : Device :=
      { Device.ofNames "1" "2" "Meter" with addressable := { name := "north" } }
    let south : Device :=
      { Device.ofNames "2" "3" "Meter" with addressable := { name := "south" } }
    let drain : Device := { Device.ofNames "4" "Drain" "Meter" with adminState := .locked }
    shadowed.registry.devices = [north, south, drain] ∧
    shadowed.ActsOn "1" north ∧ ¬ shadowed.ActsOn "2" north ∧ shadowed.ActsOn "2" south ∧
    shadowed.ActsOn "Drain" drain := by
  intro north south drain
  have hreachable : shadowed.Reachable := launched_reachable ..
  have hdevices : shadowed.registry.devices = [north, south, drain] := by decide +kernel
  have hnorth : north ∈ shadowed.registry.devices := by simp [hdevices]
  have hsouth : south ∈ shadowed.registry.devices := by simp [hdevices]
  have hdrain : drain ∈ shadowed.registry.devices := by simp [hdevices]
  obtain ⟨hid, hname, hother⟩ := hreachable.id_before_name hnorth
  obtain ⟨-, hdrained, -⟩ := hreachable.id_before_name hdrain
  refine ⟨hdevices, hid, fun h => ?_, hother south hsouth rfl, hdrained.2 ?_⟩
  · exact absurd (hname.1 h south hsouth rfl) (by decide)
  · rw [hdevices]
    decide

/-- Who asks for the device in the north by its name reads from the one in the south, and writes
to it. -/
theorem name_misleads_shadowed :
    let north : Device :=
      { Device.ofNames "1" "2" "Meter" with addressable := { name := "north" } }
    shadowed.Reachable ∧ north ∈ shadowed.registry.devices ∧
    (shadowed.get north.name "Level").2.calls = shadowed.calls ++ [{ name := "south" }] ∧
    (shadowed.put north.name "Level" (.ofList [("Level", "high")])).2.calls =
      shadowed.calls ++ [{ name := "south" }] ∧
    ¬ shadowed.ActsOn north.name north := by
  intro north
  refine ⟨launched_reachable .., by decide +kernel, by decide +kernel, by decide +kernel,
    fun h => ?_⟩
  have hname := congrArg (Except.map Device.name) h.found
  have hsouth : (shadowed.registry.lookup "2").map Device.name = .ok "3" := rfl
  have hne : ("3" : String) = "2" := Except.ok.inj (hsouth.symm.trans hname)
  exact absurd hne (by decide)

end Gateway

end DeviceGateway
