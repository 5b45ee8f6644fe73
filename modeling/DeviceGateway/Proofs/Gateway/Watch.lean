import DeviceGateway.Proofs.Gateway.Orders

/-! What a simulator pushes. It keeps what it watches by the names of devices and pushes what it
knows under these names, but reads and writes go by the names in addressables. So what is pushed
for a device is what a read of it answers as long as it is addressed by its own name. -/

namespace DeviceGateway

namespace Simulator

open Driver (Call runAll)

/-! ### Batches -/

section Batches

variable (s : Simulator) (now : Int64)

/-- The values of the watched objects of a device, in order; those that have none are left out. -/
def valuesOf (ws : List (String × DeviceObject)) (device : String) : List TypedValue :=
  (ws.filter (·.1 = device)).filterMap fun w => (s.generate now device w.2).toOption

/-- What is pushed for a device. -/
def pushed (device : String) : List TypedValue := s.valuesOf now s.watches device

/-- The table with the value of a watched object at the end of those of its device. -/
def collect (t : Table (List TypedValue)) (w : String × DeviceObject) : Table (List TypedValue) :=
  match s.generate now w.1 w.2 with
  | .ok v => t.insert w.1 ((t.get? w.1).getD [] ++ [v])
  | .error _ => t

theorem valuesOf_cons (w : String × DeviceObject) (ws : List (String × DeviceObject))
    (device : String) : s.valuesOf now (w :: ws) device =
      (if w.1 = device then (s.generate now w.1 w.2).toOption.toList else []) ++
        s.valuesOf now ws device := by
  unfold valuesOf
  by_cases hdevice : w.1 = device
  · subst hdevice
    rw [List.filter_cons_of_pos (by simp), List.filterMap_cons, if_pos rfl]
    cases s.generate now w.1 w.2 <;> rfl
  · rw [List.filter_cons_of_neg (by simpa using hdevice), if_neg hdevice, List.nil_append]

theorem get?_foldl_collect (ws : List (String × DeviceObject)) (t : Table (List TypedValue))
    (device : String) : (ws.foldl (s.collect now) t).get? device =
      if s.valuesOf now ws device = [] then t.get? device
      else some ((t.get? device).getD [] ++ s.valuesOf now ws device) := by
  induction ws generalizing t with
  | nil => rfl
  | cons w ws ih =>
    rw [List.foldl_cons, ih, valuesOf_cons]
    by_cases hdevice : w.1 = device
    · subst hdevice
      rw [if_pos rfl, collect]
      cases s.generate now w.1 w.2 with
      | error e => rfl
      | ok v => by_cases hrest : s.valuesOf now ws w.1 = [] <;> simp [hrest, Except.toOption]
    · have hsame : (s.collect now t w).get? device = t.get? device := by
        unfold collect
        split
        · rw [Table.get?_insert, if_neg (Ne.symm hdevice)]
        · rfl
      rw [hsame, if_neg hdevice, List.nil_append]

/-- There is one batch for each device for which something is pushed. -/
theorem mem_push_iff (b : Batch) : b ∈ Driver.push s now ↔
    b.values = s.pushed now b.device ∧ b.values ≠ [] := by
  have hentry : b ∈ Driver.push s now ↔
      (s.watches.foldl (s.collect now) ∅).get? b.device = some b.values := by
    rw [Table.get?_eq_some_iff]
    show b ∈ List.map _ _ ↔ _
    rw [List.mem_map]
    constructor
    · rintro ⟨e, he, rfl⟩
      exact he
    · intro h
      exact ⟨_, h, rfl⟩
  rw [hentry, get?_foldl_collect, pushed]
  by_cases hnone : s.valuesOf now s.watches b.device = []
  · simp +contextual [hnone]
  · simp only [if_neg hnone, Table.get?_empty, Option.getD_none, List.nil_append,
      Option.some.injEq]
    constructor
    · intro h
      exact ⟨h.symm, h ▸ hnone⟩
    · exact fun h => h.1.symm

/-- What is pushed for an object that is watched is the value that it has under the name of the
device. -/
theorem mem_pushed {device : String} {o : DeviceObject} (hwatched : (device, o) ∈ s.watches)
    {v : TypedValue} (hv : s.generate now device o = .ok v) : v ∈ s.pushed now device := by
  refine List.mem_filterMap.2 ⟨(device, o), List.mem_filter.2 ⟨hwatched, by simp⟩, ?_⟩
  rw [hv]
  rfl

end Batches

/-! ### What is watched -/

section Watches

variable {s : Simulator}

theorem foldl_watch (ws : List (String × DeviceObject)) (s : Simulator) :
    ws.foldl (fun (s : Simulator) w => s.watch w.1 w.2) s =
      { s with watches := s.watches ++ ws } := by
  induction ws generalizing s with
  | nil => rw [List.append_nil]; rfl
  | cons w ws ih =>
    rw [List.foldl_cons, ih, watch, List.append_assoc]
    rfl

/-- The objects of a device that are to be watched. -/
def watchable (profiles : List Profile) (d : Device) : List (String × DeviceObject) :=
  match profiles.find? (·.name = d.profile) with
  | none => []
  | some p =>
    (p.objects.filter fun o => o.attributes.get? "async" == some (.bool true)).map (d.name, ·)

theorem watchAll_eq (s : Simulator) (devices : List Device) (profiles : List Profile) :
    (s.watchAll devices profiles).1 =
      { s with watches := s.watches ++ devices.flatMap (watchable profiles) } :=
  foldl_watch (devices.flatMap (watchable profiles)) s

theorem watches_writeAll (s : Simulator) (device : String)
    (pairs : List (Request × TypedValue)) : (s.writeAll device pairs).watches = s.watches := by
  induction pairs generalizing s with
  | nil => rfl
  | cons p pairs ih =>
    show ((s.remember device p.1.object.name p.2).writeAll device pairs).watches = _
    rw [ih]
    rfl

/-- Only what is under a name that is forgotten is watched no longer. -/
theorem watches_runAll {cs : List Call} (h : ∀ target, .disconnect target ∉ cs) (s : Simulator) :
    (runAll s cs).watches = s.watches := by
  induction cs generalizing s with
  | nil => rfl
  | cons c cs ih =>
    have hrun : (c.run s).watches = s.watches := by
      cases c with
      | start | read | stop => rfl
      | write target requests values =>
        show (Driver.write s target requests values).2.watches = _
        by_cases hlength : requests.length = values.length
        · simp only [Driver.write, hlength, if_true, watches_writeAll]
        · simp only [Driver.write, hlength, if_false]
      | disconnect target => exact absurd List.mem_cons_self (h target)
    show (runAll (c.run s) cs).watches = _
    rw [ih fun target htarget => h target (List.mem_cons_of_mem c htarget), hrun]

end Watches

end Simulator

namespace Gateway

open Simulator (told marks watchable)

variable {μ : Type} [MetadataSource μ]

/-- The gateway once the simulator watches the objects of its devices that are to be pushed. -/
def watching (g : Gateway Simulator μ) : Gateway Simulator μ :=
  { g with driver := (g.driver.watchAll g.registry.devices g.registry.profiles).1 }

/-- Once the objects of the devices are watched, whatever is asked of the gateway as long as no
device is removed, the value that is pushed for an object is made of its text under the name of
the device, and the value that is read of it is made of its text under the name in the
addressable: under either, that of the value last written there. If the names are the same then so
are the values. -/
theorem pushed_under_device_name (g : Gateway Simulator μ) {os : List Order}
    (hkept : ∀ id, .manage (.removeDevice id) ∉ os) (now : Int64) :
    let h := g.watching.serveAll os
    (∀ b, b ∈ Driver.push h.driver now ↔
      b.values = h.driver.pushed now b.device ∧ b.values ≠ []) ∧
    (∃ cs, h.handed = g.handed ++ cs ∧ ∀ name object, h.driver.written? name object =
      (cs.flatMap (marks name object)).getLast?.getD (g.driver.written? name object)) ∧
    ∀ d ∈ g.registry.devices, ∀ o, (d.name, o) ∈ watchable g.registry.profiles d →
      let value := told now d.name o (h.driver.objectText now d.name o)
      (∀ v, value = .ok v → v ∈ h.driver.pushed now d.name) ∧
      ∀ operation,
        let answer := (Driver.read h.driver now d.addressable [⟨operation, o⟩]).1
        answer = ⟨0, (told now d.addressable.name o
          (h.driver.objectText now d.addressable.name o)).map fun v => [v]⟩ ∧
        (d.addressable.name = d.name → answer = ⟨0, value.map fun v => [v]⟩) := by
  intro h
  obtain ⟨cs, hdrives, hdisconnects⟩ := serveAll_drives Simulator.unmoved g.watching os
  have hwatching := g.driver.watchAll_eq g.registry.devices g.registry.profiles
  have hwatches : h.driver.watches =
      g.driver.watches ++ g.registry.devices.flatMap (watchable g.registry.profiles) := by
    rw [hdrives.driver, Simulator.watches_runAll (hdisconnects hkept)]
    exact congrArg Simulator.watches hwatching
  refine ⟨h.driver.mem_push_iff now, ⟨cs, hdrives.handed, fun name object => ?_⟩,
    fun d hd o ho => ⟨fun v hv => ?_, fun operation => ?_⟩⟩
  · have hwritten : g.watching.driver.written? = g.driver.written? := by
      rw [watching, hwatching]
      rfl
    rw [hdrives.driver, Simulator.written?_runAll, hwritten]
  · refine Simulator.mem_pushed _ now ?_ hv
    rw [hwatches]
    exact List.mem_append_right _ (List.mem_flatMap.2 ⟨d, hd, ho⟩)
  · have hanswer := h.driver.read_one now d.addressable ⟨operation, o⟩
    refine ⟨hanswer, fun hname => ?_⟩
    rw [← hname]
    exact hanswer

/-- A level that is pushed, and is low as long as it is not written. -/
def pushedLevel : DeviceObject :=
  { DeviceObject.ofSpec "Level" (.plain .string) with
    attributes := .ofList [("async", .bool true), ("value", .string "low")] }

/-- A gateway that has just started, with two devices of which one is not addressed by its own
name. -/
def remote : Gateway Simulator FixedSource :=
  launched { interval := 100 }
    [{ Device.ofNames "1" "Pump" "Meter" with addressable := { name := "north" } },
      .ofNames "2" "Valve" "Meter"]
    [gauge pushedLevel]

/-- The valve is addressed by its own name: what is pushed for it is what is written to it. -/
theorem pushed_under_device_name_remote :
    let os : List Order := [.put "Valve" "Level" (.ofList [("Level", "high")]), .pass 150]
    let h := remote.watching.serveAll os
    TypedValue.ofString "Level" 9 "high" ∈ h.driver.pushed 9 "Valve" ∧
    (Driver.read h.driver 9 { name := "Valve" } [⟨.ofNames "get" "Level", pushedLevel⟩]).1 =
      ⟨0, .ok [.ofString "Level" 9 "high"]⟩ := by
  intro os h
  have hkept : ∀ id, Order.manage (.removeDevice id) ∉ os := by simp [os]
  obtain ⟨-, -, hdevices⟩ := remote.pushed_under_device_name hkept 9
  have hvalve : Device.ofNames "2" "Valve" "Meter" ∈ remote.registry.devices := by decide +kernel
  obtain ⟨hpushed, hread⟩ := hdevices _ hvalve pushedLevel (List.mem_singleton.2 rfl)
  exact ⟨hpushed _ rfl, (hread (.ofNames "get" "Level")).2 rfl⟩

/-- The pump is not: what is written to it is read but not pushed. -/
theorem pushed_stale_remote :
    let written := remote.watching.put "Pump" "Level" (.ofList [("Level", "high")])
    written.1 = .ok () ∧
    (Driver.push written.2.driver 9).map (fun b => (b.device, b.values)) =
      [("Pump", [.ofString "Level" 9 "low"]), ("Valve", [.ofString "Level" 9 "low"])] ∧
    ∃ d ∈ remote.registry.devices, d.name = "Pump" ∧
      (Driver.read written.2.driver 9 d.addressable [⟨.ofNames "get" "Level", pushedLevel⟩]).1 =
        ⟨0, .ok [.ofString "Level" 9 "high"]⟩ := by
  intro written
  exact ⟨rfl, rfl, { Device.ofNames "1" "Pump" "Meter" with addressable := { name := "north" } },
    by decide +kernel, rfl, rfl⟩

end Gateway

end DeviceGateway
