import DeviceGateway.Driver.Script
import DeviceGateway.Proofs.Gateway.Apart
import DeviceGateway.Proofs.Gateway.Get
import DeviceGateway.Proofs.Gateway.Put

/-! Locks. A driver is called for a device only while the gateway is unlocked, and while the
device is registered and not locked itself. That holds at the moment of every call, in whatever
order the tasks of a gateway are run; and nothing that a gateway does by itself moves a lock or
registers a device, so between two requests the locks are as the first one left them. -/

namespace DeviceGateway

/-! ### Locks in a registry -/

/-- `r'` is `r` but for the operating states of its devices. -/
structure Registry.SameButStates (r r' : Registry) : Prop where
  nameById : r'.nameById = r.nameById
  catalogues : r'.catalogues = r.catalogues
  initialized : r'.initialized = r.initialized
  devices : ∀ key, (r'.byName.get? key).map (fun d => { d with operatingState := .enabled }) =
    (r.byName.get? key).map fun d => { d with operatingState := .enabled }

namespace Registry.SameButStates

variable {r r' r'' : Registry}

theorem refl (r : Registry) : r.SameButStates r := ⟨rfl, rfl, rfl, fun _ => rfl⟩

theorem trans (h : r.SameButStates r') (h' : r'.SameButStates r'') : r.SameButStates r'' :=
  ⟨h'.nameById.trans h.nameById, h'.catalogues.trans h.catalogues,
    h'.initialized.trans h.initialized, fun key => (h'.devices key).trans (h.devices key)⟩

theorem symm (h : r.SameButStates r') : r'.SameButStates r :=
  ⟨h.nameById.symm, h.catalogues.symm, h.initialized.symm, fun key => (h.devices key).symm⟩

theorem of_sameButState {name : String} (h : r.SameButState name r') : r.SameButStates r' := by
  refine ⟨h.nameById, h.catalogues, h.initialized, fun key => ?_⟩
  by_cases hkey : key = name
  · rw [hkey]
    exact h.device
  · rw [h.others key hkey]

end Registry.SameButStates

/-- Whom a driver is called for, to read or to write. -/
def Deed.target? : Deed → Option Addressable
  | .read target _ | .wrote target _ _ => some target
  | _ => none

namespace Gateway

variable {δ μ : Type}

/-- Whom the driver was called for, in order. -/
def calls (g : Gateway δ μ) : List Addressable := g.trace.filterMap (·.2.target?)

/-- The driver may be called for a device that is registered, while nothing is locked. -/
structure MayCall (g : Gateway δ μ) (target : Addressable) : Prop where
  unlocked : g.locked = false
  device : ∃ d ∈ g.registry.devices, d.isLocked = false ∧ d.addressable = target

/-- `h` bars what `g` bars: the settings and the locks are the same, on the same devices. -/
structure SameGates (g h : Gateway δ μ) : Prop where
  settings : h.settings = g.settings
  locked : h.locked = g.locked
  registry : g.registry.SameButStates h.registry

/-- From `g` to `h` the driver is not called, and no lock is moved. -/
structure Calm (g h : Gateway δ μ) : Prop extends SameGates g h where
  calls : h.calls = g.calls

/-- From `g` to `h` no lock is moved, and the driver is called only as `g` may call it. -/
structure Lawful (g h : Gateway δ μ) : Prop extends SameGates g h where
  calls : ∃ new, h.calls = g.calls ++ new ∧ ∀ target ∈ new, g.MayCall target

section

variable {g h k : Gateway δ μ}

theorem SameGates.refl (g : Gateway δ μ) : g.SameGates g := ⟨rfl, rfl, .refl _⟩

theorem SameGates.trans (hgh : g.SameGates h) (hhk : h.SameGates k) : g.SameGates k :=
  ⟨hhk.settings.trans hgh.settings, hhk.locked.trans hgh.locked,
    hgh.registry.trans hhk.registry⟩

theorem SameGates.symm (hgh : g.SameGates h) : h.SameGates g :=
  ⟨hgh.settings.symm, hgh.locked.symm, hgh.registry.symm⟩

namespace Calm

theorem of_eq (hsettings : h.settings = g.settings) (hlocked : h.locked = g.locked)
    (hregistry : h.registry = g.registry) (htrace : h.trace = g.trace) : g.Calm h :=
  ⟨⟨hsettings, hlocked, hregistry ▸ .refl _⟩, by unfold Gateway.calls; rw [htrace]⟩

theorem refl (g : Gateway δ μ) : g.Calm g := .of_eq rfl rfl rfl rfl

theorem trans (hgh : g.Calm h) (hhk : h.Calm k) : g.Calm k :=
  ⟨hgh.toSameGates.trans hhk.toSameGates, hhk.calls.trans hgh.calls⟩

theorem lawful (hgh : g.Calm h) : g.Lawful h :=
  ⟨hgh.toSameGates, [], by rw [hgh.calls, List.append_nil], by simp⟩

end Calm

theorem Lawful.calm (hgh : g.Lawful h) (hhk : h.Calm k) : g.Lawful k := by
  obtain ⟨new, hnew, hmay⟩ := hgh.calls
  exact ⟨hgh.toSameGates.trans hhk.toSameGates, new, hhk.calls.trans hnew, hmay⟩

end

/-! ### What asks nothing of the driver -/

section Calm

variable (g : Gateway δ μ)

theorem calls_record (d : Deed) : (g.record d).calls = g.calls ++ d.target?.toList := by
  simp only [calls, record, List.filterMap_append, List.filterMap_cons, List.filterMap_nil]
  cases d.target? <;> rfl

theorem record_calm {d : Deed} (hd : d.target? = none) : g.Calm (g.record d) := by
  refine ⟨⟨rfl, rfl, .refl _⟩, ?_⟩
  rw [calls_record, hd]
  exact List.append_nil _

theorem calm_task : TaskFrame (Calm (δ := δ) (μ := μ)) where
  refl := .refl
  trans := .trans
  settle g device o :=
    ⟨⟨rfl, rfl, .of_sameButState (o.sameButState_settle device g.registry)⟩, rfl⟩
  publish _ _ := .of_eq rfl rfl rfl rfl
  published g _ := g.record_calm rfl
  answer _ _ _ := .of_eq rfl rfl rfl rfl
  sleep _ _ _ _ := .of_eq rfl rfl rfl rfl

theorem calm_intake : IntakeFrame (Calm (δ := δ) (μ := μ)) where
  toFrame := calm_task.toFrame
  conduit _ _ _ _ := .of_eq rfl rfl rfl rfl
  accepted g _ := g.record_calm rfl
  process g b := (g.record_calm (d := .began b) rfl).trans (calm_task.process g b)
  drained g _ := g.record_calm rfl

theorem calm_feed : FeedFrame (Calm (δ := δ) (μ := μ)) where
  toChannelFrame := calm_intake.toChannelFrame
  wake _ := .of_eq rfl rfl rfl rfl

end Calm

/-! ### Calls -/

section Calls

variable {g : Gateway δ μ} {key command : String}

/-- A device that is found is registered. -/
theorem mem_devices_of_lookup {r : Registry} {d : Device} (h : r.lookup key = .ok d) :
    d ∈ r.devices := by
  have hname : ∀ name, r.deviceByName name = .ok d → d ∈ r.devices := by
    intro name hd
    unfold Registry.deviceByName at hd
    split at hd <;> cases hd
    next hd => exact Table.mem_values.2 ⟨_, hd⟩
  unfold Registry.lookup at h
  split at h
  · next e hid =>
    cases h
    unfold Registry.deviceById at hid
    split at hid <;> cases hid
    next hid =>
      obtain ⟨name, -, hd⟩ := Option.bind_eq_some_iff.1 hid
      exact Table.mem_values.2 ⟨name, hd⟩
  · exact hname key h

theorem Admits.mayCall {m : Method} {d : Device} {rs : List Request}
    (h : g.Admits key command m d rs) : g.MayCall d.addressable :=
  ⟨h.unlocked, d, mem_devices_of_lookup h.found, h.deviceUnlocked, rfl⟩

/-- A call that is made behind the gates is lawful. -/
theorem Admits.lawful {m : Method} {d : Device} {rs : List Request}
    (h : g.Admits key command m d rs) (driver : δ) {deed : Deed}
    (hdeed : deed.target? = some d.addressable) :
    g.Lawful ({ g with driver }.record deed) := by
  refine ⟨⟨rfl, rfl, .refl _⟩, [d.addressable], ?_, ?_⟩
  · rw [calls_record, hdeed]
    rfl
  · intro target htarget
    rw [List.mem_singleton.1 htarget]
    exact h.mayCall

variable [Driver δ]

theorem beginRead_lawful (g : Gateway δ μ) (key command : String) :
    g.Lawful (g.beginRead key command).2 := by
  cases hp : g.prepare key command .get with
  | error e =>
    rw [beginRead_error hp]
    exact (Calm.refl g).lawful
  | ok p =>
    rw [beginRead_ok hp]
    exact (prepare_eq_ok.1 hp).lawful _ rfl

variable [MetadataSource μ]

theorem runTask_lawful (g : Gateway δ μ) (t : GatewayTask) : g.Lawful (g.runTask t) := by
  cases t with
  | intake => exact (calm_intake.runIntake g).lawful
  | publish e => exact (g.record_calm rfl).lawful
  | report device =>
    obtain ⟨source, hreport⟩ := g.exists_runTask_report device
    rw [hreport]
    exact (g.record_calm (d := .reported device .disabled) rfl).lawful.calm
      (.of_eq rfl rfl rfl rfl)
  | read name id command =>
    exact (beginRead_lawful g id command).calm (calm_task.runTask_read g name id command)
  | finish name p => exact (calm_task.runFinish g name p).lawful

/-! ### Courses -/

/-- One thing that a gateway does by itself. -/
inductive Moment (g : Gateway δ μ) : Gateway δ μ → Prop
  /-- A read is begun. -/
  | read (key command : String) : Moment g (g.beginRead key command).2
  /-- The driver is given what has been prepared for a write. -/
  | write {key command : String} {parameters : Table String} {d : Device} {rs : List Request}
    {vs : List TypedValue} (h : g.prepareWrite key command parameters = .ok (d, rs, vs)) :
    Moment g ({ g with driver := (Driver.write g.driver d.addressable rs vs).2 }.record
      (.wrote d.addressable rs vs))
  /-- A task is run, be its turn when it may. -/
  | task (t : GatewayTask) : Moment g (g.runTask t)
  | calm {h : Gateway δ μ} (hc : g.Calm h) : Moment g h

theorem Moment.lawful {h : Gateway δ μ} (hm : g.Moment h) : g.Lawful h := by
  cases hm with
  | read key command => exact beginRead_lawful g key command
  | write hp => exact (prepareWrite_eq_ok.1 hp).admits.lawful _ rfl
  | task t => exact runTask_lawful g t
  | calm hc => exact hc.lawful

/-- What a gateway does by itself, one thing after the other, with each call of the driver and
the gateway at that moment. -/
inductive Course (g : Gateway δ μ) : List (Gateway δ μ × Addressable) → Gateway δ μ → Prop
  | refl : Course g [] g
  | moment {log : List (Gateway δ μ × Addressable)} {new : List Addressable}
    {h k : Gateway δ μ} (hc : Course g log h) (hm : h.Moment k)
    (hnew : k.calls = h.calls ++ new) : Course g (log ++ new.map (h, ·)) k

theorem Course.step {g h k : Gateway δ μ} {log : List (Gateway δ μ × Addressable)}
    (hc : g.Course log h) (hm : h.Moment k) : ∃ log, g.Course log k := by
  obtain ⟨new, hnew, -⟩ := hm.lawful.calls
  exact ⟨_, hc.moment hm hnew⟩

/-- In a course the driver gets the calls of the log, each in a gateway that may make it, and
the locks are the same all the way. -/
theorem Course.may_call {g h : Gateway δ μ} {log : List (Gateway δ μ × Addressable)}
    (hc : g.Course log h) : h.calls = g.calls ++ log.map (·.2) ∧ g.SameGates h ∧
      ∀ e ∈ log, g.SameGates e.1 ∧ e.1.MayCall e.2 := by
  induction hc with
  | refl => exact ⟨(List.append_nil _).symm, .refl g, by simp⟩
  | @moment log new h k _ hm hnew ih =>
    obtain ⟨hcalls, hlocks, hmay⟩ := ih
    obtain ⟨hsame, new', hnew', hmay'⟩ := hm.lawful
    obtain rfl : new = new' := List.append_cancel_left (hnew.symm.trans hnew')
    refine ⟨?_, hlocks.trans hsame, fun e he => ?_⟩
    · have hsnd : (new.map (h, ·)).map (·.2) = new := by
        rw [List.map_map]
        exact List.map_id new
      rw [hnew, hcalls, List.append_assoc, List.map_append, hsnd]
    · rcases List.mem_append.1 he with he | he
      · exact hmay e he
      · obtain ⟨target, htarget, rfl⟩ := List.mem_map.1 he
        exact ⟨hlocks, hmay' target htarget⟩

theorem Course.sameGates {g h : Gateway δ μ} {log : List (Gateway δ μ × Addressable)}
    (hc : g.Course log h) : g.SameGates h := hc.may_call.2.1

/-! ### Everything is a course, or calls nobody -/

/-- A course goes on with whatever the gateway does by itself. -/
theorem course_enduring (g : Gateway δ μ) : Enduring fun h => ∃ log, g.Course log h where
  toStable := Kept.stable {
    task := fun _ t ⟨_, hc⟩ => hc.step (.task t)
    feed := fun h ⟨_, hc⟩ => hc.step (.calm (calm_feed.feed h))
    ready := fun _ _ ⟨_, hc⟩ => hc.step (.calm (.of_eq rfl rfl rfl rfl)) }
  jump _ _ := fun ⟨_, hc⟩ => hc.step (.calm (.of_eq rfl rfl rfl rfl))

section Requests

variable (g : Gateway δ μ)

theorem course_get (key command : String) : ∃ log, g.Course log (g.get key command).2 :=
  (course_enduring g).get (Course.refl.step (.read ..)) fun _ p ⟨_, hc⟩ =>
    hc.step (.calm (calm_task.finishRead _ p))

theorem course_getAll (command : String) : ∃ log, g.Course log (g.getAll command).2 :=
  (course_enduring g).getAll ⟨[], .refl⟩ (Course.refl.step (.calm (.of_eq rfl rfl rfl rfl)))
    fun _ ⟨_, hc⟩ => hc.step (.calm (.of_eq rfl rfl rfl rfl))

theorem course_put (key command : String) (parameters : Table String) :
    ∃ log, g.Course log (g.put key command parameters).2 :=
  (course_enduring g).put ⟨[], .refl⟩ fun _ _ _ hp => Course.refl.step (.write hp)

theorem course_stop (force : Bool) : ∃ log, g.Course log (g.stop force) := by
  let cancelled : Gateway δ μ :=
    { g with cancelled := true, hasSender := false, running := false }
  have hcancelled : g.Calm cancelled := .of_eq rfl rfl rfl rfl
  obtain ⟨_, hc⟩ := (course_enduring g).awaited
    (Course.refl.step (.calm (hcancelled.trans (calm_feed.wakeIntake cancelled))))
  have hstopped : g.awaited.Calm (g.stop force) :=
    ⟨⟨rfl, rfl, .refl _⟩, (calls_record _ _).trans (List.append_nil _)⟩
  exact hc.step (.calm hstopped)

theorem calls_start : g.start.2.calls = g.calls := by
  unfold start
  split
  · rfl
  · exact (calls_record _ _).trans (List.append_nil _)

omit [MetadataSource μ] in
theorem calls_removeDevice (id : String) : (g.removeDevice id).2.calls = g.calls := by
  unfold removeDevice
  split
  · rfl
  · split
    · rfl
    · exact (calls_record _ _).trans (List.append_nil _)

/-- Whatever is asked of a gateway, it calls nobody or the locks stay as they are. -/
theorem Step.course {g g' : Gateway δ μ} (hs : g.Step g') :
    g'.calls = g.calls ∨ ∃ log, g.Course log g' := by
  cases hs with
  | start => exact .inl g.calls_start
  | stop force => exact .inr (g.course_stop force)
  | get key command => exact .inr (g.course_get key command)
  | getAll command => exact .inr (g.course_getAll command)
  | put key command parameters => exact .inr (g.course_put key command parameters)
  | push b => exact .inl (calm_feed.push g b).calls
  | release => exact .inl (calm_feed.release g).calls
  | settle => exact .inr ((course_enduring g).settle ⟨[], .refl⟩)
  | pass ms => exact .inr ((course_enduring g).pass ⟨[], .refl⟩ ms)
  | removeDevice id => exact .inl (g.calls_removeDevice id)
  | setLocked | reserve | manage | drive => exact .inl rfl

end Requests

/-! ### Runs -/

/-- What comes of a new gateway, with each call of its driver and the gateway at that moment:
requests that call nobody, and courses between them. -/
inductive Run : List (Gateway δ μ × Addressable) → Gateway δ μ → Prop
  | new (settings : Settings) (driver : δ) (source : μ) (publisher : Publisher) (epoch : Int64) :
    Run [] { settings, driver, source, publisher, epoch }
  | request {log : List (Gateway δ μ × Addressable)} {g g' : Gateway δ μ} (hr : Run log g)
    (hs : g.Step g') (hcalls : g'.calls = g.calls) : Run log g'
  | course {log log' : List (Gateway δ μ × Addressable)} {g g' : Gateway δ μ} (hr : Run log g)
    (hc : g.Course log' g') : Run (log ++ log') g'

/-- Every call that a driver has had in a run was made while the gateway was unlocked, for a
device that was registered then and not locked. Whatever is asked of the gateway next goes on
with the run, and between its calls no gate is moved. -/
theorem Run.locks_never_bypassed {log : List (Gateway δ μ × Addressable)} {g : Gateway δ μ}
    (hr : Run log g) : g.calls = log.map (·.2) ∧ (∀ e ∈ log, e.1.MayCall e.2) ∧
      ∀ g', g.Step g' → ∃ log', Run (log ++ log') g' ∧ ∀ e ∈ log', g.SameGates e.1 := by
  have hnext : ∀ g', g.Step g' → ∃ log', Run (log ++ log') g' ∧ ∀ e ∈ log', g.SameGates e.1 := by
    intro g' hs
    rcases hs.course with hcalls | ⟨log', hc⟩
    · refine ⟨[], ?_, by simp⟩
      rw [List.append_nil]
      exact hr.request hs hcalls
    · exact ⟨log', hr.course hc, fun e he => (hc.may_call.2.2 e he).1⟩
  have hmade : g.calls = log.map (·.2) ∧ ∀ e ∈ log, e.1.MayCall e.2 := by
    clear hnext
    induction hr with
    | new => exact ⟨rfl, by simp⟩
    | request _ _ hcalls ih => exact ⟨hcalls.trans ih.1, ih.2⟩
    | course _ hc ih =>
      obtain ⟨hcalls, -, hmay⟩ := hc.may_call
      refine ⟨by rw [hcalls, ih.1, List.map_append], fun e he => ?_⟩
      exact (List.mem_append.1 he).elim (ih.2 e) fun he => (hmay e he).2
  exact ⟨hmade.1, hmade.2, hnext⟩

end Calls

/-- A level that is read on its own, or under other words on a panel. -/
def meter : Profile :=
  let worded (word : String) : Operation :=
    { operation := "get", object := "Level", mappings := .ofList [("low", word)] }
  Profile.withResource
    (.withResource { name := "Meter", objects := [.ofSpec "Level" (.plain .string)] }
      { name := "Panel", get := [worded "L"] })
    { name := "Level", get := [worded "nearly empty"] }

/-- A gateway that has just started. It knows two devices, of which one is locked. -/
def halfLocked : Gateway Script FixedSource :=
  let new : Gateway Script FixedSource := {
    settings := {}
    driver := { otherwise := some { values := .ok [.ofString "Level" 7 "low"] } }
    source := {
      devices := [.ofNames "1" "Pump" "Meter",
        { Device.ofNames "2" "Valve" "Meter" with adminState := .locked }]
      profiles := [meter] }
    publisher := ⟨fun _ => { outcome := .ok () }⟩
    epoch := 0 }
  new.start.2

/-- A read of all devices, and a read and a lock after it. Only the device that is not locked is
ever called for. -/
theorem locks_never_bypassed_half_locked : ∃ log g, Run log g ∧
    g = (((halfLocked.getAll "Level").2.setLocked true).get "Pump" "Level").2 ∧
    log.map (·.2) = [{ name := "Pump" }] ∧ ∀ e ∈ log, e.1.MayCall e.2 := by
  have hstarted : Run [] halfLocked := .request (.new ..) .start rfl
  obtain ⟨-, -, hnext⟩ := hstarted.locks_never_bypassed
  obtain ⟨log, hasked, -⟩ := hnext _ (.getAll "Level")
  have hrun := (hasked.request (.setLocked true) rfl).request (.get "Pump" "Level")
    (by decide +kernel)
  obtain ⟨hcalls, hmay, -⟩ := hrun.locks_never_bypassed
  refine ⟨_, _, hrun, rfl, ?_, hmay⟩
  rw [← hcalls]
  decide +kernel

end Gateway

end DeviceGateway
