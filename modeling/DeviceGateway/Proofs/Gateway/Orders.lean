import DeviceGateway.Proofs.Driver.Simulator
import DeviceGateway.Proofs.Gateway.Manage

/-! Orders: what can be asked of a gateway, as data, so that two gateways can be asked for the
same. The trace tells what a gateway has handed to its driver besides reads, and a driver that no
read moves is what these calls have made of it. -/

namespace DeviceGateway

/-- What a deed has handed to the driver, if it is not a read. -/
def Deed.call? : Deed → Option Driver.Call
  | .started => some .start
  | .wrote target requests values => some (.write target requests values)
  | .stopped force => some (.stop force)
  | .disconnected target => some (.disconnect target)
  | _ => none

/-- One thing that is asked of a gateway. -/
inductive Order where
  | start
  | stop (force : Bool)
  | setLocked (locked : Bool)
  | get (key command : String)
  | getAll (command : String)
  | put (key command : String) (parameters : Table String)
  | push (b : Batch)
  | reserve
  | release
  | settle
  | pass (ms : Nat)
  | manage (m : Management)

namespace Gateway

variable {δ μ : Type} [Driver δ] [MetadataSource μ]

/-- The gateway after an order, whatever it answers. -/
def serve (g : Gateway δ μ) : Order → Gateway δ μ
  | .start => g.start.2
  | .stop force => g.stop force
  | .setLocked locked => g.setLocked locked
  | .get key command => (g.get key command).2
  | .getAll command => (g.getAll command).2
  | .put key command parameters => (g.put key command parameters).2
  | .push b => (g.push b).2
  | .reserve => g.reserve.2
  | .release => g.release
  | .settle => g.settle
  | .pass ms => g.pass ms
  | .manage m => g.manage m

def serveAll (g : Gateway δ μ) (os : List Order) : Gateway δ μ := os.foldl serve g

/-! ### What is handed to the driver -/

section Handed

variable {g h k : Gateway δ μ}

omit [Driver δ] [MetadataSource μ]

/-- What the driver has been called for, but for reads, in order. -/
def handed (g : Gateway δ μ) : List Driver.Call := g.trace.filterMap (·.2.call?)

theorem handed_record (g : Gateway δ μ) (d : Deed) :
    (g.record d).handed = g.handed ++ d.call?.toList := by
  simp only [handed, record, List.filterMap_append, List.filterMap_cons, List.filterMap_nil]
  cases d.call? <;> rfl

/-- From `g` to `h` the driver is at most asked for values, which does not move it. -/
structure OnlyReads (g h : Gateway δ μ) : Prop where
  driver : h.driver = g.driver
  handed : h.handed = g.handed

namespace OnlyReads

theorem of_eq (hdriver : h.driver = g.driver) (htrace : h.trace = g.trace) : g.OnlyReads h :=
  ⟨hdriver, by unfold Gateway.handed; rw [htrace]⟩

theorem refl (g : Gateway δ μ) : g.OnlyReads g := ⟨rfl, rfl⟩

theorem trans (hgh : g.OnlyReads h) (hhk : h.OnlyReads k) : g.OnlyReads k :=
  ⟨hhk.driver.trans hgh.driver, hhk.handed.trans hgh.handed⟩

end OnlyReads

/-- From `g` to `h` the driver is handed these calls, and does nothing else. -/
structure Drives [Driver δ] (cs : List Driver.Call) (g h : Gateway δ μ) : Prop where
  handed : h.handed = g.handed ++ cs
  driver : h.driver = Driver.runAll g.driver cs

theorem OnlyReads.drives [Driver δ] (hgh : g.OnlyReads h) : Drives [] g h :=
  ⟨by rw [hgh.handed, List.append_nil], hgh.driver⟩

theorem Drives.trans [Driver δ] {cs cs' : List Driver.Call} (hgh : Drives cs g h)
    (hhk : Drives cs' h k) : Drives (cs ++ cs') g k where
  handed := by rw [hhk.handed, hgh.handed, List.append_assoc]
  driver := by rw [hhk.driver, hgh.driver, Driver.runAll, Driver.runAll, Driver.runAll,
    List.foldl_append]

end Handed

end Gateway

/-- No read moves the driver. -/
def Driver.Unmoved (δ : Type) [Driver δ] : Prop :=
  ∀ (s : δ) now target requests, (Driver.read s now target requests).2 = s

theorem Simulator.unmoved : Driver.Unmoved Simulator := fun _ _ _ _ => rfl

namespace Gateway

variable {δ μ : Type} [Driver δ] [MetadataSource μ]

section Unmoved

omit [Driver δ] [MetadataSource μ] in
theorem record_onlyReads (g : Gateway δ μ) {d : Deed} (hd : d.call? = none) :
    g.OnlyReads (g.record d) := by
  refine ⟨rfl, ?_⟩
  rw [handed_record, hd]
  exact List.append_nil _

omit [Driver δ] [MetadataSource μ] in
theorem withRegistry_onlyReads (g : Gateway δ μ) (x : Except GatewayError Registry) :
    g.OnlyReads (g.withRegistry x).2 := by
  cases x <;> exact .of_eq rfl rfl

variable (hread : Driver.Unmoved δ)

include hread

omit [MetadataSource μ] in
theorem onlyReads_report : ReportFrame (OnlyReads (δ := δ) (μ := μ)) where
  refl := .refl
  trans := .trans
  settle _ _ _ := .of_eq rfl rfl
  publish _ _ := .of_eq rfl rfl
  published g _ := g.record_onlyReads rfl
  answer _ _ _ := .of_eq rfl rfl
  sleep _ _ _ _ := .of_eq rfl rfl
  read _ _ _ := ⟨hread .., (handed_record _ _).trans (List.append_nil _)⟩
  reported g device _ :=
    (g.record_onlyReads (d := .reported device .disabled) rfl).trans (.of_eq rfl rfl)

omit [MetadataSource μ] in
/-- All that a gateway does by itself is to read. -/
theorem onlyReads_frame : SelfFrame (OnlyReads (δ := δ) (μ := μ)) where
  toReportFrame := onlyReads_report hread
  conduit _ _ _ _ := .of_eq rfl rfl
  accepted g _ := g.record_onlyReads rfl
  wake _ := .of_eq rfl rfl
  process g b :=
    (g.record_onlyReads (d := .began b) rfl).trans ((onlyReads_report hread).process g b)
  drained g _ := g.record_onlyReads rfl
  ready _ _ := .of_eq rfl rfl
  jump _ _ := .of_eq rfl rfl

theorem pass_onlyReads (g : Gateway δ μ) (ms : Nat) : g.OnlyReads (g.pass ms) :=
  ((onlyReads_frame hread).enduring_from g).pass (.refl g) ms

theorem getAll_onlyReads (g : Gateway δ μ) (command : String) :
    g.OnlyReads (g.getAll command).2 :=
  ((onlyReads_frame hread).enduring_from g).getAll (.refl g) (.of_eq rfl rfl)
    fun _ hh => hh.trans (.of_eq rfl rfl)

theorem awaited_onlyReads (g : Gateway δ μ) : g.OnlyReads g.awaited := by
  let cancelled : Gateway δ μ := { g with cancelled := true, hasSender := false, running := false }
  have hcancelled : g.OnlyReads cancelled := .of_eq rfl rfl
  exact ((onlyReads_frame hread).enduring_from g).awaited
    (hcancelled.trans ((onlyReads_frame hread).wakeIntake cancelled))

/-- A write that is made is handed to the driver once. -/
theorem put_drives {g : Gateway δ μ} {key command : String} {parameters : Table String}
    {d : Device} {rs : List Request} {vs : List TypedValue}
    (hp : g.prepareWrite key command parameters = .ok (d, rs, vs)) :
    Drives [.write d.addressable rs vs] g (g.put key command parameters).2 := by
  let called : Gateway δ μ := { g with
    driver := (Driver.write g.driver d.addressable rs vs).2 }.record (.wrote d.addressable rs vs)
  have hpassed : ∀ ms, called.OnlyReads (called.pass ms) := pass_onlyReads hread called
  simp only [put, hp]
  exact ⟨(hpassed _).handed.trans (handed_record _ _), (hpassed _).driver⟩

omit hread [MetadataSource μ] in
/-- Of the requests that manage devices and profiles the driver notices only a removal. -/
theorem manage_drives (g : Gateway δ μ) (m : Management) : ∃ cs, Drives cs g (g.manage m) ∧
    ((∀ id, m ≠ .removeDevice id) → cs = []) := by
  cases m with
  | addDevice d =>
    refine ⟨[], OnlyReads.drives ?_, fun _ => rfl⟩
    show g.OnlyReads (g.addDevice d).2
    unfold addDevice
    split
    · exact .refl g
    · exact withRegistry_onlyReads g _
  | removeDevice id =>
    show ∃ cs, Drives cs g (g.removeDevice id).2 ∧ _
    unfold removeDevice
    split
    · exact ⟨[], (OnlyReads.refl g).drives, fun _ => rfl⟩
    · split
      · exact ⟨[], (OnlyReads.refl g).drives, fun _ => rfl⟩
      · next d _ _ =>
        exact ⟨[.disconnect d.addressable], ⟨handed_record _ _, rfl⟩, fun h => absurd rfl (h id)⟩
  | removeProfile name =>
    refine ⟨[], OnlyReads.drives ?_, fun _ => rfl⟩
    show g.OnlyReads (g.removeProfile name).2
    unfold removeProfile
    split <;> exact .of_eq rfl rfl
  | addProfile | updateProfile | updateAdminState =>
    exact ⟨[], (withRegistry_onlyReads g _).drives, fun _ => rfl⟩

/-- Whatever the order, the driver is what the calls that are handed to it make of it. It is told
to forget a device only when one is removed. -/
theorem serve_drives (g : Gateway δ μ) (o : Order) : ∃ cs, Drives cs g (g.serve o) ∧
    ((∀ id, o ≠ .manage (.removeDevice id)) → ∀ target, .disconnect target ∉ cs) := by
  have hreads : ∀ {h : Gateway δ μ} {P : Prop}, g.OnlyReads h → ∃ cs, Drives cs g h ∧
      (P → ∀ target, .disconnect target ∉ cs) := fun hh => ⟨[], hh.drives, by simp⟩
  cases o with
  | start =>
    show ∃ cs, Drives cs g g.start.2 ∧ _
    unfold start
    split
    · exact hreads (.refl g)
    · exact ⟨[.start], ⟨handed_record _ _, rfl⟩, by simp⟩
  | stop force =>
    have hstopped : Drives [.stop force] g.awaited (g.stop force) := ⟨handed_record _ _, rfl⟩
    exact ⟨_, (awaited_onlyReads hread g).drives.trans hstopped, by simp⟩
  | put key command parameters =>
    cases hp : g.prepareWrite key command parameters with
    | error e =>
      have hput : g.serve (.put key command parameters) = g := by simp only [serve, put, hp]
      rw [hput]
      exact hreads (.refl g)
    | ok p => exact ⟨[.write p.1.addressable p.2.1 p.2.2], put_drives hread hp, by simp⟩
  | manage m =>
    obtain ⟨cs, hcs, hremoval⟩ := manage_drives g m
    refine ⟨cs, hcs, fun hnone target => ?_⟩
    rw [hremoval fun id hm => hnone id (congrArg Order.manage hm)]
    simp
  | get key command => exact hreads ((onlyReads_frame hread).get g key command)
  | getAll command => exact hreads (getAll_onlyReads hread g command)
  | push b => exact hreads ((onlyReads_frame hread).push g b)
  | release => exact hreads ((onlyReads_frame hread).release g)
  | settle => exact hreads (((onlyReads_frame hread).enduring_from g).settle (.refl g))
  | pass ms => exact hreads (pass_onlyReads hread g ms)
  | setLocked | reserve => exact hreads ⟨rfl, rfl⟩

/-- After any orders the driver is what the calls that were handed to it have made of it. -/
theorem serveAll_drives (g : Gateway δ μ) (os : List Order) : ∃ cs, Drives cs g (g.serveAll os) ∧
    ((∀ id, .manage (.removeDevice id) ∉ os) → ∀ target, .disconnect target ∉ cs) := by
  induction os generalizing g with
  | nil => exact ⟨[], (OnlyReads.refl g).drives, by simp⟩
  | cons o os ih =>
    obtain ⟨cs, hserved, hfirst⟩ := serve_drives hread g o
    obtain ⟨cs', hrest, hlater⟩ := ih (g.serve o)
    refine ⟨cs ++ cs', hserved.trans hrest, fun hnone target htarget => ?_⟩
    rcases List.mem_append.1 htarget with htarget | htarget
    · exact hfirst (fun id ho => hnone id (ho ▸ List.mem_cons_self)) target htarget
    · exact hlater (fun id ho => hnone id (List.mem_cons_of_mem o ho)) target htarget

end Unmoved

end Gateway

end DeviceGateway
