import DeviceGateway.Proofs.Gateway.All
import DeviceGateway.Proofs.Gateway.Orders

/-! Devices of a simulator. It remembers what is written by the names of addressables, so a write
to one device is seen at every other that has the name in its addressable, and at no other:
whatever is asked of the gateway after the write or without it, all devices under other names
answer the same, but for times. -/

namespace DeviceGateway

/-! ### Registries that are changed alike -/

namespace Registry

/-- Both changes fail, or they come to the same but for states. -/
inductive Alike : Except GatewayError Registry → Except GatewayError Registry → Prop
  | failed (e e' : GatewayError) : Alike (.error e) (.error e')
  | done {r r' : Registry} (h : r.SameButStates r') : Alike (.ok r) (.ok r')

namespace SameButStates

variable {r r' : Registry} (h : r.SameButStates r')

include h

theorem insert {d d' : Device} (hd : d'.stateless = d.stateless) {ids ids' : Table String}
    (hids : ids' = ids) (name : String) :
    SameButStates { r with byName := r.byName.insert name d, nameById := ids }
      { r' with byName := r'.byName.insert name d', nameById := ids' } := by
  refine ⟨hids, h.catalogues, h.initialized, fun key => ?_⟩
  rw [Table.get?_insert, Table.get?_insert]
  by_cases hkey : key = name
  · rw [if_pos hkey, if_pos hkey]
    exact congrArg some hd
  · rw [if_neg hkey, if_neg hkey]
    exact h.devices key

theorem erase {ids ids' : Table String} (hids : ids' = ids) (name : String) :
    SameButStates { r with byName := r.byName.erase name, nameById := ids }
      { r' with byName := r'.byName.erase name, nameById := ids' } := by
  refine ⟨hids, h.catalogues, h.initialized, fun key => ?_⟩
  rw [Table.get?_erase, Table.get?_erase]
  by_cases hkey : key = name
  · rw [if_pos hkey, if_pos hkey]
  · rw [if_neg hkey, if_neg hkey]
    exact h.devices key

theorem profiles (catalogues : Table Catalogue) :
    SameButStates { r with catalogues } { r' with catalogues } :=
  ⟨h.nameById, rfl, h.initialized, h.devices⟩

theorem profileByName (name : String) : r'.profileByName name = r.profileByName name := by
  unfold Registry.profileByName Registry.catalogue
  rw [h.catalogues]

theorem contains (name : String) : r'.byName.contains name = r.byName.contains name := by
  unfold Table.contains
  rcases h.byName_cases name with ⟨hd, hd'⟩ | ⟨d, d', hd, hd', -⟩
  · rw [hd, hd']
  · rw [hd, hd']
    rfl

theorem addDevice (d : Device) : Alike (r.addDevice d) (r'.addDevice d) := by
  unfold Registry.addDevice
  rw [h.contains, show r'.nameById.contains = r.nameById.contains by rw [h.nameById]]
  split
  · exact .failed ..
  · split
    · exact .failed ..
    · exact .done (h.insert rfl (by rw [h.nameById]) _)

theorem updateAdminState (id : String) (state : AdminState) :
    Alike (r.updateAdminState id state) (r'.updateAdminState id state) := by
  unfold Registry.updateAdminState
  rw [h.nameById]
  split
  · exact .failed ..
  · next name _ =>
    rcases h.byName_cases name with ⟨hd, hd'⟩ | ⟨d, d', hd, hd', hsame⟩
    · rw [hd, hd']
      exact .done h
    · rw [hd, hd']
      refine .done (h.insert ?_ rfl name)
      exact congrArg (fun e : Device => { e with adminState := state }) hsame

theorem addProfile (p : Profile) : Alike (r.addProfile p) (r'.addProfile p) := by
  unfold Registry.addProfile Registry.putProfile
  rw [h.catalogues]
  split
  · exact .failed ..
  · exact .done (h.profiles _)

theorem updateProfile (p : Profile) : Alike (r.updateProfile p) (r'.updateProfile p) := by
  unfold Registry.updateProfile Registry.putProfile
  rw [h.catalogues]
  split
  · exact .done (h.profiles _)
  · exact .failed ..

end SameButStates

end Registry

/-! ### Gateways that are asked for the same -/

namespace Gateway

section Writes

variable {δ μ : Type} {g h : Gateway δ μ}

theorem parameterValue_undated (transform : Bool) (now now' : Int64) (r : Request)
    (parameters : Table String) :
    (parameterValue transform now r parameters).map TypedValue.undated =
      (parameterValue transform now' r parameters).map TypedValue.undated := by
  unfold parameterValue
  cases parameterText r parameters with
  | error e => rfl
  | ok text =>
    simp only [bind, Except.bind]
    rcases map_eq_map (TypedValue.parse_undated r.object.kind r.object.name text now now') with
      ⟨e, hv, hw⟩ | ⟨v, w, hv, hw, hsame⟩
    · rw [hv, hw]
    · rw [hv, hw]
      cases transform with
      | false => exact congrArg Except.ok hsame
      | true =>
        simp only [if_true]
        rw [← r.object.spec.outbound_undated, hsame, r.object.spec.outbound_undated]

theorem parameterValues_undated (transform : Bool) (now now' : Int64) (parameters : Table String)
    (rs : List Request) :
    (parameterValues transform now parameters rs).map (List.map TypedValue.undated) =
      (parameterValues transform now' parameters rs).map (List.map TypedValue.undated) := by
  rw [parameterValues_eq_mapM, parameterValues_eq_mapM]
  exact mapM_map_congr rs fun r _ => parameterValue_undated transform now now' r parameters

/-- What is prepared for a write, without times and states. -/
def preparedUndated (p : Device × List Request × List TypedValue) :
    Device × List Request × List TypedValue :=
  (p.1.stateless, p.2.1, p.2.2.map TypedValue.undated)

/-- Behind the same gates the same is prepared. -/
theorem SameGates.prepareWrite (hgh : g.SameGates h) (key command : String)
    (parameters : Table String) :
    (h.prepareWrite key command parameters).map preparedUndated =
      (g.prepareWrite key command parameters).map preparedUndated := by
  unfold Gateway.prepareWrite
  rw [prepare_eq_find, prepare_eq_find]
  rcases map_eq_map (hgh.find key) with ⟨e, hd', hd⟩ | ⟨d', d, hd', hd, hsame⟩
  · rw [hd, hd']
    rfl
  · rw [hd, hd', hgh.settings]
    simp only [bind, Except.bind]
    rw [hgh.registry.resolve hsame]
    cases g.registry.resolve g.settings.maxOperations d command .set with
    | error e => rfl
    | ok rs =>
      simp only [Except.map]
      rcases map_eq_map (parameterValues_undated g.settings.dataTransform h.wall g.wall parameters
        rs) with ⟨e, hvs, hws⟩ | ⟨vs, ws, hvs, hws, hsames⟩
      · rw [hvs, hws]
      · rw [hvs, hws]
        simp only [pure, Except.pure, preparedUndated, hsame, hsames]

end Writes

end Gateway

/-! ### Simulators that differ under one name -/

namespace Simulator

/-- What the simulators remember has the same texts under all names but `a`. -/
def AgreeBeyond (a : String) (s t : Simulator) : Prop :=
  ∀ n, n ≠ a → ∀ object, (t.written? n object).map TypedValue.text =
    (s.written? n object).map TypedValue.text

variable {a : String} {s t : Simulator}

/-- Calls with the same effect on texts keep the simulators in agreement. -/
theorem AgreeBeyond.run (h : AgreeBeyond a s t) (c c' : Driver.Call)
    (hmarks : ∀ n, n ≠ a → ∀ object, (marks n object c').map (Option.map TypedValue.text) =
      (marks n object c).map (Option.map TypedValue.text)) :
    AgreeBeyond a (c.run s) (c'.run t) := by
  have hlast : ∀ (ms : List (Option TypedValue)) (old : Option TypedValue),
      (ms.getLast?.getD old).map TypedValue.text =
        (ms.map (Option.map TypedValue.text)).getLast?.getD (old.map TypedValue.text) := by
    intro ms old
    rw [List.getLast?_map, Option.getD_map]
  intro n hn object
  rw [written?_run, written?_run, hlast, hlast, hmarks n hn object, h n hn object]

/-- Values of the same texts leave marks of the same texts. -/
theorem marks_write_congr {values values' : List TypedValue}
    (h : values'.map TypedValue.undated = values.map TypedValue.undated) (device object : String)
    (target : Addressable) (requests : List Request) :
    (marks device object (.write target requests values')).map (Option.map TypedValue.text) =
      (marks device object (.write target requests values)).map (Option.map TypedValue.text) := by
  have htext : values'.map TypedValue.text = values.map TypedValue.text := by
    have hundated := congrArg (List.map TypedValue.text) h
    simpa only [List.map_map, Function.comp_def, TypedValue.text_undated] using hundated
  have hlength : values'.length = values.length := by
    simpa using congrArg List.length h
  have hpairs : ∀ vs : List TypedValue,
      (((requests.zip vs).filter (·.1.object.name = object)).map fun p => some p.2).map
        (Option.map TypedValue.text) =
      ((requests.zip (vs.map TypedValue.text)).filter (·.1.object.name = object)).map
        fun p => some p.2 := by
    intro vs
    rw [List.zip_map_right, List.filter_map, List.map_map, List.map_map]
    rfl
  simp only [marks, hlength]
  split
  · rw [hpairs, hpairs, htext]
  · rfl

theorem told_undated (now now' : Int64) (device : String) (o : DeviceObject) (text : String) :
    (told now' device o text).map TypedValue.undated =
      (told now device o text).map TypedValue.undated := by
  unfold told
  rcases map_eq_map (TypedValue.parse_undated o.kind o.name text now' now) with
    ⟨e, hlater, hnow⟩ | ⟨v, w, hlater, hnow, hsame⟩
  · rw [hlater, hnow]
  · rw [hlater, hnow]
    exact congrArg Except.ok hsame

/-- An object that was not written is read alike at two times, unless it has a range in which the
wave has moved. -/
def Still (o : DeviceObject) (height height' : Double) : Prop := HasNoRange o ∨ height' = height

theorem Still.attributeText_eq {o : DeviceObject} {height height' : Double}
    (h : Still o height height') : attributeText o height' = attributeText o height := by
  rcases h with h | rfl
  · rw [attributeText_of_hasNoRange h, attributeText_of_hasNoRange h]
  · rfl

/-- What is read under a name is the same, but for times, if the texts are. -/
theorem readAll_congr {device : String} (h : ∀ object,
    (t.written? device object).map TypedValue.text = (s.written? device object).map TypedValue.text)
    {now now' : Int64} {rs : List Request}
    (hstill : ∀ r ∈ rs, Still r.object (s.wave now) (t.wave now')) :
    (t.readAll now' device rs).map (List.map TypedValue.undated) =
      (s.readAll now device rs).map (List.map TypedValue.undated) := by
  rw [readAll_eq_mapM, readAll_eq_mapM]
  refine mapM_map_congr rs fun r hr => ?_
  rw [generate_eq_told, generate_eq_told, h, (hstill r hr).attributeText_eq]
  exact told_undated ..

end Simulator

/-! ### Gateways side by side -/

namespace Gateway

variable {μ : Type} [MetadataSource μ] {a : String} {g h : Gateway Simulator μ}

/-- What the command reads of the device has no range in which the wave has moved from `g`
to `h`. -/
def StillFor (g h : Gateway Simulator μ) (d : Device) (command : String) : Prop :=
  ∀ rs, g.registry.resolve g.settings.maxOperations d command .get = .ok rs → ∀ r ∈ rs,
    Simulator.Still r.object (g.driver.wave g.wall) (h.driver.wave h.wall)

/-- The gateways differ in no gate, and their simulators only in what they know under the name
`a`. They have taken in their metadata. -/
structure Beside (a : String) (g h : Gateway Simulator μ) : Prop extends SameGates g h where
  initialized : g.registry.initialized = true
  driver : Simulator.AgreeBeyond a g.driver h.driver

namespace Beside

omit [MetadataSource μ] in
/-- They stay side by side while they change no gate. -/
theorem of_driver {g' h' : Gateway Simulator μ} (hgh : Beside a g h) (hg : g.SameGates g')
    (hh : h.SameGates h') (hdriver : Simulator.AgreeBeyond a g'.driver h'.driver) :
    Beside a g' h' where
  toSameGates := (hg.symm.trans hgh.toSameGates).trans hh
  initialized := hg.registry.initialized.trans hgh.initialized
  driver := hdriver

omit [MetadataSource μ] in
theorem of_onlyReads {g' h' : Gateway Simulator μ} (hgh : Beside a g h) (hg : g.SameGates g')
    (hh : h.SameGates h') (hgr : g.OnlyReads g') (hhr : h.OnlyReads h') : Beside a g' h' := by
  refine hgh.of_driver hg hh ?_
  rw [hgr.driver, hhr.driver]
  exact hgh.driver

/-! ### Every order -/

/-- A start takes in nothing more. -/
theorem sameGates_start (hinitialized : g.registry.initialized = true) :
    g.SameGates g.start.2 ∧ g.start.2.driver = g.driver := by
  unfold Gateway.start
  split
  · exact ⟨.refl g, rfl⟩
  · refine ⟨⟨rfl, rfl, ?_⟩, rfl⟩
    show g.registry.SameButStates (g.registry.bootstrap g.source g.settings.name).1
    rw [Registry.bootstrap, if_pos hinitialized]
    exact .refl _

theorem stop (hgh : Beside a g h) (force : Bool) : Beside a (g.stop force) (h.stop force) := by
  obtain ⟨_, hg⟩ := g.course_stop force
  obtain ⟨_, hh⟩ := h.course_stop force
  refine hgh.of_driver hg.sameGates hh.sameGates ?_
  have hawaited : Simulator.AgreeBeyond a g.awaited.driver h.awaited.driver := by
    rw [(awaited_onlyReads Simulator.unmoved g).driver,
      (awaited_onlyReads Simulator.unmoved h).driver]
    exact hgh.driver
  exact hawaited.run (.stop force) (.stop force) fun _ _ _ => rfl

theorem put (hgh : Beside a g h) (key command : String) (parameters : Table String) :
    Beside a (g.put key command parameters).2 (h.put key command parameters).2 := by
  obtain ⟨_, hg⟩ := g.course_put key command parameters
  obtain ⟨_, hh⟩ := h.course_put key command parameters
  refine hgh.of_driver hg.sameGates hh.sameGates ?_
  rcases map_eq_map (hgh.prepareWrite key command parameters) with
    ⟨e, hp', hp⟩ | ⟨⟨d', rs', vs'⟩, ⟨d, rs, vs⟩, hp', hp, hsame⟩
  · simp only [Gateway.put, hp, hp']
    exact hgh.driver
  · obtain ⟨hd, hsame⟩ := Prod.mk.inj hsame
    obtain ⟨rfl, hvs⟩ := Prod.mk.inj hsame
    have haddressable := (Device.of_stateless_eq hd).2.2.1
    rw [(put_drives Simulator.unmoved hp).driver, (put_drives Simulator.unmoved hp').driver,
      haddressable]
    exact hgh.driver.run _ _ fun _ _ object => Simulator.marks_write_congr hvs _ object _ _

omit [MetadataSource μ] in
theorem removeDevice (hgh : Beside a g h) (id : String) :
    (g.removeDevice id).2.SameGates (h.removeDevice id).2 ∧
      Simulator.AgreeBeyond a (g.removeDevice id).2.driver (h.removeDevice id).2.driver := by
  unfold Gateway.removeDevice
  rcases map_eq_map (hgh.registry.deviceById id) with ⟨e, hd', hd⟩ | ⟨d', d, hd', hd, hsame⟩
  · rw [hd, hd']
    exact ⟨hgh.toSameGates, hgh.driver⟩
  · rw [hd, hd']
    simp only [Registry.removeDevice, (Device.of_stateless_eq hsame).1]
    rcases hgh.registry.byName_cases d.name with ⟨he, he'⟩ | ⟨e, e', he, he', hsame'⟩
    · rw [he, he']
      exact ⟨hgh.toSameGates, hgh.driver⟩
    · have hid : e'.id = e.id := (congrArg Device.id hsame' :)
      have haddressable := (Device.of_stateless_eq hsame').2.2.1
      rw [he, he']
      refine ⟨⟨hgh.settings, hgh.locked, hgh.registry.erase ?_ d.name⟩, ?_⟩
      · rw [hid, hgh.registry.nameById]
      · simp only [haddressable]
        exact hgh.driver.run (.disconnect e.addressable) (.disconnect e.addressable)
          fun _ _ _ => rfl

omit [MetadataSource μ] in
theorem manage (hgh : Beside a g h) (m : Management) : Beside a (g.manage m) (h.manage m) := by
  have hinitialized : (g.manage m).registry.initialized = true :=
    (g.managed_manage m).initialized.trans hgh.initialized
  have hwith : ∀ {x y : Except GatewayError Registry}, Registry.Alike x y →
      (g.withRegistry x).2.SameGates (h.withRegistry y).2 ∧
        Simulator.AgreeBeyond a (g.withRegistry x).2.driver (h.withRegistry y).2.driver := by
    intro x y hxy
    cases hxy with
    | failed => exact ⟨hgh.toSameGates, hgh.driver⟩
    | done hsame => exact ⟨⟨hgh.settings, hgh.locked, hsame⟩, hgh.driver⟩
  suffices hboth : (g.manage m).SameGates (h.manage m) ∧
      Simulator.AgreeBeyond a (g.manage m).driver (h.manage m).driver from
    ⟨hboth.1, hinitialized, hboth.2⟩
  cases m with
  | addDevice d =>
    simp only [Gateway.manage, Gateway.addDevice, hgh.registry.profileByName]
    cases g.registry.profileByName d.profile with
    | error e => exact ⟨hgh.toSameGates, hgh.driver⟩
    | ok p => exact hwith (hgh.registry.addDevice d)
  | removeDevice id => exact hgh.removeDevice id
  | addProfile p => exact hwith (hgh.registry.addProfile p)
  | updateProfile p => exact hwith (hgh.registry.updateProfile p)
  | removeProfile name =>
    simp only [Gateway.manage, Gateway.removeProfile, Registry.removeProfile,
      hgh.registry.catalogues]
    cases g.registry.catalogues.get? name with
    | none => exact ⟨hgh.toSameGates, hgh.driver⟩
    | some c => exact ⟨⟨hgh.settings, hgh.locked, hgh.registry.profiles _⟩, hgh.driver⟩
  | updateAdminState id state => exact hwith (hgh.registry.updateAdminState id state)

/-- Whatever they are both asked for, they stay side by side. -/
theorem serve (hgh : Beside a g h) (o : Order) : Beside a (g.serve o) (h.serve o) := by
  have hunmoved := Simulator.unmoved
  have hreads : SelfFrame (OnlyReads (δ := Simulator) (μ := μ)) := onlyReads_frame hunmoved
  have hcourse : ∀ {k k' : Gateway Simulator μ}, (∃ log, k.Course log k') → k.SameGates k' :=
    fun ⟨_, hc⟩ => hc.sameGates
  cases o with
  | start =>
    have hinitialized := hgh.registry.initialized.trans hgh.initialized
    obtain ⟨hg, hgd⟩ := sameGates_start hgh.initialized
    obtain ⟨hh, hhd⟩ := sameGates_start hinitialized
    refine hgh.of_driver hg hh ?_
    show Simulator.AgreeBeyond a g.start.2.driver h.start.2.driver
    rw [hgd, hhd]
    exact hgh.driver
  | stop force => exact hgh.stop force
  | setLocked locked => exact ⟨⟨hgh.settings, rfl, hgh.registry⟩, hgh.initialized, hgh.driver⟩
  | get key command =>
    exact hgh.of_onlyReads (hcourse (g.course_get key command)) (hcourse (h.course_get key command))
      (hreads.get g key command) (hreads.get h key command)
  | getAll command =>
    exact hgh.of_onlyReads (hcourse (g.course_getAll command)) (hcourse (h.course_getAll command))
      (getAll_onlyReads hunmoved g command) (getAll_onlyReads hunmoved h command)
  | put key command parameters => exact hgh.put key command parameters
  | push b =>
    exact hgh.of_onlyReads (calm_feed.push g b).toSameGates (calm_feed.push h b).toSameGates
      (hreads.push g b) (hreads.push h b)
  | reserve => exact ⟨⟨hgh.settings, hgh.locked, hgh.registry⟩, hgh.initialized, hgh.driver⟩
  | release =>
    exact hgh.of_onlyReads (calm_feed.release g).toSameGates (calm_feed.release h).toSameGates
      (hreads.release g) (hreads.release h)
  | settle =>
    exact hgh.of_onlyReads (hcourse ((course_enduring g).settle ⟨[], .refl⟩))
      (hcourse ((course_enduring h).settle ⟨[], .refl⟩))
      ((hreads.enduring_from g).settle (.refl g)) ((hreads.enduring_from h).settle (.refl h))
  | pass ms =>
    exact hgh.of_onlyReads (hcourse ((course_enduring g).pass ⟨[], .refl⟩ ms))
      (hcourse ((course_enduring h).pass ⟨[], .refl⟩ ms))
      (pass_onlyReads hunmoved g ms) (pass_onlyReads hunmoved h ms)
  | manage m => exact hgh.manage m

theorem serveAll (hgh : Beside a g h) (os : List Order) :
    Beside a (g.serveAll os) (h.serveAll os) := by
  induction os generalizing g h with
  | nil => exact hgh
  | cons o os ih => exact ih (hgh.serve o)

/-- A device under another name answers the same in both, but for times. -/
theorem get (hgh : Beside a g h) {key : String} {d : Device} (hd : g.registry.lookup key = .ok d)
    (hname : d.addressable.name ≠ a) {command : String} (hstill : StillFor g h d command) :
    (h.get key command).1.map Answer.undated = (g.get key command).1.map Answer.undated := by
  rw [get_begun, get_begun, beginRead_eq, beginRead_eq]
  rcases map_eq_map (hgh.find key) with ⟨e, hfound', hfound⟩ | ⟨e', e, hfound', hfound, hsame⟩
  · rw [hfound, hfound']
    rfl
  · obtain rfl : e = d := Except.ok.inj ((find_eq_ok hfound).symm.trans hd)
    have hgot : ∀ rs, g.registry.resolve g.settings.maxOperations e command .get = .ok rs →
        (Driver.read h.driver h.wall e.addressable rs).1.got g.settings.timeout =
          (Driver.read g.driver g.wall e.addressable rs).1.got g.settings.timeout := by
      intro rs hrs
      rw [Reply.got_eq, Reply.got_eq]
      exact congrArg (fun x => ((Reply.mk 0 x).asDriver.within g.settings.timeout).2)
        (Simulator.readAll_congr (hgh.driver e.addressable.name hname) (hstill rs hrs))
    rw [hfound, hfound']
    rcases map_eq_map (hgh.ask_of_got hsame command hgot) with
      ⟨e, hp', hp⟩ | ⟨p', p, hp', hp, hpending⟩
    · simp only [hp, hp']
      rfl
    · simp only [hp, hp']
      exact finishRead_undated hgh.settings hpending

end Beside

/-! ### A write to one device -/

/-- With a write to the device of the key and without it there is no difference but under the
name in its addressable. -/
theorem beside_put (hinitialized : g.registry.initialized = true) {key : String} {d : Device}
    (hd : g.registry.lookup key = .ok d) (command : String) (parameters : Table String) :
    Beside d.addressable.name g (g.put key command parameters).2 := by
  obtain ⟨_, hcourse⟩ := g.course_put key command parameters
  refine ⟨hcourse.sameGates, hinitialized, fun n hn object => ?_⟩
  cases hp : g.prepareWrite key command parameters with
  | error e => simp only [put, hp]
  | ok p =>
    obtain ⟨e, rs, vs⟩ := p
    obtain rfl : e = d :=
      Except.ok.inj ((prepareWrite_eq_ok.1 hp).admits.found.symm.trans hd)
    have hspares : Simulator.spares n (.write e.addressable rs vs) := by
      simp [Simulator.spares, Ne.symm hn]
    rw [(put_drives Simulator.unmoved hp).driver]
    show (((Driver.Call.write e.addressable rs vs).run g.driver).written? n object).map _ = _
    rw [Simulator.written?_run, Simulator.marks_of_spares hspares]
    rfl

/-- A write to a device changes what is read under the name in its addressable, where it is what
was written last, and nothing else: every device that has another name in its addressable answers
the same, but for times and for what follows the wave, whatever is asked of the gateway in
between. -/
theorem put_stays_under_name (hinitialized : g.registry.initialized = true) {key : String}
    {d : Device} (hd : g.registry.lookup key = .ok d) (command : String)
    (parameters : Table String) :
    (∀ os key' command' d', (g.serveAll os).registry.lookup key' = .ok d' →
      d'.addressable.name ≠ d.addressable.name →
      StillFor (g.serveAll os) ((g.put key command parameters).2.serveAll os) d' command' →
      ((((g.put key command parameters).2.serveAll os).get key' command').1.map
        Answer.undated) = (((g.serveAll os).get key' command').1.map Answer.undated)) ∧
    ∀ rs vs, g.Ready key command parameters d rs vs → ∀ o v,
      ((rs.zip vs).filter (·.1.object.name = o.name)).getLast?.map (·.2) = some v →
      ∀ target : Addressable, target.name = d.addressable.name → ∀ now operation,
        (Driver.read (g.put key command parameters).2.driver now target [⟨operation, o⟩]).1 =
          ⟨0, (Simulator.told now target.name o v.text).map fun w => [w]⟩ := by
  have hbeside := beside_put hinitialized hd command parameters
  refine ⟨fun os key' command' d' hd' hname hstill =>
    (hbeside.serveAll os).get hd' hname hstill, ?_⟩
  intro rs vs hready o v hlast target htarget now operation
  obtain ⟨p, hp, rfl⟩ := Option.map_eq_some_iff.1 hlast
  have hwritten : (g.put key command parameters).2.driver.written? target.name o.name =
      some p.2 := by
    rw [(put_drives Simulator.unmoved (prepareWrite_eq_ok.2 hready)).driver]
    show ((Driver.Call.write d.addressable rs vs).run g.driver).written? _ _ = _
    rw [Simulator.written?_run, htarget, Simulator.marks,
      if_pos ⟨rfl, hready.values.length_eq⟩, List.getLast?_map, hp]
    rfl
  rw [Simulator.read_one, Simulator.generate_eq_told, hwritten]
  rfl

/-- A gateway that has just started. Its first two devices are addressed by their own names. The
others, which are added later, have no name in their addressables. -/
def plant : Gateway Simulator FixedSource :=
  (launched {} [.ofNames "1" "Pump" "Meter", .ofNames "2" "Valve" "Meter"]
    [gauge (.ofSpec "Level" (.plain .string))]).manageAll [
      .addDevice { id := "3", name := "Drain", profile := "Meter" },
      .addDevice { id := "4", name := "Vent", profile := "Meter" }]

/-- A write to the pump is read there, and the valve answers as if there had been none. -/
theorem put_stays_under_name_plant :
    let parameters : Table String := .ofList [("Level", "high")]
    let written := (plant.put "Pump" "Level" parameters).2
    let os : List Order := [.get "Drain" "Level", .manage (.removeDevice "1"), .pass 5]
    ((written.serveAll os).get "Valve" "Level").1.map Answer.undated =
      ((plant.serveAll os).get "Valve" "Level").1.map Answer.undated ∧
    (Driver.read written.driver 9 { name := "Pump" }
      [⟨.ofNames "get" "Level", .ofSpec "Level" (.plain .string)⟩]).1 =
        ⟨0, .ok [.ofString "Level" 9 "high"]⟩ := by
  intro parameters written os
  have hpump : plant.registry.lookup "Pump" = .ok (.ofNames "1" "Pump" "Meter") := rfl
  obtain ⟨hothers, hnamesakes⟩ :=
    put_stays_under_name (by decide +kernel) hpump "Level" parameters
  have hready : plant.Ready "Pump" "Level" parameters (.ofNames "1" "Pump" "Meter")
      [⟨.ofNames "set" "Level", .ofSpec "Level" (.plain .string)⟩]
      [.ofString "Level" 0 "high"] := prepareWrite_eq_ok.1 rfl
  have hread := hnamesakes _ _ hready (.ofSpec "Level" (.plain .string))
    (.ofString "Level" 0 "high") rfl { name := "Pump" } rfl 9 (.ofNames "get" "Level")
  have hstill : StillFor (plant.serveAll os) (written.serveAll os) (.ofNames "2" "Valve" "Meter")
      "Level" := by
    have hrequests : (plant.serveAll os).registry.resolve (plant.serveAll os).settings.maxOperations
        (.ofNames "2" "Valve" "Meter") "Level" .get =
          .ok [⟨.ofNames "get" "Level", .ofSpec "Level" (.plain .string)⟩] := rfl
    intro rs hrs r hr
    obtain rfl := Except.ok.inj (hrequests.symm.trans hrs)
    rw [List.mem_singleton.1 hr]
    exact .inl (.inl rfl)
  refine ⟨hothers os "Valve" "Level" (.ofNames "2" "Valve" "Meter") rfl (by decide) hstill, ?_⟩
  rw [hread]
  rfl

/-- A write to the drain is read at the vent, which is another device. -/
theorem put_reaches_namesake_plant :
    let drain : Device := { id := "3", name := "Drain", profile := "Meter" }
    let vent : Device := { id := "4", name := "Vent", profile := "Meter" }
    let values (g : Gateway Simulator FixedSource) : Except GatewayError (List String) :=
      (g.get vent.name "Level").1.map fun answer => answer.event.readings.map (·.value)
    let put := plant.put drain.name "Level" (.ofList [("Level", "high")])
    drain ∈ plant.registry.devices ∧ vent ∈ plant.registry.devices ∧ put.1 = .ok () ∧
      values plant = .ok [""] ∧ values put.2 = .ok ["high"] := by
  intro drain vent values put
  exact ⟨by decide +kernel, by decide +kernel, rfl, rfl, rfl⟩

end Gateway

end DeviceGateway
