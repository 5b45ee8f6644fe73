import DeviceGateway.Driver.Script
import DeviceGateway.Proofs.Gateway.Alert
import DeviceGateway.Proofs.Gateway.Gather
import DeviceGateway.Proofs.Gateway.Reports
import Mathlib.Logic.Relation

/-! The states of devices in a gateway and in the store that it has them from. A failed assertion
disables the device of a name here, and the first record of the name there, once the report is
made. So the two agree, as long as nothing else changes states, if the device was taken from the
first record of its name. Otherwise its record keeps the state in which it was taken. -/

namespace DeviceGateway

namespace Gateway

open MetadataSource (noted)

variable {δ μ : Type} {name : String}

/-! ### Changes of the registry -/

section Registry

theorem byName_bootstrap [MetadataSource μ] {r : Registry} {d : Device}
    (hd : r.byName.get? name = some d) (source : μ) (service : String) :
    (r.bootstrap source service).1.byName.get? name = some d := by
  unfold Registry.bootstrap
  split
  · exact hd
  · exact Registry.byName_takeDevices (by rw [(Registry.takeProfiles_tables r _).1, hd]) _

theorem Notes.of_state {g h : Gateway δ μ} (hsource : h.source = g.source)
    (hsleeping : h.sleeping = g.sleeping) (hready : h.ready = g.ready)
    (hstate : h.registry.state? name = g.registry.state? name) : g.Notes name h :=
  ⟨hsource, by rw [hsleeping]; exact id, by rw [hready]; exact id,
    .inl ⟨hstate, by rw [hready]; exact id⟩⟩

theorem Notes.registered {g h : Gateway δ μ} (hh : g.Notes name h)
    (hg : (g.registry.state? name).isSome) : (h.registry.state? name).isSome := by
  rcases hh.state with ⟨hsame, -⟩ | ⟨hdisabled, -⟩
  · rw [hsame]
    exact hg
  · rw [hdisabled, Option.isSome_map]
    exact hg

variable [Driver δ] (g : Gateway δ μ)

theorem start_notes [MetadataSource μ] (hknown : (g.registry.state? name).isSome) :
    g.Notes name g.start.2 := by
  unfold start
  split
  · exact .refl g
  · obtain ⟨d, hd⟩ := Option.isSome_iff_exists.1 (Option.isSome_map.symm.trans hknown)
    have hstate : (g.registry.bootstrap g.source g.settings.name).1.state? name =
        g.registry.state? name := by
      unfold Registry.state?
      rw [byName_bootstrap hd, hd]
    have hmade : g.Notes name { g with
        registry := (g.registry.bootstrap g.source g.settings.name).1 } :=
      .of_state rfl rfl rfl hstate
    have hintake : g.Notes name ({ g with
        registry := (g.registry.bootstrap g.source g.settings.name).1 }.enqueue [.intake]) :=
      hmade.trans (enqueue_notes _ (by simp))
    exact hintake.trans (.of_eq rfl rfl rfl rfl)

/-- A request that manages devices and profiles changes nothing but the registry and the driver,
and writes it down. -/
theorem manage_unreported (m : Management) : (g.manage m).source = g.source ∧
    (g.manage m).sleeping = g.sleeping ∧ (g.manage m).ready = g.ready := by
  have hwith : ∀ x : Except GatewayError Registry, (g.withRegistry x).2.source = g.source ∧
      (g.withRegistry x).2.sleeping = g.sleeping ∧ (g.withRegistry x).2.ready = g.ready := by
    rintro (e | r) <;> exact ⟨rfl, rfl, rfl⟩
  cases m with
  | addDevice d =>
    simp only [manage, addDevice]
    split
    · exact ⟨rfl, rfl, rfl⟩
    · exact hwith _
  | removeDevice id =>
    simp only [manage, removeDevice]
    split
    · exact ⟨rfl, rfl, rfl⟩
    · split <;> exact ⟨rfl, rfl, rfl⟩
  | removeProfile profile =>
    simp only [manage, removeProfile]
    split <;> exact ⟨rfl, rfl, rfl⟩
  | addProfile | updateProfile | updateAdminState => exact hwith _

/-- The device keeps its state unless it is removed. -/
theorem state?_manage (m : Management) (hknown : (g.registry.state? name).isSome)
    (hkept : (g.manage m).registry.state? name ≠ none) :
    (g.manage m).registry.state? name = g.registry.state? name := by
  have hmanaged := managed_manage g m
  cases m with
  | addDevice d =>
    show (g.addDevice d).2.registry.state? name = _
    unfold addDevice
    split
    · rfl
    · unfold Registry.addDevice
      split
      · rfl
      · next hfree =>
        split
        · rfl
        · have hne : name ≠ d.name := by
            rintro rfl
            rw [Registry.state?, Table.contains_eq_false hfree] at hknown
            cases hknown
          show ((g.registry.byName.insert d.name d).get? name).map _ = _
          rw [Table.get?_insert, if_neg hne]
          rfl
  | removeDevice id =>
    generalize (g.manage (.removeDevice id)).registry = r at hmanaged hkept
    cases hmanaged with
    | refused => rfl
    | @deviceRemoved _ key d =>
      unfold Registry.state? at hkept ⊢
      rw [Table.get?_erase] at hkept ⊢
      split
      · next hsame => exact absurd (by rw [if_pos hsame]; rfl) hkept
      · rfl
  | addProfile | updateProfile | removeProfile =>
    generalize (g.manage _).registry = r at hmanaged
    cases hmanaged <;> rfl
  | updateAdminState id state =>
    generalize (g.manage (.updateAdminState id state)).registry = r at hmanaged
    cases hmanaged with
    | refused => rfl
    | @stateUpdated _ key d _ hd =>
      unfold Registry.state?
      rw [Table.get?_insert]
      split
      · next hsame => rw [hsame, hd]; rfl
      · rfl

end Registry

/-! ### Runs -/

section Runs

variable [Driver δ] [MetadataSource μ]

/-- One thing that is asked of a gateway, or that happens around it. -/
inductive Turn (g : Gateway δ μ) : Gateway δ μ → Prop
  | serve (o : Order) : Turn g (g.serve o)
  /-- The registry is changed past the gateway. -/
  | manage {registry : Registry} (h : g.registry.Step registry) : Turn g { g with registry }
  /-- The driver changes of its own accord. -/
  | drive (driver : δ) : Turn g { g with driver }

/-- One such thing by which the device of a name is not removed, and its state not changed unless
an assertion fails. -/
inductive Tame (name : String) (g : Gateway δ μ) : Gateway δ μ → Prop
  | serve (o : Order) (hkept : (g.serve o).registry.state? name ≠ none) : Tame name g (g.serve o)
  | manage {registry : Registry} (h : g.registry.Step registry)
    (hstate : registry.state? name = g.registry.state? name) : Tame name g { g with registry }
  | drive (driver : δ) : Tame name g { g with driver }

theorem Tame.turn {g h : Gateway δ μ} (ht : Tame name g h) : g.Turn h := by
  cases ht with
  | serve o => exact .serve o
  | manage hs => exact .manage hs
  | drive driver => exact .drive driver

/-- What is lasting outlives what is tame, as long as the device is known. -/
theorem Lasting.tame {P : Gateway δ μ → Prop} (hk : Lasting name P) {g h : Gateway δ μ} (hg : P g)
    (hknown : (g.registry.state? name).isSome) (ht : Tame name g h) : P h := by
  cases ht with
  | serve o hkept =>
    by_cases hstart : o = .start
    · subst hstart
      exact hk.notes _ _ hg (start_notes g hknown)
    · by_cases hmanage : ∃ m, o = .manage m
      · obtain ⟨m, rfl⟩ := hmanage
        obtain ⟨hsource, hsleeping, hready⟩ := manage_unreported g m
        exact hk.notes _ _ hg (.of_state hsource hsleeping hready (state?_manage g m hknown hkept))
      · exact hk.serve hg hstart fun m hm => hmanage ⟨m, hm⟩
  | manage hs hstate => exact hk.notes _ _ hg (.of_state rfl rfl rfl hstate)
  | drive driver => exact hk.notes _ _ hg (.of_eq rfl rfl rfl rfl)

/-- What is lasting outlives a run of what is tame, if the device is known as long as it holds. -/
theorem Lasting.tames {P : Gateway δ μ → Prop} (hk : Lasting name P)
    (hknown : ∀ g, P g → (g.registry.state? name).isSome) {g h : Gateway δ μ} (hg : P g)
    (ht : Relation.ReflTransGen (Tame name) g h) : P h := by
  induction ht with
  | refl => exact hg
  | tail _ hlast ih => exact hk.tame ih (hknown _ ih) hlast

/-! ### Nothing is left to be done -/

/-- What a run makes ready is to be published or reported. -/
theorem ready_runReady (g : Gateway δ μ) :
    ∀ t ∈ g.runReady.ready, t.isCommand = false ∧ t ≠ .intake := by
  intro t ht
  have hintake : .intake ∉ g.runReady.ready :=
    foldl_runTask (P := fun _ h => .intake ∉ h.ready)
      (fun t _ h hh => intake_not_mem_runTask hh t) (by simp)
  exact ⟨runReady_calmed g t ht, fun heq => hintake (heq ▸ ht)⟩

/-- Publishing and reporting makes nothing ready. -/
theorem ready_runReady_eq_nil {g : Gateway δ μ}
    (hg : ∀ t ∈ g.ready, t.isCommand = false ∧ t ≠ .intake) : g.runReady.ready = [] := by
  refine (foldl_runTask (P := fun ts h => (∀ t ∈ ts, t.isCommand = false ∧ t ≠ .intake) ∧
    h.ready = []) (fun t ts h hh => ?_) ⟨hg, rfl⟩).2
  obtain ⟨hcommand, hintake⟩ := hh.1 t List.mem_cons_self
  refine ⟨fun u hu => hh.1 u (List.mem_cons_of_mem t hu), ?_⟩
  cases t with
  | intake => exact absurd rfl hintake
  | publish e => exact hh.2
  | report device =>
    rw [runTask_report_eq]
    exact hh.2
  | read | finish => cases hcommand

theorem ready_quiesce (g : Gateway δ μ) : g.quiesce.ready = [] := by
  have hsecond : g.runReady.runReady.ready = [] := ready_runReady_eq_nil (ready_runReady g)
  exact ready_runReady_eq_nil (by simp [hsecond])

/-- When all is done that takes no time, nothing is ready. -/
theorem ready_settle (g : Gateway δ μ) : g.settle.ready = [] := by
  have hfeed : ∀ n (g : Gateway δ μ), g.ready = [] → (g.feedSteps n).ready = [] := by
    intro n
    induction n with
    | zero => exact fun g hg => hg
    | succ n ih =>
      intro g hg
      unfold feedSteps
      split
      · exact ih _ (ready_quiesce _)
      · exact hg
  unfold settle
  simp only
  split
  · exact ready_quiesce g
  · exact hfeed _ _ (ready_quiesce g)

end Runs

/-! ### Records -/

section Records

variable [Driver δ] {ds : List Device}

/-- The source holds the records, and no report of the device waits for a time. -/
structure Holds (name : String) (ds : List Device) (h : Gateway δ MetadataStore) : Prop where
  records : Reported ds h.source.document.devices
  sleeping : ∀ e ∈ h.sleeping, e.2 ≠ .report name

namespace Holds

variable {g h : Gateway δ MetadataStore}

omit [Driver δ] in
theorem of_eq (hg : g.Holds name ds) (hsource : h.source = g.source)
    (hsleeping : h.sleeping = g.sleeping) : h.Holds name ds :=
  ⟨by rw [hsource]; exact hg.records, by rw [hsleeping]; exact hg.sleeping⟩

omit [Driver δ] in
theorem notes (hg : g.Holds name ds) (hh : g.Notes name h) : h.Holds name ds :=
  ⟨by rw [hh.source]; exact hg.records, hh.sleeping hg.sleeping⟩

theorem lasting (name : String) (ds : List Device) :
    Lasting name fun h : Gateway δ MetadataStore => h.Holds name ds :=
  .of_report
    (fun g device hg => ⟨hg.records.trans (g.source.reported_noted device), hg.sleeping⟩)
    (fun _ _ hg => ⟨hg.records, hg.sleeping⟩)
    (fun _ _ hg hh => hg.notes hh)
    (fun _ _ hg => ⟨hg.records, fun e he => hg.sleeping e (List.mem_filter.1 he).1⟩)

theorem turn (hg : g.Holds name ds) (ht : g.Turn h) : h.Holds name ds := by
  cases ht with
  | serve o =>
    by_cases hstart : o = .start
    · subst hstart
      show g.start.2.Holds name ds
      unfold start
      split
      · exact hg
      · exact ⟨hg.records, hg.sleeping⟩
    · by_cases hmanage : ∃ m, o = .manage m
      · obtain ⟨m, rfl⟩ := hmanage
        exact hg.of_eq (manage_unreported g m).1 (manage_unreported g m).2.1
      · exact (lasting name ds).serve hg hstart fun m hm => hmanage ⟨m, hm⟩
  | manage | drive => exact ⟨hg.records, hg.sleeping⟩

theorem turns (hg : g.Holds name ds) (ht : Relation.ReflTransGen Turn g h) :
    h.Holds name ds := by
  induction ht with
  | refl => exact hg
  | tail _ hlast ih => exact ih.turn hlast

end Holds

end Records

/-! ### States that are reported -/

section States

variable [Driver δ] {g h : Gateway δ MetadataStore} {late : Bool} {todo : List GatewayTask}

/-- The state that the source is to know of a device when no report of it is left to be made. If
one was left when the device was taken, that comes late. -/
def upstream? (late : Bool) (name : String) (g : Gateway δ μ) : Option OperatingState :=
  if late then some .disabled else g.registry.state? name

/-- The source knows the state of the device, or is to be told that it is disabled. -/
structure Noted (name : String) (late : Bool) (todo : List GatewayTask)
    (g : Gateway δ MetadataStore) : Prop where
  registered : (g.registry.state? name).isSome
  known : (g.source.state? name).isSome
  sleeping : ∀ e ∈ g.sleeping, e.2 ≠ .report name
  due : .report name ∈ todo ∨ .report name ∈ g.ready →
    g.upstream? late name = some .disabled
  settled : .report name ∉ todo → .report name ∉ g.ready →
    g.source.state? name = g.upstream? late name

namespace Noted

omit [Driver δ] in
theorem notes (hg : g.Noted name late todo) (hh : g.Notes name h) : h.Noted name late todo := by
  have hsource := hg.known
  rw [← hh.source] at hsource
  rcases hh.state with ⟨hsame, hback⟩ | ⟨hdisabled, hready⟩
  · have hupstream : h.upstream? late name = g.upstream? late name := by
      unfold upstream?
      rw [hsame]
    refine ⟨hsame ▸ hg.registered, hsource, hh.sleeping hg.sleeping, fun hdue => ?_,
      fun htodo hnone => ?_⟩
    · exact hupstream.trans (hg.due (hdue.imp_right hback))
    · rw [hupstream, hh.source]
      exact hg.settled htodo fun hready => hnone (hh.ready hready)
  · have hstate : h.registry.state? name = some .disabled := by
      obtain ⟨state, hstate⟩ := Option.isSome_iff_exists.1 hg.registered
      rw [hdisabled, hstate, Option.map_some]
    refine ⟨by rw [hstate]; rfl, hsource, hh.sleeping hg.sleeping, fun _ => ?_,
      fun _ hnone => absurd hready hnone⟩
    unfold upstream?
    rw [hstate, ite_self]

theorem runTask {t : GatewayTask} (hg : g.Noted name late (t :: todo)) :
    (g.runTask t).Noted name late todo := by
  by_cases ht : t = .report name
  · subst ht
    have hdisabled : g.upstream? late name = some .disabled := hg.due (.inl List.mem_cons_self)
    have htold : (noted name g.source).state? name = some .disabled := by
      obtain ⟨state, hstate⟩ := Option.isSome_iff_exists.1 hg.known
      rw [MetadataStore.state?_noted, if_pos rfl, hstate, Option.map_some]
    rw [runTask_report_eq]
    exact ⟨hg.registered, by rw [htold]; rfl, hg.sleeping, fun _ => hdisabled,
      fun _ _ => htold.trans hdisabled.symm⟩
  · have hrest : g.Noted name late todo :=
      ⟨hg.registered, hg.known, hg.sleeping,
        fun hdue => hg.due (hdue.imp_left (List.mem_cons_of_mem t)),
        fun htodo => hg.settled fun hmem =>
          (List.mem_cons.1 hmem).elim (fun heq => ht heq.symm) htodo⟩
    by_cases hreport : ∃ device, t = .report device
    · obtain ⟨device, rfl⟩ := hreport
      have hsame : (noted device g.source).state? name = g.source.state? name := by
        rw [MetadataStore.state?_noted, if_neg fun heq : name = device => ht (heq ▸ rfl)]
      rw [runTask_report_eq]
      exact ⟨hrest.registered, hsame ▸ hrest.known, hrest.sleeping, hrest.due,
        fun htodo hnone => hsame.trans (hrest.settled htodo hnone)⟩
    · exact hrest.notes (runTask_notes g fun device heq => hreport ⟨device, heq⟩)

omit [Driver δ] in
theorem jump (hg : g.Noted name late []) (t : Nat) : (g.jump t).Noted name late [] := by
  have hback : .report name ∈ (g.jump t).ready → .report name ∈ g.ready := by
    intro hmem
    rcases List.mem_append.1 hmem with hmem | hmem
    · exact hmem
    · rcases List.mem_append.1 hmem with hmem | hmem
      · split at hmem <;> simp at hmem
      · obtain ⟨e, he, hreport⟩ := List.mem_map.1 hmem
        exact absurd hreport (hg.sleeping e (List.mem_filter.1 he).1)
  exact ⟨hg.registered, hg.known, fun e he => hg.sleeping e (List.mem_filter.1 he).1,
    fun hdue => hg.due (hdue.imp_right hback),
    fun htodo hnone => hg.settled htodo fun hmem => hnone (List.mem_append_left _ hmem)⟩

theorem lasting (name : String) (late : Bool) :
    Lasting name fun h : Gateway δ MetadataStore => h.Noted name late [] where
  runReady g hg := by
    have hready : Noted name late g.ready { g with ready := [] } :=
      ⟨hg.registered, hg.known, hg.sleeping,
        fun hdue => hg.due (.inr (hdue.resolve_right (List.not_mem_nil))),
        fun htodo _ => hg.settled (List.not_mem_nil) htodo⟩
    exact foldl_runTask (P := fun ts g => g.Noted name late ts) (fun _ _ _ hg => hg.runTask) hready
  feed g hg := hg.notes (notes_feed.feed g)
  notes _ _ hg hh := hg.notes hh
  jump _ t hg := hg.jump t

end Noted

end States

/-! ### The record of a device -/

theorem keys_ofDocument (doc : MetadataDocument) :
    (MetadataStore.ofDocument doc).document.devices.map Device.key =
      doc.devices.map Device.key := by
  show (doc.devices.map Device.addressed).map Device.key = _
  rw [List.map_map]
  refine List.map_congr_left fun d _ => ?_
  unfold Function.comp Device.addressed
  split <;> rfl

section Loaded

variable [Driver δ] {g h : Gateway δ MetadataStore} {d : Device}

omit [Driver δ] in
theorem state?_eq_some {g : Gateway δ μ} (hknown : (g.registry.state? name).isSome) :
    ∃ d, g.registry.byName.get? name = some d ∧
      g.registry.state? name = some d.operatingState := by
  obtain ⟨state, hstate⟩ := Option.isSome_iff_exists.1 hknown
  obtain ⟨d, hd, hsame⟩ := Option.map_eq_some_iff.1 hstate
  exact ⟨d, hd, by rw [hstate, hsame]⟩

theorem registered_lasting (name : String) :
    Lasting name fun h : Gateway δ MetadataStore => (h.registry.state? name).isSome :=
  .of_report (fun _ _ hg => hg) (fun _ _ hg => hg) (fun _ _ hg hh => hh.registered hg)
    (fun _ _ hg => hg)

/-- A device that a start registers is one of the records, the first with its name and id. -/
theorem start_loads (hfresh : g.registry.byName.get? d.name = none)
    (hloaded : g.start.2.registry.byName.get? d.name = some d) :
    g.start.2.source = g.source ∧ g.start.2.sleeping = g.sleeping ∧
      g.start.2.ready = g.ready ++ [.intake] ∧
      ∃ i, g.source.document.devices[i]? = some d ∧ RecordOf g.source.document.devices d i := by
  unfold start at hloaded ⊢
  split at hloaded
  · rw [hfresh] at hloaded
    cases hloaded
  · next hrunning =>
    rw [if_neg hrunning]
    refine ⟨rfl, rfl, rfl, ?_⟩
    change (g.registry.bootstrap g.source g.settings.name).1.byName.get? d.name = some d at hloaded
    unfold Registry.bootstrap at hloaded
    split at hloaded
    · rw [hfresh] at hloaded
      cases hloaded
    · refine (Registry.takeDevices_new ?_ hloaded).2
      rw [(Registry.takeProfiles_tables _ _).1, hfresh]

/-- A device that a start takes from the first record of its name is noted from then on. -/
theorem noted_of_loaded {late : Bool} (hlate : late = true ↔ .report d.name ∈ g.ready)
    (hasleep : ∀ e ∈ g.sleeping, e.2 ≠ .report d.name)
    (hfresh : g.registry.byName.get? d.name = none)
    (hloaded : g.start.2.registry.byName.get? d.name = some d) {i : Nat}
    (hi : g.source.document.devices[i]? = some d)
    (hfirst : FirstOf g.source.document.devices d.name i) :
    g.start.2.Noted d.name late [] := by
  obtain ⟨hsource, hsleeping, hready, -⟩ := start_loads hfresh hloaded
  have hstate : g.start.2.registry.state? d.name = some d.operatingState := by
    rw [Registry.state?, hloaded, Option.map_some]
  have htold : g.start.2.source.state? d.name = some d.operatingState := by
    rw [hsource]
    exact MetadataStore.state?_of_firstOf hi hfirst
  refine ⟨by rw [hstate]; rfl, by rw [htold]; rfl, by rwa [hsleeping], fun hdue => ?_,
    fun _ hnone => ?_⟩
  · rw [upstream?, if_pos (hlate.2 (by simpa [hready] using hdue))]
  · rw [upstream?, if_neg (mt hlate.1 (by simpa [hready] using hnone)), htold, hstate]

/-- A store serves a document. Whatever happens before a device is taken from it, and whatever
happens after that as long as the device is not removed and its state changes only when an
assertion fails: once all is done that takes no time, the record that the device was taken from,
the first with its name and its id, still has these. If it is the first of its name its state is
that of the device, unless a report of an earlier device of the name was still to be made when this
one was taken; then it is disabled. If it is not the first of its name its state is the one in
which the device was taken. -/
theorem record_state_of_loaded {settings : Settings} {driver : δ} {publisher : Publisher}
    {epoch : Int64} {doc : MetadataDocument}
    (hbefore : Relation.ReflTransGen Turn
      { settings, driver, source := MetadataStore.ofDocument doc, publisher, epoch } g)
    (hfresh : g.registry.byName.get? d.name = none)
    (hloaded : g.start.2.registry.byName.get? d.name = some d)
    (hafter : Relation.ReflTransGen (Tame d.name) g.start.2 h) :
    let settled := h.settle
    settled.ready = [] ∧ ∃ i original record e,
      doc.devices[i]? = some original ∧ original.key = d.key ∧ RecordOf doc.devices d i ∧
      settled.source.document.devices[i]? = some record ∧ record.key = d.key ∧
      settled.registry.byName.get? d.name = some e ∧
      (FirstOf doc.devices d.name i → .report d.name ∉ g.ready →
        record.operatingState = e.operatingState) ∧
      (FirstOf doc.devices d.name i → .report d.name ∈ g.ready →
        record.operatingState = .disabled) ∧
      (¬ FirstOf doc.devices d.name i → record.operatingState = d.operatingState) := by
  intro settled
  have hnew : Holds d.name (MetadataStore.ofDocument doc).document.devices
      { settings, driver, source := MetadataStore.ofDocument doc, publisher, epoch } :=
    ⟨.refl _, by simp⟩
  have hholds := hnew.turns hbefore
  have hkeys := hholds.records.keys.trans (keys_ofDocument doc)
  obtain ⟨hsource, hsleeping, -, i, hi, hrecord⟩ := start_loads hfresh hloaded
  obtain ⟨original, ho, hokey⟩ := exists_of_keys_eq hkeys hi
  -- the records from the moment on when the device was taken
  have hstart : g.start.2.Holds d.name g.source.document.devices :=
    ⟨by rw [hsource]; exact .refl _, by rw [hsleeping]; exact hholds.sleeping⟩
  have hsettled : settled.Holds d.name g.source.document.devices :=
    (Holds.lasting _ _).settle
      (hstart.turns (Relation.ReflTransGen.mono (fun _ _ => Tame.turn) _ _ hafter))
  obtain ⟨record, hrecorded, hsame⟩ := hsettled.records.record hi
  have hkey : record.key = d.key := by rw [hsame]; rfl
  have hname : record.name = d.name := congrArg Prod.fst hkey
  -- the device in the registry
  have hregistered : (g.start.2.registry.state? d.name).isSome := by
    rw [Registry.state?, hloaded]
    rfl
  have hlasting := registered_lasting (δ := δ) d.name
  obtain ⟨e, he, hestate⟩ :=
    state?_eq_some (hlasting.settle (hlasting.tames (fun _ => id) hregistered hafter))
  -- what the store says of the name when nothing is left to be reported
  obtain ⟨late, hlate⟩ : ∃ late : Bool, late = true ↔ .report d.name ∈ g.ready := by
    by_cases hmem : .report d.name ∈ g.ready
    · exact ⟨true, by simp [hmem]⟩
    · exact ⟨false, by simp [hmem]⟩
  have hupstream : FirstOf doc.devices d.name i →
      some record.operatingState = settled.upstream? late d.name := by
    intro hfirst
    have hnoted := noted_of_loaded hlate hholds.sleeping hfresh hloaded hi
      ((firstOf_congr hkeys).2 hfirst)
    have hlast : settled.Noted d.name late [] :=
      (Noted.lasting _ _).settle
        ((Noted.lasting _ _).tames (fun _ hg => hg.registered) hnoted hafter)
    have hstays : FirstOf settled.source.document.devices record.name i := by
      rw [hname]
      exact (firstOf_congr (hsettled.records.keys.trans hkeys)).2 hfirst
    rw [← MetadataStore.state?_of_firstOf hrecorded hstays, hname]
    exact hlast.settled List.not_mem_nil (by simp [settled, ready_settle])
  refine ⟨ready_settle h, i, original, record, e, ho, hokey, (recordOf_congr hkeys).1 hrecord,
    hrecorded, hkey, he, fun hfirst hintime => ?_, fun hfirst hpending => ?_, fun hlater => ?_⟩
  · have hagree := hupstream hfirst
    rw [upstream?, if_neg (mt hlate.1 hintime)] at hagree
    exact Option.some.inj (hagree.trans hestate)
  · have hagree := hupstream hfirst
    rw [upstream?, if_pos (hlate.2 hpending)] at hagree
    exact Option.some.inj hagree
  · have hkept := hsettled.records.later hi (mt (firstOf_congr hkeys).1 hlater)
    obtain rfl : record = d := Option.some.inj (hrecorded.symm.trans hkept)
    rfl

end Loaded

/-- Three records, of which the second has the id of the first and the name of the last. The level
of a device is to be low. -/
def displacing : MetadataDocument where
  devices := [.ofNames "1" "Pump" "Meter", .ofNames "1" "Valve" "Meter",
    .ofNames "2" "Valve" "Meter"]
  profiles := [gauge (.ofSpec "Level" { ValueSpec.plain .string with assertion := "low" })]

/-- A gateway that serves them, and whose levels are all high. -/
def displaced : Gateway Script MetadataStore where
  settings := {}
  driver := { otherwise := some { values := .ok [.ofString "Level" 7 "high"] } }
  source := .ofDocument displacing
  publisher := ⟨fun _ => { outcome := .ok () }⟩

/-- The pump is at the wrong level. Its record is the first of its name, and knows of it. -/
theorem record_state_of_loaded_displaced :
    let settled := (displaced.start.2.get "Pump" "Level").2.settle
    ∃ record e, settled.source.document.devices[0]? = some record ∧
      settled.registry.byName.get? "Pump" = some e ∧ e.operatingState = .disabled ∧
      record.operatingState = .disabled := by
  intro settled
  have hafter : Relation.ReflTransGen (Tame "Pump") displaced.start.2
      (displaced.start.2.serve (.get "Pump" "Level")) :=
    .single (.serve (.get "Pump" "Level") (by decide +kernel))
  obtain ⟨-, i, original, record, e, ho, hokey, -, hrecord, -, he, hagree, -, -⟩ :=
    record_state_of_loaded (d := .ofNames "1" "Pump" "Meter") .refl
      (g := displaced) rfl (by decide +kernel) hafter
  have hplace : i = 0 := by
    rcases i with _ | _ | _ | i
    · rfl
    · cases ho
      exact absurd hokey (by decide)
    · cases ho
      exact absurd hokey (by decide)
    · cases ho
  subst hplace
  have hdisabled : e.operatingState = .disabled := by
    have hstate : settled.registry.state? "Pump" = some .disabled := by decide +kernel
    have hfound : settled.registry.state? "Pump" = some e.operatingState := congrArg _ he
    exact Option.some.inj (hfound.symm.trans hstate)
  exact ⟨record, e, hrecord, he, hdisabled,
    (hagree (by simp [FirstOf]) (by simp [displaced])).trans hdisabled⟩

/-- The valve is taken from the last record, and it is the one before that learns of its level. -/
theorem record_state_of_namesake_displaced :
    let settled := (displaced.start.2.get "Valve" "Level").2.settle
    settled.ready.length = 0 ∧
    settled.registry.devices.map (fun d => (d.key, d.operatingState)) =
      [(("Pump", "1"), .enabled), (("Valve", "2"), .disabled)] ∧
    settled.source.document.devices.map (fun d => (d.key, d.operatingState)) =
      [(("Pump", "1"), .enabled), (("Valve", "1"), .disabled), (("Valve", "2"), .enabled)] := by
  decide +kernel

end Gateway

end DeviceGateway
