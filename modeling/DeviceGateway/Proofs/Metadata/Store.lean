import DeviceGateway.Metadata.Store
import DeviceGateway.Proofs.Registry.Tables

/-! The records of a metadata store. A report sets the state of the first record of a name, and
nothing else ever changes. A registry takes a device from the first record of which the name and
the id are both free, which need not be the first of its name. -/

namespace DeviceGateway

/-- The source once it has been told that a device is disabled; as it is if it takes no note. -/
def MetadataSource.noted {μ : Type} [MetadataSource μ] (device : String) (source : μ) : μ :=
  (MetadataSource.report source device .disabled).toOption.getD source

/-! ### Places of records -/

/-- What a registry finds a device by. -/
def Device.key (d : Device) : String × String := (d.name, d.id)

/-- No record before the place has the name. -/
def FirstOf (ds : List Device) (name : String) (place : Nat) : Prop :=
  name ∉ ((ds.map Device.key).take place).map Prod.fst

/-- No record before the place has both the name and the id of the device. -/
def RecordOf (ds : List Device) (d : Device) (place : Nat) : Prop :=
  d.key ∉ (ds.map Device.key).take place

theorem FirstOf.ne {ds : List Device} {name : String} {place : Nat} (h : FirstOf ds name place)
    {j : Nat} {e : Device} (hj : j < place) (he : ds[j]? = some e) : e.name ≠ name := by
  rintro rfl
  refine h (List.mem_map.2 ⟨e.key, List.mem_iff_getElem?.2 ⟨j, ?_⟩, rfl⟩)
  rw [List.getElem?_take_of_lt hj, List.getElem?_map, he, Option.map_some]

section Keys

variable {ds ds' : List Device} (hkeys : ds'.map Device.key = ds.map Device.key)
include hkeys

/-- Where a record stands is a matter of names and ids. -/
theorem firstOf_congr {name : String} {place : Nat} :
    FirstOf ds' name place ↔ FirstOf ds name place := by
  rw [FirstOf, FirstOf, hkeys]

theorem recordOf_congr {d : Device} {place : Nat} :
    RecordOf ds' d place ↔ RecordOf ds d place := by
  rw [RecordOf, RecordOf, hkeys]

theorem exists_of_keys_eq {d' : Device} {place : Nat} (hd' : ds'[place]? = some d') :
    ∃ d, ds[place]? = some d ∧ d.key = d'.key := by
  have hkey : (ds.map Device.key)[place]? = some d'.key := by
    rw [← hkeys, List.getElem?_map, hd', Option.map_some]
  rwa [List.getElem?_map, Option.map_eq_some_iff] at hkey

end Keys

/-! ### What reports leave of the records -/

/-- `ds'` is `ds` but for the states of records that are the first of their names. -/
structure Reported (ds ds' : List Device) : Prop where
  keys : ds'.map Device.key = ds.map Device.key
  record : ∀ {i : Nat} {d : Device}, ds[i]? = some d →
    ∃ d' : Device, ds'[i]? = some d' ∧ d' = { d with operatingState := d'.operatingState }
  later : ∀ {i : Nat} {d : Device}, ds[i]? = some d → ¬ FirstOf ds d.name i → ds'[i]? = some d

namespace Reported

variable {ds ds' ds'' : List Device}

theorem refl (ds : List Device) : Reported ds ds :=
  ⟨rfl, fun hd => ⟨_, hd, rfl⟩, fun hd _ => hd⟩

theorem trans (h : Reported ds ds') (h' : Reported ds' ds'') : Reported ds ds'' where
  keys := h'.keys.trans h.keys
  record hd := by
    obtain ⟨d', hd', hsame⟩ := h.record hd
    obtain ⟨d'', hd'', hsame'⟩ := h'.record hd'
    refine ⟨d'', hd'', hsame'.trans ?_⟩
    rw [hsame]
  later hd hlater := by
    exact h'.later (h.later hd hlater) (mt (firstOf_congr h.keys).1 hlater)

end Reported

namespace MetadataStore

variable {name : String} {state : OperatingState} {ds ds' : List Device}

/-- The first record of a name is replaced. -/
theorem updateFirst_eq_some (h : updateFirst name state ds = some ds') :
    ∃ k d, ds[k]? = some d ∧ d.name = name ∧ FirstOf ds name k ∧
      ds' = ds.set k { d with operatingState := state } := by
  induction ds generalizing ds' with
  | nil => cases h
  | cons d ds ih =>
    unfold updateFirst at h
    split at h
    · next hname =>
      cases h
      exact ⟨0, d, rfl, hname, by simp [FirstOf], rfl⟩
    · next hname =>
      obtain ⟨ds', hds', rfl⟩ := Option.map_eq_some_iff.1 h
      obtain ⟨k, e, he, hename, hfirst, rfl⟩ := ih hds'
      refine ⟨k + 1, e, he, hename, fun hmem => ?_, rfl⟩
      rcases List.mem_cons.1 hmem with hsame | hmem
      · exact hname hsame.symm
      · exact hfirst hmem

theorem updateFirst_eq_none (h : updateFirst name state ds = none) :
    ds.find? (·.name = name) = none := by
  induction ds with
  | nil => rfl
  | cons d ds ih =>
    unfold updateFirst at h
    split at h
    · cases h
    · next hname =>
      rw [List.find?_cons_of_neg (by simpa using hname)]
      exact ih (Option.map_eq_none_iff.1 h)

theorem reported_updateFirst (h : updateFirst name state ds = some ds') : Reported ds ds' := by
  obtain ⟨k, d, hd, hname, hfirst, rfl⟩ := updateFirst_eq_some h
  have hk : k < ds.length := (List.getElem?_eq_some_iff.1 hd).1
  constructor
  · have hkey : (ds.map Device.key)[k]? = some d.key := by rw [List.getElem?_map, hd]; rfl
    obtain ⟨_, hget⟩ := List.getElem?_eq_some_iff.1 hkey
    have hset : (ds.map Device.key).set k d.key = ds.map Device.key := by
      rw [← hget, List.set_getElem_self]
    rw [List.map_set]
    exact hset
  · intro i e he
    rw [List.getElem?_set]
    by_cases hi : k = i
    · subst hi
      obtain rfl : d = e := Option.some.inj (hd.symm.trans he)
      exact ⟨_, by rw [if_pos rfl, if_pos hk], rfl⟩
    · exact ⟨e, by rw [if_neg hi, he], rfl⟩
  · intro i e he hlater
    have hi : k ≠ i := by
      rintro rfl
      obtain rfl : d = e := Option.some.inj (hd.symm.trans he)
      exact hlater (hname ▸ hfirst)
    rw [List.getElem?_set_ne hi, he]

/-- What is found under the name has the state; under other names the same is found. -/
theorem find?_updateFirst (h : updateFirst name state ds = some ds') (key : String) :
    ds'.find? (·.name = key) = if key = name then
      (ds.find? (·.name = key)).map fun d => { d with operatingState := state }
    else ds.find? (·.name = key) := by
  induction ds generalizing ds' with
  | nil => cases h
  | cons d ds ih =>
    unfold updateFirst at h
    split at h
    · next hname =>
      cases h
      by_cases hkey : key = name
      · simp [hkey, hname]
      · simp [hkey, hname, Ne.symm hkey]
    · next hname =>
      obtain ⟨ds', hds', rfl⟩ := Option.map_eq_some_iff.1 h
      have hrest := ih hds'
      by_cases hkey : key = name
      · subst hkey
        simpa [hname] using hrest
      · by_cases hd : d.name = key
        · simp [hd, hkey]
        · simpa [hd, hkey] using hrest

/-! ### The state that is known of a name -/

/-- The state of the first record of a name. -/
def state? (s : MetadataStore) (name : String) : Option OperatingState :=
  (s.document.devices.find? (·.name = name)).map (·.operatingState)

theorem state?_of_firstOf {s : MetadataStore} {i : Nat} {d : Device}
    (hd : s.document.devices[i]? = some d) (hfirst : FirstOf s.document.devices d.name i) :
    s.state? d.name = some d.operatingState := by
  have hfind : s.document.devices.find? (·.name = d.name) = some d := by
    obtain ⟨hi, hget⟩ := List.getElem?_eq_some_iff.1 hd
    refine List.find?_eq_some_iff_getElem.2 ⟨by simp, i, hi, hget, fun j hj => ?_⟩
    have hother := hfirst.ne hj (List.getElem?_eq_getElem (Nat.lt_trans hj hi))
    simpa using hother
  rw [state?, hfind, Option.map_some]

open MetadataSource (noted)

theorem noted_cases (s : MetadataStore) (device : String) :
    (s.document.devices.find? (·.name = device) = none ∧ noted device s = s) ∨
    ∃ ds, updateFirst device .disabled s.document.devices = some ds ∧
      (noted device s).document.devices = ds := by
  have hnoted : noted device s = (s.report device .disabled).toOption.getD s := rfl
  rw [hnoted]
  unfold report
  cases hds : updateFirst device .disabled s.document.devices with
  | none => exact .inl ⟨updateFirst_eq_none hds, rfl⟩
  | some ds => exact .inr ⟨ds, rfl, rfl⟩

theorem reported_noted (s : MetadataStore) (device : String) :
    Reported s.document.devices (noted device s).document.devices := by
  rcases s.noted_cases device with ⟨-, hsame⟩ | ⟨ds, hds, hafter⟩
  · rw [hsame]
    exact .refl _
  · rw [hafter]
    exact reported_updateFirst hds

theorem state?_noted (s : MetadataStore) (device name : String) :
    (noted device s).state? name =
      if name = device then (s.state? name).map fun _ => .disabled else s.state? name := by
  unfold state?
  rcases s.noted_cases device with ⟨hnone, hsame⟩ | ⟨ds, hds, hafter⟩
  · rw [hsame]
    split
    · next hname => simp [hname, hnone]
    · rfl
  · rw [hafter, find?_updateFirst hds]
    split
    · rw [Option.map_map, Option.map_map]
      rfl
    · rfl

end MetadataStore

/-! ### Records that are taken -/

namespace Registry

variable {r : Registry} {name : String} {d : Device}

theorem takeProfiles_tables (r : Registry) (ps : List Profile) :
    (r.takeProfiles ps).byName = r.byName ∧ (r.takeProfiles ps).nameById = r.nameById := by
  refine foldl_accepted (P := fun s => s.byName = r.byName ∧ s.nameById = r.nameById)
    (fun s s' p hs hp => ?_) ⟨rfl, rfl⟩ ps
  unfold addProfile at hp
  split at hp <;> cases hp
  exact hs

/-- A record is passed over if its name or its id is taken, and a device else. -/
theorem addDevice_cases (r : Registry) (e : Device) :
    ((r.addDevice e).toOption.getD r = r ∧
      (r.byName.get? e.name ≠ none ∨ r.nameById.get? e.id ≠ none)) ∨
    ((r.addDevice e).toOption.getD r = { r with
        nameById := r.nameById.insert e.id e.name
        byName := r.byName.insert e.name e } ∧
      r.byName.get? e.name = none ∧ r.nameById.get? e.id = none) := by
  unfold addDevice
  split
  · next hname => exact .inl ⟨rfl, .inl (Option.ne_none_iff_isSome.2 hname)⟩
  · next hname =>
    split
    · next hid => exact .inl ⟨rfl, .inr (Option.ne_none_iff_isSome.2 hid)⟩
    · next hid => exact .inr ⟨rfl, Table.contains_eq_false hname, Table.contains_eq_false hid⟩

/-- A device that is known stays as it is whatever is taken. -/
theorem byName_takeDevices (h : r.byName.get? name = some d) (ds : List Device) :
    (r.takeDevices ds).byName.get? name = some d := by
  refine foldl_accepted (P := fun s => s.byName.get? name = some d) (fun s s' e hs he => ?_) h ds
  obtain ⟨rfl, hfree, -⟩ := addDevice_eq_ok he
  have hne : name ≠ e.name := fun heq => by rw [← heq, hs] at hfree; cases hfree
  rw [Table.get?_insert, if_neg hne, hs]

/-- A device that is new comes from a record, and is the first with its name and its id. -/
theorem takeDevices_new (hnew : r.byName.get? d.name = none) {ds : List Device}
    (h : (r.takeDevices ds).byName.get? d.name = some d) :
    r.nameById.get? d.id = none ∧ ∃ i, ds[i]? = some d ∧ RecordOf ds d i := by
  induction ds generalizing r with
  | nil =>
    change r.byName.get? d.name = some d at h
    rw [hnew] at h
    cases h
  | cons e ds ih =>
    rw [takeDevices_cons] at h
    have hbehind : (∃ i, ds[i]? = some d ∧ RecordOf ds d i) →
        (e.name = d.name → e.id ≠ d.id) → ∃ i, (e :: ds)[i]? = some d ∧ RecordOf (e :: ds) d i := by
      rintro ⟨i, hi, hfirst⟩ he
      refine ⟨i + 1, hi, fun hmem => ?_⟩
      rcases List.mem_cons.1 hmem with hsame | hmem
      · exact he (congrArg Prod.fst hsame).symm (congrArg Prod.snd hsame).symm
      · exact hfirst hmem
    rcases r.addDevice_cases e with ⟨hsame, htaken⟩ | ⟨hadded, -, hid⟩
    · rw [hsame] at h
      obtain ⟨hfree, hrecord⟩ := ih hnew h
      refine ⟨hfree, hbehind hrecord fun hname hsameId => ?_⟩
      rw [hname, hsameId] at htaken
      exact htaken.elim (absurd hnew) (absurd hfree)
    · rw [hadded] at h
      by_cases hname : d.name = e.name
      · have hhere : ({ r with
            nameById := r.nameById.insert e.id e.name
            byName := r.byName.insert e.name e } : Registry).byName.get? d.name = some e := by
          simp [hname]
        obtain rfl : e = d := Option.some.inj ((byName_takeDevices hhere ds).symm.trans h)
        exact ⟨hid, 0, rfl, by simp [RecordOf]⟩
      · obtain ⟨hfree, hrecord⟩ := ih (by rw [Table.get?_insert, if_neg hname, hnew]) h
        rw [Table.get?_insert] at hfree
        split at hfree
        · cases hfree
        · exact ⟨hfree, hbehind hrecord fun heq => absurd heq.symm hname⟩

end Registry

end DeviceGateway
