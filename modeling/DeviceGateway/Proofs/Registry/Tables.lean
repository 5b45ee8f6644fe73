import DeviceGateway.Metadata.Source
import DeviceGateway.Proofs.Table

/-! The two device tables of a registry. From the empty registry on, whatever is
registered, changed and removed, they stay inverse to each other, so that names and
ids are both keys of the devices. -/

namespace DeviceGateway.Registry

/-! ### Reachable registries -/

/-- One successful operation of a registry. One that fails leaves the registry as it is. -/
inductive Step (r : Registry) : Registry → Prop
  | bootstrap {μ : Type} [MetadataSource μ] (source : μ) (service : String) :
    Step r (r.bootstrap source service).1
  | addDevice {d : Device} {r' : Registry} (h : r.addDevice d = .ok r') : Step r r'
  | updateDevice {d : Device} {r' : Registry} (h : r.updateDevice d = .ok r') : Step r r'
  | removeDevice {name : String} {d : Device} {r' : Registry}
    (h : r.removeDevice name = .ok (d, r')) : Step r r'
  | updateAdminState {id : String} {s : AdminState} {r' : Registry}
    (h : r.updateAdminState id s = .ok r') : Step r r'
  | updateOperatingState {name : String} {s : OperatingState} {r' : Registry}
    (h : r.updateOperatingState name s = .ok r') : Step r r'
  | addProfile {p : Profile} {r' : Registry} (h : r.addProfile p = .ok r') : Step r r'
  | updateProfile {p : Profile} {r' : Registry} (h : r.updateProfile p = .ok r') : Step r r'
  | removeProfile {name : String} {p : Profile} {r' : Registry}
    (h : r.removeProfile name = .ok (p, r')) : Step r r'

/-- What comes of the empty registry by any operations in any order. -/
inductive Reachable : Registry → Prop
  | empty : Reachable .empty
  | step {r r' : Registry} (h : Reachable r) (hs : r.Step r') : Reachable r'

/-! ### Records that are taken one after the other -/

theorem takeProfiles_cons (r : Registry) (p : Profile) (ps : List Profile) :
    r.takeProfiles (p :: ps) = ((r.addProfile p).toOption.getD r).takeProfiles ps := rfl

theorem takeDevices_cons (r : Registry) (d : Device) (ds : List Device) :
    r.takeDevices (d :: ds) = ((r.addDevice d).toOption.getD r).takeDevices ds := rfl

/-- A device that is added is new by name and by id. -/
theorem addDevice_eq_ok {r r' : Registry} {d : Device} (h : r.addDevice d = .ok r') :
    r' = { r with
      nameById := r.nameById.insert d.id d.name
      byName := r.byName.insert d.name d } ∧
    r.byName.get? d.name = none ∧ r.nameById.get? d.id = none := by
  unfold addDevice at h
  split at h
  · cases h
  · next hname =>
    split at h <;> cases h
    next hid => exact ⟨rfl, Table.contains_eq_false hname, Table.contains_eq_false hid⟩

/-- What outlives every record that is accepted outlives all that are offered. -/
theorem foldl_accepted {α : Type} {P : Registry → Prop}
    {accept : Registry → α → Except GatewayError Registry}
    (hstep : ∀ r r' a, P r → accept r a = .ok r' → P r') {r : Registry} (h : P r) (as : List α) :
    P (as.foldl (fun r a => (accept r a).toOption.getD r) r) := by
  induction as generalizing r with
  | nil => exact h
  | cons a as ih =>
    rw [List.foldl_cons]
    refine ih ?_
    cases ha : accept r a with
    | error e => exact h
    | ok r' => exact hstep r r' a h ha

/-! ### Consistent tables -/

/-- The device tables are inverse to each other. -/
structure Consistent (r : Registry) : Prop where
  /-- A device is kept under its own name, to which its id leads. -/
  named : ∀ n d, r.byName.get? n = some d → d.name = n ∧ r.nameById.get? d.id = some n
  /-- An id leads to the name of a device with that id. -/
  identified : ∀ i n, r.nameById.get? i = some n → ∃ d, r.byName.get? n = some d ∧ d.id = i

namespace Consistent

variable {r r' : Registry}

theorem empty : Consistent .empty :=
  ⟨fun n d h => by simp [Registry.empty] at h, fun i n h => by simp [Registry.empty] at h⟩

/-- Consistency is a matter of the device tables alone. -/
theorem congr (h : r.Consistent) (hn : r'.byName = r.byName) (hi : r'.nameById = r.nameById) :
    r'.Consistent :=
  ⟨by rw [hn, hi]; exact h.named, by rw [hn, hi]; exact h.identified⟩

/-- A device under a free name and a free id. -/
theorem insert (h : r.Consistent) (d : Device) (hn : r.byName.get? d.name = none)
    (hi : r.nameById.get? d.id = none) :
    Consistent { r with
      nameById := r.nameById.insert d.id d.name
      byName := r.byName.insert d.name d } := by
  constructor
  · intro n e he
    rw [Table.get?_insert] at he ⊢
    split at he
    · next hk =>
      obtain rfl := Option.some.inj he
      exact ⟨hk.symm, by rw [if_pos rfl, hk]⟩
    · obtain ⟨hname, hid⟩ := h.named n e he
      have hne : e.id ≠ d.id := fun heq => by rw [heq, hi] at hid; cases hid
      exact ⟨hname, by rw [if_neg hne, hid]⟩
  · intro i n hin
    rw [Table.get?_insert] at hin
    split at hin
    · next hk =>
      obtain rfl := Option.some.inj hin
      exact ⟨d, Table.get?_insert_self .., hk.symm⟩
    · obtain ⟨e, he, hid⟩ := h.identified i n hin
      have hne : n ≠ d.name := fun heq => by rw [heq, hn] at he; cases he
      exact ⟨e, by rw [Table.get?_insert, if_neg hne, he], hid⟩

/-- A device with its id taken out. -/
theorem erase (h : r.Consistent) {d : Device} {n : String} (hd : r.byName.get? n = some d) :
    Consistent { r with byName := r.byName.erase n, nameById := r.nameById.erase d.id } := by
  obtain ⟨rfl, hid⟩ := h.named n d hd
  constructor
  · intro m e he
    rw [Table.get?_erase] at he ⊢
    split at he
    · cases he
    · next hm =>
      obtain ⟨hname, heid⟩ := h.named m e he
      have hne : e.id ≠ d.id := fun heq => by
        rw [heq, hid] at heid
        exact hm (Option.some.inj heid).symm
      exact ⟨hname, by rw [if_neg hne, heid]⟩
  · intro i m him
    rw [Table.get?_erase] at him
    split at him
    · cases him
    · next hi =>
      obtain ⟨e, he, rfl⟩ := h.identified i m him
      have hne : m ≠ d.name := fun heq => by
        rw [heq, hd] at he
        exact hi (congrArg Device.id (Option.some.inj he)).symm
      exact ⟨e, by rw [Table.get?_erase, if_neg hne, he], rfl⟩

/-- A device in place of one with its name and id. -/
theorem replace (h : r.Consistent) {d e : Device} {n : String} (hd : r.byName.get? n = some d)
    (hname : e.name = d.name) (hid : e.id = d.id) :
    Consistent { r with byName := r.byName.insert n e } := by
  obtain ⟨rfl, hdid⟩ := h.named n d hd
  constructor
  · intro m f hf
    rw [Table.get?_insert] at hf
    split at hf
    · next hm =>
      obtain rfl := Option.some.inj hf
      exact ⟨hname.trans hm.symm, by rw [hid, hdid, hm]⟩
    · exact h.named m f hf
  · intro i m him
    obtain ⟨f, hf, rfl⟩ := h.identified i m him
    by_cases hm : m = d.name
    · subst hm
      obtain rfl : d = f := Option.some.inj (hd.symm.trans hf)
      exact ⟨e, Table.get?_insert_self .., hid⟩
    · exact ⟨f, by rw [Table.get?_insert, if_neg hm, hf], rfl⟩

/-! ### What each operation keeps -/

theorem addDevice (h : r.Consistent) {d : Device} (hd : r.addDevice d = .ok r') :
    r'.Consistent := by
  obtain ⟨rfl, hname, hid⟩ := addDevice_eq_ok hd
  exact h.insert d hname hid

/-- A new id frees the old one: the device is taken out and put in again. -/
theorem updateDevice (h : r.Consistent) {d : Device} (hd : r.updateDevice d = .ok r') :
    r'.Consistent := by
  unfold Registry.updateDevice at hd
  split at hd
  · cases hd
  · next old hold =>
    have hname := (h.named _ _ hold).1
    split at hd
    · next hid =>
      cases hd
      exact h.replace hold hname.symm hid.symm
    · next hid =>
      split at hd
      · cases hd
      · next hi =>
        cases hd
        have hfree : (r.nameById.erase old.id).get? d.id = none := by
          rw [Table.get?_erase, Table.contains_eq_false hi, ite_self]
        have hgone : (r.byName.erase d.name).get? d.name = none := by
          rw [Table.get?_erase, if_pos rfl]
        have hput := (h.erase hold).insert d hgone hfree
        constructor
        · intro n e he
          exact hput.named n e (by rw [Table.get?_insert_erase]; exact he)
        · intro i n hin
          obtain ⟨e, he, hie⟩ := hput.identified i n hin
          rw [Table.get?_insert_erase] at he
          exact ⟨e, he, hie⟩

theorem removeDevice (h : r.Consistent) {name : String} {d : Device}
    (hd : r.removeDevice name = .ok (d, r')) : r'.Consistent := by
  unfold Registry.removeDevice at hd
  split at hd
  · cases hd
  · next hold =>
    cases hd
    exact h.erase hold

theorem updateAdminState (h : r.Consistent) {id : String} {s : AdminState}
    (hs : r.updateAdminState id s = .ok r') : r'.Consistent := by
  unfold Registry.updateAdminState at hs
  split at hs
  · cases hs
  · split at hs
    · cases hs
      exact h
    · next hd =>
      cases hs
      exact h.replace hd rfl rfl

theorem updateOperatingState (h : r.Consistent) {name : String} {s : OperatingState}
    (hs : r.updateOperatingState name s = .ok r') : r'.Consistent := by
  unfold Registry.updateOperatingState at hs
  split at hs
  · cases hs
  · next hd =>
    cases hs
    exact h.replace hd rfl rfl

theorem addProfile (h : r.Consistent) {p : Profile} (hp : r.addProfile p = .ok r') :
    r'.Consistent := by
  unfold Registry.addProfile at hp
  split at hp <;> cases hp
  exact h.congr rfl rfl

theorem updateProfile (h : r.Consistent) {p : Profile} (hp : r.updateProfile p = .ok r') :
    r'.Consistent := by
  unfold Registry.updateProfile at hp
  split at hp <;> cases hp
  exact h.congr rfl rfl

theorem removeProfile (h : r.Consistent) {name : String} {p : Profile}
    (hp : r.removeProfile name = .ok (p, r')) : r'.Consistent := by
  unfold Registry.removeProfile at hp
  split at hp <;> cases hp
  exact h.congr rfl rfl

theorem takeProfiles (h : r.Consistent) (ps : List Profile) : (r.takeProfiles ps).Consistent :=
  foldl_accepted (fun _ _ _ hr hp => hr.addProfile hp) h ps

theorem takeDevices (h : r.Consistent) (ds : List Device) : (r.takeDevices ds).Consistent :=
  foldl_accepted (fun _ _ _ hr hd => hr.addDevice hd) h ds

theorem bootstrap {μ : Type} [MetadataSource μ] (h : r.Consistent) (source : μ)
    (service : String) : (r.bootstrap source service).1.Consistent := by
  unfold Registry.bootstrap
  split
  · exact h
  · exact ((h.takeProfiles _).takeDevices _).congr rfl rfl

theorem step (h : r.Consistent) (hs : r.Step r') : r'.Consistent := by
  cases hs with
  | bootstrap source service => exact h.bootstrap source service
  | addDevice hd => exact h.addDevice hd
  | updateDevice hd => exact h.updateDevice hd
  | removeDevice hd => exact h.removeDevice hd
  | updateAdminState hd => exact h.updateAdminState hd
  | updateOperatingState hd => exact h.updateOperatingState hd
  | addProfile hp => exact h.addProfile hp
  | updateProfile hp => exact h.updateProfile hp
  | removeProfile hp => exact h.removeProfile hp

/-! ### What consistent tables give -/

theorem deviceByName_of_mem (h : r.Consistent) {d : Device} (hd : d ∈ r.devices) :
    r.byName.get? d.name = some d := by
  obtain ⟨n, hn⟩ := Table.mem_values.1 hd
  rw [(h.named n d hn).1, hn]

/-- No two devices share a name or an id. -/
theorem devices_distinct (h : r.Consistent) :
    r.devices.Pairwise fun d e => d.name ≠ e.name ∧ d.id ≠ e.id := by
  refine List.pairwise_map.2 (r.byName.ascending.imp_of_mem ?_)
  rintro ⟨n, d⟩ ⟨m, e⟩ hd he hlt
  obtain ⟨rfl, hdid⟩ := h.named n d (Table.get?_eq_some_iff.2 hd)
  obtain ⟨rfl, heid⟩ := h.named m e (Table.get?_eq_some_iff.2 he)
  have hne : d.name ≠ e.name := fun heq => String.lt_irrefl _ (heq ▸ hlt)
  refine ⟨hne, fun heq => hne ?_⟩
  rw [heq, heid] at hdid
  exact (Option.some.inj hdid).symm

theorem deviceById_of_mem (h : r.Consistent) {d : Device} (hd : d ∈ r.devices) :
    r.deviceById d.id = .ok d := by
  have hn := h.deviceByName_of_mem hd
  rw [Registry.deviceById, (h.named _ _ hn).2, Option.bind_some, hn]

/-- An id that is known leads to a device, whose state a change of state sets. -/
theorem deviceById_updateAdminState (h : r.Consistent) {id : String} {s : AdminState}
    (hs : r.updateAdminState id s = .ok r') :
    ∃ d, d.id = id ∧ r.deviceById id = .ok d ∧
      r'.deviceById id = .ok { d with adminState := s } := by
  unfold Registry.updateAdminState at hs
  split at hs
  · cases hs
  · next name hid =>
    obtain ⟨d, hd, hdid⟩ := h.identified id name hid
    rw [hd] at hs
    cases hs
    refine ⟨d, hdid, ?_, ?_⟩
    · rw [Registry.deviceById, hid, Option.bind_some, hd]
    · rw [Registry.deviceById, hid, Option.bind_some, Table.get?_insert_self]

end Consistent

/-! ### Reachable registries are consistent -/

theorem Reachable.consistent {r : Registry} (h : r.Reachable) : r.Consistent := by
  induction h with
  | empty => exact .empty
  | step _ hs ih => exact ih.step hs

/-- In a reachable registry the device tables are inverse to each other: names and ids
are keys, either of them finds every device, and a new admin state that is accepted is
one that a device has. -/
theorem Reachable.device_tables_inverse {r : Registry} (h : r.Reachable) :
    r.Consistent ∧
    (r.devices.Pairwise fun d e => d.name ≠ e.name ∧ d.id ≠ e.id) ∧
    (∀ d ∈ r.devices, r.deviceById d.id = .ok d ∧ r.deviceByName d.name = .ok d) ∧
    ∀ id s r', r.updateAdminState id s = .ok r' →
      ∃ d, d.id = id ∧ r.deviceById id = .ok d ∧
        r'.deviceById id = .ok { d with adminState := s } := by
  have hc := h.consistent
  refine ⟨hc, hc.devices_distinct, fun d hd => ⟨hc.deviceById_of_mem hd, ?_⟩, ?_⟩
  · rw [deviceByName, hc.deviceByName_of_mem hd]
  · intro id s r' hs
    exact hc.deviceById_updateAdminState hs

/-- Three devices, of which the last takes the id that the first has given up. -/
theorem device_tables_inverse_renumbered :
    ∃ r r' : Registry, r.Reachable ∧
      r.devices.map (fun d => (d.name, d.id)) = [("a", "3"), ("b", "2"), ("c", "1")] ∧
      r.updateAdminState "1" .locked = .ok r' ∧
      r.Consistent ∧ ∃ d, d.id = "1" ∧ r.deviceById "1" = .ok d ∧
        r'.deviceById "1" = .ok { d with adminState := .locked } := by
  let source : FixedSource := { devices := [
    { id := "1", name := "a", profile := "" }, { id := "2", name := "b", profile := "" },
    { id := "1", name := "c", profile := "" }] }
  obtain ⟨r, r', h, hn, hs⟩ : ∃ r r' : Registry, r.Reachable ∧
      r.devices.map (fun d => (d.name, d.id)) = [("a", "3"), ("b", "2"), ("c", "1")] ∧
      r.updateAdminState "1" .locked = .ok r' :=
    ⟨_, _, .step (.step (.step .empty (.bootstrap source "gateway"))
      (.updateDevice (d := { id := "3", name := "a", profile := "" }) rfl))
      (.addDevice (d := { id := "1", name := "c", profile := "" }) rfl), rfl, rfl⟩
  obtain ⟨hc, -, -, hset⟩ := h.device_tables_inverse
  exact ⟨r, r', h, hn, hs, hc, hset _ _ _ hs⟩

end DeviceGateway.Registry
