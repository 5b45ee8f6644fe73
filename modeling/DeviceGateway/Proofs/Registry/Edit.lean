import DeviceGateway.Proofs.Except
import DeviceGateway.Proofs.Registry.Profiles

/-! Changes of one device or one profile. A change is also described as a procedure that works on
the tables in place, where what is done before a failure stays done: that never happens, since all
checks go before all changes. A change that succeeds shows in the look-ups that it is about and
in no others. -/

namespace DeviceGateway

/-- A request that changes one device or one profile of a registry. -/
inductive Edit where
  | addDevice (d : Device)
  | updateDevice (d : Device)
  | removeDevice (name : String)
  | updateAdminState (id : String) (state : AdminState)
  | updateOperatingState (name : String) (state : OperatingState)
  | addProfile (p : Profile)
  | updateProfile (p : Profile)
  | removeProfile (name : String)

/-- What a request gives back: what it has removed. -/
inductive Edit.Result where
  | nothing
  | device (d : Device)
  | profile (p : Profile)

open Edit (Result)

/-- What a request gives back, and the registry after it. -/
def Registry.edit (r : Registry) : Edit → Except GatewayError (Result × Registry)
  | .addDevice d => (r.addDevice d).map (.nothing, ·)
  | .updateDevice d => (r.updateDevice d).map (.nothing, ·)
  | .removeDevice name => (r.removeDevice name).map fun (d, r) => (.device d, r)
  | .updateAdminState id state => (r.updateAdminState id state).map (.nothing, ·)
  | .updateOperatingState name state => (r.updateOperatingState name state).map (.nothing, ·)
  | .addProfile p => (r.addProfile p).map (.nothing, ·)
  | .updateProfile p => (r.updateProfile p).map (.nothing, ·)
  | .removeProfile name => (r.removeProfile name).map fun (p, r) => (.profile p, r)

namespace Edit

/-! ### In place -/

/-- A procedure that works on a registry in place. What it has changed before it fails stays
changed. -/
abbrev Procedure (α : Type) := ExceptT GatewayError (StateM Registry) α

def setName (name : String) (d : Device) : Procedure Unit :=
  modify fun r => { r with byName := r.byName.insert name d }

def dropName (name : String) : Procedure Unit :=
  modify fun r => { r with byName := r.byName.erase name }

def setId (id name : String) : Procedure Unit :=
  modify fun r => { r with nameById := r.nameById.insert id name }

def dropId (id : String) : Procedure Unit :=
  modify fun r => { r with nameById := r.nameById.erase id }

def setProfile (p : Profile) : Procedure Unit :=
  modify fun r => { r with catalogues := r.catalogues.insert p.name (.ofProfile p) }

def dropProfile (name : String) : Procedure Unit :=
  modify fun r => { r with catalogues := r.catalogues.erase name }

/-- The request carried out one table after the other. -/
def inPlace : Edit → Procedure Result
  | .addDevice d => do
    if (← get).byName.contains d.name then throw (.alreadyExists ("device " ++ d.name))
    if (← get).nameById.contains d.id then throw (.alreadyExists ("device id " ++ d.id))
    setId d.id d.name
    setName d.name d
    return .nothing
  | .updateDevice d => do
    let some old := (← get).byName.get? d.name | throw (.deviceNotFound d.name)
    if old.id ≠ d.id then
      if (← get).nameById.contains d.id then throw (.alreadyExists ("device id " ++ d.id))
      dropId old.id
      setId d.id d.name
    setName d.name d
    return .nothing
  | .removeDevice name => do
    let some d := (← get).byName.get? name | throw (.deviceNotFound name)
    dropName name
    dropId d.id
    return .device d
  | .updateAdminState id state => do
    let some name := (← get).nameById.get? id | throw (.deviceNotFound id)
    if let some d := (← get).byName.get? name then
      setName name { d with adminState := state }
    return .nothing
  | .updateOperatingState name state => do
    let some d := (← get).byName.get? name | throw (.deviceNotFound name)
    setName name { d with operatingState := state }
    return .nothing
  | .addProfile p => do
    if (← get).catalogues.contains p.name then throw (.alreadyExists ("profile " ++ p.name))
    setProfile p
    return .nothing
  | .updateProfile p => do
    if !(← get).catalogues.contains p.name then throw (.profileNotFound p.name)
    setProfile p
    return .nothing
  | .removeProfile name => do
    let some c := (← get).catalogues.get? name | throw (.profileNotFound name)
    dropProfile name
    return .profile c.profile

/-- What the procedure gives back or fails with, and the registry that it leaves. -/
def perform (e : Edit) (r : Registry) : Except GatewayError Result × Registry :=
  e.inPlace.run.run r

theorem run_bind_get {α : Type} (f : Registry → Procedure α) (r : Registry) :
    (get >>= f : Procedure α).run.run r = (f r).run.run r := rfl

/-- The procedure leaves the registry alone when it fails, and the changed one else. -/
theorem perform_eq (e : Edit) (r : Registry) : e.perform r =
    match r.edit e with
    | .ok (x, r') => (.ok x, r')
    | .error fault => (.error fault, r) := by
  cases e with
  | addDevice d =>
    simp only [perform, inPlace, Registry.edit, Registry.addDevice, run_bind_get]
    cases r.byName.contains d.name with
    | true => rfl
    | false =>
      simp only [Bool.false_eq_true, if_false, run_bind_get]
      cases r.nameById.contains d.id <;> rfl
  | updateDevice d =>
    simp only [perform, inPlace, Registry.edit, Registry.updateDevice, run_bind_get]
    cases r.byName.get? d.name with
    | none => rfl
    | some old =>
      by_cases hid : old.id = d.id
      · simp only [hid, ne_eq, not_true_eq_false, if_false, if_true]
        rfl
      · simp only [hid, ne_eq, not_false_eq_true, if_false, if_true, run_bind_get]
        cases r.nameById.contains d.id <;> rfl
  | removeDevice name =>
    simp only [perform, inPlace, Registry.edit, Registry.removeDevice, run_bind_get]
    cases r.byName.get? name <;> rfl
  | updateAdminState id state =>
    simp only [perform, inPlace, Registry.edit, Registry.updateAdminState, run_bind_get]
    cases r.nameById.get? id with
    | none => rfl
    | some name =>
      simp only [run_bind_get]
      cases r.byName.get? name <;> rfl
  | updateOperatingState name state =>
    simp only [perform, inPlace, Registry.edit, Registry.updateOperatingState, run_bind_get]
    cases r.byName.get? name <;> rfl
  | addProfile p =>
    simp only [perform, inPlace, Registry.edit, Registry.addProfile, run_bind_get]
    cases r.catalogues.contains p.name <;> rfl
  | updateProfile p =>
    simp only [perform, inPlace, Registry.edit, Registry.updateProfile, run_bind_get]
    cases r.catalogues.contains p.name <;> rfl
  | removeProfile name =>
    simp only [perform, inPlace, Registry.edit, Registry.removeProfile, run_bind_get]
    cases r.catalogues.get? name <;> rfl

end Edit

namespace Registry

variable {r r' : Registry}

/-! ### Look-ups -/

/-- What a look-up answers that has found a device, or none under the key. -/
def found (key : String) : Option Device → Except GatewayError Device
  | some d => .ok d
  | none => .error (.deviceNotFound key)

/-- The device that an id leads to. -/
def byId? (r : Registry) (id : String) : Option Device := (r.nameById.get? id).bind r.byName.get?

theorem deviceByName_eq (r : Registry) (name : String) :
    r.deviceByName name = found name (r.byName.get? name) := by
  unfold deviceByName
  cases r.byName.get? name <;> rfl

theorem deviceById_eq (r : Registry) (id : String) : r.deviceById id = found id (r.byId? id) := by
  unfold deviceById byId?
  cases (r.nameById.get? id).bind r.byName.get? <;> rfl

theorem found_eq_ok {key : String} {d? : Option Device} {d : Device} :
    found key d? = .ok d ↔ d? = some d := by
  cases d? <;> simp [found]

theorem deviceByName_eq_ok {name : String} {d : Device} :
    r.deviceByName name = .ok d ↔ r.byName.get? name = some d := by
  rw [deviceByName_eq, found_eq_ok]

theorem deviceById_eq_ok {id : String} {d : Device} :
    r.deviceById id = .ok d ↔ r.byId? id = some d := by
  rw [deviceById_eq, found_eq_ok]

/-- By its id a device is found that is found by its name. -/
theorem Consistent.byId?_eq_some (h : r.Consistent) {id : String} {d : Device} :
    r.byId? id = some d ↔ r.byName.get? d.name = some d ∧ d.id = id := by
  unfold byId?
  rw [Option.bind_eq_some_iff]
  constructor
  · rintro ⟨name, hid, hd⟩
    obtain ⟨e, he, hename⟩ := h.identified id name hid
    obtain rfl : d = e := Option.some.inj (hd.symm.trans he)
    rw [(h.named name d hd).1]
    exact ⟨hd, hename⟩
  · rintro ⟨hd, rfl⟩
    exact ⟨d.name, (h.named d.name d hd).2, hd⟩

/-- An id is taken exactly if it leads to a device. -/
theorem Consistent.nameById_isSome (h : r.Consistent) (id : String) :
    (r.nameById.get? id).isSome ↔ ∃ d, r.byId? id = some d := by
  unfold byId?
  cases hid : r.nameById.get? id with
  | none => simp
  | some name =>
    obtain ⟨d, hd, -⟩ := h.identified id name hid
    simp [hd]

theorem deviceByName_ne_ok {name : String} :
    (∀ f, r.deviceByName name ≠ .ok f) ↔ r.byName.get? name = none := by
  simp only [ne_eq, deviceByName_eq_ok, Option.eq_none_iff_forall_ne_some]

theorem Consistent.deviceById_ne_ok (h : r.Consistent) {id : String} :
    (∀ f, r.deviceById id ≠ .ok f) ↔ r.nameById.get? id = none := by
  rw [← Option.not_isSome_iff_eq_none, h.nameById_isSome]
  simp only [ne_eq, deviceById_eq_ok, not_exists]

theorem profileByName_ne_ok {name : String} :
    (∀ p, r.profileByName name ≠ .ok p) ↔ r.catalogues.get? name = none := by
  unfold profileByName catalogue
  cases r.catalogues.get? name <;> simp [Except.map]

theorem profileByName_of_get? {name : String} {c : Catalogue}
    (hc : r.catalogues.get? name = some c) : r.profileByName name = .ok c.profile := by
  simp only [profileByName, catalogue, hc, Except.map]

/-! ### Changes of a device -/

/-- Under the name there was `old?`, and there is `new?` now. It is found by its name and its id;
by its old id the old one is found no more. All else is found as before. -/
structure Swaps (r r' : Registry) (name : String) (old? new? : Option Device) : Prop where
  old : r.deviceByName name = found name old?
  byName : ∀ n, r'.deviceByName n = if n = name then found n new? else r.deviceByName n
  byId : ∀ i, r'.deviceById i =
    if new?.any (·.id = i) then found i new?
    else if old?.any (·.id = i) then .error (.deviceNotFound i)
    else r.deviceById i
  profiles : r'.catalogues = r.catalogues
  initialized : r'.initialized = r.initialized

/-- What an id leads to after a change of the device under a name: the names say it all. -/
theorem Consistent.byId?_swap (h : r.Consistent) (h' : r'.Consistent) {name : String}
    {old? new? : Option Device} (hold : r.byName.get? name = old?)
    (hnew : ∀ n, r'.byName.get? n = if n = name then new? else r.byName.get? n) (id : String) :
    r'.byId? id = if new?.any (·.id = id) then new?
      else if old?.any (·.id = id) then none else r.byId? id := by
  have hhere : r'.byName.get? name = new? := by rw [hnew, if_pos rfl]
  split
  · next hany =>
    obtain ⟨e, rfl, hid⟩ := (Option.any_eq_true _ _).1 hany
    have hname := (h'.named name e hhere).1
    exact h'.byId?_eq_some.2 ⟨by rw [hname, hhere], by simpa using hid⟩
  · next hother =>
    have hnotnew : ∀ d : Device, d.id = id → new? ≠ some d := by
      rintro d hid rfl
      exact hother (by simpa using hid)
    ext d
    split
    · next hany =>
      obtain ⟨e, rfl, hid⟩ := (Option.any_eq_true _ _).1 hany
      have hename := (h.named name e hold).1
      have he : r.byId? id = some e :=
        h.byId?_eq_some.2 ⟨by rw [hename, hold], by simpa using hid⟩
      rw [h'.byId?_eq_some, hnew]
      simp only [reduceCtorEq, iff_false, not_and]
      intro hd hdid
      split at hd
      · exact hnotnew d hdid hd
      · next hne =>
        have hsame : r.byId? id = some d := h.byId?_eq_some.2 ⟨hd, hdid⟩
        rw [he] at hsame
        cases hsame
        exact hne hename
    · next hother' =>
      rw [h'.byId?_eq_some, h.byId?_eq_some, hnew]
      refine and_congr_left fun hdid => ?_
      split
      · next hn =>
        have hnotold : old? ≠ some d := by
          rintro rfl
          exact hother' (by simpa using hdid)
        rw [hn, hold]
        simp [hnotnew d hdid, hnotold]
      · rfl

theorem Consistent.swaps (h : r.Consistent) (h' : r'.Consistent) {name : String}
    {old? new? : Option Device} (hold : r.byName.get? name = old?)
    (hnew : ∀ n, r'.byName.get? n = if n = name then new? else r.byName.get? n)
    (hprofiles : r'.catalogues = r.catalogues) (hinitialized : r'.initialized = r.initialized) :
    r.Swaps r' name old? new? := by
  refine ⟨by rw [deviceByName_eq, hold], fun n => ?_, fun i => ?_, hprofiles, hinitialized⟩
  · rw [deviceByName_eq, deviceByName_eq, hnew]
    split
    · next hn => rw [hn]
    · rfl
  · rw [deviceById_eq, deviceById_eq, h.byId?_swap h' hold hnew]
    split
    · rfl
    · split <;> rfl

/-! ### Changes of a profile -/

/-- Under the name of a profile something else may be found; all else is found as before. -/
structure SwapsProfile (r r' : Registry) (name : String) : Prop where
  others : ∀ n, n ≠ name → r.SameProfile r' n
  byName : r'.byName = r.byName
  nameById : r'.nameById = r.nameById
  initialized : r'.initialized = r.initialized

theorem swapsProfile_put (r : Registry) (p : Profile) : r.SwapsProfile (r.putProfile p) p.name := by
  refine ⟨fun n hn => .of_get?_eq ?_, rfl, rfl, rfl⟩
  rw [putProfile, Table.get?_insert, if_neg hn]

theorem shows_put (r : Registry) (p : Profile) : (r.putProfile p).Shows p.name p :=
  .of_catalogue (by rw [putProfile, Table.get?_insert_self])

theorem swapsProfile_erase (r : Registry) (name : String) :
    r.SwapsProfile { r with catalogues := r.catalogues.erase name } name := by
  refine ⟨fun n hn => .of_get?_eq ?_, rfl, rfl, rfl⟩
  rw [Table.get?_erase, if_neg hn]

theorem lacks_erase (r : Registry) (name : String) :
    Lacks { r with catalogues := r.catalogues.erase name } name :=
  .of_catalogue (by rw [Table.get?_erase, if_pos rfl])

end Registry

namespace Edit

variable {r r' : Registry}

/-! ### Failure and success -/

/-- Why a request fails. A name or an id is taken or absent as look-ups say before it. -/
inductive Fails (r : Registry) : Edit → GatewayError → Prop
  | nameTaken {d e : Device} (h : r.deviceByName d.name = .ok e) :
    Fails r (.addDevice d) (.alreadyExists ("device " ++ d.name))
  | idTaken {d e : Device} (hname : ∀ f, r.deviceByName d.name ≠ .ok f)
    (h : r.deviceById d.id = .ok e) :
    Fails r (.addDevice d) (.alreadyExists ("device id " ++ d.id))
  | noDevice {d : Device} (h : ∀ f, r.deviceByName d.name ≠ .ok f) :
    Fails r (.updateDevice d) (.deviceNotFound d.name)
  /-- The id is that of another device. -/
  | idElsewhere {d old e : Device} (hold : r.deviceByName d.name = .ok old)
    (h : r.deviceById d.id = .ok e) (hother : e.name ≠ d.name) :
    Fails r (.updateDevice d) (.alreadyExists ("device id " ++ d.id))
  | noneToRemove {name : String} (h : ∀ f, r.deviceByName name ≠ .ok f) :
    Fails r (.removeDevice name) (.deviceNotFound name)
  | noId {id : String} {state : AdminState} (h : ∀ f, r.deviceById id ≠ .ok f) :
    Fails r (.updateAdminState id state) (.deviceNotFound id)
  | noName {name : String} {state : OperatingState} (h : ∀ f, r.deviceByName name ≠ .ok f) :
    Fails r (.updateOperatingState name state) (.deviceNotFound name)
  | profileTaken {p q : Profile} (h : r.profileByName p.name = .ok q) :
    Fails r (.addProfile p) (.alreadyExists ("profile " ++ p.name))
  | noProfile {p : Profile} (h : ∀ q, r.profileByName p.name ≠ .ok q) :
    Fails r (.updateProfile p) (.profileNotFound p.name)
  | noProfileToRemove {name : String} (h : ∀ q, r.profileByName name ≠ .ok q) :
    Fails r (.removeProfile name) (.profileNotFound name)

/-- What a request that succeeds gives back and what it makes of the registry. -/
inductive Succeeds (r r' : Registry) : Edit → Result → Prop
  | addDevice {d : Device} (h : r.Swaps r' d.name none (some d)) :
    Succeeds r r' (.addDevice d) .nothing
  | updateDevice {d old : Device} (h : r.Swaps r' d.name (some old) (some d)) :
    Succeeds r r' (.updateDevice d) .nothing
  | removeDevice {name : String} {d : Device} (h : r.Swaps r' name (some d) none) :
    Succeeds r r' (.removeDevice name) (.device d)
  | updateAdminState {id : String} {state : AdminState} {d : Device}
    (hd : r.deviceById id = .ok d)
    (h : r.Swaps r' d.name (some d) (some { d with adminState := state })) :
    Succeeds r r' (.updateAdminState id state) .nothing
  | updateOperatingState {name : String} {state : OperatingState} {d : Device}
    (h : r.Swaps r' name (some d) (some { d with operatingState := state })) :
    Succeeds r r' (.updateOperatingState name state) .nothing
  | addProfile {p : Profile} (h : r.SwapsProfile r' p.name) (hp : r'.Shows p.name p) :
    Succeeds r r' (.addProfile p) .nothing
  | updateProfile {p : Profile} (h : r.SwapsProfile r' p.name) (hp : r'.Shows p.name p) :
    Succeeds r r' (.updateProfile p) .nothing
  | removeProfile {name : String} {p : Profile} (hp : r.profileByName name = .ok p)
    (h : r.SwapsProfile r' name) (hgone : r'.Lacks name) :
    Succeeds r r' (.removeProfile name) (.profile p)

theorem Succeeds.initialized {e : Edit} {x : Result} (h : e.Succeeds r r' x) :
    r'.initialized = r.initialized := by
  cases h with
  | addDevice h | updateDevice h | removeDevice h | updateAdminState _ h
  | updateOperatingState h => exact h.initialized
  | addProfile h | updateProfile h | removeProfile _ h => exact h.initialized

/-! ### What requests come to -/

/-- A request comes to a failure for one of its reasons, or to a success that its look-ups show
as far as the device tables stay inverse to each other. -/
def Comes (r : Registry) (e : Edit) : Except GatewayError (Result × Registry) → Prop
  | .error fault => e.Fails r fault
  | .ok (x, r') => r'.Consistent → e.Succeeds r r' x

theorem comes_addDevice (h : r.Consistent) (d : Device) :
    Comes r (.addDevice d) (r.edit (.addDevice d)) := by
  simp only [Registry.edit, Registry.addDevice]
  split
  · next hname =>
    obtain ⟨e, he⟩ := Option.isSome_iff_exists.1 hname
    exact .nameTaken (Registry.deviceByName_eq_ok.2 he)
  · next hname =>
    have hfree : r.byName.get? d.name = none := Table.contains_eq_false hname
    split
    · next hid =>
      obtain ⟨e, he⟩ := (h.nameById_isSome d.id).1 hid
      exact .idTaken (Registry.deviceByName_ne_ok.2 hfree) (Registry.deviceById_eq_ok.2 he)
    · exact fun h' => .addDevice (h.swaps h' hfree (Table.get?_insert _ _ · _) rfl rfl)

theorem comes_updateDevice (h : r.Consistent) (d : Device) :
    Comes r (.updateDevice d) (r.edit (.updateDevice d)) := by
  simp only [Registry.edit, Registry.updateDevice]
  split
  · next hnone => exact .noDevice (Registry.deviceByName_ne_ok.2 hnone)
  · next old hold =>
    split
    · exact fun h' => .updateDevice (h.swaps h' hold (Table.get?_insert _ _ · _) rfl rfl)
    · next hid =>
      split
      · next htaken =>
        obtain ⟨e, he⟩ := (h.nameById_isSome d.id).1 htaken
        refine .idElsewhere (Registry.deviceByName_eq_ok.2 hold)
          (Registry.deviceById_eq_ok.2 he) fun hname => hid ?_
        obtain ⟨hsame, heid⟩ := h.byId?_eq_some.1 he
        rw [hname, hold] at hsame
        cases hsame
        exact heid
      · exact fun h' => .updateDevice (h.swaps h' hold (Table.get?_insert _ _ · _) rfl rfl)

theorem comes_removeDevice (h : r.Consistent) (name : String) :
    Comes r (.removeDevice name) (r.edit (.removeDevice name)) := by
  simp only [Registry.edit, Registry.removeDevice]
  split
  · next hnone => exact .noneToRemove (Registry.deviceByName_ne_ok.2 hnone)
  · next d hd => exact fun h' => .removeDevice (h.swaps h' hd (Table.get?_erase _ _ ·) rfl rfl)

theorem comes_updateAdminState (h : r.Consistent) (id : String) (state : AdminState) :
    Comes r (.updateAdminState id state) (r.edit (.updateAdminState id state)) := by
  simp only [Registry.edit, Registry.updateAdminState]
  split
  · next hnone => exact .noId (h.deviceById_ne_ok.2 hnone)
  · next name hid =>
    obtain ⟨d, hd, hdid⟩ := h.identified id name hid
    obtain ⟨rfl, -⟩ := h.named name d hd
    have hfound : r.deviceById id = .ok d :=
      Registry.deviceById_eq_ok.2 (h.byId?_eq_some.2 ⟨hd, hdid⟩)
    rw [hd]
    exact fun h' =>
      .updateAdminState hfound (h.swaps h' hd (Table.get?_insert _ _ · _) rfl rfl)

theorem comes_updateOperatingState (h : r.Consistent) (name : String) (state : OperatingState) :
    Comes r (.updateOperatingState name state) (r.edit (.updateOperatingState name state)) := by
  simp only [Registry.edit, Registry.updateOperatingState]
  split
  · next hnone => exact .noName (Registry.deviceByName_ne_ok.2 hnone)
  · next d hd =>
    exact fun h' => .updateOperatingState (h.swaps h' hd (Table.get?_insert _ _ · _) rfl rfl)

theorem comes_addProfile (r : Registry) (p : Profile) :
    Comes r (.addProfile p) (r.edit (.addProfile p)) := by
  simp only [Registry.edit, Registry.addProfile]
  split
  · next hname =>
    obtain ⟨c, hc⟩ := Option.isSome_iff_exists.1 hname
    exact .profileTaken (Registry.profileByName_of_get? hc)
  · exact fun _ => .addProfile (r.swapsProfile_put p) (r.shows_put p)

theorem comes_updateProfile (r : Registry) (p : Profile) :
    Comes r (.updateProfile p) (r.edit (.updateProfile p)) := by
  simp only [Registry.edit, Registry.updateProfile]
  split
  · exact fun _ => .updateProfile (r.swapsProfile_put p) (r.shows_put p)
  · next hname => exact .noProfile (Registry.profileByName_ne_ok.2 (Table.contains_eq_false hname))

theorem comes_removeProfile (r : Registry) (name : String) :
    Comes r (.removeProfile name) (r.edit (.removeProfile name)) := by
  simp only [Registry.edit, Registry.removeProfile]
  split
  · next hnone => exact .noProfileToRemove (Registry.profileByName_ne_ok.2 hnone)
  · next c hc =>
    exact fun _ => .removeProfile (Registry.profileByName_of_get? hc) (r.swapsProfile_erase name)
      (r.lacks_erase name)

theorem comes (h : r.Consistent) (e : Edit) : Comes r e (r.edit e) := by
  cases e with
  | addDevice d => exact comes_addDevice h d
  | updateDevice d => exact comes_updateDevice h d
  | removeDevice name => exact comes_removeDevice h name
  | updateAdminState id state => exact comes_updateAdminState h id state
  | updateOperatingState name state => exact comes_updateOperatingState h name state
  | addProfile p => exact comes_addProfile r p
  | updateProfile p => exact comes_updateProfile r p
  | removeProfile name => exact comes_removeProfile r name

/-- The reasons are the causes: a request for which there is one fails. -/
theorem edit_of_fails (h : r.Consistent) {e : Edit} {fault : GatewayError}
    (hf : e.Fails r fault) : r.edit e = .error fault := by
  cases hf with
  | nameTaken hd =>
    rw [Registry.deviceByName_eq_ok] at hd
    simp [Registry.edit, Registry.addDevice, Table.contains, hd, Except.map]
  | idTaken hname hd =>
    rw [Registry.deviceByName_ne_ok] at hname
    have hid := (h.nameById_isSome _).2 ⟨_, Registry.deviceById_eq_ok.1 hd⟩
    simp [Registry.edit, Registry.addDevice, Table.contains, hname, hid, Except.map]
  | noDevice hnone =>
    rw [Registry.deviceByName_ne_ok] at hnone
    simp [Registry.edit, Registry.updateDevice, hnone, Except.map]
  | @idElsewhere d old e hold hd hother =>
    have hid := (h.nameById_isSome _).2 ⟨_, Registry.deviceById_eq_ok.1 hd⟩
    rw [Registry.deviceByName_eq_ok] at hold
    have hnew : old.id ≠ d.id := by
      intro hsame
      have hname := (h.named _ _ hold).1
      have hfound : r.byId? d.id = some old := h.byId?_eq_some.2 ⟨by rw [hname, hold], hsame⟩
      rw [Registry.deviceById_eq_ok.1 hd] at hfound
      cases hfound
      exact hother hname
    simp [Registry.edit, Registry.updateDevice, Table.contains, hold, hnew, hid, Except.map]
  | noneToRemove hnone =>
    rw [Registry.deviceByName_ne_ok] at hnone
    simp [Registry.edit, Registry.removeDevice, hnone, Except.map]
  | noId hnone =>
    rw [h.deviceById_ne_ok] at hnone
    simp [Registry.edit, Registry.updateAdminState, hnone, Except.map]
  | noName hnone =>
    rw [Registry.deviceByName_ne_ok] at hnone
    simp [Registry.edit, Registry.updateOperatingState, hnone, Except.map]
  | profileTaken hp =>
    have htaken : r.catalogues.get? _ ≠ none := fun hnone =>
      Registry.profileByName_ne_ok.2 hnone _ hp
    simp [Registry.edit, Registry.addProfile, Table.contains, Option.isSome_iff_ne_none.2 htaken,
      Except.map]
  | noProfile hnone =>
    rw [Registry.profileByName_ne_ok] at hnone
    simp [Registry.edit, Registry.updateProfile, Table.contains, hnone, Except.map]
  | noProfileToRemove hnone =>
    rw [Registry.profileByName_ne_ok] at hnone
    simp [Registry.edit, Registry.removeProfile, hnone, Except.map]

theorem edit_eq_error (h : r.Consistent) {e : Edit} {fault : GatewayError} :
    r.edit e = .error fault ↔ e.Fails r fault := by
  refine ⟨fun he => ?_, edit_of_fails h⟩
  have hcomes := comes h e
  rwa [he] at hcomes

/-- A request that succeeds is one step of the registry. -/
theorem step_of_edit {e : Edit} {x : Result} (he : r.edit e = .ok (x, r')) : r.Step r' := by
  cases e <;> obtain ⟨_, h, hx⟩ := map_eq_ok.1 he <;> cases hx
  case addDevice => exact .addDevice h
  case updateDevice => exact .updateDevice h
  case removeDevice => exact .removeDevice h
  case updateAdminState => exact .updateAdminState h
  case updateOperatingState => exact .updateOperatingState h
  case addProfile => exact .addProfile h
  case updateProfile => exact .updateProfile h
  case removeProfile => exact .removeProfile h

theorem succeeds_of_edit (h : r.Consistent) {e : Edit} {x : Result}
    (he : r.edit e = .ok (x, r')) : e.Succeeds r r' x := by
  have hcomes := comes h e
  rw [he] at hcomes
  exact hcomes (h.step (step_of_edit he))

/-- An id that a device gives up is free for the next. -/
theorem addDevice_given_up (h : r.Consistent) {d old : Device} {x : Result}
    (hold : r.deviceByName d.name = .ok old) (hnew : old.id ≠ d.id)
    (he : r.edit (.updateDevice d) = .ok (x, r')) :
    (∀ f, r'.deviceById old.id ≠ .ok f) ∧
    ∀ fresh : Device, fresh.id = old.id → (∀ f, r'.deviceByName fresh.name ≠ .ok f) →
      ∃ r'', r'.addDevice fresh = .ok r'' := by
  have hgone : ∀ f, r'.deviceById old.id ≠ .ok f := by
    intro f hf
    cases succeeds_of_edit h he with
    | @updateDevice _ old' hswaps =>
      cases hold.symm.trans hswaps.old
      rw [hswaps.byId] at hf
      simp [Ne.symm hnew] at hf
  refine ⟨hgone, fun fresh hid hname => ?_⟩
  have hconsistent := h.step (step_of_edit he)
  cases hadd : r'.addDevice fresh with
  | ok r'' => exact ⟨r'', rfl⟩
  | error fault =>
    have hfails : Fails r' (.addDevice fresh) fault :=
      (edit_eq_error hconsistent).1 (map_eq_error.2 hadd)
    cases hfails with
    | nameTaken hd => exact absurd hd (hname _)
    | idTaken _ hd => exact absurd hd (hid ▸ hgone _)

/-- Of every request to change one device or one profile: when it fails and with what, that it
then leaves the registry alone, and what it changes, and what not, when it succeeds. And an id
that a device gives up is found no more and is free again. -/
theorem atomic_and_framed (h : r.Reachable) (e : Edit) :
    (∀ fault, (e.perform r).1 = .error fault ↔ e.Fails r fault) ∧
    (∀ fault, (e.perform r).1 = .error fault →
      (e.perform r).2 = r ∧ r.edit e = .error fault) ∧
    (∀ x, (e.perform r).1 = .ok x →
      r.edit e = .ok (x, (e.perform r).2) ∧ e.Succeeds r (e.perform r).2 x) ∧
    ∀ d old x, e = .updateDevice d → r.deviceByName d.name = .ok old → old.id ≠ d.id →
      (e.perform r).1 = .ok x →
        (∀ f, (e.perform r).2.deviceById old.id ≠ .ok f) ∧
        ∀ fresh : Device, fresh.id = old.id →
          (∀ f, (e.perform r).2.deviceByName fresh.name ≠ .ok f) →
            ∃ r', (e.perform r).2.addDevice fresh = .ok r' := by
  have hc := h.consistent
  rw [perform_eq]
  cases he : r.edit e with
  | error fault =>
    refine ⟨fun fault' => ?_, ?_, ?_, ?_⟩
    · rw [← edit_eq_error hc, he]
      simp
    · rintro fault' ⟨⟩
      exact ⟨rfl, rfl⟩
    · rintro x ⟨⟩
    · rintro d old x - - - ⟨⟩
  | ok p =>
    obtain ⟨x, r'⟩ := p
    refine ⟨fun fault => ?_, ?_, ?_, ?_⟩
    · rw [← edit_eq_error hc, he]
      simp
    · rintro fault ⟨⟩
    · rintro x' ⟨⟩
      exact ⟨rfl, succeeds_of_edit hc he⟩
    · rintro d old x' rfl hold hnew ⟨⟩
      exact addDevice_given_up hc hold hnew he

/-- A registry of two devices. -/
def twoMeters : Registry :=
  Registry.empty.takeDevices [.ofNames "1" "a" "Meter", .ofNames "2" "b" "Meter"]

/-- A device that takes a new id gives up the old one. One that would take the id of another
changes nothing, and one that is absent has no state to set. -/
theorem atomic_and_framed_renumbered :
    let moved := Edit.updateDevice (.ofNames "3" "a" "Meter")
    let clash := Edit.updateDevice (.ofNames "2" "a" "Meter")
    let absent := Edit.updateOperatingState "c" .disabled
    let r := (moved.perform twoMeters).2
    twoMeters.Reachable ∧
    twoMeters.Swaps r "a" (some (.ofNames "1" "a" "Meter")) (some (.ofNames "3" "a" "Meter")) ∧
    (∃ r', r.addDevice (.ofNames "1" "c" "Meter") = .ok r') ∧
    clash.Fails twoMeters (.alreadyExists "device id 2") ∧
    (clash.perform twoMeters).2 = twoMeters ∧
    absent.Fails twoMeters (.deviceNotFound "c") := by
  intro moved clash absent r
  have hr : twoMeters.Reachable :=
    .step (.step .empty (.addDevice (d := .ofNames "1" "a" "Meter") rfl))
      (.addDevice (d := .ofNames "2" "b" "Meter") rfl)
  have hold : twoMeters.deviceByName "a" = .ok (.ofNames "1" "a" "Meter") := rfl
  have hmoved : (moved.perform twoMeters).1 = .ok .nothing := rfl
  have hclash : (clash.perform twoMeters).1 = .error (.alreadyExists "device id 2") := rfl
  obtain ⟨-, -, hok, hgiven⟩ := atomic_and_framed hr moved
  obtain ⟨hfails, hsame, -, -⟩ := atomic_and_framed hr clash
  have hswaps : twoMeters.Swaps r "a" (some (.ofNames "1" "a" "Meter"))
      (some (.ofNames "3" "a" "Meter")) := by
    have hdone : (updateDevice (.ofNames "3" "a" "Meter")).Succeeds twoMeters r .nothing :=
      (hok _ hmoved).2
    cases hdone with
    | updateDevice h =>
      cases hold.symm.trans h.old
      exact h
  have hfree : ∀ f, r.deviceByName "c" ≠ .ok f := by
    have hc : twoMeters.deviceByName "c" = .error (.deviceNotFound "c") := rfl
    simp [hswaps.byName, hc]
  exact ⟨hr, hswaps, (hgiven _ _ _ rfl hold (by decide) hmoved).2 _ rfl hfree,
    (hfails _).1 hclash, (hsame _ hclash).1, ((atomic_and_framed hr absent).1 _).1 rfl⟩

end Edit

end DeviceGateway
