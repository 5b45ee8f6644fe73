import Mathlib.Logic.Relation
import DeviceGateway.Proofs.Metadata.Store
import DeviceGateway.Proofs.Registry.Edit

/-! The first time that a registry is filled from a source of metadata. What the source has is
taken in its order, first come, first served: what is passed over leaves its name and its id to
what comes after it. Nothing that was there before is touched, and the source is never asked
again. -/

namespace DeviceGateway

/-! ### First come, first served -/

section Offers

variable {α : Type} (rival : α → α → Prop) [DecidableRel rival]

/-- What is taken of a list in its order: what has no rival among those that are held or were
taken before it. What is passed over is nobody's rival. -/
def firstComers (held : List α) : List α → List α
  | [] => []
  | x :: xs =>
    if ∃ y ∈ held, rival x y then firstComers held xs
    else x :: firstComers (held ++ [x]) xs

variable {rival}

theorem firstComers_append (held xs ys : List α) :
    firstComers rival held (xs ++ ys) = firstComers rival held xs ++
      firstComers rival (held ++ firstComers rival held xs) ys := by
  induction xs generalizing held with
  | nil => simp [firstComers]
  | cons x xs ih =>
    simp only [List.cons_append, firstComers]
    split
    · rw [ih]
    · rw [ih, List.cons_append, List.append_assoc, List.singleton_append]

/-- In its place an item is taken exactly if it has no rival among those held and those taken of
the items before it. -/
theorem firstComers_concat (held xs : List α) (x : α) :
    firstComers rival held (xs ++ [x]) = firstComers rival held xs ++
      if ∃ y ∈ held ++ firstComers rival held xs, rival x y then [] else [x] := by
  rw [firstComers_append]
  congr 1

/-- It matters only what is held, not in which order. -/
theorem firstComers_congr {held held' : List α} (h : ∀ y, y ∈ held ↔ y ∈ held') (xs : List α) :
    firstComers rival held xs = firstComers rival held' xs := by
  induction xs generalizing held held' with
  | nil => rfl
  | cons x xs ih =>
    have hconcat : ∀ y, y ∈ held ++ [x] ↔ y ∈ held' ++ [x] := by simp [h]
    simp only [firstComers, h, ih h, ih hconcat]

end Offers

/-- Devices that cannot both be registered. -/
def Device.Rival (d e : Device) : Prop := d.name = e.name ∨ d.id = e.id
  deriving Decidable

/-- Profiles that cannot both be registered. -/
def Profile.Rival (p q : Profile) : Prop := p.name = q.name
  deriving Decidable

/-- What comes of asking for a list: none of it if the answer is a fault. -/
def fetched {α : Type} : Except GatewayError (List α) → List α
  | .ok xs => xs
  | .error _ => []

@[simp] theorem toOption_getD_nil {α : Type} (answer : Except GatewayError (List α)) :
    answer.toOption.getD [] = fetched answer := by
  cases answer <;> rfl

namespace Registry

variable {r r' : Registry} {s s' : Shelf}

/-! ### What is registered -/

theorem Consistent.mem_devices (h : r.Consistent) {d : Device} :
    d ∈ r.devices ↔ r.byName.get? d.name = some d := by
  refine ⟨h.deviceByName_of_mem, fun hd => Table.mem_values.2 ⟨_, hd⟩⟩

theorem Consistent.deviceByName_iff_mem (h : r.Consistent) {name : String} {d : Device} :
    r.deviceByName name = .ok d ↔ d ∈ r.devices ∧ d.name = name := by
  rw [deviceByName_eq_ok, h.mem_devices]
  constructor
  · intro hd
    obtain ⟨rfl, -⟩ := h.named name d hd
    exact ⟨hd, rfl⟩
  · rintro ⟨hd, rfl⟩
    exact hd

theorem Consistent.deviceById_iff_mem (h : r.Consistent) {id : String} {d : Device} :
    r.deviceById id = .ok d ↔ d ∈ r.devices ∧ d.id = id := by
  rw [deviceById_eq_ok, h.byId?_eq_some, h.mem_devices]

/-- A device is turned away if it has a rival, and by nothing else. -/
theorem Consistent.exists_rival (h : r.Consistent) (d : Device) :
    (∃ e ∈ r.devices, d.Rival e) ↔
      r.byName.get? d.name ≠ none ∨ r.nameById.get? d.id ≠ none := by
  simp only [Option.ne_none_iff_isSome, h.nameById_isSome, Option.isSome_iff_exists]
  constructor
  · rintro ⟨e, he, hname | hid⟩
    · exact .inl ⟨e, hname ▸ h.mem_devices.1 he⟩
    · exact .inr ⟨e, h.byId?_eq_some.2 ⟨h.mem_devices.1 he, hid.symm⟩⟩
  · rintro (⟨e, he⟩ | ⟨e, he⟩)
    · exact ⟨e, Table.mem_values.2 ⟨_, he⟩, .inl (h.named _ e he).1.symm⟩
    · obtain ⟨he, hid⟩ := h.byId?_eq_some.1 he
      exact ⟨e, h.mem_devices.2 he, .inr hid.symm⟩

/-- The profiles of a registry are those on the shelf. -/
theorem mem_profiles (h : s.Matches r) {p : Profile} :
    p ∈ r.profiles ↔ s.profile? p.name = some p := by
  simp only [profiles, List.mem_map, Table.mem_values, h.catalogues, Option.map_eq_some_iff]
  constructor
  · rintro ⟨c, ⟨name, q, hq, rfl⟩, rfl⟩
    rw [← h.named name q hq] at hq
    exact hq
  · intro hp
    exact ⟨_, ⟨p.name, p, hp, rfl⟩, rfl⟩

theorem exists_profile_rival (h : s.Matches r) (p : Profile) :
    (∃ q ∈ r.profiles, p.Rival q) ↔ r.catalogues.contains p.name := by
  rw [h.contains, Option.isSome_iff_exists]
  constructor
  · rintro ⟨q, hq, hname⟩
    exact ⟨q, hname ▸ (mem_profiles h).1 hq⟩
  · rintro ⟨q, hq⟩
    have hname := h.named _ q hq
    exact ⟨q, (mem_profiles h).2 (by rw [hname, hq]), hname.symm⟩

/-! ### What is taken -/

theorem Consistent.devices_takeDevices (h : r.Consistent) (ds : List Device) :
    (r.takeDevices ds).devices.Perm (r.devices ++ firstComers Device.Rival r.devices ds) := by
  induction ds generalizing r with
  | nil => exact .of_eq (List.append_nil _).symm
  | cons d ds ih =>
    rw [takeDevices_cons, firstComers]
    rcases r.addDevice_cases d with ⟨hsame, htaken⟩ | ⟨hadded, hname, hid⟩
    · rw [hsame, if_pos ((h.exists_rival d).2 htaken)]
      exact ih h
    · have hfree : ¬ ∃ e ∈ r.devices, d.Rival e := by
        rw [h.exists_rival, hname, hid]
        simp
      have hdevices : (Registry.devices { r with
          nameById := r.nameById.insert d.id d.name
          byName := r.byName.insert d.name d }).Perm (r.devices ++ [d]) :=
        Table.values_insert_perm hname d
      rw [hadded, if_neg hfree, ← firstComers_congr (fun e => hdevices.mem_iff) ds,
        List.append_cons]
      exact (ih (h.insert d hname hid)).trans (hdevices.append_right _)

theorem catalogues_takeDevices (r : Registry) (ds : List Device) :
    (r.takeDevices ds).catalogues = r.catalogues := by
  refine foldl_accepted (P := fun s => s.catalogues = r.catalogues) (fun s s' d hs hd => ?_) rfl ds
  obtain ⟨rfl, -⟩ := addDevice_eq_ok hd
  exact hs

theorem profiles_takeProfiles (h : s.Matches r) (ps : List Profile) :
    (r.takeProfiles ps).profiles.Perm (r.profiles ++ firstComers Profile.Rival r.profiles ps) := by
  induction ps generalizing r s with
  | nil => exact .of_eq (List.append_nil _).symm
  | cons p ps ih =>
    have hnext := ih (h.add p)
    rw [takeProfiles_cons, firstComers]
    by_cases htaken : r.catalogues.contains p.name
    · have hsame : (r.addProfile p).toOption.getD r = r := by
        simp [addProfile, htaken, Except.toOption]
      rw [hsame] at hnext ⊢
      rwa [if_pos ((exists_profile_rival h p).2 htaken)]
    · have hadded : (r.addProfile p).toOption.getD r = r.putProfile p := by
        simp [addProfile, htaken, Except.toOption]
      have hprofiles : (r.putProfile p).profiles.Perm (r.profiles ++ [p]) := by
        have hvalues := (Table.values_insert_perm (Table.contains_eq_false htaken)
          (.ofProfile p)).map Catalogue.profile
        rw [List.map_append] at hvalues
        exact hvalues
      rw [hadded] at hnext ⊢
      rw [if_neg (mt (exists_profile_rival h p).1 htaken),
        ← firstComers_congr (fun q => hprofiles.mem_iff) ps, List.append_cons]
      exact hnext.trans (hprofiles.append_right _)

/-! ### What is found afterwards -/

/-- `r'` is `r` with these devices and profiles besides. What was found before is found as it
was. -/
structure Extends (r r' : Registry) (ds : List Device) (ps : List Profile) : Prop where
  devices : r'.devices.Perm (r.devices ++ ds)
  profiles : r'.profiles.Perm (r.profiles ++ ps)
  byName : ∀ name d, r'.deviceByName name = .ok d ↔ d ∈ r.devices ++ ds ∧ d.name = name
  byId : ∀ id d, r'.deviceById id = .ok d ↔ d ∈ r.devices ++ ds ∧ d.id = id
  shows : ∀ p ∈ r.profiles ++ ps, r'.Shows p.name p
  lacks : ∀ name, (∀ p ∈ r.profiles ++ ps, p.name ≠ name) → r'.Lacks name
  oldName : ∀ name d, r.deviceByName name = .ok d → r'.deviceByName name = .ok d
  oldId : ∀ id d, r.deviceById id = .ok d → r'.deviceById id = .ok d
  oldProfile : ∀ name p, r.profileByName name = .ok p → r.SameProfile r' name

/-- It is enough to know which devices and profiles there are. -/
theorem Extends.of_perm (h : r.Consistent) (h' : r'.Consistent) (hs : s.Matches r)
    (hs' : s'.Matches r') {ds : List Device} {ps : List Profile}
    (hdevices : r'.devices.Perm (r.devices ++ ds))
    (hprofiles : r'.profiles.Perm (r.profiles ++ ps)) : r.Extends r' ds ps := by
  have hold : ∀ d ∈ r.devices, d ∈ r'.devices := fun d hd =>
    hdevices.mem_iff.2 (List.mem_append_left _ hd)
  have hshelved : ∀ p ∈ r.profiles ++ ps, s'.profile? p.name = some p := fun p hp =>
    (mem_profiles hs').1 (hprofiles.mem_iff.2 hp)
  refine ⟨hdevices, hprofiles, fun name d => ?_, fun id d => ?_, fun p hp => ?_, fun name hno => ?_,
    fun name d hd => ?_, fun id d hd => ?_, fun name p hp => ?_⟩
  · rw [h'.deviceByName_iff_mem, hdevices.mem_iff]
  · rw [h'.deviceById_iff_mem, hdevices.mem_iff]
  · exact hs'.shows (hshelved p hp)
  · refine hs'.lacks (Option.eq_none_iff_forall_ne_some.2 fun p hp => ?_)
    have hname := hs'.named name p hp
    rw [← hname] at hp
    exact hno p (hprofiles.mem_iff.1 ((mem_profiles hs').2 hp)) hname
  · obtain ⟨hmem, hname⟩ := h.deviceByName_iff_mem.1 hd
    exact h'.deviceByName_iff_mem.2 ⟨hold d hmem, hname⟩
  · obtain ⟨hmem, hid⟩ := h.deviceById_iff_mem.1 hd
    exact h'.deviceById_iff_mem.2 ⟨hold d hmem, hid⟩
  · -- The catalogue is made of the profile, which is still on the shelf.
    obtain ⟨q, hq⟩ : ∃ q, s.profile? name = some q := by
      rw [← Option.isSome_iff_exists, ← hs.contains]
      by_contra habsent
      exact profileByName_ne_ok.2 (Table.contains_eq_false habsent) p hp
    have hname := hs.named name q hq
    have hkept : s'.profile? q.name = some q :=
      hshelved q (List.mem_append_left _ ((mem_profiles hs).2 (by rw [hname, hq])))
    rw [hname] at hkept
    exact .of_get?_eq (by rw [hs.catalogues, hs'.catalogues, hq, hkept])

/-! ### Once and for all -/

section Source

variable {μ : Type} [MetadataSource μ] (source : μ) (service : String)

theorem bootstrap_of_first (hfirst : r.initialized = false) : r.bootstrap source service =
    ({ (r.takeProfiles (fetched (MetadataSource.profiles source))).takeDevices
        (fetched (MetadataSource.devicesFor source service)) with initialized := true },
      [service]) := by
  simp [bootstrap, hfirst]

/-- Which profiles are fetched does not matter to the devices. -/
theorem Consistent.devices_bootstrap (h : r.Consistent) (hfirst : r.initialized = false) :
    (r.bootstrap source service).1.devices.Perm (r.devices ++
      firstComers Device.Rival r.devices (fetched (MetadataSource.devicesFor source service))) := by
  have htaken := (h.takeProfiles (fetched (MetadataSource.profiles source))).devices_takeDevices
    (fetched (MetadataSource.devicesFor source service))
  have hsame : (r.takeProfiles (fetched (MetadataSource.profiles source))).devices = r.devices :=
    congrArg Table.values (r.takeProfiles_tables _).1
  rw [hsame] at htaken
  rw [bootstrap_of_first source service hfirst]
  exact htaken

/-- Nor do the devices matter to the profiles. -/
theorem profiles_bootstrap (h : s.Matches r) (hfirst : r.initialized = false) :
    (r.bootstrap source service).1.profiles.Perm (r.profiles ++
      firstComers Profile.Rival r.profiles (fetched (MetadataSource.profiles source))) := by
  rw [bootstrap_of_first source service hfirst]
  simp only [profiles, catalogues_takeDevices]
  exact profiles_takeProfiles h _

theorem initialized_bootstrap (r : Registry) :
    (r.bootstrap source service).1.initialized = true := by
  unfold bootstrap
  split
  · assumption
  · rfl

end Source

/-- What a registry goes through is to be filled and to be changed. -/
theorem Step.bootstrap_or_edit (hs : r.Step r') :
    (∃ (μ : Type) (_ : MetadataSource μ) (source : μ) (service : String),
      r' = (r.bootstrap source service).1) ∨ ∃ e x, r.edit e = .ok (x, r') := by
  cases hs with
  | bootstrap source service => exact .inl ⟨_, _, source, service, rfl⟩
  | @addDevice d _ h => exact .inr ⟨.addDevice d, .nothing, by rw [edit, h]; rfl⟩
  | @updateDevice d _ h => exact .inr ⟨.updateDevice d, .nothing, by rw [edit, h]; rfl⟩
  | @removeDevice name d _ h => exact .inr ⟨.removeDevice name, .device d, by rw [edit, h]; rfl⟩
  | @updateAdminState id state _ h =>
    exact .inr ⟨.updateAdminState id state, .nothing, by rw [edit, h]; rfl⟩
  | @updateOperatingState name state _ h =>
    exact .inr ⟨.updateOperatingState name state, .nothing, by rw [edit, h]; rfl⟩
  | @addProfile p _ h => exact .inr ⟨.addProfile p, .nothing, by rw [edit, h]; rfl⟩
  | @updateProfile p _ h => exact .inr ⟨.updateProfile p, .nothing, by rw [edit, h]; rfl⟩
  | @removeProfile name p _ h =>
    exact .inr ⟨.removeProfile name, .profile p, by rw [edit, h]; rfl⟩

theorem Consistent.initialized_step (h : r.Consistent) (hs : r.Step r')
    (hi : r.initialized = true) : r'.initialized = true := by
  rcases hs.bootstrap_or_edit with ⟨μ, _, source, service, rfl⟩ | ⟨e, x, he⟩
  · exact initialized_bootstrap source service r
  · rw [(Edit.succeeds_of_edit h he).initialized, hi]

/-- A registry that was never filled: it comes of the empty one by changes alone. -/
def Unfilled (r : Registry) : Prop :=
  Relation.ReflTransGen (fun r r' => ∃ e x, edit r e = .ok (x, r')) .empty r

/-- Whether it was filled is what a registry remembers. -/
theorem unfilled_iff : r.Unfilled ↔ r.Reachable ∧ r.initialized = false := by
  constructor
  · intro h
    induction h with
    | refl => exact ⟨.empty, rfl⟩
    | tail _ he ih =>
      obtain ⟨e, x, he⟩ := he
      refine ⟨ih.1.step (Edit.step_of_edit he), ?_⟩
      rw [(Edit.succeeds_of_edit ih.1.consistent he).initialized, ih.2]
  · rintro ⟨h, hi⟩
    induction h with
    | empty => exact .refl
    | step h hs ih =>
      rcases hs.bootstrap_or_edit with ⟨μ, _, source, service, rfl⟩ | ⟨e, x, he⟩
      · rw [initialized_bootstrap] at hi
        cases hi
      · rw [(Edit.succeeds_of_edit h.consistent he).initialized] at hi
        exact (ih hi).tail ⟨e, x, he⟩

/-- A registry that has been filled stays filled, and asks nobody again. -/
theorem Reachable.bootstrap_again (h : r.Reachable) (hi : r.initialized = true)
    (hlater : Relation.ReflTransGen Step r r') :
    r'.initialized = true ∧ ∀ (ν : Type) [MetadataSource ν] (source : ν) (service : String),
      r'.bootstrap source service = (r', []) := by
  have hkept : r'.Reachable ∧ r'.initialized = true := by
    induction hlater with
    | refl => exact ⟨h, hi⟩
    | tail _ hs ih => exact ⟨ih.1.step hs, ih.1.consistent.initialized_step hs ih.2⟩
  refine ⟨hkept.2, fun ν _ source service => ?_⟩
  rw [bootstrap, if_pos hkept.2]

/-- The first time, what a source has is taken in its order besides what there is: of profiles
that share a name the first, of devices each that has neither its name nor its id in common with
one that is there or was taken. A list that cannot be fetched counts as empty. From then on no
source is asked and nothing is taken, whatever happens in between. -/
theorem Unfilled.bootstrap_first_come (h : r.Unfilled) {μ : Type} [MetadataSource μ] (source : μ)
    (service : String) :
    let r' := (r.bootstrap source service).1
    let takenDevices := firstComers Device.Rival r.devices
    let takenProfiles := firstComers Profile.Rival r.profiles
    r.initialized = false ∧ (r.bootstrap source service).2 = [service] ∧
    r.Extends r' (takenDevices (fetched (MetadataSource.devicesFor source service)))
      (takenProfiles (fetched (MetadataSource.profiles source))) ∧
    (∀ before d, takenDevices (before ++ [d]) = takenDevices before ++
      if ∃ e ∈ r.devices ++ takenDevices before, d.Rival e then [] else [d]) ∧
    (∀ before p, takenProfiles (before ++ [p]) = takenProfiles before ++
      if ∃ q ∈ r.profiles ++ takenProfiles before, p.Rival q then [] else [p]) ∧
    r'.initialized = true ∧
    ∀ r'', Relation.ReflTransGen Step r' r'' →
      r''.initialized = true ∧ ∀ (ν : Type) [MetadataSource ν] (other : ν) (name : String),
        r''.bootstrap other name = (r'', []) := by
  intro r' takenDevices takenProfiles
  obtain ⟨h, hfirst⟩ := unfilled_iff.1 h
  have hreached : r'.Reachable := h.step (.bootstrap source service)
  have hinitialized : r'.initialized = true := initialized_bootstrap source service r
  obtain ⟨s, hs⟩ := h.shelf
  obtain ⟨s', hs'⟩ := hreached.shelf
  refine ⟨hfirst, by rw [bootstrap_of_first source service hfirst], ?_, firstComers_concat _,
    firstComers_concat _, hinitialized, fun r'' hlater =>
      hreached.bootstrap_again hinitialized hlater⟩
  exact .of_perm h.consistent hreached.consistent hs hs'
    (h.consistent.devices_bootstrap source service hfirst)
    (profiles_bootstrap source service hs hfirst)

/-- Of five devices the first leaves its id to the second and the third its name to the last. The
list of profiles cannot be fetched, and one profile is there already. -/
theorem bootstrap_first_come_chained :
    let meter : Profile := { name := "Meter" }
    let source : FixedSource := {
      devices := [.ofNames "9" "a" "Meter", .ofNames "9" "b" "Meter", .ofNames "1" "c" "Meter",
        .ofNames "9" "c" "Meter", .ofNames "2" "c" "Meter"]
      profilesFault := some (.profileNotFound "Meter") }
    let r := (Registry.empty.takeDevices [.ofNames "1" "a" "Meter"]).putProfile meter
    let r' := (r.bootstrap source "gateway").1
    r.Unfilled ∧
    r.Extends r' [.ofNames "9" "b" "Meter", .ofNames "2" "c" "Meter"] [] ∧
    ∃ r'', r'.removeDevice "b" = .ok (.ofNames "9" "b" "Meter", r'') ∧
      r''.bootstrap source "gateway" = (r'', []) := by
  intro meter source r r'
  have hr : r.Unfilled :=
    (Relation.ReflTransGen.single ⟨.addDevice (.ofNames "1" "a" "Meter"), .nothing, rfl⟩).tail
      ⟨.addProfile meter, .nothing, rfl⟩
  obtain ⟨-, -, hextends, -, -, -, hlater⟩ := hr.bootstrap_first_come source "gateway"
  have hb : r'.byName.get? "b" = some (.ofNames "9" "b" "Meter") :=
    deviceByName_eq_ok.1 ((hextends.byName "b" (.ofNames "9" "b" "Meter")).2 ⟨by decide, rfl⟩)
  have hremoved : r'.removeDevice "b" = .ok (.ofNames "9" "b" "Meter", { r' with
      byName := r'.byName.erase "b", nameById := r'.nameById.erase "9" }) := by
    simp only [removeDevice, hb]
    rfl
  exact ⟨hr, hextends, _, hremoved, (hlater _ (.single (.removeDevice hremoved))).2 _ _ _⟩

end Registry

end DeviceGateway
