import DeviceGateway.Proofs.Gateway.Locks
import Mathlib.Data.List.Infix

/-! Devices and their profiles. A device is bound to its profile by name, and a gateway takes
no device in whose profile it does not know. But it lets go of a profile without asking who
needs it. So the devices keep their profiles exactly as long as no profile is removed that a
device still names. -/

namespace DeviceGateway

/-! ### Bound devices -/

namespace Registry

/-- There is a profile of the name. -/
def Knows (r : Registry) (profile : String) : Prop := ∃ p, r.profileByName profile = .ok p

/-- Every device names a profile that is known. -/
def Bound (r : Registry) : Prop := ∀ d ∈ r.devices, r.Knows d.profile

theorem knows_iff {r : Registry} {profile : String} :
    r.Knows profile ↔ (r.catalogues.get? profile).isSome := by
  unfold Knows profileByName catalogue
  cases r.catalogues.get? profile <;> simp [Except.map]

end Registry

/-- A request that manages the devices and the profiles of a gateway. -/
inductive Management where
  | addDevice (d : Device)
  | removeDevice (id : String)
  | addProfile (p : Profile)
  | updateProfile (p : Profile)
  | removeProfile (name : String)
  | updateAdminState (id : String) (state : AdminState)

/-- What can become of a registry by a request. -/
inductive Registry.Managed (r : Registry) : Management → Registry → Prop
  | refused (m : Management) : Managed r m r
  | deviceAdded {d : Device} (hknown : r.Knows d.profile) : Managed r (.addDevice d) { r with
      nameById := r.nameById.insert d.id d.name
      byName := r.byName.insert d.name d }
  | deviceRemoved {id name : String} {d : Device} : Managed r (.removeDevice id) { r with
      byName := r.byName.erase name
      nameById := r.nameById.erase d.id }
  | profileAdded {p : Profile} : Managed r (.addProfile p) (r.putProfile p)
  | profileUpdated {p : Profile} : Managed r (.updateProfile p) (r.putProfile p)
  | profileRemoved {name : String} :
    Managed r (.removeProfile name) { r with catalogues := r.catalogues.erase name }
  | stateUpdated {id name : String} {d : Device} {state : AdminState}
    (hd : r.byName.get? name = some d) : Managed r (.updateAdminState id state) { r with
      byName := r.byName.insert name { d with adminState := state } }

namespace Registry.Managed

variable {r r' : Registry} {m : Management}

/-- A profile stays known unless it is the one that is removed. -/
theorem knows (h : r.Managed m r') {profile : String} (hm : m ≠ .removeProfile profile)
    (hknown : r.Knows profile) : r'.Knows profile := by
  rw [knows_iff] at hknown ⊢
  cases h with
  | refused | deviceAdded | deviceRemoved | stateUpdated => exact hknown
  | profileAdded | profileUpdated =>
    rw [putProfile, Table.get?_insert]
    split
    · rfl
    · exact hknown
  | @profileRemoved name =>
    have hne : profile ≠ name := fun heq => hm (heq ▸ rfl)
    rwa [Table.get?_erase, if_neg hne]

/-- A device that is there afterwards was there before, under the same name and with the same
profile, or it has been added and its profile is known. -/
theorem mem_devices (h : r.Managed m r') {d : Device} (hd : d ∈ r'.devices) :
    (∃ e ∈ r.devices, e.name = d.name ∧ e.profile = d.profile) ∨
      m = .addDevice d ∧ r.Knows d.profile := by
  have hsame : d ∈ r.devices → ∃ e ∈ r.devices, e.name = d.name ∧ e.profile = d.profile :=
    fun hd => ⟨d, hd, rfl, rfl⟩
  cases h with
  | refused | profileAdded | profileUpdated | profileRemoved => exact .inl (hsame hd)
  | deviceAdded hknown =>
    obtain ⟨key, hkey⟩ := Table.mem_values.1 hd
    rw [Table.get?_insert] at hkey
    split at hkey
    · cases hkey
      exact .inr ⟨rfl, hknown⟩
    · exact .inl (hsame (Table.mem_values.2 ⟨key, hkey⟩))
  | deviceRemoved =>
    obtain ⟨key, hkey⟩ := Table.mem_values.1 hd
    rw [Table.get?_erase] at hkey
    split at hkey
    · cases hkey
    · exact .inl (hsame (Table.mem_values.2 ⟨key, hkey⟩))
  | stateUpdated he =>
    obtain ⟨key, hkey⟩ := Table.mem_values.1 hd
    rw [Table.get?_insert] at hkey
    split at hkey
    · cases hkey
      exact .inl ⟨_, Table.mem_values.2 ⟨_, he⟩, rfl, rfl⟩
    · exact .inl (hsame (Table.mem_values.2 ⟨key, hkey⟩))

theorem initialized (h : r.Managed m r') : r'.initialized = r.initialized := by
  cases h <;> rfl

/-- Devices that are bound stay so, unless a profile is removed that one of them names. -/
theorem bound (h : r.Managed m r') (hbound : r.Bound)
    (hm : ∀ d ∈ r.devices, m ≠ .removeProfile d.profile) : r'.Bound := by
  intro d hd
  rcases h.mem_devices hd with ⟨e, he, -, hprofile⟩ | ⟨rfl, hknown⟩
  · rw [← hprofile]
    exact h.knows (hm e he) (hbound e he)
  · exact h.knows Management.noConfusion hknown

end Registry.Managed

namespace Gateway

variable {δ μ : Type} [Driver δ] (g : Gateway δ μ)

/-! ### Requests one after the other -/

/-- The gateway after a request, whether that succeeds or fails. -/
def manage : Management → Gateway δ μ
  | .addDevice d => (g.addDevice d).2
  | .removeDevice id => (g.removeDevice id).2
  | .addProfile p => (g.addProfile p).2
  | .updateProfile p => (g.updateProfile p).2
  | .removeProfile name => (g.removeProfile name).2
  | .updateAdminState id state => (g.updateAdminState id state).2

def manageAll (ms : List Management) : Gateway δ μ := ms.foldl manage g

theorem manageAll_concat (ms : List Management) (m : Management) :
    g.manageAll (ms ++ [m]) = (g.manageAll ms).manage m := by
  rw [manageAll, List.foldl_append]
  rfl

theorem managed_manage (m : Management) : g.registry.Managed m (g.manage m).registry := by
  cases m with
  | addDevice d =>
    show g.registry.Managed _ (g.addDevice d).2.registry
    unfold addDevice
    split
    · exact .refused _
    · next p hp =>
      have hknown : g.registry.Knows d.profile := ⟨p, hp⟩
      unfold Registry.addDevice
      split
      · exact .refused _
      · split
        · exact .refused _
        · exact .deviceAdded hknown
  | removeDevice id =>
    show g.registry.Managed _ (g.removeDevice id).2.registry
    unfold removeDevice Registry.removeDevice
    split
    · exact .refused _
    · next d _ =>
      cases g.registry.byName.get? d.name with
      | none => exact .refused _
      | some e => exact .deviceRemoved
  | addProfile p =>
    show g.registry.Managed _ (g.addProfile p).2.registry
    unfold addProfile Registry.addProfile
    split
    · exact .refused _
    · exact .profileAdded
  | updateProfile p =>
    show g.registry.Managed _ (g.updateProfile p).2.registry
    unfold updateProfile Registry.updateProfile
    split
    · exact .profileUpdated
    · exact .refused _
  | removeProfile name =>
    show g.registry.Managed _ (g.removeProfile name).2.registry
    unfold removeProfile Registry.removeProfile
    cases g.registry.catalogues.get? name with
    | none => exact .refused _
    | some c => exact .profileRemoved
  | updateAdminState id state =>
    show g.registry.Managed _ (g.updateAdminState id state).2.registry
    unfold updateAdminState Registry.updateAdminState
    split
    · exact .refused _
    · next name _ =>
      cases hd : g.registry.byName.get? name with
      | none => exact .refused _
      | some d => exact .stateUpdated hd

/-- A profile that was to be removed is unknown, and the devices are the same. -/
theorem manage_removeProfile (name : String) :
    ¬ (g.manage (.removeProfile name)).registry.Knows name ∧
      (g.manage (.removeProfile name)).registry.devices = g.registry.devices := by
  rw [Registry.knows_iff]
  show ¬ ((g.removeProfile name).2.registry.catalogues.get? name).isSome ∧
    (g.removeProfile name).2.registry.devices = g.registry.devices
  unfold removeProfile Registry.removeProfile
  cases hc : g.registry.catalogues.get? name with
  | none => exact ⟨by simp [hc], rfl⟩
  | some c => exact ⟨by simp [Table.get?_erase], rfl⟩

variable {g}

/-- Devices that are bound at first are bound all the way exactly if no profile is removed that a
device then names. And a device whose profile is not known in the end named it when it was
removed. -/
theorem bound_throughout_iff (hbound : g.registry.Bound) (ms : List Management) :
    ((∀ before, before <+: ms → (g.manageAll before).registry.Bound) ↔
      ∀ before name, before ++ [.removeProfile name] <+: ms →
        ∀ d ∈ (g.manageAll before).registry.devices, d.profile ≠ name) ∧
    ∀ d ∈ (g.manageAll ms).registry.devices, ¬ (g.manageAll ms).registry.Knows d.profile →
      ∃ before, before ++ [.removeProfile d.profile] <+: ms ∧
        ∃ e ∈ (g.manageAll before).registry.devices, e.name = d.name ∧ e.profile = d.profile := by
  refine ⟨⟨fun hall before name hprefix d hd hname => ?_, fun hspared before hprefix => ?_⟩, ?_⟩
  · have hafter := hall _ hprefix
    rw [manageAll_concat] at hafter
    obtain ⟨hunknown, hsame⟩ := (g.manageAll before).manage_removeProfile name
    exact hunknown (hname ▸ hafter d (hsame ▸ hd))
  · induction before using List.reverseRecOn with
    | nil => exact hbound
    | append_singleton before m ih =>
      have hbefore := ih ((List.prefix_append before [m]).trans hprefix)
      rw [manageAll_concat]
      refine (managed_manage _ m).bound hbefore fun d hd hm => ?_
      exact hspared before d.profile (hm ▸ hprefix) d hd rfl
  · induction ms using List.reverseRecOn with
    | nil => exact fun d hd hunknown => absurd (hbound d hd) hunknown
    | append_singleton ms m ih =>
      rw [manageAll_concat]
      intro d hd hunknown
      have hmanaged := managed_manage (g.manageAll ms) m
      by_cases hm : m = .removeProfile d.profile
      · -- it is this request that removes the profile
        subst hm
        obtain ⟨-, hsame⟩ := (g.manageAll ms).manage_removeProfile d.profile
        exact ⟨ms, List.prefix_refl _, d, hsame ▸ hd, rfl, rfl⟩
      · have hbefore : ¬ (g.manageAll ms).registry.Knows d.profile :=
          fun hknown => hunknown (hmanaged.knows hm hknown)
        rcases hmanaged.mem_devices hd with ⟨e, he, hname, hprofile⟩ | ⟨-, hknown⟩
        · obtain ⟨before, hprefix, f, hf, hfname, hfprofile⟩ := ih e he (hprofile ▸ hbefore)
          rw [hprofile] at hprefix hfprofile
          exact ⟨before, hprefix.trans (List.prefix_append ms [m]), f, hf,
            hfname.trans hname, hfprofile⟩
        · exact absurd hknown hbefore

theorem halfLocked_bound : halfLocked.registry.Bound := by
  intro d hd
  have hprofiles : ∀ d ∈ halfLocked.registry.devices, d.profile = "Meter" := by decide +kernel
  exact ⟨meter, hprofiles d hd ▸ rfl⟩

/-- The devices are removed before their profile is, and none is taken in after that. -/
theorem bound_throughout_iff_dismantled :
    let ms : List Management := [.removeDevice "1", .removeDevice "2", .removeProfile "Meter",
      .addDevice (.ofNames "3" "Gauge" "Meter")]
    halfLocked.registry.Bound ∧
      ∀ before, before <+: ms → (halfLocked.manageAll before).registry.Bound := by
  intro ms
  have hbound : halfLocked.registry.Bound := halfLocked_bound
  refine ⟨hbound, ((bound_throughout_iff hbound ms).1).2 fun before name hprefix => ?_⟩
  obtain ⟨after, hms⟩ := hprefix
  rcases before with _ | ⟨m₁, _ | ⟨m₂, _ | ⟨m₃, before⟩⟩⟩
  · simp [ms] at hms
  · simp [ms] at hms
  · simp [ms] at hms
    obtain ⟨rfl, rfl, -⟩ := hms
    intro d hd
    cases hd
  · rcases before with _ | ⟨m₄, before⟩ <;> simp [ms] at hms

/-- A profile is removed of which a device is left. -/
theorem removed_while_in_use : halfLocked.registry.Bound ∧
    ¬ (halfLocked.manageAll [.removeProfile "Meter"]).registry.Bound := by
  refine ⟨halfLocked_bound, fun hbound => ?_⟩
  obtain ⟨p, hp⟩ := hbound (.ofNames "1" "Pump" "Meter") (by decide)
  cases hp

end Gateway

end DeviceGateway
