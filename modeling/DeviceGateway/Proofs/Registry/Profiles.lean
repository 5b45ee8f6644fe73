import DeviceGateway.Metadata.Source
import DeviceGateway.Proofs.Registry.Catalogue
import DeviceGateway.Proofs.Registry.Tables

/-! Profiles that come, change and go. A registry is compared with a shelf, which has no tables
but holds one profile under each name. Whatever happens to them, what a registry is asked about
a name is answered by the profile that was put on the shelf last, and by no older one. -/

namespace DeviceGateway

/-- A request that changes which profiles there are. -/
inductive ProfileChange (μ : Type) where
  /-- All that a source of metadata has is taken in, the first time. -/
  | fetch (source : μ) (service : String)
  | add (p : Profile)
  | update (p : Profile)
  | remove (name : String)

section Changes

variable {μ : Type} [MetadataSource μ]

/-- The registry after a request. One that fails leaves it as it is. -/
def Registry.change (r : Registry) : ProfileChange μ → Registry
  | .fetch source service => (r.bootstrap source service).1
  | .add p => (r.addProfile p).toOption.getD r
  | .update p => (r.updateProfile p).toOption.getD r
  | .remove name => ((r.removeProfile name).map (·.2)).toOption.getD r

def Registry.changes (r : Registry) (cs : List (ProfileChange μ)) : Registry :=
  cs.foldl Registry.change r

/-! ### The shelf -/

/-- The profile that is stored under each name. -/
structure Shelf where
  profile? : String → Option Profile := fun _ => none
  /-- True when a source has been asked. -/
  fetched : Bool := false

namespace Shelf

variable (s : Shelf)

def put (p : Profile) : Shelf :=
  { s with profile? := fun name => if name = p.name then some p else s.profile? name }

/-- A new profile, whose name must be free. -/
def add (p : Profile) : Shelf := if (s.profile? p.name).isNone then s.put p else s

/-- A profile in place of one of its name. -/
def update (p : Profile) : Shelf := if (s.profile? p.name).isSome then s.put p else s

def remove (name : String) : Shelf :=
  { s with profile? := fun n => if n = name then none else s.profile? n }

/-- The profiles of a source, of several of one name the first. Done only once. -/
def fetch (ps : List Profile) : Shelf :=
  if s.fetched then s else { ps.foldl add s with fetched := true }

def change : ProfileChange μ → Shelf
  | .fetch source _ => s.fetch ((MetadataSource.profiles source).toOption.getD [])
  | .add p => s.add p
  | .update p => s.update p
  | .remove name => s.remove name

def changes (cs : List (ProfileChange μ)) : Shelf := cs.foldl change s

end Shelf

end Changes

/-! ### Registries that follow a shelf -/

/-- The registry has a catalogue, made of that profile, exactly where the shelf has a profile. -/
structure Shelf.Matches (s : Shelf) (r : Registry) : Prop where
  catalogues : ∀ name, r.catalogues.get? name = (s.profile? name).map .ofProfile
  named : ∀ name p, s.profile? name = some p → p.name = name
  fetched : r.initialized = s.fetched

namespace Shelf.Matches

variable {s : Shelf} {r : Registry}

theorem empty : Matches {} .empty := ⟨fun _ => rfl, fun _ _ h => by simp at h, rfl⟩

theorem contains (h : s.Matches r) (name : String) :
    r.catalogues.contains name = (s.profile? name).isSome := by
  rw [Table.contains, h.catalogues, Option.isSome_map]

theorem put (h : s.Matches r) (p : Profile) : (s.put p).Matches (r.putProfile p) := by
  refine ⟨fun name => ?_, fun name q hq => ?_, h.fetched⟩
  · simp only [Registry.putProfile, Shelf.put, Table.get?_insert, h.catalogues]
    split <;> rfl
  · simp only [Shelf.put] at hq
    split at hq
    · next hn =>
      cases hq
      exact hn.symm
    · exact h.named name q hq

theorem add (h : s.Matches r) (p : Profile) :
    (s.add p).Matches ((r.addProfile p).toOption.getD r) := by
  unfold Shelf.add Registry.addProfile
  rw [h.contains]
  cases hp : s.profile? p.name with
  | none => exact h.put p
  | some q => exact h

theorem update (h : s.Matches r) (p : Profile) :
    (s.update p).Matches ((r.updateProfile p).toOption.getD r) := by
  unfold Shelf.update Registry.updateProfile
  rw [h.contains]
  cases hp : s.profile? p.name with
  | none => exact h
  | some q => exact h.put p

theorem remove (h : s.Matches r) (name : String) :
    (s.remove name).Matches (((r.removeProfile name).map (·.2)).toOption.getD r) := by
  have hnamed : ∀ n p, (s.remove name).profile? n = some p → p.name = n := by
    intro n p hp
    simp only [Shelf.remove] at hp
    split at hp
    · cases hp
    · exact h.named n p hp
  unfold Registry.removeProfile
  rw [h.catalogues]
  cases hp : s.profile? name with
  | none =>
    refine ⟨fun n => ?_, hnamed, h.fetched⟩
    simp only [Option.map_none, Except.map, Except.toOption, Option.getD, Shelf.remove,
      h.catalogues]
    split
    · next hn => rw [hn, hp]
    · rfl
  | some p =>
    refine ⟨fun n => ?_, hnamed, h.fetched⟩
    simp only [Option.map_some, Except.map, Except.toOption, Option.getD, Shelf.remove,
      Table.get?_erase, h.catalogues]
    split <;> rfl

theorem takeProfiles (h : s.Matches r) (ps : List Profile) :
    (ps.foldl Shelf.add s).Matches (r.takeProfiles ps) := by
  induction ps generalizing s r with
  | nil => exact h
  | cons p ps ih => exact ih (h.add p)

/-- Devices are kept apart from profiles. -/
theorem of_eq {r' : Registry} (h : s.Matches r) (hc : r'.catalogues = r.catalogues)
    (hi : r'.initialized = r.initialized) : s.Matches r' :=
  ⟨fun name => hc ▸ h.catalogues name, h.named, hi.trans h.fetched⟩

theorem addDevice {r' : Registry} (h : s.Matches r) {d : Device}
    (hd : r.addDevice d = .ok r') : s.Matches r' := by
  obtain ⟨rfl, -⟩ := Registry.addDevice_eq_ok hd
  exact h.of_eq rfl rfl

theorem takeDevices (h : s.Matches r) (ds : List Device) : s.Matches (r.takeDevices ds) :=
  Registry.foldl_accepted (fun _ _ _ hr hd => addDevice hr hd) h ds

variable {μ : Type} [MetadataSource μ]

theorem bootstrap (h : s.Matches r) (source : μ) (service : String) :
    (s.fetch ((MetadataSource.profiles source).toOption.getD [])).Matches
      (r.bootstrap source service).1 := by
  unfold Shelf.fetch Registry.bootstrap
  rw [h.fetched]
  split
  · exact h
  · have htaken := (h.takeProfiles ((MetadataSource.profiles source).toOption.getD
      [])).takeDevices ((MetadataSource.devicesFor source service).toOption.getD [])
    exact ⟨htaken.catalogues, htaken.named, rfl⟩

theorem change (h : s.Matches r) (c : ProfileChange μ) : (s.change c).Matches (r.change c) := by
  cases c with
  | fetch source service => exact h.bootstrap source service
  | add p => exact h.add p
  | update p => exact h.update p
  | remove name => exact h.remove name

theorem changes (h : s.Matches r) (cs : List (ProfileChange μ)) :
    (s.changes cs).Matches (r.changes cs) := by
  induction cs generalizing s r with
  | nil => exact h
  | cons c cs ih => exact ih (h.change c)

end Shelf.Matches

/-! ### What is looked up -/

/-- There is no profile of the name, and nothing is found of one. -/
structure Registry.Lacks (r : Registry) (name : String) : Prop where
  profile : r.profileByName name = .error (.profileNotFound name)
  object : ∀ o, r.object name o = .error (.profileNotFound name)
  declares : ∀ c, r.declares name c = .error (.profileNotFound name)
  operations : ∀ c m, r.operations name c m = .error (.profileNotFound name)
  read : ∀ o, r.readOperation? name o = none

/-- What is found under the name is what the profile says: the last object of a name, the
commands that it declares, the operations of the last resource of a name that has some, whether
that is a command or not, and the preferred read of an object. -/
structure Registry.Shows (r : Registry) (name : String) (p : Profile) : Prop where
  profile : r.profileByName name = .ok p
  object : ∀ o, r.object name o =
    match p.lastObject? o with
    | some found => .ok found
    | none => .error (.objectNotFound name o)
  declares : ∀ c, ∃ declared, r.declares name c = .ok declared ∧ (declared ↔ c ∈ p.commands)
  operations : ∀ c m, r.operations name c m =
    match p.lastOperations? c m with
    | some os => .ok os
    | none => .error (.commandNotFound name c)
  read : ∀ o, r.readOperation? name o = p.preferredRead? o

namespace Registry

variable {r : Registry} {name : String}

/-- All that is looked up of a profile is looked up in its catalogue. -/
theorem Lacks.of_catalogue (h : r.catalogues.get? name = none) : r.Lacks name := by
  have hc : r.catalogue name = .error (.profileNotFound name) := by simp only [catalogue, h]
  refine ⟨?_, fun o => ?_, fun c => ?_, fun c m => ?_, fun o => ?_⟩
  · rw [profileByName, hc]
    rfl
  · rw [Registry.object, hc]
    rfl
  · rw [Registry.declares, hc]
    rfl
  · rw [Registry.operations, hc]
    rfl
  · rw [readOperation?, h]
    rfl

theorem Shows.of_catalogue {p : Profile} (h : r.catalogues.get? name = some (.ofProfile p)) :
    r.Shows name p := by
  have hc : r.catalogue name = .ok (.ofProfile p) := by simp only [catalogue, h]
  refine ⟨?_, fun o => ?_, fun c => ⟨decide (c ∈ p.commands), ?_, by simp⟩, fun c m => ?_,
    fun o => ?_⟩
  · exact congrArg (Except.map Catalogue.profile) hc
  · cases ho : p.lastObject? o <;>
      simp [Registry.object, hc, bind, Except.bind, Catalogue.objects_ofProfile, ho]
  · exact congrArg (Except.map fun k => decide (c ∈ k.profile.commands)) hc
  · cases hos : p.lastOperations? c m <;>
      simp [Registry.operations, hc, bind, Except.bind,
        Catalogue.operations?_eq_lastOperations?, hos]
  · rw [readOperation?, h, Option.bind_some, Catalogue.reads_ofProfile]

end Registry

namespace Shelf.Matches

variable {s : Shelf} {r : Registry} {name : String}

theorem lacks (h : s.Matches r) (hname : s.profile? name = none) : r.Lacks name :=
  .of_catalogue (by rw [h.catalogues, hname, Option.map_none])

theorem shows (h : s.Matches r) {p : Profile} (hname : s.profile? name = some p) :
    r.Shows name p :=
  .of_catalogue (by rw [h.catalogues, hname, Option.map_some])

end Shelf.Matches

/-! ### Reachable registries -/

namespace Registry

variable {r r' : Registry}

/-- Whatever is looked up under the name of a profile is found as before. -/
structure SameProfile (r r' : Registry) (name : String) : Prop where
  profile : r'.profileByName name = r.profileByName name
  object : r'.object name = r.object name
  declares : r'.declares name = r.declares name
  operations : r'.operations name = r.operations name
  read : r'.readOperation? name = r.readOperation? name

theorem SameProfile.of_get?_eq {name : String}
    (h : r'.catalogues.get? name = r.catalogues.get? name) : r.SameProfile r' name := by
  have hcatalogue : r'.catalogue name = r.catalogue name := by simp only [catalogue, h]
  constructor
  · simp only [profileByName, hcatalogue]
  · funext o
    simp only [Registry.object, hcatalogue]
  · funext c
    simp only [Registry.declares, hcatalogue]
  · funext c m
    simp only [Registry.operations, hcatalogue]
  · funext o
    simp only [readOperation?, h]

/-- What is shown is a matter of the catalogues alone. -/
theorem Shows.congr {name : String} {p : Profile} (h : r.Shows name p)
    (hc : r'.catalogues = r.catalogues) : r'.Shows name p := by
  have hsame : r.SameProfile r' name := .of_get?_eq (by rw [hc])
  refine ⟨hsame.profile.trans h.profile, fun o => ?_, fun c => ?_, fun c m => ?_, fun o => ?_⟩
  · rw [hsame.object]
    exact h.object o
  · rw [hsame.declares]
    exact h.declares c
  · rw [hsame.operations]
    exact h.operations c m
  · rw [hsame.read]
    exact h.read o

theorem Step.shelf {s : Shelf} (h : s.Matches r) (hs : r.Step r') :
    ∃ s' : Shelf, s'.Matches r' := by
  cases hs with
  | bootstrap source service => exact ⟨_, h.bootstrap source service⟩
  | addDevice hd => exact ⟨s, h.addDevice hd⟩
  | updateDevice hd =>
    unfold Registry.updateDevice at hd
    split at hd
    · cases hd
    · split at hd
      · cases hd
        exact ⟨s, h.of_eq rfl rfl⟩
      · split at hd <;> cases hd
        exact ⟨s, h.of_eq rfl rfl⟩
  | removeDevice hd =>
    unfold Registry.removeDevice at hd
    split at hd <;> cases hd
    exact ⟨s, h.of_eq rfl rfl⟩
  | updateAdminState hd =>
    unfold Registry.updateAdminState at hd
    split at hd
    · cases hd
    · split at hd <;> cases hd <;> exact ⟨s, h.of_eq rfl rfl⟩
  | updateOperatingState hd =>
    unfold Registry.updateOperatingState at hd
    split at hd <;> cases hd
    exact ⟨s, h.of_eq rfl rfl⟩
  | @addProfile p _ hp =>
    have hadded := h.add p
    rw [hp] at hadded
    exact ⟨_, hadded⟩
  | @updateProfile p _ hp =>
    have hupdated := h.update p
    rw [hp] at hupdated
    exact ⟨_, hupdated⟩
  | @removeProfile name _ _ hp =>
    have hremoved := h.remove name
    rw [hp] at hremoved
    exact ⟨_, hremoved⟩

theorem Reachable.shelf (h : r.Reachable) : ∃ s : Shelf, s.Matches r := by
  induction h with
  | empty => exact ⟨{}, .empty⟩
  | step _ hs ih =>
    obtain ⟨s, hm⟩ := ih
    exact hs.shelf hm

/-- There is nothing to be found of a profile, or all that is found is what it says. -/
theorem Reachable.lacks_or_shows (h : r.Reachable) (name : String) :
    r.Lacks name ∨ ∃ p, r.Shows name p := by
  obtain ⟨s, hs⟩ := h.shelf
  cases hname : s.profile? name with
  | none => exact .inl (hs.lacks hname)
  | some p => exact .inr ⟨p, hs.shows hname⟩

/-- A registry that is reached shows what any of its profiles says. -/
theorem Reachable.shows (h : r.Reachable) {name : String} {p : Profile}
    (hp : r.profileByName name = .ok p) : r.Shows name p := by
  rcases h.lacks_or_shows name with hlacks | ⟨q, hshows⟩
  · cases hlacks.profile.symm.trans hp
  · cases hshows.profile.symm.trans hp
    exact hshows

end Registry

/-- After any requests, all that is looked up under a name follows from the profile that was
stored there last, and nothing is found if there is none. -/
theorem Registry.tables_follow_last_profile {μ : Type} [MetadataSource μ]
    (cs : List (ProfileChange μ)) (name : String) :
    match (Shelf.changes {} cs).profile? name with
    | none => (Registry.empty.changes cs).Lacks name
    | some p => p.name = name ∧ (Registry.empty.changes cs).Shows name p := by
  have h := Shelf.Matches.empty.changes cs
  split
  · next hname => exact h.lacks hname
  · next p hname => exact ⟨h.named name p hname, h.shows hname⟩

end DeviceGateway
