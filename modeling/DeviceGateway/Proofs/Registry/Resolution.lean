import DeviceGateway.Proofs.Registry.Profiles
import DeviceGateway.Proofs.Registry.Resolve

/-! When a command of a device is resolved, and to what, said of the profile of the device. There
are four reasons to refuse it, which are looked for one after the other. If none of them applies
the command comes to one request for each of its operations. -/

namespace DeviceGateway

/-! ### What a profile has -/

namespace Profile

variable {p : Profile} {name command : String} {m : Method}

/-- An object of the profile has the name. -/
def HasObject (p : Profile) (name : String) : Prop := ∃ o ∈ p.objects, o.name = name

instance : Decidable (p.HasObject name) :=
  inferInstanceAs (Decidable (∃ o ∈ p.objects, o.name = name))

/-- A resource of the name has operations for the method. -/
def HasOperations (p : Profile) (command : String) (m : Method) : Prop :=
  ∃ q ∈ p.resources, q.name = command ∧ q.operations m ≠ []

/-- The request is for the operation, and for the object that it is aimed at: of several of that
name the last. -/
structure Targets (p : Profile) (o : Operation) (q : Request) : Prop where
  operation : q.operation = o
  member : q.object ∈ p.objects
  named : q.object.name = o.object
  last : p.lastObject? o.object = some q.object

theorem lastObject?_eq_some {o : DeviceObject} (h : p.lastObject? name = some o) :
    o ∈ p.objects ∧ o.name = name :=
  ⟨List.mem_reverse.1 (List.mem_of_find?_eq_some h), by simpa using List.find?_some h⟩

theorem lastObject?_eq_none : p.lastObject? name = none ↔ ¬ p.HasObject name := by
  simp [lastObject?, HasObject]

theorem lastOperations?_eq_none :
    p.lastOperations? command m = none ↔ ¬ p.HasOperations command m := by
  simp [lastOperations?, HasOperations]

/-- Empty lists of operations do not count. -/
theorem lastOperations?_ne_nil {os : List Operation}
    (h : p.lastOperations? command m = some os) : os ≠ [] := by
  obtain ⟨q, hq, rfl⟩ := Option.map_eq_some_iff.1 h
  have hfound : q.name = command ∧ q.operations m ≠ [] := by simpa using List.find?_some hq
  exact hfound.2

theorem targets_iff {o : Operation} {q : Request} :
    p.Targets o q ↔ q.operation = o ∧ p.lastObject? o.object = some q.object := by
  constructor
  · intro h
    exact ⟨h.operation, h.last⟩
  · rintro ⟨hoperation, hlast⟩
    obtain ⟨hmember, hnamed⟩ := lastObject?_eq_some hlast
    exact ⟨hoperation, hmember, hnamed, hlast⟩

end Profile

namespace Registry

variable {r : Registry}

/-! ### Requests for a list of operations -/

theorem requests_eq_mapM (r : Registry) (profile : String) (os : List Operation) :
    r.requests profile os = os.mapM fun o => (r.object profile o.object).map (Request.mk o) := by
  induction os with
  | nil => rfl
  | cons o os ih =>
    rw [requests, ih, List.mapM_cons]
    cases r.object profile o.object <;> rfl

namespace Shows

variable {profile : String} {p : Profile}

theorem object_eq_ok (h : r.Shows profile p) {name : String} {o : DeviceObject} :
    r.object profile name = .ok o ↔ p.lastObject? name = some o := by
  rw [h.object]
  cases p.lastObject? name <;> simp

theorem object_eq_error (h : r.Shows profile p) {name : String} {e : GatewayError} :
    r.object profile name = .error e ↔ ¬ p.HasObject name ∧ e = .objectNotFound profile name := by
  rw [h.object, ← Profile.lastObject?_eq_none]
  cases p.lastObject? name <;> simp [eq_comm]

theorem requests_eq_ok (h : r.Shows profile p) {os : List Operation} {rs : List Request} :
    r.requests profile os = .ok rs ↔ List.Forall₂ p.Targets os rs := by
  have hstep : ∀ (o : Operation) (q : Request),
      (r.object profile o.object).map (Request.mk o) = .ok q ↔ p.Targets o q := by
    intro o q
    rw [map_eq_ok, Profile.targets_iff]
    simp only [h.object_eq_ok]
    constructor
    · rintro ⟨target, htarget, rfl⟩
      exact ⟨rfl, htarget⟩
    · rintro ⟨rfl, htarget⟩
      exact ⟨q.object, htarget, rfl⟩
  simp only [requests_eq_mapM, mapM_eq_ok, hstep]

/-- The target that is missing is the first one. -/
theorem requests_eq_error (h : r.Shows profile p) {os : List Operation} {e : GatewayError} :
    r.requests profile os = .error e ↔ ∃ before o after, os = before ++ o :: after ∧
      (∀ b ∈ before, p.HasObject b.object) ∧ ¬ p.HasObject o.object ∧
      e = .objectNotFound profile o.object := by
  have hfound : ∀ o : Operation,
      (∃ q, (r.object profile o.object).map (Request.mk o) = .ok q) ↔ p.HasObject o.object := by
    intro o
    rw [← not_iff_not, ← Profile.lastObject?_eq_none, h.object]
    cases p.lastObject? o.object <;> simp [Except.map]
  simp only [requests_eq_mapM, mapM_eq_error, map_eq_error, h.object_eq_error, hfound]

/-! ### Commands -/

/-- The four questions, in order. -/
theorem resolve_eq {d : Device} (h : r.Shows d.profile p) (limit : Nat) (command : String)
    (m : Method) : r.resolve limit d command m =
    if command ∈ p.commands then
      match p.lastOperations? command m with
      | none => .error (.commandNotFound d.profile command)
      | some os =>
        if limit < os.length then .error (.tooManyOperations d.name command os.length limit)
        else r.requests d.profile os
    else .error (.commandNotFound d.profile command) := by
  obtain ⟨declared, hdeclares, hdeclared⟩ := h.declares command
  unfold resolve
  simp only [hdeclares, h.operations, bind, Except.bind]
  cases declared with
  | false =>
    have hundeclared : command ∉ p.commands := by simpa using hdeclared
    simp [hundeclared]
  | true =>
    have hcommand : command ∈ p.commands := by simpa using hdeclared
    cases hos : p.lastOperations? command m with
    | none => simp [hcommand]
    | some os => simp [hcommand, Profile.lastOperations?_ne_nil hos]

end Shows

/-- All that a command needs to be resolved: the operations `os` are run for it. -/
structure Resolvable (r : Registry) (limit : Nat) (d : Device) (command : String) (m : Method)
    (p : Profile) (os : List Operation) : Prop where
  profile : r.profileByName d.profile = .ok p
  declared : command ∈ p.commands
  operations : p.lastOperations? command m = some os
  nonempty : os ≠ []
  within : os.length ≤ limit
  targets : ∀ o ∈ os, p.HasObject o.object

/-- Why a command is not resolved. Each reason counts only where those before it do not apply. -/
inductive Unresolved (r : Registry) (limit : Nat) (d : Device) (command : String) (m : Method) :
    GatewayError → Prop
  | noProfile (h : ∀ p, r.profileByName d.profile ≠ .ok p) :
    Unresolved r limit d command m (.profileNotFound d.profile)
  /-- The command is not declared, or it has no operations. -/
  | noCommand {p : Profile} (hp : r.profileByName d.profile = .ok p)
    (h : command ∉ p.commands ∨ ¬ p.HasOperations command m) :
    Unresolved r limit d command m (.commandNotFound d.profile command)
  | tooMany {p : Profile} {os : List Operation} (hp : r.profileByName d.profile = .ok p)
    (hdeclared : command ∈ p.commands) (hos : p.lastOperations? command m = some os)
    (h : limit < os.length) :
    Unresolved r limit d command m (.tooManyOperations d.name command os.length limit)
  | noObject {p : Profile} {before after : List Operation} {o : Operation}
    (hp : r.profileByName d.profile = .ok p) (hdeclared : command ∈ p.commands)
    (hos : p.lastOperations? command m = some (before ++ o :: after))
    (hlimit : (before ++ o :: after).length ≤ limit)
    (hbefore : ∀ b ∈ before, p.HasObject b.object) (h : ¬ p.HasObject o.object) :
    Unresolved r limit d command m (.objectNotFound d.profile o.object)

variable {limit : Nat} {d : Device} {command : String} {m : Method}

/-- A request has its object from the profile. -/
theorem Profile.Targets.hasObject {p : Profile} {os : List Operation} {rs : List Request}
    (h : List.Forall₂ p.Targets os rs) : ∀ o ∈ os, p.HasObject o.object := by
  have hboth : List.Forall₂ (fun o q => p.HasObject o.object ∧ p.Targets o q) os rs :=
    h.imp fun o q hq => ⟨⟨q.object, hq.member, hq.named⟩, hq⟩
  exact ((List.forall₂_and_left _ _).1 hboth).1

namespace Shows

variable {p : Profile} (h : r.Shows d.profile p)
include h

theorem resolve_eq_ok {rs : List Request} : r.resolve limit d command m = .ok rs ↔
    ∃ os, r.Resolvable limit d command m p os ∧ List.Forall₂ p.Targets os rs := by
  rw [h.resolve_eq]
  constructor
  · intro hrs
    split at hrs
    · next hdeclared =>
      split at hrs
      · cases hrs
      · next os hos =>
        split at hrs
        · cases hrs
        · next hlimit =>
          have htargets := h.requests_eq_ok.1 hrs
          exact ⟨os, ⟨h.profile, hdeclared, hos, Profile.lastOperations?_ne_nil hos,
            Nat.not_lt.1 hlimit, Profile.Targets.hasObject htargets⟩, htargets⟩
    · cases hrs
  · rintro ⟨os, hos, htargets⟩
    simp only [if_pos hos.declared, hos.operations, if_neg (Nat.not_lt.2 hos.within)]
    exact h.requests_eq_ok.2 htargets

/-- Nothing but the reasons given stands in the way of a command. -/
theorem exists_resolve {os : List Operation} (hos : r.Resolvable limit d command m p os) :
    ∃ rs, r.resolve limit d command m = .ok rs := by
  rw [h.resolve_eq]
  simp only [if_pos hos.declared, hos.operations, if_neg (Nat.not_lt.2 hos.within)]
  cases hrs : r.requests d.profile os with
  | ok rs => exact ⟨rs, rfl⟩
  | error e =>
    obtain ⟨before, o, after, rfl, -, hmissing, -⟩ := h.requests_eq_error.1 hrs
    exact absurd (hos.targets o (by simp)) hmissing

theorem resolve_eq_error {e : GatewayError} :
    r.resolve limit d command m = .error e ↔ r.Unresolved limit d command m e := by
  rw [h.resolve_eq]
  constructor
  · intro he
    split at he
    · next hdeclared =>
      split at he
      · next hnone =>
        cases he
        exact .noCommand h.profile (.inr (Profile.lastOperations?_eq_none.1 hnone))
      · next os hos =>
        split at he
        · next hlimit =>
          cases he
          exact .tooMany h.profile hdeclared hos hlimit
        · next hlimit =>
          obtain ⟨before, o, after, rfl, hbefore, hmissing, rfl⟩ := h.requests_eq_error.1 he
          exact .noObject h.profile hdeclared hos (Nat.not_lt.1 hlimit) hbefore hmissing
    · next hundeclared =>
      cases he
      exact .noCommand h.profile (.inl hundeclared)
  · have hsame : ∀ {q : Profile}, r.profileByName d.profile = .ok q → q = p := fun hq =>
      Except.ok.inj (hq.symm.trans h.profile)
    intro he
    cases he with
    | noProfile hnone => exact absurd h.profile (hnone p)
    | noCommand hq hnone =>
      obtain rfl := hsame hq
      rcases hnone with hundeclared | hnone
      · rw [if_neg hundeclared]
      · rw [Profile.lastOperations?_eq_none.2 hnone]
        exact ite_self _
    | tooMany hq hdeclared hos hlimit =>
      obtain rfl := hsame hq
      simp only [if_pos hdeclared, hos, if_pos hlimit]
    | noObject hq hdeclared hos hlimit hbefore hmissing =>
      obtain rfl := hsame hq
      simp only [if_pos hdeclared, hos, if_neg (Nat.not_lt.2 hlimit)]
      exact h.requests_eq_error.2 ⟨_, _, _, rfl, hbefore, hmissing, rfl⟩

end Shows

namespace Lacks

variable (h : r.Lacks d.profile)
include h

theorem not_resolvable (p : Profile) (os : List Operation) :
    ¬ r.Resolvable limit d command m p os := by
  intro hos
  cases h.profile.symm.trans hos.profile

/-- Without a profile there is nothing to resolve. -/
theorem resolve_eq :
    r.resolve limit d command m = .error (.profileNotFound d.profile) := by
  simp only [resolve, h.declares, bind, Except.bind]

theorem resolve_eq_error {e : GatewayError} :
    r.resolve limit d command m = .error e ↔ r.Unresolved limit d command m e := by
  have hnone : ∀ p, r.profileByName d.profile ≠ .ok p := by
    intro p hp
    cases h.profile.symm.trans hp
  rw [h.resolve_eq]
  constructor
  · rintro ⟨⟩
    exact .noProfile hnone
  · intro he
    cases he with
    | noProfile => rfl
    | noCommand hp | tooMany hp | noObject hp => exact absurd hp (hnone _)

end Lacks

/-- A command of a device is resolved exactly if the profile of the device is known and declares
it, the operations that it has for the method are not too many, and the object that each of them
is aimed at is in the profile. Then there is one request for each operation, in order, with its
object; else the reason is the first that applies. -/
theorem Reachable.resolve_exact (h : r.Reachable) (limit : Nat) (d : Device) (command : String)
    (m : Method) :
    ((∃ rs, r.resolve limit d command m = .ok rs) ↔
      ∃ p os, r.Resolvable limit d command m p os) ∧
    (∀ p os, r.Resolvable limit d command m p os → ∃ rs,
      r.resolve limit d command m = .ok rs ∧ rs.length = os.length ∧
        List.Forall₂ p.Targets os rs) ∧
    ∀ e, r.resolve limit d command m = .error e ↔ r.Unresolved limit d command m e := by
  rcases h.lacks_or_shows d.profile with hlacks | ⟨p, hshows⟩
  · refine ⟨?_, fun p os hos => absurd hos (hlacks.not_resolvable p os), fun e =>
      hlacks.resolve_eq_error⟩
    simp [hlacks.resolve_eq, hlacks.not_resolvable]
  · have hfound : ∀ q os, r.Resolvable limit d command m q os → ∃ rs,
        r.resolve limit d command m = .ok rs ∧ rs.length = os.length ∧
          List.Forall₂ q.Targets os rs := by
      intro q os hos
      obtain rfl : q = p := Except.ok.inj (hos.profile.symm.trans hshows.profile)
      obtain ⟨rs, hrs⟩ := hshows.exists_resolve hos
      obtain ⟨os', hos', htargets⟩ := hshows.resolve_eq_ok.1 hrs
      obtain rfl : os' = os := Option.some.inj (hos'.operations.symm.trans hos.operations)
      exact ⟨rs, hrs, htargets.length_eq.symm, htargets⟩
    refine ⟨⟨fun ⟨rs, hrs⟩ => ?_, fun ⟨q, os, hos⟩ => ?_⟩, hfound,
      fun e => hshows.resolve_eq_error⟩
    · obtain ⟨os, hos, -⟩ := hshows.resolve_eq_ok.1 hrs
      exact ⟨p, os, hos⟩
    · obtain ⟨rs, hrs, -⟩ := hfound q os hos
      exact ⟨rs, hrs⟩

/-- Of several resources of one name and objects of one name the last count; of targets that are
missing the first is named, unless there are too many operations anyway. -/
theorem resolve_exact_repeated :
    let read := Operation.ofNames "get"
    let meter : Profile := {
      name := "Meter"
      objects := [.ofSpec "Level" (.plain .int16), .ofSpec "Flow" (.plain .float32),
        .ofSpec "Level" (.plain .uint8)]
      resources := [⟨"Both", [read "Flow"], []⟩,
        ⟨"Both", [read "Level", read "Flow", read "Level"], []⟩, ⟨"Both", [], [read "Flow"]⟩,
        ⟨"Far", [read "Level", read "Depth", read "Heat"], []⟩]
      commands := ["Both", "Far"] }
    let r := Registry.empty.putProfile meter
    let d := Device.ofNames "1" "Pump" "Meter"
    r.Reachable ∧
    (∃ rs, r.resolve 3 d "Both" .get = .ok rs ∧ rs.length = 3 ∧
      List.Forall₂ meter.Targets [read "Level", read "Flow", read "Level"] rs) ∧
    r.resolve 3 d "Far" .get = .error (.objectNotFound "Meter" "Depth") ∧
    r.resolve 2 d "Far" .get = .error (.tooManyOperations "Pump" "Far" 3 2) := by
  intro read meter r d
  have hreached : r.Reachable := .step .empty (.addProfile rfl)
  have hboth : r.Resolvable 3 d "Both" .get meter [read "Level", read "Flow", read "Level"] :=
    ⟨rfl, by decide, rfl, by decide, by decide, by decide⟩
  have hfar : meter.lastOperations? "Far" .get =
      some ([read "Level"] ++ read "Depth" :: [read "Heat"]) := rfl
  have hmissing : r.Unresolved 3 d "Far" .get (.objectNotFound "Meter" "Depth") :=
    .noObject rfl (by decide) hfar (by decide) (by decide) (by decide)
  have hcrowded : r.Unresolved 2 d "Far" .get (.tooManyOperations "Pump" "Far" 3 2) :=
    .tooMany rfl (by decide) hfar (by decide)
  exact ⟨hreached, (hreached.resolve_exact 3 d "Both" .get).2.1 _ _ hboth,
    ((hreached.resolve_exact 3 d "Far" .get).2.2 _).2 hmissing,
    ((hreached.resolve_exact 2 d "Far" .get).2.2 _).2 hcrowded⟩

end Registry

end DeviceGateway
