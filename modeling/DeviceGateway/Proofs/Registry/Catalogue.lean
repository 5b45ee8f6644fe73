import DeviceGateway.Proofs.Table
import DeviceGateway.Registry.Catalogue

/-! What is looked up in a catalogue, said of its profile alone: which of several objects of one
name is found, which of several resources of one name has its operations run, and through
which operation an unsolicited value is read. -/

namespace DeviceGateway

namespace Profile

variable (p : Profile)

/-- The last object of the name. -/
def lastObject? (name : String) : Option DeviceObject :=
  p.objects.reverse.find? (·.name = name)

/-- The operations of the last resource of the name that has any for the method. -/
def lastOperations? (name : String) (m : Method) : Option (List Operation) :=
  (p.resources.reverse.find? fun r => r.name = name ∧ r.operations m ≠ []).map (·.operations m)

/-- The first operation that reads the object, of the resources that are of a kind. -/
def firstRead? (ofKind : Resource → Bool) (object : String) : Option Operation :=
  ((p.resources.filter ofKind).flatMap (·.get)).find? (·.object = object)

/-- The operation that reads the object in the resource of its name or else in another. -/
def preferredRead? (object : String) : Option Operation :=
  (p.firstRead? (·.name = object) object).or (p.firstRead? (·.name ≠ object) object)

end Profile

namespace Catalogue

variable (p : Profile)

theorem objects_ofProfile (name : String) :
    (ofProfile p).objects.get? name = p.lastObject? name := by
  simp only [ofProfile, Table.get?_ofList, Profile.lastObject?, ← List.map_reverse,
    List.find?_map, Option.map_map]
  exact congrFun Option.map_id _

theorem operations?_eq_lastOperations? (command : String) (m : Method) :
    (ofProfile p).operations? command m = p.lastOperations? command m := by
  have hlists : (ofProfile p).operations? command m =
      (Table.ofList (p.operationLists m)).get? command := by
    cases m <;> rfl
  simp only [hlists, Table.get?_ofList, Profile.operationLists, Profile.lastOperations?,
    ← List.map_reverse, ← List.filter_reverse, List.find?_map, List.find?_filter, Option.map_map]
  congr 2
  funext r
  simp [Bool.and_comm]

/-! ### Reads -/

/-- Of one resource, the pairs that are picked read an object if the resource is picked. -/
theorem find?_resourceReads {name : String} {os : List Operation}
    {pick : String × Operation → Bool} {picked : Bool} {object : String}
    (h : ∀ o ∈ os, o.object = object → pick (name, o) = picked) :
    (((os.map fun o => (name, o)).filter pick).map (·.2)).find? (·.object = object) =
      if picked then os.find? (·.object = object) else none := by
  induction os with
  | nil => simp
  | cons o os ih =>
    obtain ⟨ho, hos⟩ := List.forall_mem_cons.1 h
    rw [List.map_cons, List.filter_cons]
    by_cases hobject : o.object = object
    · rw [ho hobject]
      cases picked with
      | false => simpa using ih hos
      | true => simp [hobject]
    · split <;> simp [hobject, ih hos]

/-- The pairs that are picked read an object as the resources that are picked do. -/
theorem find?_readOperations (pick : String × Operation → Bool) (ofKind : Resource → Bool)
    (object : String)
    (h : ∀ r : Resource, ∀ o ∈ r.get, o.object = object → pick (r.name, o) = ofKind r) :
    ((p.readOperations.filter pick).map (·.2)).find? (·.object = object) =
      p.firstRead? ofKind object := by
  unfold Profile.readOperations Profile.firstRead?
  induction p.resources with
  | nil => rfl
  | cons r rs ih =>
    rw [List.flatMap_cons, List.filter_append, List.map_append, List.find?_append,
      find?_resourceReads (h r), ih, List.filter_cons]
    split <;> simp

/-- Reads in the resource of the name of an object go before those in other resources. -/
theorem reads_ofProfile (object : String) :
    (ofProfile p).reads.get? object = p.preferredRead? object := by
  have hown := find?_readOperations p (fun e => e.1 = e.2.object) (·.name = object) object
    (by simp_all)
  have hother := find?_readOperations p (fun e => e.1 ≠ e.2.object) (·.name ≠ object) object
    (by simp_all)
  simp only [ofProfile, Table.get?_foldl_insertNew, Table.get?_empty, Option.none_or,
    Profile.readPreference, List.partition_eq_filter_filter, List.map_append, List.find?_append]
  rw [Profile.preferredRead?, ← hown, ← hother]
  simp

end Catalogue

end DeviceGateway
