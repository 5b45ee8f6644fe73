import DeviceGateway.Profile.Basic

/-! Catalogues: a profile with the tables that are derived from it. A catalogue is only
ever built from its profile, so that its tables cannot differ from it. -/

namespace DeviceGateway

/-- A profile, and what commands and unsolicited values look up in it. -/
structure Catalogue where
  profile : Profile
  objects : Table DeviceObject
  /-- The operations of each resource that has some, for either method. -/
  getOperations : Table (List Operation)
  setOperations : Table (List Operation)
  /-- The operation through which an unsolicited value of each object is read. -/
  reads : Table Operation

/-! ### What the tables are built from -/

namespace Profile

/-- The operation lists of the resources by name, for one method; empty lists are left
out. -/
def operationLists (p : Profile) (m : Method) : List (String × List Operation) :=
  (p.resources.filter fun r => !(r.operations m).isEmpty).map fun r => (r.name, r.operations m)

/-- Every operation that reads, with the name of its resource, in order. -/
def readOperations (p : Profile) : List (String × Operation) :=
  p.resources.flatMap fun r => r.get.map fun o => (r.name, o)

/-- The operations that read, first those of resources named after their object. -/
def readPreference (p : Profile) : List Operation :=
  let (own, composite) := p.readOperations.partition fun (name, o) => name = o.object
  (own ++ composite).map (·.2)

end Profile

namespace Catalogue

/-- The catalogue of a profile. Of objects with one name the last counts, as of
resources with one name and some operations; of several reads of an object the first
in order of preference. -/
def ofProfile (p : Profile) : Catalogue where
  profile := p
  objects := Table.ofList (p.objects.map fun o => (o.name, o))
  getOperations := Table.ofList (p.operationLists .get)
  setOperations := Table.ofList (p.operationLists .set)
  reads := p.readPreference.foldl (fun t o => t.insertNew o.object o) ∅

instance : Inhabited Catalogue := ⟨ofProfile default⟩

def operations? (c : Catalogue) (command : String) : Method → Option (List Operation)
  | .get => c.getOperations.get? command
  | .set => c.setOperations.get? command

end Catalogue

end DeviceGateway
