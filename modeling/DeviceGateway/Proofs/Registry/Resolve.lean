import DeviceGateway.Proofs.Except
import DeviceGateway.Proofs.Table
import DeviceGateway.Registry.Resolve

/-! What a command resolves to: its operations in the order in which the profile lists
them, each with the object that it is aimed at. -/

namespace DeviceGateway

/-- The operations of a command are those of a resource of that name. -/
theorem Catalogue.operations?_ofProfile {p : Profile} {command : String} {m : Method}
    {os : List Operation} (h : (ofProfile p).operations? command m = some os) :
    ∃ q ∈ p.resources, q.name = command ∧ q.operations m = os := by
  have hmem : (command, os) ∈ p.operationLists m := by
    cases m <;> exact Table.mem_of_get?_ofList h
  obtain ⟨q, hq, heq⟩ := List.mem_map.1 hmem
  obtain ⟨rfl, rfl⟩ := Prod.mk.inj heq
  exact ⟨q, (List.mem_filter.1 hq).1, rfl, rfl⟩

namespace Registry

variable {r : Registry}

theorem requests_eq_ok {profile : String} {os : List Operation} {rs : List Request}
    (h : r.requests profile os = .ok rs) :
    rs.map (·.operation) = os ∧
      ∀ q ∈ rs, r.object profile q.operation.object = .ok q.object := by
  induction os generalizing rs with
  | nil =>
    cases h
    simp
  | cons o os ih =>
    simp only [requests, bind_eq_ok, pure_eq_ok] at h
    obtain ⟨target, htarget, rest, hrest, rfl⟩ := h
    obtain ⟨hops, hobjects⟩ := ih hrest
    refine ⟨by rw [List.map_cons, hops], fun q hq => ?_⟩
    rcases List.mem_cons.1 hq with rfl | hq
    · exact htarget
    · exact hobjects q hq

theorem operations_eq_ok {profile command : String} {m : Method} {os : List Operation}
    (h : r.operations profile command m = .ok os) :
    ∃ c, r.catalogue profile = .ok c ∧ c.operations? command m = some os := by
  obtain ⟨c, hc, h⟩ := bind_eq_ok.1 h
  refine ⟨c, hc, ?_⟩
  split at h <;> cases h
  assumption

theorem resolve_eq_ok {limit : Nat} {d : Device} {command : String} {m : Method}
    {rs : List Request} (h : r.resolve limit d command m = .ok rs) :
    r.operations d.profile command m = .ok (rs.map (·.operation)) ∧
      ∀ q ∈ rs, r.object d.profile q.operation.object = .ok q.object := by
  unfold resolve at h
  obtain ⟨declared, -, h⟩ := bind_eq_ok.1 h
  split at h
  · cases h
  · obtain ⟨os, hos, h⟩ := bind_eq_ok.1 h
    split at h
    · cases h
    · split at h
      · cases h
      · obtain ⟨hops, hobjects⟩ := requests_eq_ok h
        exact ⟨hops ▸ hos, hobjects⟩

end Registry

end DeviceGateway
