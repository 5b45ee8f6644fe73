import DeviceGateway.Intake
import DeviceGateway.Proofs.Registry.Profiles
import DeviceGateway.Registry.Resolve

/-! Reads of pushed values beside those of commands. Both come from the resources of a profile, but
where resources share a name the last of them is run for commands, and pushed values may be read
through any. So a read belongs to a command exactly if it is among the operations of a resource
that no later one displaces. -/

namespace DeviceGateway

namespace Profile

/-- The resource has operations for the method, and no later one of its name has any. -/
structure IsCurrent (p : Profile) (m : Method) (q : Resource) : Prop where
  listed : ∃ before after, p.resources = before ++ q :: after ∧
    ∀ later ∈ after, later.name = q.name → later.operations m = []
  some : q.operations m ≠ []

variable {p : Profile} {m : Method} {object : String} {o : Operation}

/-- The operations that are found under a name are those of the current resource of it. -/
theorem lastOperations?_eq_some_iff {command : String} {os : List Operation} :
    p.lastOperations? command m = some os ↔
      ∃ q, p.IsCurrent m q ∧ q.name = command ∧ q.operations m = os := by
  simp only [lastOperations?, Option.map_eq_some_iff, List.find?_eq_some_iff_append]
  constructor
  · rintro ⟨q, ⟨hq, after, before, hreverse, hlater⟩, hos⟩
    obtain ⟨hname, hsome⟩ : q.name = command ∧ q.operations m ≠ [] := by simpa using hq
    have hresources : p.resources = before.reverse ++ q :: after.reverse := by
      rw [← List.reverse_reverse p.resources, hreverse]
      simp
    refine ⟨q, ⟨⟨_, _, hresources, fun later hmem hsame => ?_⟩, hsome⟩, hname, hos⟩
    have hnot := hlater later (List.mem_reverse.1 hmem)
    simpa [hsame, hname] using hnot
  · rintro ⟨q, ⟨⟨before, after, hresources, hlater⟩, hsome⟩, rfl, hos⟩
    refine ⟨q, ⟨by simpa using hsome, after.reverse, before.reverse, by simp [hresources], ?_⟩, hos⟩
    intro later hmem
    simpa [Decidable.imp_iff_not_or] using hlater later (List.mem_reverse.1 hmem)

/-- What reads an object is an operation of some resource, and is aimed at the object. -/
theorem exists_resource_of_preferredRead? (h : p.preferredRead? object = some o) :
    ∃ q ∈ p.resources, o ∈ q.get ∧ o.object = object := by
  have hfirst : ∀ ofKind : Resource → Bool, p.firstRead? ofKind object = some o →
      ∃ q ∈ p.resources, o ∈ q.get ∧ o.object = object := by
    intro ofKind hread
    obtain ⟨q, hq, ho⟩ := List.mem_flatMap.1 (List.mem_of_find?_eq_some hread)
    exact ⟨q, (List.mem_filter.1 hq).1, ho, by simpa using List.find?_some hread⟩
  rcases Option.or_eq_some_iff.1 h with h | ⟨-, h⟩
  · exact hfirst _ h
  · exact hfirst _ h

/-- Where no two resources with operations share a name, all of them are current. -/
theorem isCurrent_of_pairwise
    (h : (p.resources.filter (·.operations m ≠ [])).Pairwise (·.name ≠ ·.name)) {q : Resource}
    (hq : q ∈ p.resources) (hsome : q.operations m ≠ []) : p.IsCurrent m q := by
  obtain ⟨before, after, hresources⟩ := List.append_of_mem hq
  refine ⟨⟨before, after, hresources, fun later hmem hsame => ?_⟩, hsome⟩
  refine Decidable.byContradiction fun hlater => ?_
  rw [hresources, List.filter_append, List.filter_cons, if_pos (by simpa using hsome),
    List.pairwise_append, List.pairwise_cons] at h
  exact h.2.1.1 later (List.mem_filter.2 ⟨hmem, by simpa using hlater⟩) hsame.symm

end Profile

namespace Registry

variable {r r' : Registry} {p : Profile}

/-- A profile that is accepted is the one that is looked up. -/
theorem shows_of_accepted (h : r.addProfile p = .ok r' ∨ r.updateProfile p = .ok r') :
    r'.Shows p.name p := by
  have hput : r' = r.putProfile p := by
    rcases h with h | h
    · unfold addProfile at h
      split at h <;> cases h
      rfl
    · unfold updateProfile at h
      split at h <;> cases h
      rfl
  rw [hput]
  exact .of_catalogue (Table.get?_insert_self ..)

/-- A command reads through the operation exactly if a current resource has it. -/
theorem Shows.exists_command_iff (h : r.Shows p.name p) (o : Operation) :
    (∃ c os, r.operations p.name c .get = .ok os ∧ o ∈ os) ↔
      ∃ q, p.IsCurrent .get q ∧ o ∈ q.get := by
  have hfound : ∀ c os, r.operations p.name c .get = .ok os ↔
      p.lastOperations? c .get = some os := by
    intro c os
    rw [h.operations]
    cases p.lastOperations? c .get <;> simp
  simp only [hfound, Profile.lastOperations?_eq_some_iff]
  constructor
  · rintro ⟨c, os, ⟨q, hq, -, rfl⟩, ho⟩
    exact ⟨q, hq, ho⟩
  · rintro ⟨q, hq, ho⟩
    exact ⟨q.name, q.get, ⟨q, hq, rfl, rfl⟩, ho⟩

/-- The operation through which pushed values of an object are read is one that some resource has
for the object. Commands run it as well exactly if a current resource has it, and that is always so
where no two resources that read share a name. A pushed value is mapped by nothing else. -/
theorem reads_backed_iff (h : r.addProfile p = .ok r' ∨ r.updateProfile p = .ok r') :
    (∀ object o, r'.readOperation? p.name object = some o →
      (∃ q ∈ p.resources, o ∈ q.get ∧ o.object = object) ∧
      ((∃ c os, r'.operations p.name c .get = .ok os ∧ o ∈ os) ↔
        ∃ q, p.IsCurrent .get q ∧ o ∈ q.get)) ∧
    ((p.resources.filter (·.operations .get ≠ [])).Pairwise (·.name ≠ ·.name) →
      ∀ object o, r'.readOperation? p.name object = some o →
        ∃ c os, r'.operations p.name c .get = .ok os ∧ o ∈ os) ∧
    ∀ v request, Batch.request? r' p.name v = some request →
      r'.readOperation? p.name request.object.name = some request.operation ∨
        request.operation.mappings = ∅ := by
  have hshows := shows_of_accepted h
  have hread : ∀ object o, r'.readOperation? p.name object = some o →
      ∃ q ∈ p.resources, o ∈ q.get ∧ o.object = object := by
    intro object o ho
    rw [hshows.read] at ho
    exact Profile.exists_resource_of_preferredRead? ho
  refine ⟨fun object o ho => ⟨hread object o ho, hshows.exists_command_iff o⟩,
    fun hdistinct object o ho => ?_, fun v request hrequest => ?_⟩
  · obtain ⟨q, hq, ho, -⟩ := hread object o ho
    have hcurrent := Profile.isCurrent_of_pairwise hdistinct hq (List.ne_nil_of_mem ho)
    exact (hshows.exists_command_iff o).2 ⟨q, hcurrent, ho⟩
  · unfold Batch.request? at hrequest
    split at hrequest
    · cases hrequest
    · next found hfound =>
      cases hrequest
      cases hread : r'.readOperation? p.name found.name with
      | none => exact .inr rfl
      | some o => exact .inl rfl

/-- A read of a switch that shows a one as the text. -/
def shown (text : String) : Operation :=
  { Operation.ofNames "get" "Switch" with mappings := (∅ : Table String).insert "1" text }

/-- A panel with one switch. -/
def panel (resources : List Resource) : Profile :=
  { name := "Panel", objects := [.ofSpec "Switch" (.plain .uint8)], resources,
    commands := ["Switch"] }

/-- The resource of the name of an object is preferred, and the other one is no matter. -/
theorem reads_backed_iff_panel :
    let p := panel [⟨"Both", [shown "OPEN"], []⟩, ⟨"Switch", [shown "ON"], []⟩]
    let r := Registry.empty.putProfile p
    Registry.empty.addProfile p = .ok r ∧ r.readOperation? "Panel" "Switch" = some (shown "ON") ∧
      ∃ c os, r.operations "Panel" c .get = .ok os ∧ shown "ON" ∈ os := by
  intro p r
  have hadded : Registry.empty.addProfile p = .ok r := rfl
  have hread : r.readOperation? "Panel" "Switch" = some (shown "ON") := rfl
  have hdistinct : (p.resources.filter (·.operations .get ≠ [])).Pairwise (·.name ≠ ·.name) := by
    decide
  exact ⟨hadded, hread, (reads_backed_iff (.inl hadded)).2.1 hdistinct "Switch" _ hread⟩

/-- Of two resources of that name the first is read, and the second is run: a pushed one is shown
as a text that no command shows. -/
theorem unbacked_read_panel :
    let p := panel [⟨"Switch", [shown "ON"], []⟩, ⟨"Switch", [shown "OPEN"], []⟩]
    let r := Registry.empty.putProfile p
    let one := TypedValue.ofInteger "Switch" 7 .uint8 1
    let object := DeviceObject.ofSpec "Switch" (.plain .uint8)
    Registry.empty.addProfile p = .ok r ∧ r.readOperation? "Panel" "Switch" = some (shown "ON") ∧
      (∀ c os, r.operations "Panel" c .get = .ok os → shown "ON" ∉ os) ∧
      Batch.request? r "Panel" one = some ⟨shown "ON", object⟩ ∧
      r.resolve 1 (.ofNames "1" "Wall" "Panel") "Switch" .get = .ok [⟨shown "OPEN", object⟩] ∧
      (shown "ON").mapValue one = .ok (.ofString "Switch" 7 "ON") ∧
      (shown "OPEN").mapValue one = .ok (.ofString "Switch" 7 "OPEN") := by
  intro p r one object
  refine ⟨rfl, rfl, fun c os hos => ?_, rfl, rfl, rfl, rfl⟩
  have hadded : Registry.empty.addProfile p = .ok r := rfl
  have hshows : r.Shows "Panel" p := shows_of_accepted (.inl hadded)
  rw [hshows.operations] at hos
  by_cases hc : c = "Switch"
  · subst hc
    obtain rfl : [shown "OPEN"] = os := Except.ok.inj hos
    decide
  · have hnone : p.lastOperations? c .get = none := by
      simp [Profile.lastOperations?, p, panel, Ne.symm hc]
    rw [hnone] at hos
    cases hos

end Registry

end DeviceGateway
