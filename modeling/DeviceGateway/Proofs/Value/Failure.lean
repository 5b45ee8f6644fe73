import DeviceGateway.Proofs.Except
import DeviceGateway.Value.Transform

/-! What a transform fails with. It fails by a value or a parameter that cannot be read as a
number, or by a result that cannot be stored, and inbound by nothing else. -/

namespace DeviceGateway

/-- Something could not be read as a number, or a number not be stored. -/
def GatewayError.isConversion : GatewayError → Bool
  | .transformParse _ | .overflow .. => true
  | _ => false

/-! ### Values -/

namespace TypedValue

theorem toDouble_error {v : TypedValue} {e : GatewayError} (h : v.toDouble = .error e) :
    e.isConversion := by
  unfold toDouble at h
  split at h <;> cases h
  rfl

theorem replace_error {v : TypedValue} {x : Double} {e : GatewayError}
    (h : v.replace x = .error e) : e.isConversion := by
  unfold replace at h
  split at h
  · cases h
    rfl
  · cases h
  · rw [fitInteger_error (map_eq_error.1 h)]
    rfl
  · split at h <;> cases h
    rfl
  · cases h

end TypedValue

namespace ValueSpec

/-! ### Steps -/

theorem parameter_error {name raw : String} {e : GatewayError}
    (h : parameter name raw = .error e) : e.isConversion := by
  unfold parameter at h
  split at h <;> cases h
  rfl

/-- The parameter is set, and to a number. -/
structure SetTo (name raw : String) (p : Double) : Prop where
  set : raw ≠ ""
  read : parameter name raw = .ok p

section Step

variable {name raw : String} {x y : Double} {f : Double → Except GatewayError Double}
  {e : GatewayError}

theorem step_of_setTo {p : Double} (h : SetTo name raw p) : step name raw x f = f p := by
  rw [step, if_neg h.set, h.read]
  rfl

theorem step_eq_ok : step name raw x f = .ok y ↔
    raw = "" ∧ x = y ∨ ∃ p, SetTo name raw p ∧ f p = .ok y := by
  constructor
  · intro h
    by_cases hraw : raw = ""
    · rw [step, if_pos hraw] at h
      cases h
      exact .inl ⟨hraw, rfl⟩
    · rw [step, if_neg hraw, bind_eq_ok] at h
      obtain ⟨p, hp, hf⟩ := h
      exact .inr ⟨p, ⟨hraw, hp⟩, hf⟩
  · rintro (⟨rfl, rfl⟩ | ⟨p, hp, hf⟩)
    · rfl
    · rwa [step_of_setTo hp]

/-- The parameter is unset, or set to a number that is taken. -/
def Permits (name raw : String) (taken : Double → Prop) : Prop :=
  raw = "" ∨ ∃ p, SetTo name raw p ∧ taken p

theorem exists_step_iff : (∃ y, step name raw x f = .ok y) ↔
    Permits name raw fun p => ∃ y, f p = .ok y := by
  constructor
  · rintro ⟨y, hy⟩
    rcases step_eq_ok.1 hy with ⟨hraw, -⟩ | ⟨p, hp, hf⟩
    · exact .inl hraw
    · exact .inr ⟨p, hp, y, hf⟩
  · rintro (hraw | ⟨p, hp, y, hf⟩)
    · exact ⟨x, step_eq_ok.2 (.inl ⟨hraw, rfl⟩)⟩
    · exact ⟨y, step_eq_ok.2 (.inr ⟨p, hp, hf⟩)⟩

/-- A step fails that has a parameter, by the parameter or by what is done with it. -/
theorem step_fails (h : step name raw x f = .error e) :
    e.isConversion ∨ ∃ p, SetTo name raw p ∧ f p = .error e := by
  unfold step at h
  split at h
  · cases h
  · next hraw =>
    rcases bind_eq_error.1 h with h | ⟨p, hp, hf⟩
    · exact .inl (parameter_error h)
    · exact .inr ⟨p, ⟨hraw, hp⟩, hf⟩

end Step

/-- A step that can only fail by its parameter. -/
theorem step_error {name raw : String} {x : Double} {f : Double → Double} {e : GatewayError}
    (h : step name raw x (fun p => .ok (f p)) = .error e) : e.isConversion := by
  rcases step_fails h with h | ⟨p, -, h⟩
  · exact h
  · cases h

/-! ### Inbound -/

theorem inboundNumber_error {s : ValueSpec} {x : Double} {e : GatewayError}
    (h : s.inboundNumber x = .error e) : e.isConversion := by
  rcases bind_eq_error.1 h with h | ⟨y, -, h⟩
  · exact step_error h
  · rcases bind_eq_error.1 h with h | ⟨z, -, h⟩
    · exact step_error h
    · exact step_error h

theorem inbound_error {s : ValueSpec} {v : TypedValue} {e : GatewayError}
    (h : s.inbound v = .error e) : e.isConversion := by
  unfold inbound at h
  split at h
  · rcases bind_eq_error.1 h with h | ⟨x, -, h⟩
    · exact TypedValue.toDouble_error h
    · rcases bind_eq_error.1 h with h | ⟨y, -, h⟩
      · exact inboundNumber_error h
      · exact TypedValue.replace_error h
  · cases h

end ValueSpec

end DeviceGateway
