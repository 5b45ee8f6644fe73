import DeviceGateway.Proofs.Except
import DeviceGateway.Value.Transform

/-! The label of a value: its kind, its resource and its time. A text is read as a value
with the label that is asked for, and a transform that succeeds keeps the label. -/

namespace DeviceGateway

/-- No two kinds are laid out in the same way. -/
theorem ValueKind.eq_of_layout_eq {k l : ValueKind} (h : k.layout = l.layout) : k = l := by
  cases k <;> cases l <;> first | rfl | cases h

namespace TypedValue

/-- `w` has the kind, the resource and the time of `v`. -/
structure SameLabel (v w : TypedValue) : Prop where
  kind : w.kind = v.kind
  resource : w.resource = v.resource
  origin : w.origin = v.origin

theorem SameLabel.refl (v : TypedValue) : v.SameLabel v := ⟨rfl, rfl, rfl⟩

/-! ### Parsing -/

/-- What a text denotes in a kind is stored under that kind. -/
theorem kind_ofNative {kind : ValueKind} {text : String} {n : Native}
    (h : native? kind text = .ok n) (resource : String) (origin : Int64) :
    (ofNative resource origin kind n).kind = kind := by
  simp only [native?] at h
  split at h
  · next hl =>
    rw [ValueKind.eq_of_layout_eq (l := .bool) hl]
    split at h
    · cases h
      rfl
    · split at h <;> cases h
      rfl
  · next hl =>
    cases h
    rw [ValueKind.eq_of_layout_eq (l := .string) hl]
    rfl
  · split at h <;> cases h
    rfl
  · next hl =>
    rw [ValueKind.eq_of_layout_eq (l := .float32) hl]
    split at h <;> cases h
    rfl
  · next hl =>
    rw [ValueKind.eq_of_layout_eq (l := .float64) hl]
    split at h <;> cases h
    rfl

theorem resource_ofNative (resource : String) (origin : Int64) (kind : ValueKind) (n : Native) :
    (ofNative resource origin kind n).resource = resource := by
  cases n <;> rfl

theorem origin_ofNative (resource : String) (origin : Int64) (kind : ValueKind) (n : Native) :
    (ofNative resource origin kind n).origin = origin := by
  cases n <;> rfl

theorem parse_label {kind : ValueKind} {resource : String} {origin : Int64} {text : String}
    {v : TypedValue} (h : parse kind resource origin text = .ok v) :
    v.kind = kind ∧ v.resource = resource ∧ v.origin = origin := by
  unfold parse at h
  split at h
  · next n hn =>
    cases h
    exact ⟨kind_ofNative hn resource origin, resource_ofNative .., origin_ofNative ..⟩
  · cases h

/-! ### Transforms -/

theorem replace_label {v w : TypedValue} {x : Double} (h : v.replace x = .ok w) :
    v.SameLabel w := by
  unfold replace at h
  split at h
  · cases h
  · next hl =>
    cases h
    exact ⟨(ValueKind.eq_of_layout_eq (l := .string) hl).symm, rfl, rfl⟩
  · next signed bytes _ =>
    cases hf : fitInteger x v.kind signed bytes with
    | error e => rw [hf] at h; cases h
    | ok n =>
      rw [hf] at h
      cases h
      exact ⟨rfl, rfl, rfl⟩
  · next hl =>
    split at h <;> cases h
    exact ⟨(ValueKind.eq_of_layout_eq (l := .float32) hl).symm, rfl, rfl⟩
  · next hl =>
    cases h
    exact ⟨(ValueKind.eq_of_layout_eq (l := .float64) hl).symm, rfl, rfl⟩

/-- What is read as a number, changed and stored keeps its label. -/
theorem replaced_label {v w : TypedValue} {f : Double → Except GatewayError Double}
    (h : (v.toDouble >>= fun x => f x >>= fun y => v.replace y) = .ok w) : v.SameLabel w := by
  obtain ⟨x, -, h⟩ := bind_eq_ok.1 h
  obtain ⟨y, -, h⟩ := bind_eq_ok.1 h
  exact replace_label h

end TypedValue

namespace ValueSpec

variable {s : ValueSpec} {v w : TypedValue}

/-- A transform that succeeds keeps the label: what it stores is stored in the value. -/
theorem outbound_label (h : s.outbound v = .ok w) : v.SameLabel w := by
  unfold outbound at h
  split at h
  · exact TypedValue.replaced_label h
  · cases h
    exact .refl v

theorem inbound_label (h : s.inbound v = .ok w) : v.SameLabel w := by
  unfold inbound at h
  split at h
  · exact TypedValue.replaced_label h
  · cases h
    exact .refl v

end ValueSpec

/-- A mapping keeps the time of a value. -/
theorem Operation.origin_mapValue {o : Operation} {v w : TypedValue} (h : o.mapValue v = .ok w) :
    w.origin = v.origin := by
  unfold mapValue at h
  split at h
  · cases h
    rfl
  · split at h <;> cases h
    rfl

end DeviceGateway
