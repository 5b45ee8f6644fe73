import DeviceGateway.Json.Decode
import DeviceGateway.Proofs.Except
import Mathlib.Data.List.Nodup

/-! What a record is decoded from. Members are visited without a fault exactly if no field is given
twice and every field that is given passes its check, and items exactly if there are not too many
of them, nor too few, and each passes the check of the field in its place. -/

namespace DeviceGateway.Json

theorem then_eq_ok {ε β : Type} {x : Except ε Unit} {y : Except ε β} {b : β} :
    (x >>= fun _ => y) = .ok b ↔ x = .ok () ∧ y = .ok b := by
  cases x <;> simp [bind, Except.bind]

/-- The value under a key, of several the first. -/
def lookUp (ms : List (String × Json)) (k : String) : Option Json :=
  (ms.find? (·.1 = k)).map (·.2)

section LookUp

variable {ms ms' : List (String × Json)} {k k' : String} {j : Json}

theorem lookUp_of_mem (hnodup : (ms.map (·.1)).Nodup) (hmem : (k, j) ∈ ms) :
    lookUp ms k = some j := by
  obtain ⟨m, hm⟩ : ∃ m, ms.find? (·.1 = k) = some m :=
    Option.isSome_iff_exists.1 (List.find?_isSome.2 ⟨_, hmem, by simp⟩)
  have hkey : m.1 = k := by simpa using List.find?_some hm
  have hsame : m = (k, j) :=
    List.inj_on_of_nodup_map hnodup (List.mem_of_find?_eq_some hm) hmem hkey
  rw [lookUp, hm, hsame, Option.map_some]

theorem lookUp_insert {before after : List (String × Json)} (hne : k ≠ k') :
    lookUp (before ++ (k', j) :: after) k = lookUp (before ++ after) k := by
  simp [lookUp, List.find?_append, hne.symm]

/-- Where keys agree and values are related, what is looked up is related. -/
theorem lookUp_rel {R : String → Json → Json → Prop}
    (h : List.Forall₂ (fun m m' => m.1 = m'.1 ∧ R m.1 m.2 m'.2) ms ms') (k : String) :
    Option.Rel (R k) (lookUp ms k) (lookUp ms' k) := by
  induction h with
  | nil => exact .none
  | @cons m m' _ _ hm _ ih =>
    obtain ⟨hkey, hvalue⟩ := hm
    by_cases hk : m.1 = k
    · have hk' : m'.1 = k := hkey ▸ hk
      simp only [lookUp, List.find?_cons, hk, hk', decide_true, Option.map_some]
      exact .some (hk ▸ hvalue)
    · have hk' : ¬m'.1 = k := hkey ▸ hk
      simpa only [lookUp, List.find?_cons, hk, hk', decide_false] using ih

end LookUp

namespace Shape

variable {α : Type} {fields : List FieldRule} {seen : List String} {ms : List (String × Json)}

/-! ### Objects -/

/-- The rule of the field of a name. -/
def rule? (fields : List FieldRule) (k : String) : Option FieldRule :=
  fields.find? (·.name = k)

theorem rule?_eq_some {f : FieldRule} {k : String} (h : rule? fields k = some f) :
    f ∈ fields ∧ f.name = k :=
  ⟨List.mem_of_find?_eq_some h, by simpa using List.find?_some h⟩

theorem rule?_isSome {k : String} : (rule? fields k).isSome ↔ k ∈ fields.map (·.name) := by
  simp [rule?]

/-- The names of fields, among the keys of members. -/
def given (fields : List FieldRule) (ms : List (String × Json)) : List String :=
  (ms.map (·.1)).filter fun k => (rule? fields k).isSome

theorem visit_eq_ok : visit fields seen ms = .ok () ↔
    (given fields ms).Nodup ∧ (∀ k ∈ given fields ms, k ∉ seen) ∧
      ∀ m ∈ ms, ∀ f, rule? fields m.1 = some f → f.check m.2 = .ok () := by
  induction ms generalizing seen with
  | nil => simp [visit, given]
  | cons m ms ih =>
    obtain ⟨k, j⟩ := m
    cases hrule : rule? fields k with
    | none =>
      have hgiven : given fields ((k, j) :: ms) = given fields ms := by simp [given, hrule]
      have hvisit : visit fields seen ((k, j) :: ms) = visit fields seen ms := by
        rw [visit, ← rule?, hrule]
      simp [hvisit, hgiven, ih, hrule]
    | some f =>
      have hgiven : given fields ((k, j) :: ms) = k :: given fields ms := by simp [given, hrule]
      have hvisit : visit fields seen ((k, j) :: ms) =
          if k ∈ seen then .error (.duplicateField k)
          else f.check j >>= fun _ => visit fields (k :: seen) ms := by
        rw [visit, ← rule?, hrule]
      rw [hvisit, hgiven]
      by_cases hseen : k ∈ seen
      · simp [hseen]
      · simp only [hseen, if_false, then_eq_ok, ih, List.nodup_cons, List.mem_cons, not_or,
          forall_eq_or_imp, hrule, Option.some.injEq, forall_eq', not_false_eq_true, true_and]
        -- that the key is not given twice is asked of what is seen here, of the keys there
        grind

/-! ### Arrays -/

theorem visitItems_eq_ok {wanted : String} {i : Nat} {items : List Json} :
    visitItems wanted i fields items = .ok () ↔
      items.length ≤ fields.length ∧ (∀ f ∈ fields.drop items.length, f.required = false) ∧
        ∀ p ∈ fields.zip items, p.1.check p.2 = .ok () := by
  fun_induction visitItems wanted i fields items with
  | case1 => simp
  | case2 => simp
  | case3 i f fields hrequired => simp [hrequired]
  | case4 i f fields hrequired ih => simpa [hrequired] using ih
  | case5 i f fields j items ih =>
    simp only [then_eq_ok, ih, List.length_cons, Nat.add_le_add_iff_right, List.drop_succ_cons,
      List.zip_cons_cons, List.forall_mem_cons]
    grind

/-! ### Records -/

variable {s : Shape α} {name : String} {a : α}

/-- An object is a record exactly if its members are visited without a fault and the record can be
built from what they hold. -/
theorem decode_object_eq_ok : s.decode name (.object ms) = .ok a ↔
    visit s.fields [] ms = .ok () ∧ s.build (lookUp ms) = .ok a :=
  then_eq_ok

/-- An array is a record exactly if its items are visited without a fault and the record can be
built from what they hold. -/
theorem decode_array_eq_ok {items : List Json} : s.decode name (.array items) = .ok a ↔
    visitItems (Schema.wantedFields name s.fields.length) 0 s.fields items = .ok () ∧
      s.build (lookUp ((s.fields.map (·.name)).zip items)) = .ok a :=
  then_eq_ok

end Shape

end DeviceGateway.Json
