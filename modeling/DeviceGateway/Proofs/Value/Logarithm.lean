import DeviceGateway.Proofs.Value.View

/-! Arguments without a logarithm. Outbound the last step is a logarithm, of whatever the offset
and the scale have made of the value. Of zero and of negative numbers it is no number, whatever the
base, and what becomes of that is left to the kind of the value: integers reject it, and the other
kinds store it. -/

namespace DeviceGateway

namespace Binary

@[simp] theorem isFinite_nan : (nan : Double).isFinite = false := by
  decide

@[simp] theorem isFinite_infinite (negative : Bool) :
    (infinite negative : Double).isFinite = false := by
  cases negative <;> decide

theorem isFinite_eq_false {f : BinaryFormat} {x : Binary f} :
    x.isFinite = false ↔ x.isNaN ∨ x.isInfinite := by
  simp only [isFinite, isNaN, isInfinite, decide_eq_false_iff_not, decide_eq_true_eq]
  omega

theorem ln_of_le_zero {a : Double} (h : a.le (zero false)) : a.ln.isFinite = false := by
  simp only [le, Bool.and_eq_true, Bool.not_eq_true', decide_eq_true_eq] at h
  obtain ⟨⟨hnumber, -⟩, horder⟩ := h
  have hzero : (zero false : Double).orderKey = 0 := by decide
  rw [hzero, orderKey] at horder
  rw [ln, if_neg (by rw [hnumber]; exact Bool.false_ne_true)]
  by_cases hz : a.isZero
  · rw [if_pos hz, isFinite_infinite]
  · have hnegative : a.isNegative := by
      simp only [isZero, decide_eq_true_eq] at hz
      by_contra hpositive
      rw [if_neg hpositive] at horder
      omega
    rw [if_neg hz, if_pos hnegative, isFinite_nan]

/-- What is no number is none after a division. -/
theorem isFinite_div {x : Double} (hx : x.isFinite = false) (y : Double) :
    (x.div y).isFinite = false := by
  unfold div
  rcases isFinite_eq_false.1 hx with hnan | hinfinite
  · simp [hnan]
  · simp only [hinfinite, if_true]
    split
    · exact isFinite_nan
    · split
      · exact isFinite_nan
      · exact isFinite_infinite _

theorem isFinite_logBase {a : Double} (h : a.le (zero false)) (base : Double) :
    (a.logBase base).isFinite = false :=
  isFinite_div (ln_of_le_zero h) _

theorem text_of_not_isFinite {x : Double} (hx : x.isFinite = false) :
    String.ofList x.text ∈ ["NaN", "inf", "-inf"] := by
  cases hnumber : x.isNaN with
  | true => simp [text, hnumber]
  | false =>
    have hinfinite : x.isInfinite :=
      (isFinite_or_isInfinite hnumber).resolve_left (by rw [hx]; exact Bool.false_ne_true)
    rw [text_of_isInfinite hinfinite, sign]
    cases x.isNegative <;> simp

end Binary

/-- What is stored is a NaN or an infinity, or the text of one. -/
def Native.LacksNumber : Native → Prop
  | .single x => x.isFinite = false
  | .double x => x.isFinite = false
  | .string s => s ∈ ["NaN", "inf", "-inf"]
  | .flag _ | .integer _ => False

namespace ValueSpec

/-- The offset and the scale taken back: the argument of the logarithm. -/
def argument (s : ValueSpec) (resource : String) (x : Double) : Except GatewayError Double := do
  let x ← step "offset" s.offset x fun p => .ok (x.sub p)
  step "scale" s.scale x fun p =>
    if p.isZero then
      .error (.invalidParameter ("scale of " ++ resource ++ " is zero, cannot invert"))
    else .ok (x.div p)

theorem outboundNumber_eq (s : ValueSpec) (resource : String) (x : Double) :
    s.outboundNumber resource x = (s.argument resource x >>= fun x =>
      step "base" s.base x fun p =>
        if p.le (Binary.zero false) || p.eq (Binary.ofInt 1) then
          .error (.invalidParameter
            ("base " ++ String.ofList p.text ++ " of " ++ resource ++ " has no logarithm"))
        else .ok (x.logBase p)) := by
  unfold outboundNumber argument
  rw [bind_assoc]

/-- The base is set, and to one that has logarithms, but the argument that the value comes to is
zero or negative. -/
structure LacksLogarithm (s : ValueSpec) (v : TypedValue) (b a : Double) : Prop where
  set : s.base ≠ ""
  base : parameter "base" s.base = .ok b
  positive : Binary.lt (Binary.zero false) b
  ne_one : b.eq (Binary.ofInt 1) = false
  argument : (v.toDouble >>= s.argument v.resource) = .ok a
  nonpositive : a.le (Binary.zero false)

variable {s : ValueSpec} {v : TypedValue} {a b : Double} (h : s.LacksLogarithm v b a)

include h

/-- All the same a logarithm is taken, and what it gives is stored. -/
theorem LacksLogarithm.outbound_eq : s.outbound v = v.replace (a.logBase b) := by
  have hset : s.hasTransform := by simp [hasTransform, h.set]
  have hbase : (b.le (Binary.zero false) || b.eq (Binary.ofInt 1)) = false := by
    have hpositive := h.positive
    simp only [Binary.lt, Bool.and_eq_true, decide_eq_true_eq] at hpositive
    rw [h.ne_one, Bool.or_false, Binary.le, Bool.and_eq_false_iff, decide_eq_false_iff_not]
    exact .inr (not_le.2 hpositive.2)
  obtain ⟨x, hview, hargument⟩ := bind_eq_ok.1 h.argument
  rw [outbound_of_toDouble hset hview, outboundNumber_eq, hargument]
  simp only [bind, Except.bind, step, if_neg h.set, h.base, hbase, Bool.false_eq_true, if_false]

/-- It is rejected exactly by integers and flags. In values of the other kinds, which are those of
floating-point numbers and of texts, a NaN or an infinity is stored. -/
theorem LacksLogarithm.outbound_cases :
    if v.kind.isFloat ∨ v.kind = .string
    then ∃ n, n.LacksNumber ∧ v.Becomes n (s.outbound v)
    else ∃ e, s.outbound v = .error e := by
  have hnumber : (a.logBase b).isFinite = false := Binary.isFinite_logBase h.nonpositive b
  rw [h.outbound_eq]
  generalize a.logBase b = x at hnumber
  cases hlayout : v.kind.layout with
  | flag =>
    obtain ⟨detail, hreplace⟩ := TypedValue.replace_flag x hlayout
    have hkind : v.kind = .bool := ValueKind.eq_of_layout_eq hlayout
    rw [if_neg (by rw [hkind]; decide)]
    exact ⟨_, hreplace⟩
  | integer signed bytes =>
    have hkind : ¬ (v.kind.isFloat ∨ v.kind = .string) := by
      rintro (hfloat | hstring)
      · simp [ValueKind.isFloat, hlayout] at hfloat
      · rw [hstring] at hlayout
        cases hlayout
    rw [if_neg hkind, TypedValue.replace_integer hlayout, hnumber]
    exact ⟨_, if_neg (by simp)⟩
  | text =>
    have hkind : v.kind = .string := ValueKind.eq_of_layout_eq hlayout
    rw [if_pos (.inr hkind)]
    exact ⟨.string _, Binary.text_of_not_isFinite hnumber, TypedValue.replace_text x hlayout⟩
  | single =>
    have hwithin : TypedValue.beyondSingle x = false := by simp [TypedValue.beyondSingle, hnumber]
    have hnarrow := TypedValue.narrows_of_not_isFinite hnumber
    rw [if_pos (.inl (by simp [ValueKind.isFloat, hlayout]))]
    refine ⟨.single _, ?_, TypedValue.replace_single hlayout hwithin⟩
    show (x.convert : Single).isFinite = false
    rw [Binary.isFinite_eq_false, hnarrow.isNaN, hnarrow.isInfinite]
    exact Binary.isFinite_eq_false.1 hnumber
  | double =>
    rw [if_pos (.inl (by simp [ValueKind.isFloat, hlayout]))]
    exact ⟨.double _, hnumber, TypedValue.replace_double x hlayout⟩

end ValueSpec

end DeviceGateway
