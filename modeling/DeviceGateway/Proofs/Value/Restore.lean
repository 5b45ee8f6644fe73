import DeviceGateway.Proofs.Decimal.Across
import DeviceGateway.Proofs.Value.Inverse

/-! Values stored back as they were read. A transform that changes nothing reads a value as a
double and stores that double. The value is kept if it is a double itself. An integer is kept if
some double is equal to it, and a single if the double that is nearest to its decimal is taken back
to it. -/

namespace DeviceGateway

open Binary (Stands)
open BinaryFormat (single double)

/-! ### Singles -/

namespace TypedValue

/-- What is stored of the double is the single. -/
def Keeps (x : Double) (y : Single) : Prop := beyondSingle x = false ∧ x.convert = y

theorem Keeps.isNaN {x : Double} {y : Single} (h : Keeps x y) (hy : y.isNaN = false) :
    x.isNaN = false := by
  rw [Bool.eq_false_iff]
  intro hnan
  have hconvert := h.2
  rw [Binary.convert, if_pos hnan] at hconvert
  rw [← hconvert] at hy
  cases hsign : x.isNegative <;> rw [hsign] at hy <;> revert hy <;> decide

/-- The largest single is written with fewer digits than it has, and its decimal is beyond it. -/
theorem text_greatest_beyond (negative : Bool) : ∃ x,
    Binary.ofText .double (Binary.ofParts negative (single.infinity - 1) : Single).text = .ok x ∧
      x.isNaN = false ∧ beyondSingle x := by
  refine ⟨Binary.ofParts negative 0x47efffffe54daff8, ?_, ?_, ?_⟩ <;> cases negative <;>
    decide +kernel

/-- The decimal of this single is read as the middle between it and the next one, which is even. -/
theorem text_misread_converts (negative : Bool) : ∃ x, Binary.ofText .double
    (Binary.ofParts negative BinaryFormat.misread : Single).text = .ok x ∧
      x.isNaN = false ∧
      x.convert = (Binary.ofParts negative (BinaryFormat.misread + 1) : Single) := by
  refine ⟨Binary.ofParts negative 0x3ab5c87fb0000000, ?_, ?_, ?_⟩ <;> cases negative <;>
    decide +kernel

theorem keeps_infinite (negative : Bool) :
    Keeps (Binary.infinite negative) (Binary.infinite negative) := by
  cases negative <;> exact ⟨by decide +kernel, by decide +kernel⟩

theorem keeps_zero (negative : Bool) :
    Binary.ofText .double (Binary.zero negative : Single).text = .ok (Binary.zero negative) ∧
      Keeps (Binary.zero negative) (Binary.zero negative) := by
  cases negative <;> exact ⟨by decide +kernel, by decide +kernel, by decide +kernel⟩

/-- A double between the middles around a single, other than the largest, is within the range of
the singles. -/
theorem keeps_of_round (negative : Bool) {m r : Nat} (hm : m + 1 < single.infinity)
    (hr : r < double.infinity)
    (hhigh : double.unitsOf r ≤
      (single.unitsOf m + single.unitsOf (m + 1)) * 2 ^ BinaryFormat.halfBits)
    (hround : single.round (double.unitsOf r * 2 ^ single.scale) (2 ^ double.scale) = m) :
    Keeps (Binary.ofParts negative r) (Binary.ofParts negative m) := by
  have hfinite : (Binary.ofParts negative r : Double).isFinite := by
    rwa [Binary.isFinite_iff, Binary.magnitude_ofParts hr.le]
  have hbounded : (Binary.ofParts negative r : Double).isInfinite = false := by
    rw [Binary.isInfinite, Binary.magnitude_ofParts hr.le]
    exact decide_eq_false hr.ne
  have hunits : (Binary.ofParts negative r : Double).units = double.unitsOf r := by
    rw [Binary.units, Binary.magnitude_ofParts hr.le]
  constructor
  · rw [Bool.eq_false_iff, Ne, beyondSingle_iff, Binary.greatest_lt_abs_value,
      Binary.units_greatest, hunits, not_and, not_lt]
    intro _
    have hself : single.unitsOf m ≤ single.unitsOf (single.infinity - 1) :=
      single.unitsOf_strictMono.monotone (by omega)
    have hnext : single.unitsOf (m + 1) ≤ single.unitsOf (single.infinity - 1) :=
      single.unitsOf_strictMono.monotone (by omega)
    calc double.unitsOf r * 2 ^ single.scale
        ≤ 2 * single.unitsOf (single.infinity - 1) * 2 ^ BinaryFormat.halfBits *
            2 ^ single.scale := by
          refine Nat.mul_le_mul_right _ (hhigh.trans (Nat.mul_le_mul_right _ ?_))
          omega
      _ = single.unitsOf (single.infinity - 1) * 2 ^ double.scale := by
          rw [BinaryFormat.two_pow_double_scale]
          ring
  · simp only [Binary.convert, Binary.isNaN_of_isFinite hfinite, hbounded, Bool.false_eq_true,
      if_false, hunits, hround, Binary.isNegative_ofParts hr.le]

/-- A single is kept unless it is the largest, of either sign, or the one that is read as a
middle. -/
theorem exists_keeps_iff {y : Single} (hy : y.isNaN = false) :
    ∃ x, Binary.ofText .double y.text = .ok x ∧ x.isNaN = false ∧
      (Keeps x y ↔ y.magnitude ≠ single.infinity - 1 ∧ y.magnitude ≠ BinaryFormat.misread) := by
  rcases Binary.isFinite_or_isInfinite hy with hfinite | hinfinite
  · cases hzero : y.isZero with
    | true =>
      have hmagnitude : y.magnitude = 0 := of_decide_eq_true hzero
      have hself := y.ofParts_self
      rw [hmagnitude] at hself ⊢
      obtain ⟨hread, hkeeps⟩ := keeps_zero y.isNegative
      rw [Binary.zero, Binary.zero, hself] at hread hkeeps
      exact ⟨_, hread, hkeeps.isNaN hy, iff_of_true hkeeps (by decide)⟩
    | false =>
      have hlt := Binary.isFinite_iff.1 hfinite
      by_cases hgreatest : y.magnitude = single.infinity - 1
      · obtain ⟨x, hread, hnumber, hbeyond⟩ := text_greatest_beyond y.isNegative
        rw [← hgreatest, y.ofParts_self] at hread
        refine ⟨x, hread, hnumber, iff_of_false (fun h => ?_) (fun h => h.1 hgreatest)⟩
        rw [h.1] at hbeyond
        cases hbeyond
      · by_cases hmisread : y.magnitude = BinaryFormat.misread
        · obtain ⟨x, hread, hnumber, hconvert⟩ := text_misread_converts y.isNegative
          rw [← hmisread, y.ofParts_self] at hread
          refine ⟨x, hread, hnumber, iff_of_false (fun h => ?_) (fun h => h.2 hmisread)⟩
          have hnext := congrArg Binary.magnitude (h.2.symm.trans hconvert)
          rw [Binary.magnitude_ofParts (by omega)] at hnext
          omega
        · obtain ⟨c, j, htaken, hread⟩ := Binary.ofText_double_text hfinite hzero
          have hpos : 0 < y.magnitude := Nat.pos_of_ne_zero (of_decide_eq_false hzero)
          obtain ⟨hrange, hhigh, hround⟩ :=
            BinaryFormat.round_readAs hpos hlt hmisread htaken
          have hkeeps := keeps_of_round y.isNegative (by omega) hrange hhigh hround
          rw [y.ofParts_self] at hkeeps
          exact ⟨_, hread, hkeeps.isNaN hy, iff_of_true hkeeps ⟨hgreatest, hmisread⟩⟩
  · have hmagnitude : y.magnitude = single.infinity := of_decide_eq_true hinfinite
    have hkeeps := keeps_infinite y.isNegative
    rw [Binary.infinite_self hinfinite] at hkeeps
    refine ⟨_, Binary.ofText_of_isInfinite hinfinite .double, hkeeps.isNaN hy,
      iff_of_true hkeeps ?_⟩
    rw [hmagnitude]
    decide

/-! ### Values -/

/-- What is stored is the value itself if it stands for the same. -/
theorem Becomes.eq_ok_iff {v : TypedValue} {n n' : Native}
    {outcome : Except GatewayError TypedValue} (h : v.Becomes n' outcome) (hv : v.Denotes n) :
    outcome = .ok v ↔ n' = n := by
  obtain ⟨w, rfl, hlabel, hw⟩ := h
  constructor
  · rintro ⟨⟩
    exact hw.unique hv
  · rintro rfl
    rw [hw.eq_ofNative, hlabel.kind, hlabel.resource, hlabel.origin, ← hv.eq_ofNative]

theorem Denotes.replace_ofInt_iff {v : TypedValue} {n : Int} (h : v.Denotes (.integer n)) :
    v.replace (.ofInt n) = .ok v ↔ ∃ x : Double, Stands x n := by
  obtain ⟨signed, bytes, hlayout, -⟩ := h.fits
  constructor
  · intro hreplace
    rw [replace_integer hlayout] at hreplace
    split at hreplace
    · next hfits =>
      have hbecomes := becomes_ofNative (n := .integer (Binary.ofInt n : Double).truncate)
        ⟨signed, bytes, hlayout, hfits.2⟩
      have hsame := (hbecomes.eq_ok_iff h).1 hreplace
      have hstands := Binary.stands_whole (by decide) hfits.1
      rw [Native.integer.inj hsame] at hstands
      exact ⟨_, hstands⟩
    · cases hreplace
  · rintro ⟨x, hx⟩
    have hstored := ValueSpec.replace_of_stands (hx.ofInt (by decide)) h.fits
    exact hstored.trans (congrArg _ h.eq_ofNative.symm)

theorem Denotes.replace_iff_keeps {v : TypedValue} {y : Single} (h : v.Denotes (.single y))
    (x : Double) : v.replace x = .ok v ↔ Keeps x y := by
  have hkind : v.kind = .float32 := h.fits
  have hlayout : v.kind.layout = .single := by rw [hkind, ValueKind.layout]
  cases hbeyond : beyondSingle x with
  | true =>
    rw [replace_single_beyond hlayout hbeyond]
    exact iff_of_false (fun h => by cases h) fun h => by rw [h.1] at hbeyond; cases hbeyond
  | false =>
    rw [(replace_single hlayout hbeyond).eq_ok_iff h, Native.single.injEq]
    exact (and_iff_right hbeyond).symm

theorem Denotes.toDouble_single {v : TypedValue} {y : Single} (h : v.Denotes (.single y))
    (hy : y.isNaN = false) {x : Double} (hread : Binary.ofText .double y.text = .ok x) :
    v.toDouble = .ok x := by
  rw [toDouble, h.text_eq, Native.text, String.toList_ofList,
    Text.trim_text BinaryFormat.single_withinPowers hy, hread]

end TypedValue

/-! ### Transforms that change nothing -/

namespace ValueSpec

/-- The scale is read as one and the offset as zero, as far as they are set. -/
structure Neutral (spec : ValueSpec) : Prop where
  base : spec.base = ""
  scale : spec.scale = "" ∨ ∃ p, parameter "scale" spec.scale = .ok p ∧ Stands p 1
  offset : spec.offset = "" ∨ ∃ p, parameter "offset" spec.offset = .ok p ∧ Stands p 0

theorem step_eq_self {name raw : String} {x : Double} {f : Double → Except GatewayError Double}
    (h : raw = "" ∨ ∃ p, parameter name raw = .ok p ∧ f p = .ok x) :
    step name raw x f = .ok x := by
  unfold step
  split
  · rfl
  · next hset =>
    obtain ⟨p, hread, hp⟩ := h.resolve_left hset
    rw [hread]
    exact hp

/-- No double is changed but the negative zero, to which zero is added. -/
theorem Neutral.number_eq {spec : ValueSpec} (hspec : spec.Neutral) {x : Double}
    (hx : x.isNaN = false) (hzero : spec.offset = "" ∨ x ≠ .zero true) (resource : String) :
    spec.inboundNumber x = .ok x ∧ spec.outboundNumber resource x = .ok x := by
  have hfraction : 0 < double.fractionBits := by decide
  have hbase : ∀ f, step "base" spec.base x f = .ok x := fun f => step_eq_self (.inl hspec.base)
  have hscale : ∀ f, (∀ p, Stands p 1 → f p = .ok x) → step "scale" spec.scale x f = .ok x :=
    fun f hf => step_eq_self (hspec.scale.imp_right fun ⟨p, hread, hp⟩ => ⟨p, hread, hf p hp⟩)
  have hoffset : ∀ f, (∀ p, Stands p 0 → x ≠ .zero true → f p = .ok x) →
      step "offset" spec.offset x f = .ok x := by
    intro f hf
    rcases hzero with hunset | hpositive
    · exact step_eq_self (.inl hunset)
    · exact step_eq_self
        (hspec.offset.imp_right fun ⟨p, hread, hp⟩ => ⟨p, hread, hf p hp hpositive⟩)
  constructor
  · have hmul := hscale (fun p => .ok (x.mul p)) fun p hone => by
      rw [Binary.mul_one_of_stands hfraction hx hone]
    have hadd := hoffset (fun p => .ok (x.add p)) fun p hnone hpositive => by
      rw [Binary.add_zero_of_stands hfraction hx hnone hpositive]
    simp only [inboundNumber, hbase, hmul, hadd, bind, Except.bind]
  · have hsub := hoffset (fun p => .ok (x.sub p)) fun p hnone hpositive => by
      rw [Binary.sub_zero_of_stands hfraction hx hnone hpositive]
    have hdiv := hscale (fun p => if p.isZero then
        .error (.invalidParameter ("scale of " ++ resource ++ " is zero, cannot invert"))
      else .ok (x.div p)) fun p hone => by
      rw [hone.isZero_one, if_neg Bool.false_ne_true, Binary.div_one_of_stands hfraction hx hone]
    simp only [outboundNumber, hbase, hsub, hdiv, bind, Except.bind]

end ValueSpec

/-! ### Survival -/

/-- The double that the value is read as is stored as the value again. -/
def Native.Survives : Native → Prop
  | .integer n => ∃ x : Double, Stands x n
  | .single y =>
    y.magnitude ≠ BinaryFormat.single.infinity - 1 ∧ y.magnitude ≠ BinaryFormat.misread
  | _ => True

theorem Native.survives_integer {n : Int} (hn : n.natAbs ≤ 2 ^ 53) :
    (Native.integer n).Survives :=
  ⟨_, Binary.stands_ofInt BinaryFormat.double_hasIntegers (ValueSpec.exactIntegers_double ▸ hn)⟩

namespace TypedValue

theorem Denotes.exists_view {v : TypedValue} {n : Native} (h : v.Denotes n)
    (hnumeric : v.kind.isNumeric) (hnumber : n.isNaN = false) :
    ∃ x, v.toDouble = .ok x ∧ x.isNaN = false ∧ (v.replace x = .ok v ↔ n.Survives) := by
  cases n with
  | flag b =>
    have hkind : v.kind = .bool := h.fits
    rw [hkind] at hnumeric
    cases hnumeric
  | string s =>
    have hkind : v.kind = .string := h.fits
    rw [hkind] at hnumeric
    cases hnumeric
  | integer n =>
    exact ⟨_, h.toDouble_integer, Binary.isNaN_ofInt n, h.replace_ofInt_iff⟩
  | single y =>
    obtain ⟨x, hread, hx, hkeeps⟩ := exists_keeps_iff (y := y) hnumber
    exact ⟨x, h.toDouble_single hnumber hread, hx, (h.replace_iff_keeps x).trans hkeeps⟩
  | double x =>
    have hkind : v.kind = .float64 := h.fits
    have hlayout : v.kind.layout = .double := by rw [hkind, ValueKind.layout]
    exact ⟨x, h.toDouble_double hnumber, hnumber,
      iff_of_true (((replace_double x hlayout).eq_ok_iff h).2 rfl) trivial⟩

/-- A numeric value that is no NaN is read as a double. Storing that double, by itself or by a
transform that changes nothing, leaves the value as it is if and only if the native value
survives. -/
theorem restored_iff_survives {v : TypedValue} (hv : v.WellFormed) (hnumeric : v.kind.isNumeric)
    (hnumber : v.isNaN = false) : ∃ n x, v.Denotes n ∧ v.toDouble = .ok x ∧
      (v.replace x = .ok v ↔ n.Survives) ∧
      ∀ spec : ValueSpec, spec.hasTransform → spec.Neutral →
        spec.offset = "" ∨ x ≠ .zero true →
        spec.inbound v = v.replace x ∧ spec.outbound v = v.replace x := by
  obtain ⟨n, hholds, hfits⟩ := hv.exists_holds
  have hdenotes : v.Denotes n := by
    rw [hholds.made]
    exact denotes_ofNative hfits
  obtain ⟨x, hview, hx, hsurvives⟩ :=
    hdenotes.exists_view hnumeric (hholds.isNaN_eq.symm.trans hnumber)
  refine ⟨n, x, hdenotes, hview, hsurvives, fun spec htransform hspec hzero => ?_⟩
  obtain ⟨hin, hout⟩ := hspec.number_eq hx hzero v.resource
  rw [ValueSpec.inbound_of_toDouble htransform hview,
    ValueSpec.outbound_of_toDouble htransform hview, hin, hout]
  exact ⟨rfl, rfl⟩

/-- Of a single. -/
theorem restored_iff_survives_ratio :
    let v := ofSingle "Ratio" 7 (BitVec.ofNat _ 0x3dcccccd)
    v.WellFormed ∧ v.kind.isNumeric ∧ v.isNaN = false ∧ ∃ n x, v.Denotes n ∧
      v.toDouble = .ok x ∧ (v.replace x = .ok v ↔ n.Survives) ∧
      ∀ spec : ValueSpec, spec.hasTransform → spec.Neutral →
        spec.offset = "" ∨ x ≠ .zero true →
        spec.inbound v = v.replace x ∧ spec.outbound v = v.replace x := by
  intro v
  have hv : v.WellFormed := rfl
  have hnumber : v.isNaN = false := by decide +kernel
  exact ⟨hv, rfl, hnumber, restored_iff_survives hv rfl hnumber⟩

/-- An integer that no double is equal to is altered, and the largest single is rejected. -/
theorem integer_altered_single_rejected :
    let v := ofInteger "Level" 7 .uint64 (2 ^ 53 + 1)
    let w := ofSingle "Ratio" 7 Binary.greatest
    (v.WellFormed ∧ v.kind.isNumeric ∧ v.isNaN = false ∧
      (∃ x, v.toDouble = .ok x ∧ v.replace x = .ok (ofInteger "Level" 7 .uint64 (2 ^ 53))) ∧
      ¬∃ x, v.toDouble = .ok x ∧ v.replace x = .ok v) ∧
    w.WellFormed ∧ w.kind.isNumeric ∧ w.isNaN = false ∧
      ∃ x, w.toDouble = .ok x ∧ w.replace x = .error (.overflow x .float32) := by
  have hlevel : (ofInteger "Level" 7 .uint64 (2 ^ 53 + 1)).toDouble =
      .ok (Binary.ofInt (2 ^ 53) : Double) := by
    decide +kernel
  have hstored : (ofInteger "Level" 7 .uint64 (2 ^ 53 + 1)).replace
      (Binary.ofInt (2 ^ 53) : Double) = .ok (ofInteger "Level" 7 .uint64 (2 ^ 53)) := by
    decide +kernel
  refine ⟨⟨rfl, rfl, by decide +kernel, ⟨_, hlevel, hstored⟩, ?_⟩, rfl, rfl, by decide +kernel, ?_⟩
  · rintro ⟨x, hread, hkept⟩
    obtain rfl := Except.ok.inj (hlevel.symm.trans hread)
    rw [hstored] at hkept
    revert hkept
    decide +kernel
  · refine ⟨Binary.ofParts false 0x47efffffe54daff8, ?_, ?_⟩ <;> decide +kernel

end TypedValue

end DeviceGateway
