import DeviceGateway.Proofs.Binary.Exponent
import DeviceGateway.Proofs.Value.Bytes
import DeviceGateway.Proofs.Value.View

/-! Powers taken back. With a base alone an exponent is taken inbound to a power, and outbound a
power is taken to its logarithm, of which an integer keeps the integer part. The logarithm is a
quotient of two rounded ones, so that it may come out just below the exponent; then the number
before the exponent is stored. -/

namespace DeviceGateway

namespace ValueSpec

open Binary (KeepsExponent)

/-- The transform is a power of the base. -/
structure Exponential (spec : ValueSpec) (b : Int) : Prop where
  base : IsLiteral (Text.trim spec.base.toList) b
  scale : spec.scale = ""
  offset : spec.offset = ""

section Exponential

variable {spec : ValueSpec} {b : Int} (hspec : spec.Exponential b) (hb : 2 ≤ b)

include hspec

theorem Exponential.base_ne : spec.base ≠ "" := by
  intro hempty
  have hliteral := hspec.base
  rw [hempty] at hliteral
  exact hliteral.ne_nil rfl

include hb

/-- Outbound the logarithm to the base is taken, and nothing else is done. -/
theorem Exponential.outboundNumber_eq (resource : String) (x : Double) :
    spec.outboundNumber resource x = .ok (x.logBase (.ofInt b)) := by
  have hparameter : parameter "base" spec.base = .ok (.ofInt b) := by
    rw [parameter, hspec.base.ofText_ofInt BinaryFormat.double_withinPowers (by omega)]
  have hnumber : (.ofInt b : Double).isNaN = false := Binary.isNaN_ofInt b
  have hvalue : 2 ≤ (.ofInt b : Double).value :=
    Binary.two_le_value_ofInt BinaryFormat.double_hasIntegers hb
  have hpositive : (.ofInt b : Double).le (Binary.zero false) = false := by
    have hzero : (Binary.zero false : Double).value = 0 :=
      (Binary.isZero_iff_value _).1 (by decide)
    rw [Bool.eq_false_iff, ne_eq, Binary.le_iff_value hnumber (by decide), hzero, not_le]
    exact two_pos.trans_le hvalue
  have hone : (.ofInt b : Double).eq (.ofInt 1) = false := by
    have hstands : Binary.Stands (.ofInt 1 : Double) 1 :=
      Binary.stands_ofInt BinaryFormat.double_hasIntegers (by decide)
    have hvalueone : (.ofInt 1 : Double).value = 1 := hstands.value
    rw [Bool.eq_false_iff, ne_eq, Binary.eq_iff_value hnumber (Binary.isNaN_ofInt 1), hvalueone]
    exact (one_lt_two.trans_le hvalue).ne'
  simp only [outboundNumber, step, hspec.offset, hspec.scale, if_true, if_neg hspec.base_ne,
    hparameter, hpositive, hone, Bool.or_self, Bool.false_eq_true, if_false, bind, Except.bind]

end Exponential

section Outbound

variable {spec : ValueSpec} {v : TypedValue} {b : Int} {n : ℕ} (hb : 2 ≤ b)

include hb

/-- Whatever integer has a power has its exponent, and all that is below. -/
theorem fits_exponent {kind : ValueKind} {e : Int} (h : (Native.integer (b ^ n)).Fits kind)
    (hlow : 0 ≤ e) (hhigh : e ≤ n) : (Native.integer e).Fits kind := by
  obtain ⟨signed, bytes, hlayout, -, hgreatest⟩ := h
  have hpower : (n : Int) ≤ b ^ n := by
    have htwo : (n : Int) ≤ 2 ^ n := by exact_mod_cast Nat.lt_two_pow_self.le
    exact htwo.trans (pow_le_pow_left₀ (by decide) hb n)
  exact ⟨signed, bytes, hlayout, (leastInteger_nonpos signed bytes).trans hlow,
    (hhigh.trans hpower).trans hgreatest⟩

theorem keepsExponent_of_le_one (hmachine : (Binary.ofInt b : Double).MachineServes)
    (hn : n ≤ 1) : KeepsExponent b n := by
  obtain ⟨-, hpos⟩ := Binary.ln_ofInt_pos hb hmachine
  rcases Nat.le_one_iff_eq_zero_or_eq_one.1 hn with rfl | rfl
  · exact Binary.keepsExponent_zero hpos
  · exact Binary.keepsExponent_one hpos

/-- A power is stored as what its logarithm is cut to. -/
theorem becomes_exponent {e : Int} (hspec : spec.Exponential b)
    (hv : v.Denotes (.integer (b ^ n))) (hlow : 0 ≤ e) (hhigh : e ≤ n)
    (hfinite : ((Binary.ofInt (b ^ n) : Double).logBase (.ofInt b)).isFinite)
    (htruncate : ((Binary.ofInt (b ^ n) : Double).logBase (.ofInt b)).truncate = e) :
    v.Becomes (.integer e) (spec.outbound v) := by
  have htransform : spec.hasTransform := by simp [hasTransform, hspec.base_ne]
  have hfits := fits_exponent hb hv.fits hlow hhigh
  obtain ⟨signed, bytes, hlayout, hrange⟩ := hfits
  have hstored : spec.outbound v = .ok (.ofInteger v.resource v.origin v.kind e) := by
    rw [outbound_of_toDouble htransform hv.toDouble_integer, hspec.outboundNumber_eq hb]
    refine (TypedValue.replace_integer hlayout).trans ?_
    rw [htruncate, if_pos ⟨hfinite, hrange⟩]
  rw [hstored]
  exact TypedValue.becomes_ofNative ⟨signed, bytes, hlayout, hrange⟩

/-- A power is taken back to its exponent where the rounded logarithms keep it, and to the number
before elsewhere. No base loses the exponents up to one, nor a power of two of which both
logarithms are decided. -/
theorem outbound_power (hspec : spec.Exponential b) (hv : v.Denotes (.integer (b ^ n)))
    (hsize : b ^ n ≤ 2 ^ 53)
    (hmachine : ∀ k ∈ [b, b ^ n], (Binary.ofInt k : Double).MachineServes) :
    v.Becomes (.integer (if KeepsExponent b n then n else n - 1)) (spec.outbound v) ∧
      (n ≤ 1 → KeepsExponent b n) ∧
        (∀ k, n = 2 ^ k → (∀ j ∈ [b, b ^ n], (Binary.ofInt j : Double).logMagnitude?.isSome) →
          KeepsExponent b n) := by
  have hkept : n ≤ 1 → KeepsExponent b n := keepsExponent_of_le_one hb (hmachine b (by simp))
  obtain ⟨hfinite, htruncate⟩ := Binary.truncate_logBase_power hb hsize hmachine
  refine ⟨?_, hkept, ?_⟩
  · by_cases h : KeepsExponent b n
    · rw [if_pos h] at htruncate ⊢
      exact becomes_exponent hb hspec hv (Int.natCast_nonneg n) le_rfl hfinite htruncate
    · have hn : 1 < n := not_le.1 (mt hkept h)
      rw [if_neg h] at htruncate ⊢
      exact becomes_exponent hb hspec hv (by omega) (by omega) hfinite htruncate
  · rintro k rfl hdecided
    exact Binary.keepsExponent_two_pow hb hsize hdecided

end Outbound

/-- Of the fourth and the fifth power of three, of which the logarithms are decided: the one
exponent is kept, the other is not, so that both powers are stored as four. -/
theorem outbound_power_level :
    let spec : ValueSpec := { base := "3" }
    let v := TypedValue.ofInteger "Level" 0 .int32 81
    let w := TypedValue.ofInteger "Level" 0 .int32 243
    spec.Exponential 3 ∧ v.Denotes (.integer (3 ^ 4)) ∧ w.Denotes (.integer (3 ^ 5)) ∧
      (∀ k ∈ [(3 : Int), 3 ^ 4, 3 ^ 5], (Binary.ofInt k : Double).logMagnitude?.isSome) ∧
        v.Becomes (.integer 4) (spec.outbound v) ∧ w.Becomes (.integer 4) (spec.outbound w) := by
  intro spec v w
  have hspec : spec.Exponential 3 :=
    ⟨⟨[], false, ['3'], .inl rfl, by decide, by simp, by decide, by decide⟩, rfl, rfl⟩
  have hv : v.Denotes (.integer (3 ^ 4)) :=
    TypedValue.denotes_ofNative (n := .integer 81) ⟨true, 4, rfl, by decide, by decide⟩
  have hw : w.Denotes (.integer (3 ^ 5)) :=
    TypedValue.denotes_ofNative (n := .integer 243) ⟨true, 4, rfl, by decide, by decide⟩
  have hdecided : ∀ k ∈ [(3 : Int), 3 ^ 4, 3 ^ 5],
      (Binary.ofInt k : Double).logMagnitude?.isSome := by
    decide +kernel
  have hkept : KeepsExponent 3 4 := by
    decide +kernel
  have hlost : ¬ KeepsExponent 3 5 := by
    decide +kernel
  have hv4 := (outbound_power (by decide) hspec hv (by decide) fun k hk =>
    Binary.machineServes_of_decided (hdecided k (by simp at hk ⊢; omega))).1
  have hw4 := (outbound_power (by decide) hspec hw (by decide) fun k hk =>
    Binary.machineServes_of_decided (hdecided k (by simp at hk ⊢; omega))).1
  rw [if_pos hkept] at hv4
  rw [if_neg hlost] at hw4
  exact ⟨hspec, hv, hw, hdecided, hv4, hw4⟩

/-- So three to the fifth does not come back as five. -/
theorem exponent_lost_level :
    let spec : ValueSpec := { base := "3" }
    let w := TypedValue.ofInteger "Level" 0 .int32 243
    spec.Exponential 3 ∧ w.Denotes (.integer (3 ^ 5)) ∧ (3 : Int) ^ 5 ≤ 2 ^ 53 ∧
      spec.outbound w = .ok (.ofInteger "Level" 0 .int32 4) ∧
        ¬ w.Becomes (.integer 5) (spec.outbound w) := by
  intro spec w
  have hspec : spec.Exponential 3 :=
    ⟨⟨[], false, ['3'], .inl rfl, by decide, by simp, by decide, by decide⟩, rfl, rfl⟩
  have hw : w.Denotes (.integer (3 ^ 5)) :=
    TypedValue.denotes_ofNative (n := .integer 243) ⟨true, 4, rfl, by decide, by decide⟩
  have hstored : spec.outbound w = .ok (.ofInteger "Level" 0 .int32 4) := by
    decide +kernel
  have hfour : (TypedValue.ofInteger "Level" 0 .int32 4).Denotes (.integer 4) :=
    TypedValue.denotes_ofNative (n := .integer 4) ⟨true, 4, rfl, by decide, by decide⟩
  refine ⟨hspec, hw, by decide, hstored, ?_⟩
  rintro ⟨u, hu, -, hfive⟩
  obtain rfl := Except.ok.inj (hstored.symm.trans hu)
  exact absurd (hfour.unique hfive) (by decide)

end ValueSpec

end DeviceGateway
