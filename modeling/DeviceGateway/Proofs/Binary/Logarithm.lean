import DeviceGateway.Proofs.Binary.Integer
import DeviceGateway.Proofs.Binary.Series

/-! The logarithm of a double. Where the integers decide it, it is the double nearest to the true
logarithm; elsewhere it is the machine's, which is taken to be off by no more than a unit in the
last place. Either way it is the true logarithm but for such a unit. -/

namespace DeviceGateway

/-! ### Real numbers between neighbours -/

namespace BinaryFormat

variable {f : BinaryFormat}

/-- An integer that the format has, or less, is not rounded to the infinity. -/
theorem round_lt_infinity (hf : f.HasIntegers) {n d : Nat} (hd : 0 < d)
    (h : n ≤ f.exactIntegers * 2 ^ f.scale * d) : f.round n d < f.infinity := by
  obtain ⟨m, hlt, hm, -⟩ := round_integer hf (Nat.le_refl _) Nat.one_pos
  refine Nat.lt_of_le_of_lt (round_le hf.fraction hd (m := m) ?_) hlt
  rwa [hm]

/-- The step to a value is a small part of it. -/
theorem unitsOf_succ_mul_le_add {m : Nat} (hm : 2 ^ f.fractionBits ≤ m + 1) :
    f.unitsOf (m + 1) * 2 ^ f.fractionBits ≤
      f.unitsOf m * 2 ^ f.fractionBits + f.unitsOf (m + 1) := by
  obtain ⟨s, q, rfl, hq, hs⟩ := f.exists_parts m
  have hlarge : 2 ^ f.fractionBits ≤ q + 1 := by
    rcases hs with rfl | hs
    · omega
    · omega
  rw [Nat.add_assoc, f.unitsOf_parts (by omega) hs, f.unitsOf_parts (by omega) (by omega)]
  generalize 2 ^ f.fractionBits = P at *
  calc (q + 1) * 2 ^ s * P = q * 2 ^ s * P + P * 2 ^ s := by ring
    _ ≤ q * 2 ^ s * P + (q + 1) * 2 ^ s :=
        Nat.add_le_add_left (Nat.mul_le_mul_right _ hlarge) _

/-- Twice a value has the next exponent. -/
theorem unitsOf_add_exponent {m : Nat} (hm : 2 ^ f.fractionBits ≤ m) :
    f.unitsOf (m + 2 ^ f.fractionBits) = 2 * f.unitsOf m := by
  obtain ⟨s, q, rfl, hq, hs⟩ := f.exists_parts m
  have hlarge : 2 ^ f.fractionBits ≤ q := by
    rcases hs with rfl | hs
    · omega
    · exact hs
  have hnext : s * 2 ^ f.fractionBits + q + 2 ^ f.fractionBits =
      (s + 1) * 2 ^ f.fractionBits + q := by ring
  rw [hnext, f.unitsOf_parts (by omega) (.inr hlarge), f.unitsOf_parts (by omega) hs, Nat.pow_succ]
  ring

variable (f) in
/-- The real number, in units, is nearer to the value of the magnitude than to any other. -/
structure Rounds (m : Nat) (u : ℝ) : Prop where
  low : (f.unitsOf (m - 1) : ℝ) + f.unitsOf m < 2 * u
  high : 2 * u < (f.unitsOf m : ℝ) + f.unitsOf (m + 1)

namespace Rounds

variable {m m' : Nat} {u : ℝ}

theorem le_of_rounds (h : f.Rounds m u) (h' : f.Rounds m' u) : m ≤ m' := by
  by_contra hlt
  have hpred : (f.unitsOf m' : ℝ) ≤ f.unitsOf (m - 1) := by
    exact_mod_cast f.unitsOf_strictMono.monotone (by omega : m' ≤ m - 1)
  have hnext : (f.unitsOf (m' + 1) : ℝ) ≤ f.unitsOf m := by
    exact_mod_cast f.unitsOf_strictMono.monotone (by omega : m' + 1 ≤ m)
  linarith [h.low, h'.high]

theorem unique (h : f.Rounds m u) (h' : f.Rounds m' u) : m = m' :=
  Nat.le_antisymm (h.le_of_rounds h') (h'.le_of_rounds h)

/-- Doubling a number passes to the next exponent and leaves the fraction as it is. -/
theorem double (h : f.Rounds m u) (hm : 2 ^ f.fractionBits < m) :
    f.Rounds (m + 2 ^ f.fractionBits) (2 * u) := by
  have hself := unitsOf_add_exponent (f := f) (m := m) hm.le
  have hpred := unitsOf_add_exponent (f := f) (m := m - 1) (Nat.le_sub_one_of_lt hm)
  have hnext := unitsOf_add_exponent (f := f) (m := m + 1) (Nat.le_succ_of_le hm.le)
  have hpred' : m + 2 ^ f.fractionBits - 1 = m - 1 + 2 ^ f.fractionBits :=
    Nat.sub_add_comm (Nat.one_le_of_lt hm)
  have hnext' : m + 2 ^ f.fractionBits + 1 = m + 1 + 2 ^ f.fractionBits :=
    Nat.add_right_comm _ _ _
  constructor
  · rw [hpred', hself, hpred]
    push_cast
    linarith [h.low]
  · rw [hnext', hself, hnext]
    push_cast
    linarith [h.high]

/-- So does doubling it again. -/
theorem two_pow_mul (h : f.Rounds m u) (hm : 2 ^ f.fractionBits < m) (k : ℕ) :
    f.Rounds (m + k * 2 ^ f.fractionBits) (2 ^ k * u) ∧
      f.unitsOf (m + k * 2 ^ f.fractionBits) = 2 ^ k * f.unitsOf m := by
  induction k with
  | zero => simpa using h
  | succ k ih =>
    obtain ⟨hrounds, hunits⟩ := ih
    have hlarge := Nat.lt_of_lt_of_le hm (Nat.le_add_right m (k * 2 ^ f.fractionBits))
    have hnext : m + (k + 1) * 2 ^ f.fractionBits =
        m + k * 2 ^ f.fractionBits + 2 ^ f.fractionBits := by ring
    have hpower : 2 ^ (k + 1) * u = 2 * (2 ^ k * u) := by ring
    rw [hnext, hpower, unitsOf_add_exponent hlarge.le, hunits, Nat.pow_succ']
    exact ⟨hrounds.double hlarge, (Nat.mul_assoc _ _ _).symm⟩

/-- Above the subnormal range the value of the magnitude is close to the number. -/
theorem abs_sub_le (h : f.Rounds m u) (hm : 2 ^ f.fractionBits ≤ m) :
    |(f.unitsOf m : ℝ) - u| ≤ u / 2 ^ f.fractionBits := by
  obtain ⟨k, rfl⟩ : ∃ k, m = k + 1 := ⟨m - 1, by have := Nat.two_pow_pos f.fractionBits; omega⟩
  have hbelow := unitsOf_succ_mul_le_add (f := f) hm
  have habove := unitsOf_succ_mul_le (f := f) hm
  have hlow := h.low
  have hhigh := h.high
  rw [Nat.add_sub_cancel] at hlow
  rw [← Nat.cast_le (α := ℝ)] at hbelow habove
  push_cast at hbelow habove
  have hpos : (0 : ℝ) < 2 ^ f.fractionBits := by positivity
  have hnonneg : (0 : ℝ) ≤ f.unitsOf k := by positivity
  have hlow' := mul_lt_mul_of_pos_right hlow hpos
  have hhigh' := mul_lt_mul_of_pos_right hhigh hpos
  have hscaled : |(f.unitsOf (k + 1) : ℝ) - u| * 2 ^ f.fractionBits =
      |((f.unitsOf (k + 1) : ℝ) - u) * 2 ^ f.fractionBits| := by
    rw [abs_mul, abs_of_pos hpos]
  rw [le_div_iff₀ hpos, hscaled, abs_le]
  constructor <;> linarith

end Rounds

end BinaryFormat

namespace Binary

open BinaryFormat (Rounds)

/-! ### What is decided -/

theorem decided_eq_some {n d m : Nat} : decided n d = some m ↔
    BinaryFormat.double.round (n * (2 ^ 56 - 1)) (d * 2 ^ 56) = m ∧
      BinaryFormat.double.round (n * (2 ^ 56 + 1)) (d * 2 ^ 56) = m ∧ 2 ^ 52 ≤ m := by
  simp only [decided, Option.ite_none_right_eq_some, Option.some.injEq]
  constructor
  · rintro ⟨⟨hsame, hnormal⟩, rfl⟩
    exact ⟨rfl, hsame.symm, hnormal⟩
  · rintro ⟨rfl, hsame, hnormal⟩
    exact ⟨⟨hsame.symm, hnormal⟩, rfl⟩

/-- What is decided is where all within the margin is rounded to. -/
theorem rounds_of_decided {n d m : Nat} (hd : 0 < d) (h : decided n d = some m)
    (hfinite : m < BinaryFormat.double.infinity) {u : ℝ}
    (hlow : (n : ℝ) / d * (1 - 1 / 2 ^ 56) < u) (hhigh : u < (n : ℝ) / d * (1 + 1 / 2 ^ 56)) :
    BinaryFormat.double.Rounds m u := by
  have hpos : (0 : ℝ) < d := by exact_mod_cast hd
  have hscaled : 0 < d * 2 ^ 56 := Nat.mul_pos hd (Nat.two_pow_pos 56)
  have hcancel : (n : ℝ) / d * d = n := div_mul_cancel₀ _ hpos.ne'
  obtain ⟨hround, hround', -⟩ := decided_eq_some.1 h
  have hbelow := (BinaryFormat.nearest_round (by decide) hscaled (hround.trans_lt hfinite)).low
  have habove := (BinaryFormat.nearest_round (by decide) hscaled (hround'.trans_lt hfinite)).high
  rw [hround, ← Nat.cast_le (α := ℝ)] at hbelow
  rw [hround', ← Nat.cast_le (α := ℝ)] at habove
  push_cast at hbelow habove
  have hlow' := mul_lt_mul_of_pos_right hlow hpos
  have hhigh' := mul_lt_mul_of_pos_right hhigh hpos
  rw [mul_right_comm, hcancel] at hlow' hhigh'
  constructor
  · refine lt_of_mul_lt_mul_right ?_ hpos.le
    linarith
  · refine lt_of_mul_lt_mul_right ?_ hpos.le
    linarith

/-! ### The range of the logarithm -/

theorem log_two_pow (k : ℕ) : Real.log (2 ^ k : ℕ) = k * Real.log 2 := by
  rw [Nat.cast_pow, Nat.cast_two, Real.log_pow]

theorem log_le_of_le_two_pow {n k : ℕ} (hn : 0 < n) (h : n ≤ 2 ^ k) :
    Real.log n ≤ k * Real.log 2 := by
  rw [← Real.log_pow]
  exact Real.log_le_log (by exact_mod_cast hn) (by exact_mod_cast h)

section Positive

variable {x : Double} (hx : x.isFinite) (hpos : 0 < x.value)

include hpos

theorem cast_value_of_pos : (x.value : ℝ) = x.units / (2 ^ BinaryFormat.double.scale : ℕ) := by
  rw [value_of_pos hpos]
  push_cast
  rfl

include hx

omit hpos in
theorem units_lt_of_isFinite : x.units < 2 ^ 2098 := by
  have hinfinity : BinaryFormat.double.unitsOf BinaryFormat.double.infinity = 2 ^ 2098 := by
    decide +kernel
  rw [← hinfinity]
  exact BinaryFormat.double.unitsOf_strictMono (isFinite_iff.1 hx)

omit hx hpos in
/-- The numbers next to one are not near it. -/
theorem units_apart (hone : x.units ≠ 2 ^ BinaryFormat.double.scale) :
    2 ^ BinaryFormat.double.scale * (2 ^ 52 + 1) ≤ x.units * 2 ^ 52 ∨
      x.units * 2 ^ 53 ≤ 2 ^ BinaryFormat.double.scale * (2 ^ 53 - 1) := by
  have hself : BinaryFormat.double.unitsOf (1023 * 2 ^ 52) = 2 ^ BinaryFormat.double.scale := by
    decide +kernel
  have hnext : BinaryFormat.double.unitsOf (1023 * 2 ^ 52 + 1) * 2 ^ 52 =
      2 ^ BinaryFormat.double.scale * (2 ^ 52 + 1) := by
    decide +kernel
  have hpred : BinaryFormat.double.unitsOf (1023 * 2 ^ 52 - 1) * 2 ^ 53 =
      2 ^ BinaryFormat.double.scale * (2 ^ 53 - 1) := by
    decide +kernel
  have hmono := BinaryFormat.double.unitsOf_strictMono.monotone
  rcases lt_trichotomy x.magnitude (1023 * 2 ^ 52) with hlt | heq | hgt
  · right
    rw [← hpred]
    exact Nat.mul_le_mul_right _ (hmono (Nat.le_sub_one_of_lt hlt))
  · rw [units, heq] at hone
    exact absurd hself hone
  · left
    rw [← hnext]
    exact Nat.mul_le_mul_right _ (hmono hgt)

omit hx in
/-- Only of one the logarithm is near zero. -/
theorem le_abs_log (hone : x.units ≠ 2 ^ BinaryFormat.double.scale) :
    1 / 2 ^ 53 ≤ |Real.log x.value| := by
  have hscale : (0 : ℝ) < (2 ^ BinaryFormat.double.scale : ℕ) := by positivity
  have hvalue : (0 : ℝ) < x.value := by exact_mod_cast hpos
  have hunits := cast_value_of_pos hpos
  have hapart := units_apart hone
  -- the power of two is not to be computed
  generalize 2 ^ BinaryFormat.double.scale = one at *
  rcases hapart with habove | hbelow
  · have hlow : 1 + 1 / 2 ^ 52 ≤ (x.value : ℝ) := by
      rw [hunits, le_div_iff₀ hscale]
      rw [← Nat.cast_le (α := ℝ)] at habove
      push_cast at habove
      linarith
    have hinverse : (x.value : ℝ)⁻¹ ≤ 1 - 1 / 2 ^ 53 := by
      rw [inv_le_comm₀ hvalue (by norm_num)]
      refine le_trans ?_ hlow
      norm_num
    have hlog := Real.one_sub_inv_le_log_of_pos hvalue
    exact le_trans (by linarith) (le_abs_self _)
  · have hhigh : (x.value : ℝ) ≤ 1 - 1 / 2 ^ 53 := by
      rw [hunits, div_le_iff₀ hscale]
      rw [← Nat.cast_le (α := ℝ)] at hbelow
      push_cast at hbelow
      linarith
    have hlog := Real.log_le_sub_one_of_pos hvalue
    exact le_trans (by linarith) (neg_le_abs _)

/-- The logarithm is not large. -/
theorem abs_log_le : |Real.log x.value| ≤ 2098 := by
  have hunits : (1 : ℝ) ≤ x.units := by exact_mod_cast units_pos_of_value_pos hpos
  have htwo : Real.log 2 ≤ 1 := by
    have h := Real.log_le_sub_one_of_pos (two_pos (α := ℝ))
    linarith
  have hnonneg : 0 ≤ Real.log 2 := Real.log_nonneg one_le_two
  have hlow : 0 ≤ Real.log x.units := Real.log_nonneg hunits
  have hhigh : Real.log x.units ≤ 2098 * Real.log 2 := by
    exact_mod_cast log_le_of_le_two_pow (units_pos_of_value_pos hpos)
      (units_lt_of_isFinite hx).le
  have hone : Real.log (2 ^ BinaryFormat.double.scale : ℕ) = 1074 * Real.log 2 :=
    log_two_pow BinaryFormat.double.scale
  have hscale : ((2 ^ BinaryFormat.double.scale : ℕ) : ℝ) ≠ 0 :=
    Nat.cast_ne_zero.2 (Nat.two_pow_pos _).ne'
  rw [cast_value_of_pos hpos, Real.log_div (zero_lt_one.trans_le hunits).ne' hscale, hone, abs_le]
  constructor <;> linarith

theorem abs_scaledLog_units_sub_le :
    |(scaledLog x.units (2 ^ BinaryFormat.double.scale) : ℝ) -
      2 ^ logPlaces * Real.log x.value| ≤ 2 ^ 22 := by
  have hunits := units_pos_of_value_pos hpos
  have hclose := abs_scaledLog_sub_le hunits (Nat.two_pow_pos BinaryFormat.double.scale)
  have hcount : x.units.log2 + (2 ^ BinaryFormat.double.scale).log2 + 2 ≤ 3174 := by
    have hlog := (Nat.log2_lt hunits.ne').2 (units_lt_of_isFinite hx)
    have hscale : (2 ^ BinaryFormat.double.scale).log2 = 1074 := Nat.log2_two_pow
    omega
  have hcast : ((x.units.log2 + (2 ^ BinaryFormat.double.scale).log2 + 2 : ℕ) : ℝ) ≤ 3174 := by
    exact_mod_cast hcount
  rw [← cast_value_of_pos hpos] at hclose
  calc _ ≤ (801 : ℝ) * 3174 := hclose.trans (mul_le_mul_of_nonneg_left hcast (by norm_num))
    _ ≤ 2 ^ 22 := by norm_num

end Positive

/-! ### The margin -/

theorem abs_div_sub_le {u w one part : ℝ} (hone : 0 < one) (h : |u - w * one| ≤ w * one / part) :
    |u / one - w| ≤ w / part := by
  have hsplit : u / one - w = (u - w * one) / one := by
    rw [sub_div, mul_div_cancel_right₀ _ hone.ne']
  rw [hsplit, abs_div, abs_of_pos hone, div_le_iff₀ hone, div_mul_eq_mul_div]
  exact h

theorem scaled_less_le {l e s p : ℕ} (h : l ≤ e * 2 ^ p) :
    l * 2 ^ s * (2 ^ 56 - 1) ≤ e * 2 ^ s * (2 ^ p * 2 ^ 56) :=
  calc l * 2 ^ s * (2 ^ 56 - 1)
      ≤ e * 2 ^ p * 2 ^ s * 2 ^ 56 := Nat.mul_le_mul (Nat.mul_le_mul_right _ h) (Nat.sub_le _ _)
    _ = e * 2 ^ s * (2 ^ p * 2 ^ 56) := by ring

theorem cast_scaled_quotient (l s p : ℕ) :
    ((l * 2 ^ s : ℕ) : ℝ) / (2 ^ p : ℕ) = l / 2 ^ p * 2 ^ s := by
  push_cast
  rw [mul_div_right_comm]

section Margin

variable {l : ℤ} {y scale : ℝ} (hscale : 0 < scale) (hy : y ≠ 0)
  (h : |(l : ℝ) - scale * y| ≤ scale * |y| / 2 ^ 57)

include hscale hy h

theorem neg_iff_of_close : l < 0 ↔ y < 0 := by
  have hbounds := abs_le.1 h
  rw [← Int.cast_lt (R := ℝ), Int.cast_zero]
  rcases lt_or_gt_of_ne hy with hneg | hpos
  · rw [abs_of_neg hneg] at hbounds
    have hproduct := mul_neg_of_pos_of_neg hscale hneg
    exact iff_of_true (by linarith) hneg
  · rw [abs_of_pos hpos] at hbounds
    have hproduct := mul_pos hscale hpos
    exact iff_of_false (by linarith) (not_lt.2 hpos.le)

/-- What is known to a relative error of `2 ^ -57` is well within a margin of `2 ^ -56`. -/
theorem within_margin_of_close : (l.natAbs : ℝ) / scale * (1 - 1 / 2 ^ 56) < |y| ∧
    |y| < (l.natAbs : ℝ) / scale * (1 + 1 / 2 ^ 56) := by
  have habs : |(l.natAbs : ℝ) - scale * (|y|)| ≤ scale * |y| / 2 ^ 57 := by
    have hdistance := abs_abs_sub_abs_le (l : ℝ) (scale * y)
    rw [abs_mul, abs_of_pos hscale] at hdistance
    rw [Nat.cast_natAbs, Int.cast_abs]
    exact hdistance.trans h
  have hratio : (l.natAbs : ℝ) / scale * scale = l.natAbs := div_mul_cancel₀ _ hscale.ne'
  have hpos := mul_pos hscale (abs_pos.2 hy)
  obtain ⟨hlow, hhigh⟩ := abs_le.1 habs
  constructor
  · refine lt_of_mul_lt_mul_right ?_ hscale.le
    rw [mul_right_comm, hratio]
    linarith
  · refine lt_of_mul_lt_mul_right ?_ hscale.le
    rw [mul_right_comm, hratio]
    linarith

end Margin

/-! ### The logarithm that is computed -/

/-- The magnitude of the logarithm, where the integers decide it. -/
def logMagnitude? (x : Double) : Option Nat :=
  decided ((scaledLog x.units (2 ^ BinaryFormat.double.scale)).natAbs *
    2 ^ BinaryFormat.double.scale) (2 ^ logPlaces)

/-- The number is the natural logarithm of the other one, but for a unit in the last place, which
is no larger part of it than this. -/
structure IsLog (x y : Double) : Prop where
  finite : y.isFinite
  close : |(y.value : ℝ) - Real.log x.value| ≤ |Real.log x.value| / 2 ^ 52

theorem isLog_ofParts {x : Double} {m : Nat} {l : ℤ} (hfinite : m < BinaryFormat.double.infinity)
    (hnormal : 2 ^ 52 ≤ m)
    (hrounds : BinaryFormat.double.Rounds m (|Real.log x.value| * 2 ^ BinaryFormat.double.scale))
    (hsign : l < 0 ↔ Real.log x.value < 0) : IsLog x (ofParts (decide (l < 0)) m) := by
  have hle := Nat.le_of_lt hfinite
  have hvalue : ((ofParts (decide (l < 0)) m : Double).value : ℝ) =
      signFactor (decide (l < 0)) *
        (BinaryFormat.double.unitsOf m / 2 ^ BinaryFormat.double.scale) := by
    rw [value_eq, isNegative_ofParts hle, units, magnitude_ofParts hle]
    push_cast
    rfl
  have hclose : |(BinaryFormat.double.unitsOf m : ℝ) / 2 ^ BinaryFormat.double.scale -
      (|Real.log x.value|)| ≤ |Real.log x.value| / 2 ^ 52 :=
    abs_div_sub_le (by positivity) (hrounds.abs_sub_le hnormal)
  refine ⟨by rwa [isFinite_iff, magnitude_ofParts hle], ?_⟩
  rw [hvalue]
  by_cases hneg : l < 0
  · have hlog := hsign.1 hneg
    rw [abs_of_neg hlog] at hclose ⊢
    rw [decide_eq_true hneg, signFactor, if_pos rfl, ← abs_neg]
    convert hclose using 2
    push_cast
    ring
  · have hlog := not_lt.1 (mt hsign.2 hneg)
    rw [abs_of_nonneg hlog] at hclose ⊢
    rw [decide_eq_false hneg, signFactor, if_neg Bool.false_ne_true, Rat.cast_one, one_mul]
    exact hclose

/-- If the logarithm is left to the machine, the machine is right but for a unit in the last
place. -/
def MachineServes (x : Double) : Prop :=
  x.isFinite → x.logMagnitude? = none → IsLog x (machine Float.log x)

theorem machineServes_of_decided {x : Double} (h : x.logMagnitude?.isSome) : x.MachineServes := by
  intro _ hnone
  rw [hnone] at h
  cases h

section Positive

variable {x : Double} (hx : x.isFinite) (hpos : 0 < x.value)

include hx hpos

theorem ln_eq : x.ln = if x.units = 2 ^ BinaryFormat.double.scale then zero false
    else (x.logMagnitude?.map (ofParts (decide
      (scaledLog x.units (2 ^ BinaryFormat.double.scale) < 0)))).getD (machine Float.log x) := by
  simp only [ln, isNaN_of_isFinite hx, isZero_of_value_pos hpos, isNegative_of_value_pos hpos,
    isInfinite_of_isFinite hx, Bool.false_eq_true, if_false, logMagnitude?]
  generalize decided _ _ = magnitude
  cases magnitude with
  | none => simp only [Option.map_none, Option.getD_none]
  | some m => simp only [Option.map_some, Option.getD_some]

omit hx in
theorem log_ne_zero (hone : x.units ≠ 2 ^ BinaryFormat.double.scale) :
    Real.log x.value ≠ 0 := by
  have hlarge := le_abs_log hpos hone
  rw [← abs_pos]
  exact lt_of_lt_of_le (by norm_num) hlarge

/-- The scaled logarithm is known well within the margin of the decision. -/
theorem scaledLog_close (hone : x.units ≠ 2 ^ BinaryFormat.double.scale) :
    |(scaledLog x.units (2 ^ BinaryFormat.double.scale) : ℝ) - 2 ^ logPlaces * Real.log x.value| ≤
      2 ^ logPlaces * |Real.log x.value| / 2 ^ 57 := by
  have hlarge := le_abs_log hpos hone
  refine (abs_scaledLog_units_sub_le hx hpos).trans ?_
  calc (2 : ℝ) ^ 22 ≤ 2 ^ logPlaces * (1 / 2 ^ 53) / 2 ^ 57 := by norm_num [logPlaces]
    _ ≤ 2 ^ logPlaces * |Real.log x.value| / 2 ^ 57 := by gcongr

/-- What is decided of the logarithm is finite, and the double that is nearest to it. -/
theorem rounds_log {m : Nat} (hone : x.units ≠ 2 ^ BinaryFormat.double.scale)
    (h : x.logMagnitude? = some m) : m < BinaryFormat.double.infinity ∧
      BinaryFormat.double.Rounds m (|Real.log x.value| * 2 ^ BinaryFormat.double.scale) := by
  have hplaces : (0 : ℝ) < 2 ^ logPlaces := by positivity
  have hscale : (0 : ℝ) < 2 ^ BinaryFormat.double.scale := by positivity
  obtain ⟨hlow, hhigh⟩ := within_margin_of_close hplaces (log_ne_zero hpos hone)
    (scaledLog_close hx hpos hone)
  have hlarge := abs_log_le hx hpos
  unfold logMagnitude? at h
  generalize (scaledLog x.units (2 ^ BinaryFormat.double.scale)).natAbs = l at *
  have hfinite : m < BinaryFormat.double.infinity := by
    obtain ⟨hround, -⟩ := decided_eq_some.1 h
    have hexact : BinaryFormat.double.exactIntegers = 2 ^ 53 := by decide
    have hsize : l ≤ BinaryFormat.double.exactIntegers * 2 ^ logPlaces := by
      have hreal : (l : ℝ) / 2 ^ logPlaces ≤ 2 ^ 53 := by linarith
      rw [div_le_iff₀ hplaces] at hreal
      rw [hexact]
      exact_mod_cast hreal
    rw [← hround]
    exact BinaryFormat.round_lt_infinity BinaryFormat.double_hasIntegers
      (Nat.mul_pos (Nat.two_pow_pos _) (Nat.two_pow_pos 56)) (scaled_less_le hsize)
  have hquotient : ((l * 2 ^ BinaryFormat.double.scale : ℕ) : ℝ) / (2 ^ logPlaces : ℕ) =
      l / 2 ^ logPlaces * 2 ^ BinaryFormat.double.scale :=
    cast_scaled_quotient l BinaryFormat.double.scale logPlaces
  refine ⟨hfinite, rounds_of_decided (Nat.two_pow_pos _) h hfinite ?_ ?_⟩
  · rw [hquotient, mul_right_comm]
    exact mul_lt_mul_of_pos_right hlow hscale
  · rw [hquotient, mul_right_comm]
    exact mul_lt_mul_of_pos_right hhigh hscale

/-- Whether the integers decide it or not, what is computed is the logarithm but for a unit in the
last place. -/
theorem isLog_ln (hmachine : x.MachineServes) : IsLog x x.ln := by
  rw [ln_eq hx hpos]
  split
  · next hone =>
    have hvalue : (x.value : ℝ) = 1 := by
      rw [cast_value_of_pos hpos, hone, div_self]
      exact Nat.cast_ne_zero.2 (Nat.two_pow_pos _).ne'
    have hzero : (zero false : Double).value = 0 := (isZero_iff_value _).1 (by decide)
    refine ⟨by decide, ?_⟩
    rw [hvalue, hzero, Real.log_one]
    simp
  · next hone =>
    cases hdecided : x.logMagnitude? with
    | none => exact hmachine hx hdecided
    | some m =>
      obtain ⟨hfinite, hrounds⟩ := rounds_log hx hpos hone hdecided
      have hnormal := (decided_eq_some.1 hdecided).2.2
      have hsign := neg_iff_of_close (by positivity) (log_ne_zero hpos hone)
        (scaledLog_close hx hpos hone)
      exact isLog_ofParts hfinite hnormal hrounds hsign

end Positive

/-! ### Multiples of a logarithm -/

section Double

variable {x y : Double} (hx : x.isFinite)

include hx

/-- A number above one has its logarithm above zero, which is far above the subnormal range. -/
theorem exists_value_ln (hxone : 1 < x.value) (h : x.logMagnitude?.isSome) :
    ∃ m, 2 ^ BinaryFormat.double.fractionBits < m ∧
      x.ln.value = BinaryFormat.double.unitsOf m / 2 ^ BinaryFormat.double.scale ∧
      BinaryFormat.double.Rounds m (Real.log x.value * 2 ^ BinaryFormat.double.scale) := by
  have hpos : 0 < x.value := one_pos.trans hxone
  have hlog : 0 < Real.log x.value := Real.log_pos (by exact_mod_cast hxone)
  have hone : x.units ≠ 2 ^ BinaryFormat.double.scale := by
    intro hunits
    have hvalue := cast_value_of_pos hpos
    rw [hunits, div_self (Nat.cast_ne_zero.2 (Nat.two_pow_pos _).ne')] at hvalue
    exact hxone.ne' (by exact_mod_cast hvalue)
  obtain ⟨m, hdecided⟩ := Option.isSome_iff_exists.1 h
  obtain ⟨hfinite, hrounds⟩ := rounds_log hx hpos hone hdecided
  have hsign : ¬ scaledLog x.units (2 ^ BinaryFormat.double.scale) < 0 := by
    rw [neg_iff_of_close (by positivity) hlog.ne' (scaledLog_close hx hpos hone)]
    exact not_lt.2 hlog.le
  have hlarge := le_abs_log hpos hone
  rw [abs_of_pos hlog] at hrounds hlarge
  refine ⟨m, ?_, ?_, hrounds⟩
  · -- a smaller magnitude stands for so many units itself, and the logarithm for many more
    by_contra hsmall
    have hfraction : 0 < 2 ^ BinaryFormat.double.fractionBits := Nat.two_pow_pos _
    have hcast : (m : ℝ) ≤ 2 ^ 52 := by exact_mod_cast not_lt.1 hsmall
    have hscale : (2 : ℝ) ^ 120 ≤ 2 ^ BinaryFormat.double.scale :=
      pow_le_pow_right₀ one_le_two (by decide)
    have hproduct : (2 : ℝ) ^ 67 ≤ Real.log x.value * 2 ^ BinaryFormat.double.scale :=
      calc (2 : ℝ) ^ 67 = 1 / 2 ^ 53 * 2 ^ 120 := by norm_num
        _ ≤ Real.log x.value * 2 ^ BinaryFormat.double.scale :=
            mul_le_mul hlarge hscale (by positivity) hlog.le
    have hhigh := hrounds.high
    rw [BinaryFormat.unitsOf_of_le (by omega), BinaryFormat.unitsOf_of_le (by omega)] at hhigh
    push_cast at hhigh
    linarith
  · have hle := Nat.le_of_lt hfinite
    rw [ln_eq hx hpos, if_neg hone, hdecided, decide_eq_false hsign, Option.map_some,
      Option.getD_some, value_eq, isNegative_ofParts hle, units, magnitude_ofParts hle, signFactor,
      if_neg Bool.false_ne_true, one_mul]

/-- A logarithm that is twice another one, or any power of two times it, has the same fraction, so
that it is rounded alike. -/
theorem value_ln_two_pow (hy : y.isFinite) (hxone : 1 < x.value) (hyone : 1 < y.value) {k : ℕ}
    (hlog : Real.log y.value = 2 ^ k * Real.log x.value) (hxdecided : x.logMagnitude?.isSome)
    (hydecided : y.logMagnitude?.isSome) : y.ln.value = 2 ^ k * x.ln.value := by
  obtain ⟨m, hlarge, hvalue, hrounds⟩ := exists_value_ln hx hxone hxdecided
  obtain ⟨m', -, hvalue', hrounds'⟩ := exists_value_ln hy hyone hydecided
  obtain ⟨hscaled, hunits⟩ := hrounds.two_pow_mul hlarge k
  rw [hlog, mul_assoc] at hrounds'
  rw [hvalue, hvalue', hrounds'.unique hscaled, hunits]
  push_cast
  rw [mul_div_assoc]

end Double

end Binary

end DeviceGateway
