import DeviceGateway.Proofs.Binary.Integer
import Mathlib.Data.Nat.Log

/-! Quotients near an integer. A quotient that is short of an integer by no more than half the
step to the number before it is rounded to the integer, or past it, and one that is shorter is
rounded to a number below it, so that its integer part is the one before. -/

namespace DeviceGateway

/-! ### The number before an integer -/

theorem two_pow_clog_lt {n : ℕ} (hn : 0 < n) : 2 ^ Nat.clog 2 n < 2 * n := by
  rcases Nat.lt_or_ge 1 n with h1 | h1
  · have hlt := Nat.pow_pred_clog_lt_self (b := 2) (by decide) h1
    obtain ⟨c, hc⟩ := Nat.exists_eq_succ_of_ne_zero (Nat.clog_pos (b := 2) (by decide) h1).ne'
    rw [hc, Nat.pred_succ] at hlt
    rw [hc, Nat.pow_succ]
    omega
  · obtain rfl : n = 1 := by omega
    decide

namespace BinaryFormat

variable {f : BinaryFormat}

/-- Scaled by the power of two that fills the fraction, an integer is even. -/
theorem exists_filled {n : ℕ} (hn : 0 < n) (hsmall : Nat.clog 2 n ≤ f.fractionBits) :
    ∃ j, f.fractionBits = Nat.clog 2 n + j ∧ n * 2 ^ (j + 1) % 2 = 0 ∧
      2 ^ f.fractionBits < n * 2 ^ (j + 1) ∧ n * 2 ^ (j + 1) ≤ 2 * 2 ^ f.fractionBits := by
  obtain ⟨j, hj⟩ := Nat.exists_eq_add_of_le hsmall
  have hlow := Nat.mul_lt_mul_of_pos_right (two_pow_clog_lt hn) (Nat.two_pow_pos j)
  have hhigh := Nat.mul_le_mul_right (2 * 2 ^ j) (Nat.le_pow_clog (b := 2) (by decide) n)
  have hnext : n * 2 ^ (j + 1) = n * (2 * 2 ^ j) := by rw [Nat.pow_succ']
  have hswap : n * (2 * 2 ^ j) = 2 * n * 2 ^ j := by ring
  refine ⟨j, hj, ?_, ?_, ?_⟩
  · rw [hnext, hswap, Nat.mul_assoc, Nat.mul_mod_right]
  · rw [hj, Nat.pow_add, hnext, hswap]
    exact hlow
  · rw [hnext, hj, Nat.pow_add]
    linarith

/-- The magnitude of a small integer is even, and the step to it is that of the numbers up to the
next power of two. -/
theorem exists_even_unitsOf (hp : 0 < f.fractionBits) (hscale : f.fractionBits < f.scale) {n : ℕ}
    (hn : 0 < n) (hsmall : Nat.clog 2 n ≤ f.fractionBits) : ∃ m s, 0 < m ∧ m % 2 = 0 ∧
      f.unitsOf m = n * 2 ^ f.scale ∧ f.unitsOf (m - 1) + 2 ^ s = n * 2 ^ f.scale ∧
      s + (f.fractionBits + 1) = f.scale + Nat.clog 2 n := by
  obtain ⟨j, hj, heven, hlow, hhigh⟩ := exists_filled hn hsmall
  obtain ⟨s, hs⟩ : ∃ s, f.scale = s + (j + 1) := Nat.exists_eq_add_of_le' (by omega)
  have hvalue : n * 2 ^ f.scale = n * 2 ^ (j + 1) * 2 ^ s := by
    rw [hs, Nat.pow_add]
    ring
  have hexponent : s * 2 ^ f.fractionBits % 2 = 0 := by
    obtain ⟨p, hp⟩ := Nat.exists_eq_succ_of_ne_zero (Nat.ne_of_gt hp)
    rw [hp, Nat.pow_succ, ← Nat.mul_assoc, Nat.mul_mod_left]
  have hpred : s * 2 ^ f.fractionBits + n * 2 ^ (j + 1) - 1 =
      s * 2 ^ f.fractionBits + (n * 2 ^ (j + 1) - 1) := Nat.add_sub_assoc (by omega) _
  refine ⟨s * 2 ^ f.fractionBits + n * 2 ^ (j + 1), s, by omega, by omega, ?_, ?_, by omega⟩
  · rw [f.unitsOf_parts hhigh (.inr hlow.le), hvalue]
  · rw [hpred, f.unitsOf_parts (by omega) (.inr (by omega)), hvalue, ← Nat.succ_mul]
    congr 1
    omega

end BinaryFormat

namespace Binary

variable {f : BinaryFormat}

/-! ### Quotients -/

/-- Positive numbers are divided as quotients of integers. -/
theorem div_of_positive {x y : Binary f} (hx : x.isFinite) (hy : y.isFinite) (hxpos : 0 < x.value)
    (hypos : 0 < y.value) :
    x.div y = ofParts false (f.round (x.units * 2 ^ f.scale) y.units) := by
  simp only [div, isNaN_of_isFinite hx, isNaN_of_isFinite hy, isInfinite_of_isFinite hx,
    isInfinite_of_isFinite hy, isZero_of_value_pos hypos, isNegative_of_value_pos hxpos,
    isNegative_of_value_pos hypos, Bool.or_self, Bool.false_eq_true, if_false,
    bne_self_eq_false]

end Binary

namespace BinaryFormat

variable {f : BinaryFormat}

/-- Whether a quotient is below the middle between an integer and the number before it, told from
the step between them. -/
theorem middle_le_iff {m n a d s part c one : ℕ} (hone : 0 < one) (hpart : 0 < part)
    (hself : f.unitsOf m = n * one) (hpred : f.unitsOf (m - 1) + 2 ^ s = n * one)
    (hstep : 2 ^ s * part = one * c) :
    (f.unitsOf (m - 1) + f.unitsOf m) * d ≤ 2 * (a * one) ↔
      2 * n * part * d ≤ 2 * a * part + c * d := by
  have hpred' : f.unitsOf (m - 1) * d + 2 ^ s * d = n * one * d := by
    rw [← Nat.add_mul, hpred]
  have hleft : 2 * (n * one * d) * part = 2 * n * part * d * one := by ring
  have hright : (2 * (a * one) + 2 ^ s * d) * part = (2 * a * part + c * d) * one := by
    linear_combination d * hstep
  rw [hself, Nat.add_mul]
  calc f.unitsOf (m - 1) * d + n * one * d ≤ 2 * (a * one)
      ↔ 2 * (n * one * d) ≤ 2 * (a * one) + 2 ^ s * d := by omega
    _ ↔ 2 * (n * one * d) * part ≤ (2 * (a * one) + 2 ^ s * d) * part :=
        (Nat.mul_le_mul_right_iff hpart).symm
    _ ↔ 2 * n * part * d * one ≤ (2 * a * part + c * d) * one := by rw [hleft, hright]
    _ ↔ 2 * n * part * d ≤ 2 * a * part + c * d := Nat.mul_le_mul_right_iff hone

section Near

variable (hf : f.HasIntegers) (hscale : f.fractionBits < f.scale) {a d n : ℕ} (hd : 0 < d)
  (hsmall : Nat.clog 2 n < f.fractionBits) (hhigh : 2 * a ≤ (2 * n + 1) * d)

include hf hscale hd hsmall hhigh

/-- Up to half past the integer nothing is rounded to the next one. -/
theorem round_near_high :
    f.round (a * 2 ^ f.scale) d < f.infinity ∧
      f.unitsOf (f.round (a * 2 ^ f.scale) d) < (n + 1) * 2 ^ f.scale := by
  obtain ⟨t, ht⟩ := Nat.exists_eq_succ_of_ne_zero (Nat.ne_of_gt (Nat.zero_lt_of_lt hscale))
  have hn : n < 2 ^ f.fractionBits := by
    refine Nat.lt_of_le_of_lt (Nat.le_pow_clog (b := 2) (by decide) n) ?_
    exact Nat.pow_lt_pow_right (by decide) hsmall
  obtain ⟨m, hm⟩ := f.exists_unitsOf (a := 2 * n + 1) (by omega) t
  have hround : f.round (a * 2 ^ f.scale) d ≤ m := by
    refine round_le hf.fraction hd ?_
    calc a * 2 ^ f.scale = 2 * a * 2 ^ t := by
          rw [ht, Nat.pow_succ]
          ring
      _ ≤ (2 * n + 1) * d * 2 ^ t := Nat.mul_le_mul_right _ hhigh
      _ = f.unitsOf m * d := by rw [hm, Nat.mul_right_comm]
  have hunits : f.unitsOf m < (n + 1) * 2 ^ f.scale := by
    rw [hm, ht, Nat.pow_succ]
    have hpos := Nat.two_pow_pos t
    linarith
  refine ⟨?_, (f.unitsOf_strictMono.monotone hround).trans_lt hunits⟩
  apply f.unitsOf_strictMono.lt_iff_lt.1
  refine lt_of_le_of_lt ((f.unitsOf_strictMono.monotone hround).trans hunits.le) ?_
  refine lt_of_le_of_lt (Nat.mul_le_mul_right _ ?_) hf.room
  rw [exactIntegers]
  omega

/-- The integer part of the rounded quotient is the integer if the quotient is not below the middle
to the number before, and the integer before if it is. -/
theorem round_near (hn : 0 < n) (hlow : (n - 1) * d ≤ a) :
    f.unitsOf (f.round (a * 2 ^ f.scale) d) / 2 ^ f.scale =
      if 2 * n * 2 ^ (f.fractionBits + 1) * d ≤
        2 * a * 2 ^ (f.fractionBits + 1) + 2 ^ Nat.clog 2 n * d then n else n - 1 := by
  obtain ⟨hfinite, hbelow⟩ := round_near_high hf hscale hd hsmall hhigh
  obtain ⟨m, s, hm, heven, hself, hpred, hs⟩ :=
    exists_even_unitsOf hf.fraction hscale hn hsmall.le
  have hpos := Nat.two_pow_pos f.scale
  have hn' : n ≤ f.exactIntegers := by
    have hle := (Nat.le_pow_clog (b := 2) (by decide) n).trans
      (Nat.pow_le_pow_right (by decide) hsmall.le)
    rw [exactIntegers]
    omega
  have hmiddle : n * 2 ^ f.scale ≤ f.unitsOf (f.round (a * 2 ^ f.scale) d) ↔
      2 * n * 2 ^ (f.fractionBits + 1) * d ≤
        2 * a * 2 ^ (f.fractionBits + 1) + 2 ^ Nat.clog 2 n * d := by
    have hle : m ≤ f.infinity := by
      apply f.unitsOf_strictMono.le_iff_le.1
      rw [hself]
      exact (Nat.mul_le_mul_right _ hn').trans hf.room.le
    rw [← hself, f.unitsOf_strictMono.le_iff_le,
      le_round_iff_of_even hf.fraction hd hm heven hle]
    exact middle_le_iff hpos (Nat.two_pow_pos _) hself hpred
      (by rw [← Nat.pow_add, ← Nat.pow_add, hs])
  have hbefore : (n - 1) * 2 ^ f.scale ≤ f.unitsOf (f.round (a * 2 ^ f.scale) d) := by
    obtain ⟨k, hlt, hk, -⟩ := round_integer hf (n := n - 1) (by omega) Nat.one_pos
    rw [← hk]
    refine f.unitsOf_strictMono.monotone (le_round hf.fraction hd hlt.le ?_)
    rw [hk, Nat.mul_right_comm]
    exact Nat.mul_le_mul_right _ hlow
  split
  · next hcond => exact Nat.div_eq_of_lt_le (hmiddle.2 hcond) hbelow
  · next hcond =>
    have hlt := Nat.not_le.1 (mt hmiddle.1 hcond)
    refine Nat.div_eq_of_lt_le hbefore ?_
    rwa [Nat.sub_add_cancel hn]

end Near

end BinaryFormat

namespace Binary

variable {f : BinaryFormat} {x y : Binary f} {n : ℕ} (hf : f.HasIntegers)
  (hscale : f.fractionBits < f.scale) (hx : x.isFinite) (hy : y.isFinite) (hxpos : 0 < x.value)
  (hypos : 0 < y.value) (hn : 0 < n) (hsmall : Nat.clog 2 n < f.fractionBits)
  (hlow : ((n : ℚ) - 1) * y.value ≤ x.value) (hhigh : 2 * x.value ≤ (2 * n + 1) * y.value)

include hf hscale hx hy hxpos hypos hn hsmall hlow hhigh

/-- A quotient near an integer is cut to the integer or to the one before. -/
theorem truncate_div_near : (x.div y).isFinite ∧ (x.div y).truncate =
    if n * y.value - x.value ≤ y.value * 2 ^ Nat.clog 2 n / (2 * 2 ^ (f.fractionBits + 1))
    then (n : ℤ) else n - 1 := by
  have hd := units_pos_of_value_pos hypos
  have hdiv := div_of_positive hx hy hxpos hypos
  have hone : (0 : ℚ) < 2 ^ f.scale := by positivity
  rw [value_of_pos hxpos, value_of_pos hypos] at hlow hhigh ⊢
  rw [← mul_div_assoc, div_le_div_iff_of_pos_right hone] at hlow
  rw [← mul_div_assoc, ← mul_div_assoc, div_le_div_iff_of_pos_right hone] at hhigh
  have hlow' : (n - 1) * y.units ≤ x.units := by
    rw [← Nat.cast_pred hn] at hlow
    exact_mod_cast hlow
  have hhigh' : 2 * x.units ≤ (2 * n + 1) * y.units := by exact_mod_cast hhigh
  obtain ⟨hfinite, -⟩ := BinaryFormat.round_near_high hf hscale hd hsmall hhigh'
  have hnear := BinaryFormat.round_near hf hscale hd hsmall hhigh' hn hlow'
  have hle := Nat.le_of_lt hfinite
  have hcond : n * ((y.units : ℚ) / 2 ^ f.scale) - x.units / 2 ^ f.scale ≤
      (y.units : ℚ) / 2 ^ f.scale * 2 ^ Nat.clog 2 n / (2 * 2 ^ (f.fractionBits + 1)) ↔
        2 * n * 2 ^ (f.fractionBits + 1) * y.units ≤
          2 * x.units * 2 ^ (f.fractionBits + 1) + 2 ^ Nat.clog 2 n * y.units := by
    have hpart : (0 : ℚ) < 2 * 2 ^ (f.fractionBits + 1) := by positivity
    have hsplit : n * ((y.units : ℚ) / 2 ^ f.scale) - x.units / 2 ^ f.scale =
        (n * y.units - x.units) / 2 ^ f.scale := by ring
    have hswap : (y.units : ℚ) / 2 ^ f.scale * 2 ^ Nat.clog 2 n = y.units * 2 ^ Nat.clog 2 n /
        2 ^ f.scale := by ring
    rw [hsplit, hswap, div_right_comm, div_le_div_iff_of_pos_right hone, le_div_iff₀ hpart,
      ← Nat.cast_le (α := ℚ)]
    push_cast
    constructor <;> intro h <;> linarith
  rw [hdiv]
  refine ⟨by rwa [isFinite_iff, magnitude_ofParts hle], ?_⟩
  rw [truncate, isNegative_ofParts hle, if_neg Bool.false_ne_true, units, magnitude_ofParts hle,
    hnear]
  simp only [hcond]
  split
  · rfl
  · exact Nat.cast_pred hn

end Binary

end DeviceGateway
