import DeviceGateway.Binary.Elementary
import Mathlib.Analysis.SpecialFunctions.Log.Deriv

/-! The logarithm in integers. The series of `2 * atanh t` is summed in places of fixed point, each
power of `t` made of the one before, and every quotient on the way is cut off. What is cut off adds
up to few units of the last place, so that the scaled logarithm of a quotient of integers differs
from the true one by no more than some units for each power of two in the quotient. -/

namespace DeviceGateway.Binary

open Finset (range)

/-! ### The series -/

/-- The first terms of the series of `2 * atanh t` from the odd power `a` on. -/
noncomputable def seriesTerms (t a : ℝ) (i count : ℕ) : ℝ :=
  ∑ j ∈ range count, 2 * (a * t ^ (2 * j)) / (2 * (i + j) + 1)

theorem seriesTerms_succ (t a : ℝ) (i count : ℕ) : seriesTerms t a i (count + 1) =
    2 * a / (2 * i + 1) + seriesTerms t (a * t ^ 2) (i + 1) count := by
  rw [seriesTerms, Finset.sum_range_succ', add_comm]
  congr 1
  · simp
  · apply Finset.sum_congr rfl
    intro j _
    push_cast
    ring

theorem seriesTerms_first (t a : ℝ) (count : ℕ) : seriesTerms t (a * t) 0 count =
    a * (2 * ∑ i ∈ range count, t ^ (2 * i + 1) / (2 * i + 1)) := by
  rw [seriesTerms, Finset.mul_sum, Finset.mul_sum]
  apply Finset.sum_congr rfl
  intro j _
  push_cast
  ring

/-- A quotient of integers is cut off by less than one. -/
theorem cast_div_bounds (a : ℕ) {b : ℕ} (hb : 0 < b) :
    ((a / b : ℕ) : ℝ) ≤ a / b ∧ (a : ℝ) / b ≤ (a / b : ℕ) + 1 := by
  have hpos : (0 : ℝ) < b := by exact_mod_cast hb
  refine ⟨Nat.cast_div_le, ?_⟩
  rw [div_le_iff₀ hpos]
  exact_mod_cast (Nat.mul_comm _ _ ▸ Nat.lt_mul_div_succ a hb).le

section Series

variable {p q : ℕ} (hq : 0 < q) (hsmall : 3 * p ≤ q)

include hq hsmall

theorem ratio_sq_le : ((p : ℝ) / q) ^ 2 ≤ 1 / 9 := by
  have hpos : (0 : ℝ) < q := by exact_mod_cast hq
  have hthird : (p : ℝ) / q ≤ 1 / 3 := by
    rw [div_le_div_iff₀ hpos (by norm_num)]
    exact_mod_cast (by omega : p * 3 ≤ 1 * q)
  have hnonneg : (0 : ℝ) ≤ p / q := by positivity
  nlinarith

/-- A power is short of the true one by a unit and what the powers before it were short of, which
is carried on in ninths. -/
theorem power_bounds {power : ℕ} {a : ℝ} (hlow : power ≤ a) (hhigh : a ≤ power + 9 / 8) :
    ((power * (p * p) / (q * q) : ℕ) : ℝ) ≤ a * (p / q) ^ 2 ∧
      a * (p / q) ^ 2 ≤ (power * (p * p) / (q * q) : ℕ) + 9 / 8 := by
  have hsquare := ratio_sq_le hq hsmall
  have hnonneg : (0 : ℝ) ≤ ((p : ℝ) / q) ^ 2 := by positivity
  obtain ⟨hfloor, hceil⟩ := cast_div_bounds (power * (p * p)) (Nat.mul_pos hq hq)
  have hexact : ((power * (p * p) : ℕ) : ℝ) / (q * q : ℕ) = power * ((p : ℝ) / q) ^ 2 := by
    push_cast
    ring
  rw [hexact] at hfloor hceil
  constructor
  · nlinarith
  · nlinarith

/-- The sum falls short of the terms by no more than four units for each of them. -/
theorem atanhTerms_bounds (count : ℕ) : ∀ {power : ℕ} {a : ℝ} (i : ℕ), power ≤ a →
    a ≤ power + 9 / 8 →
    (atanhTerms p q count power i : ℝ) ≤ seriesTerms (p / q) a i count ∧
      seriesTerms (p / q) a i count ≤ atanhTerms p q count power i + 4 * count := by
  induction count with
  | zero => intros; simp [atanhTerms, seriesTerms]
  | succ count ih =>
    intro power a i hlow hhigh
    obtain ⟨hlow', hhigh'⟩ := power_bounds hq hsmall hlow hhigh
    obtain ⟨hfloor, hceil⟩ := cast_div_bounds (2 * power) (Nat.succ_pos (2 * i))
    have hodd : (1 : ℝ) ≤ 2 * i + 1 := by
      have : (0 : ℝ) ≤ i := by positivity
      linarith
    have hterm : 2 * (power : ℝ) / (2 * i + 1) ≤ 2 * a / (2 * i + 1) :=
      div_le_div_of_nonneg_right (by linarith) (by linarith)
    have hterm' : 2 * a / (2 * i + 1) ≤ 2 * power / (2 * i + 1) + 9 / 4 := by
      have hextra : (9 / 4 : ℝ) / (2 * i + 1) ≤ 9 / 4 := div_le_self (by norm_num) hodd
      have hsum : 2 * a / (2 * i + 1) ≤ (2 * power + 9 / 4) / (2 * i + 1) :=
        div_le_div_of_nonneg_right (by linarith) (by linarith)
      rw [add_div] at hsum
      linarith
    push_cast at hfloor hceil
    rw [seriesTerms_succ, atanhTerms]
    split
    · -- a power of zero ends the sum, and the terms left out are small
      next hzero =>
      subst hzero
      obtain ⟨hbelow, habove⟩ := ih (i + 1) hlow' hhigh'
      have hnone : atanhTerms p q count (0 * (p * p) / (q * q)) (i + 1) = 0 := by
        cases count <;> simp [atanhTerms]
      rw [hnone] at hbelow habove
      push_cast at hterm hterm' hbelow habove ⊢
      rw [mul_zero, zero_div] at hterm hterm'
      constructor <;> linarith
    · obtain ⟨hbelow, habove⟩ := ih (i + 1) hlow' hhigh'
      push_cast
      constructor <;> linarith

/-- The terms that are never summed are less than a unit. -/
theorem seriesRest_le : 2 ^ logPlaces *
    (2 * (((p : ℝ) / q) ^ (2 * logPlaces + 1) / (1 - (p / q) ^ 2))) ≤ 1 := by
  have hsquare := ratio_sq_le hq hsmall
  have hnonneg : (0 : ℝ) ≤ p / q := by positivity
  have hone : (p : ℝ) / q ≤ 1 := by nlinarith
  have hpowers : ((p : ℝ) / q) ^ (2 * logPlaces + 1) ≤ (1 / 9) ^ logPlaces := by
    rw [pow_succ, pow_mul]
    calc (((p : ℝ) / q) ^ 2) ^ logPlaces * (p / q) ≤ (1 / 9) ^ logPlaces * 1 := by gcongr
      _ = (1 / 9) ^ logPlaces := mul_one _
  have hrest : ((p : ℝ) / q) ^ (2 * logPlaces + 1) / (1 - (p / q) ^ 2) ≤
      (1 / 9) ^ logPlaces * (9 / 8) := by
    rw [div_le_iff₀ (by linarith)]
    nlinarith [pow_pos (by norm_num : (0 : ℝ) < 1 / 9) logPlaces]
  calc 2 ^ logPlaces * (2 * (((p : ℝ) / q) ^ (2 * logPlaces + 1) / (1 - (p / q) ^ 2)))
      ≤ 2 ^ logPlaces * (2 * ((1 / 9) ^ logPlaces * (9 / 8))) := by gcongr
    _ ≤ 1 := by norm_num [logPlaces]

/-- The scaled sum is the scaled logarithm but for what is cut off. -/
theorem twiceAtanh_bounds :
    (twiceAtanh p q : ℝ) ≤ 2 ^ logPlaces * Real.log ((q + p) / (q - p)) ∧
      2 ^ logPlaces * Real.log ((q + p) / (q - p)) ≤ twiceAtanh p q + 801 := by
  have hpos : (0 : ℝ) < q := by exact_mod_cast hq
  have hnonneg : (0 : ℝ) ≤ p / q := by positivity
  have hone : (p : ℝ) / q < 1 := by
    have hsquare := ratio_sq_le hq hsmall
    nlinarith
  have hquotient : (1 + (p : ℝ) / q) / (1 - p / q) = (q + p) / (q - p) := by
    have hless : (p : ℝ) < q := (div_lt_one hpos).1 hone
    have hdifference : (q : ℝ) - p ≠ 0 := by linarith
    field_simp
  have hlow := Real.sum_range_le_log_div hnonneg hone logPlaces
  have hhigh := Real.log_div_le_sum_range_add hnonneg hone logPlaces
  rw [hquotient] at hlow hhigh
  obtain ⟨hfloor, hceil⟩ := cast_div_bounds (p * 2 ^ logPlaces) hq
  have hpower : ((p * 2 ^ logPlaces : ℕ) : ℝ) / q = 2 ^ logPlaces * (p / q) := by
    push_cast
    ring
  rw [hpower] at hfloor hceil
  obtain ⟨hbelow, habove⟩ := atanhTerms_bounds hq hsmall logPlaces 0 hfloor (by linarith)
  rw [seriesTerms_first] at hbelow habove
  have hrest := seriesRest_le hq hsmall
  have hscale : (0 : ℝ) < 2 ^ logPlaces := by positivity
  have hcount : (4 : ℝ) * (logPlaces : ℕ) = 800 := by norm_num [logPlaces]
  rw [hcount] at habove
  unfold twiceAtanh
  constructor
  · nlinarith
  · nlinarith

end Series

/-! ### The logarithm of a quotient -/

/-- The logarithm of a quotient near one, scaled. -/
def nearLog (n d : ℕ) : ℤ :=
  if d ≤ n then twiceAtanh (n - d) (n + d) else -(twiceAtanh (d - n) (n + d) : ℤ)

theorem abs_nearLog_sub_le {n d : ℕ} (hn : 0 < n) (hlow : n ≤ 2 * d) (hhigh : d ≤ 2 * n) :
    |(nearLog n d : ℝ) - 2 ^ logPlaces * Real.log (n / d)| ≤ 801 := by
  unfold nearLog
  split
  · next hle =>
    obtain ⟨hbelow, habove⟩ := twiceAtanh_bounds (p := n - d) (q := n + d) (by omega) (by omega)
    have hquotient : (((n + d : ℕ) : ℝ) + (n - d : ℕ)) / ((n + d : ℕ) - (n - d : ℕ)) = n / d := by
      push_cast [hle]
      calc ((n : ℝ) + d + (n - d)) / (n + d - (n - d)) = 2 * n / (2 * d) := by ring_nf
        _ = n / d := mul_div_mul_left _ _ two_ne_zero
    rw [hquotient] at hbelow habove
    rw [Int.cast_natCast, abs_le]
    constructor <;> linarith
  · next hlt =>
    obtain ⟨hbelow, habove⟩ := twiceAtanh_bounds (p := d - n) (q := n + d) (by omega) (by omega)
    have hquotient : (((n + d : ℕ) : ℝ) + (d - n : ℕ)) / ((n + d : ℕ) - (d - n : ℕ)) =
        ((n : ℝ) / d)⁻¹ := by
      push_cast [Nat.le_of_not_le hlt]
      calc ((n : ℝ) + d + (d - n)) / (n + d - (d - n)) = 2 * d / (2 * n) := by ring_nf
        _ = d / n := mul_div_mul_left _ _ two_ne_zero
        _ = ((n : ℝ) / d)⁻¹ := (inv_div _ _).symm
    rw [hquotient, Real.log_inv] at hbelow habove
    rw [Int.cast_neg, Int.cast_natCast, abs_le]
    constructor <;> linarith

/-- Factors that bring two integers to the same bit length. -/
theorem exists_alike {n d : ℕ} (hn : 0 < n) (hd : 0 < d) : ∃ j k : ℕ,
    (-((n.log2 : ℤ) - d.log2)).toNat = j ∧ ((n.log2 : ℤ) - d.log2).toNat = k ∧
      (n.log2 : ℤ) - d.log2 = k - j ∧ n * 2 ^ j ≤ 2 * (d * 2 ^ k) ∧
      d * 2 ^ k ≤ 2 * (n * 2 ^ j) := by
  obtain ⟨j, hj⟩ : ∃ j, max n.log2 d.log2 = n.log2 + j :=
    Nat.exists_eq_add_of_le (Nat.le_max_left ..)
  obtain ⟨k, hk⟩ : ∃ k, max n.log2 d.log2 = d.log2 + k :=
    Nat.exists_eq_add_of_le (Nat.le_max_right ..)
  have hsame : n.log2 + j = d.log2 + k := hj.symm.trans hk
  have hn0 : 2 ^ (n.log2 + j) ≤ n * 2 ^ j := by
    rw [Nat.pow_add]
    exact Nat.mul_le_mul_right _ (Nat.log2_self_le hn.ne')
  have hn1 : n * 2 ^ j ≤ 2 * 2 ^ (n.log2 + j) := by
    rw [← Nat.pow_succ', Nat.succ_eq_add_one, Nat.add_right_comm, Nat.pow_add]
    exact Nat.mul_le_mul_right _ Nat.lt_log2_self.le
  have hd0 : 2 ^ (d.log2 + k) ≤ d * 2 ^ k := by
    rw [Nat.pow_add]
    exact Nat.mul_le_mul_right _ (Nat.log2_self_le hd.ne')
  have hd1 : d * 2 ^ k ≤ 2 * 2 ^ (d.log2 + k) := by
    rw [← Nat.pow_succ', Nat.succ_eq_add_one, Nat.add_right_comm, Nat.pow_add]
    exact Nat.mul_le_mul_right _ Nat.lt_log2_self.le
  rw [hsame] at hn0 hn1
  exact ⟨j, k, by omega, by omega, by omega, by omega, by omega⟩

/-- The quotient is brought near one by a power of two. -/
theorem exists_nearLog {n d : ℕ} (hn : 0 < n) (hd : 0 < d) : ∃ (n' d' : ℕ) (shift : ℤ),
    0 < n' ∧ n' ≤ 2 * d' ∧ d' ≤ 2 * n' ∧ shift.natAbs ≤ n.log2 + d.log2 + 1 ∧
      (n : ℝ) / d = n' / d' * 2 ^ shift ∧
      scaledLog n d = shift * twiceAtanh 1 3 + nearLog n' d' := by
  obtain ⟨j, k, hj, hk, hshift, hlow, hhigh⟩ := exists_alike hn hd
  have hn' : 0 < n * 2 ^ j := Nat.mul_pos hn (Nat.two_pow_pos j)
  have hquotient : (n : ℝ) / d =
      (n * 2 ^ j : ℕ) / (d * 2 ^ k : ℕ) * 2 ^ ((n.log2 : ℤ) - d.log2) := by
    have hd' : (d : ℝ) ≠ 0 := by exact_mod_cast hd.ne'
    rw [hshift, zpow_sub₀ two_ne_zero, zpow_natCast, zpow_natCast]
    push_cast
    field_simp
  have hscaled : scaledLog n d = if 4 * (d * 2 ^ k) < 3 * (n * 2 ^ j)
      then ((n.log2 : ℤ) - d.log2 + 1) * twiceAtanh 1 3 + nearLog (n * 2 ^ j) (2 * (d * 2 ^ k))
      else ((n.log2 : ℤ) - d.log2) * twiceAtanh 1 3 + nearLog (n * 2 ^ j) (d * 2 ^ k) := by
    simp only [scaledLog, hj, hk]
    split <;> rfl
  generalize n * 2 ^ j = n' at *
  generalize d * 2 ^ k = d' at *
  split at hscaled
  · -- above four thirds the quotient is halved
    refine ⟨n', 2 * d', _, hn', by omega, by omega, ?_, ?_, hscaled⟩
    · omega
    · rw [hquotient, zpow_add_one₀ two_ne_zero]
      push_cast
      field_simp
  · exact ⟨n', d', _, hn', hlow, hhigh, by omega, hquotient, hscaled⟩

/-- The scaled logarithm differs from the true one by some units of the last place for each power
of two. -/
theorem abs_scaledLog_sub_le {n d : ℕ} (hn : 0 < n) (hd : 0 < d) :
    |(scaledLog n d : ℝ) - 2 ^ logPlaces * Real.log (n / d)| ≤
      801 * (n.log2 + d.log2 + 2 : ℕ) := by
  obtain ⟨n', d', shift, hn', hlow, hhigh, hshift, hquotient, hscaled⟩ := exists_nearLog hn hd
  have hnear := abs_nearLog_sub_le hn' hlow hhigh
  obtain ⟨hbelow, habove⟩ := twiceAtanh_bounds (p := 1) (q := 3) (by decide) (by decide)
  have htwo : (((3 : ℕ) : ℝ) + (1 : ℕ)) / ((3 : ℕ) - (1 : ℕ)) = 2 := by norm_num
  rw [htwo] at hbelow habove
  have hone : |(twiceAtanh 1 3 : ℝ) - 2 ^ logPlaces * Real.log 2| ≤ 801 := by
    rw [abs_le]
    constructor <;> linarith
  have hcount : |(shift : ℝ)| ≤ (n.log2 + d.log2 + 1 : ℕ) := by
    rw [← Int.cast_abs, Int.abs_eq_natAbs]
    exact_mod_cast hshift
  have hd' : (0 : ℝ) < d' := by exact_mod_cast (by omega : 0 < d')
  have hpositive : (0 : ℝ) < n' / d' := div_pos (by exact_mod_cast hn') hd'
  have hsplit : (scaledLog n d : ℝ) - 2 ^ logPlaces * Real.log (n / d) =
      shift * (twiceAtanh 1 3 - 2 ^ logPlaces * Real.log 2) +
        (nearLog n' d' - 2 ^ logPlaces * Real.log (n' / d')) := by
    rw [hscaled, hquotient, Real.log_mul hpositive.ne' (zpow_ne_zero _ two_ne_zero),
      Real.log_zpow]
    push_cast
    ring
  calc |(scaledLog n d : ℝ) - 2 ^ logPlaces * Real.log (n / d)|
      ≤ |(shift : ℝ)| * |(twiceAtanh 1 3 : ℝ) - 2 ^ logPlaces * Real.log 2| +
        |(nearLog n' d' : ℝ) - 2 ^ logPlaces * Real.log (n' / d')| := by
        rw [hsplit, ← abs_mul]
        exact abs_add_le _ _
    _ ≤ (n.log2 + d.log2 + 1 : ℕ) * 801 + 801 := by gcongr
    _ = 801 * (n.log2 + d.log2 + 2 : ℕ) := by
        push_cast
        ring

end DeviceGateway.Binary
