import DeviceGateway.Proofs.Binary.Value
import DeviceGateway.Proofs.Decimal.Shortest

/-! The limit of a format. Below the limit, which is half a step past the largest finite number, a
decimal is read as the nearest finite number, and from the limit on it is read as an infinity. -/

namespace DeviceGateway

/-! ### Values of decimals -/

namespace Decimal

def value (d : Decimal) : ℚ := d.coefficient * 10 ^ d.exponent

theorem value_eq (d : Decimal) : d.value = d.numerator / d.denominator := by
  obtain ⟨c, e⟩ := d
  unfold value numerator denominator
  cases e with
  | ofNat k => simp
  | negSucc k =>
    rw [zpow_negSucc, ← div_eq_mul_inv]
    simp [Int.neg_negSucc]

end Decimal

namespace BinaryFormat

variable {f : BinaryFormat}

theorem ofDecimal_le_infinity (hf : f.WithinPowers 400) (d : Decimal) :
    f.ofDecimal d ≤ f.infinity := by
  rw [ofDecimal_eq hf]
  exact round_le_infinity _ _

/-! ### The limit -/

/-- Half a step past the largest finite number. -/
def limit (f : BinaryFormat) : ℚ :=
  ((f.unitsOf (f.infinity - 1) + f.unitsOf f.infinity : Nat) : ℚ) / (2 * 2 ^ f.scale)

theorem limit_eq {a b : Nat}
    (h : f.unitsOf (f.infinity - 1) + f.unitsOf f.infinity + 2 ^ a * (2 * 2 ^ f.scale) =
      2 ^ b * (2 * 2 ^ f.scale)) : f.limit = 2 ^ b - 2 ^ a := by
  have hpos : (2 * 2 ^ f.scale : ℚ) ≠ 0 := by positivity
  have hunits : ((f.unitsOf (f.infinity - 1) + f.unitsOf f.infinity : Nat) : ℚ) +
      2 ^ a * (2 * 2 ^ f.scale) = 2 ^ b * (2 * 2 ^ f.scale) := by exact_mod_cast h
  rw [limit, div_eq_iff hpos]
  linear_combination hunits

theorem single_limit : single.limit = 2 ^ 128 - 2 ^ 103 := limit_eq (by decide +kernel)

theorem double_limit : double.limit = 2 ^ 1024 - 2 ^ 970 := limit_eq (by decide +kernel)

variable (hf : f.WithinPowers 400) (hinfinity : 0 < f.infinity) {d : Decimal}

include hf hinfinity

/-- A decimal is read as a finite number exactly if it is below the limit. -/
theorem ofDecimal_lt_infinity_iff : f.ofDecimal d < f.infinity ↔ d.value < f.limit := by
  have hscale : (0 : ℚ) < 2 * 2 ^ f.scale := by positivity
  have hdenominator : (0 : ℚ) < d.denominator := by exact_mod_cast d.denominator_pos
  rw [ofDecimal_eq hf, round_lt_infinity_iff hf.fraction hinfinity d.denominator_pos,
    Decimal.value_eq, limit, div_lt_div_iff₀ hdenominator hscale]
  rw [← Nat.cast_lt (α := ℚ)]
  push_cast
  rw [mul_left_comm]

/-- Below the limit it is read as the nearest number. -/
theorem isNearest_ofDecimal (h : d.value < f.limit) (negative : Bool) :
    Binary.IsNearest (Binary.ofParts negative (f.ofDecimal d) : Binary f)
      (Binary.signFactor negative * d.value) := by
  have hfinite := (ofDecimal_lt_infinity_iff hf hinfinity).2 h
  have hscale : (2 ^ f.scale : ℚ) ≠ 0 := by positivity
  have hvalue : d.value =
      ((d.numerator * 2 ^ f.scale : Nat) : ℚ) / d.denominator / 2 ^ f.scale := by
    rw [Decimal.value_eq]
    push_cast
    field_simp
  rw [ofDecimal_eq hf] at hfinite ⊢
  rw [hvalue]
  exact Binary.isNearest_ofParts (nearest_round hf.fraction d.denominator_pos hfinite)
    d.denominator_pos hfinite negative

/-- From the limit on it is read as the infinity. -/
theorem ofDecimal_eq_infinity (h : f.limit ≤ d.value) : f.ofDecimal d = f.infinity := by
  have hle := ofDecimal_le_infinity hf d
  have hbeyond := mt (ofDecimal_lt_infinity_iff hf hinfinity).1 (not_lt.2 h)
  omega

end BinaryFormat

namespace Binary

variable {f : BinaryFormat}

/-- The number stands for a quantity with a sign: it is the nearest one, if the quantity is below
the limit, and otherwise an infinity. -/
structure Approximates (x : Binary f) (negative : Bool) (q limit : ℚ) : Prop where
  sign : x.isNegative = negative
  finite : x.isFinite ↔ q < limit
  nearest : q < limit → x.IsNearest (signFactor negative * q)
  infinite : limit ≤ q → x = infinite negative

/-- A decimal is read as a number that stands for it. -/
theorem approximates_ofDecimal (hf : f.WithinPowers 400) (hinfinity : 0 < f.infinity) (d : Decimal)
    (negative : Bool) :
    Approximates (ofParts negative (f.ofDecimal d) : Binary f) negative d.value f.limit := by
  have hle : f.ofDecimal d ≤ f.infinity := BinaryFormat.ofDecimal_le_infinity hf d
  refine ⟨isNegative_ofParts hle, ?_, ?_, fun h => ?_⟩
  · rw [isFinite_iff, magnitude_ofParts hle]
    exact BinaryFormat.ofDecimal_lt_infinity_iff hf hinfinity
  · exact fun h => BinaryFormat.isNearest_ofDecimal hf hinfinity h negative
  · rw [Binary.infinite, BinaryFormat.ofDecimal_eq_infinity hf hinfinity h]

end Binary

end DeviceGateway
