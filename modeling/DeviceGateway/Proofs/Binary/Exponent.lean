import DeviceGateway.Proofs.Binary.Logarithm
import DeviceGateway.Proofs.Binary.Quotient

/-! The logarithm of a power to its base. The rounded logarithm of the power is near the multiple of
that of the base, so that their quotient is near the exponent; whether it is cut to the exponent or
to the number before depends on how far the one is short of the other. -/

namespace DeviceGateway.Binary

/-! ### Logarithms of integers -/

/-- The logarithm of an integer above one is a number above zero, be it the infinity. -/
theorem ln_ofInt_pos {n : ℤ} (hn : 2 ≤ n) (hmachine : (ofInt n : Double).MachineServes) :
    (ofInt n : Double).ln.isNaN = false ∧ 0 < (ofInt n : Double).ln.value := by
  have hvalue : 2 ≤ (ofInt n : Double).value :=
    two_le_value_ofInt BinaryFormat.double_hasIntegers hn
  have hpos : 0 < (ofInt n : Double).value := two_pos.trans_le hvalue
  rcases isFinite_or_isInfinite (isNaN_ofInt n) with hfinite | hinfinite
  · obtain ⟨hlnfinite, hclose⟩ := isLog_ln hfinite hpos hmachine
    refine ⟨isNaN_of_isFinite hlnfinite, ?_⟩
    have hlog : 0 < Real.log (ofInt n : Double).value := by
      refine Real.log_pos ?_
      have htwo : (2 : ℝ) ≤ (ofInt n : Double).value := by exact_mod_cast hvalue
      linarith
    rw [abs_of_pos hlog] at hclose
    have hreal : (0 : ℝ) < (ofInt n : Double).ln.value := by linarith [(abs_le.1 hclose).1]
    exact_mod_cast hreal
  · have hln : (ofInt n : Double).ln = infinite false := by
      simp only [ln, isNaN_ofInt, isZero_of_value_pos hpos, isNegative_of_value_pos hpos,
        hinfinite, Bool.false_eq_true, if_false, if_true]
    rw [hln]
    exact ⟨by decide, by decide +kernel⟩

theorem ln_one : (ofInt 1 : Double).ln = zero false := by
  decide +kernel

theorem zero_div_of_pos {y : Double} (hnumber : y.isNaN = false) (hpos : 0 < y.value) :
    (zero false : Double).div y = zero false := by
  obtain ⟨hnan, hinfinite, hnegative, hunits⟩ : (zero false : Double).isNaN = false ∧
      (zero false : Double).isInfinite = false ∧ (zero false : Double).isNegative = false ∧
        (zero false : Double).units = 0 := by
    decide
  have hround : BinaryFormat.double.round 0 y.units = 0 := by
    have hexact := BinaryFormat.double.round_exact (by decide) (units_pos_of_value_pos hpos)
      (Nat.zero_le _)
    rwa [BinaryFormat.unitsOf_zero, Nat.zero_mul] at hexact
  simp only [div, hnan, hnumber, hinfinite, hnegative, hunits, isZero_of_value_pos hpos,
    isNegative_of_value_pos hpos, Bool.or_self, Bool.false_eq_true, if_false, bne_self_eq_false,
    Nat.zero_mul, hround]
  split <;> rfl

/-! ### Powers -/

/-- The rounded logarithm of the power is not short of the multiple of that of the base by more
than their quotient is rounded up. -/
def KeepsExponent (b : ℤ) (n : ℕ) : Prop :=
  n * (ofInt b : Double).ln.value - (ofInt (b ^ n) : Double).ln.value ≤
    (ofInt b : Double).ln.value * 2 ^ Nat.clog 2 n / 2 ^ 54

instance (b : ℤ) (n : ℕ) : Decidable (KeepsExponent b n) := inferInstanceAs (Decidable (_ ≤ _))

/-! Exponents that are kept whatever the base. -/

section Kept

variable {b : ℤ} (hpos : 0 < (ofInt b : Double).ln.value)

include hpos

theorem keepsExponent_zero : KeepsExponent b 0 := by
  have hone : (ofInt 1 : Double).ln.value = 0 := by
    rw [ln_one]
    exact (isZero_iff_value _).1 (by decide)
  rw [KeepsExponent, pow_zero, hone, Nat.cast_zero, zero_mul, sub_zero]
  positivity

/-- A multiple that is met exactly is not missed. -/
theorem keepsExponent_of_eq {n : ℕ}
    (h : (ofInt (b ^ n) : Double).ln.value = n * (ofInt b : Double).ln.value) :
    KeepsExponent b n := by
  rw [KeepsExponent, h, sub_self]
  positivity

theorem keepsExponent_one : KeepsExponent b 1 :=
  keepsExponent_of_eq hpos (by rw [pow_one, Nat.cast_one, one_mul])

end Kept

/-- Logarithms that are off by no more than a unit in the last place leave the quotient between the
middles around the exponent. -/
theorem multiples_of_close {b p l : ℝ} {n : ℕ} (hn : 0 < n) (hn53 : n ≤ 53) (hl : 0 < l)
    (hb : |b - l| ≤ l / 2 ^ 52) (hp : |p - n * l| ≤ n * l / 2 ^ 52) :
    0 < p ∧ (n - 1) * b ≤ p ∧ 2 * p ≤ (2 * n + 1) * b := by
  have hn' : (1 : ℝ) ≤ n := by exact_mod_cast hn
  have hn53' : (n : ℝ) ≤ 53 := by exact_mod_cast hn53
  obtain ⟨hblow, hbhigh⟩ := abs_le.1 hb
  obtain ⟨hplow, hphigh⟩ := abs_le.1 hp
  have hmultiple : l ≤ n * l := le_mul_of_one_le_left hl.le hn'
  have hmultiple53 : n * l ≤ 53 * l := mul_le_mul_of_nonneg_right hn53' hl.le
  have hlow : n * (l - l / 2 ^ 52) ≤ n * b :=
    mul_le_mul_of_nonneg_left (by linarith) (by linarith)
  have hhigh : n * b ≤ n * (l + l / 2 ^ 52) :=
    mul_le_mul_of_nonneg_left (by linarith) (by linarith)
  refine ⟨by linarith, by linarith, by linarith⟩

section Power

variable {b : ℤ} {n : ℕ} (hb : 2 ≤ b)

include hb

/-- Powers among the integers that doubles have are not high ones. -/
theorem exponent_le (hsize : b ^ n ≤ 2 ^ 53) : n ≤ 53 := by
  have hpower : (2 : ℤ) ^ n ≤ 2 ^ 53 := (pow_le_pow_left₀ (by decide) hb n).trans hsize
  exact (pow_le_pow_iff_right₀ (by decide)).1 hpower

omit hb in
/-- Such powers are numbers of the format, and so are their bases. -/
theorem ofInt_exact {k : ℤ} (hk : 2 ≤ k) (hsize : k ≤ 2 ^ 53) :
    (ofInt k : Double).isFinite ∧ (ofInt k : Double).value = k ∧
      2 ≤ (ofInt k : Double).value := by
  have hexact : BinaryFormat.double.exactIntegers = 2 ^ 53 := by decide
  have hstands : Stands (ofInt k : Double) k :=
    stands_ofInt BinaryFormat.double_hasIntegers (by omega)
  exact ⟨hstands.finite, hstands.value, two_le_value_ofInt BinaryFormat.double_hasIntegers hk⟩

theorem log_power (hn : 0 < n) (hsize : b ^ n ≤ 2 ^ 53) :
    Real.log (ofInt (b ^ n) : Double).value = n * Real.log (ofInt b : Double).value := by
  have hbase : b ≤ b ^ n := le_self_pow₀ (by omega) hn.ne'
  obtain ⟨-, hbvalue, -⟩ := ofInt_exact hb (hbase.trans hsize)
  obtain ⟨-, hpvalue, -⟩ := ofInt_exact (hb.trans hbase) hsize
  rw [hbvalue, hpvalue, Rat.cast_intCast, Rat.cast_intCast, Int.cast_pow, Real.log_pow]

/-- The rounded logarithms of a base and its power are so close to the exact ones that their
quotient is near the exponent. -/
theorem ln_power_close (hn : 0 < n) (hsize : b ^ n ≤ 2 ^ 53)
    (hmachine : ∀ k ∈ [b, b ^ n], (ofInt k : Double).MachineServes) :
    (ofInt b : Double).ln.isFinite ∧ (ofInt (b ^ n) : Double).ln.isFinite ∧
      0 < (ofInt (b ^ n) : Double).ln.value ∧
        ((n : ℚ) - 1) * (ofInt b : Double).ln.value ≤ (ofInt (b ^ n) : Double).ln.value ∧
          2 * (ofInt (b ^ n) : Double).ln.value ≤ (2 * n + 1) * (ofInt b : Double).ln.value := by
  simp only [List.forall_mem_cons] at hmachine
  obtain ⟨hmachineb, hmachinep, -⟩ := hmachine
  have hbase : b ≤ b ^ n := le_self_pow₀ (by omega) hn.ne'
  obtain ⟨hbfinite, -, hbtwo⟩ := ofInt_exact hb (hbase.trans hsize)
  obtain ⟨hpfinite, -, hptwo⟩ := ofInt_exact (hb.trans hbase) hsize
  obtain ⟨hlb, hcloseb⟩ := isLog_ln hbfinite (two_pos.trans_le hbtwo) hmachineb
  obtain ⟨hlp, hclosep⟩ := isLog_ln hpfinite (two_pos.trans_le hptwo) hmachinep
  have hlog : 0 < Real.log (ofInt b : Double).value := by
    refine Real.log_pos ?_
    exact_mod_cast one_lt_two.trans_le hbtwo
  have hmultiple : 0 < n * Real.log (ofInt b : Double).value :=
    mul_pos (by exact_mod_cast hn) hlog
  rw [abs_of_pos hlog] at hcloseb
  rw [log_power hb hn hsize, abs_of_pos hmultiple] at hclosep
  obtain ⟨hpos, hlow, hhigh⟩ := multiples_of_close hn (exponent_le hb hsize) hlog hcloseb hclosep
  exact ⟨hlb, hlp, by exact_mod_cast hpos, by exact_mod_cast hlow, by exact_mod_cast hhigh⟩

/-- The logarithm of a power to its base is cut to the exponent, or else to the number before. -/
theorem truncate_logBase_power (hsize : b ^ n ≤ 2 ^ 53)
    (hmachine : ∀ k ∈ [b, b ^ n], (ofInt k : Double).MachineServes) :
    ((ofInt (b ^ n) : Double).logBase (ofInt b)).isFinite ∧
      ((ofInt (b ^ n) : Double).logBase (ofInt b)).truncate =
        if KeepsExponent b n then (n : ℤ) else n - 1 := by
  rcases Nat.eq_zero_or_pos n with rfl | hn
  · -- one is the power of any base, also of one that is read as the infinity
    obtain ⟨hnumber, hpos⟩ := ln_ofInt_pos hb (hmachine b (by simp))
    have hzero : (zero false : Double).isFinite ∧ (zero false : Double).truncate = 0 := by
      decide +kernel
    rw [pow_zero, logBase, ln_one, zero_div_of_pos hnumber hpos, if_pos (keepsExponent_zero hpos)]
    exact hzero
  · obtain ⟨hlb, hlp, hpos, hlow, hhigh⟩ := ln_power_close hb hn hsize hmachine
    obtain ⟨-, hbpos⟩ := ln_ofInt_pos hb (hmachine b (by simp))
    have hsmall : Nat.clog 2 n < BinaryFormat.double.fractionBits := by
      have hclog : Nat.clog 2 53 < 52 := by decide +kernel
      exact (Nat.clog_mono_right 2 (exponent_le hb hsize)).trans_lt hclog
    have hpart : (2 : ℚ) * 2 ^ (BinaryFormat.double.fractionBits + 1) = 2 ^ 54 := by
      norm_num [BinaryFormat.double]
    have hnear := truncate_div_near BinaryFormat.double_hasIntegers (by decide) hlp hlb hpos hbpos
      hn hsmall hlow hhigh
    rw [hpart] at hnear
    exact hnear

/-- An exponent that is a power of two is kept wherever both logarithms are decided: they have the
same fraction then, so that the quotient is exact. -/
theorem keepsExponent_two_pow {k : ℕ} (hsize : b ^ 2 ^ k ≤ 2 ^ 53)
    (hdecided : ∀ j ∈ [b, b ^ 2 ^ k], (ofInt j : Double).logMagnitude?.isSome) :
    KeepsExponent b (2 ^ k) := by
  simp only [List.forall_mem_cons] at hdecided
  obtain ⟨hdecidedb, hdecidedp, -⟩ := hdecided
  have hn : 0 < 2 ^ k := Nat.two_pow_pos k
  have hbase : b ≤ b ^ 2 ^ k := le_self_pow₀ (by omega) hn.ne'
  obtain ⟨hbfinite, -, hbtwo⟩ := ofInt_exact hb (hbase.trans hsize)
  obtain ⟨hpfinite, -, hptwo⟩ := ofInt_exact (hb.trans hbase) hsize
  have hlog := log_power hb hn hsize
  rw [Nat.cast_pow, Nat.cast_two] at hlog
  have hvalue := value_ln_two_pow hbfinite hpfinite (one_lt_two.trans_le hbtwo)
    (one_lt_two.trans_le hptwo) hlog hdecidedb hdecidedp
  refine keepsExponent_of_eq (ln_ofInt_pos hb (machineServes_of_decided hdecidedb)).2 ?_
  rw [hvalue, Nat.cast_pow, Nat.cast_two]

end Power

end DeviceGateway.Binary
