import DeviceGateway.Binary.Arithmetic
import DeviceGateway.Proofs.Binary.Exact
import Mathlib.Data.Rat.Floor
import Mathlib.Tactic.FieldSimp
import Mathlib.Tactic.Linarith
import Mathlib.Tactic.LinearCombination
import Mathlib.Tactic.Positivity

/-! The values of patterns as rational numbers. Comparisons of patterns are comparisons of their
values, the integer part of a number is that of its value toward zero, and a number is converted
to a nearest number of the other format. -/

namespace DeviceGateway

theorem BinaryFormat.infinity_lt (f : BinaryFormat) : f.infinity < 2 ^ f.magnitudeBits := by
  have hpos : 0 < 2 ^ f.fractionBits := Nat.two_pow_pos _
  have hexponent : 2 ^ f.exponentBits - 1 < 2 ^ f.exponentBits := by
    have := Nat.two_pow_pos f.exponentBits
    omega
  rw [infinity, magnitudeBits, Nat.pow_add]
  exact Nat.mul_lt_mul_of_pos_right hexponent hpos

namespace Binary

variable {f g : BinaryFormat}

/-! ### Parts -/

/-- A pattern is that of its own parts. -/
theorem ofParts_self (x : Binary f) : ofParts x.isNegative x.magnitude = x := by
  have hlt := x.isLt
  have hwidth : 2 ^ f.width = 2 * 2 ^ f.magnitudeBits := by
    rw [BinaryFormat.width, Nat.pow_succ, Nat.mul_comm]
  apply BitVec.eq_of_toNat_eq
  rw [hwidth] at hlt
  rw [ofParts, BitVec.toNat_ofNat, hwidth]
  rcases Nat.lt_or_ge x.toNat (2 ^ f.magnitudeBits) with hpositive | hnegative
  · have hsign : x.isNegative = false := decide_eq_false (Nat.not_le.2 hpositive)
    rw [hsign, if_neg Bool.false_ne_true, magnitude, Nat.mod_eq_of_lt hpositive,
      Nat.mod_eq_of_lt hlt]
  · have hsign : x.isNegative = true := decide_eq_true hnegative
    have hmagnitude : x.magnitude = x.toNat - 2 ^ f.magnitudeBits := by
      rw [magnitude, Nat.mod_eq_sub_mod hnegative, Nat.mod_eq_of_lt (by omega)]
    rw [hsign, if_pos rfl, hmagnitude, Nat.add_sub_cancel' hnegative, Nat.mod_eq_of_lt hlt]

theorem infinite_self {x : Binary f} (hx : x.isInfinite) : infinite x.isNegative = x := by
  have hmagnitude : x.magnitude = f.infinity := of_decide_eq_true hx
  rw [infinite, ← hmagnitude, ofParts_self]

section Parts

variable {negative : Bool} {m : Nat} (hm : m ≤ f.infinity)

include hm

theorem toNat_ofParts : (ofParts negative m : Binary f).toNat =
    if negative then 2 ^ f.magnitudeBits + m else m := by
  have hlt := f.infinity_lt
  have hwidth : 2 ^ f.width = 2 * 2 ^ f.magnitudeBits := by
    rw [BinaryFormat.width, Nat.pow_succ, Nat.mul_comm]
  rw [ofParts, BitVec.toNat_ofNat, hwidth]
  apply Nat.mod_eq_of_lt
  split <;> omega

@[simp] theorem magnitude_ofParts : (ofParts negative m : Binary f).magnitude = m := by
  have hlt := f.infinity_lt
  rw [magnitude, toNat_ofParts hm]
  split
  · rw [Nat.add_mod_left]
    exact Nat.mod_eq_of_lt (by omega)
  · exact Nat.mod_eq_of_lt (by omega)

@[simp] theorem isNegative_ofParts : (ofParts negative m : Binary f).isNegative = negative := by
  have hlt := f.infinity_lt
  rw [isNegative, toNat_ofParts hm]
  cases negative with
  | true => simp
  | false =>
    simp only [Bool.false_eq_true, if_false, decide_eq_false_iff_not]
    omega

theorem signedUnits_ofParts : (ofParts negative m : Binary f).signedUnits =
    if negative then -(f.unitsOf m : Int) else f.unitsOf m := by
  simp [signedUnits, units, hm]

end Parts

/-- The value of a number in units, from its sign and its absolute value. -/
theorem natAbs_signedUnits (x : Binary f) : x.signedUnits.natAbs = x.units := by
  unfold signedUnits
  split <;> simp

theorem isFinite_iff {x : Binary f} : x.isFinite ↔ x.magnitude < f.infinity := by
  simp [isFinite]

theorem isNaN_eq_false {x : Binary f} : x.isNaN = false ↔ x.magnitude ≤ f.infinity := by
  simp [isNaN]

theorem isNaN_of_isFinite {x : Binary f} (hx : x.isFinite) : x.isNaN = false :=
  isNaN_eq_false.2 (Nat.le_of_lt (isFinite_iff.1 hx))

theorem isInfinite_of_isFinite {x : Binary f} (hx : x.isFinite) : x.isInfinite = false := by
  have hlt := isFinite_iff.1 hx
  simp only [isInfinite, decide_eq_false_iff_not]
  omega

theorem isFinite_or_isInfinite {x : Binary f} (hx : x.isNaN = false) :
    x.isFinite ∨ x.isInfinite := by
  have hle : x.magnitude ≤ f.infinity := Nat.not_lt.1 (of_decide_eq_false hx)
  rcases Nat.lt_or_eq_of_le hle with hlt | heq
  · exact .inl (decide_eq_true hlt)
  · exact .inr (decide_eq_true heq)

/-! ### Order -/

/-- Numbers are compared by their values. -/
theorem lt_iff {x y : Binary f} (hx : x.isNaN = false) (hy : y.isNaN = false) :
    x.lt y ↔ x.signedUnits < y.signedUnits := by
  have hmono : ∀ a b, f.unitsOf a < f.unitsOf b ↔ a < b := fun a b =>
    f.unitsOf_strictMono.lt_iff_lt
  have hzero : f.unitsOf 0 = 0 := BinaryFormat.unitsOf_zero
  have hxy := hmono x.magnitude y.magnitude
  have hyx := hmono y.magnitude x.magnitude
  have hx0 := hmono 0 x.magnitude
  have hy0 := hmono 0 y.magnitude
  simp only [lt, hx, hy, Bool.not_false, Bool.true_and, decide_eq_true_eq]
  simp only [orderKey, signedUnits, units]
  split <;> split <;> omega

theorem le_iff {x y : Binary f} (hx : x.isNaN = false) (hy : y.isNaN = false) :
    x.le y ↔ x.signedUnits ≤ y.signedUnits := by
  have hlt := lt_iff hy hx
  simp only [lt, hx, hy, Bool.not_false, Bool.true_and, decide_eq_true_eq] at hlt
  simp only [le, hx, hy, Bool.not_false, Bool.true_and, decide_eq_true_eq]
  omega

theorem eq_iff {x y : Binary f} (hx : x.isNaN = false) (hy : y.isNaN = false) :
    x.eq y ↔ x.signedUnits = y.signedUnits := by
  have hle := le_iff hx hy
  have hge := le_iff hy hx
  simp only [le, hx, hy, Bool.not_false, Bool.true_and, decide_eq_true_eq] at hle hge
  simp only [eq, hx, hy, Bool.not_false, Bool.true_and, decide_eq_true_eq]
  omega

/-! ### Values -/

/-- The value of a finite pattern. -/
def value (x : Binary f) : ℚ := x.signedUnits / 2 ^ f.scale

/-- The value of a zero is zero, and that of nothing else. -/
theorem isZero_iff_value (x : Binary f) : x.isZero ↔ x.value = 0 := by
  have hpos : (2 : ℚ) ^ f.scale ≠ 0 := by positivity
  have hunits : x.units = 0 ↔ x.magnitude = 0 := by
    have hinjective := f.unitsOf_strictMono.injective.eq_iff (a := x.magnitude) (b := 0)
    rwa [BinaryFormat.unitsOf_zero] at hinjective
  rw [value, div_eq_zero_iff, or_iff_left hpos, Int.cast_eq_zero, ← Int.natAbs_eq_zero,
    natAbs_signedUnits, hunits, isZero, decide_eq_true_eq]

section Comparison

variable {x y : Binary f} (hx : x.isNaN = false) (hy : y.isNaN = false)

include hx hy

theorem le_iff_value : x.le y ↔ x.value ≤ y.value := by
  rw [le_iff hx hy, value, value, div_le_div_iff_of_pos_right (by positivity), Int.cast_le]

theorem eq_iff_value : x.eq y ↔ x.value = y.value := by
  rw [eq_iff hx hy, value, value, div_left_inj' (by positivity), Int.cast_inj]

end Comparison

/-- The integer part of a rational number, toward zero. -/
def towardZero (q : ℚ) : ℤ := if 0 ≤ q then ⌊q⌋ else ⌈q⌉

theorem floor_units (u s : Nat) : ⌊(u : ℚ) / 2 ^ s⌋ = (u / 2 ^ s : Nat) := by
  have h := Rat.floor_intCast_div_natCast u (2 ^ s)
  push_cast at h ⊢
  exact h

theorem truncate_eq (x : Binary f) : x.truncate = towardZero x.value := by
  have hpos : (0 : ℚ) < 2 ^ f.scale := by positivity
  have hunits : (0 : ℚ) ≤ (x.units : ℚ) / 2 ^ f.scale := by positivity
  unfold truncate towardZero value signedUnits
  split
  · have hvalue : ((-(x.units : Int) : Int) : ℚ) / 2 ^ f.scale =
        -((x.units : ℚ) / 2 ^ f.scale) := by
      push_cast
      ring
    rw [hvalue, Int.ceil_neg, floor_units]
    split
    · -- only zero has a sign and is not below zero
      next hnonneg =>
      have hzero : (x.units : ℚ) / 2 ^ f.scale = 0 := by linarith
      have hfloor := floor_units x.units f.scale
      rw [hzero] at hfloor ⊢
      simp at hfloor ⊢
      omega
    · rfl
  · have hvalue : (((x.units : Int) : Int) : ℚ) / 2 ^ f.scale = (x.units : ℚ) / 2 ^ f.scale := by
      push_cast
      ring
    rw [hvalue, if_pos hunits, floor_units]

/-! ### Integer parts -/

/-- The integer part of a number is a number of the format. -/
theorem exists_whole (x : Binary f) :
    ∃ m, m ≤ x.magnitude ∧ f.unitsOf m = x.units / 2 ^ f.scale * 2 ^ f.scale := by
  have hle : ∀ m, f.unitsOf m = x.units / 2 ^ f.scale * 2 ^ f.scale → m ≤ x.magnitude := by
    intro m hm
    apply f.unitsOf_strictMono.le_iff_le.1
    rw [hm]
    exact Nat.div_mul_le_self _ _
  obtain ⟨s, q, hparts, hq, hs⟩ := f.exists_parts x.magnitude
  have hunits : x.units = q * 2 ^ s := by
    rw [units, hparts, f.unitsOf_parts (by omega) hs]
  rcases Nat.le_total s f.scale with hsmall | hlarge
  · have hquotient : x.units / 2 ^ f.scale ≤ 2 * 2 ^ f.fractionBits := by
      calc x.units / 2 ^ f.scale ≤ x.units / 2 ^ s :=
            Nat.div_le_div_left (Nat.pow_le_pow_right (by decide) hsmall) (Nat.two_pow_pos s)
        _ = q := by rw [hunits, Nat.mul_div_cancel _ (Nat.two_pow_pos s)]
        _ ≤ 2 * 2 ^ f.fractionBits := by omega
    obtain ⟨m, hm⟩ := f.exists_unitsOf hquotient f.scale
    exact ⟨m, hle m hm, hm⟩
  · have hwhole : x.units / 2 ^ f.scale * 2 ^ f.scale = x.units := by
      apply Nat.div_mul_cancel
      rw [hunits]
      exact Dvd.dvd.mul_left (Nat.pow_dvd_pow 2 hlarge) q
    exact ⟨x.magnitude, Nat.le_refl _, by rw [hwhole, units]⟩

section Whole

variable (hp : 0 < f.fractionBits) {x : Binary f} (hx : x.isFinite)

include hp hx

theorem whole_eq : ∃ m, m < f.infinity ∧ f.unitsOf m = x.units / 2 ^ f.scale * 2 ^ f.scale ∧
    x.whole = ofParts x.isNegative m := by
  obtain ⟨m, hle, hm⟩ := x.exists_whole
  have hlt : m < f.infinity := Nat.lt_of_le_of_lt hle (isFinite_iff.1 hx)
  refine ⟨m, hlt, hm, ?_⟩
  have hround := f.round_exact hp (d := 1) Nat.one_pos (Nat.le_of_lt hlt)
  rw [Nat.mul_one] at hround
  rw [whole, if_pos hx, ← hm, hround]

theorem isFinite_whole : x.whole.isFinite := by
  obtain ⟨m, hlt, -, hwhole⟩ := whole_eq hp hx
  rw [hwhole, isFinite_iff, magnitude_ofParts (Nat.le_of_lt hlt)]
  exact hlt

theorem signedUnits_whole : x.whole.signedUnits = x.truncate * 2 ^ f.scale := by
  obtain ⟨m, hlt, hm, hwhole⟩ := whole_eq hp hx
  rw [hwhole, signedUnits_ofParts (Nat.le_of_lt hlt), hm, truncate]
  split <;> push_cast <;> ring

theorem truncate_whole : x.whole.truncate = x.truncate := by
  obtain ⟨m, hlt, hm, hwhole⟩ := whole_eq hp hx
  have hcancel : x.units / 2 ^ f.scale * 2 ^ f.scale / 2 ^ f.scale = x.units / 2 ^ f.scale :=
    Nat.mul_div_cancel _ (Nat.two_pow_pos _)
  have hunits : (ofParts x.isNegative m : Binary f).units =
      x.units / 2 ^ f.scale * 2 ^ f.scale := by
    rw [units, magnitude_ofParts (Nat.le_of_lt hlt), hm]
  simp only [hwhole, truncate, hunits, isNegative_ofParts (Nat.le_of_lt hlt), hcancel]

end Whole

end Binary

/-! ### Nearest numbers -/

namespace BinaryFormat.Nearest

variable {f : BinaryFormat} {m n d : Nat} (h : f.Nearest m n d) (hd : 0 < d)

include h hd

theorem low_rat : ((f.unitsOf (m - 1) : ℚ) + f.unitsOf m) ≤ 2 * (n / d) := by
  have hpos : (0 : ℚ) < d := by exact_mod_cast hd
  have hlow : ((f.unitsOf (m - 1) : ℚ) + f.unitsOf m) * d ≤ 2 * n := by exact_mod_cast h.low
  rw [mul_div_assoc', le_div_iff₀ hpos]
  exact hlow

theorem high_rat : 2 * ((n : ℚ) / d) ≤ (f.unitsOf m : ℚ) + f.unitsOf (m + 1) := by
  have hpos : (0 : ℚ) < d := by exact_mod_cast hd
  have hhigh : 2 * (n : ℚ) ≤ ((f.unitsOf m : ℚ) + f.unitsOf (m + 1)) * d := by
    exact_mod_cast h.high
  rw [mul_div_assoc', div_le_iff₀ hpos]
  exact hhigh

theorem odd_rat (hodd : m % 2 = 1) : ((f.unitsOf (m - 1) : ℚ) + f.unitsOf m) < 2 * (n / d) ∧
    2 * ((n : ℚ) / d) < (f.unitsOf m : ℚ) + f.unitsOf (m + 1) := by
  have hpos : (0 : ℚ) < d := by exact_mod_cast hd
  obtain ⟨hlow, hhigh⟩ := h.odd hodd
  have hlow : ((f.unitsOf (m - 1) : ℚ) + f.unitsOf m) * d < 2 * n := by exact_mod_cast hlow
  have hhigh : 2 * (n : ℚ) < ((f.unitsOf m : ℚ) + f.unitsOf (m + 1)) * d := by
    exact_mod_cast hhigh
  rw [mul_div_assoc', lt_div_iff₀ hpos, div_lt_iff₀ hpos]
  exact ⟨hlow, hhigh⟩

/-- No other magnitude is nearer, and none is as near to an odd one. -/
theorem distance_le (k : Nat) : |(f.unitsOf m : ℚ) - n / d| ≤ |(f.unitsOf k : ℚ) - n / d| ∧
    (m % 2 = 1 → k ≠ m → |(f.unitsOf m : ℚ) - n / d| < |(f.unitsOf k : ℚ) - n / d|) := by
  have hlow := h.low_rat hd
  have hhigh := h.high_rat hd
  have hodd := h.odd_rat hd
  generalize (n : ℚ) / d = u at *
  rcases Nat.lt_trichotomy k m with hlt | rfl | hgt
  · have hbelow : (f.unitsOf k : ℚ) ≤ f.unitsOf (m - 1) := by
      exact_mod_cast f.unitsOf_strictMono.monotone (by omega)
    have hstep : (f.unitsOf (m - 1) : ℚ) < f.unitsOf m := by
      exact_mod_cast f.unitsOf_strictMono (by omega)
    have hdistance : |(f.unitsOf k : ℚ) - u| = u - f.unitsOf k := by
      rw [abs_of_nonpos (by linarith)]
      ring
    rw [hdistance]
    refine ⟨?_, fun h1 _ => ?_⟩
    · apply abs_le.2
      constructor <;> linarith
    · obtain ⟨hlow, -⟩ := hodd h1
      apply abs_lt.2
      constructor <;> linarith
  · exact ⟨le_rfl, fun _ hne => absurd rfl hne⟩
  · have habove : (f.unitsOf (m + 1) : ℚ) ≤ f.unitsOf k := by
      exact_mod_cast f.unitsOf_strictMono.monotone (by omega)
    have hstep : (f.unitsOf m : ℚ) < f.unitsOf (m + 1) := by
      exact_mod_cast f.unitsOf_lt_succ m
    have hdistance : |(f.unitsOf k : ℚ) - u| = f.unitsOf k - u := by
      rw [abs_of_nonneg (by linarith)]
    rw [hdistance]
    refine ⟨?_, fun h1 _ => ?_⟩
    · apply abs_le.2
      constructor <;> linarith
    · obtain ⟨-, hhigh⟩ := hodd h1
      apply abs_lt.2
      constructor <;> linarith

/-- Values below zero are no nearer than zero. -/
theorem distance_le_neg (k : Nat) : |(f.unitsOf m : ℚ) - n / d| ≤ |-(f.unitsOf k : ℚ) - n / d| ∧
    (m % 2 = 1 → |(f.unitsOf m : ℚ) - n / d| < |-(f.unitsOf k : ℚ) - n / d|) := by
  have hunits : (0 : ℚ) ≤ f.unitsOf k := by positivity
  have hquotient : (0 : ℚ) ≤ n / d := by positivity
  obtain ⟨hle, hlt⟩ := h.distance_le hd 0
  have hzero : |((f.unitsOf 0 : Nat) : ℚ) - n / d| ≤ |-(f.unitsOf k : ℚ) - n / d| := by
    rw [unitsOf_zero, abs_of_nonpos (by push_cast; linarith), abs_of_nonpos (by linarith)]
    push_cast
    linarith
  exact ⟨hle.trans hzero, fun hodd => (hlt hodd (by omega)).trans_le hzero⟩

end BinaryFormat.Nearest

namespace Binary

variable {f g : BinaryFormat}

/-- The number is a nearest one to `q`, and the even one of two that are equally near. -/
structure IsNearest (y : Binary f) (q : ℚ) : Prop where
  finite : y.isFinite
  le : ∀ z : Binary f, z.isFinite → |y.value - q| ≤ |z.value - q|
  even : ∀ z : Binary f, z.isFinite → |z.value - q| = |y.value - q| →
    z.value = y.value ∨ y.magnitude % 2 = 0

/-- The sign of a pattern as a factor. -/
def signFactor (negative : Bool) : ℚ := if negative then -1 else 1

theorem signedUnits_eq (z : Binary f) :
    (z.signedUnits : ℚ) = signFactor z.isNegative * f.unitsOf z.magnitude := by
  unfold signedUnits signFactor units
  split <;> push_cast <;> ring

theorem signFactor_mul_self (negative : Bool) : signFactor negative * signFactor negative = 1 := by
  cases negative <;> norm_num [signFactor]

theorem abs_signFactor_mul (negative : Bool) (q : ℚ) : |signFactor negative * q| = |q| := by
  cases negative <;> simp [signFactor]

theorem value_eq (z : Binary f) :
    z.value = signFactor z.isNegative * (z.units / 2 ^ f.scale) := by
  rw [value, signedUnits_eq, units]
  ring

theorem abs_value (z : Binary f) : |z.value| = z.units / 2 ^ f.scale := by
  rw [value_eq, abs_signFactor_mul]
  apply abs_of_nonneg
  positivity

section Positive

variable {x : Binary f} (hpos : 0 < x.value)

include hpos

theorem isNegative_of_value_pos : x.isNegative = false := by
  cases hsign : x.isNegative with
  | false => rfl
  | true =>
    have hunits : (0 : ℚ) ≤ x.units / 2 ^ f.scale := by positivity
    rw [value_eq, hsign, signFactor, if_pos rfl] at hpos
    linarith

theorem isZero_of_value_pos : x.isZero = false := by
  rw [Bool.eq_false_iff]
  exact fun h => hpos.ne' ((isZero_iff_value x).1 h)

theorem value_of_pos : x.value = x.units / 2 ^ f.scale := by
  rw [← abs_value, abs_of_pos hpos]

theorem units_pos_of_value_pos : 0 < x.units := by
  rw [value_of_pos hpos] at hpos
  rcases Nat.eq_zero_or_pos x.units with hzero | hunits
  · rw [hzero, Nat.cast_zero, zero_div] at hpos
    exact absurd hpos (lt_irrefl 0)
  · exact hunits

end Positive

/-- Distances of values are distances in units, on the side of the sign. -/
theorem abs_value_sub (z : Binary f) (negative : Bool) (u : ℚ) :
    |z.value - signFactor negative * (u / 2 ^ f.scale)| =
      |signFactor negative * signFactor z.isNegative * f.unitsOf z.magnitude - u| /
        2 ^ f.scale := by
  have hpos : (0 : ℚ) < 2 ^ f.scale := by positivity
  have hsquare := signFactor_mul_self negative
  have hsplit : z.value - signFactor negative * (u / 2 ^ f.scale) = signFactor negative *
      ((signFactor negative * signFactor z.isNegative * f.unitsOf z.magnitude - u) /
        2 ^ f.scale) := by
    rw [value, signedUnits_eq]
    field_simp
    linear_combination
      -(signFactor z.isNegative * (f.unitsOf z.magnitude : ℚ)) * hsquare
  rw [hsplit, abs_signFactor_mul, abs_div, abs_of_pos hpos]

theorem isNearest_ofParts {m n d : Nat} (h : f.Nearest m n d) (hd : 0 < d) (hm : m < f.infinity)
    (negative : Bool) :
    IsNearest (ofParts negative m : Binary f)
      (signFactor negative * ((n : ℚ) / d / 2 ^ f.scale)) := by
  have hpos : (0 : ℚ) < 2 ^ f.scale := by positivity
  have hmagnitude : (ofParts negative m : Binary f).magnitude = m :=
    magnitude_ofParts (Nat.le_of_lt hm)
  have hnegative : (ofParts negative m : Binary f).isNegative = negative :=
    isNegative_ofParts (Nat.le_of_lt hm)
  have hself : |(ofParts negative m : Binary f).value -
      signFactor negative * ((n : ℚ) / d / 2 ^ f.scale)| =
        |(f.unitsOf m : ℚ) - n / d| / 2 ^ f.scale := by
    rw [abs_value_sub, hmagnitude, hnegative, signFactor_mul_self, one_mul]
  -- on the side of the sign the values are those of magnitudes, on the other side their negatives
  have hsides : ∀ z : Binary f,
      (z.isNegative = negative ∧ |z.value - signFactor negative * ((n : ℚ) / d / 2 ^ f.scale)| =
        |(f.unitsOf z.magnitude : ℚ) - n / d| / 2 ^ f.scale) ∨
      |z.value - signFactor negative * ((n : ℚ) / d / 2 ^ f.scale)| =
        |-(f.unitsOf z.magnitude : ℚ) - n / d| / 2 ^ f.scale := by
    intro z
    rw [abs_value_sub]
    by_cases hsign : z.isNegative = negative
    · exact .inl ⟨hsign, by rw [hsign, signFactor_mul_self, one_mul]⟩
    · refine .inr ?_
      have hopposite : signFactor negative * signFactor z.isNegative = -1 := by
        cases negative <;> cases hz : z.isNegative <;> simp_all [signFactor]
      rw [hopposite, neg_one_mul]
  refine ⟨isFinite_iff.2 (by rw [hmagnitude]; exact hm), fun z _ => ?_, fun z _ heq => ?_⟩
  · rw [hself]
    rcases hsides z with ⟨-, hz⟩ | hz
    · rw [hz]
      exact div_le_div_of_nonneg_right (h.distance_le hd _).1 hpos.le
    · rw [hz]
      exact div_le_div_of_nonneg_right (h.distance_le_neg hd _).1 hpos.le
  · rw [hself] at heq
    rw [hmagnitude]
    rcases Nat.mod_two_eq_zero_or_one m with heven | hodd
    · exact .inr heven
    · refine .inl ?_
      rcases hsides z with ⟨hsign, hz⟩ | hz
      · rw [hz, div_left_inj' hpos.ne'] at heq
        by_contra hne
        have hdifferent : z.magnitude ≠ m := by
          rintro hsame
          apply hne
          rw [value_eq, value_eq, hsign, hnegative, units, units, hmagnitude, hsame]
        exact absurd heq (ne_of_gt ((h.distance_le hd _).2 hodd hdifferent))
      · rw [hz, div_left_inj' hpos.ne'] at heq
        exact absurd heq (ne_of_gt ((h.distance_le_neg hd _).2 hodd))

/-! ### Conversion -/

theorem units_greatest : (greatest : Binary g).units = g.unitsOf (g.infinity - 1) := by
  rw [units, greatest, magnitude_ofParts (Nat.sub_le _ _)]

theorem value_greatest :
    (greatest : Binary g).value = g.unitsOf (g.infinity - 1) / 2 ^ g.scale := by
  rw [value_eq, units_greatest, greatest, isNegative_ofParts (Nat.sub_le _ _)]
  simp [signFactor]

theorem greatest_lt_abs_value {x : Binary f} : (greatest : Binary g).value < |x.value| ↔
    (greatest : Binary g).units * 2 ^ f.scale < x.units * 2 ^ g.scale := by
  have hf : (0 : ℚ) < 2 ^ f.scale := by positivity
  have hg : (0 : ℚ) < 2 ^ g.scale := by positivity
  rw [abs_value, value_greatest, ← units_greatest, div_lt_div_iff₀ hg hf]
  exact_mod_cast Iff.rfl

/-- A finite number within the range of the other format is converted to the nearest number of
it, with its sign. -/
theorem isNearest_convert (hg : 0 < g.fractionBits) (hinfinity : 0 < g.infinity) {x : Binary f}
    (hx : x.isFinite) (hbound : |x.value| ≤ (greatest : Binary g).value) :
    IsNearest (x.convert : Binary g) x.value ∧
      (x.convert : Binary g).isNegative = x.isNegative := by
  have hd : 0 < 2 ^ f.scale := Nat.two_pow_pos _
  have hunits : x.units * 2 ^ g.scale ≤ g.unitsOf (g.infinity - 1) * 2 ^ f.scale := by
    rwa [← not_lt, greatest_lt_abs_value, not_lt, units_greatest] at hbound
  have hround : g.round (x.units * 2 ^ g.scale) (2 ^ f.scale) < g.infinity := by
    have hle := BinaryFormat.round_le hg hd hunits
    omega
  have hconvert : (x.convert : Binary g) =
      ofParts x.isNegative (g.round (x.units * 2 ^ g.scale) (2 ^ f.scale)) := by
    simp only [convert, isNaN_of_isFinite hx, isInfinite_of_isFinite hx, Bool.false_eq_true,
      if_false]
  have hvalue : x.value = signFactor x.isNegative *
      (((x.units * 2 ^ g.scale : Nat) : ℚ) / ((2 ^ f.scale : Nat) : ℚ) / 2 ^ g.scale) := by
    rw [value_eq]
    push_cast
    field_simp
  rw [hconvert, isNegative_ofParts (Nat.le_of_lt hround), hvalue]
  exact ⟨isNearest_ofParts (BinaryFormat.nearest_round hg hd hround) hd hround _, rfl⟩

end Binary

/-! ### Singles among doubles -/

namespace BinaryFormat

/-- Half the unit of a single is two to this power, in units of a double. -/
@[irreducible] def halfBits : Nat := double.scale - single.scale - 1

theorem scale_double_eq : double.scale = single.scale + halfBits + 1 := by
  decide +kernel

theorem two_pow_double_scale : 2 ^ double.scale = 2 * 2 ^ halfBits * 2 ^ single.scale := by
  rw [scale_double_eq, Nat.pow_succ, Nat.pow_add]
  ring

end BinaryFormat

end DeviceGateway
