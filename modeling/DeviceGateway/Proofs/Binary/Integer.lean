import DeviceGateway.Proofs.Binary.Value

/-! Integers among floating-point numbers. A format has every integer up to some size, so sums,
differences, products and exact quotients of such integers come out without rounding as long as
they are of that size themselves. -/

namespace DeviceGateway

namespace BinaryFormat

variable {f : BinaryFormat}

variable (f) in
/-- Every integer up to here is a number of the format. -/
def exactIntegers : Nat := 2 * 2 ^ f.fractionBits

variable (f) in
/-- These integers are not beyond the range of the format. -/
structure HasIntegers : Prop where
  fraction : 0 < f.fractionBits
  room : f.exactIntegers * 2 ^ f.scale < f.unitsOf f.infinity

theorem double_hasIntegers : double.HasIntegers := ⟨by decide, by decide +kernel⟩

/-- A small integer, written as a quotient of units, is rounded to itself. -/
theorem round_integer (hf : f.HasIntegers) {n d : Nat} (hn : n ≤ f.exactIntegers) (hd : 0 < d) :
    ∃ m, m < f.infinity ∧ f.unitsOf m = n * 2 ^ f.scale ∧ f.round (n * 2 ^ f.scale * d) d = m := by
  obtain ⟨m, hm⟩ := f.exists_unitsOf hn f.scale
  have hlt : m < f.infinity := by
    apply f.unitsOf_strictMono.lt_iff_lt.1
    rw [hm]
    exact Nat.lt_of_le_of_lt (Nat.mul_le_mul_right _ hn) hf.room
  refine ⟨m, hlt, hm, ?_⟩
  rw [← hm]
  exact round_exact hf.fraction hd (Nat.le_of_lt hlt)

end BinaryFormat

namespace Binary

variable {f : BinaryFormat}

/-- An integer with the sign that is given. -/
def withSign (negative : Bool) (k : Nat) : Int := if negative then -(k : Int) else k

theorem withSign_mul (s t : Bool) (k l : Nat) :
    withSign s k * withSign t l = withSign (s != t) (k * l) := by
  cases s <;> cases t <;> simp [withSign]

@[simp] theorem natAbs_withSign (s : Bool) (k : Nat) : (withSign s k).natAbs = k := by
  cases s <;> simp [withSign]

theorem neg_withSign (s : Bool) (k : Nat) : -withSign s k = withSign (!s) k := by
  cases s <;> simp [withSign]

theorem withSign_natAbs (n : Int) : withSign (decide (n < 0)) n.natAbs = n := by
  simp only [withSign, decide_eq_true_eq]
  split <;> omega

/-- The number is the integer. Zero is two numbers. -/
structure Stands (x : Binary f) (n : Int) : Prop where
  finite : x.isFinite
  units : x.units = n.natAbs * 2 ^ f.scale
  sign : n = withSign x.isNegative n.natAbs

theorem stands_ofParts {negative : Bool} {m k : Nat} (hm : m < f.infinity)
    (hunits : f.unitsOf m = k * 2 ^ f.scale) :
    Stands (ofParts negative m : Binary f) (withSign negative k) := by
  have hle := Nat.le_of_lt hm
  refine ⟨?_, ?_, ?_⟩
  · rw [isFinite_iff, magnitude_ofParts hle]
    exact hm
  · rw [Binary.units, magnitude_ofParts hle, hunits, natAbs_withSign]
  · rw [isNegative_ofParts hle, natAbs_withSign]

theorem stands_round (hf : f.HasIntegers) (negative : Bool) {k d : Nat} (hk : k ≤ f.exactIntegers)
    (hd : 0 < d) :
    Stands (ofParts negative (f.round (k * 2 ^ f.scale * d) d) : Binary f)
      (withSign negative k) := by
  obtain ⟨m, hlt, hunits, hround⟩ := BinaryFormat.round_integer hf hk hd
  rw [hround]
  exact stands_ofParts hlt hunits

theorem stands_ofInt (hf : f.HasIntegers) {n : Int} (hn : n.natAbs ≤ f.exactIntegers) :
    Stands (ofInt n : Binary f) n := by
  have hround := stands_round hf (decide (n < 0)) hn Nat.one_pos
  rwa [withSign_natAbs, Nat.mul_one] at hround

/-- The integer part of a number is a number of the format. -/
theorem stands_whole (hp : 0 < f.fractionBits) {x : Binary f} (hx : x.isFinite) :
    Stands x.whole x.truncate := by
  obtain ⟨m, hlt, hm, hwhole⟩ := whole_eq hp hx
  rw [hwhole]
  exact stands_ofParts hlt hm

theorem isNaN_ofInt (n : Int) : (ofInt n : Binary f).isNaN = false := by
  have hround := f.round_le_infinity (n.natAbs * 2 ^ f.scale) 1
  rw [isNaN_eq_false, ofInt, magnitude_ofParts hround]
  exact hround

theorem isNegative_ofInt {n : Int} (hn : 0 ≤ n) : (ofInt n : Binary f).isNegative = false := by
  rw [ofInt, isNegative_ofParts (f.round_le_infinity _ _)]
  exact decide_eq_false (not_lt.2 hn)

/-- Integers above one have numbers above one, and the largest ones the infinity. -/
theorem two_le_value_ofInt (hf : f.HasIntegers) {n : Int} (hn : 2 ≤ n) :
    2 ≤ (ofInt n : Binary f).value := by
  have htwo : 2 ≤ f.exactIntegers := Nat.mul_le_mul_left 2 Nat.one_le_two_pow
  obtain ⟨m, hlt, hm, -⟩ := BinaryFormat.round_integer hf htwo Nat.one_pos
  have hround : m ≤ f.round (n.natAbs * 2 ^ f.scale) 1 := by
    refine BinaryFormat.le_round hf.fraction Nat.one_pos hlt.le ?_
    rw [hm, Nat.mul_one]
    exact Nat.mul_le_mul_right _ (by omega)
  have hunits : 2 * 2 ^ f.scale ≤ (ofInt n : Binary f).units := by
    rw [← hm, units, ofInt, magnitude_ofParts (f.round_le_infinity _ _)]
    exact f.unitsOf_strictMono.monotone hround
  have hpos : (0 : ℚ) < 2 ^ f.scale := by positivity
  rw [value_eq, isNegative_ofInt (by omega), signFactor, if_neg Bool.false_ne_true, one_mul,
    le_div_iff₀ hpos]
  exact_mod_cast hunits

namespace Stands

variable {x y : Binary f} {a b : Int}

/-- If some number is the integer, then the nearest one is. -/
theorem ofInt (hp : 0 < f.fractionBits) (hx : Stands x a) : Stands (ofInt a : Binary f) a := by
  have hlt := isFinite_iff.1 hx.finite
  have hround := f.round_exact hp Nat.one_pos (Nat.le_of_lt hlt)
  have hunits : f.unitsOf x.magnitude = a.natAbs * 2 ^ f.scale := hx.units
  have hstands : Stands (ofParts (decide (a < 0)) x.magnitude : Binary f)
      (withSign (decide (a < 0)) a.natAbs) := stands_ofParts hlt hunits
  rw [Nat.mul_one, hunits] at hround
  rwa [withSign_natAbs, ← hround] at hstands

theorem isNaN (hx : Stands x a) : x.isNaN = false := isNaN_of_isFinite hx.finite

theorem isInfinite (hx : Stands x a) : x.isInfinite = false := isInfinite_of_isFinite hx.finite

theorem signedUnits (hx : Stands x a) : x.signedUnits = a * 2 ^ f.scale := by
  rw [hx.sign, Binary.signedUnits, hx.units, withSign, Int.natCast_mul, Int.natCast_pow]
  split
  · exact (Int.neg_mul _ _).symm
  · rfl

theorem value (hx : Stands x a) : x.value = a := by
  have hpos : (2 : ℚ) ^ f.scale ≠ 0 := by positivity
  rw [Binary.value, hx.signedUnits]
  push_cast
  exact mul_div_cancel_right₀ _ hpos

theorem isZero_iff (hx : Stands x a) : x.isZero ↔ a = 0 := by
  have hmono := f.unitsOf_strictMono.injective.eq_iff (a := x.magnitude) (b := 0)
  rw [BinaryFormat.unitsOf_zero] at hmono
  have hunits : f.unitsOf x.magnitude = a.natAbs * 2 ^ f.scale := hx.units
  rw [isZero, decide_eq_true_eq, ← hmono, hunits, Nat.mul_eq_zero]
  have hpos := Nat.two_pow_pos f.scale
  omega

/-- Its integer part is the integer itself. -/
theorem truncate (hx : Stands x a) : x.truncate = a := by
  rw [Binary.truncate, hx.units, Nat.mul_div_cancel _ (Nat.two_pow_pos _)]
  exact hx.sign.symm

theorem negate (hx : Stands x a) : Stands x.negate (-a) := by
  rw [hx.sign, neg_withSign]
  exact stands_ofParts (isFinite_iff.1 hx.finite) hx.units

variable (hf : f.HasIntegers)

include hf

theorem add (hx : Stands x a) (hy : Stands y b) (hab : (a + b).natAbs ≤ f.exactIntegers) :
    Stands (x.add y) (a + b) := by
  have hpos : (0 : Int) < 2 ^ f.scale := by positivity
  have hsum : x.signedUnits + y.signedUnits = (a + b) * 2 ^ f.scale := by
    rw [hx.signedUnits, hy.signedUnits, Int.add_mul]
  have hzero : (a + b) * 2 ^ f.scale = 0 ↔ a + b = 0 := by
    rw [Int.mul_eq_zero]
    exact or_iff_left hpos.ne'
  have hnegative : (a + b) * 2 ^ f.scale < 0 ↔ a + b < 0 := by
    have hscaled : (a + b) * 2 ^ f.scale < 0 * 2 ^ f.scale ↔ a + b < 0 :=
      Int.mul_lt_mul_right hpos
    rwa [Int.zero_mul] at hscaled
  have habs : ((a + b) * 2 ^ f.scale).natAbs = (a + b).natAbs * 2 ^ f.scale * 1 := by
    rw [Int.natAbs_mul, Int.natAbs_pow, Nat.mul_one]
    rfl
  simp only [Binary.add, hx.isNaN, hy.isNaN, hx.isInfinite, hy.isInfinite, Bool.or_self,
    Bool.false_eq_true, if_false, hsum, hzero, hnegative, habs]
  split
  · next h =>
    have hzeros : Stands (Binary.zero (x.isNegative && y.isNegative) : Binary f)
        (withSign (x.isNegative && y.isNegative) 0) := by
      have hroom := hf.room
      refine stands_ofParts ?_ (by rw [BinaryFormat.unitsOf_zero, Nat.zero_mul])
      apply f.unitsOf_strictMono.lt_iff_lt.1
      rw [BinaryFormat.unitsOf_zero]
      omega
    have hwith : withSign (x.isNegative && y.isNegative) 0 = 0 := by
      unfold withSign
      split <;> rfl
    rw [h]
    rwa [hwith] at hzeros
  · have hround := stands_round hf (decide (a + b < 0)) hab Nat.one_pos
    rwa [withSign_natAbs] at hround

theorem sub (hx : Stands x a) (hy : Stands y b) (hab : (a - b).natAbs ≤ f.exactIntegers) :
    Stands (x.sub y) (a - b) := by
  rw [Int.sub_eq_add_neg] at hab ⊢
  exact hx.add hf hy.negate hab

theorem mul (hx : Stands x a) (hy : Stands y b) (hab : (a * b).natAbs ≤ f.exactIntegers) :
    Stands (x.mul y) (a * b) := by
  have hunits : x.units * y.units = (a * b).natAbs * 2 ^ f.scale * 2 ^ f.scale := by
    rw [hx.units, hy.units, Int.natAbs_mul]
    ac_rfl
  have hsign : a * b = withSign (x.isNegative != y.isNegative) (a * b).natAbs := by
    rw [Int.natAbs_mul, ← withSign_mul, ← hx.sign, ← hy.sign]
  simp only [Binary.mul, hx.isNaN, hy.isNaN, hx.isInfinite, hy.isInfinite, Bool.or_self,
    Bool.false_eq_true, if_false, hunits]
  rw [hsign, natAbs_withSign]
  exact stands_round hf _ hab (Nat.two_pow_pos _)

/-- A product divided by one of its factors is the other one. -/
theorem div (hx : Stands x (a * b)) (hy : Stands y b) (hb : b ≠ 0)
    (ha : a.natAbs ≤ f.exactIntegers) : Stands (x.div y) a := by
  have hpos : 0 < y.units := by
    rw [hy.units]
    exact Nat.mul_pos (Int.natAbs_pos.2 hb) (Nat.two_pow_pos _)
  have hunits : x.units * 2 ^ f.scale = a.natAbs * 2 ^ f.scale * y.units := by
    rw [hx.units, hy.units, Int.natAbs_mul]
    ac_rfl
  have hnonzero : y.isZero = false := by
    rw [Bool.eq_false_iff]
    exact fun h => hb (hy.isZero_iff.1 h)
  have hsign : a = withSign (x.isNegative != y.isNegative) a.natAbs := by
    apply Int.eq_of_mul_eq_mul_right hb
    have hproduct := hx.sign
    rw [Int.natAbs_mul] at hproduct
    rw [hproduct, hy.sign, natAbs_withSign, withSign_mul]
    cases x.isNegative <;> cases y.isNegative <;> rfl
  simp only [Binary.div, hx.isNaN, hy.isNaN, hx.isInfinite, hy.isInfinite, hnonzero, Bool.or_self,
    Bool.false_eq_true, if_false, hunits]
  rw [hsign, natAbs_withSign]
  exact stands_round hf _ ha hpos

end Stands

/-! ### Operands that change nothing -/

section Neutral

variable {x y : Binary f} (hp : 0 < f.fractionBits) (hx : x.isNaN = false)

include hp hx

theorem ofParts_round {d : Nat} (hd : 0 < d) :
    ofParts x.isNegative (f.round (x.units * d) d) = x := by
  rw [units, f.round_exact hp hd (isNaN_eq_false.1 hx), ofParts_self]

section One

variable (hy : Stands y 1)

omit hp hx in
include hy in
theorem Stands.isNegative_one : y.isNegative = false := by
  have hsign := hy.sign
  cases hnegative : y.isNegative with
  | false => rfl
  | true =>
    rw [hnegative] at hsign
    cases hsign

omit hp hx in
include hy in
theorem Stands.isZero_one : y.isZero = false := by
  rw [Bool.eq_false_iff]
  exact fun h => absurd (hy.isZero_iff.1 h) (by decide)

include hy

theorem mul_one_of_stands : x.mul y = x := by
  have hunits : x.units * y.units = x.units * 2 ^ f.scale := by
    rw [hy.units, Int.natAbs_one, Nat.one_mul]
  simp only [mul, hx, hy.isNaN, hy.isInfinite, hy.isNegative_one, hy.isZero_one, hunits,
    Bool.or_self, Bool.or_false, Bool.false_eq_true, if_false, Bool.bne_false]
  split
  · next hinfinite =>
    have hzero : x.isZero = false := by
      have hbound := isFinite_iff.1 hy.finite
      have hmagnitude : x.magnitude = f.infinity := of_decide_eq_true hinfinite
      exact decide_eq_false (by omega)
    rw [hzero, if_neg Bool.false_ne_true, infinite_self hinfinite]
  · exact ofParts_round hp hx (Nat.two_pow_pos _)

theorem div_one_of_stands : x.div y = x := by
  have hunits : y.units = 2 ^ f.scale := by
    rw [hy.units, Int.natAbs_one, Nat.one_mul]
  simp only [div, hx, hy.isNaN, hy.isInfinite, hy.isNegative_one, hy.isZero_one, hunits,
    Bool.or_self, Bool.false_eq_true, if_false, Bool.bne_false]
  split
  · next hinfinite => exact infinite_self hinfinite
  · exact ofParts_round hp hx (Nat.two_pow_pos _)

end One

/-- The sum of zeros of both signs is the positive one, so that zero is not added to the other. -/
theorem add_zero_of_stands (hy : Stands y 0) (hzero : x ≠ zero true) : x.add y = x := by
  have hunits : y.signedUnits = 0 := by rw [hy.signedUnits, Int.zero_mul]
  simp only [add, hx, hy.isNaN, hy.isInfinite, hunits, Bool.or_self, Bool.false_and,
    Bool.false_eq_true, if_false, Int.add_zero]
  split
  · rfl
  · split
    · next hsum =>
      have hnone : x.units = 0 := by rw [← natAbs_signedUnits, hsum, Int.natAbs_zero]
      have hmagnitude : x.magnitude = 0 := by
        apply f.unitsOf_strictMono.injective
        rw [BinaryFormat.unitsOf_zero]
        exact hnone
      have hself := x.ofParts_self
      rw [hmagnitude] at hself
      cases hnegative : x.isNegative with
      | false => rw [Bool.false_and, ← hself, hnegative, zero]
      | true =>
        rw [hnegative] at hself
        exact absurd hself.symm hzero
    · next hsum =>
      have hsign : decide (x.signedUnits < 0) = x.isNegative := by
        unfold signedUnits at hsum ⊢
        cases hnegative : x.isNegative with
        | false =>
          rw [if_neg Bool.false_ne_true]
          exact decide_eq_false (by omega)
        | true =>
          rw [hnegative, if_pos rfl] at hsum
          rw [if_pos rfl]
          exact decide_eq_true (by omega)
      have hround := ofParts_round hp hx Nat.one_pos
      rwa [Nat.mul_one, ← natAbs_signedUnits, ← hsign] at hround

theorem sub_zero_of_stands (hy : Stands y 0) (hzero : x ≠ zero true) : x.sub y = x :=
  add_zero_of_stands hp hx hy.negate hzero

end Neutral

end Binary

end DeviceGateway
