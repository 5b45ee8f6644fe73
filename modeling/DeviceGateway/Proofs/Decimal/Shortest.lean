import DeviceGateway.Decimal.Basic
import DeviceGateway.Proofs.Binary.Exact

/-! Shortest decimals. Every decimal is read as what it is rounded to, also those that are too large
or too small to be looked at closely. Whatever grid a decimal of the fewest digits is found on, it
lies between the middles around the value that it is made of, so reading it gives that value
back. -/

namespace DeviceGateway

/-! ### Decimals as quotients -/

namespace Decimal

variable (d : Decimal)

def numerator : Nat := d.coefficient * 10 ^ d.exponent.toNat

def denominator : Nat := 10 ^ (-d.exponent).toNat

theorem denominator_pos : 0 < d.denominator := Nat.pow_pos (by decide)

/-- The decimal is less than `10 ^ top`, and no less than a tenth of that. -/
def top : Int := d.exponent + (Nat.toDigits 10 d.coefficient).length

variable {d}

theorem le_top {k : Nat} (h : d.denominator ≤ d.numerator * 10 ^ k) : -(k : Int) ≤ d.top := by
  have hcoefficient : d.coefficient < 10 ^ (Nat.toDigits 10 d.coefficient).length :=
    (Nat.length_toDigits_le_iff (by decide) Nat.length_toDigits_pos).1 (Nat.le_refl _)
  have hpowers : 10 ^ (-d.exponent).toNat <
      10 ^ ((Nat.toDigits 10 d.coefficient).length + d.exponent.toNat + k) := by
    rw [Nat.pow_add, Nat.pow_add]
    refine Nat.lt_of_le_of_lt h ?_
    exact Nat.mul_lt_mul_of_pos_right
      (Nat.mul_lt_mul_of_pos_right hcoefficient (Nat.pow_pos (by decide)))
      (Nat.pow_pos (by decide))
  have hexponents := (Nat.pow_lt_pow_iff_right (by decide)).1 hpowers
  unfold top
  omega

theorem top_le {k : Nat} (hcoefficient : d.coefficient ≠ 0)
    (h : d.numerator < 10 ^ k * d.denominator) : d.top ≤ k := by
  have hdigits : 10 ^ ((Nat.toDigits 10 d.coefficient).length - 1) ≤ d.coefficient := by
    rcases Nat.eq_zero_or_pos ((Nat.toDigits 10 d.coefficient).length - 1) with hone | hmore
    · rw [hone]
      exact Nat.pos_of_ne_zero hcoefficient
    · refine Nat.le_of_not_lt fun hlt => ?_
      have hshort := (Nat.length_toDigits_le_iff (by decide) hmore).2 hlt
      omega
  have hpowers : 10 ^ ((Nat.toDigits 10 d.coefficient).length - 1 + d.exponent.toNat) <
      10 ^ (k + (-d.exponent).toNat) := by
    rw [Nat.pow_add, Nat.pow_add]
    exact Nat.lt_of_le_of_lt (Nat.mul_le_mul_right _ hdigits) h
  have hexponents := (Nat.pow_lt_pow_iff_right (by decide)).1 hpowers
  unfold top
  omega

variable (d)

/-- Two decimals of one value. -/
def SameValue (d e : Decimal) : Prop := d.numerator * e.denominator = e.numerator * d.denominator

end Decimal

namespace BinaryFormat

variable {f : BinaryFormat}

/-- All that is nearest to positive finite values of the format lies between `10 ^ -k` and
`10 ^ k`. -/
structure WithinPowers (f : BinaryFormat) (k : Nat) : Prop where
  fraction : 0 < f.fractionBits
  least : 2 ^ (f.scale + 1) ≤ 10 ^ k
  greatest : f.unitsOf f.infinity ≤ 10 ^ k * 2 ^ f.scale

theorem single_withinPowers : single.WithinPowers 400 :=
  ⟨by decide, by decide +kernel, by decide +kernel⟩

theorem double_withinPowers : double.WithinPowers 400 :=
  ⟨by decide, by decide +kernel, by decide +kernel⟩

variable (f) in
/-- The decimal is nearest to the magnitude. -/
def NearDecimal (m : Nat) (d : Decimal) : Prop :=
  f.Nearest m (d.numerator * 2 ^ f.scale) d.denominator

theorem NearDecimal.of_sameValue {m : Nat} {d e : Decimal} (h : f.NearDecimal m d)
    (hde : d.SameValue e) : f.NearDecimal m e := by
  refine Nearest.of_eq h d.denominator_pos e.denominator_pos ?_
  rw [Nat.mul_right_comm, hde, Nat.mul_right_comm]

/-! ### Reading a decimal -/

theorem ofDecimal_eq_round {d : Decimal} (hd : d.coefficient ≠ 0) (hlow : -400 ≤ d.top)
    (hhigh : d.top ≤ 400) :
    f.ofDecimal d = f.round (d.numerator * 2 ^ f.scale) d.denominator := by
  obtain ⟨c, e⟩ := d
  simp only [Decimal.top] at hd hlow hhigh
  unfold ofDecimal Decimal.numerator Decimal.denominator
  simp only [hd, false_or, Int.not_lt.2 hlow, Int.not_lt.2 hhigh, if_false]
  cases e with
  | ofNat k => simp
  | negSucc k => simp [Int.neg_negSucc]

section Within

variable {k : Nat} (hf : f.WithinPowers k) {d : Decimal}

include hf

/-- A decimal beyond all finite numbers is rounded to the infinity. -/
theorem round_of_lt_top (hzero : d.coefficient ≠ 0) (h : k < d.top) :
    f.round (d.numerator * 2 ^ f.scale) d.denominator = f.infinity := by
  have hlarge : 10 ^ k * d.denominator ≤ d.numerator := by
    by_contra hlt
    exact not_le.2 h (Decimal.top_le hzero (Nat.not_le.1 hlt))
  refine Nat.le_antisymm (round_le_infinity _ _) ?_
  refine le_round hf.fraction d.denominator_pos (Nat.le_refl _) ?_
  calc f.unitsOf f.infinity * d.denominator
      ≤ 10 ^ k * 2 ^ f.scale * d.denominator := Nat.mul_le_mul_right _ hf.greatest
    _ = 10 ^ k * d.denominator * 2 ^ f.scale := Nat.mul_right_comm _ _ _
    _ ≤ d.numerator * 2 ^ f.scale := Nat.mul_le_mul_right _ hlarge

/-- A decimal below all positive numbers is rounded to zero. -/
theorem round_of_top_lt (h : d.top < -k) :
    f.round (d.numerator * 2 ^ f.scale) d.denominator = 0 := by
  have hsmall : d.numerator * 10 ^ k < d.denominator := by
    by_contra hle
    exact not_le.2 h (Decimal.le_top (Nat.not_lt.1 hle))
  refine round_eq_zero hf.fraction ?_
  calc 2 * (d.numerator * 2 ^ f.scale) = d.numerator * 2 ^ (f.scale + 1) := by
        rw [Nat.pow_succ]
        ring
    _ ≤ d.numerator * 10 ^ k := Nat.mul_le_mul_left _ hf.least
    _ < d.denominator := hsmall

end Within

/-- What is settled without its powers of ten is settled as if it were rounded. -/
theorem ofDecimal_eq (hf : f.WithinPowers 400) (d : Decimal) :
    f.ofDecimal d = f.round (d.numerator * 2 ^ f.scale) d.denominator := by
  by_cases hzero : d.coefficient = 0
  · have hround : f.round (d.numerator * 2 ^ f.scale) d.denominator = 0 :=
      round_eq_zero hf.fraction (by simp [Decimal.numerator, hzero, d.denominator_pos])
    rw [hround, ofDecimal, if_pos (.inl hzero)]
  · rcases lt_or_ge d.top (-400) with hlow | hlow
    · rw [round_of_top_lt hf hlow, ofDecimal, if_pos (.inr hlow)]
    · rcases lt_or_ge 400 d.top with hhigh | hhigh
      · have hbounded : ¬ (d.coefficient = 0 ∨ d.top < -400) := by
          rintro (h | h)
          · exact hzero h
          · exact not_le.2 h hlow
        rw [round_of_lt_top hf hzero hhigh]
        exact (if_neg hbounded).trans (if_pos hhigh)
      · exact ofDecimal_eq_round hzero hlow hhigh

/-- A decimal that is nearest to a positive finite magnitude is read as the magnitude. -/
theorem ofDecimal_of_near (hf : f.WithinPowers 400) {m : Nat} (hm : 0 < m)
    (hfinite : m < f.infinity) {d : Decimal} (h : f.NearDecimal m d) : f.ofDecimal d = m := by
  rw [ofDecimal_eq hf]
  exact round_of_nearest hf.fraction d.denominator_pos hm hfinite h

/-! ### The shortest decimal -/

theorem nearest_of_readsBack {m c j : Nat} (h : Binary.readsBack f m c j = true) :
    f.Nearest m (c * 10 ^ j) (5 ^ f.scale) := by
  unfold Binary.readsBack at h
  split at h
  · next heven =>
    simp only [Bool.and_eq_true, decide_eq_true_eq] at h
    exact ⟨h.1, h.2, fun hodd => absurd hodd (by omega)⟩
  · simp only [Bool.and_eq_true, decide_eq_true_eq] at h
    exact ⟨Nat.le_of_lt h.1, Nat.le_of_lt h.2, fun _ => h⟩

/-- A point of a grid, as a decimal, in units of the format. -/
theorem numerator_of_grid (c j scale : Nat) :
    (⟨c, (j : Int) - scale⟩ : Decimal).numerator * 2 ^ scale * 5 ^ scale =
      c * 10 ^ j * (⟨c, (j : Int) - scale⟩ : Decimal).denominator := by
  have hexponents : j + (-((j : Int) - scale)).toNat = ((j : Int) - scale).toNat + scale := by
    omega
  have hpowers := congrArg (10 ^ ·) hexponents
  simp only [Nat.pow_add] at hpowers
  symm
  calc c * 10 ^ j * 10 ^ (-((j : Int) - scale)).toNat
      = c * (10 ^ j * 10 ^ (-((j : Int) - scale)).toNat) := Nat.mul_assoc ..
    _ = c * (10 ^ ((j : Int) - scale).toNat * 10 ^ scale) := by rw [hpowers]
    _ = c * 10 ^ ((j : Int) - scale).toNat * 2 ^ scale * 5 ^ scale := by
      rw [show 10 = 2 * 5 from rfl, Nat.mul_pow 2 5 scale]
      ring

theorem nearDecimal_of_grid {m c j : Nat} (h : f.Nearest m (c * 10 ^ j) (5 ^ f.scale)) :
    f.NearDecimal m ⟨c, (j : Int) - f.scale⟩ :=
  h.of_eq (Nat.pow_pos (by decide)) (Decimal.denominator_pos _) (numerator_of_grid c j f.scale).symm

theorem readsBack_of_nearestOnGrid {tie : Tie} {m c j : Nat}
    (h : Binary.nearestOnGrid f tie m j = some c) : Binary.readsBack f m c j = true := by
  unfold Binary.nearestOnGrid at h
  simp only at h
  split at h
  · cases h
  · next hbelow _ =>
    cases h
    exact hbelow
  · next habove =>
    cases h
    exact habove
  · next hbelow habove =>
    split at h <;> cases h
    · exact hbelow
    · exact habove

/-- The induction is on the grids that are left: either the first of them has a point that reads
back, or the last one holds the value itself. -/
theorem nearDecimal_firstGrid (tie : Tie) {m : Nat} (hm : 0 < m) (j : Nat) :
    f.NearDecimal m (Binary.firstGrid f tie m j) := by
  induction j with
  | zero =>
    have hvalue : f.Nearest m (f.unitsOf m * 5 ^ f.scale * 10 ^ 0) (5 ^ f.scale) :=
      (nearest_unitsOf hm).of_eq Nat.one_pos (Nat.pow_pos (by decide)) (by simp)
    simpa [Binary.firstGrid] using nearDecimal_of_grid hvalue
  | succ j ih =>
    unfold Binary.firstGrid
    split
    · next c hc => exact nearDecimal_of_grid (nearest_of_readsBack (readsBack_of_nearestOnGrid hc))
    · exact ih

/-- The shortest decimal of a finite value reads back. -/
theorem near_shortest (tie : Tie) {x : Binary f} (hx : x.isZero = false) :
    f.NearDecimal x.magnitude (x.shortest tie) :=
  nearDecimal_firstGrid tie (Nat.pos_of_ne_zero (of_decide_eq_false hx)) _

end BinaryFormat

end DeviceGateway
