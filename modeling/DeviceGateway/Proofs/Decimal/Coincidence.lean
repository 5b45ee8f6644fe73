import DeviceGateway.Binary.Format
import Mathlib.Algebra.Order.Ring.Abs
import Mathlib.Algebra.Order.Ring.Int
import Mathlib.Data.Int.GCD
import Mathlib.Tactic.Linarith
import Mathlib.Tactic.Ring

/-! Decimals of few digits near middles of singles. In units of tenth parts a decimal of the grid
`10 ^ j` is a multiple of `2 * 10 ^ j`, and a middle between two neighbouring singles is an odd
multiple of `2 ^ s * 5 ^ 149`. Multiples of the two come as near to each other as doubles would
have to be to mistake the one for the other in a single case. For each pair of grids this follows
from one good approximation of their quotient, which is searched for and then checked. -/

namespace DeviceGateway.Coincidence

/-- `c` steps of the one grid and `k` steps of the other are nearly the same. -/
structure Near (a b c k : Nat) : Prop where
  le : c * a * 2 ^ 28 ≤ k * b * 2 ^ 28 + b
  ge : k * b * 2 ^ 28 ≤ c * a * 2 ^ 28 + b

theorem Near.abs_le {a b c k : Nat} (h : Near a b c k) :
    |(c * a : Int) - k * b| * 2 ^ 28 ≤ b := by
  have hle : (c * a * 2 ^ 28 : Int) ≤ k * b * 2 ^ 28 + b := by exact_mod_cast h.le
  have hge : (k * b * 2 ^ 28 : Int) ≤ c * a * 2 ^ 28 + b := by exact_mod_cast h.ge
  rcases abs_cases ((c * a : Int) - k * b) with ⟨habs, -⟩ | ⟨habs, -⟩
  · rw [habs]
    linarith
  · rw [habs]
    linarith

/-- A step is not near the steps beside it. -/
theorem Near.ne_beside {a b c k i : Nat} (h : Near a b c k) (hb : 0 < b) (heq : c * a = i * b) :
    ¬(k + 1 = i ∨ k = i + 1) := by
  obtain ⟨hle, hge⟩ := h
  rw [heq] at hle hge
  rintro (rfl | rfl) <;> rw [Nat.succ_mul] at hle hge <;> omega

/-! ### Certificates -/

/-- How far `q` steps of the one grid are from `p` steps of the other. -/
def distance (a b q p : Nat) : Nat := (q * a - p * b) + (p * b - q * a)

theorem distance_eq (a b q p : Nat) : (distance a b q p : Int) = |(q * a : Int) - p * b| := by
  have h : distance a b q p = ((q * a : Nat) - (p * b : Nat) : Int).natAbs := by
    unfold distance
    omega
  rw [h, Int.natCast_natAbs]
  push_cast
  rfl

/-- The approximation is good enough to show all near multiples of up to `2 ^ 25` steps. -/
def shows (a b q p : Nat) : Bool :=
  decide (0 < q) && decide (2 ^ 53 * distance a b q p + q * b < b * 2 ^ 28) &&
    decide (Nat.gcd q p = 1)

variable {a b c k q p : Nat}

theorem Near.cross_eq (hnear : Near a b c k) (hc : c ≤ 2 ^ 25)
    (hgood : 2 ^ 53 * distance a b q p + q * b < b * 2 ^ 28) : c * p = q * k := by
  by_contra hne
  have hone : (1 : Int) ≤ |(c * p : Int) - q * k| := by
    apply Int.one_le_abs
    intro h
    apply hne
    exact_mod_cast sub_eq_zero.1 h
  have hsplit : (b : Int) * (c * p - q * k) = q * (c * a - k * b) - c * (q * a - p * b) := by
    ring
  have hbound : (b : Int) * |(c * p : Int) - q * k| ≤
      q * |(c * a : Int) - k * b| + c * distance a b q p := by
    rw [distance_eq]
    calc (b : Int) * |(c * p : Int) - q * k| = |(b : Int) * (c * p - q * k)| := by
          rw [abs_mul, Nat.abs_cast]
      _ = |(q : Int) * (c * a - k * b) - c * (q * a - p * b)| := by rw [hsplit]
      _ ≤ |(q : Int) * (c * a - k * b)| + |(c : Int) * (q * a - p * b)| := abs_sub _ _
      _ = _ := by rw [abs_mul, abs_mul, Nat.abs_cast, Nat.abs_cast]
  have hwhole : (b : Int) * 1 ≤ b * |(c * p : Int) - q * k| :=
    mul_le_mul_of_nonneg_left hone (Int.natCast_nonneg b)
  have hfirst : (q : Int) * (|(c * a : Int) - k * b| * 2 ^ 28) ≤ q * b :=
    mul_le_mul_of_nonneg_left hnear.abs_le (Int.natCast_nonneg q)
  have hsecond : (c : Int) * distance a b q p ≤ 2 ^ 25 * distance a b q p :=
    mul_le_mul_of_nonneg_right (by exact_mod_cast hc) (Int.natCast_nonneg _)
  have hgood : (2 : Int) ^ 53 * distance a b q p + q * b < b * 2 ^ 28 := by exact_mod_cast hgood
  linarith

/-- A near multiple is one of the approximation. -/
theorem Near.exists_multiple (hnear : Near a b c k) (hc : c ≤ 2 ^ 25)
    (hshows : shows a b q p = true) : ∃ i, c = i * q ∧ k = i * p := by
  simp only [shows, Bool.and_eq_true, decide_eq_true_eq] at hshows
  obtain ⟨⟨hq, hgood⟩, hcoprime⟩ := hshows
  have hcross := hnear.cross_eq hc hgood
  have hdvd : q ∣ c := by
    apply Nat.Coprime.dvd_of_dvd_mul_right hcoprime
    exact ⟨k, hcross⟩
  obtain ⟨i, rfl⟩ := hdvd
  refine ⟨i, Nat.mul_comm q i, ?_⟩
  apply Nat.eq_of_mul_eq_mul_left hq
  rw [← hcross]
  ring

/-- The approximation also shows that its own multiples meet, or are not near, or are too many
steps. -/
def excludes (a b q p : Nat) : Bool :=
  shows a b q p && (decide (distance a b q p = 0) || decide (b < distance a b q p * 2 ^ 28) ||
    decide (2 ^ 25 < p))

/-- What is near is the same then. -/
theorem Near.eq_of_excludes (hnear : Near a b c k) (hpos : 0 < c) (hc : c ≤ 2 ^ 25)
    (hk : k ≤ 2 ^ 25) (h : excludes a b q p = true) : c * a = k * b := by
  simp only [excludes, Bool.and_eq_true, Bool.or_eq_true, decide_eq_true_eq] at h
  obtain ⟨hshows, hmultiples⟩ := h
  obtain ⟨i, rfl, rfl⟩ := hnear.exists_multiple hc hshows
  have hscaled : |((i * q : Nat) * a : Int) - (i * p : Nat) * b| = i * distance a b q p := by
    have hfactor : ((i * q : Nat) * a : Int) - (i * p : Nat) * b = i * (q * a - p * b) := by
      push_cast
      ring
    rw [hfactor, abs_mul, Nat.abs_cast, distance_eq]
  have hi : 1 ≤ i := by
    apply Nat.pos_of_ne_zero
    rintro rfl
    omega
  rcases hmultiples with (hzero | hfar) | hlarge
  · rw [hzero, Nat.cast_zero, mul_zero] at hscaled
    exact_mod_cast sub_eq_zero.1 (abs_eq_zero.1 hscaled)
  · have hfar : (b : Int) < distance a b q p * 2 ^ 28 := by exact_mod_cast hfar
    have hgrow : (1 : Int) * distance a b q p ≤ i * distance a b q p :=
      mul_le_mul_of_nonneg_right (by exact_mod_cast hi) (Int.natCast_nonneg _)
    have hclose := hnear.abs_le
    rw [hscaled] at hclose
    linarith
  · have hle : 1 * p ≤ i * p := Nat.mul_le_mul_right p hi
    omega

/-! ### The search -/

/-- The last denominator up to the bound among the convergents of a quotient, from the remainders
and the denominators of the two steps before. -/
def convergent (bound : Nat) : Nat → Nat → Nat → Nat → Nat → Nat
  | 0, _, _, _, q₁ => q₁
  | fuel + 1, r₀, r₁, q₀, q₁ =>
    if r₁ = 0 then q₁
    else
      let q₂ := q₀ + r₀ / r₁ * q₁
      if bound < q₂ then q₁ else convergent bound fuel r₁ (r₀ % r₁) q₁ q₂

/-- A pair of grids between which nothing is near, as an approximation of their quotient shows. -/
def apart (a b : Nat) : Bool :=
  let q := convergent (2 ^ 26) 60 b (a % b) 0 1
  excludes a b q ((2 * q * a + b) / (2 * b))

/-- The decimals of the grid are not much finer than the middles are apart, and a step of them is
no more than the largest of the middles. -/
def Comparable (a b : Nat) : Prop := 7 * b ≤ 4 * a ∧ a < 2 ^ 26 * b

instance (a b : Nat) : Decidable (Comparable a b) := inferInstanceAs (Decidable (_ ∧ _))

/-- The exponents of the decimals that are comparable with the middles of an exponent begin
here. -/
def lowestGrid (s : Nat) : Nat := 104 + 301 * s / 1000

theorem comparable_range : ∀ s < 254, 8 * 10 ^ (lowestGrid s - 1) < 7 * (2 ^ s * 5 ^ 149) ∧
    2 ^ 26 * (2 ^ s * 5 ^ 149) ≤ 2 * 10 ^ (lowestGrid s + 9) := by
  decide +kernel

/-- On grids that are not too fine only comparable steps come near, and few of them. -/
theorem Near.bounds (h : Near a b c k) (hb : 0 < b) (hk : 0 < k) (hsmall : k < 2 ^ 25)
    (hcoarse : 7 * b ≤ 4 * a) : Comparable a b ∧ 0 < c ∧ c ≤ 2 ^ 25 := by
  have hmost : k * b ≤ (2 ^ 25 - 1) * b := Nat.mul_le_mul_right b (by omega)
  have hleast : 1 * b ≤ k * b := Nat.mul_le_mul_right b hk
  obtain ⟨hle, hge⟩ := h
  have hpos : 0 < c := by
    apply Nat.pos_of_ne_zero
    rintro rfl
    omega
  have hstep : 1 * a ≤ c * a := Nat.mul_le_mul_right a hpos
  refine ⟨⟨hcoarse, by omega⟩, hpos, ?_⟩
  by_contra hlarge
  have hmany : (2 ^ 25 + 1) * a ≤ c * a := Nat.mul_le_mul_right a (by omega)
  omega

theorem apart_range : ∀ s < 254, ∀ i < 9, (s, i) ≠ (42, 1) →
    Comparable (2 * 10 ^ (lowestGrid s + i)) (2 ^ s * 5 ^ 149) →
      apart (2 * 10 ^ (lowestGrid s + i)) (2 ^ s * 5 ^ 149) = true := by
  decide +kernel

theorem exists_grid {s j : Nat} (hs : s < 254)
    (h : Comparable (2 * 10 ^ j) (2 ^ s * 5 ^ 149)) : ∃ i < 9, j = lowestGrid s + i := by
  obtain ⟨hlow, hhigh⟩ := comparable_range s hs
  have hgrid : 104 ≤ lowestGrid s := Nat.le_add_right ..
  have hge : lowestGrid s ≤ j := by
    by_contra hlt
    have hpow : 10 ^ j ≤ 10 ^ (lowestGrid s - 1) := Nat.pow_le_pow_right (by decide) (by omega)
    have hfine := h.1
    omega
  have hlt : j < lowestGrid s + 9 := by
    by_contra hge
    have hpow : 10 ^ (lowestGrid s + 9) ≤ 10 ^ j := Nat.pow_le_pow_right (by decide) (by omega)
    have hcoarse := h.2
    omega
  exact ⟨j - lowestGrid s, by omega, by omega⟩

/-- The one pair of grids on which something is near. -/
theorem exception : 2 * 10 ^ 117 = 2 * 10 ^ (lowestGrid 42 + 1) ∧
    shows (2 * 10 ^ 117) (2 ^ 42 * 5 ^ 149) 7038531 22841339 = true := by
  decide +kernel

/-- A decimal of few digits that is near a middle is that middle, but for one decimal and one
middle. -/
theorem near_cases {s j : Nat} (hs : s < 254) (h : Comparable (2 * 10 ^ j) (2 ^ s * 5 ^ 149))
    {c k : Nat} (hnear : Near (2 * 10 ^ j) (2 ^ s * 5 ^ 149) c k) (hpos : 0 < c)
    (hc : c ≤ 2 ^ 25) (hk : k < 2 ^ 25) :
    c * (2 * 10 ^ j) = k * (2 ^ s * 5 ^ 149) ∨ s = 42 ∧ k = 22841339 := by
  obtain ⟨i, hi, rfl⟩ := exists_grid hs h
  by_cases hexception : (s, i) = (42, 1)
  · obtain ⟨rfl, rfl⟩ := Prod.mk.inj hexception
    right
    refine ⟨rfl, ?_⟩
    rw [← exception.1] at hnear
    obtain ⟨t, rfl, rfl⟩ := hnear.exists_multiple hc exception.2
    have ht : t = 1 := by omega
    rw [ht]
  · left
    exact hnear.eq_of_excludes hpos hc hk.le (apart_range s hs i hi hexception h)

end DeviceGateway.Coincidence
