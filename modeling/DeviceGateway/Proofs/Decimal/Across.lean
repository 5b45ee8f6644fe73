import DeviceGateway.Proofs.Binary.Value
import DeviceGateway.Proofs.Decimal.Middle
import DeviceGateway.Proofs.Decimal.Plain

/-! Singles read as doubles. The text of a single is read as the double nearest to its shortest
decimal, and that double is taken back to the single unless it has come to lie in the middle between
two singles, or beyond all of them. It comes to lie in a middle for one decimal only. -/

namespace DeviceGateway

open BinaryFormat (single double)

namespace BinaryFormat

/-! ### Between the middles -/

theorem widest_single_lt :
    2 * single.unitsOf single.infinity * 2 ^ halfBits < double.unitsOf double.infinity := by
  decide +kernel

/-- The middle between neighbouring singles is a double. -/
theorem exists_middle (k : Nat) :
    ∃ m, double.unitsOf m = (single.unitsOf k + single.unitsOf (k + 1)) * 2 ^ halfBits := by
  obtain ⟨s, q, rfl, hq, hs⟩ := single.exists_parts k
  have hbits : single.fractionBits = 23 := rfl
  have hsmall : 2 * q + 1 ≤ 2 * 2 ^ double.fractionBits := by
    have hdouble : double.fractionBits = 52 := rfl
    rw [hdouble]
    rw [hbits] at hq
    omega
  obtain ⟨m, hm⟩ := double.exists_unitsOf hsmall (s + halfBits)
  refine ⟨m, ?_⟩
  rw [hm, Nat.add_assoc, single.unitsOf_parts hq.le hs,
    single.unitsOf_parts (q := q + 1) hq (by omega), Nat.pow_add]
  ring

section Between

variable {m n d : Nat} (hd : 0 < d) (hm : 0 < m) (hfinite : m < single.infinity)
  (h : single.Nearest m n d)

include hd hm hfinite h

/-- What is nearest to a single is rounded to a double that is not outside the middles around the
single. -/
theorem round_between_middles :
    double.round (n * (2 * 2 ^ halfBits)) d < double.infinity ∧
    (single.unitsOf (m - 1) + single.unitsOf m) * 2 ^ halfBits ≤
      double.unitsOf (double.round (n * (2 * 2 ^ halfBits)) d) ∧
    double.unitsOf (double.round (n * (2 * 2 ^ halfBits)) d) ≤
      (single.unitsOf m + single.unitsOf (m + 1)) * 2 ^ halfBits := by
  have hp : 0 < double.fractionBits := by decide
  obtain ⟨low, hlow⟩ := exists_middle (m - 1)
  rw [Nat.sub_add_cancel hm] at hlow
  obtain ⟨high, hhigh⟩ := exists_middle m
  have hmono := double.unitsOf_strictMono
  have hwidest : ∀ k ≤ single.infinity, single.unitsOf k ≤ single.unitsOf single.infinity :=
    fun k hk => single.unitsOf_strictMono.monotone hk
  have hlast : high < double.infinity := by
    have hself := hwidest m hfinite.le
    have hnext := hwidest (m + 1) hfinite
    apply hmono.lt_iff_lt.1
    rw [hhigh]
    refine Nat.lt_of_le_of_lt (Nat.mul_le_mul_right _ ?_) widest_single_lt
    omega
  have hbelow : double.round (n * (2 * 2 ^ halfBits)) d ≤ high := by
    apply round_le hp hd
    rw [hhigh]
    have hscaled := Nat.mul_le_mul_right (2 ^ halfBits) h.high
    linarith
  have horder : low ≤ double.infinity := by
    apply le_trans _ hlast.le
    apply hmono.le_iff_le.1
    have hstep : single.unitsOf (m - 1) ≤ single.unitsOf (m + 1) :=
      single.unitsOf_strictMono.monotone (by omega)
    rw [hlow, hhigh]
    exact Nat.mul_le_mul_right _ (by omega)
  have habove : low ≤ double.round (n * (2 * 2 ^ halfBits)) d := by
    apply le_round hp hd horder
    rw [hlow]
    have hscaled := Nat.mul_le_mul_right (2 ^ halfBits) h.low
    linarith
  exact ⟨Nat.lt_of_le_of_lt hbelow hlast, hlow ▸ hmono.monotone habove,
    hhigh ▸ hmono.monotone hbelow⟩

end Between

/-- A double that lies between the middles around a single is rounded to it. In a middle it goes to
the even single. -/
theorem round_single_eq {m : Nat} (hm : 0 < m) (hfinite : m < single.infinity) {u : Nat}
    (hlow : (single.unitsOf (m - 1) + single.unitsOf m) * 2 ^ halfBits ≤ u)
    (hhigh : u ≤ (single.unitsOf m + single.unitsOf (m + 1)) * 2 ^ halfBits)
    (hodd : m % 2 = 1 → (single.unitsOf (m - 1) + single.unitsOf m) * 2 ^ halfBits ≠ u ∧
      u ≠ (single.unitsOf m + single.unitsOf (m + 1)) * 2 ^ halfBits) :
    single.round (u * 2 ^ single.scale) (2 ^ double.scale) = m := by
  have hpos : 0 < 2 ^ single.scale := Nat.two_pow_pos _
  have hscaled : ∀ l, l * 2 ^ double.scale = 2 * (l * 2 ^ halfBits * 2 ^ single.scale) := by
    intro l
    rw [two_pow_double_scale]
    ring
  apply round_of_nearest (by decide) (Nat.two_pow_pos _) hm hfinite
  refine ⟨?_, ?_, fun h1 => ?_⟩
  · rw [hscaled]
    exact Nat.mul_le_mul_left 2 (Nat.mul_le_mul_right _ hlow)
  · rw [hscaled]
    exact Nat.mul_le_mul_left 2 (Nat.mul_le_mul_right _ hhigh)
  · obtain ⟨hlow', hhigh'⟩ := hodd h1
    rw [hscaled, hscaled]
    constructor
    · apply Nat.mul_lt_mul_of_pos_left _ Nat.two_pos
      exact Nat.mul_lt_mul_of_pos_right (lt_of_le_of_ne hlow hlow') hpos
    · apply Nat.mul_lt_mul_of_pos_left _ Nat.two_pos
      exact Nat.mul_lt_mul_of_pos_right (lt_of_le_of_ne hhigh hhigh') hpos

/-! ### In the middles -/

/-- The only odd magnitude, but for the largest, whose shortest decimal is read as a middle. -/
def misread : Nat := 42 * 2 ^ 23 + 11420669

open Coincidence (Near)

theorem two_pow_fraction_lt : 2 ^ double.fractionBits < 2 ^ halfBits := by
  decide +kernel

/-- A point that is rounded to a middle is near it. -/
theorem near_of_round {a c d k s : Nat} (hd : 0 < d) (hk : 0 < k) (hsmall : k < 2 ^ 25)
    (hfinite : double.round (c * a * 2 ^ halfBits) d < double.infinity)
    (hunits : double.unitsOf (double.round (c * a * 2 ^ halfBits) d) = k * 2 ^ s * 2 ^ halfBits) :
    Near a (2 ^ s * d) c k := by
  have hlarge : 2 ^ double.fractionBits < double.round (c * a * 2 ^ halfBits) d := by
    apply double.unitsOf_strictMono.lt_iff_lt.1
    rw [unitsOf_of_le (by omega), hunits]
    have hpos : 0 < k * 2 ^ s := Nat.mul_pos hk (Nat.two_pow_pos s)
    exact Nat.lt_of_lt_of_le two_pow_fraction_lt (Nat.le_mul_of_pos_left _ hpos)
  obtain ⟨hle, hge⟩ := round_close (by decide) hd hlarge hfinite
  have hbits : 2 * 2 ^ double.fractionBits = 2 ^ 53 := by decide
  have hproduct : double.unitsOf (double.round (c * a * 2 ^ halfBits) d) * d =
      k * (2 ^ s * d) * 2 ^ halfBits := by
    rw [hunits]
    ring
  rw [hproduct, hbits] at hle hge
  have hpos : 0 < 2 ^ halfBits := Nat.two_pow_pos _
  have hmiddle : k * (2 ^ s * d) ≤ 2 ^ 25 * (2 ^ s * d) := Nat.mul_le_mul_right _ hsmall.le
  generalize 2 ^ s * d = b at *
  generalize 2 ^ halfBits = H at *
  have hle' : 2 ^ 53 * (c * a) ≤ 2 ^ 53 * (k * b) + k * b := by
    apply Nat.le_of_mul_le_mul_right _ hpos
    linarith
  have hge' : 2 ^ 53 * (k * b) ≤ 2 ^ 53 * (c * a) + k * b := by
    apply Nat.le_of_mul_le_mul_right _ hpos
    linarith
  exact ⟨by omega, by omega⟩

/-- A point of the grid lies between the middles around a magnitude that it reads back as. -/
theorem Centered.not_middle {m s q : Nat} (h : single.Centered m s q) (hq : q % 2 = 1)
    (hodd : m % 2 = 1) (hfinite : m < single.infinity) (hread : m ≠ misread) {c j k : Nat}
    (hgrid : Binary.nearestOnGrid single .upper m j = some c)
    (hk : k + 1 = 2 * q ∨ k = 2 * q + 1)
    (hnear : Near (2 * 10 ^ j) (2 ^ s * 5 ^ 149) c k) :
    c * (2 * 10 ^ j) = k * (2 ^ s * 5 ^ 149) := by
  have hscale : single.scale = 149 := by decide
  have hbits : single.fractionBits = 23 := rfl
  have hparts := h.parts
  have hbound := h.bound
  have hleast := h.least
  have hinfinity : single.infinity = 255 * 2 ^ 23 := by decide
  rw [hbits] at hparts hbound hleast
  rw [hinfinity] at hfinite
  have hs : s < 254 := by omega
  have hcoarse := h.coarse hodd hgrid hk (hscale.symm ▸ hnear)
  rw [hscale] at hcoarse
  have hksmall : k < 2 ^ 25 := by omega
  have hb : 0 < 2 ^ s * 5 ^ 149 := Nat.mul_pos (Nat.two_pow_pos s) (Nat.pow_pos (by decide))
  obtain ⟨hcomparable, hpos, hc⟩ := hnear.bounds hb (by omega) hksmall hcoarse
  rcases Coincidence.near_cases hs hcomparable hnear hpos hc hksmall with heq | ⟨rfl, rfl⟩
  · exact heq
  · -- of the two magnitudes beside the middle one is even
    exfalso
    apply hread
    rw [misread]
    omega

/-- The double that a point of a grid is read as. -/
def readAs (c j : Nat) : Nat := double.round (c * (2 * 10 ^ j) * 2 ^ halfBits) (5 ^ 149)

theorem round_of_grid (c j : Nat) :
    double.round ((⟨c, (j : Int) - single.scale⟩ : Decimal).numerator * 2 ^ double.scale)
      (⟨c, (j : Int) - single.scale⟩ : Decimal).denominator = readAs c j := by
  have hscale : single.scale = 149 := by decide
  have hpoint := numerator_of_grid c j single.scale
  refine round_congr (Decimal.denominator_pos _) (Nat.pow_pos (by decide)) ?_
  rw [two_pow_double_scale, ← hscale]
  generalize (⟨c, (j : Int) - single.scale⟩ : Decimal).denominator = D at *
  generalize (⟨c, (j : Int) - single.scale⟩ : Decimal).numerator = N at *
  calc N * (2 * 2 ^ halfBits * 2 ^ single.scale) * 5 ^ single.scale
      = N * 2 ^ single.scale * 5 ^ single.scale * (2 * 2 ^ halfBits) := by ring
    _ = c * 10 ^ j * D * (2 * 2 ^ halfBits) := by rw [hpoint]
    _ = c * (2 * 10 ^ j) * 2 ^ halfBits * D := by ring

/-- The point is the one that is taken for the magnitude on its grid, or the value itself. -/
def Taken (m c j : Nat) : Prop :=
  Binary.nearestOnGrid single .upper m j = some c ∨ c = single.unitsOf m * 5 ^ 149 ∧ j = 0

theorem Taken.nearest {m c j : Nat} (h : Taken m c j) (hm : 0 < m) :
    single.Nearest m (c * 10 ^ j) (5 ^ 149) := by
  have hscale : single.scale = 149 := by decide
  rcases h with hgrid | ⟨rfl, rfl⟩
  · have hnearest := nearest_of_readsBack (readsBack_of_nearestOnGrid hgrid)
    rwa [hscale] at hnearest
  · exact (nearest_unitsOf hm).of_eq Nat.one_pos (Nat.pow_pos (by decide)) (by simp)

theorem exists_taken (m j : Nat) : ∃ c i, Taken m c i ∧
    Binary.firstGrid single .upper m j = ⟨c, (i : Int) - single.scale⟩ := by
  have hscale : single.scale = 149 := by decide
  rcases Binary.firstGrid_cases (f := single) .upper m j with ⟨i, c, hgrid, heq⟩ | heq
  · exact ⟨c, i, .inl hgrid, heq⟩
  · exact ⟨_, 0, .inr ⟨by rw [hscale], rfl⟩, heq⟩

section Odd

variable {m s q c j : Nat} (h : single.Centered m s q) (hq : q % 2 = 1) (hodd : m % 2 = 1)
  (hfinite : m < single.infinity) (hread : m ≠ misread) (htaken : Taken m c j)

include h hq hodd hfinite hread htaken

/-- It is not read as a middle, of which there is one below and one above. -/
theorem Centered.readAs_ne {k : Nat} (hk : k + 1 = 2 * q ∨ k = 2 * q + 1)
    (hrange : readAs c j < double.infinity) :
    double.unitsOf (readAs c j) ≠ k * 2 ^ s * 2 ^ halfBits := by
  intro hunits
  have hbound := h.bound
  have hbits : single.fractionBits = 23 := rfl
  rw [hbits] at hbound
  have hnear : Near (2 * 10 ^ j) (2 ^ s * 5 ^ 149) c k :=
    near_of_round (Nat.pow_pos (by decide)) (by omega) (by omega) hrange hunits
  rcases htaken with hgrid | ⟨rfl, rfl⟩
  · have hpoint := h.not_middle hq hodd hfinite hread hgrid hk hnear
    obtain ⟨hlow, hhigh⟩ := (Taken.nearest (.inl hgrid) (by omega)).odd hodd
    have htwice : 2 * (c * 10 ^ j) = k * 2 ^ s * 5 ^ 149 := by
      rw [Nat.mul_assoc k, ← hpoint, Nat.mul_left_comm]
    rw [htwice] at hlow hhigh
    rcases hk with hk | hk
    · exact hlow.ne (congrArg (· * 5 ^ 149) (h.middle_below hk).symm)
    · exact hhigh.ne (congrArg (· * 5 ^ 149) (h.middle_above hk))
  · have hvalue : single.unitsOf m * 5 ^ 149 * (2 * 10 ^ 0) = 2 * q * (2 ^ s * 5 ^ 149) := by
      rw [h.self]
      ring
    exact hnear.ne_beside (Nat.mul_pos (Nat.two_pow_pos s) (Nat.pow_pos (by decide))) hvalue hk

end Odd

/-- The double that a magnitude is read as lies between the middles around it, and is taken back to
it. -/
theorem round_readAs {m c j : Nat} (hm : 0 < m) (hfinite : m < single.infinity)
    (hread : m ≠ misread) (htaken : Taken m c j) :
    readAs c j < double.infinity ∧
    double.unitsOf (readAs c j) ≤ (single.unitsOf m + single.unitsOf (m + 1)) * 2 ^ halfBits ∧
    single.round (double.unitsOf (readAs c j) * 2 ^ single.scale) (2 ^ double.scale) = m := by
  have hproduct : c * 10 ^ j * (2 * 2 ^ halfBits) = c * (2 * 10 ^ j) * 2 ^ halfBits := by ring
  have hbetween := round_between_middles (Nat.pow_pos (by decide)) hm hfinite (htaken.nearest hm)
  rw [hproduct] at hbetween
  obtain ⟨hrange, hlow, hhigh⟩ := hbetween
  refine ⟨hrange, hhigh, round_single_eq hm hfinite hlow hhigh fun hodd => ?_⟩
  obtain ⟨s, q, hq, h⟩ := exists_centered (f := single) (by decide) hodd
  have hbelow : 2 * q - 1 + 1 = 2 * q := by omega
  rw [← h.middle_below hbelow, ← h.middle_above rfl]
  exact ⟨(h.readAs_ne hq hodd hfinite hread htaken (.inl hbelow) hrange).symm,
    h.readAs_ne hq hodd hfinite hread htaken (.inr rfl) hrange⟩

end BinaryFormat

/-! ### Singles -/

namespace Binary

/-- The text of a single is read as the double that a point of a grid is read as. -/
theorem ofText_double_text {y : Single} (hy : y.isFinite) (hzero : y.isZero = false) :
    ∃ c j, BinaryFormat.Taken y.magnitude c j ∧
      ofText .double y.text = .ok (ofParts y.isNegative (BinaryFormat.readAs c j)) := by
  obtain ⟨c, j, htaken, hshortest⟩ := BinaryFormat.exists_taken y.magnitude
    ((Nat.toDigits 10 (y.units * 5 ^ single.scale)).length - 1)
  refine ⟨c, j, htaken, ?_⟩
  rw [ofText_of_shortest hy hzero BinaryFormat.double_withinPowers, shortest, hshortest,
    BinaryFormat.round_of_grid]

end Binary

end DeviceGateway
