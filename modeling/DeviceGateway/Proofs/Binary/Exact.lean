import DeviceGateway.Proofs.Binary.Round
import Mathlib.Order.WellFounded
import Mathlib.Tactic.Linarith

/-! Rounding between bounds. A magnitude bounds what is rounded exactly if it bounds what it is
rounded to, so a quotient that a magnitude stands for is rounded to that magnitude, and every
quotient is rounded to a nearest one. Small multiples of powers of two are among the values that
magnitudes stand for. -/

namespace DeviceGateway.BinaryFormat

variable {f : BinaryFormat}

@[simp] theorem unitsOf_zero : f.unitsOf 0 = 0 := by
  simp [unitsOf]

theorem round_le_infinity (n d : Nat) : f.round n d ≤ f.infinity := Nat.min_le_right _ _

/-- A quotient lies between two neighbours. -/
theorem exists_between {n d : Nat} (hd : 0 < d) :
    ∃ k, f.unitsOf k * d ≤ n ∧ n < f.unitsOf (k + 1) * d := by
  have hsome : ∃ k, n < f.unitsOf k * d := by
    refine ⟨n + 1, ?_⟩
    have hle : n + 1 ≤ f.unitsOf (n + 1) := f.unitsOf_strictMono.le_apply
    have hmul := Nat.mul_le_mul hle hd
    omega
  -- the first magnitude above the quotient is the upper neighbour
  classical
  obtain ⟨k, hk⟩ : ∃ k, Nat.find hsome = k + 1 := by
    apply Nat.exists_eq_succ_of_ne_zero
    intro hzero
    have hlt := Nat.find_spec hsome
    rw [hzero, unitsOf_zero, Nat.zero_mul] at hlt
    omega
  refine ⟨k, ?_, ?_⟩
  · apply Nat.le_of_not_lt
    exact Nat.find_min hsome (by omega)
  · rw [← hk]
    exact Nat.find_spec hsome

section Bounds

variable (hp : 0 < f.fractionBits) {n d : Nat} (hd : 0 < d) {m : Nat}

include hp hd

theorem round_le (h : n ≤ f.unitsOf m * d) : f.round n d ≤ m := by
  obtain ⟨k, hlow, hhigh⟩ := f.exists_between (n := n) hd
  have hkm : k ≤ m := by
    apply f.unitsOf_strictMono.le_iff_le.1
    exact Nat.le_of_mul_le_mul_right (Nat.le_trans hlow h) hd
  rw [round_between hp hlow hhigh]
  apply Nat.le_trans (Nat.min_le_left _ _)
  rcases Nat.lt_or_eq_of_le hkm with hlt | rfl
  · split
    · omega
    · split <;> omega
  · have hbelow : 2 * n < (f.unitsOf k + f.unitsOf (k + 1)) * d := by
      rw [Nat.add_mul]
      omega
    rw [if_pos hbelow]

theorem le_round (hm : m ≤ f.infinity) (h : f.unitsOf m * d ≤ n) : m ≤ f.round n d := by
  obtain ⟨k, hlow, hhigh⟩ := f.exists_between (n := n) hd
  have hmk : m < k + 1 := by
    apply f.unitsOf_strictMono.lt_iff_lt.1
    exact Nat.lt_of_mul_lt_mul_right (Nat.lt_of_le_of_lt h hhigh)
  rw [round_between hp hlow hhigh]
  refine Nat.le_min.2 ⟨?_, hm⟩
  split
  · omega
  · split <;> omega

/-- What a magnitude stands for is rounded to it. -/
theorem round_exact (hm : m ≤ f.infinity) : f.round (f.unitsOf m * d) d = m :=
  Nat.le_antisymm (round_le hp hd (Nat.le_refl _)) (le_round hp hd hm (Nat.le_refl _))

/-- A quotient is rounded to a magnitude that it is nearest to. -/
theorem nearest_round (hfinite : f.round n d < f.infinity) : f.Nearest (f.round n d) n d := by
  obtain ⟨k, hlow, hhigh⟩ := f.exists_between (n := n) hd
  have hround := round_between hp hlow hhigh
  have hbelow : f.unitsOf (k - 1) * d ≤ f.unitsOf k * d :=
    Nat.mul_le_mul_right d (f.unitsOf_strictMono.monotone (Nat.sub_le k 1))
  have habove : f.unitsOf (k + 1) * d < f.unitsOf (k + 2) * d :=
    Nat.mul_lt_mul_of_pos_right (f.unitsOf_lt_succ (k + 1)) hd
  have hstep : f.unitsOf k * d < f.unitsOf (k + 1) * d :=
    Nat.mul_lt_mul_of_pos_right (f.unitsOf_lt_succ k) hd
  -- the lower neighbour, when the quotient is not above the middle
  have hlower : 2 * n ≤ (f.unitsOf k + f.unitsOf (k + 1)) * d →
      (k % 2 = 1 → 2 * n < (f.unitsOf k + f.unitsOf (k + 1)) * d) → f.Nearest k n d := by
    intro hmiddle hodd
    refine ⟨?_, hmiddle, fun h => ⟨?_, hodd h⟩⟩
    · rw [Nat.add_mul]
      omega
    · have hpos : f.unitsOf (k - 1) * d < f.unitsOf k * d :=
        Nat.mul_lt_mul_of_pos_right (f.unitsOf_strictMono (by omega)) hd
      rw [Nat.add_mul]
      omega
  -- the upper neighbour, when it is not below the middle
  have hupper : (f.unitsOf k + f.unitsOf (k + 1)) * d ≤ 2 * n →
      ((k + 1) % 2 = 1 → (f.unitsOf k + f.unitsOf (k + 1)) * d < 2 * n) →
      f.Nearest (k + 1) n d := by
    intro hmiddle hodd
    have hlast : 2 * n < (f.unitsOf (k + 1) + f.unitsOf (k + 2)) * d := by
      rw [Nat.add_mul]
      omega
    exact ⟨hmiddle, Nat.le_of_lt hlast, fun h => ⟨hodd h, hlast⟩⟩
  rw [hround] at hfinite ⊢
  have hmin : ∀ a, min a f.infinity < f.infinity → min a f.infinity = a := by omega
  rw [hmin _ hfinite]
  split
  · next h => exact hlower (Nat.le_of_lt h) fun _ => h
  · next h =>
    split
    · next h' => exact hupper (Nat.le_of_lt h') fun _ => h'
    · next h' =>
      rcases Nat.mod_two_eq_zero_or_one k with heven | hodd
      · rw [heven, Nat.add_zero]
        exact hlower (Nat.not_lt.1 h') fun h1 => by omega
      · rw [hodd]
        exact hupper (Nat.not_lt.1 h) fun h1 => by omega

end Bounds

/-! ### Quotients -/

theorem nearestEven_mul_right (n d : Nat) {k : Nat} (hk : 0 < k) :
    nearestEven (n * k) (d * k) = nearestEven n d := by
  have hbelow : 2 * (n % d * k) < d * k ↔ 2 * (n % d) < d := by
    rw [← Nat.mul_assoc]
    exact Nat.mul_lt_mul_right hk
  have habove : d * k < 2 * (n % d * k) ↔ d < 2 * (n % d) := by
    rw [← Nat.mul_assoc]
    exact Nat.mul_lt_mul_right hk
  simp only [nearestEven, Nat.mul_div_mul_right _ _ hk, Nat.mul_mod_mul_right, hbelow, habove]

theorem round_mul_right (n d : Nat) {k : Nat} (hk : 0 < k) :
    f.round (n * k) (d * k) = f.round n d := by
  simp only [round, Nat.mul_div_mul_right _ _ hk, Nat.mul_right_comm d k,
    nearestEven_mul_right _ _ hk]

/-- It is the quotient that is rounded, and not how it is written. -/
theorem round_congr {n d n' d' : Nat} (hd : 0 < d) (hd' : 0 < d') (h : n * d' = n' * d) :
    f.round n d = f.round n' d' := by
  calc f.round n d = f.round (n * d') (d * d') := (round_mul_right n d hd').symm
    _ = f.round (n' * d) (d' * d) := by rw [h, Nat.mul_comm d]
    _ = f.round n' d' := round_mul_right n' d' hd

/-! ### Values that magnitudes stand for -/

theorem unitsOf_of_le {a : Nat} (ha : a ≤ 2 * 2 ^ f.fractionBits) : f.unitsOf a = a := by
  have h := f.unitsOf_parts (s := 0) ha (.inl rfl)
  simpa using h

/-- Twice the value of a magnitude is that of another. -/
theorem exists_double (m : Nat) : ∃ m', f.unitsOf m' = 2 * f.unitsOf m := by
  obtain ⟨s, q, rfl, hq, hs⟩ := f.exists_parts m
  rw [f.unitsOf_parts (by omega) hs]
  rcases Nat.lt_or_ge q (2 ^ f.fractionBits) with hsmall | hlarge
  · obtain rfl : s = 0 := by omega
    exact ⟨2 * q, by rw [unitsOf_of_le (by omega), Nat.pow_zero, Nat.mul_one]⟩
  · refine ⟨(s + 1) * 2 ^ f.fractionBits + q, ?_⟩
    rw [f.unitsOf_parts (by omega) (.inr hlarge), Nat.pow_succ]
    ring

theorem exists_unitsOf {a : Nat} (ha : a ≤ 2 * 2 ^ f.fractionBits) (s : Nat) :
    ∃ m, f.unitsOf m = a * 2 ^ s := by
  induction s with
  | zero => exact ⟨a, by rw [unitsOf_of_le ha, Nat.pow_zero, Nat.mul_one]⟩
  | succ s ih =>
    obtain ⟨m, hm⟩ := ih
    obtain ⟨m', hm'⟩ := f.exists_double m
    exact ⟨m', by rw [hm', hm, Nat.pow_succ]; ring⟩

/-- The step to the next value is small beside the value. -/
theorem unitsOf_succ_mul_le {m : Nat} (hm : 2 ^ f.fractionBits ≤ m) :
    f.unitsOf (m + 1) * 2 ^ f.fractionBits ≤ f.unitsOf m * (2 ^ f.fractionBits + 1) := by
  obtain ⟨s, q, rfl, hq, hs⟩ := f.exists_parts m
  have hlarge : 2 ^ f.fractionBits ≤ q := by
    rcases hs with rfl | hs
    · simpa using hm
    · exact hs
  rw [Nat.add_assoc, f.unitsOf_parts (by omega) hs, f.unitsOf_parts (by omega) (by omega)]
  generalize 2 ^ f.fractionBits = P at *
  calc (q + 1) * 2 ^ s * P = (q * P + P) * 2 ^ s := by ring
    _ ≤ (q * P + q) * 2 ^ s := Nat.mul_le_mul_right _ (by omega)
    _ = q * 2 ^ s * (P + 1) := by ring

/-- Above the subnormal range a quotient differs from what it is rounded to by no more than half a
step, which is a small part of it. -/
theorem round_close (hp : 0 < f.fractionBits) {n d : Nat} (hd : 0 < d)
    (hlarge : 2 ^ f.fractionBits < f.round n d) (hfinite : f.round n d < f.infinity) :
    2 * 2 ^ f.fractionBits * n ≤
        2 * 2 ^ f.fractionBits * (f.unitsOf (f.round n d) * d) + f.unitsOf (f.round n d) * d ∧
      2 * 2 ^ f.fractionBits * (f.unitsOf (f.round n d) * d) ≤
        2 * 2 ^ f.fractionBits * n + f.unitsOf (f.round n d) * d := by
  obtain ⟨hlow, hhigh, -⟩ := nearest_round hp hd hfinite
  generalize f.round n d = m at *
  have habove := unitsOf_succ_mul_le (f := f) (m := m) hlarge.le
  have hbelow := unitsOf_succ_mul_le (f := f) (m := m - 1) (Nat.le_sub_one_of_lt hlarge)
  rw [Nat.sub_add_cancel (Nat.one_le_of_lt hlarge)] at hbelow
  generalize 2 ^ f.fractionBits = P at *
  generalize f.unitsOf (m - 1) = a at *
  generalize f.unitsOf m = b at *
  generalize f.unitsOf (m + 1) = c at *
  have hupper : P * (2 * n) ≤ P * ((b + c) * d) := Nat.mul_le_mul_left P hhigh
  have hlower : (P + 1) * ((a + b) * d) ≤ (P + 1) * (2 * n) := Nat.mul_le_mul_left _ hlow
  have hstep : c * P * d ≤ b * (P + 1) * d := Nat.mul_le_mul_right d habove
  have hstep' : b * P * d ≤ a * (P + 1) * d := Nat.mul_le_mul_right d hbelow
  constructor
  · linarith
  · rcases Nat.le_total (b * d) n with hle | hlt
    · have hscaled := Nat.mul_le_mul_left (2 * P) hle
      omega
    · linarith

/-! ### The ends of the range -/

/-- A quotient of less than half a unit is rounded to zero. -/
theorem round_eq_zero (hp : 0 < f.fractionBits) {n d : Nat} (h : 2 * n < d) : f.round n d = 0 := by
  have hpos := Nat.two_pow_pos f.fractionBits
  have hunit : f.unitsOf 1 = 1 := unitsOf_of_le (by omega)
  rw [round_between (k := 0) hp (by simp) (by rw [hunit]; omega), unitsOf_zero, hunit,
    if_pos (by omega), Nat.zero_min]

/-- A quotient is rounded to an even magnitude, or to one above it, exactly if it is not below the
middle to the magnitude before. -/
theorem le_round_iff_of_even (hp : 0 < f.fractionBits) {n d m : Nat} (hd : 0 < d) (hm : 0 < m)
    (heven : m % 2 = 0) (hle : m ≤ f.infinity) :
    m ≤ f.round n d ↔ (f.unitsOf (m - 1) + f.unitsOf m) * d ≤ 2 * n := by
  obtain ⟨last, rfl⟩ : ∃ last, m = last + 1 := ⟨m - 1, by omega⟩
  have hstep : f.unitsOf last * d < f.unitsOf (last + 1) * d :=
    Nat.mul_lt_mul_of_pos_right (f.unitsOf_lt_succ last) hd
  rw [Nat.add_sub_cancel, Nat.add_mul]
  rcases Nat.lt_or_ge n (f.unitsOf last * d) with hbelow | hlow
  · have hround : f.round n d ≤ last := round_le hp hd hbelow.le
    omega
  · rcases Nat.lt_or_ge n (f.unitsOf (last + 1) * d) with hhigh | habove
    · rw [round_between hp hlow hhigh, Nat.add_mul]
      split
      · omega
      · split <;> omega
    · have hround : last + 1 ≤ f.round n d := le_round hp hd hle habove
      omega

/-- A quotient is rounded to a finite number exactly if it is below the middle between the largest
one and what would be next. -/
theorem round_lt_infinity_iff (hp : 0 < f.fractionBits) (hinfinity : 0 < f.infinity) {n d : Nat}
    (hd : 0 < d) : f.round n d < f.infinity ↔
      2 * n < (f.unitsOf (f.infinity - 1) + f.unitsOf f.infinity) * d := by
  have heven : f.infinity % 2 = 0 := by
    obtain ⟨p, hp⟩ := Nat.exists_eq_succ_of_ne_zero (Nat.ne_of_gt hp)
    rw [infinity, hp, Nat.pow_succ, ← Nat.mul_assoc, Nat.mul_mod_left]
  rw [← Nat.not_le, le_round_iff_of_even hp hd hinfinity heven (Nat.le_refl _), Nat.not_le]

end DeviceGateway.BinaryFormat
