import DeviceGateway.Binary.Format
import Mathlib.Tactic.Ring

/-! Rounding. A magnitude `s * 2 ^ p + q`, with `p` the stored bits of the fraction, stands for
`q * 2 ^ s` units, so neighbours that share `s` lie `2 ^ s` apart. A quotient between two
neighbours is rounded to the nearer one, or to the even one from the middle. -/

namespace DeviceGateway.BinaryFormat

variable (f : BinaryFormat)

/-! ### Magnitudes and units -/

/-- The magnitude of `q * 2 ^ s` units; a `q` that fills the next exponent counts as well. -/
theorem unitsOf_parts {s q : Nat} (hq : q ≤ 2 * 2 ^ f.fractionBits)
    (hs : s = 0 ∨ 2 ^ f.fractionBits ≤ q) :
    f.unitsOf (s * 2 ^ f.fractionBits + q) = q * 2 ^ s := by
  have hpos : 0 < 2 ^ f.fractionBits := Nat.two_pow_pos _
  unfold unitsOf
  generalize 2 ^ f.fractionBits = P at *
  simp only [Nat.add_comm (s * P), Nat.add_mul_div_right _ _ hpos]
  rcases Nat.lt_or_ge q P with hsmall | hlarge
  · obtain rfl : s = 0 := by omega
    simp [Nat.div_eq_of_lt hsmall]
  · rcases Nat.lt_or_ge q (2 * P) with hlt | hge
    · have hdiv : q / P = 1 := Nat.div_eq_of_lt_le (by omega) (by omega)
      have hmod : P + q % P = q := by
        have hq := Nat.div_add_mod q P
        rw [hdiv] at hq
        omega
      simp [hdiv, hmod]
    · obtain rfl : q = 2 * P := by omega
      have hdiv : 2 * P / P = 2 := Nat.mul_div_cancel _ hpos
      have hexponent : 2 + s - 1 = s + 1 := by omega
      simp [hdiv, hexponent, Nat.pow_succ]
      ring

/-- Every magnitude has a part `s` and a part `q`. -/
theorem exists_parts (m : Nat) : ∃ s q, m = s * 2 ^ f.fractionBits + q ∧
    q < 2 * 2 ^ f.fractionBits ∧ (s = 0 ∨ 2 ^ f.fractionBits ≤ q) := by
  have hpos : 0 < 2 ^ f.fractionBits := Nat.two_pow_pos _
  generalize 2 ^ f.fractionBits = P at *
  have hm := Nat.div_add_mod m P
  have hr := Nat.mod_lt m hpos
  cases he : m / P with
  | zero =>
    rw [he] at hm
    exact ⟨0, m, by omega, by omega, .inl rfl⟩
  | succ s =>
    rw [he, Nat.mul_comm, Nat.add_mul] at hm
    exact ⟨s, P + m % P, by omega, by omega, .inr (by omega)⟩

theorem unitsOf_lt_succ (m : Nat) : f.unitsOf m < f.unitsOf (m + 1) := by
  obtain ⟨s, q, rfl, hq, hs⟩ := f.exists_parts m
  rw [Nat.add_assoc, f.unitsOf_parts (by omega) hs, f.unitsOf_parts (by omega) (by omega)]
  exact Nat.mul_lt_mul_of_pos_right (Nat.lt_succ_self q) (Nat.two_pow_pos s)

theorem unitsOf_strictMono : StrictMono f.unitsOf := strictMono_nat_of_lt_succ f.unitsOf_lt_succ

/-! ### Quotients between neighbours -/

theorem nearestEven_between {n d q : Nat} (hlow : q * d ≤ n) (hhigh : n < (q + 1) * d) :
    nearestEven n d =
      if 2 * n < (q + (q + 1)) * d then q
      else if (q + (q + 1)) * d < 2 * n then q + 1
      else q + q % 2 := by
  have hq : n / d = q := Nat.div_eq_of_lt_le hlow hhigh
  have hr := Nat.div_add_mod' n d
  rw [hq] at hr
  have hmiddle : (q + (q + 1)) * d = 2 * (q * d) + d := by ring
  have hbelow : 2 * (n % d) < d ↔ 2 * n < (q + (q + 1)) * d := by omega
  have habove : d < 2 * (n % d) ↔ (q + (q + 1)) * d < 2 * n := by omega
  simp only [nearestEven, hq, hbelow, habove]

/-- A number between neighbours has the exponent that they share. -/
theorem log2_sub_fractionBits {s q x : Nat} (hq : q < 2 * 2 ^ f.fractionBits)
    (hs : s = 0 ∨ 2 ^ f.fractionBits ≤ q) (hlow : q * 2 ^ s ≤ x) (hhigh : x < (q + 1) * 2 ^ s) :
    x.log2 - f.fractionBits = s := by
  have htop : x < 2 ^ (f.fractionBits + s + 1) := by
    calc x < (q + 1) * 2 ^ s := hhigh
      _ ≤ (2 * 2 ^ f.fractionBits) * 2 ^ s := Nat.mul_le_mul_right _ hq
      _ = 2 ^ (f.fractionBits + s + 1) := by rw [Nat.pow_succ, Nat.pow_add]; ring
  rcases Nat.eq_zero_or_pos x with rfl | hx
  · obtain rfl : s = 0 := by
      rcases hs with hs | hs
      · exact hs
      · have hpos := Nat.mul_pos (Nat.lt_of_lt_of_le (Nat.two_pow_pos _) hs) (Nat.two_pow_pos s)
        omega
    simp
  · have hupper := (Nat.log2_lt (Nat.ne_of_gt hx)).2 htop
    rcases hs with rfl | hs
    · omega
    · have hlower : f.fractionBits + s ≤ x.log2 := by
        rw [Nat.le_log2 (Nat.ne_of_gt hx), Nat.pow_add]
        exact Nat.le_trans (Nat.mul_le_mul_right _ hs) hlow
      omega

variable {f}

/-- A quotient is rounded to the nearer of the neighbours around it, from the middle to the
even one. -/
theorem round_between (hp : 0 < f.fractionBits) {n d k : Nat} (hlow : f.unitsOf k * d ≤ n)
    (hhigh : n < f.unitsOf (k + 1) * d) :
    f.round n d = min
      (if 2 * n < (f.unitsOf k + f.unitsOf (k + 1)) * d then k
        else if (f.unitsOf k + f.unitsOf (k + 1)) * d < 2 * n then k + 1
        else k + k % 2)
      f.infinity := by
  have hd : 0 < d := Nat.pos_of_ne_zero fun h => by simp [h] at hhigh
  obtain ⟨s, q, rfl, hq, hs⟩ := f.exists_parts k
  rw [Nat.add_assoc] at hhigh ⊢
  rw [f.unitsOf_parts (by omega) hs] at hlow ⊢
  rw [f.unitsOf_parts (by omega) (by omega)] at hhigh ⊢
  have hshift : (n / d).log2 - f.fractionBits = s :=
    f.log2_sub_fractionBits hq hs ((Nat.le_div_iff_mul_le hd).2 hlow)
      ((Nat.div_lt_iff_lt_mul hd).2 hhigh)
  have hmiddle : (q * 2 ^ s + (q + 1) * 2 ^ s) * d = (q + (q + 1)) * (d * 2 ^ s) := by ring
  have hnearest := nearestEven_between (n := n) (d := d * 2 ^ s) (q := q)
    (by rw [Nat.mul_comm d, ← Nat.mul_assoc]; exact hlow)
    (by rw [Nat.mul_comm d, ← Nat.mul_assoc]; exact hhigh)
  -- whole exponents are even
  have heven : (s * 2 ^ f.fractionBits + q) % 2 = q % 2 := by
    obtain ⟨p, hp⟩ := Nat.exists_eq_succ_of_ne_zero (Nat.ne_of_gt hp)
    rw [hp, Nat.pow_succ, ← Nat.mul_assoc]
    omega
  simp only [round, hshift, hmiddle, hnearest, heven]
  split
  · rfl
  · split
    · rfl
    · rw [Nat.add_assoc]

/-! ### Nearest magnitudes -/

variable (f) in
/-- The quotient lies between the middles to the neighbours of the magnitude. -/
structure Nearest (m n d : Nat) : Prop where
  low : (f.unitsOf (m - 1) + f.unitsOf m) * d ≤ 2 * n
  high : 2 * n ≤ (f.unitsOf m + f.unitsOf (m + 1)) * d
  /-- The middles themselves go to the even magnitude. -/
  odd : m % 2 = 1 → (f.unitsOf (m - 1) + f.unitsOf m) * d < 2 * n ∧
    2 * n < (f.unitsOf m + f.unitsOf (m + 1)) * d

theorem nearest_unitsOf {m : Nat} (hm : 0 < m) : f.Nearest m (f.unitsOf m) 1 := by
  have hbelow : f.unitsOf (m - 1) < f.unitsOf m := f.unitsOf_strictMono (by omega)
  have habove := f.unitsOf_lt_succ m
  exact ⟨by omega, by omega, fun _ => ⟨by omega, by omega⟩⟩

/-- It is the quotient that counts, and not how it is written. -/
theorem Nearest.of_eq {m n d n' d' : Nat} (h : f.Nearest m n d) (hd : 0 < d) (hd' : 0 < d')
    (heq : n * d' = n' * d) : f.Nearest m n' d' := by
  have hn : 2 * n * d' = 2 * n' * d := by rw [Nat.mul_assoc, heq, Nat.mul_assoc]
  have hle : ∀ a, a * d ≤ 2 * n ↔ a * d' ≤ 2 * n' := fun a =>
    calc a * d ≤ 2 * n ↔ a * d * d' ≤ 2 * n * d' := (Nat.mul_le_mul_right_iff hd').symm
      _ ↔ a * d' * d ≤ 2 * n' * d := by rw [hn, Nat.mul_right_comm a]
      _ ↔ a * d' ≤ 2 * n' := Nat.mul_le_mul_right_iff hd
  have hge : ∀ a, 2 * n ≤ a * d ↔ 2 * n' ≤ a * d' := fun a =>
    calc 2 * n ≤ a * d ↔ 2 * n * d' ≤ a * d * d' := (Nat.mul_le_mul_right_iff hd').symm
      _ ↔ 2 * n' * d ≤ a * d' * d := by rw [hn, Nat.mul_right_comm a]
      _ ↔ 2 * n' ≤ a * d' := Nat.mul_le_mul_right_iff hd
  refine ⟨(hle _).1 h.low, (hge _).1 h.high, fun hodd => ?_⟩
  simpa only [← Nat.not_le, hle, hge] using h.odd hodd

/-- A quotient is rounded to the magnitude that it is nearest to. -/
theorem round_of_nearest (hp : 0 < f.fractionBits) {m n d : Nat} (hd : 0 < d) (hm : 0 < m)
    (hfinite : m < f.infinity) (h : f.Nearest m n d) : f.round n d = m := by
  have hbelow : f.unitsOf (m - 1) * d < f.unitsOf m * d :=
    Nat.mul_lt_mul_of_pos_right (f.unitsOf_strictMono (by omega)) hd
  have habove : f.unitsOf m * d < f.unitsOf (m + 1) * d :=
    Nat.mul_lt_mul_of_pos_right (f.unitsOf_lt_succ m) hd
  have hlow := h.low
  have hhigh := h.high
  rw [Nat.add_mul] at hlow hhigh
  -- below the magnitude the quotient lies between its lower neighbour and it
  rcases Nat.lt_or_ge n (f.unitsOf m * d) with hn | hn
  · have hsucc : m - 1 + 1 = m := by omega
    rw [round_between hp (k := m - 1) (by omega) (by rw [hsucc]; exact hn), hsucc,
      if_neg (Nat.not_lt.2 h.low)]
    split
    · exact Nat.min_eq_left (Nat.le_of_lt hfinite)
    · next hmiddle =>
      have heven : m % 2 ≠ 1 := fun hodd => hmiddle (h.odd hodd).1
      omega
  · rw [round_between hp hn (by omega), if_neg (Nat.not_lt.2 h.high) (c := _ < 2 * n)]
    split
    · exact Nat.min_eq_left (Nat.le_of_lt hfinite)
    · next hmiddle =>
      have heven : m % 2 ≠ 1 := fun hodd => hmiddle (h.odd hodd).2
      omega

end DeviceGateway.BinaryFormat
