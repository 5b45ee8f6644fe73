import DeviceGateway.Proofs.Decimal.Coincidence
import DeviceGateway.Proofs.Decimal.Shortest

/-! Shortest decimals near the middles. The decimal of a value is the better of two points of a
grid. It comes near a middle between the value and a neighbour only if the other point is no better,
so that the steps of the grid are about as wide as the values are apart. -/

namespace DeviceGateway

open Coincidence (Near)

variable {f : BinaryFormat}

/-! ### The point that is taken -/

namespace Binary

/-- The point below the value is taken if the one above does not read back, or is farther away, and
the point above in the other cases. -/
theorem nearestOnGrid_upper {m j c : Nat} (h : nearestOnGrid f .upper m j = some c) :
    let value := f.unitsOf m * 5 ^ f.scale
    (c * 10 ^ j ≤ value ∧ value < (c + 1) * 10 ^ j ∧
      (readsBack f m (c + 1) j = false ∨ 2 * value < (2 * c + 1) * 10 ^ j)) ∨
    ∃ b, c = b + 1 ∧ b * 10 ^ j ≤ value ∧ value < c * 10 ^ j ∧
      (readsBack f m b j = false ∨ (2 * b + 1) * 10 ^ j ≤ 2 * value) := by
  unfold nearestOnGrid at h
  simp only at h
  generalize f.unitsOf m * 5 ^ f.scale = value at h ⊢
  have hpos : 0 < 10 ^ j := Nat.pow_pos (by decide)
  have hsplit : value = value / 10 ^ j * 10 ^ j + value % 10 ^ j := (Nat.div_add_mod' _ _).symm
  have hmod := Nat.mod_lt value hpos
  have hmiddle : (2 * (value / 10 ^ j) + 1) * 10 ^ j = 2 * (value / 10 ^ j * 10 ^ j) + 10 ^ j := by
    ring
  have hlow : value / 10 ^ j * 10 ^ j ≤ value := by omega
  have hhigh : value < (value / 10 ^ j + 1) * 10 ^ j := by
    rw [Nat.add_mul, Nat.one_mul]
    omega
  split at h
  · cases h
  · next _ habove =>
    cases h
    exact .inl ⟨hlow, hhigh, .inl habove⟩
  · next hbelow _ =>
    cases h
    exact .inr ⟨_, rfl, hlow, hhigh, .inl hbelow⟩
  · split at h <;> cases h
    · next hnearer =>
      refine .inl ⟨hlow, hhigh, .inr ?_⟩
      rcases hnearer with hlt | ⟨-, htie, -⟩
      · rw [hmiddle]
        omega
      · cases htie
    · next hfarther =>
      refine .inr ⟨_, rfl, hlow, hhigh, .inr ?_⟩
      rw [hmiddle]
      omega

/-- The decimal is a point that is taken on some grid, or the value itself. The induction is on
the grids that are left. -/
theorem firstGrid_cases (tie : Tie) (m j : Nat) :
    (∃ i c, nearestOnGrid f tie m i = some c ∧
      firstGrid f tie m j = ⟨c, (i : Int) - f.scale⟩) ∨
    firstGrid f tie m j = ⟨f.unitsOf m * 5 ^ f.scale, ((0 : Nat) : Int) - f.scale⟩ := by
  induction j with
  | zero => exact .inr (by simp [firstGrid])
  | succ j ih =>
    unfold firstGrid
    split
    · next c hc => exact .inl ⟨j + 1, c, hc, rfl⟩
    · exact ih

theorem readsBack_of_odd {m c j : Nat} (hodd : m % 2 = 1) : readsBack f m c j = true ↔
    (f.unitsOf (m - 1) + f.unitsOf m) * 5 ^ f.scale < 2 * (c * 10 ^ j) ∧
      2 * (c * 10 ^ j) < (f.unitsOf m + f.unitsOf (m + 1)) * 5 ^ f.scale := by
  simp only [readsBack, hodd, Nat.one_ne_zero, if_false, Bool.and_eq_true, decide_eq_true_eq]

end Binary

/-! ### Odd magnitudes -/

namespace BinaryFormat

/-- The neighbours of the magnitude are as far below it as above. -/
structure Centered (f : BinaryFormat) (m s q : Nat) : Prop where
  parts : m = s * 2 ^ f.fractionBits + q
  bound : q < 2 * 2 ^ f.fractionBits
  least : s = 0 ∨ 2 ^ f.fractionBits ≤ q
  below : f.unitsOf (m - 1) + 2 ^ s = q * 2 ^ s
  self : f.unitsOf m = q * 2 ^ s
  above : f.unitsOf (m + 1) = q * 2 ^ s + 2 ^ s

theorem exists_centered (hp : 0 < f.fractionBits) {m : Nat} (hodd : m % 2 = 1) :
    ∃ s q, q % 2 = 1 ∧ f.Centered m s q := by
  obtain ⟨s, q, rfl, hq, hs⟩ := f.exists_parts m
  obtain ⟨p, hp⟩ := Nat.exists_eq_succ_of_ne_zero hp.ne'
  have heven : 2 ^ f.fractionBits = 2 * 2 ^ p := by rw [hp, Nat.pow_succ, Nat.mul_comm]
  have hproduct : s * 2 ^ f.fractionBits = 2 * (s * 2 ^ p) := by
    rw [heven]
    ring
  have hq1 : q % 2 = 1 := by omega
  have hpos : s * 2 ^ f.fractionBits + q - 1 = s * 2 ^ f.fractionBits + (q - 1) := by omega
  refine ⟨s, q, hq1, rfl, hq, hs, ?_, f.unitsOf_parts hq.le hs, ?_⟩
  · have hfactor : q * 2 ^ s = (q - 1) * 2 ^ s + 2 ^ s := by
      rw [← Nat.succ_mul, Nat.succ_eq_add_one, Nat.sub_add_cancel (by omega)]
    rw [hpos, f.unitsOf_parts (by omega) (by omega), hfactor]
  · rw [Nat.add_assoc, f.unitsOf_parts (by omega) (by omega), Nat.succ_mul]

theorem Centered.middle_below {m s q k : Nat} (h : f.Centered m s q) (hk : k + 1 = 2 * q) :
    k * 2 ^ s = f.unitsOf (m - 1) + f.unitsOf m := by
  have hbelow := h.below
  have hproduct := congrArg (· * 2 ^ s) hk
  simp only [Nat.add_mul, Nat.one_mul, Nat.mul_assoc 2] at hproduct
  rw [h.self]
  omega

theorem Centered.middle_above {m s q k : Nat} (h : f.Centered m s q) (hk : k = 2 * q + 1) :
    k * 2 ^ s = f.unitsOf m + f.unitsOf (m + 1) := by
  rw [h.self, h.above, hk]
  ring

/-- A point that comes near a middle is taken only on a grid whose steps are about as wide as the
values are apart. -/
theorem Centered.coarse {m s q : Nat} (h : f.Centered m s q) (hodd : m % 2 = 1) {j c k : Nat}
    (hgrid : Binary.nearestOnGrid f .upper m j = some c) (hk : k + 1 = 2 * q ∨ k = 2 * q + 1)
    (hnear : Near (2 * 10 ^ j) (2 ^ s * 5 ^ f.scale) c k) :
    7 * (2 ^ s * 5 ^ f.scale) ≤ 4 * (2 * 10 ^ j) := by
  have hreads : ∀ i, Binary.readsBack f m i j = false →
      2 * (i * 10 ^ j) + 2 ^ s * 5 ^ f.scale ≤ 2 * (f.unitsOf m * 5 ^ f.scale) ∨
        2 * (f.unitsOf m * 5 ^ f.scale) + 2 ^ s * 5 ^ f.scale ≤ 2 * (i * 10 ^ j) := by
    intro i hi
    have hbelow := congrArg (· * 5 ^ f.scale) h.below
    have habove := congrArg (· * 5 ^ f.scale) h.above
    simp only [Nat.add_mul] at hbelow habove
    rw [← Bool.not_eq_true, Binary.readsBack_of_odd hodd, Nat.add_mul, Nat.add_mul] at hi
    rw [h.self] at hi ⊢
    omega
  have hmiddle : k * (2 ^ s * 5 ^ f.scale) + 2 ^ s * 5 ^ f.scale =
        2 * (f.unitsOf m * 5 ^ f.scale) ∨
      k * (2 ^ s * 5 ^ f.scale) =
        2 * (f.unitsOf m * 5 ^ f.scale) + 2 ^ s * 5 ^ f.scale := by
    rw [h.self]
    rcases hk with hk | rfl
    · left
      rw [← Nat.succ_mul, Nat.succ_eq_add_one, hk]
      ring
    · right
      ring
  obtain ⟨hle, hge⟩ := hnear
  have hpoint : c * (2 * 10 ^ j) = 2 * (c * 10 ^ j) := by ring
  have hcases := Binary.nearestOnGrid_upper hgrid
  simp only at hcases
  rw [hpoint] at hle hge
  generalize f.unitsOf m * 5 ^ f.scale = v at *
  generalize 2 ^ s * 5 ^ f.scale = b at *
  generalize k * b = l at *
  generalize 10 ^ j = a at *
  rcases hcases with ⟨hlow, hhigh, hother⟩ | ⟨i, rfl, hlow, hhigh, hother⟩
  · have habove : (c + 1) * a = c * a + a := Nat.succ_mul c a
    have hbetween : (2 * c + 1) * a = 2 * (c * a) + a := by ring
    have hnext := hother.imp_left (hreads (c + 1))
    rw [habove, hbetween] at hnext
    rw [habove] at hhigh
    generalize c * a = t at *
    omega
  · have habove : (i + 1) * a = i * a + a := Nat.succ_mul i a
    have hbetween : (2 * i + 1) * a = 2 * (i * a) + a := by ring
    have hnext := hother.imp_left (hreads i)
    rw [hbetween] at hnext
    rw [habove] at hhigh hle hge
    generalize i * a = t at *
    omega

end BinaryFormat

end DeviceGateway
