import DeviceGateway.Proofs.Binary.Integer
import DeviceGateway.Proofs.Decimal.Integer
import DeviceGateway.Proofs.Decimal.Plain

/-! Literals of integers, read as floating-point numbers. A literal is a sign that may be left out
and digits, any number of them zeros in front; the number that is read is the one that is nearest
to the integer, which is the integer itself if the format has it. -/

namespace DeviceGateway

open Binary (withSign Stands)

namespace IsLiteral

variable {cs : List Char} {n : Int} (h : IsLiteral cs n)

include h

theorem ne_nil : cs ≠ [] := by
  obtain ⟨sign, negative, ds, -, hds, -, rfl, -⟩ := h
  simp [hds]

/-- What a literal is read as has the sign that is written and the size of the integer. -/
theorem ofText_eq (f : BinaryFormat) : ∃ negative, n = withSign negative n.natAbs ∧
    Binary.ofText f cs = .ok (.ofParts negative (f.ofDecimal ⟨n.natAbs, 0⟩)) := by
  obtain ⟨sign, negative, ds, hsign, hds, hdigits, rfl, rfl⟩ := h
  refine ⟨negative, by rw [Binary.natAbs_withSign], ?_⟩
  have hnofraction : ∀ c ∈ ds ++ [], c.isDigit := by simpa using hdigits
  have hread := Binary.ofText_positional f hsign hds hnofraction
  simpa [positional, Decimal.ofPositional] using hread

end IsLiteral

/-! ### Rounding of integers -/

namespace BinaryFormat

variable {f : BinaryFormat}

theorem ofDecimal_integer {n k : Nat} (hk : k ≤ 400) (hn : n < 10 ^ k) :
    f.ofDecimal ⟨n, 0⟩ = f.round (n * 2 ^ f.scale) 1 := by
  rcases Nat.eq_zero_or_pos n with rfl | hpos
  · have hzero : f.round 0 1 = 0 := by simp [round, nearestEven]
    rw [Nat.zero_mul, hzero]
    rfl
  · have hnumerator : (⟨n, 0⟩ : Decimal).numerator = n := by simp [Decimal.numerator]
    have hdenominator : (⟨n, 0⟩ : Decimal).denominator = 1 := by simp [Decimal.denominator]
    have hlow : -((0 : Nat) : Int) ≤ (⟨n, 0⟩ : Decimal).top := by
      apply Decimal.le_top
      rw [hnumerator, hdenominator]
      omega
    have hhigh : (⟨n, 0⟩ : Decimal).top ≤ k := by
      apply Decimal.top_le hpos.ne'
      rwa [hnumerator, hdenominator, Nat.mul_one]
    have hround := ofDecimal_eq_round (f := f) (d := ⟨n, 0⟩) hpos.ne' (by omega) (by omega)
    rwa [hnumerator, hdenominator] at hround

end BinaryFormat

/-- An integer is read off its text as the number nearest to it. -/
theorem ofText_integerText (f : BinaryFormat) {n : Int} {k : Nat} (hk : k ≤ 400)
    (hn : n.natAbs < 10 ^ k) :
    Binary.ofText f (integerText n) = .ok (.ofInt n) := by
  obtain ⟨sign, hsign, heq⟩ := integerText_eq n
  have hdigits : ∀ c ∈ digits n.natAbs ++ [], c.isDigit := by
    intro c hc
    rw [List.append_nil] at hc
    exact isDigit_of_mem_digits hc
  have hread := Binary.ofText_positional f hsign Nat.toDigits_ne_nil hdigits
  rw [positional, if_pos List.isEmpty_nil, ← heq] at hread
  rw [hread, Binary.ofInt, Decimal.ofPositional, List.append_nil, Numeral.value_digits]
  exact congrArg (fun m => Except.ok (Binary.ofParts _ m))
    (BinaryFormat.ofDecimal_integer hk hn)

/-- A literal of an integer that the format has is read as that integer. -/
theorem IsLiteral.exists_stands {f : BinaryFormat} (hf : f.HasIntegers) {cs : List Char} {n : Int}
    {k : Nat} (hk : k ≤ 400) (hsmall : f.exactIntegers < 10 ^ k) (h : IsLiteral cs n)
    (hn : n.natAbs ≤ f.exactIntegers) :
    ∃ x : Binary f, Binary.ofText f cs = .ok x ∧ Stands x n := by
  obtain ⟨negative, hsign, hread⟩ := h.ofText_eq f
  refine ⟨_, hread, ?_⟩
  have hround := Binary.stands_round hf negative hn Nat.one_pos
  rw [BinaryFormat.ofDecimal_integer hk (Nat.lt_of_le_of_lt hn hsmall)]
  rwa [← hsign, Nat.mul_one] at hround

/-- A literal of an integer of any size is read as the number nearest to it; only of zero a sign is
kept. -/
theorem IsLiteral.ofText_ofInt {f : BinaryFormat} (hf : f.WithinPowers 400) {cs : List Char}
    {n : Int} (h : IsLiteral cs n) (hn : n ≠ 0) : Binary.ofText f cs = .ok (.ofInt n) := by
  obtain ⟨negative, hsign, hread⟩ := h.ofText_eq f
  have hnegative : negative = decide (n < 0) := by
    cases negative with
    | true =>
      rw [withSign, if_pos rfl] at hsign
      exact (decide_eq_true (by omega)).symm
    | false =>
      rw [withSign, if_neg Bool.false_ne_true] at hsign
      exact (decide_eq_false (by omega)).symm
  have hround := BinaryFormat.ofDecimal_eq hf ⟨n.natAbs, 0⟩
  simp only [Decimal.numerator, Decimal.denominator, Int.toNat_zero, neg_zero, Nat.pow_zero,
    Nat.mul_one] at hround
  rw [hread, hround, hnegative, Binary.ofInt]

end DeviceGateway
