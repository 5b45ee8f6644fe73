import DeviceGateway.Decimal.Numeral
import DeviceGateway.Decimal.Text
import Mathlib.Data.List.TakeWhile

/-! Digits and what they stand for: of numbers, of numbers with leading zeros, and of those
without their trailing ones. -/

namespace DeviceGateway

namespace Numeral

theorem value_append (ds es : List Char) :
    value (ds ++ es) = value ds * 10 ^ es.length + value es := by
  unfold value
  rw [Nat.ofDigitChars_append, Nat.ofDigitChars_eq_ofDigitChars_zero, Nat.mul_comm]

theorem value_digits (n : Nat) : value (digits n) = n := Nat.ofDigitChars_ten_toDigits

theorem value_zeros (k : Nat) : value (List.replicate k '0') = 0 := by
  rw [value, Nat.ofDigitChars_replicate_zero, Nat.mul_zero]

theorem value_paddedDigits (k n : Nat) : value (paddedDigits k n) = n := by
  rw [paddedDigits, value_append, value_zeros, value_digits, Nat.zero_mul, Nat.zero_add]

end Numeral

theorem isDigit_of_mem_digits {n : Nat} {c : Char} (h : c ∈ digits n) : c.isDigit = true :=
  Nat.isDigit_of_mem_toDigits (by decide) (by decide) h

theorem isDigit_of_mem_paddedDigits {k n : Nat} {c : Char} (h : c ∈ paddedDigits k n) :
    c.isDigit = true := by
  rcases List.mem_append.1 h with h | h
  · rw [(List.mem_replicate.1 h).2]
    rfl
  · exact isDigit_of_mem_digits h

theorem length_paddedDigits {k n : Nat} (hk : 0 < k) (hn : n < 10 ^ k) :
    (paddedDigits k n).length = k := by
  have hfits : (digits n).length ≤ k := (Nat.length_toDigits_le_iff (by decide) hk).2 hn
  simp only [paddedDigits, List.length_append, List.length_replicate]
  omega

theorem toLower_of_isDigit {c : Char} (h : c.isDigit) : c.toLower = c := by
  have hbelow : ¬ (c.val ≥ 'A'.val ∧ c.val ≤ 'Z'.val) := by
    simp only [Char.isDigit, Bool.and_eq_true, decide_eq_true_eq] at h
    rintro ⟨hA, -⟩
    exact absurd (UInt32.le_trans hA h.2) (by decide)
  exact dif_neg hbelow

/-- What is dropped is zeros. -/
theorem dropTrailingZeros_append (ds : List Char) :
    ∃ k, dropTrailingZeros ds ++ List.replicate k '0' = ds := by
  have hzeros : ∀ c ∈ (ds.reverse.takeWhile (· == '0')).reverse, c = '0' := by
    intro c hc
    simpa using List.mem_takeWhile_imp (List.mem_reverse.1 hc)
  refine ⟨(ds.reverse.takeWhile (· == '0')).reverse.length, ?_⟩
  rw [← List.eq_replicate_of_mem hzeros, dropTrailingZeros, ← List.reverse_append,
    List.takeWhile_append_dropWhile, List.reverse_reverse]

end DeviceGateway
