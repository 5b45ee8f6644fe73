import DeviceGateway.Proofs.Decimal.Numeral
import DeviceGateway.Proofs.Except

/-! Integers in text. Digits are taken in from the left, and the range is watched after each of
them. Of an integer in the range no part of its digits is out of it, so what is read is exactly
the literals of the integers in the range. -/

namespace DeviceGateway

open Binary (withSign)

variable {low high : Int} {negative : Bool} {cs ds : List Char} {m n : Nat}

/-! ### Digits -/

/-- With the sign, the number does not pass the end of the range on its side of zero. -/
def Bounded (low high : Int) (negative : Bool) (n : Nat) : Prop :=
  if negative then low ≤ -(n : Int) else (n : Int) ≤ high

theorem Bounded.of_le (h : Bounded low high negative m) (hle : n ≤ m) :
    Bounded low high negative n := by
  cases negative with
  | true =>
    have hlow : low ≤ -(m : Int) := h
    show low ≤ -(n : Int)
    omega
  | false =>
    have hhigh : (m : Int) ≤ high := h
    show (n : Int) ≤ high
    omega

/-- The bounds on both sides are kept, for zero is in the range. -/
theorem bounded_iff (hlow : low ≤ 0) (hhigh : 0 ≤ high) : Bounded low high negative n ↔
    low ≤ withSign negative n ∧ withSign negative n ≤ high := by
  cases negative with
  | true =>
    show low ≤ -(n : Int) ↔ low ≤ -(n : Int) ∧ -(n : Int) ≤ high
    omega
  | false =>
    show (n : Int) ≤ high ↔ low ≤ (n : Int) ∧ (n : Int) ≤ high
    omega

theorem le_ofDigitChars (n : Nat) (ds : List Char) : n ≤ Nat.ofDigitChars 10 ds n := by
  rw [Nat.ofDigitChars_eq_ofDigitChars_zero]
  exact Nat.le_trans (Nat.le_mul_of_pos_left n (Nat.pow_pos (by decide))) (Nat.le_add_right ..)

theorem accumulate_cons_eq_ok {c : Char} {r : List Char} :
    integerOfText.accumulate low high negative n (c :: r) = .ok m ↔
      c.isDigit ∧ Bounded low high negative (10 * n + (c.toNat - '0'.toNat)) ∧
        integerOfText.accumulate low high negative (10 * n + (c.toNat - '0'.toNat)) r = .ok m := by
  unfold Bounded
  by_cases hc : c.isDigit
  · by_cases hnext : if negative then low ≤ -((10 * n + (c.toNat - '0'.toNat) : Nat) : Int)
        else ((10 * n + (c.toNat - '0'.toNat) : Nat) : Int) ≤ high
    · simp only [integerOfText.accumulate, hc, hnext, Bool.not_true, Bool.false_eq_true, if_false,
        if_true, true_and]
    · simp only [integerOfText.accumulate, hc, hnext, Bool.not_true, Bool.false_eq_true, if_false,
        false_and, and_false, reduceCtorEq]
  · simp [integerOfText.accumulate, hc]

/-- Digits are taken in if the number that they make is in the range, and nothing else is. -/
theorem accumulate_eq_ok_iff (hn : Bounded low high negative n) :
    integerOfText.accumulate low high negative n ds = .ok m ↔
      (∀ c ∈ ds, c.isDigit) ∧ Nat.ofDigitChars 10 ds n = m ∧ Bounded low high negative m := by
  induction ds generalizing n with
  | nil =>
    have hnil : integerOfText.accumulate low high negative n [] = .ok n := rfl
    rw [hnil, Except.ok.injEq, Nat.ofDigitChars_nil]
    constructor
    · rintro rfl
      exact ⟨by simp, rfl, hn⟩
    · exact fun h => h.2.1
  | cons c r ih =>
    rw [accumulate_cons_eq_ok, Nat.ofDigitChars_cons, List.forall_mem_cons]
    constructor
    · rintro ⟨hc, hnext, h⟩
      obtain ⟨hr, hm⟩ := (ih hnext).1 h
      exact ⟨⟨hc, hr⟩, hm⟩
    · rintro ⟨⟨hc, hr⟩, hm, hbounded⟩
      have hnext := hbounded.of_le (hm ▸ le_ofDigitChars _ r)
      exact ⟨hc, hnext, (ih hnext).2 ⟨hr, hm, hbounded⟩⟩

/-! ### Integers -/

variable {i : Int}

/-- What is read is what the digits behind a sign make, and a minus is a sign only where there are
negative numbers in the range. -/
theorem exists_of_integerOfText (h : integerOfText low high cs = .ok i) :
    ∃ sign negative ds m, IsSign sign negative ∧ (negative → low < 0) ∧ ds ≠ [] ∧
      cs = sign ++ ds ∧ integerOfText.accumulate low high negative 0 ds = .ok m ∧
      i = withSign negative m := by
  unfold integerOfText at h
  split at h
  next negative ds hsplit =>
  split at h
  · cases h
  · split at h
    · cases h
    · next hds =>
      have hsome : ds ≠ [] := by simpa using hds
      obtain ⟨m, hread, rfl⟩ : ∃ m, integerOfText.accumulate low high negative 0 ds = .ok m ∧
          i = withSign negative m := by
        cases hread : integerOfText.accumulate low high negative 0 ds with
        | error e =>
          rw [hread] at h
          cases h
        | ok m =>
          rw [hread] at h
          cases h
          exact ⟨m, rfl, rfl⟩
      split at hsplit
      · cases hsplit
        exact ⟨['+'], false, _, m, .inr rfl, by simp, hsome, rfl, hread, rfl⟩
      · split at hsplit
        · next hnegative =>
          cases hsplit
          exact ⟨['-'], true, _, m, rfl, fun _ => hnegative, hsome, rfl, hread, rfl⟩
        · cases hsplit
          exact ⟨[], false, _, m, .inl rfl, by simp, hsome, rfl, hread, rfl⟩
      · cases hsplit
        exact ⟨[], false, _, m, .inl rfl, by simp, hsome, rfl, hread, rfl⟩

/-- The digits behind a sign are taken in, behind a minus if there are negative numbers in the
range. -/
theorem integerOfText_append {sign : List Char} (hsign : IsSign sign negative)
    (hallowed : negative → low < 0) {c : Char} (hc : c.isDigit) (r : List Char) :
    integerOfText low high (sign ++ c :: r) =
      (integerOfText.accumulate low high negative 0 (c :: r)).map (withSign negative ·) := by
  have hplus : c ≠ '+' := by rintro rfl; exact absurd hc (by decide)
  have hminus : c ≠ '-' := by rintro rfl; exact absurd hc (by decide)
  cases negative with
  | true =>
    obtain rfl : sign = ['-'] := hsign
    have hlow : low < 0 := hallowed rfl
    simp only [integerOfText, List.cons_append, List.nil_append, if_pos hlow, List.isEmpty_cons]
    cases integerOfText.accumulate low high true 0 (c :: r) <;> rfl
  | false =>
    obtain rfl | rfl : sign = [] ∨ sign = ['+'] := hsign
    · simp [integerOfText, hplus, hminus]
      cases integerOfText.accumulate low high false 0 (c :: r) <;> rfl
    · simp only [integerOfText, List.cons_append, List.nil_append, List.isEmpty_cons]
      cases integerOfText.accumulate low high false 0 (c :: r) <;> rfl

/-- Exactly the literals of integers in the range are read, those with a minus only where there
are negative numbers in the range. -/
theorem integerOfText_eq_ok_iff (hlow : low ≤ 0) (hhigh : 0 ≤ high) :
    integerOfText low high cs = .ok i ↔
      IsLiteral cs i ∧ ('-' ∈ cs → low < 0) ∧ low ≤ i ∧ i ≤ high := by
  have hzero : ∀ negative, Bounded low high negative 0 := fun negative =>
    (bounded_iff hlow hhigh).2 (by cases negative <;> exact ⟨hlow, hhigh⟩)
  constructor
  · intro h
    obtain ⟨sign, negative, ds, m, hsign, hallowed, hds, rfl, hread, rfl⟩ :=
      exists_of_integerOfText h
    obtain ⟨hdigits, rfl, hbounded⟩ := (accumulate_eq_ok_iff (hzero negative)).1 hread
    refine ⟨⟨sign, negative, ds, hsign, hds, hdigits, rfl, rfl⟩, fun hminus => ?_,
      (bounded_iff hlow hhigh).1 hbounded⟩
    rcases List.mem_append.1 hminus with hminus | hminus
    · exact hallowed (hsign.eq_true_of_mem hminus)
    · exact absurd (hdigits _ hminus) (by decide)
  · rintro ⟨⟨sign, negative, ds, hsign, hds, hdigits, rfl, rfl⟩, hminus, hrange⟩
    obtain ⟨c, r, rfl⟩ := List.exists_cons_of_ne_nil hds
    have hallowed : negative → low < 0 := by
      rintro rfl
      obtain rfl : sign = ['-'] := hsign
      exact hminus (by simp)
    rw [integerOfText_append hsign hallowed (hdigits c List.mem_cons_self), map_eq_ok]
    exact ⟨_, (accumulate_eq_ok_iff (hzero negative)).2
      ⟨hdigits, rfl, (bounded_iff hlow hhigh).2 hrange⟩, rfl⟩

/-- An integer in the range is read off its own text. -/
theorem integerOfText_integerText (hlow : low ≤ 0) (hhigh : 0 ≤ high) (h : low ≤ i ∧ i ≤ high) :
    integerOfText low high (integerText i) = .ok i := by
  refine (integerOfText_eq_ok_iff hlow hhigh).2 ⟨isLiteral_integerText i, fun hminus => ?_, h⟩
  cases i with
  | ofNat n => exact absurd (isDigit_of_mem_digits (n := n) hminus) (by decide)
  | negSucc n => exact Int.lt_of_le_of_lt h.1 (Int.negSucc_lt_zero n)

end DeviceGateway
