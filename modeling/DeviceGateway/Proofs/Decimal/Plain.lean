import DeviceGateway.Proofs.Decimal.Numeral
import DeviceGateway.Proofs.Decimal.Shortest

/-! Plain text of decimals. A decimal is written as digits with at most one point among them, and
that text is read as a decimal of the same value. So the text of a floating-point number that is
no NaN is read as that number, sign and all. -/

namespace DeviceGateway

/-! ### Positional text -/

/-- Digits, with a point and more digits behind if there are any. -/
def positional (whole fraction : List Char) : List Char :=
  if fraction.isEmpty then whole else whole ++ '.' :: fraction

/-- The decimal that it stands for. -/
def Decimal.ofPositional (whole fraction : List Char) : Decimal :=
  ⟨Numeral.value (whole ++ fraction), -fraction.length⟩

/-- Of so many digits of a number the trailing zeros count for nothing. -/
theorem value_dropTrailingZeros {k n : Nat} (hk : 0 < k) (hn : n < 10 ^ k) (whole : List Char) :
    let fraction := dropTrailingZeros (paddedDigits k n)
    Numeral.value (whole ++ fraction) * 10 ^ k =
      (Numeral.value whole * 10 ^ k + n) * 10 ^ fraction.length := by
  intro fraction
  obtain ⟨z, hz⟩ := dropTrailingZeros_append (paddedDigits k n)
  have hlength : k = fraction.length + z := by
    have hpadded := congrArg List.length hz
    rw [List.length_append, List.length_replicate, length_paddedDigits hk hn] at hpadded
    exact hpadded.symm
  have hvalue : Numeral.value (whole ++ fraction) * 10 ^ z = Numeral.value whole * 10 ^ k + n := by
    calc Numeral.value (whole ++ fraction) * 10 ^ z
        = Numeral.value (whole ++ fraction ++ List.replicate z '0') := by
          rw [Numeral.value_append _ (List.replicate z '0'), Numeral.value_zeros,
            List.length_replicate, Nat.add_zero]
      _ = Numeral.value (whole ++ paddedDigits k n) := by rw [List.append_assoc, hz]
      _ = Numeral.value whole * 10 ^ k + n := by
          rw [Numeral.value_append, length_paddedDigits hk hn, Numeral.value_paddedDigits]
  calc Numeral.value (whole ++ fraction) * 10 ^ k
      = Numeral.value (whole ++ fraction) * 10 ^ (fraction.length + z) := by rw [← hlength]
    _ = Numeral.value (whole ++ fraction) * 10 ^ z * 10 ^ fraction.length := by
        rw [Nat.pow_add]
        ac_rfl
    _ = _ := by rw [hvalue]

/-- A decimal is written in digits that stand for its value. -/
theorem Decimal.exists_positional (d : Decimal) : ∃ whole fraction,
    d.plain = positional whole fraction ∧ whole ≠ [] ∧ (∀ c ∈ whole ++ fraction, c.isDigit) ∧
      d.SameValue (.ofPositional whole fraction) := by
  obtain ⟨c, e⟩ := d
  cases e with
  | ofNat k =>
    refine ⟨digits (c * 10 ^ k), [], rfl, Nat.toDigits_ne_nil, fun c hc => ?_, ?_⟩
    · rw [List.append_nil] at hc
      exact isDigit_of_mem_digits hc
    · simp [SameValue, numerator, denominator, ofPositional, Numeral.value_digits]
  | negSucc k =>
    let fraction := dropTrailingZeros (paddedDigits (k + 1) (c % 10 ^ (k + 1)))
    refine ⟨digits (c / 10 ^ (k + 1)), fraction, rfl, Nat.toDigits_ne_nil, fun a ha => ?_, ?_⟩
    · rcases List.mem_append.1 ha with ha | ha
      · exact isDigit_of_mem_digits ha
      · obtain ⟨z, hz⟩ := dropTrailingZeros_append (paddedDigits (k + 1) (c % 10 ^ (k + 1)))
        refine isDigit_of_mem_paddedDigits (k := k + 1) (n := c % 10 ^ (k + 1)) ?_
        rw [← hz]
        exact List.mem_append_left _ ha
    · have hvalue := value_dropTrailingZeros (Nat.succ_pos k)
        (Nat.mod_lt c (Nat.pow_pos (n := k + 1) (by decide))) (digits (c / 10 ^ (k + 1)))
      rw [Numeral.value_digits, Nat.div_add_mod'] at hvalue
      simpa [SameValue, numerator, denominator, ofPositional, Int.neg_negSucc] using hvalue.symm

/-! ### Reading positional text -/

/-- A sign and positional digits are a numeral without an exponent. -/
theorem isNumeral_positional {sign whole fraction : List Char} {negative : Bool}
    (hsign : IsSign sign negative) (hwhole : whole ≠ [])
    (hdigits : ∀ c ∈ whole ++ fraction, c.isDigit) :
    IsNumeral (sign ++ positional whole fraction) negative (.ofPositional whole fraction) := by
  have hvalue : Decimal.ofPositional whole fraction =
      ⟨Numeral.value (whole ++ fraction), 0 - fraction.length⟩ := by
    rw [Decimal.ofPositional, Int.zero_sub]
  have hsome : whole ++ fraction ≠ [] := by simp [hwhole]
  cases fraction with
  | nil =>
    exact ⟨sign, whole, [], [], [], 0, hsign, hsome, hdigits, .inl ⟨rfl, rfl⟩, .inl ⟨rfl, rfl⟩,
      by simp [positional], hvalue⟩
  | cons c r =>
    exact ⟨sign, whole, ['.'], c :: r, [], 0, hsign, hsome, hdigits, .inr rfl, .inl ⟨rfl, rfl⟩,
      by simp [positional], hvalue⟩

/-- A sign and positional digits are read as the decimal that they stand for. -/
theorem Binary.ofText_positional (f : BinaryFormat) {sign whole fraction : List Char}
    {negative : Bool} (hsign : IsSign sign negative) (hwhole : whole ≠ [])
    (hdigits : ∀ c ∈ whole ++ fraction, c.isDigit) :
    ofText f (sign ++ positional whole fraction) =
      .ok (ofParts negative (f.ofDecimal (.ofPositional whole fraction))) :=
  (isNumeral_positional hsign hwhole hdigits).ofText_eq f

/-! ### Text of floating-point numbers -/

/-- An optional minus, digits, and perhaps a point and more digits. -/
def PlainDecimal (cs : List Char) : Prop :=
  ∃ sign whole fraction, (sign = [] ∨ sign = ['-']) ∧ whole ≠ [] ∧
    (∀ c ∈ whole ++ fraction, c.isDigit) ∧ cs = sign ++ positional whole fraction

namespace Binary

variable {f : BinaryFormat}

theorem isSign_sign (x : Binary f) : IsSign x.sign x.isNegative := by
  unfold sign IsSign
  cases x.isNegative with
  | true => rfl
  | false => exact .inl rfl

/-- The text of a finite number other than zero is its sign and the digits of its shortest
decimal. -/
theorem text_of_shortest {x : Binary f} (hx : x.isFinite) (hzero : x.isZero = false) :
    ∃ whole fraction, x.text = x.sign ++ positional whole fraction ∧ whole ≠ [] ∧
      (∀ c ∈ whole ++ fraction, c.isDigit) ∧
      (x.shortest .upper).SameValue (.ofPositional whole fraction) := by
  have hfinite : x.magnitude < f.infinity := of_decide_eq_true hx
  have hnumber : x.isNaN = false := decide_eq_false (by omega)
  have hbounded : x.isInfinite = false := decide_eq_false (by omega)
  obtain ⟨whole, fraction, hplain, hwhole, hdigits, hvalue⟩ :=
    (x.shortest .upper).exists_positional
  exact ⟨whole, fraction, by simp [text, hnumber, hbounded, hzero, hplain], hwhole, hdigits, hvalue⟩

/-- The text of a finite number is its sign and the digits of a decimal that reads back. -/
theorem text_of_isFinite (hf : f.WithinPowers 400) {x : Binary f} (hx : x.isFinite) :
    ∃ whole fraction, x.text = x.sign ++ positional whole fraction ∧ whole ≠ [] ∧
      (∀ c ∈ whole ++ fraction, c.isDigit) ∧
      f.ofDecimal (.ofPositional whole fraction) = x.magnitude := by
  have hfinite : x.magnitude < f.infinity := of_decide_eq_true hx
  cases hzero : x.isZero with
  | true =>
    have hnumber : x.isNaN = false := decide_eq_false (by omega)
    have hbounded : x.isInfinite = false := decide_eq_false (by omega)
    refine ⟨['0'], [], by simp [text, hnumber, hbounded, hzero, positional], by simp, by simp, ?_⟩
    have hmagnitude : x.magnitude = 0 := of_decide_eq_true hzero
    rw [hmagnitude]
    rfl
  | false =>
    obtain ⟨whole, fraction, htext, hwhole, hdigits, hvalue⟩ := text_of_shortest hx hzero
    refine ⟨whole, fraction, htext, hwhole, hdigits, ?_⟩
    exact BinaryFormat.ofDecimal_of_near hf (Nat.pos_of_ne_zero (of_decide_eq_false hzero)) hfinite
      ((BinaryFormat.near_shortest .upper hzero).of_sameValue hvalue)

/-- Text that is read in another format is its shortest decimal there. -/
theorem ofText_of_shortest {x : Binary f} (hx : x.isFinite) (hzero : x.isZero = false)
    {g : BinaryFormat} (hg : g.WithinPowers 400) : ofText g x.text =
      .ok (ofParts x.isNegative (g.round ((x.shortest .upper).numerator * 2 ^ g.scale)
        (x.shortest .upper).denominator)) := by
  obtain ⟨whole, fraction, htext, hwhole, hdigits, hvalue⟩ := text_of_shortest hx hzero
  rw [htext, ofText_positional g x.isSign_sign hwhole hdigits, BinaryFormat.ofDecimal_eq hg]
  refine congrArg (fun m => Except.ok (ofParts x.isNegative m)) ?_
  refine BinaryFormat.round_congr (Decimal.denominator_pos _) (Decimal.denominator_pos _) ?_
  rw [Nat.mul_right_comm, ← hvalue, Nat.mul_right_comm]

theorem plainDecimal_text (hf : f.WithinPowers 400) {x : Binary f} (hx : x.isFinite) :
    PlainDecimal x.text := by
  obtain ⟨whole, fraction, htext, hwhole, hdigits, -⟩ := text_of_isFinite hf hx
  refine ⟨x.sign, whole, fraction, ?_, hwhole, hdigits, htext⟩
  unfold sign
  split
  · exact .inr rfl
  · exact .inl rfl

theorem text_of_isInfinite {x : Binary f} (hx : x.isInfinite) :
    x.text = x.sign ++ ['i', 'n', 'f'] := by
  have hmagnitude : x.magnitude = f.infinity := of_decide_eq_true hx
  have hnumber : x.isNaN = false := decide_eq_false (by omega)
  simp [text, hnumber, hx]

theorem ofText_of_isInfinite {x : Binary f} (hx : x.isInfinite) (g : BinaryFormat) :
    ofText g x.text = .ok (infinite x.isNegative) := by
  have htext := text_of_isInfinite hx
  have hsplit : Numeral.splitSign x.text = (x.isNegative, ['i', 'n', 'f']) := by
    rw [htext]
    exact splitSign_append x.isSign_sign _ (by decide) (by decide)
  have hsome : x.text.isEmpty = false := by simp [htext]
  have hword : Numeral.word? g ['i', 'n', 'f'] = some g.infinity := rfl
  simp only [ofText, hsplit, hsome, Bool.false_eq_true, if_false, hword, infinite]

/-- A number is read off its own text, to the last bit. -/
theorem ofText_text (hf : f.WithinPowers 400) {x : Binary f} (hx : x.isNaN = false) :
    ofText f x.text = .ok x := by
  rcases isFinite_or_isInfinite hx with hfinite | hinfinite
  · obtain ⟨whole, fraction, htext, hwhole, hdigits, hread⟩ := text_of_isFinite hf hfinite
    rw [htext, ofText_positional f x.isSign_sign hwhole hdigits, hread, ofParts_self]
  · rw [ofText_of_isInfinite hinfinite, infinite_self hinfinite]

end Binary

end DeviceGateway
