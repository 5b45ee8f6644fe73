import DeviceGateway.Proofs.Binary.Integer
import DeviceGateway.Proofs.Decimal.Digits
import DeviceGateway.Proofs.Text.Blank

/-! Numerals. A literal is a sign, which may be left out, and digits, any number of them zeros in
front. A numeral may have a point before, among or behind its digits as well, and an exponent,
which is a mark and a literal. A numeral is read as the decimal that it stands for. -/

namespace DeviceGateway

open Binary (withSign)

/-! ### Signs -/

/-- The characters of a sign: a minus, or a plus that may be left out. -/
def IsSign (cs : List Char) (negative : Bool) : Prop :=
  if negative then cs = ['-'] else cs = [] ∨ cs = ['+']

/-- A minus makes the sign negative. -/
theorem IsSign.eq_true_of_mem {cs : List Char} {negative : Bool} (h : IsSign cs negative)
    (hminus : '-' ∈ cs) : negative = true := by
  cases negative with
  | true => rfl
  | false =>
    obtain rfl | rfl : cs = [] ∨ cs = ['+'] := h <;> simp at hminus

/-- The sign is split off what has none itself. -/
theorem splitSign_append {sign : List Char} {negative : Bool} (hsign : IsSign sign negative)
    {c : Char} (r : List Char) (hminus : c ≠ '-') (hplus : c ≠ '+') :
    Numeral.splitSign (sign ++ c :: r) = (negative, c :: r) := by
  cases negative with
  | true =>
    obtain rfl : sign = ['-'] := hsign
    rfl
  | false =>
    obtain rfl | rfl : sign = [] ∨ sign = ['+'] := hsign
    · unfold Numeral.splitSign
      split
      · next h => cases h; exact absurd rfl hminus
      · next h => cases h; exact absurd rfl hplus
      · rfl
    · rfl

/-! ### Literals -/

/-- The text is a decimal literal of the integer. -/
def IsLiteral (cs : List Char) (n : Int) : Prop :=
  ∃ sign negative ds, IsSign sign negative ∧ ds ≠ [] ∧ (∀ c ∈ ds, c.isDigit) ∧
    cs = sign ++ ds ∧ n = withSign negative (Numeral.value ds)

/-- The text of an integer is its sign and the digits of its size. -/
theorem integerText_eq (n : Int) :
    ∃ sign, IsSign sign (decide (n < 0)) ∧ integerText n = sign ++ digits n.natAbs := by
  cases n with
  | ofNat n => exact ⟨[], .inl rfl, rfl⟩
  | negSucc n => exact ⟨['-'], by simp [IsSign], rfl⟩

/-- Integers are written as literals. -/
theorem isLiteral_integerText (n : Int) : IsLiteral (integerText n) n := by
  obtain ⟨sign, hsign, heq⟩ := integerText_eq n
  refine ⟨sign, _, digits n.natAbs, hsign, Nat.toDigits_ne_nil, ?_, heq, ?_⟩
  · exact fun c hc => isDigit_of_mem_digits hc
  · rw [Numeral.value_digits, Binary.withSign_natAbs]

/-! ### Numerals -/

/-- The characters of an exponent: none, or a mark and a literal. -/
def IsExponent (cs : List Char) (e : Int) : Prop :=
  cs = [] ∧ e = 0 ∨ ∃ mark ds, (mark = 'e' ∨ mark = 'E') ∧ IsLiteral ds e ∧ cs = mark :: ds

/-- The text is a numeral of the sign and the decimal. -/
def IsNumeral (cs : List Char) (negative : Bool) (d : Decimal) : Prop :=
  ∃ sign whole point fraction exponent e, IsSign sign negative ∧ whole ++ fraction ≠ [] ∧
    (∀ c ∈ whole ++ fraction, c.isDigit) ∧ (point = [] ∧ fraction = [] ∨ point = ['.']) ∧
    IsExponent exponent e ∧ cs = sign ++ (whole ++ (point ++ (fraction ++ exponent))) ∧
    d = ⟨Numeral.value (whole ++ fraction), e - fraction.length⟩

section Exponent

variable {cs : List Char} {e : Int} (h : IsExponent cs e)

include h

theorem IsExponent.exponent?_eq : Numeral.exponent? cs = some e := by
  rcases h with ⟨rfl, rfl⟩ | ⟨mark, r, hmark, ⟨sign, negative, ds, hsign, hds, hdigits, rfl, rfl⟩,
    rfl⟩
  · rfl
  · obtain ⟨c, ds, rfl⟩ := List.exists_cons_of_ne_nil hds
    have hc : c.isDigit := hdigits c List.mem_cons_self
    have hsplit : Numeral.splitSign (sign ++ c :: ds) = (negative, c :: ds) := by
      refine splitSign_append hsign ds ?_ ?_ <;> rintro rfl <;> exact absurd hc (by decide)
    have hall : (c :: ds).all Char.isDigit = true := List.all_eq_true.2 hdigits
    simp only [Numeral.exponent?, if_pos hmark, hsplit, hall, withSign]
    rfl

/-- No digit belongs to the exponent. -/
theorem IsExponent.span : cs.takeWhile Char.isDigit = [] ∧ cs.dropWhile Char.isDigit = cs := by
  rcases h with ⟨rfl, -⟩ | ⟨mark, ds, rfl | rfl, -, rfl⟩ <;> exact ⟨rfl, rfl⟩

end Exponent

/-- Digits are told apart from what begins with none. -/
theorem span_append {ds r : List Char} (hds : ∀ c ∈ ds, c.isDigit)
    (hr : r.takeWhile Char.isDigit = [] ∧ r.dropWhile Char.isDigit = r) :
    (ds ++ r).takeWhile Char.isDigit = ds ∧ (ds ++ r).dropWhile Char.isDigit = r := by
  rw [List.takeWhile_append_of_pos hds, List.dropWhile_append_of_pos hds, hr.1, hr.2,
    List.append_nil]
  exact ⟨rfl, rfl⟩

/-- Digits, perhaps a point and more digits, and an exponent are read as a decimal. -/
theorem decimal?_append {whole point fraction exponent : List Char} {e : Int}
    (hsome : whole ++ fraction ≠ []) (hdigits : ∀ c ∈ whole ++ fraction, c.isDigit)
    (hpoint : point = [] ∧ fraction = [] ∨ point = ['.']) (hexponent : IsExponent exponent e) :
    Numeral.decimal? (whole ++ (point ++ (fraction ++ exponent))) =
      some ⟨Numeral.value (whole ++ fraction), e - fraction.length⟩ := by
  have hwhole : ∀ c ∈ whole, c.isDigit := fun c hc => hdigits c (List.mem_append_left _ hc)
  have hfraction : ∀ c ∈ fraction, c.isDigit := fun c hc => hdigits c (List.mem_append_right _ hc)
  have hempty : (whole.isEmpty && fraction.isEmpty) = false := by simpa using hsome
  rcases hpoint with ⟨rfl, rfl⟩ | rfl
  · obtain ⟨htake, hdrop⟩ := span_append hwhole hexponent.span
    have hread := hexponent.exponent?_eq
    have hnone : whole ≠ [] := by simpa using hsome
    simp only [Numeral.decimal?, List.nil_append, htake, hdrop]
    rcases hexponent with ⟨rfl, -⟩ | ⟨mark, r, rfl | rfl, -, rfl⟩ <;> simp [hnone, hread]
  · obtain ⟨htake, hdrop⟩ := span_append (r := '.' :: (fraction ++ exponent)) hwhole ⟨rfl, rfl⟩
    obtain ⟨htake', hdrop'⟩ := span_append hfraction hexponent.span
    simp only [Numeral.decimal?, List.cons_append, List.nil_append, htake, hdrop, htake', hdrop',
      hempty, Bool.false_eq_true, if_false, hexponent.exponent?_eq, Option.map_some]

/-- What begins like a number is no word. -/
theorem word?_cons (f : BinaryFormat) {c : Char} (r : List Char) (hc : c.isDigit ∨ c = '.') :
    Numeral.word? f (c :: r) = none := by
  have hlower : c.toLower = c := by
    rcases hc with hc | rfl
    · exact toLower_of_isDigit hc
    · decide
  have hi : c ≠ 'i' := by rintro rfl; exact absurd hc (by decide)
  have hn : c ≠ 'n' := by rintro rfl; exact absurd hc (by decide)
  simp [Numeral.word?, hlower, hi, hn]

/-- A numeral is read as the number that is made of its sign and its decimal. -/
theorem IsNumeral.ofText_eq {cs : List Char} {negative : Bool} {d : Decimal}
    (h : IsNumeral cs negative d) (f : BinaryFormat) :
    Binary.ofText f cs = .ok (.ofParts negative (f.ofDecimal d)) := by
  obtain ⟨sign, whole, point, fraction, exponent, e, hsign, hsome, hdigits, hpoint, hexponent, rfl,
    rfl⟩ := h
  have hread := decimal?_append hsome hdigits hpoint hexponent
  -- the first character is a digit or the point
  obtain ⟨c, r, hcons, hc⟩ : ∃ c r, whole ++ (point ++ (fraction ++ exponent)) = c :: r ∧
      (c.isDigit ∨ c = '.') := by
    cases whole with
    | cons c r => exact ⟨c, _, rfl, .inl (hdigits c List.mem_cons_self)⟩
    | nil =>
      rcases hpoint with ⟨-, rfl⟩ | rfl
      · exact absurd rfl hsome
      · exact ⟨'.', _, rfl, .inr rfl⟩
  rw [hcons] at hread ⊢
  have hsplit : Numeral.splitSign (sign ++ c :: r) = (negative, c :: r) := by
    refine splitSign_append hsign r ?_ ?_ <;> rintro rfl <;> exact absurd hc (by decide)
  have hnonempty : (sign ++ c :: r).isEmpty = false := by simp
  simp only [Binary.ofText, hsplit, hnonempty, Bool.false_eq_true, if_false, word?_cons f r hc,
    hread]

/-! ### Blanks -/

section Blank

open Text (isBlank)

variable {cs : List Char}

theorem IsSign.isBlank_eq_false {negative : Bool} (h : IsSign cs negative) :
    ∀ c ∈ cs, isBlank c = false := by
  cases negative with
  | true =>
    obtain rfl : cs = ['-'] := h
    simp [isBlank]
  | false =>
    obtain rfl | rfl : cs = [] ∨ cs = ['+'] := h <;> simp [isBlank]

theorem IsLiteral.isBlank_eq_false {n : Int} (h : IsLiteral cs n) :
    ∀ c ∈ cs, isBlank c = false := by
  obtain ⟨sign, negative, ds, hsign, -, hdigits, rfl, -⟩ := h
  exact List.forall_mem_append.2
    ⟨hsign.isBlank_eq_false, fun c hc => Text.isBlank_of_isDigit (hdigits c hc)⟩

theorem IsExponent.isBlank_eq_false {e : Int} (h : IsExponent cs e) :
    ∀ c ∈ cs, isBlank c = false := by
  rcases h with ⟨rfl, -⟩ | ⟨mark, ds, hmark, hliteral, rfl⟩
  · simp
  · refine List.forall_mem_cons.2 ⟨?_, hliteral.isBlank_eq_false⟩
    rcases hmark with rfl | rfl <;> decide

/-- No character of a numeral is blank. -/
theorem IsNumeral.isBlank_eq_false {negative : Bool} {d : Decimal} (h : IsNumeral cs negative d) :
    ∀ c ∈ cs, isBlank c = false := by
  obtain ⟨sign, whole, point, fraction, exponent, e,
    hsign, -, hdigits, hpoint, hexponent, rfl, -⟩ :=
    h
  have hfigures : ∀ c ∈ whole ++ fraction, isBlank c = false :=
    fun c hc => Text.isBlank_of_isDigit (hdigits c hc)
  have hdot : ∀ c ∈ point, isBlank c = false := by
    rcases hpoint with ⟨rfl, -⟩ | rfl <;> simp [isBlank]
  simp only [List.forall_mem_append] at hfigures ⊢
  exact ⟨hsign.isBlank_eq_false, hfigures.1, hdot, hfigures.2, hexponent.isBlank_eq_false⟩

end Blank

end DeviceGateway
