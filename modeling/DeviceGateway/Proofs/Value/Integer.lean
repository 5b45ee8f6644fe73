import DeviceGateway.Proofs.Decimal.Integer
import DeviceGateway.Proofs.Value.Obtained

/-! Integers that callers write. A text is taken for an integer of a kind exactly if it is, between
blanks, a literal of an integer that the kind has room for, and then that integer is stored. -/

namespace DeviceGateway

/-- The text spells the integer in a layout: between blanks it is a literal of it, with a minus only
where integers are signed, and the layout has room for it. -/
structure Spells (signed : Bool) (bytes : Nat) (text : String) (n : Int) : Prop where
  literal : ∃ cs, Text.Pads text.toList cs ∧ IsLiteral cs n ∧ ('-' ∈ cs → signed)
  low : leastInteger signed bytes ≤ n
  high : n ≤ greatestInteger signed bytes

namespace TypedValue

variable {kind : ValueKind} {signed : Bool} {bytes : Nat}

/-- The integers that a text is read as are those that it spells. -/
theorem integerOfText_trim_iff (text : String) (n : Int) :
    integerOfText (leastInteger signed bytes) (greatestInteger signed bytes)
        (Text.trim text.toList) = .ok n ↔ Spells signed bytes text n := by
  rw [integerOfText_eq_ok_iff (leastInteger_nonpos signed bytes)
    (greatestInteger_nonneg signed bytes), leastInteger_neg_iff]
  constructor
  · rintro ⟨hliteral, hsign, hlow, hhigh⟩
    exact ⟨⟨_, Text.pads_trim text.toList, hliteral, hsign⟩, hlow, hhigh⟩
  · rintro ⟨⟨cs, hpads, hliteral, hsign⟩, hlow, hhigh⟩
    rw [hpads.trim_eq hliteral.isBlank_eq_false]
    exact ⟨hliteral, hsign, hlow, hhigh⟩

/-- A text is parsed as an integer of a kind exactly if it spells one in the range of the kind. The
value has the label that is asked for and, in as many bytes as the kind has, the integer. Any other
text is an invalid parameter. -/
theorem parse_integer_iff (hlayout : kind.layout = .integer signed bytes) (resource : String)
    (origin : Int64) (text : String) :
    (∀ v, parse kind resource origin text = .ok v ↔
      ∃ n bs, Spells signed bytes text n ∧ bs.length = bytes ∧ Bytes.toInt signed bs = n ∧
        v = ⟨resource, origin, kind, .number bs⟩) ∧
    ((∃ fault : IntegerFault, parse kind resource origin text = .error (.invalidParameter
        ("cannot parse " ++ Text.quote text ++ " as " ++ kind.name ++ ": " ++ fault.message))) ↔
      ¬ ∃ n, Spells signed bytes text n) := by
  have hpos := ValueKind.bytes_pos hlayout
  have hwidth : kind.byteWidth = some bytes := by simp only [ValueKind.byteWidth, hlayout]
  simp only [← integerOfText_trim_iff, parse, native?, hlayout]
  cases hread : integerOfText (leastInteger signed bytes) (greatestInteger signed bytes)
    (Text.trim text.toList) with
  | error fault => simp
  | ok n =>
    obtain ⟨-, hlow, hhigh⟩ := (integerOfText_trim_iff text n).1 hread
    have hstored : ofNative resource origin kind (.integer n) =
        ⟨resource, origin, kind, .number (Bytes.ofInt bytes n)⟩ := by
      simp only [ofNative, ofInteger, hwidth, Option.getD_some]
    refine ⟨fun v => ?_, by simp⟩
    simp only [hstored]
    constructor
    · intro h
      cases h
      exact ⟨n, _, rfl, Bytes.length_ofNat bytes _, Bytes.toInt_ofInt signed hpos hlow hhigh, rfl⟩
    · rintro ⟨_, bs, hn, rfl, hvalue, rfl⟩
      cases hn
      have hbytes := Bytes.ofInt_toInt signed bs
      rw [hvalue] at hbytes
      rw [hbytes]

/-- The least integer of a byte, with a zero in front and blanks around. -/
theorem parse_integer_iff_least :
    Spells true 1 " -0128\u3000" (-128) ∧ Bytes.toInt true [128] = -128 ∧
      parse .int8 "Level" 7 " -0128\u3000" = .ok ⟨"Level", 7, .int8, .number [128]⟩ := by
  have hliteral : IsLiteral ['-', '0', '1', '2', '8'] (-128) :=
    ⟨['-'], true, ['0', '1', '2', '8'], rfl, by simp, by simp, rfl, rfl⟩
  have hspells : Spells true 1 " -0128\u3000" (-128) :=
    ⟨⟨_, ⟨[' '], ['\u3000'], by simp [Text.isBlank], rfl⟩, hliteral, fun _ => rfl⟩, by decide,
      by decide⟩
  have hlayout : ValueKind.int8.layout = .integer true 1 := rfl
  have hparse := (parse_integer_iff hlayout "Level" 7 " -0128\u3000").1
    ⟨"Level", 7, .int8, .number [128]⟩
  exact ⟨hspells, by decide, hparse.2 ⟨-128, [128], hspells, rfl, by decide, rfl⟩⟩

end TypedValue

end DeviceGateway
