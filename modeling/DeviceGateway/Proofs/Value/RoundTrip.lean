import DeviceGateway.Proofs.Decimal.Integer
import DeviceGateway.Proofs.Decimal.Plain
import DeviceGateway.Proofs.Text.Blank
import DeviceGateway.Proofs.Value.Bytes
import DeviceGateway.Proofs.Value.Label

/-! Values and their text. The payload of a value of any kind stands for a native value, the text
of that is read as the same native value, and the value that holds it has the payload again, to
the last bit. The NaNs are left out, for they all have one text. -/

namespace DeviceGateway

/-! ### Blanks -/

namespace Text

theorem trim_integerText (n : Int) : trim (integerText n) = integerText n :=
  trim_eq_self (isLiteral_integerText n).isBlank_eq_false

theorem trim_text {f : BinaryFormat} (hf : f.WithinPowers 400) {x : Binary f}
    (hx : x.isNaN = false) : trim x.text = x.text := by
  refine trim_eq_self ?_
  rcases Binary.isFinite_or_isInfinite hx with hfinite | hinfinite
  · obtain ⟨whole, fraction, htext, hwhole, hdigits, -⟩ := Binary.text_of_isFinite hf hfinite
    rw [htext]
    exact (isNumeral_positional x.isSign_sign hwhole hdigits).isBlank_eq_false
  · rw [Binary.text_of_isInfinite hinfinite, List.forall_mem_append]
    exact ⟨x.isSign_sign.isBlank_eq_false, by simp [isBlank]⟩

end Text

/-! ### Native values -/

namespace Native

/-- The value can be held under the kind. -/
def Fits (kind : ValueKind) : Native → Prop
  | .flag _ => kind = .bool
  | .string _ => kind = .string
  | .integer n => ∃ signed bytes, kind.layout = .integer signed bytes ∧
      leastInteger signed bytes ≤ n ∧ n ≤ greatestInteger signed bytes
  | .single _ => kind = .float32
  | .double _ => kind = .float64

def isNaN : Native → Bool
  | .single x => x.isNaN
  | .double x => x.isNaN
  | _ => false

/-- True of a floating-point number that is no NaN and no infinity. -/
def isFiniteFloat : Native → Bool
  | .single x => x.isFinite
  | .double x => x.isFinite
  | _ => false

/-- A native value that is no NaN is read off its own text. -/
theorem Fits.native?_text {kind : ValueKind} {n : Native} (h : n.Fits kind)
    (hnumber : n.isNaN = false) : TypedValue.native? kind n.text = .ok n := by
  cases n with
  | flag b =>
    obtain rfl : kind = .bool := h
    cases b <;> decide
  | string s =>
    obtain rfl : kind = .string := h
    rfl
  | integer n =>
    obtain ⟨signed, bytes, hlayout, hlow, hhigh⟩ := h
    simp only [TypedValue.native?, hlayout, text, String.toList_ofList, Text.trim_integerText,
      integerOfText_integerText (leastInteger_nonpos signed bytes)
        (greatestInteger_nonneg signed bytes) ⟨hlow, hhigh⟩]
  | single x =>
    obtain rfl : kind = .float32 := h
    simp only [TypedValue.native?, ValueKind.layout, text, String.toList_ofList,
      Text.trim_text BinaryFormat.single_withinPowers hnumber,
      Binary.ofText_text BinaryFormat.single_withinPowers hnumber]
  | double x =>
    obtain rfl : kind = .float64 := h
    simp only [TypedValue.native?, ValueKind.layout, text, String.toList_ofList,
      Text.trim_text BinaryFormat.double_withinPowers hnumber,
      Binary.ofText_text BinaryFormat.double_withinPowers hnumber]

theorem plainDecimal_text {n : Native} (h : n.isFiniteFloat) : PlainDecimal n.text.toList := by
  cases n with
  | single x =>
    rw [text, String.toList_ofList]
    exact Binary.plainDecimal_text BinaryFormat.single_withinPowers h
  | double x =>
    rw [text, String.toList_ofList]
    exact Binary.plainDecimal_text BinaryFormat.double_withinPowers h
  | _ => cases h

end Native

/-! ### Values -/

theorem ValueKind.bytes_pos {kind : ValueKind} {signed : Bool} {bytes : Nat}
    (h : kind.layout = .integer signed bytes) : 0 < bytes := by
  cases kind <;> cases h <;> decide

namespace TypedValue

/-- The payload is one of the kind: a flag, a text, or as many bytes as the kind has. -/
def WellFormed (v : TypedValue) : Prop :=
  match v.payload with
  | .flag _ => v.kind = .bool
  | .text _ => v.kind = .string
  | .number bytes => some bytes.length = v.kind.byteWidth

def isNaN (v : TypedValue) : Bool := (v.decode v.kind).toOption.any Native.isNaN

def isFiniteFloat (v : TypedValue) : Bool := (v.decode v.kind).toOption.any Native.isFiniteFloat

/-- The value holds the native value, and is what is made of it. -/
structure Holds (v : TypedValue) (n : Native) : Prop where
  decode : v.decode v.kind = .ok n
  text : v.text = n.text
  made : v = ofNative v.resource v.origin v.kind n

namespace Holds

variable {v : TypedValue} {n : Native}

theorem isNaN_eq (h : v.Holds n) : v.isNaN = n.isNaN := by
  simp [TypedValue.isNaN, h.decode, Except.toOption]

theorem isFiniteFloat_eq (h : v.Holds n) : v.isFiniteFloat = n.isFiniteFloat := by
  simp [TypedValue.isFiniteFloat, h.decode, Except.toOption]

variable {bytes : List UInt8} (hpayload : v.payload = .number bytes)
  (hwidth : some bytes.length = v.kind.byteWidth)

include hpayload hwidth in
theorem bytesFor_eq : v.bytesFor v.kind = .ok bytes := by
  simp only [bytesFor, bytes?, hpayload, hwidth, if_true]

include hpayload hwidth in
theorem of_number (hdecode : v.decode v.kind = .ok n)
    (hmade : v = ofNative v.resource v.origin v.kind n) : v.Holds n := by
  refine ⟨hdecode, ?_, hmade⟩
  have hnumeric : v.kind.isNumeric = true := by
    rw [ValueKind.isNumeric, ← hwidth]
    rfl
  simp only [TypedValue.text, hpayload, numberText, hnumeric, if_true, hdecode, Except.map]

include hpayload hwidth in
theorem of_integer {signed : Bool} {size : Nat} (hlayout : v.kind.layout = .integer signed size) :
    v.Holds (.integer (Bytes.toInt signed bytes)) := by
  refine of_number hpayload hwidth ?_ ?_
  · simp only [TypedValue.decode, hlayout, bytesFor_eq hpayload hwidth, Except.map]
  · simp only [ofNative, ofInteger, ← hwidth, Option.getD_some, Bytes.ofInt_toInt, ← hpayload]

/-- A pattern is stored in the bytes that it was read from. -/
theorem ofPattern_toNat {w : Nat} (resource : String) (origin : Int64) {kind : ValueKind}
    (hwidth : some bytes.length = kind.byteWidth) (hw : 256 ^ bytes.length = 2 ^ w) :
    ofPattern resource origin kind (BitVec.ofNat w (Bytes.toNat bytes)).toNat =
      ⟨resource, origin, kind, .number bytes⟩ := by
  have hpattern : (BitVec.ofNat w (Bytes.toNat bytes)).toNat = Bytes.toNat bytes := by
    rw [BitVec.toNat_ofNat, ← hw, Nat.mod_eq_of_lt (Bytes.toNat_lt bytes)]
  rw [ofPattern, hpattern, ← hwidth, Option.getD_some, Bytes.ofNat_toNat]

include hpayload hwidth in
/-- The number of a binary format whose bits the bytes are. -/
theorem of_bits {w : Nat} (wrap : BitVec w → Native) {kind : ValueKind} (hkind : v.kind = kind)
    (hbits : kind.byteWidth.map (8 * ·) = some w)
    (hread : ∀ u : TypedValue, u.decode kind =
      (u.bytesFor kind).map fun bs => wrap (.ofNat w (Bytes.toNat bs)))
    (hmade : ∀ resource origin x, ofNative resource origin kind (wrap x) =
      ofPattern resource origin kind x.toNat) :
    v.Holds (wrap (.ofNat w (Bytes.toNat bytes))) := by
  subst hkind
  have hpow : 256 ^ bytes.length = 2 ^ w := by
    rw [← hwidth] at hbits
    rw [← Option.some.inj hbits, Nat.pow_mul]
  refine of_number hpayload hwidth ?_ ?_
  · rw [hread, bytesFor_eq hpayload hwidth, Except.map]
  · rw [hmade, ofPattern_toNat v.resource v.origin hwidth hpow, ← hpayload]

end Holds

/-- A well-formed value holds a native value of its kind. -/
theorem WellFormed.exists_holds {v : TypedValue} (hv : v.WellFormed) :
    ∃ n, v.Holds n ∧ n.Fits v.kind := by
  cases hpayload : v.payload with
  | flag b =>
    obtain ⟨resource, origin, kind, payload⟩ := v
    obtain rfl : payload = .flag b := hpayload
    obtain rfl : kind = .bool := hv
    exact ⟨.flag b, ⟨rfl, by cases b <;> rfl, rfl⟩, rfl⟩
  | text s =>
    obtain ⟨resource, origin, kind, payload⟩ := v
    obtain rfl : payload = .text s := hpayload
    obtain rfl : kind = .string := hv
    exact ⟨.string s, ⟨rfl, rfl, rfl⟩, rfl⟩
  | number bytes =>
    have hwidth : some bytes.length = v.kind.byteWidth := by
      simpa only [WellFormed, hpayload] using hv
    cases hlayout : v.kind.layout with
    | flag => simp [ValueKind.byteWidth, hlayout] at hwidth
    | text => simp [ValueKind.byteWidth, hlayout] at hwidth
    | integer signed size =>
      refine ⟨_, .of_integer hpayload hwidth hlayout, signed, size, hlayout, ?_⟩
      obtain rfl : bytes.length = size := by simpa [ValueKind.byteWidth, hlayout] using hwidth
      exact Bytes.toInt_range signed (List.length_pos_iff.1 (ValueKind.bytes_pos hlayout))
    | single =>
      have hkind : v.kind = .float32 := ValueKind.eq_of_layout_eq (l := .float32) hlayout
      exact ⟨_, .of_bits hpayload hwidth .single hkind rfl (fun _ => rfl) fun _ _ _ => rfl, hkind⟩
    | double =>
      have hkind : v.kind = .float64 := ValueKind.eq_of_layout_eq (l := .float64) hlayout
      exact ⟨_, .of_bits hpayload hwidth .double hkind rfl (fun _ => rfl) fun _ _ _ => rfl, hkind⟩

/-- Well-formed values are those that are made of native values. -/
theorem wellFormed_iff_made {v : TypedValue} : v.WellFormed ↔
    ∃ n : Native, n.Fits v.kind ∧ v = ofNative v.resource v.origin v.kind n := by
  constructor
  · intro hv
    obtain ⟨n, hholds, hfits⟩ := hv.exists_holds
    exact ⟨n, hfits, hholds.made⟩
  · rintro ⟨n, hfits, hmade⟩
    rw [hmade]
    cases n with
    | flag b => rfl
    | string s => rfl
    | integer n =>
      obtain ⟨signed, bytes, hlayout, -⟩ := hfits
      have hwidth : v.kind.byteWidth = some bytes := by simp only [ValueKind.byteWidth, hlayout]
      simp only [ofNative, ofInteger, WellFormed, Bytes.ofInt, Bytes.length_ofNat, hwidth,
        Option.getD_some]
    | single x => simp only [ofNative, ofSingle, ofPattern, WellFormed, Bytes.length_ofNat]; rfl
    | double x => simp only [ofNative, ofDouble, ofPattern, WellFormed, Bytes.length_ofNat]; rfl

/-- A value that is no NaN is read off its own text, to the last bit, and the text of a finite
floating-point value is a plain decimal. -/
theorem parse_text {v : TypedValue} (hv : v.WellFormed) (hnumber : v.isNaN = false) :
    parse v.kind v.resource v.origin v.text = .ok v ∧
      (v.isFiniteFloat → PlainDecimal v.text.toList) := by
  obtain ⟨n, hholds, hfits⟩ := hv.exists_holds
  rw [hholds.text]
  constructor
  · rw [parse, hfits.native?_text (hholds.isNaN_eq ▸ hnumber)]
    exact congrArg Except.ok hholds.made.symm
  · exact fun hfinite => Native.plainDecimal_text (hholds.isFiniteFloat_eq ▸ hfinite)

/-- The least positive single. -/
theorem parse_text_least :
    let v := ofSingle "Level" 7 (BitVec.ofNat _ 1)
    v.text = "0.000000000000000000000000000000000000000000001" ∧
      parse .float32 "Level" 7 v.text = .ok v ∧ PlainDecimal v.text.toList := by
  intro v
  have hnumber : v.isNaN = false := by decide
  have hv : v.WellFormed := wellFormed_iff_made.2 ⟨.single (BitVec.ofNat _ 1), rfl, rfl⟩
  obtain ⟨hparse, hplain⟩ := parse_text hv hnumber
  exact ⟨by decide +kernel, hparse, hplain (by decide)⟩

end TypedValue

end DeviceGateway
