import DeviceGateway.Proofs.Binary.Value
import DeviceGateway.Proofs.Value.Obtained

/-! Storing a number in a value. Of the exact value of a double an integer kind takes the integer
part, if it has room for it, and a single the nearest number of its format, if the double is not
beyond all of them. The room is looked for in two steps, first in 128 bits among doubles and then
in the kind, and neither step lets a number in or out that the other one would treat otherwise. -/

namespace DeviceGateway

theorem ValueKind.bytes_le {kind : ValueKind} {signed : Bool} {bytes : Nat}
    (h : kind.layout = .integer signed bytes) : bytes ≤ 8 := by
  cases kind <;> cases h <;> decide

section Bounds

variable (signed : Bool) {bytes : Nat} (h : bytes ≤ 8)

include h

theorem two_pow_bits_le : (2 : Int) ^ (8 * bytes) ≤ 2 ^ 64 :=
  pow_le_pow_right₀ (by decide) (by omega)

theorem widest_lt_leastInteger : leastInteger true 16 < leastInteger signed bytes := by
  have hhalf : (2 : Int) ^ (8 * bytes - 1) ≤ 2 ^ 64 :=
    pow_le_pow_right₀ (by decide) (by omega)
  have hwidest : leastInteger true 16 = -(2 ^ 127) := rfl
  rw [hwidest, leastInteger]
  split <;> omega

theorem greatestInteger_lt_widest : greatestInteger signed bytes < greatestInteger true 16 := by
  have hhalf : (2 : Int) ^ (8 * bytes - 1) ≤ 2 ^ 64 :=
    pow_le_pow_right₀ (by decide) (by omega)
  have hwhole := two_pow_bits_le h
  have hwidest : greatestInteger true 16 = 2 ^ 127 - 1 := rfl
  rw [hwidest, greatestInteger]
  split <;> omega

end Bounds

namespace TypedValue

open Binary (towardZero IsNearest)

/-! ### Room for integers -/

/-- The least integer of 128 bits is a double. -/
theorem signedUnits_least :
    (Binary.ofInt (leastInteger true 16) : Double).signedUnits =
      leastInteger true 16 * 2 ^ BinaryFormat.double.scale := by
  decide +kernel

/-- The greatest one is not, and is taken for the next integer above it. -/
theorem signedUnits_greatest :
    (Binary.ofInt (greatestInteger true 16) : Double).signedUnits =
      (greatestInteger true 16 + 1) * 2 ^ BinaryFormat.double.scale := by
  decide +kernel

/-- The integer part fits exactly if it is in the range of the layout. -/
theorem fitInteger_eq (x : Double) (kind : ValueKind) (signed : Bool) {bytes : Nat}
    (h : bytes ≤ 8) : fitInteger x kind signed bytes =
      if x.isFinite ∧ leastInteger signed bytes ≤ x.truncate ∧
          x.truncate ≤ greatestInteger signed bytes
      then .ok x.truncate else .error (.overflow x kind) := by
  have hlow := widest_lt_leastInteger signed h
  have hhigh := greatestInteger_lt_widest signed h
  cases hfinite : x.isFinite with
  | false => simp [fitInteger, hfinite]
  | true =>
    have hp : 0 < BinaryFormat.double.fractionBits := by decide
    have hpos : (0 : Int) < 2 ^ BinaryFormat.double.scale := by positivity
    have hwhole := Binary.isNaN_of_isFinite (Binary.isFinite_whole hp hfinite)
    have hbelow : x.whole.lt (.ofInt (leastInteger true 16)) ↔
        x.truncate < leastInteger true 16 := by
      rw [Binary.lt_iff hwhole (by decide +kernel), signedUnits_least,
        Binary.signedUnits_whole hp hfinite]
      exact Int.mul_lt_mul_right hpos
    have habove : Binary.lt (.ofInt (greatestInteger true 16)) x.whole ↔
        greatestInteger true 16 + 1 < x.truncate := by
      rw [Binary.lt_iff (by decide +kernel) hwhole, signedUnits_greatest,
        Binary.signedUnits_whole hp hfinite]
      exact Int.mul_lt_mul_right hpos
    have hclamp : x.whole.clamp (leastInteger true 16) (greatestInteger true 16) =
        max (leastInteger true 16) (min x.truncate (greatestInteger true 16)) := by
      rw [Binary.clamp, hwhole, if_neg Bool.false_ne_true, Binary.truncate_whole hp hfinite]
    simp only [fitInteger, hfinite, Bool.not_true, Bool.false_eq_true, if_false, Bool.or_eq_true,
      hbelow, habove, hclamp, true_and]
    -- what the first look turns away is out of the range of every layout
    split
    · rw [if_neg (by omega)]
    · by_cases hrange : leastInteger signed bytes ≤ x.truncate ∧
          x.truncate ≤ greatestInteger signed bytes
      · have hsame : max (leastInteger true 16) (min x.truncate (greatestInteger true 16)) =
            x.truncate := by omega
        rw [hsame]
      · rw [if_neg hrange, if_neg (by omega)]

/-! ### Room for singles -/

theorem signedUnits_convert_greatest : ((Binary.greatest : Single).convert : Double).signedUnits =
    (Binary.greatest : Single).units * (2 * 2 ^ BinaryFormat.halfBits) := by
  decide +kernel

theorem beyondSingle_iff (x : Double) : beyondSingle x ↔
    x.isFinite ∧ (Binary.greatest : Single).value < |x.value| := by
  cases hfinite : x.isFinite with
  | false => simp [beyondSingle, hfinite]
  | true =>
    have hmagnitude := Nat.le_of_lt (Binary.isFinite_iff.1 hfinite)
    have habs : x.abs.isNaN = false := by
      rw [Binary.isNaN_eq_false, Binary.abs, Binary.magnitude_ofParts hmagnitude]
      exact hmagnitude
    have hunits : x.abs.signedUnits = x.units := by
      rw [Binary.abs, Binary.signedUnits_ofParts hmagnitude, if_neg Bool.false_ne_true,
        Binary.units]
    have hsingle : 0 < 2 ^ BinaryFormat.single.scale := Nat.two_pow_pos _
    rw [beyondSingle, hfinite, Bool.true_and, Binary.lt_iff (by decide +kernel) habs,
      signedUnits_convert_greatest, hunits, Binary.greatest_lt_abs_value,
      BinaryFormat.two_pow_double_scale, ← Nat.mul_assoc, Nat.mul_lt_mul_right hsingle]
    simp only [true_and]
    exact_mod_cast Iff.rfl

/-- The single that stands for a double: the nearest one for a finite double, and a NaN or an
infinity for the like. -/
structure Narrows (x : Double) (y : Single) : Prop where
  sign : y.isNegative = x.isNegative
  isNaN : y.isNaN = x.isNaN
  isInfinite : y.isInfinite = x.isInfinite
  nearest : x.isFinite → y.IsNearest x.value

theorem narrows_of_isFinite {x : Double} (hx : x.isFinite)
    (h : |x.value| ≤ (Binary.greatest : Single).value) : Narrows x x.convert := by
  obtain ⟨hnearest, hsign⟩ := Binary.isNearest_convert (by decide) (by decide +kernel) hx h
  refine ⟨hsign, ?_, ?_, fun _ => hnearest⟩
  · rw [Binary.isNaN_of_isFinite hx, Binary.isNaN_of_isFinite hnearest.finite]
  · rw [Binary.isInfinite_of_isFinite hx, Binary.isInfinite_of_isFinite hnearest.finite]

theorem narrows_of_not_isFinite {x : Double} (hx : x.isFinite = false) :
    Narrows x x.convert := by
  have hlarge : BinaryFormat.double.infinity ≤ x.magnitude := by
    simpa [Binary.isFinite] using hx
  have hparts : (x.isNaN ∧ x.isInfinite = false) ∨ (x.isNaN = false ∧ x.isInfinite) := by
    simp only [Binary.isNaN, Binary.isInfinite, decide_eq_true_eq, decide_eq_false_iff_not]
    omega
  have hunbounded : x.isFinite → (x.convert : Single).IsNearest x.value := by
    simp [hx]
  rcases hparts with ⟨hnan, hbounded⟩ | ⟨hnumber, hinfinite⟩
  · have hconvert : (x.convert : Single) =
        Binary.ofParts x.isNegative BinaryFormat.single.quietNaN := by
      rw [Binary.convert, if_pos hnan]
    refine ⟨?_, ?_, ?_, hunbounded⟩
    · rw [hconvert]
      cases x.isNegative <;> decide
    · rw [hconvert, hnan]
      cases x.isNegative <;> decide
    · rw [hconvert, hbounded]
      cases x.isNegative <;> decide
  · have hconvert : (x.convert : Single) =
        Binary.ofParts x.isNegative BinaryFormat.single.infinity := by
      rw [Binary.convert, hnumber, if_neg Bool.false_ne_true, if_pos hinfinite, Binary.infinite]
    refine ⟨?_, ?_, ?_, hunbounded⟩
    · rw [hconvert]
      cases x.isNegative <;> decide
    · rw [hconvert, hnumber]
      cases x.isNegative <;> decide
    · rw [hconvert, hinfinite]
      cases x.isNegative <;> decide

/-! ### What is stored -/

/-- The value with `n` in place of what it stood for, under its own label. -/
def Becomes (v : TypedValue) (n : Native) (outcome : Except GatewayError TypedValue) : Prop :=
  ∃ w, outcome = .ok w ∧ v.SameLabel w ∧ w.Denotes n

theorem becomes_ofNative {v : TypedValue} {n : Native} (h : n.Fits v.kind) :
    v.Becomes n (.ok (ofNative v.resource v.origin v.kind n)) :=
  ⟨_, rfl, ⟨kind_of_fits h, resource_ofNative .., origin_ofNative ..⟩, denotes_ofNative h⟩

section Replace

variable {v : TypedValue} (x : Double)

theorem replace_flag (h : v.kind.layout = .flag) :
    ∃ detail, v.replace x = .error (.transformParse detail) := by
  simp only [replace, h]
  exact ⟨_, rfl⟩

theorem replace_text (h : v.kind.layout = .text) :
    v.Becomes (.string (String.ofList x.text)) (v.replace x) := by
  have hkind : v.kind = .string := ValueKind.eq_of_layout_eq h
  have hstored : v.replace x =
      .ok (ofNative v.resource v.origin v.kind (.string (String.ofList x.text))) := by
    simp only [replace, h, ofNative]
  rw [hstored]
  exact becomes_ofNative hkind

theorem replace_double (h : v.kind.layout = .double) : v.Becomes (.double x) (v.replace x) := by
  have hkind : v.kind = .float64 := ValueKind.eq_of_layout_eq h
  have hstored : v.replace x = .ok (ofNative v.resource v.origin v.kind (.double x)) := by
    simp only [replace, h, ofNative]
  rw [hstored]
  exact becomes_ofNative hkind

variable {x}

theorem replace_single_beyond (h : v.kind.layout = .single) (hx : beyondSingle x) :
    v.replace x = .error (.overflow x .float32) := by
  simp only [replace, h, hx, if_true]

theorem replace_single (h : v.kind.layout = .single) (hx : beyondSingle x = false) :
    v.Becomes (.single x.convert) (v.replace x) := by
  have hkind : v.kind = .float32 := ValueKind.eq_of_layout_eq h
  have hstored : v.replace x = .ok (ofNative v.resource v.origin v.kind (.single x.convert)) := by
    simp only [replace, h, hx, Bool.false_eq_true, if_false, ofNative]
  rw [hstored]
  exact becomes_ofNative hkind

/-- A double whose integer part is in the range is stored as that. -/
theorem replace_integer {signed : Bool} {bytes : Nat}
    (h : v.kind.layout = .integer signed bytes) : v.replace x =
      if x.isFinite ∧ leastInteger signed bytes ≤ x.truncate ∧
          x.truncate ≤ greatestInteger signed bytes
      then .ok (ofInteger v.resource v.origin v.kind x.truncate)
      else .error (.overflow x v.kind) := by
  simp only [replace, h, fitInteger_eq x v.kind signed (ValueKind.bytes_le h)]
  split <;> rfl

end Replace

/-- What becomes of a value in which a number is stored, for each layout that its kind can have.
The number is taken for the rational number that it is. -/
theorem replace_stores_what_fits (v : TypedValue) (x : Double) :
    match v.kind.layout with
    | .integer signed bytes =>
      if x.isFinite ∧ leastInteger signed bytes ≤ towardZero x.value ∧
          towardZero x.value ≤ greatestInteger signed bytes
      then v.Becomes (.integer (towardZero x.value)) (v.replace x)
      else v.replace x = .error (.overflow x v.kind)
    | .single =>
      if x.isFinite ∧ (Binary.greatest : Single).value < |x.value|
      then v.replace x = .error (.overflow x .float32)
      else ∃ y, Narrows x y ∧ v.Becomes (.single y) (v.replace x)
    | .double => v.Becomes (.double x) (v.replace x)
    | .text =>
      v.Becomes (.string (String.ofList x.text)) (v.replace x) ∧
        (x.isFinite → PlainDecimal x.text) ∧
        (x.isNaN = false → Binary.ofText .double x.text = .ok x)
    | .flag => ∃ detail, v.replace x = .error (.transformParse detail) := by
  cases hlayout : v.kind.layout with
  | flag => exact replace_flag x hlayout
  | text =>
    exact ⟨replace_text x hlayout, Binary.plainDecimal_text BinaryFormat.double_withinPowers,
      Binary.ofText_text BinaryFormat.double_withinPowers⟩
  | integer signed bytes =>
    simp only [replace_integer hlayout, Binary.truncate_eq]
    split
    · next hfits =>
      exact becomes_ofNative (n := .integer _) ⟨signed, bytes, hlayout, hfits.2⟩
    · rfl
  | single =>
    simp only [← beyondSingle_iff]
    split
    · next hbeyond => exact replace_single_beyond hlayout hbeyond
    · next hwithin =>
      refine ⟨x.convert, ?_, replace_single hlayout (Bool.eq_false_iff.2 hwithin)⟩
      rw [beyondSingle_iff] at hwithin
      cases hfinite : x.isFinite with
      | true => exact narrows_of_isFinite hfinite (not_lt.1 fun h => hwithin ⟨hfinite, h⟩)
      | false => exact narrows_of_not_isFinite hfinite
  | double => exact replace_double x hlayout

/-- Nine tenths below zero are zero for an unsigned integer. -/
example : (ofInteger "Level" 7 .uint8 200).replace (BitVec.ofNat _ 0xbfeccccccccccccd) =
    .ok (ofInteger "Level" 7 .uint8 0) := by
  decide +kernel

end TypedValue

end DeviceGateway
