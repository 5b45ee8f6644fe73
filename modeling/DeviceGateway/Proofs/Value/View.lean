import DeviceGateway.Proofs.Decimal.Literal
import DeviceGateway.Proofs.Value.Store

/-! The number that a value is read as. A value is the one value of its label that stands for its
native value. Of an integer kind it is read as the double nearest to the integer, and a double is
read as itself. -/

namespace DeviceGateway

namespace TypedValue

/-- A value that stands for a native value is well-formed. -/
theorem Denotes.wellFormed {v : TypedValue} {n : Native} (h : v.Denotes n) : v.WellFormed := by
  have hfits := h.fits
  have hstored := h.stored
  unfold WellFormed
  cases hpayload : v.payload with
  | flag b =>
    rw [hpayload] at hstored
    obtain rfl : n = .flag b := hstored
    exact hfits
  | text s =>
    rw [hpayload] at hstored
    obtain rfl : n = .string s := hstored
    exact hfits
  | number bytes =>
    rw [hpayload] at hstored
    exact hstored.1

/-- A value stands for one native value. -/
theorem Denotes.unique {v : TypedValue} {n n' : Native} (h : v.Denotes n) (h' : v.Denotes n') :
    n = n' := by
  have hread := (h.as_eq v.kind).symm.trans (h'.as_eq v.kind)
  rw [if_pos rfl, if_pos rfl] at hread
  cases hread
  rfl

/-- There is one value of each label for a native value. -/
theorem Denotes.eq_ofNative {v : TypedValue} {n : Native} (h : v.Denotes n) :
    v = ofNative v.resource v.origin v.kind n := by
  obtain ⟨n', hfits, hmade⟩ := wellFormed_iff_made.1 h.wellFormed
  have hdenotes : v.Denotes n' := by
    rw [hmade]
    exact denotes_ofNative hfits
  obtain rfl := h.unique hdenotes
  exact hmade

/-! ### Integers -/

theorem natAbs_lt_of_range {signed : Bool} {bytes : Nat} {n : Int} (hbytes : bytes ≤ 8)
    (hlow : leastInteger signed bytes ≤ n) (hhigh : n ≤ greatestInteger signed bytes) :
    n.natAbs < 10 ^ 20 := by
  have hwhole := two_pow_bits_le hbytes
  have hhalf : (2 : Int) ^ (8 * bytes - 1) ≤ 2 ^ 64 :=
    pow_le_pow_right₀ (by decide) (by omega)
  unfold leastInteger at hlow
  unfold greatestInteger at hhigh
  split at hlow <;> simp_all <;> omega

/-- An integer of any size is read as the double nearest to it. -/
theorem Denotes.toDouble_integer {v : TypedValue} {n : Int} (h : v.Denotes (.integer n)) :
    v.toDouble = .ok (.ofInt n) := by
  obtain ⟨signed, bytes, hlayout, hlow, hhigh⟩ := h.fits
  have hsize := natAbs_lt_of_range (ValueKind.bytes_le hlayout) hlow hhigh
  rw [toDouble, h.text_eq, Native.text, String.toList_ofList, Text.trim_integerText,
    ofText_integerText .double (by decide) hsize]

/-! ### Doubles -/

theorem Denotes.toDouble_double {v : TypedValue} {x : Double} (h : v.Denotes (.double x))
    (hx : x.isNaN = false) : v.toDouble = .ok x := by
  rw [toDouble, h.text_eq, Native.text, String.toList_ofList,
    Text.trim_text BinaryFormat.double_withinPowers hx,
    Binary.ofText_text BinaryFormat.double_withinPowers hx]

end TypedValue

/-! ### Transforms -/

namespace ValueSpec

variable {spec : ValueSpec} (h : spec.hasTransform) {v : TypedValue} {x : Double}
  (hview : v.toDouble = .ok x)

include h hview

/-- A transform stores what its steps make of the number. -/
theorem inbound_of_toDouble : spec.inbound v = (spec.inboundNumber x >>= v.replace) := by
  rw [inbound, if_pos h, hview]
  rfl

theorem outbound_of_toDouble :
    spec.outbound v = (spec.outboundNumber v.resource x >>= v.replace) := by
  rw [outbound, if_pos h, hview]
  rfl

end ValueSpec

end DeviceGateway
