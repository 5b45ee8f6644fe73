import DeviceGateway.Proofs.Value.RoundTrip

/-! What a value stands for. The kind of a value and its payload are set apart from one another,
by the constructors, by the parser, and by whatever stores a number or a text in a value. They
agree in every value that these make in any order, so that the value is read as its own kind and
as no other, and its text shows no error. -/

namespace DeviceGateway

namespace Native

/-- The bytes are the pattern of the number, most significant byte first: the two's complement
of an integer, and the bits of a floating-point number. -/
def IsPattern (bytes : List UInt8) : Native → Prop
  | .flag _ | .string _ => False
  | .integer n => (Bytes.toNat bytes : Int) = n % 256 ^ bytes.length
  | .single x => Bytes.toNat bytes = x.toNat
  | .double x => Bytes.toNat bytes = x.toNat

/-- The payload of the native value in the kind. -/
def IsStored (kind : ValueKind) (n : Native) : Payload → Prop
  | .flag b => n = .flag b
  | .text s => n = .string s
  | .number bytes => some bytes.length = kind.byteWidth ∧ n.IsPattern bytes

end Native

namespace TypedValue

/-- A value that the constructors, the parser, the transforms and the mappings give. The
constructor of a kind takes the native values that fit the kind. -/
inductive Obtained : TypedValue → Prop
  | made (resource : String) (origin : Int64) {kind : ValueKind} {n : Native}
      (h : n.Fits kind) : Obtained (ofNative resource origin kind n)
  | parsed {kind : ValueKind} {resource : String} {origin : Int64} {text : String}
      {v : TypedValue} (h : parse kind resource origin text = .ok v) : Obtained v
  | replaced {v w : TypedValue} {x : Double} (hv : Obtained v) (h : v.replace x = .ok w) :
      Obtained w
  | inbound {v w : TypedValue} {s : ValueSpec} (hv : Obtained v) (h : s.inbound v = .ok w) :
      Obtained w
  | outbound {v w : TypedValue} {s : ValueSpec} (hv : Obtained v) (h : s.outbound v = .ok w) :
      Obtained w
  | mapped {v w : TypedValue} {o : Operation} (hv : Obtained v) (h : o.mapValue v = .ok w) :
      Obtained w

/-- The value stands for the native value: its payload is what is stored of it, the bytes that it
gives away are the pattern of a number in the width of its kind and there are none of anything
else, it is read as its own kind to the last bit and as no other, and its text is that of the
native value. -/
structure Denotes (v : TypedValue) (n : Native) : Prop where
  fits : n.Fits v.kind
  stored : n.IsStored v.kind v.payload
  bytes_eq : match v.kind.byteWidth with
    | some width => ∃ bytes, v.bytes? = some bytes ∧ bytes.length = width ∧ n.IsPattern bytes
    | none => v.bytes? = none
  as_eq : ∀ kind, v.as kind =
    if kind = v.kind then .ok n else .error (.typeMismatch v.kind kind)
  text_eq : v.text = n.text
  numberText_eq : ∀ bytes, v.payload = .number bytes → v.numberText = .ok n.text

/-! ### Values of native values -/

variable {resource : String} {origin : Int64} {kind : ValueKind} {n : Native}

theorem kind_of_fits (h : n.Fits kind) : (ofNative resource origin kind n).kind = kind := by
  cases n with
  | integer n => rfl
  | _ => exact h.symm

theorem wellFormed_of_fits (h : n.Fits kind) : (ofNative resource origin kind n).WellFormed := by
  refine wellFormed_iff_made.2 ⟨n, ?_, ?_⟩
  · rwa [kind_of_fits h]
  · rw [kind_of_fits h, resource_ofNative, origin_ofNative]

theorem stored_ofNative (h : n.Fits kind) :
    n.IsStored kind (ofNative resource origin kind n).payload := by
  cases n with
  | flag b => rfl
  | string s => rfl
  | integer n =>
    obtain ⟨signed, size, hlayout, -⟩ := h
    have hwidth : kind.byteWidth = some size := by simp only [ValueKind.byteWidth, hlayout]
    simp only [ofNative, ofInteger, Native.IsStored, Native.IsPattern, hwidth, Option.getD_some,
      Bytes.toNat_ofInt]
    simp only [Bytes.ofInt, Bytes.length_ofNat, and_self]
  | single x =>
    obtain rfl : kind = .float32 := h
    refine ⟨congrArg some (Bytes.length_ofNat 4 _), ?_⟩
    exact (Bytes.toNat_ofNat 4 _).trans (Nat.mod_eq_of_lt x.isLt)
  | double x =>
    obtain rfl : kind = .float64 := h
    refine ⟨congrArg some (Bytes.length_ofNat 8 _), ?_⟩
    exact (Bytes.toNat_ofNat 8 _).trans (Nat.mod_eq_of_lt x.isLt)

theorem ofNat_pattern {w : Nat} {x : BitVec w} {bytes : List UInt8}
    (h : Bytes.toNat bytes = x.toNat) : BitVec.ofNat w (Bytes.toNat bytes) = x := by
  rw [h, BitVec.ofNat_toNat, BitVec.setWidth_eq]

/-- What is stored of a native value is read back: there is one integer of the range that has the
pattern, and one floating-point number. -/
theorem decode_of_stored {v : TypedValue} (hfits : n.Fits v.kind)
    (hstored : n.IsStored v.kind v.payload) : v.decode v.kind = .ok n := by
  cases hpayload : v.payload with
  | flag b =>
    rw [hpayload] at hstored
    obtain rfl : n = .flag b := hstored
    have hkind : v.kind = .bool := hfits
    simp only [decode, hkind, ValueKind.layout, hpayload]
  | text s =>
    rw [hpayload] at hstored
    obtain rfl : n = .string s := hstored
    have hkind : v.kind = .string := hfits
    simp only [decode, hkind, ValueKind.layout, hpayload]
  | number bytes =>
    rw [hpayload] at hstored
    obtain ⟨hwidth, hpattern⟩ := hstored
    have hbytes : v.bytesFor v.kind = .ok bytes := Holds.bytesFor_eq hpayload hwidth
    cases n with
    | flag b => cases hpattern
    | string s => cases hpattern
    | integer n =>
      obtain ⟨signed, size, hlayout, hlow, hhigh⟩ := hfits
      obtain rfl : bytes.length = size := by simpa [ValueKind.byteWidth, hlayout] using hwidth
      have hread : bytes = Bytes.ofInt bytes.length n := by
        rw [Bytes.ofInt, ← hpattern, Int.toNat_natCast, Bytes.ofNat_toNat]
      have hvalue : Bytes.toInt signed bytes = n := by
        rw [hread]
        exact Bytes.toInt_ofInt signed (ValueKind.bytes_pos hlayout) hlow hhigh
      simp only [decode, hlayout, hbytes, Except.map, hvalue]
    | single x =>
      have hkind : v.kind = .float32 := hfits
      rw [hkind] at hbytes
      have hvalue : BitVec.ofNat _ (Bytes.toNat bytes) = x := ofNat_pattern hpattern
      rw [hkind, decode, hbytes]
      exact congrArg (fun y => Except.ok (Native.single y)) hvalue
    | double x =>
      have hkind : v.kind = .float64 := hfits
      rw [hkind] at hbytes
      have hvalue : BitVec.ofNat _ (Bytes.toNat bytes) = x := ofNat_pattern hpattern
      rw [hkind, decode, hbytes]
      exact congrArg (fun y => Except.ok (Native.double y)) hvalue

theorem numberText_of_stored {v : TypedValue} {bytes : List UInt8} (hfits : n.Fits v.kind)
    (hstored : n.IsStored v.kind v.payload) (hpayload : v.payload = .number bytes) :
    v.numberText = .ok n.text := by
  have hwidth : some bytes.length = v.kind.byteWidth := by
    rw [hpayload] at hstored
    exact hstored.1
  have hnumeric : v.kind.isNumeric = true := by
    rw [ValueKind.isNumeric, ← hwidth]
    rfl
  rw [numberText, if_pos hnumeric, decode_of_stored hfits hstored]
  rfl

/-- Of what is stored only a number gives bytes away. -/
theorem bytes?_of_stored {v : TypedValue} (hfits : n.Fits v.kind)
    (hstored : n.IsStored v.kind v.payload) :
    match v.kind.byteWidth with
    | some width => ∃ bytes, v.bytes? = some bytes ∧ bytes.length = width ∧ n.IsPattern bytes
    | none => v.bytes? = none := by
  cases hpayload : v.payload with
  | flag b =>
    rw [hpayload] at hstored
    obtain rfl : n = .flag b := hstored
    have hkind : v.kind = .bool := hfits
    rw [hkind]
    simp only [ValueKind.byteWidth, ValueKind.layout, bytes?, hpayload]
  | text s =>
    rw [hpayload] at hstored
    obtain rfl : n = .string s := hstored
    have hkind : v.kind = .string := hfits
    rw [hkind]
    simp only [ValueKind.byteWidth, ValueKind.layout, bytes?, hpayload]
  | number bytes =>
    rw [hpayload] at hstored
    rw [← hstored.1]
    exact ⟨bytes, by rw [bytes?, hpayload], rfl, hstored.2⟩

/-- A value that stores a native value of its kind stands for it. -/
theorem denotes_of_stored {v : TypedValue} (hfits : n.Fits v.kind)
    (hstored : n.IsStored v.kind v.payload) : v.Denotes n where
  fits := hfits
  stored := hstored
  bytes_eq := bytes?_of_stored hfits hstored
  as_eq kind := by
    by_cases hkind : kind = v.kind
    · rw [if_pos hkind, hkind, as, if_pos rfl, decode_of_stored hfits hstored]
    · rw [if_neg hkind, as, if_neg (Ne.symm hkind)]
  text_eq := by
    cases hpayload : v.payload with
    | flag b =>
      rw [hpayload] at hstored
      obtain rfl : n = .flag b := hstored
      cases b <;> simp only [text, hpayload, Native.text]
    | text s =>
      rw [hpayload] at hstored
      obtain rfl : n = .string s := hstored
      simp only [text, hpayload, Native.text]
    | number bytes =>
      simp only [text, hpayload, numberText_of_stored hfits hstored hpayload]
  numberText_eq _ hpayload := numberText_of_stored hfits hstored hpayload

theorem denotes_ofNative (h : n.Fits kind) : (ofNative resource origin kind n).Denotes n := by
  refine denotes_of_stored ?_ ?_
  · rwa [kind_of_fits h]
  · rw [kind_of_fits h]
    exact stored_ofNative h

/-- Well-formed values stand for something. -/
theorem WellFormed.exists_denotes {v : TypedValue} (hv : v.WellFormed) : ∃ n, v.Denotes n := by
  obtain ⟨n, hfits, hmade⟩ := wellFormed_iff_made.1 hv
  refine ⟨n, ?_⟩
  rw [hmade]
  exact denotes_ofNative hfits

/-! ### Reading and storing -/

/-- What is read of a text is of the kind. -/
theorem fits_of_native? {text : String} (h : native? kind text = .ok n) : n.Fits kind := by
  simp only [native?] at h
  split at h
  · next hl =>
    rw [ValueKind.eq_of_layout_eq (l := .bool) hl]
    split at h
    · cases h
      rfl
    · split at h <;> cases h
      rfl
  · next hl =>
    cases h
    exact ValueKind.eq_of_layout_eq (l := .string) hl
  · next signed bytes hl =>
    split at h
    · next hread =>
      cases h
      have hrange := (integerOfText_eq_ok_iff (leastInteger_nonpos signed bytes)
        (greatestInteger_nonneg signed bytes)).1 hread
      exact ⟨signed, bytes, hl, hrange.2.2⟩
    · cases h
  · next hl =>
    split at h <;> cases h
    exact ValueKind.eq_of_layout_eq (l := .float32) hl
  · next hl =>
    split at h <;> cases h
    exact ValueKind.eq_of_layout_eq (l := .float64) hl

theorem parse_wellFormed {text : String} {v : TypedValue}
    (h : parse kind resource origin text = .ok v) : v.WellFormed := by
  unfold parse at h
  split at h
  · next hread =>
    cases h
    exact wellFormed_of_fits (fits_of_native? hread)
  · cases h

/-- Storing a number makes a value anew, whatever was stored before. -/
theorem replace_wellFormed {v w : TypedValue} {x : Double} (h : v.replace x = .ok w) :
    w.WellFormed := by
  unfold replace at h
  split at h
  · cases h
  · cases h
    have hfits : Native.Fits .string (.string (String.ofList x.text)) := rfl
    exact wellFormed_of_fits hfits
  · next signed bytes hl =>
    obtain ⟨n, hn, rfl⟩ := map_eq_ok.1 h
    exact wellFormed_of_fits (n := .integer n) ⟨signed, bytes, hl, fitInteger_range hn⟩
  · split at h
    · cases h
    · cases h
      have hfits : Native.Fits .float32 (.single x.convert) := rfl
      exact wellFormed_of_fits hfits
  · cases h
    have hfits : Native.Fits .float64 (.double x) := rfl
    exact wellFormed_of_fits hfits

/-- A transform leaves the value as it is, or stores a number in it. -/
theorem replaced_wellFormed {v w : TypedValue} {f : Double → Except GatewayError Double}
    (h : (v.toDouble >>= fun x => f x >>= fun y => v.replace y) = .ok w) : w.WellFormed := by
  obtain ⟨x, -, h⟩ := bind_eq_ok.1 h
  obtain ⟨y, -, h⟩ := bind_eq_ok.1 h
  exact replace_wellFormed h

theorem inbound_wellFormed {s : ValueSpec} {v w : TypedValue} (hv : v.WellFormed)
    (h : s.inbound v = .ok w) : w.WellFormed := by
  unfold ValueSpec.inbound at h
  split at h
  · exact replaced_wellFormed h
  · cases h
    exact hv

theorem outbound_wellFormed {s : ValueSpec} {v w : TypedValue} (hv : v.WellFormed)
    (h : s.outbound v = .ok w) : w.WellFormed := by
  unfold ValueSpec.outbound at h
  split at h
  · exact replaced_wellFormed h
  · cases h
    exact hv

theorem mapValue_wellFormed {o : Operation} {v w : TypedValue} (hv : v.WellFormed)
    (h : o.mapValue v = .ok w) : w.WellFormed := by
  unfold Operation.mapValue at h
  split at h
  · cases h
    exact hv
  · split at h <;> cases h
    have hfits : ∀ t : String, Native.Fits .string (.string t) := fun _ => rfl
    exact wellFormed_of_fits (hfits _)

theorem Obtained.wellFormed {v : TypedValue} (hv : v.Obtained) : v.WellFormed := by
  induction hv with
  | made resource origin h => exact wellFormed_of_fits h
  | parsed h => exact parse_wellFormed h
  | replaced _ h => exact replace_wellFormed h
  | inbound _ h ih => exact inbound_wellFormed ih h
  | outbound _ h ih => exact outbound_wellFormed ih h
  | mapped _ h ih => exact mapValue_wellFormed ih h

/-- Every value that is obtained is well-formed and stands for a native value, and what is made
of a native value of a kind has that kind and stands for the native value that it was made of. -/
theorem obtained_denotes :
    (∀ v : TypedValue, v.Obtained → v.WellFormed ∧ ∃ n, v.Denotes n) ∧
    ∀ (resource : String) (origin : Int64) (kind : ValueKind) (n : Native), n.Fits kind →
      (ofNative resource origin kind n).kind = kind ∧
      (ofNative resource origin kind n).Denotes n :=
  ⟨fun _ hv => ⟨hv.wellFormed, hv.wellFormed.exists_denotes⟩,
    fun _ _ _ _ h => ⟨kind_of_fits h, denotes_ofNative h⟩⟩

/-- An integer that is read off a text, scaled and mapped. -/
theorem obtained_denotes_scaled :
    let v := ofInteger "Level" 7 .int16 (-300)
    let w := ofInteger "Level" 7 .int16 (-150)
    let u := ofString "Level" 7 "low"
    parse .int16 "Level" 7 " -300 " = .ok v ∧
      ValueSpec.inbound { scale := "0.5" } v = .ok w ∧
      Operation.mapValue { mappings := (∅ : Table String).insert "-150" "low" } w = .ok u ∧
      v.Denotes (.integer (-300)) ∧ v.bytes? = some [0xfe, 0xd4] ∧ (∃ n, w.Denotes n) ∧
      ∃ n, u.Denotes n := by
  intro v w u
  have hparse : parse .int16 "Level" 7 " -300 " = .ok v := by decide +kernel
  have hscale : ValueSpec.inbound { scale := "0.5" } v = .ok w := by decide +kernel
  have hmap : Operation.mapValue { mappings := (∅ : Table String).insert "-150" "low" } w =
      .ok u := by decide +kernel
  have hw : w.Obtained := .inbound (.parsed hparse) hscale
  exact ⟨hparse, hscale, hmap,
    (obtained_denotes.2 "Level" 7 .int16 (.integer (-300)) ⟨true, 2, rfl, by decide, by decide⟩).2,
    by decide, (obtained_denotes.1 w hw).2, (obtained_denotes.1 u (.mapped hw hmap)).2⟩

end TypedValue

end DeviceGateway
