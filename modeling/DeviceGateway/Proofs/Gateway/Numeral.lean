import DeviceGateway.Proofs.Decimal.Limit
import DeviceGateway.Proofs.Decimal.Numeral
import DeviceGateway.Proofs.Gateway.Logarithm

/-! Numerals that callers write for floating-point numbers. Every numeral is taken, whatever its
size: below the limit of the kind for the nearest number, and from there on for an infinity. What
is taken is what the driver is handed, unless it is transformed on the way. -/

namespace DeviceGateway

open Text (Pads)

namespace TypedValue

/-- The value holds the number of its kind that stands for the quantity. Singles have their limit
half a step below `2 ^ 128`, and doubles half a step below `2 ^ 1024`. -/
inductive Approximates (resource : String) (origin : Int64) (negative : Bool) (q : ℚ) :
    ValueKind → TypedValue → Prop
  | single {x : Single} (h : x.Approximates negative q (2 ^ 128 - 2 ^ 103)) :
    Approximates resource origin negative q .float32 (ofSingle resource origin x)
  | double {x : Double} (h : x.Approximates negative q (2 ^ 1024 - 2 ^ 970)) :
    Approximates resource origin negative q .float64 (ofDouble resource origin x)

section Parse

variable {text : String} {cs : List Char} {negative : Bool} {d : Decimal}
  (hpads : Pads text.toList cs) (hnumeral : IsNumeral cs negative d)

include hpads hnumeral

theorem parse_numeral {kind : ValueKind} (hkind : kind.isFloat) (resource : String)
    (origin : Int64) : ∃ v, parse kind resource origin text = .ok v ∧
      Approximates resource origin negative d.value kind v := by
  have htrim := hpads.trim_eq hnumeral.isBlank_eq_false
  cases hlayout : kind.layout with
  | single =>
    obtain rfl : kind = .float32 := ValueKind.eq_of_layout_eq hlayout
    have hread := Binary.approximates_ofDecimal BinaryFormat.single_withinPowers (by decide) d
      negative
    rw [BinaryFormat.single_limit] at hread
    refine ⟨_, ?_, .single hread⟩
    simp only [parse, native?, hlayout, htrim, hnumeral.ofText_eq, ofNative]
  | double =>
    obtain rfl : kind = .float64 := ValueKind.eq_of_layout_eq hlayout
    have hread := Binary.approximates_ofDecimal BinaryFormat.double_withinPowers (by decide) d
      negative
    rw [BinaryFormat.double_limit] at hread
    refine ⟨_, ?_, .double hread⟩
    simp only [parse, native?, hlayout, htrim, hnumeral.ofText_eq, ofNative]
  | _ => simp [ValueKind.isFloat, hlayout] at hkind

end Parse

end TypedValue

namespace Gateway

variable {δ μ : Type}

/-- A value that is not transformed is what its text is parsed as. -/
theorem parameterValue_of_untransformed {transform : Bool} {now : Int64} {r : Request}
    {parameters : Table String} {text : String} {v : TypedValue}
    (htransform : transform = false ∨ r.object.spec.hasTransform = false)
    (htext : (r.texts parameters).head? = some text)
    (hparse : TypedValue.parse r.object.kind r.object.name now text = .ok v) :
    parameterValue transform now r parameters = .ok v := by
  rw [parameterValue, parameterText_eq_ok.2 htext]
  simp only [bind, Except.bind, hparse]
  split
  · next hon =>
    have hunset : r.object.spec.hasTransform = false := by simpa [hon] using htransform
    rw [ValueSpec.outbound, hunset, if_neg Bool.false_ne_true]
  · rfl

variable [Driver δ] [MetadataSource μ]

/-- A numeral is never refused for its size. As a single or a double it is taken for the nearest
number if it is below the limit of the kind, and otherwise for an infinity; and if it is not to be
transformed, that is what the driver is handed as soon as the write is ready. -/
theorem numeral_taken {text : String} {cs : List Char} {negative : Bool} {q : Decimal}
    (hpads : Pads text.toList cs) (hnumeral : IsNumeral cs negative q) :
    (∀ (kind : ValueKind) (resource : String) (origin : Int64), kind.isFloat →
      ∃ v, TypedValue.parse kind resource origin text = .ok v ∧
        TypedValue.Approximates resource origin negative q.value kind v) ∧
    ∀ (g : Gateway δ μ) (key command : String) (parameters : Table String) (d : Device)
      (rs : List Request) (vs : List TypedValue) (r : Request),
      g.Ready key command parameters d rs vs → r ∈ rs → r.object.kind.isFloat →
      g.settings.dataTransform = false ∨ r.object.spec.hasTransform = false →
      (r.texts parameters).head? = some text →
      (g.put key command parameters).2.writes = g.writes ++ [(d.addressable, rs, vs)] ∧
        ∃ v, (r, v) ∈ rs.zip vs ∧
          TypedValue.Approximates r.object.name g.wall negative q.value r.object.kind v := by
  have hparse := fun (kind : ValueKind) resource origin (hkind : kind.isFloat) =>
    TypedValue.parse_numeral hpads hnumeral hkind resource origin
  refine ⟨hparse, fun g key command parameters d rs vs r hready hr hkind htransform htext => ?_⟩
  refine ⟨writes_put_of_ready hready, ?_⟩
  obtain ⟨v, hv, happroximates⟩ := hparse r.object.kind r.object.name g.wall hkind
  obtain ⟨w, hmem, hw⟩ := hready.exists_mem_zip hr
  obtain rfl : v = w := Except.ok.inj
    ((parameterValue_of_untransformed htransform htext hv).symm.trans hw)
  exact ⟨v, hmem, happroximates⟩

/-- A gateway that has just started, with a tank that has a level of the kind. -/
def tank (kind : ValueKind) : Gateway Simulator FixedSource :=
  launched {} [.ofNames "1" "Tank" "Meter"] [gauge (.ofSpec "Level" (.plain kind))]

/-- What the level is set with. -/
def levelRequest (kind : ValueKind) : Request :=
  ⟨.ofNames "set" "Level", .ofSpec "Level" (.plain kind)⟩

theorem ready_tank {kind : ValueKind} {text : String} {v : TypedValue}
    (h : TypedValue.parse kind "Level" 0 text = .ok v) :
    (tank kind).Ready "Tank" "Level" (.ofList [("Level", text)]) (.ofNames "1" "Tank" "Meter")
      [levelRequest kind] [v] := by
  obtain ⟨hkind, hresource, -⟩ := TypedValue.parse_label h
  exact ⟨prepare_eq_ok.1 rfl, .cons ⟨hresource, hkind, text, v, rfl, h, rfl⟩ .nil⟩

/-- A level of two and a half is written as it is, with a blank behind it. -/
theorem numeral_taken_tank : ∃ v,
    ((tank .float32).put "Tank" "Level" (.ofList [("Level", "+.25e1 ")])).2.writes =
      [({ name := "Tank" }, [levelRequest .float32], [v])] ∧
    TypedValue.Approximates "Level" 0 false (Decimal.value ⟨25, -1⟩) .float32 v := by
  have hpads : Pads "+.25e1 ".toList "+.25e1".toList := ⟨[], [' '], by simp [Text.isBlank], rfl⟩
  have hexponent : IsExponent ['e', '1'] 1 :=
    .inr ⟨'e', ['1'], .inl rfl, ⟨[], false, ['1'], .inl rfl, by simp, by simp, rfl, rfl⟩, rfl⟩
  have hnumeral : IsNumeral "+.25e1".toList false ⟨25, -1⟩ :=
    ⟨['+'], [], ['.'], ['2', '5'], _, 1, .inr rfl, by simp, by simp, .inr rfl, hexponent, rfl, rfl⟩
  obtain ⟨hparse, hput⟩ := numeral_taken (δ := Simulator) (μ := FixedSource) hpads hnumeral
  obtain ⟨v, hv, -⟩ := hparse .float32 "Level" 0 rfl
  obtain ⟨hwrites, w, hmem, hw⟩ := hput (tank .float32) "Tank" "Level" _ _ _ _ _ (ready_tank hv)
    (List.mem_singleton_self _) rfl (.inr rfl) rfl
  obtain ⟨-, rfl⟩ := Prod.mk.inj (List.mem_singleton.1 hmem)
  exact ⟨w, hwrites, hw⟩

/-- As a single `1e39` is an infinity, which is written, where a double of that size is not stored
in a single. -/
theorem infinity_written_tank :
    let v := TypedValue.ofSingle "Level" 0 (Binary.infinite false)
    IsNumeral "1e39".toList false ⟨1, 39⟩ ∧ (Binary.infinite false : Single).isFinite = false ∧
      TypedValue.parse .float32 "Level" 0 "1e39" = .ok v ∧
      ((tank .float32).put "Tank" "Level" (.ofList [("Level", "1e39")])).2.writes =
        [({ name := "Tank" }, [levelRequest .float32], [v])] ∧
      ∃ x, Binary.ofText .double "1e39".toList = .ok x ∧
        (TypedValue.ofSingle "Level" 0 (Binary.zero false)).replace x =
          .error (.overflow x .float32) := by
  intro v
  have hparse : TypedValue.parse .float32 "Level" 0 "1e39" = .ok v := by decide +kernel
  refine ⟨?_, by decide, hparse, writes_put_of_ready (ready_tank hparse), ?_⟩
  · have hexponent : IsExponent ['e', '3', '9'] 39 :=
      .inr ⟨'e', ['3', '9'], .inl rfl, ⟨[], false, _, .inl rfl, by simp, by simp, rfl, rfl⟩, rfl⟩
    exact ⟨[], ['1'], [], [], _, 39, .inl rfl, by simp, by simp, .inl ⟨rfl, rfl⟩, hexponent, rfl,
      rfl⟩
  · exact ⟨BitVec.ofNat _ 0x48078287f49c4a1d, by decide +kernel, by decide +kernel⟩

end Gateway

end DeviceGateway
