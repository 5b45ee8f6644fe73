import DeviceGateway.Driver.Simulator
import DeviceGateway.Proofs.Gateway.Put
import DeviceGateway.Proofs.Gateway.Reachable
import DeviceGateway.Proofs.Value.Logarithm

/-! Writes whose parameters have no logarithm. Where the kind of the value rejects what the
transform comes to, the write is refused and the driver hears nothing of it. Where it does not,
the driver is handed a NaN or an infinity with everything else that the write comes to. -/

namespace DeviceGateway.Gateway

variable {δ μ : Type} {g : Gateway δ μ} {key command : String} {parameters : Table String}
  {d : Device} {rs : List Request} {r : Request}

/-- The value is what the parameter of the request denotes, before its transform. -/
def Given (g : Gateway δ μ) (parameters : Table String) (r : Request) (v : TypedValue) : Prop :=
  ∃ text, (r.texts parameters).head? = some text ∧
    TypedValue.parse r.object.kind r.object.name g.wall text = .ok v

theorem Given.parameterValue_eq {v : TypedValue} (h : g.Given parameters r v) :
    parameterValue true g.wall r parameters = r.object.spec.outbound v := by
  obtain ⟨text, htext, hparse⟩ := h
  rw [parameterValue, parameterText_eq_ok.2 htext]
  simp only [bind, Except.bind, hparse, if_true]

/-- The requests of a command are those that its gates let through. -/
theorem Admits.unique {d' : Device} {rs' : List Request} (h : g.Admits key command .set d rs)
    (h' : g.Admits key command .set d' rs') : d' = d ∧ rs' = rs := by
  have heq := (prepare_eq_ok.2 h').symm.trans (prepare_eq_ok.2 h)
  cases heq
  exact ⟨rfl, rfl⟩

/-- Every request is handed over with the value that it takes. -/
theorem Ready.exists_mem_zip {vs : List TypedValue} (h : g.Ready key command parameters d rs vs)
    (hr : r ∈ rs) : ∃ w, (r, w) ∈ rs.zip vs ∧
      parameterValue g.settings.dataTransform g.wall r parameters = .ok w := by
  obtain ⟨hlength, hsuits⟩ := List.forall₂_iff_zip.1 h.values
  obtain ⟨i, hi, rfl⟩ := List.mem_iff_getElem.1 hr
  have hmem : (rs[i], vs[i]) ∈ rs.zip vs := by
    rw [← List.getElem_zip (h := by rw [List.length_zip]; omega)]
    exact List.getElem_mem _
  exact ⟨_, hmem, parameterValue_eq_ok.2 (hsuits hmem)⟩

variable [Driver δ] [MetadataSource μ]

/-- A request without a value has the whole write refused. -/
theorem put_of_valueless (hadmits : g.Admits key command .set d rs) (hr : r ∈ rs)
    {e : GatewayError}
    (he : parameterValue g.settings.dataTransform g.wall r parameters = .error e) :
    ∃ e', g.put key command parameters = (.error e', g) := by
  cases hprepare : g.prepareWrite key command parameters with
  | error e' => exact ⟨e', put_of_refuses (prepareWrite_eq_error.1 hprepare)⟩
  | ok p =>
    obtain ⟨d', rs', vs⟩ := p
    have hready := prepareWrite_eq_ok.1 hprepare
    obtain ⟨rfl, rfl⟩ := hadmits.unique hready.admits
    obtain ⟨w, -, hw⟩ := hready.exists_mem_zip hr
    rw [he] at hw
    cases hw

/-- A value whose argument has no logarithm is rejected, and nothing is written, exactly if it is
no floating-point number and no text. If it is, a NaN or an infinity is stored in it, and that is
what the driver is handed as soon as the write is ready. -/
theorem put_without_logarithm {spec : ValueSpec} {v : TypedValue} {a b : Double}
    (h : spec.LacksLogarithm v b a) :
    (if v.kind.isFloat ∨ v.kind = .string
      then ∃ n, n.LacksNumber ∧ v.Becomes n (spec.outbound v)
      else ∃ e, spec.outbound v = .error e) ∧
    ∀ (g : Gateway δ μ) (key command : String) (parameters : Table String) (d : Device)
      (rs : List Request) (r : Request), g.settings.dataTransform = true →
      g.Admits key command .set d rs → r ∈ rs → r.object.spec = spec → g.Given parameters r v →
      if v.kind.isFloat ∨ v.kind = .string
      then ∀ vs, g.Ready key command parameters d rs vs →
        (g.put key command parameters).2.writes = g.writes ++ [(d.addressable, rs, vs)] ∧
          ∃ w n, (r, w) ∈ rs.zip vs ∧ n.LacksNumber ∧ w.Denotes n
      else ∃ e, g.put key command parameters = (.error e, g) := by
  have hcases := h.outbound_cases
  refine ⟨hcases, fun g key command parameters d rs r htransform hadmits hr hspec hgiven => ?_⟩
  have hvalue : parameterValue g.settings.dataTransform g.wall r parameters = spec.outbound v := by
    rw [htransform, hgiven.parameterValue_eq, hspec]
  split at hcases
  · next hkind =>
    rw [if_pos hkind]
    intro vs hready
    refine ⟨writes_put_of_ready hready, ?_⟩
    obtain ⟨w, hmem, hw⟩ := hready.exists_mem_zip hr
    obtain ⟨n, hlacks, w', hstored, -, hdenotes⟩ := hcases
    obtain rfl : w' = w := Except.ok.inj (hstored.symm.trans (hvalue.symm.trans hw))
    exact ⟨w', n, hmem, hlacks, hdenotes⟩
  · next hkind =>
    rw [if_neg hkind]
    obtain ⟨e, he⟩ := hcases
    exact put_of_valueless hadmits hr (hvalue.trans he)

/-- A level that the device takes as its binary logarithm. -/
def binaryLevel (kind : ValueKind) : ValueSpec := { kind, readWrite := "RW", base := "2" }

/-- A gateway that has just started, with a pump that has such a level. -/
def pump (kind : ValueKind) : Gateway Simulator FixedSource :=
  launched {} [.ofNames "1" "Pump" "Meter"] [gauge (.ofSpec "Level" (binaryLevel kind))]

/-- The level is set to eight below zero. -/
def below : Table String := .ofList [("Level", "-8")]

theorem admits_pump (kind : ValueKind) : (pump kind).Admits "Pump" "Level" .set
    (.ofNames "1" "Pump" "Meter") [⟨.ofNames "set" "Level", .ofSpec "Level" (binaryLevel kind)⟩] :=
  prepare_eq_ok.1 rfl

/-- As an integer it is refused. -/
theorem put_without_logarithm_integer :
    let v := TypedValue.ofInteger "Level" 0 .int32 (-8)
    (binaryLevel .int32).LacksLogarithm v (.ofInt 2) (.ofInt (-8)) ∧
      (∃ e, (binaryLevel .int32).outbound v = .error e) ∧
      ∃ e, (pump .int32).put "Pump" "Level" below = (.error e, pump .int32) := by
  intro v
  have hlacks : (binaryLevel .int32).LacksLogarithm v (.ofInt 2) (.ofInt (-8)) :=
    ⟨by decide, by decide +kernel, by decide +kernel, by decide +kernel, by decide +kernel,
      by decide +kernel⟩
  obtain ⟨hvalue, hput⟩ := put_without_logarithm (δ := Simulator) (μ := FixedSource) hlacks
  exact ⟨hlacks, hvalue, hput _ "Pump" "Level" below _ _ _ rfl (admits_pump .int32)
    (List.mem_singleton_self _) rfl ⟨"-8", rfl, by decide +kernel⟩⟩

/-- As a double it is written as a NaN. -/
theorem nan_written_pump :
    let v := TypedValue.ofDouble "Level" 0 (.ofInt (-8))
    let w := TypedValue.ofDouble "Level" 0 Binary.nan
    (binaryLevel .float64).LacksLogarithm v (.ofInt 2) (.ofInt (-8)) ∧
      (binaryLevel .float64).outbound v = .ok w ∧
      ((pump .float64).put "Pump" "Level" below).2.writes =
        [({ name := "Pump" }, [⟨.ofNames "set" "Level", .ofSpec "Level" (binaryLevel .float64)⟩],
          [w])] := by
  intro v w
  have hlacks : (binaryLevel .float64).LacksLogarithm v (.ofInt 2) (.ofInt (-8)) :=
    ⟨by decide, by decide +kernel, by decide +kernel, by decide +kernel, by decide +kernel,
      by decide +kernel⟩
  have hstored : (binaryLevel .float64).outbound v = .ok w := by decide +kernel
  have hparse : TypedValue.parse .float64 "Level" 0 "-8" = .ok v := by decide +kernel
  refine ⟨hlacks, hstored, ?_⟩
  have hready : (pump .float64).Ready "Pump" "Level" below (.ofNames "1" "Pump" "Meter")
      [⟨.ofNames "set" "Level", .ofSpec "Level" (binaryLevel .float64)⟩] [w] :=
    ⟨admits_pump .float64, .cons ⟨rfl, rfl, "-8", v, rfl, hparse, hstored⟩ .nil⟩
  exact writes_put_of_ready hready

end DeviceGateway.Gateway
