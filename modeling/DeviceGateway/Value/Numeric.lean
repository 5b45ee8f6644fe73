import DeviceGateway.Value.Basic

/-! The numeric view of a value: every transform works on a double, read from the
text of the value and stored back under the value's own kind. -/

namespace DeviceGateway.TypedValue

/-- The text of the value read as a double. -/
def toDouble (v : TypedValue) : Except GatewayError Double :=
  match Binary.ofText .double (Text.trim v.text.toList) with
  | .ok x => .ok x
  | .error e =>
    .error (.transformParse (v.describe ++ " cannot be parsed to float64: " ++ e.message))

/-- The integer part of a double, if the layout holds it. It is taken in 128 bits, which
hold every layout, and only where a comparison of doubles leaves room for it. -/
def fitInteger (x : Double) (kind : ValueKind) (signed : Bool) (bytes : Nat) :
    Except GatewayError Int :=
  let low := leastInteger true 16
  let high := greatestInteger true 16
  if !x.isFinite then .error (.overflow x kind)
  else if x.whole.lt (.ofInt low) || Binary.lt (.ofInt high) x.whole then
    .error (.overflow x kind)
  else
    let n := x.whole.clamp low high
    if leastInteger signed bytes ≤ n ∧ n ≤ greatestInteger signed bytes then .ok n
    else .error (.overflow x kind)

section Fit

variable {x : Double} {kind : ValueKind} {signed : Bool} {bytes : Nat}

theorem fitInteger_range {n : Int} (h : fitInteger x kind signed bytes = .ok n) :
    leastInteger signed bytes ≤ n ∧ n ≤ greatestInteger signed bytes := by
  simp only [fitInteger] at h
  split at h
  · cases h
  · split at h
    · cases h
    · split at h
      · next hrange =>
        cases h
        exact hrange
      · cases h

theorem fitInteger_error {e : GatewayError} (h : fitInteger x kind signed bytes = .error e) :
    e = .overflow x kind := by
  simp only [fitInteger] at h
  split at h
  · cases h
    rfl
  · split at h
    · cases h
      rfl
    · split at h <;> cases h
      rfl

end Fit

/-- A double beyond the largest finite single. -/
def beyondSingle (x : Double) : Bool :=
  x.isFinite && Binary.lt (Binary.greatest : Single).convert x.abs

/-- The value with `x` stored in it: integers lose the fraction and must fit, a
string takes the decimal text. Kind, origin and resource stay. -/
def replace (v : TypedValue) (x : Double) : Except GatewayError TypedValue :=
  match v.kind.layout with
  | .flag =>
    .error (.transformParse
      ("cannot store " ++ String.ofList x.text ++ " into a Bool value"))
  | .text => .ok (ofString v.resource v.origin (String.ofList x.text))
  | .integer signed bytes =>
    (fitInteger x v.kind signed bytes).map fun n => ofInteger v.resource v.origin v.kind n
  | .single =>
    if beyondSingle x then .error (.overflow x .float32)
    else .ok (ofSingle v.resource v.origin x.convert)
  | .double => .ok (ofDouble v.resource v.origin x)

end DeviceGateway.TypedValue
