import DeviceGateway.Proofs.Value.Failure
import DeviceGateway.Proofs.Value.Logarithm

/-! Transforms in place. A transform reads the value that it changes, and may fail at each of its
steps and at last in storing what they come to. It stores once, as its last step, so where it
fails the value is as it was. It fails by a conversion, and outbound also by a transform that
cannot be undone: one by a zero scale, or by a base without a logarithm. -/

namespace DeviceGateway

namespace Binary

/-- The numbers without a logarithm to them: one, zero and those below it, down to the infinity. -/
theorem lacks_logarithm_iff (b : Double) : (b.le (zero false) || b.eq (ofInt 1)) = true ↔
    b.isNaN = false ∧ (b.value ≤ 0 ∨ b.value = 1) := by
  have hpos : (0 : ℚ) < 2 ^ BinaryFormat.double.scale := by positivity
  cases hb : b.isNaN with
  | true => simp [le, eq, hb]
  | false =>
    have hzero : (zero false : Double).signedUnits = 0 := by decide +kernel
    have hone : (ofInt 1 : Double).signedUnits = 2 ^ BinaryFormat.double.scale := by decide +kernel
    have hvalue : b.value = 1 ↔ b.signedUnits = 2 ^ BinaryFormat.double.scale := by
      rw [value, div_eq_one_iff_eq hpos.ne']
      exact_mod_cast Iff.rfl
    have hsign : b.value ≤ 0 ↔ b.signedUnits ≤ 0 := by
      rw [value, div_le_iff₀ hpos, zero_mul, Int.cast_nonpos]
    rw [Bool.or_eq_true, le_iff hb (by decide +kernel), eq_iff hb (by decide +kernel), hzero, hone,
      hvalue, hsign]
    simp

end Binary

/-! ### Transforms that cannot be undone -/

namespace ValueSpec

/-- Why a transform cannot be undone: its scale is zero, or else its base has no logarithm. -/
inductive Irreversible (s : ValueSpec) (resource : String) : String → Prop
  | scale {p : Double} (hscale : SetTo "scale" s.scale p) (hzero : p.value = 0) :
    Irreversible s resource ("scale of " ++ resource ++ " is zero, cannot invert")
  | base {b : Double} (hscale : Permits "scale" s.scale fun p => p.value ≠ 0)
      (hbase : SetTo "base" s.base b) (hnumber : b.isNaN = false)
      (hvalue : b.value ≤ 0 ∨ b.value = 1) :
    Irreversible s resource
      ("base " ++ String.ofList b.text ++ " of " ++ resource ++ " has no logarithm")

section Outbound

variable {s : ValueSpec} {resource detail : String} {x : Double}

theorem exists_offset_iff : (∃ y, step "offset" s.offset x (fun p => .ok (x.sub p)) = .ok y) ↔
    Permits "offset" s.offset fun _ => True := by
  rw [exists_step_iff]
  simp

/-- The scale is taken back exactly if it is not zero. -/
theorem exists_scale_iff {y : Double} :
    (∃ a, step "scale" s.scale y (fun p =>
      if p.isZero then
        .error (.invalidParameter ("scale of " ++ resource ++ " is zero, cannot invert"))
      else .ok (y.div p)) = .ok a) ↔ Permits "scale" s.scale fun p => p.value ≠ 0 := by
  rw [exists_step_iff]
  refine or_congr_right (exists_congr fun p => and_congr_right fun _ => ?_)
  have hzero := p.isZero_iff_value
  beta_reduce
  split <;> simp_all

theorem exists_argument_iff : (∃ a, s.argument resource x = .ok a) ↔
    (Permits "offset" s.offset fun _ => True) ∧
      Permits "scale" s.scale fun p => p.value ≠ 0 := by
  rw [← exists_offset_iff (x := x)]
  constructor
  · rintro ⟨a, h⟩
    obtain ⟨y, hy, ha⟩ := bind_eq_ok.1 h
    exact ⟨⟨y, hy⟩, exists_scale_iff.1 ⟨a, ha⟩⟩
  · rintro ⟨⟨y, hy⟩, hscale⟩
    obtain ⟨a, ha⟩ := exists_scale_iff.2 hscale
    exact ⟨a, bind_eq_ok.2 ⟨y, hy, ha⟩⟩

theorem argument_error {e : GatewayError} (h : s.argument resource x = .error e) :
    e.isConversion ∨ (Permits "offset" s.offset fun _ => True) ∧ ∃ p,
      SetTo "scale" s.scale p ∧ p.value = 0 ∧
        e = .invalidParameter ("scale of " ++ resource ++ " is zero, cannot invert") := by
  rcases bind_eq_error.1 h with h | ⟨y, hy, h⟩
  · exact .inl (step_error h)
  · rcases step_fails h with h | ⟨p, hp, h⟩
    · exact .inl h
    · split at h
      · next hzero =>
        cases h
        exact .inr ⟨exists_offset_iff.1 ⟨y, hy⟩, p, hp, p.isZero_iff_value.1 hzero, rfl⟩
      · cases h

theorem argument_zero_scale (hoffset : Permits "offset" s.offset fun _ => True) {p : Double}
    (hp : SetTo "scale" s.scale p) (hzero : p.value = 0) : s.argument resource x =
      .error (.invalidParameter ("scale of " ++ resource ++ " is zero, cannot invert")) := by
  obtain ⟨y, hy⟩ := exists_offset_iff.2 hoffset
  refine bind_eq_error.2 (.inr ⟨y, hy, ?_⟩)
  rw [step_of_setTo hp, if_pos (p.isZero_iff_value.2 hzero)]

theorem outboundNumber_error {e : GatewayError}
    (h : s.outboundNumber resource x = .error e) :
    e.isConversion ∨ (Permits "offset" s.offset fun _ => True) ∧
      ∃ detail, e = .invalidParameter detail ∧ s.Irreversible resource detail := by
  rw [outboundNumber_eq] at h
  rcases bind_eq_error.1 h with h | ⟨a, ha, h⟩
  · rcases argument_error h with h | ⟨hoffset, p, hp, hzero, rfl⟩
    · exact .inl h
    · exact .inr ⟨hoffset, _, rfl, .scale hp hzero⟩
  · obtain ⟨hoffset, hscale⟩ := exists_argument_iff.1 ⟨a, ha⟩
    rcases step_fails h with h | ⟨b, hb, h⟩
    · exact .inl h
    · split at h
      · next hbase =>
        cases h
        obtain ⟨hnumber, hvalue⟩ := b.lacks_logarithm_iff.1 hbase
        exact .inr ⟨hoffset, _, rfl, .base hscale hb hnumber hvalue⟩
      · cases h

/-- To undo what cannot be undone fails as soon as there is a number to undo it for. -/
theorem Irreversible.outboundNumber_eq (h : s.Irreversible resource detail)
    (hoffset : Permits "offset" s.offset fun _ => True) :
    s.outboundNumber resource x = .error (.invalidParameter detail) := by
  rw [ValueSpec.outboundNumber_eq]
  cases h with
  | scale hp hzero =>
    rw [argument_zero_scale hoffset hp hzero]
    rfl
  | base hscale hb hnumber hvalue =>
    obtain ⟨a, ha⟩ := exists_argument_iff.2 ⟨hoffset, hscale⟩
    refine bind_eq_error.2 (.inr ⟨a, ha, ?_⟩)
    rw [step_of_setTo hb, if_pos (Binary.lacks_logarithm_iff _ |>.2 ⟨hnumber, hvalue⟩)]

theorem Irreversible.hasTransform (h : s.Irreversible resource detail) : s.hasTransform := by
  cases h with
  | scale hp => simp [ValueSpec.hasTransform, hp.set]
  | base _ hb => simp [ValueSpec.hasTransform, hb.set]

variable {v : TypedValue}

theorem outbound_error {e : GatewayError} (h : s.outbound v = .error e) :
    e.isConversion ∨ ((∃ x, v.toDouble = .ok x) ∧ Permits "offset" s.offset fun _ => True) ∧
      ∃ detail, e = .invalidParameter detail ∧ s.Irreversible v.resource detail := by
  unfold outbound at h
  split at h
  · rcases bind_eq_error.1 h with h | ⟨x, hx, h⟩
    · exact .inl (TypedValue.toDouble_error h)
    · rcases bind_eq_error.1 h with h | ⟨y, -, h⟩
      · exact (outboundNumber_error h).imp_right fun ⟨hoffset, he⟩ => ⟨⟨⟨x, hx⟩, hoffset⟩, he⟩
      · exact .inl (TypedValue.replace_error h)
  · cases h

/-- A transform cannot be undone exactly when the value and the offset can be read and there is a
reason why not. -/
theorem outbound_eq_invalidParameter_iff :
    s.outbound v = .error (.invalidParameter detail) ↔
      (∃ x, v.toDouble = .ok x) ∧ (Permits "offset" s.offset fun _ => True) ∧
        s.Irreversible v.resource detail := by
  constructor
  · intro h
    rcases outbound_error h with h | ⟨⟨hview, hoffset⟩, _, he, hreason⟩
    · cases h
    · cases he
      exact ⟨hview, hoffset, hreason⟩
  · rintro ⟨⟨x, hx⟩, hoffset, hreason⟩
    rw [outbound_of_toDouble hreason.hasTransform hx, hreason.outboundNumber_eq hoffset]
    rfl

end Outbound

end ValueSpec

/-! ### In place -/

/-- Computations on a value that they hold and may replace. One that fails leaves the value as it
has made it by then: nothing is taken back. -/
abbrev InPlace := EStateM GatewayError TypedValue

namespace InPlace

/-- A computation that does not touch the value. -/
def aside {α : Type} (x : Except GatewayError α) : InPlace α :=
  match x with
  | .ok a => pure a
  | .error e => throw e

/-- A number is stored in the value. -/
def store (x : Double) : InPlace Unit := do
  let w ← aside ((← get).replace x)
  set w

/-- The outcome in place of what has been made of the value. -/
def outcome (v : TypedValue) : Except GatewayError TypedValue →
    EStateM.Result GatewayError TypedValue Unit
  | .ok w => .ok () w
  | .error e => .error e v

section Run

variable {α : Type} {v : TypedValue}

theorem run_aside_bind {x : Except GatewayError α} {k : α → InPlace Unit}
    {f : α → Except GatewayError TypedValue} (h : ∀ a, (k a).run v = outcome v (f a)) :
    (aside x >>= k).run v = outcome v (x >>= f) := by
  cases x with
  | error e => rfl
  | ok a => exact h a

theorem run_store (x : Double) (v : TypedValue) : (store x).run v = outcome v (v.replace x) := by
  show (aside (v.replace x) >>= set).run v = _
  cases v.replace x <;> rfl

end Run

end InPlace

namespace ValueSpec

open InPlace (aside store outcome run_aside_bind run_store)

/-- The inbound transform, as it is made on a value in its place. -/
def inboundInPlace (s : ValueSpec) : InPlace Unit := do
  if s.hasTransform then
    let v ← get
    let x ← aside v.toDouble
    let x ← aside (step "base" s.base x fun p => .ok (p.pow x))
    let x ← aside (step "scale" s.scale x fun p => .ok (x.mul p))
    let x ← aside (step "offset" s.offset x fun p => .ok (x.add p))
    store x

/-- The outbound transform, as it is made on a value in its place. -/
def outboundInPlace (s : ValueSpec) : InPlace Unit := do
  if s.hasTransform then
    let v ← get
    let x ← aside v.toDouble
    let x ← aside (step "offset" s.offset x fun p => .ok (x.sub p))
    let x ← aside (step "scale" s.scale x fun p =>
      if p.isZero then
        .error (.invalidParameter ("scale of " ++ v.resource ++ " is zero, cannot invert"))
      else .ok (x.div p))
    let x ← aside (step "base" s.base x fun p =>
      if p.le (Binary.zero false) || p.eq (Binary.ofInt 1) then
        .error (.invalidParameter
          ("base " ++ String.ofList p.text ++ " of " ++ v.resource ++ " has no logarithm"))
      else .ok (x.logBase p))
    store x

variable (s : ValueSpec) (v : TypedValue)

theorem run_inboundInPlace : s.inboundInPlace.run v = outcome v (s.inbound v) := by
  unfold inboundInPlace inbound
  split
  · simp only [inboundNumber, bind_assoc]
    exact run_aside_bind fun x => run_aside_bind fun x => run_aside_bind fun x =>
      run_aside_bind fun x => run_store x v
  · rfl

theorem run_outboundInPlace : s.outboundInPlace.run v = outcome v (s.outbound v) := by
  unfold outboundInPlace outbound
  split
  · simp only [outboundNumber, bind_assoc]
    exact run_aside_bind fun x => run_aside_bind fun x => run_aside_bind fun x =>
      run_aside_bind fun x => run_store x v
  · rfl

/-- Transforms are all or nothing. In its place a value becomes what the transform makes of it,
under its own label, or is left as it is with the error of the transform. Without a step set it is
left as it is and there is no error, whatever it holds. Inbound the errors are those of conversion.
Outbound there is one more, for a transform that cannot be undone, which is made exactly when the
value and the offset can be read and the scale is a zero, or it is no zero and the base is one or
not positive. -/
theorem transforms_atomic (s : ValueSpec) (v : TypedValue) :
    (match s.inboundInPlace.run v with
      | .ok () w => s.inbound v = .ok w ∧ v.SameLabel w
      | .error e w => s.inbound v = .error e ∧ w = v ∧ e.isConversion) ∧
    (match s.outboundInPlace.run v with
      | .ok () w => s.outbound v = .ok w ∧ v.SameLabel w
      | .error e w => s.outbound v = .error e ∧ w = v ∧
          (e.isConversion ∨ ∃ detail, e = .invalidParameter detail)) ∧
    (s.base = "" ∧ s.scale = "" ∧ s.offset = "" →
      s.inboundInPlace.run v = .ok () v ∧ s.outboundInPlace.run v = .ok () v) ∧
    ∀ detail, s.outboundInPlace.run v = .error (.invalidParameter detail) v ↔
      (∃ x, v.toDouble = .ok x) ∧ (Permits "offset" s.offset fun _ => True) ∧
        s.Irreversible v.resource detail := by
  rw [run_inboundInPlace, run_outboundInPlace]
  refine ⟨?_, ?_, ?_, fun detail => ?_⟩
  · cases h : s.inbound v with
    | ok w => exact ⟨rfl, inbound_label h⟩
    | error e => exact ⟨rfl, rfl, inbound_error h⟩
  · cases h : s.outbound v with
    | ok w => exact ⟨rfl, outbound_label h⟩
    | error e =>
      exact ⟨rfl, rfl, (outbound_error h).imp_right fun ⟨_, detail, he, _⟩ => ⟨detail, he⟩⟩
  · rintro ⟨hbase, hscale, hoffset⟩
    have hunset : s.hasTransform = false := by simp [hasTransform, hbase, hscale, hoffset]
    simp [inbound, outbound, hunset, outcome]
  · rw [← outbound_eq_invalidParameter_iff]
    cases s.outbound v <;> simp [outcome]

/-- A negative zero is zero, and the base after it is not looked at. -/
example : ({ kind := .uint8, base := "two", scale := " -0.0 " } : ValueSpec).outbound
    (.ofInteger "Level" 7 .uint8 200) =
      .error (.invalidParameter "scale of Level is zero, cannot invert") := by
  decide +kernel

end ValueSpec

end DeviceGateway
