import DeviceGateway.Proofs.Gateway.Complete
import DeviceGateway.Proofs.Gateway.Reports
import DeviceGateway.Proofs.Normalization.Pairing
import DeviceGateway.Proofs.Value.Failure
import Mathlib.Logic.Function.Iterate

/-! Values are normalised independently of each other. What is made of all of them at once is what
is made of one after the other, each on the gateway that those before it have left, and that is
what is made of each alone. The device is disabled if any of them fails its assertion, and every
such failure is reported. -/

namespace DeviceGateway

/-! ### Assertions -/

namespace Request

variable (r : Request) (transform : Bool) (v : TypedValue)

/-- The value as it is checked: with its transform, if that is made. -/
def checked : Except GatewayError TypedValue :=
  if transform then r.object.spec.inbound v else .ok v

/-- The value fails its assertion: another text is asserted than it has when it is checked. -/
def refutes : Bool :=
  match r.checked transform v with
  | .error _ => false
  | .ok w => r.object.spec.assertion ≠ "" && w.text ≠ r.object.spec.assertion

/-- A value fails when it cannot be transformed, fails its assertion or has no mapping, and else
is read. -/
theorem normalize_cases :
    (∃ e, r.checked transform v = .error e ∧ r.normalize transform v = .error e ∧
      e.isConversion) ∨
    ∃ w, r.checked transform v = .ok w ∧
      (r.refutes transform v = true ∧
        r.normalize transform v = .error (.assertionFailed r.object.spec.assertion w.text) ∨
      r.refutes transform v = false ∧
        (r.normalize transform v = .error (.mappingNotFound w.text) ∨
          ∃ x, r.normalize transform v = .ok x)) := by
  have hnormalize : r.normalize transform v = (r.checked transform v >>= fun w =>
      r.object.spec.check w >>= fun _ => r.operation.mapValue w) := by
    cases transform <;> rfl
  rw [hnormalize]
  cases hchecked : r.checked transform v with
  | error e =>
    refine .inl ⟨e, rfl, rfl, ?_⟩
    unfold checked at hchecked
    split at hchecked
    · exact ValueSpec.inbound_error hchecked
    · cases hchecked
  | ok w =>
    refine .inr ⟨w, rfl, ?_⟩
    have hrefutes : r.refutes transform v =
        (r.object.spec.assertion ≠ "" && w.text ≠ r.object.spec.assertion) := by
      simp only [refutes, hchecked]
    by_cases hassertion : r.object.spec.assertion = "" ∨ w.text = r.object.spec.assertion
    · have hcheck : r.object.spec.check w = .ok () := if_pos hassertion
      refine .inr ⟨by simpa [hrefutes] using hassertion.resolve_left, ?_⟩
      simp only [bind, Except.bind, hcheck, Operation.mapValue]
      split
      · exact .inr ⟨_, rfl⟩
      · split
        · exact .inr ⟨_, rfl⟩
        · exact .inl rfl
    · have hcheck : r.object.spec.check w =
          .error (.assertionFailed r.object.spec.assertion w.text) := if_neg hassertion
      refine .inl ⟨by simpa [hrefutes] using hassertion, ?_⟩
      simp only [bind, Except.bind, hcheck]

/-- An assertion is what a value fails that refutes it. -/
theorem refutes_iff : r.refutes transform v = true ↔
    ∃ expected actual, r.normalize transform v = .error (.assertionFailed expected actual) := by
  rcases r.normalize_cases transform v with ⟨e, hchecked, he, hconversion⟩ |
    ⟨w, -, ⟨hrefutes, he⟩ | ⟨hrefutes, he | ⟨x, he⟩⟩⟩
  · have hrefutes : r.refutes transform v = false := by simp only [refutes, hchecked]
    have hother : ∀ expected actual, e ≠ .assertionFailed expected actual := by
      rintro expected actual rfl
      cases hconversion
    simp [he, hrefutes, hother]
  · simp [he, hrefutes]
  · simp [he, hrefutes]
  · simp [he, hrefutes]

theorem isTransformError_of_normalize {r : Request} {transform : Bool} {v : TypedValue}
    {e : GatewayError} (h : r.normalize transform v = .error e) : e.isTransformError := by
  rcases r.normalize_cases transform v with ⟨e', -, he, hconversion⟩ |
    ⟨w, -, ⟨-, he⟩ | ⟨-, he | ⟨x, he⟩⟩⟩
  · obtain rfl : e' = e := Except.error.inj (he.symm.trans h)
    cases e' <;> first | rfl | cases hconversion
  · cases he.symm.trans h
    rfl
  · cases he.symm.trans h
    rfl
  · cases he.symm.trans h

end Request

/-! ### Outcomes -/

/-- The request that the value in a place answers, as one of `count` values. -/
def requestAt? (rs : List Request) (count place : Nat) (v : TypedValue) : Option Request :=
  if count = rs.length then rs[place]? else rs.find? (·.object.name = v.resource)

theorem pairing_eq_mapIdx (rs : List Request) (vs : List TypedValue) :
    pairing rs vs = vs.mapIdx fun place v => (requestAt? rs vs.length place v, v) := by
  unfold pairing requestAt?
  split
  · next hlength =>
    refine List.ext_getElem (by simp [hlength]) fun place hzip _ => ?_
    have hplace : place < rs.length := by simpa [hlength] using hzip
    simp [List.getElem?_eq_getElem hplace]
  · exact List.ext_getElem (by simp) (by simp)

namespace Outcome

variable (transform : Bool) (now : Int64) (device : String)

/-- The value fails the assertion of its request. -/
def refuted (p : Option Request × TypedValue) : Bool := p.1.any (·.refutes transform p.2)

theorem failedAssertions_ofValue (p : Option Request × TypedValue) :
    (ofValue transform now device p).failedAssertions =
      if refuted transform p then 1 else 0 := by
  obtain ⟨request, v⟩ := p
  cases request with
  | none => rfl
  | some r =>
    simp only [ofValue, refuted, Option.any_some]
    rcases r.normalize_cases transform v with ⟨e, hchecked, he, hconversion⟩ |
      ⟨w, -, ⟨hrefutes, he⟩ | ⟨hrefutes, he | ⟨x, he⟩⟩⟩
    · have hrefutes : r.refutes transform v = false := by simp only [Request.refutes, hchecked]
      have hother : isAssertionFailure e = false := by
        cases e <;> first | rfl | cases hconversion
      simp [he, hrefutes, hother]
    · simp [he, hrefutes, isAssertionFailure]
    · simp [he, hrefutes, isAssertionFailure]
    · simp [he, hrefutes]

theorem failedAssertions_ofPairs (pairs : List (Option Request × TypedValue)) :
    (ofPairs transform now device pairs).failedAssertions =
      pairs.countP (refuted transform) := by
  induction pairs with
  | nil => rfl
  | cons p pairs ih =>
    rw [ofPairs_cons, append, failedAssertions_ofValue, ih, List.countP_cons, Nat.add_comm]

theorem readings_ofPairs_filterMap (pairs : List (Option Request × TypedValue)) :
    (ofPairs transform now device pairs).readings =
      pairs.filterMap fun p => p.1.bind fun r => reading? transform now device r p.2 := by
  rw [readings_ofPairs]
  induction pairs with
  | nil => rfl
  | cons p pairs ih =>
    obtain ⟨request, v⟩ := p
    rw [List.flatMap_cons, ih, List.filterMap_cons]
    cases request with
    | none => rfl
    | some r =>
      rw [readings_ofValue, Option.bind_some]
      cases reading? transform now device r v <;> rfl

theorem complete_ofPairs_iff (pairs : List (Option Request × TypedValue)) :
    (ofPairs transform now device pairs).complete = true ↔
      ∀ p ∈ pairs, ∃ r w, p.1 = some r ∧ r.normalize transform p.2 = .ok w := by
  induction pairs with
  | nil => simp [ofPairs]
  | cons p pairs ih =>
    rw [ofPairs_cons, append, Bool.and_eq_true, ih, List.forall_mem_cons]
    refine and_congr_left fun _ => ?_
    obtain ⟨request, v⟩ := p
    cases request with
    | none => simp [ofValue]
    | some r => cases hr : r.normalize transform v <;> simp [ofValue, hr]

end Outcome

namespace Gateway

open MetadataSource (noted)

variable {δ μ : Type}

/-! ### One after the other -/

/-- A value is normalised on the gateway as it is. -/
def normalizeOne (g : Gateway δ μ) (device : String) (p : Option Request × TypedValue) :
    Outcome × Gateway δ μ :=
  let o := Outcome.ofValue g.settings.dataTransform g.wall device p
  (o, g.settleOutcome device o)

/-- The values are normalised one after the other, each on the gateway that those before it have
left. -/
def normalizeEach (g : Gateway δ μ) (device : String) :
    List (Option Request × TypedValue) → List Outcome × Gateway δ μ
  | [] => ([], g)
  | p :: ps =>
    let (o, g) := g.normalizeOne device p
    let (os, g) := g.normalizeEach device ps
    (o :: os, g)

theorem settleOutcome_append (g : Gateway δ μ) (device : String) (a b : Outcome) :
    (g.settleOutcome device a).settleOutcome device b =
      g.settleOutcome device (a.append b) := by
  have hregistry : b.settle device (a.settle device g.registry) =
      (a.append b).settle device g.registry := by
    have htwice : (g.registry.disable device).disable device = g.registry.disable device := by
      show g.registry.disableAll [device, device] = g.registry.disableAll [device]
      exact Registry.disableAll_congr g.registry (by simp)
    by_cases ha : a.failedAssertions = 0 <;> by_cases hb : b.failedAssertions = 0 <;>
      simp [Outcome.settle, Outcome.append, ha, hb, htwice]
  simp only [settleOutcome, enqueue, hregistry, Outcome.append, List.replicate_add,
    List.append_assoc]

/-- One after the other the values have the outcomes that each has alone, and leave what is left
when all are settled at once. -/
theorem normalizeEach_eq (g : Gateway δ μ) (device : String)
    (pairs : List (Option Request × TypedValue)) :
    g.normalizeEach device pairs = (pairs.map fun p => (g.normalizeOne device p).1,
      g.settleOutcome device
        (Outcome.ofPairs g.settings.dataTransform g.wall device pairs)) := by
  induction pairs generalizing g with
  | nil =>
    have hnothing : g.settleOutcome device {} = g := by
      simp [settleOutcome, enqueue, Outcome.settle]
    exact congrArg (Prod.mk []) hnothing.symm
  | cons p pairs ih =>
    let o := Outcome.ofValue g.settings.dataTransform g.wall device p
    show (o :: ((g.settleOutcome device o).normalizeEach device pairs).1,
      ((g.settleOutcome device o).normalizeEach device pairs).2) = _
    rw [ih]
    exact congrArg (Prod.mk _) (settleOutcome_append g device o _)

/-! ### Reports -/

/-- Each report is made once, and nothing else. -/
theorem foldl_report [Driver δ] [MetadataSource μ] (g : Gateway δ μ) (device : String) (n : Nat) :
    (List.replicate n (GatewayTask.report device)).foldl runTask g = { g with
      source := (noted device)^[n] g.source
      trace := g.trace ++ List.replicate n (g.clock, .reported device .disabled) } := by
  induction n generalizing g with
  | zero => simp
  | succ n ih =>
    rw [List.replicate_succ, List.foldl_cons, runTask_report_eq, ih, List.replicate_succ]
    simp only [List.append_assoc, List.singleton_append, Function.iterate_succ_apply]

/-! ### All at once -/

/-- The values of a driver do not matter to each other. The readings are, in the order of the
values, one for each that answers a request and is normalised, named after the object of that; the
outcome is complete if that is every value. What becomes of a value is what becomes of it alone,
and to settle what becomes of all is to normalise one after the other. The registry changes at most
in the state of the device, which is disabled afterwards if it was before or a value fails its
assertion; the rest of the gateway stays, but for one report to be made for each value that does.
And a value that is dropped never fails with anything else than an error of its transform. -/
theorem values_independent [Driver δ] [MetadataSource μ] (g : Gateway δ μ) (device : String)
    (rs : List Request) (vs : List TypedValue) :
    let transform := g.settings.dataTransform
    let pairs := vs.mapIdx fun place v => (requestAt? rs vs.length place v, v)
    let o := Outcome.ofValues transform g.wall device rs vs
    let h := g.settleOutcome device o
    o.readings = pairs.filterMap (fun p =>
      p.1.bind fun r => Outcome.reading? transform g.wall device r p.2) ∧
    (∀ r v reading, Outcome.reading? transform g.wall device r v = some reading →
      reading.name = r.object.name) ∧
    (o.complete = true ↔
      ∀ p ∈ pairs, ∃ r w, p.1 = some r ∧ r.normalize transform p.2 = .ok w) ∧
    o = (pairs.map fun p => (g.normalizeOne device p).1).foldr Outcome.append {} ∧
    g.normalizeEach device pairs = (pairs.map fun p => (g.normalizeOne device p).1, h) ∧
    g.registry.SameButState device h.registry ∧
    (g.registry.byName.get? device = none → h.registry = g.registry) ∧
    (∀ d, g.registry.byName.get? device = some d →
      ∃ d', h.registry.byName.get? device = some d' ∧ (d'.operatingState = .disabled ↔
        d.operatingState = .disabled ∨ ∃ p ∈ pairs, Outcome.refuted transform p)) ∧
    h = { g with
      registry := h.registry
      ready := g.ready ++
        List.replicate (pairs.countP (Outcome.refuted transform)) (.report device) } ∧
    (∀ (k : Gateway δ μ) n, (List.replicate n (GatewayTask.report device)).foldl runTask k =
      { k with
        source := (noted device)^[n] k.source
        trace := k.trace ++ List.replicate n (k.clock, .reported device .disabled) }) ∧
    ∀ (r : Request) v, (r.refutes transform v = true ↔ ∃ expected actual,
        r.normalize transform v = .error (.assertionFailed expected actual)) ∧
      ∀ e, r.normalize transform v = .error e → e.isTransformError := by
  intro transform pairs o h
  have hoPairs : o = Outcome.ofPairs transform g.wall device pairs :=
    congrArg (Outcome.ofPairs transform g.wall device) (pairing_eq_mapIdx rs vs)
  have hfailed : o.failedAssertions = pairs.countP (Outcome.refuted transform) := by
    rw [hoPairs, Outcome.failedAssertions_ofPairs]
  have hregistry : h.registry = o.settle device g.registry := rfl
  refine ⟨?_, fun r v reading hreading => ?_, ?_, hoPairs, ?_,
    o.sameButState_settle device g.registry, fun hnone => ?_, fun d hd => ?_, ?_,
    fun k n => foldl_report k device n,
    fun r v => ⟨r.refutes_iff transform v, fun e => Request.isTransformError_of_normalize⟩⟩
  · rw [hoPairs, Outcome.readings_ofPairs_filterMap]
  · obtain ⟨w, -, rfl⟩ := Option.map_eq_some_iff.1 hreading
    rfl
  · rw [hoPairs, Outcome.complete_ofPairs_iff]
  · rw [normalizeEach_eq, ← hoPairs]
  · rw [hregistry, Outcome.settle]
    split
    · rfl
    · simp only [Registry.disable, Registry.updateOperatingState, hnone]
  · have hsome : (∃ p ∈ pairs, Outcome.refuted transform p) ↔ o.failedAssertions ≠ 0 := by
      rw [hfailed, ← Nat.pos_iff_ne_zero, List.countP_pos_iff]
    rw [hregistry, Outcome.settle, hsome]
    by_cases hnone : o.failedAssertions = 0
    · exact ⟨d, by simp [hnone, hd], by simp [hnone]⟩
    · refine ⟨{ d with operatingState := .disabled }, ?_, by simp [hnone]⟩
      rw [if_neg hnone, Registry.byName_disable, hd]
      simp [Registry.stateAmong]
  · rw [← hfailed]
    rfl

end Gateway

end DeviceGateway
