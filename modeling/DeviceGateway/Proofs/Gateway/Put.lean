import DeviceGateway.Gateway.Command
import DeviceGateway.Proofs.Gateway.Prepare
import DeviceGateway.Proofs.Gateway.Trace
import DeviceGateway.Proofs.Value.Label

/-! Writing to a device is all or nothing. A write passes its gates in order and fails at
the first that is shut. Behind the last one the driver is called, once, with one value for
each request; nothing else comes of the write. -/

namespace DeviceGateway

/-! ### One value for each request -/

/-- The texts from which the value of a request may be made, in order of preference. -/
def Request.texts (r : Request) (parameters : Table String) : List String :=
  (parameters.get? r.object.name).toList ++
    [r.operation.parameter, r.object.spec.defaultValue].filter (· ≠ "")

namespace Gateway

/-- `v` is what the first text of the request denotes, as the device takes it. -/
structure Suits (transform : Bool) (now : Int64) (parameters : Table String) (r : Request)
    (v : TypedValue) : Prop where
  resource : v.resource = r.object.name
  kind : v.kind = r.object.kind
  made : ∃ text w, (r.texts parameters).head? = some text ∧
    TypedValue.parse r.object.kind r.object.name now text = .ok w ∧
    (if transform then r.object.spec.outbound w else .ok w) = .ok v

section Values

variable {transform : Bool} {now : Int64} {parameters : Table String}

theorem parameterText_eq_ok {r : Request} {text : String} :
    parameterText r parameters = .ok text ↔ (r.texts parameters).head? = some text := by
  unfold parameterText Request.texts
  cases parameters.get? r.object.name with
  | some s => simp
  | none =>
    by_cases ho : r.operation.parameter = ""
    · by_cases hd : r.object.spec.defaultValue = "" <;> simp [ho, hd]
    · simp [ho]

theorem parameterValue_eq_ok {r : Request} {v : TypedValue} :
    parameterValue transform now r parameters = .ok v ↔ Suits transform now parameters r v := by
  constructor
  · intro h
    obtain ⟨text, htext, h⟩ := bind_eq_ok.1 h
    obtain ⟨w, hw, hv⟩ := bind_eq_ok.1 h
    obtain ⟨hkind, hresource, -⟩ := TypedValue.parse_label hw
    have hlabel : w.SameLabel v := by
      cases transform with
      | true => exact ValueSpec.outbound_label hv
      | false => exact Except.ok.inj hv ▸ .refl w
    exact ⟨hlabel.resource.trans hresource, hlabel.kind.trans hkind, text, w,
      parameterText_eq_ok.1 htext, hw, hv⟩
  · rintro ⟨-, -, text, w, htext, hw, hv⟩
    exact bind_eq_ok.2 ⟨text, parameterText_eq_ok.2 htext, bind_eq_ok.2 ⟨w, hw, hv⟩⟩

theorem parameterValues_eq_mapM (rs : List Request) :
    parameterValues transform now parameters rs =
      rs.mapM fun r => parameterValue transform now r parameters := by
  induction rs with
  | nil => rfl
  | cons r rs ih => rw [parameterValues, ih, List.mapM_cons]

theorem parameterValues_eq_ok {rs : List Request} {vs : List TypedValue} :
    parameterValues transform now parameters rs = .ok vs ↔
      List.Forall₂ (Suits transform now parameters) rs vs := by
  simp only [parameterValues_eq_mapM, mapM_eq_ok, parameterValue_eq_ok]

/-- The values fail with the first of them that fails. -/
theorem parameterValues_eq_error {rs : List Request} {e : GatewayError} :
    parameterValues transform now parameters rs = .error e ↔
      ∃ before r after, rs = before ++ r :: after ∧
        (∀ q ∈ before, ∃ v, Suits transform now parameters q v) ∧
        parameterValue transform now r parameters = .error e := by
  simp only [parameterValues_eq_mapM, mapM_eq_error, parameterValue_eq_ok]

end Values

/-! ### The gates of a write -/

section Put

variable {δ μ : Type} (g : Gateway δ μ) (key command : String) (parameters : Table String)

/-- All gates of the write are open, and `vs` are the values for its requests. -/
structure Ready (d : Device) (rs : List Request) (vs : List TypedValue) : Prop where
  admits : g.Admits key command .set d rs
  values : List.Forall₂ (Suits g.settings.dataTransform g.wall parameters) rs vs

/-- The first gate of the write that is shut gives this error: one of the gates before every
command, or the first request that has no value. -/
inductive Refuses : GatewayError → Prop where
  | barred {e : GatewayError} (h : g.Bars key command .set e) : Refuses e
  | valueless {d : Device} {before after : List Request} {r : Request} {e : GatewayError}
      (admits : g.Admits key command .set d (before ++ r :: after))
      (valued : ∀ q ∈ before, ∃ v, Suits g.settings.dataTransform g.wall parameters q v)
      (h : parameterValue g.settings.dataTransform g.wall r parameters = .error e) : Refuses e

variable {g key command parameters}

theorem prepareWrite_eq_ok {d : Device} {rs : List Request} {vs : List TypedValue} :
    g.prepareWrite key command parameters = .ok (d, rs, vs) ↔
      g.Ready key command parameters d rs vs := by
  constructor
  · intro h
    obtain ⟨⟨d', rs'⟩, hp, h⟩ := bind_eq_ok.1 h
    obtain ⟨vs', hvs, h⟩ := bind_eq_ok.1 h
    cases h
    exact ⟨prepare_eq_ok.1 hp, parameterValues_eq_ok.1 hvs⟩
  · intro h
    refine bind_eq_ok.2 ⟨(d, rs), prepare_eq_ok.2 h.admits, ?_⟩
    exact bind_eq_ok.2 ⟨vs, parameterValues_eq_ok.2 h.values, rfl⟩

theorem prepareWrite_eq_error {e : GatewayError} :
    g.prepareWrite key command parameters = .error e ↔ g.Refuses key command parameters e := by
  constructor
  · intro h
    rcases bind_eq_error.1 h with h | ⟨⟨d, rs⟩, hp, h⟩
    · exact .barred (prepare_eq_error.1 h)
    · rcases bind_eq_error.1 h with h | ⟨vs, -, h⟩
      · obtain ⟨before, r, after, rfl, hbefore, hr⟩ := parameterValues_eq_error.1 h
        exact .valueless (prepare_eq_ok.1 hp) hbefore hr
      · cases h
  · intro h
    cases h with
    | barred h => exact bind_eq_error.2 (.inl (prepare_eq_error.2 h))
    | @valueless d before after r e hadmits hbefore h =>
      have hvalues := parameterValues_eq_error.2 ⟨before, r, after, rfl, hbefore, h⟩
      exact bind_eq_error.2 (.inr ⟨_, prepare_eq_ok.2 hadmits, bind_eq_error.2 (.inl hvalues)⟩)

/-! ### The write itself -/

/-- What the driver was called to write, in order. -/
def writes (g : Gateway δ μ) : List (Addressable × List Request × List TypedValue) :=
  g.trace.filterMap fun e => match e.2 with
    | .wrote target requests values => some (target, requests, values)
    | _ => none

theorem writes_of_isOwn {new : List (Nat × Deed)} (h : ∀ e ∈ new, e.2.isOwn) :
    writes { g with trace := new } = [] := by
  refine List.filterMap_eq_nil_iff.2 fun e he => ?_
  have hown := h e he
  split
  · next hw => simp [hw, Deed.isOwn] at hown
  · rfl

variable [Driver δ] [MetadataSource μ]

theorem put_of_refuses {e : GatewayError} (h : g.Refuses key command parameters e) :
    g.put key command parameters = (.error e, g) := by
  simp only [put, prepareWrite_eq_error.2 h]

/-- The gateway after a write is the one that has waited for the driver, but for the call
in its trace. -/
theorem put_of_ready {d : Device} {rs : List Request} {vs : List TypedValue}
    (h : g.Ready key command parameters d rs vs) :
    let reply := Driver.write g.driver d.addressable rs vs
    let answer := reply.1.asDriver.within g.settings.timeout
    let waited := { g with driver := reply.2 }.pass answer.1
    ∃ new, waited.trace = g.trace ++ new ∧ (∀ e ∈ new, e.2.isOwn) ∧
      g.put key command parameters = (answer.2, { waited with
        trace := g.trace ++ (g.clock, .wrote d.addressable rs vs) :: new }) := by
  intro reply answer waited
  obtain ⟨new, hown, hpast⟩ := pass_trace { g with driver := reply.2 } answer.1
  refine ⟨new, congrArg trace (hpast g.trace), hown, ?_⟩
  have hput : g.put key command parameters = (answer.2,
      { g with driver := reply.2 }.record (.wrote d.addressable rs vs) |>.pass answer.1) := by
    simp only [put, prepareWrite_eq_ok.2 h]
    rfl
  have hcalled := hpast (g.trace ++ [(g.clock, .wrote d.addressable rs vs)])
  rw [List.append_assoc] at hcalled
  exact hput.trans (congrArg (Prod.mk answer.2) hcalled)

theorem writes_put_of_ready {d : Device} {rs : List Request} {vs : List TypedValue}
    (h : g.Ready key command parameters d rs vs) :
    (g.put key command parameters).2.writes = g.writes ++ [(d.addressable, rs, vs)] := by
  obtain ⟨new, -, hown, hput⟩ := put_of_ready h
  have hnew := writes_of_isOwn (g := g) hown
  rw [hput]
  simp only [writes] at hnew ⊢
  simp [hnew]

/-- A write is refused at the first gate that is shut and then changes nothing, or the
driver is called once: with the requests in the order of the profile, and for each of them
the value that it takes. Otherwise the gateway only waits for the answer, which changes
nothing while it is quiet. -/
theorem put_all_or_nothing (g : Gateway δ μ) (key command : String)
    (parameters : Table String) :
    ((∃ e, g.Refuses key command parameters e ∧
        g.put key command parameters = (.error e, g)) ∨
      ∃ d rs vs, g.Ready key command parameters d rs vs ∧
        g.InProfileOrder command .set d rs ∧ rs.length = vs.length ∧
        let reply := Driver.write g.driver d.addressable rs vs
        let answer := reply.1.asDriver.within g.settings.timeout
        let waited := { g with driver := reply.2 }.pass answer.1
        (∃ new, waited.trace = g.trace ++ new ∧ (∀ e ∈ new, e.2.isOwn) ∧
          g.put key command parameters = (answer.2, { waited with
            trace := g.trace ++ (g.clock, .wrote d.addressable rs vs) :: new })) ∧
        (g.put key command parameters).2.writes = g.writes ++ [(d.addressable, rs, vs)] ∧
        (g.Quiet → waited = { g with driver := reply.2, clock := g.clock + answer.1 })) ∧
    ((g.put key command parameters).2.writes ≠ g.writes ↔
      ∃ d rs vs, g.Ready key command parameters d rs vs) := by
  cases h : g.prepareWrite key command parameters with
  | error e =>
    have hrefuses := prepareWrite_eq_error.1 h
    have hput := put_of_refuses hrefuses
    refine ⟨.inl ⟨e, hrefuses, hput⟩, ?_⟩
    constructor
    · intro hne
      exact absurd (by rw [hput]) hne
    · rintro ⟨d, rs, vs, hready⟩
      rw [prepareWrite_eq_ok.2 hready] at h
      cases h
  | ok p =>
    obtain ⟨d, rs, vs⟩ := p
    have hready := prepareWrite_eq_ok.1 h
    refine ⟨.inr ⟨d, rs, vs, hready, hready.admits.inProfileOrder, hready.values.length_eq,
      put_of_ready hready, writes_put_of_ready hready, fun hquiet => ?_⟩, ?_⟩
    · have hq : Quiet { g with
        driver := (Driver.write g.driver d.addressable rs vs).2 } := ⟨hquiet.ready,
          hquiet.sleeping, hquiet.feeder, hquiet.intake⟩
      exact hq.pass_eq _
    · constructor
      · exact fun _ => ⟨d, rs, vs, hready⟩
      · intro _ heq
        rw [writes_put_of_ready hready] at heq
        simp at heq

end Put

end Gateway

end DeviceGateway
