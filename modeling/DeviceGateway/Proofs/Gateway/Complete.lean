import DeviceGateway.Driver.Script
import DeviceGateway.Gateway.Lifecycle
import DeviceGateway.Proofs.Gateway.Get
import DeviceGateway.Proofs.Normalization.Pairing

/-! Complete answers. An answer is complete when every value that the driver gave has become a
reading, and then the readings stand in the order of the values. It has one reading for each
request, in their order, exactly if the driver gave as many values as it was asked for: what a
driver does not give is not missed. -/

namespace DeviceGateway

/-! ### Complete outcomes -/

namespace Outcome

variable (transform : Bool) (now : Int64) (device : String)

/-- The name under which a value that is paired with a request is read. -/
def readName? (p : Option Request × TypedValue) : Option String := p.1.map (·.object.name)

/-- A value has at most one reading, named after the object of its request, and has it exactly if
it is not dropped. -/
theorem ofValue_cases (p : Option Request × TypedValue) :
    (ofValue transform now device p).complete = false ∧
        (ofValue transform now device p).readings = [] ∨
      (ofValue transform now device p).complete = true ∧
        ∃ r reading, p.1 = some r ∧ reading.name = r.object.name ∧
          (ofValue transform now device p).readings = [reading] := by
  obtain ⟨request, v⟩ := p
  cases request with
  | none => exact .inl ⟨rfl, rfl⟩
  | some r =>
    simp only [ofValue]
    cases r.normalize transform v with
    | error e => exact .inl ⟨rfl, rfl⟩
    | ok w => exact .inr ⟨rfl, r, _, rfl, rfl, rfl⟩

/-- An outcome is complete exactly if there are as many readings as values. -/
theorem complete_ofPairs (pairs : List (Option Request × TypedValue)) :
    (ofPairs transform now device pairs).readings.length ≤ pairs.length ∧
      ((ofPairs transform now device pairs).complete = true ↔
        (ofPairs transform now device pairs).readings.length = pairs.length) := by
  induction pairs with
  | nil => exact ⟨Nat.le_refl _, by simp [ofPairs]⟩
  | cons p pairs ih =>
    obtain ⟨hle, hiff⟩ := ih
    rw [ofPairs_cons, append]
    simp only [List.length_append, List.length_cons, Bool.and_eq_true, hiff]
    rcases ofValue_cases transform now device p with
      ⟨hcomplete, hnone⟩ | ⟨hcomplete, r, reading, -, -, hone⟩
    · rw [hcomplete, hnone]
      simp only [List.length_nil, Bool.false_eq_true, false_and, false_iff]
      omega
    · rw [hcomplete, hone]
      simp only [List.length_singleton, true_and]
      omega

variable {transform now device}

/-- The readings of a complete outcome are named after the requests, in order. -/
theorem names_ofPairs {pairs : List (Option Request × TypedValue)}
    (h : (ofPairs transform now device pairs).complete = true) :
    (ofPairs transform now device pairs).readings.map (some ·.name) = pairs.map readName? := by
  induction pairs with
  | nil => rfl
  | cons p pairs ih =>
    rw [ofPairs_cons, append] at h ⊢
    obtain ⟨hp, hpairs⟩ := Bool.and_eq_true_iff.1 h
    rcases ofValue_cases transform now device p with
      ⟨hcomplete, -⟩ | ⟨-, r, reading, hr, hname, hone⟩
    · rw [hcomplete] at hp
      cases hp
    · simp only [hone, List.singleton_append, List.map_cons, ih hpairs, readName?, hr, hname,
        Option.map_some]

/-- The readings of a complete outcome are named after all the requests, if each was given a
value, else after the objects that the values name, of which each is asked for. -/
theorem names_ofValues {rs : List Request} {values : List TypedValue}
    (h : (ofValues transform now device rs values).complete = true) :
    if values.length = rs.length then
      (ofValues transform now device rs values).readings.map (·.name) = rs.map (·.object.name)
    else
      (ofValues transform now device rs values).readings.map (·.name) = values.map (·.resource) ∧
        ∀ v ∈ values, v.resource ∈ rs.map (·.object.name) := by
  have hnames := names_ofPairs h
  have hsome : ∀ names : List String,
      (ofValues transform now device rs values).readings.map (some ·.name) = names.map some →
        (ofValues transform now device rs values).readings.map (·.name) = names := by
    intro names hmap
    refine List.map_injective_iff.2 (fun _ _ => Option.some.inj) ?_
    rw [← hmap, List.map_map]
    rfl
  split
  · next hlength =>
    refine hsome _ (hnames.trans ?_)
    have hrequests : (pairing rs values).map Prod.fst = rs.map some := by
      rw [pairing, if_pos hlength, List.map_fst_zip (by simp [hlength])]
    calc (pairing rs values).map readName?
        = ((pairing rs values).map Prod.fst).map (Option.map (·.object.name)) := by
          rw [List.map_map]
          rfl
      _ = (rs.map (·.object.name)).map some := by
          rw [hrequests, List.map_map, List.map_map]
          rfl
  · next hlength =>
    have hpairing : (pairing rs values).map readName? =
        values.map fun v => (rs.find? (·.object.name = v.resource)).map (·.object.name) := by
      rw [pairing, if_neg hlength, List.map_map]
      rfl
    -- every value has a reading, so a request was found for each
    have hfound : ∀ v ∈ values, ∃ r ∈ rs, r.object.name = v.resource ∧
        (rs.find? (·.object.name = v.resource)).map (·.object.name) = some v.resource := by
      intro v hv
      have hmem := List.mem_map_of_mem
        (f := fun v => (rs.find? (·.object.name = v.resource)).map (·.object.name)) hv
      rw [← hpairing, ← hnames] at hmem
      obtain ⟨reading, -, hreading⟩ := List.mem_map.1 hmem
      obtain ⟨r, hr, -⟩ := Option.map_eq_some_iff.1 hreading.symm
      have hname : r.object.name = v.resource := by simpa using List.find?_some hr
      exact ⟨r, List.mem_of_find?_eq_some hr, hname, by rw [hr, Option.map_some, hname]⟩
    refine ⟨hsome _ (hnames.trans (hpairing.trans ?_)), fun v hv => ?_⟩
    · rw [List.map_map]
      exact List.map_congr_left fun v hv => (hfound v hv).choose_spec.2.2
    · obtain ⟨r, hr, hname, -⟩ := hfound v hv
      exact List.mem_map.2 ⟨r, hr, hname⟩

end Outcome

/-! ### Complete reads -/

namespace Gateway

variable {δ μ : Type} [Driver δ] [MetadataSource μ]

/-- A read succeeds behind open gates, with what becomes of the values that the driver gives in
time. -/
theorem get_eq_ok {g : Gateway δ μ} {key command : String} {a : Answer}
    (h : (g.get key command).1 = .ok a) : ∃ d rs values now, g.Admits key command .get d rs ∧
      (Driver.read g.driver g.wall d.addressable rs).1.delay ≤ g.settings.timeout ∧
      (Driver.read g.driver g.wall d.addressable rs).1.outcome = .ok values ∧
      let o := Outcome.ofValues (g.awaitRead d rs).settings.dataTransform now d.name rs values
      a = ⟨⟨d.name, now, o.readings⟩, o.complete⟩ := by
  cases hp : g.prepare key command .get with
  | error e =>
    rw [get_of_bars (prepare_eq_error.1 hp)] at h
    cases h
  | ok p =>
    obtain ⟨d, rs⟩ := p
    have hadmits := prepare_eq_ok.1 hp
    rw [get_of_admits hadmits] at h
    cases ho : ((Driver.read g.driver g.wall d.addressable rs).1.asDriver.within
        g.settings.timeout).2 with
    | error e =>
      simp only [finishRead, ho] at h
      cases h
    | ok values =>
      rw [finishRead_ok _ ho] at h
      cases h
      obtain ⟨hintime, houtcome⟩ := Reply.within_asDriver_eq_ok.1 ho
      exact ⟨d, rs, values, _, hadmits, hintime, houtcome, rfl⟩

/-- A read is reported complete exactly if each value of the driver has become a reading. Then
the readings are named after the requests, one after the other, if there are as many values as
requests, else after the objects that the values name, each of which was asked for. So they are
one for each request, in order, exactly if the driver left none out and gave none too many. -/
theorem get_complete_iff {g : Gateway δ μ} {key command : String} {a : Answer}
    (h : (g.get key command).1 = .ok a) : ∃ d rs values, g.Admits key command .get d rs ∧
      (Driver.read g.driver g.wall d.addressable rs).1.outcome = .ok values ∧
      a.event.device = d.name ∧ a.event.readings.length ≤ values.length ∧
      (a.complete = true ↔ a.event.readings.length = values.length) ∧
      (a.complete = true → values.length = rs.length →
        a.event.readings.map (·.name) = rs.map (·.object.name)) ∧
      (a.complete = true → values.length ≠ rs.length →
        a.event.readings.map (·.name) = values.map (·.resource) ∧
        ∀ v ∈ values, v.resource ∈ rs.map (·.object.name)) ∧
      (a.complete = true →
        (a.event.readings.map (·.name) = rs.map (·.object.name) ↔
          values.length = rs.length)) := by
  obtain ⟨d, rs, values, now, hadmits, -, houtcome, rfl⟩ := get_eq_ok h
  have hpairs : (pairing rs values).length = values.length := by
    unfold pairing
    split
    · next hlength => simp [hlength]
    · rw [List.length_map]
  obtain ⟨hle, hiff⟩ := Outcome.complete_ofPairs (g.awaitRead d rs).settings.dataTransform now
    d.name (pairing rs values)
  rw [hpairs] at hle hiff
  refine ⟨d, rs, values, hadmits, houtcome, rfl, hle, hiff, fun hcomplete hlength => ?_,
    fun hcomplete hlength => ?_, fun hcomplete => ⟨fun hnames => ?_, fun hlength => ?_⟩⟩
  · simpa only [if_pos hlength] using Outcome.names_ofValues hcomplete
  · simpa only [if_neg hlength] using Outcome.names_ofValues hcomplete
  · have hreadings := congrArg List.length hnames
    rw [List.length_map, List.length_map] at hreadings
    exact (hiff.1 hcomplete).symm.trans hreadings
  · simpa only [if_pos hlength] using Outcome.names_ofValues hcomplete

/-- A gateway with one device, of which a command reads the level and the flow. The driver gives
the values, whatever it is asked for. -/
def gauged (values : List TypedValue) : Gateway Script FixedSource :=
  let profile : Profile := Profile.withResource
    { name := "Meter"
      objects := [.ofSpec "Level" (.plain .string), .ofSpec "Flow" (.plain .string)] }
    { name := "Both", get := [.ofNames "get" "Level", .ofNames "get" "Flow"] }
  let new : Gateway Script FixedSource := {
    settings := {}
    driver := { otherwise := some { values := .ok values } }
    source := { devices := [.ofNames "1" "Pump" "Meter"], profiles := [profile] }
    publisher := ⟨fun _ => { outcome := .ok () }⟩
    epoch := 0 }
  new.start.2

/-- The level is given three times and the flow once. No value is dropped, and yet the readings
are not those that were asked for. -/
theorem get_complete_iff_repeated :
    let level := TypedValue.ofString "Level" 7 "low"
    let flow := TypedValue.ofString "Flow" 8 "none"
    ∃ a, ((gauged [level, flow, level]).get "Pump" "Both").1 = .ok a ∧ a.complete = true ∧
      a.event.readings.map (·.name) = ["Level", "Flow", "Level"] := by
  intro level flow
  obtain ⟨a, ha⟩ : ∃ a, ((gauged [level, flow, level]).get "Pump" "Both").1 = .ok a := ⟨_, rfl⟩
  obtain ⟨d, rs, values, hadmits, hvalues, -, -, hiff, -, hnames, -⟩ := get_complete_iff ha
  obtain rfl : values = [level, flow, level] := (Except.ok.inj hvalues).symm
  have hlength : rs.length = 2 := by
    have hprepared := prepare_eq_ok.2 hadmits
    cases hprepared
    rfl
  cases ha
  have hcomplete := hiff.2 rfl
  exact ⟨_, rfl, hcomplete, (hnames hcomplete (by simp [hlength])).1⟩

/-- Two objects are asked for and the driver gives one of them. -/
theorem complete_without_flow :
    let g := gauged [.ofString "Level" 7 "low"]
    ∃ a d rs, (g.get "Pump" "Both").1 = .ok a ∧ a.complete = true ∧
      g.Admits "Pump" "Both" .get d rs ∧ rs.map (·.object.name) = ["Level", "Flow"] ∧
      a.event.readings.map (·.name) = ["Level"] := by
  intro g
  refine ⟨_, _, _, rfl, rfl, prepare_eq_ok.1 rfl, rfl, rfl⟩

end Gateway

end DeviceGateway
