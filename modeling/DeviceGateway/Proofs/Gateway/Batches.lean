import DeviceGateway.Proofs.Gateway.Agree
import DeviceGateway.Proofs.Gateway.Independent

/-! Batches and their values. A batch comes to what its values come to that are processed one
after the other, each as a batch of its own and whenever that is: the readings of the batch are
theirs in order, and the gateway is left the same. A value whose object is unknown is left out
with its place, so that the others keep the operations that read them. -/

namespace DeviceGateway

/-! ### The outcome of a batch -/

/-- A reading of the value, had it been read then. -/
def Reading.readAt (now : Int64) (v : TypedValue) (r : Reading) : Reading :=
  if v.origin = 0 then { r with origin := now } else r

theorem TypedValue.readAt_toReading {v w : TypedValue} (h : w.origin = v.origin)
    (now now' : Int64) (device name : String) :
    Reading.readAt now' v (w.toReading now device name) = w.toReading now' device name := by
  unfold Reading.readAt TypedValue.toReading
  rw [h]
  split <;> rfl

/-- The readings of an event, if there is one. -/
def readingsOf (e : Option Event) : List Reading := e.elim [] Event.readings

namespace Batch

variable (device : String) (transform : Bool) (now now' : Int64) (r : Registry)

/-- What becomes of a batch: nothing if its device is unknown. -/
def outcome (b : Batch) : Outcome := (b.outcome? transform now r).getD {}

variable {r}

theorem outcome_of_known {d : Device} (hd : r.deviceByName device = .ok d)
    (vs : List TypedValue) :
    outcome transform now r ⟨device, vs⟩ = .ofPairs transform now d.name
      ((answered r d.profile vs).map fun p => (some p.1, p.2)) := by
  simp only [outcome, outcome?, hd, Outcome.ofValues_pairs, Option.getD_some]

theorem outcome_of_unknown (hunknown : ∀ d, r.deviceByName device ≠ .ok d)
    (vs : List TypedValue) :
    outcome transform now r ⟨device, vs⟩ = {} ∧ outcome? ⟨device, vs⟩ transform now r = none := by
  unfold outcome outcome?
  cases hd : r.deviceByName device with
  | error e => exact ⟨rfl, rfl⟩
  | ok d => exact absurd hd (hunknown d)

variable (r)

theorem outcome_nil : outcome transform now r ⟨device, []⟩ = {} := by
  unfold outcome outcome?
  cases r.deviceByName device <;> rfl

/-- The first value is treated as it is alone, and the others as they are without it. -/
theorem outcome_cons (v : TypedValue) (vs : List TypedValue) :
    outcome transform now r ⟨device, v :: vs⟩ = (outcome transform now r ⟨device, [v]⟩).append
      (outcome transform now r ⟨device, vs⟩) := by
  cases hd : r.deviceByName device with
  | error e =>
    have hunknown : ∀ d, r.deviceByName device ≠ .ok d := by simp [hd]
    simp only [(outcome_of_unknown device transform now hunknown _).1, Outcome.append_empty]
  | ok d =>
    simp only [outcome_of_known device transform now hd, answered, List.filterMap_cons,
      List.filterMap_nil]
    cases (request? r d.profile v) with
    | none => exact (Outcome.empty_append _).symm
    | some q =>
      simp only [Option.map_some, List.map_cons, List.map_nil, Outcome.ofPairs_cons]
      congr 1
      exact (Outcome.append_empty _).symm

/-- Alone, a value comes to the same at any time, but for the time of its reading where it has no
time of its own. -/
theorem outcome_one_at (v : TypedValue) :
    outcome transform now' r ⟨device, [v]⟩ = { outcome transform now r ⟨device, [v]⟩ with
      readings := (outcome transform now r ⟨device, [v]⟩).readings.map
        (Reading.readAt now' v) } := by
  cases hd : r.deviceByName device with
  | error e =>
    have hunknown : ∀ d, r.deviceByName device ≠ .ok d := by simp [hd]
    simp only [(outcome_of_unknown device transform _ hunknown _).1, List.map_nil]
  | ok d =>
    simp only [outcome_of_known device transform _ hd, answered, List.filterMap_cons,
      List.filterMap_nil]
    cases (request? r d.profile v) with
    | none => rfl
    | some q =>
      simp only [Option.map_some, List.map_cons, List.map_nil, Outcome.ofPairs_cons]
      have hnone : ∀ t, Outcome.ofPairs transform t d.name [] = {} := fun _ => rfl
      simp only [hnone, Outcome.append_empty, Outcome.ofValue]
      cases hw : q.normalize transform v with
      | error e => rfl
      | ok w =>
        simp only [List.map_cons, List.map_nil,
          TypedValue.readAt_toReading (Request.origin_normalize hw)]

/-- When values are processed makes no difference to how many fail their assertion. -/
theorem failedAssertions_outcome (vs : List TypedValue) :
    (outcome transform now r ⟨device, vs⟩).failedAssertions =
      (outcome transform now' r ⟨device, vs⟩).failedAssertions := by
  induction vs with
  | nil => rw [outcome_nil, outcome_nil]
  | cons v vs ih =>
    rw [outcome_cons, outcome_cons device transform now', outcome_one_at device transform now' now]
    simp only [Outcome.append, ih]

theorem outcome_settle (b : Batch) (o : Outcome) (name : String) :
    b.outcome transform now (o.settle name r) = b.outcome transform now r := by
  unfold Outcome.settle
  split
  · rfl
  · simp only [outcome, outcome?_disable]

theorem readingsOf_event? (b : Batch) :
    readingsOf (b.event? transform now r) = (b.outcome transform now r).readings := by
  unfold event? outcome
  cases b.outcome? transform now r with
  | none => rfl
  | some o =>
    cases ho : o.readings with
    | nil => simp [readingsOf, ho]
    | cons reading rest => simp [readingsOf, ho]

theorem event?_eq_none (b : Batch) :
    b.event? transform now r = none ↔ (b.outcome transform now r).readings = [] := by
  unfold event? outcome
  cases b.outcome? transform now r with
  | none => simp
  | some o => simp

end Batch

/-! ### Batches of one -/

namespace Gateway

variable {δ μ : Type} (g : Gateway δ μ)

/-- What becomes of a batch that is processed now. -/
def outcomeOf (b : Batch) : Outcome := b.outcome g.settings.dataTransform g.wall g.registry

/-- The event of a batch that is processed now. -/
def eventOf (b : Batch) : Option Event := b.event? g.settings.dataTransform g.wall g.registry

/-- Values that are processed one after the other as batches of one, each at its time: each with
the event that comes of it, and the gateway that is left. -/
def processEach (g : Gateway δ μ) (device : String) :
    List (Nat × TypedValue) → List (TypedValue × Option Event) × Gateway δ μ
  | [] => ([], g)
  | (t, v) :: vs =>
    let g := { g with clock := t }
    let (events, left) := (g.process ⟨device, [v]⟩).2.processEach device vs
    ((v, g.eventOf ⟨device, [v]⟩) :: events, left)

theorem settleOutcome_empty (device : String) : g.settleOutcome device {} = g := by
  simp [settleOutcome, enqueue, Outcome.settle]

/-- To process a batch is to settle what becomes of it and to write about it. -/
theorem process_settles (b : Batch) :
    (g.process b).2 = { g.settleOutcome b.device (g.outcomeOf b) with
      trace := g.trace ++ Passes.processing g.clock b (g.eventOf b) } := by
  have htrace := (g.process_writes b).1
  have hrest : (g.process b).2 = { g.settleOutcome b.device (g.outcomeOf b) with
      trace := (g.process b).2.trace } := by
    rw [process_eq, outcomeOf, Batch.outcome]
    cases b.outcome? g.settings.dataTransform g.wall g.registry with
    | none =>
      rw [Option.getD_none, settleOutcome_empty]
      rfl
    | some o =>
      cases b.event? g.settings.dataTransform g.wall g.registry <;> rfl
  rw [hrest, htrace]
  rfl

/-- Only failed assertions are settled. -/
theorem settleOutcome_congr (device : String) {o o' : Outcome}
    (h : o.failedAssertions = o'.failedAssertions) :
    g.settleOutcome device o = g.settleOutcome device o' := by
  simp only [settleOutcome, Outcome.settle, h]

theorem eventOf_process (b b' : Batch) (t : Nat) :
    { (g.process b).2 with clock := t }.eventOf b' = { g with clock := t }.eventOf b' := by
  rw [process_settles]
  exact Batch.event?_settle ..

/-- Each value has the event that it has alone, whatever became of those before it. -/
theorem processEach_events (device : String) (timed : List (Nat × TypedValue)) :
    (g.processEach device timed).1 = timed.map fun p =>
      (p.2, { g with clock := p.1 }.eventOf ⟨device, [p.2]⟩) := by
  induction timed generalizing g with
  | nil => rfl
  | cons p timed ih =>
    obtain ⟨t, v⟩ := p
    simp only [processEach, ih, eventOf_process, List.map_cons]

/-- Values that are processed one after the other leave what is left when what becomes of all of
them is settled at once. -/
theorem processEach_leaves (device : String) (timed : List (Nat × TypedValue)) :
    { (g.processEach device timed).2 with clock := g.clock, trace := g.trace } =
      g.settleOutcome device (g.outcomeOf ⟨device, timed.map (·.2)⟩) := by
  induction timed generalizing g with
  | nil =>
    rw [List.map_nil, outcomeOf, Batch.outcome_nil, settleOutcome_empty]
    rfl
  | cons p timed ih =>
    obtain ⟨t, v⟩ := p
    let now : Gateway δ μ := { g with clock := t }
    let next := (now.process ⟨device, [v]⟩).2
    have hrest := congrArg (fun h : Gateway δ μ => { h with clock := g.clock, trace := g.trace })
      (ih next)
    -- the first value leaves what it leaves now, and the others come to what they come to now
    have hfirst : { next with clock := g.clock, trace := g.trace } =
        g.settleOutcome device (g.outcomeOf ⟨device, [v]⟩) := by
      have hfailed : (now.outcomeOf ⟨device, [v]⟩).failedAssertions =
          (g.outcomeOf ⟨device, [v]⟩).failedAssertions := Batch.failedAssertions_outcome ..
      rw [← g.settleOutcome_congr device hfailed]
      simp only [next, process_settles]
      rfl
    have hothers : (next.outcomeOf ⟨device, timed.map (·.2)⟩).failedAssertions =
        (g.outcomeOf ⟨device, timed.map (·.2)⟩).failedAssertions := by
      simp only [next, process_settles]
      exact (congrArg Outcome.failedAssertions (Batch.outcome_settle ..)).trans
        (Batch.failedAssertions_outcome ..)
    calc { (g.processEach device ((t, v) :: timed)).2 with clock := g.clock, trace := g.trace }
      _ = { next.settleOutcome device (next.outcomeOf ⟨device, timed.map (·.2)⟩) with
          clock := g.clock, trace := g.trace } := hrest
      _ = Gateway.settleOutcome { next with clock := g.clock, trace := g.trace } device
          (next.outcomeOf ⟨device, timed.map (·.2)⟩) := rfl
      _ = (g.settleOutcome device (g.outcomeOf ⟨device, [v]⟩)).settleOutcome device
          (g.outcomeOf ⟨device, timed.map (·.2)⟩) := by
        rw [hfirst, settleOutcome_congr _ _ hothers]
      _ = g.settleOutcome device (g.outcomeOf ⟨device, v :: timed.map (·.2)⟩) := by
        rw [settleOutcome_append]
        exact congrArg (g.settleOutcome device) (Batch.outcome_cons ..).symm

/-- The readings of a batch are those of its values, each read when the batch is. -/
theorem readingsOf_batch (device : String) (timed : List (Nat × TypedValue)) :
    readingsOf (g.eventOf ⟨device, timed.map (·.2)⟩) = timed.flatMap fun p =>
      (readingsOf ({ g with clock := p.1 }.eventOf ⟨device, [p.2]⟩)).map
        (Reading.readAt g.wall p.2) := by
  simp only [eventOf, Batch.readingsOf_event?]
  induction timed with
  | nil => rw [List.map_nil, Batch.outcome_nil, List.flatMap_nil]
  | cons p timed ih =>
    rw [List.map_cons, Batch.outcome_cons, Outcome.append, ih, List.flatMap_cons,
      Batch.outcome_one_at device _ (wall { g with clock := p.1 }) g.wall]

theorem eventOf_eq_none (b : Batch) : g.eventOf b = none ↔ readingsOf (g.eventOf b) = [] := by
  rw [eventOf, Batch.event?_eq_none, Batch.readingsOf_event?]

/-- A value that is processed now is read now. -/
theorem readAt_readingsOf (device : String) (v : TypedValue) :
    (readingsOf (g.eventOf ⟨device, [v]⟩)).map (Reading.readAt g.wall v) =
      readingsOf (g.eventOf ⟨device, [v]⟩) := by
  have hsame := Batch.outcome_one_at device g.settings.dataTransform g.wall g.wall g.registry v
  rw [eventOf, Batch.readingsOf_event?]
  exact (congrArg Outcome.readings hsame).symm

/-- A batch is its values one after the other, each a batch of its own that is processed at any
time. Its readings are theirs in order, read when the batch is; each value of a known device that
is of a known object has the reading that it has with the operation that reads the object. There
is an event, and one is published, if there is one of any value. The registry is left the same, and
so is all of the gateway, with the reports to be made, but for the time and for what is written. A
batch for no device changes nothing. And what the publisher makes of the event does not matter. -/
theorem process_concatenates (device : String) (timed : List (Nat × TypedValue)) :
    let b : Batch := ⟨device, timed.map (·.2)⟩
    let each := g.processEach device timed
    readingsOf (g.eventOf b) =
      each.1.flatMap (fun p => (readingsOf p.2).map (Reading.readAt g.wall p.1)) ∧
    ((∀ p ∈ timed, p.1 = g.clock) →
      readingsOf (g.eventOf b) = each.1.flatMap fun p => readingsOf p.2) ∧
    (∀ d, g.registry.deviceByName device = .ok d →
      readingsOf (g.eventOf b) = b.values.filterMap fun v =>
        (Batch.request? g.registry d.profile v).bind fun r =>
          Outcome.reading? g.settings.dataTransform g.wall d.name r v) ∧
    (g.eventOf b = none ↔ ∀ p ∈ each.1, p.2 = none) ∧
    (g.process b).2.trace = g.trace ++ Passes.processing g.clock b (g.eventOf b) ∧
    each.2.registry = (g.process b).2.registry ∧
    { each.2 with clock := g.clock, trace := g.trace } =
      { (g.process b).2 with trace := g.trace } ∧
    ((∀ d, g.registry.deviceByName device ≠ .ok d) →
      g.eventOf b = none ∧ g.process b = (none, g.record (.began b))) ∧
    ∀ publisher : Publisher, { g with publisher }.eventOf b = g.eventOf b ∧
      ({ g with publisher }.process b).2 = { (g.process b).2 with publisher } := by
  intro b each
  have hevents : each.1 = timed.map fun p =>
      (p.2, { g with clock := p.1 }.eventOf ⟨device, [p.2]⟩) := g.processEach_events device timed
  have hreadings : readingsOf (g.eventOf b) =
      each.1.flatMap fun p => (readingsOf p.2).map (Reading.readAt g.wall p.1) := by
    rw [hevents, List.flatMap_map]
    exact g.readingsOf_batch device timed
  have hleft : { each.2 with clock := g.clock, trace := g.trace } =
      { (g.process b).2 with trace := g.trace } := by
    rw [processEach_leaves, process_settles]
    rfl
  have hregistry := congrArg registry hleft
  refine ⟨hreadings, fun hnow => ?_, fun d hd => ?_, ?_, (g.process_writes b).1,
    hregistry, hleft, fun hunknown => ?_, fun publisher => ⟨rfl, ?_⟩⟩
  · rw [hreadings, hevents, List.flatMap_map, List.flatMap_map]
    refine List.flatMap_congr fun p hp => ?_
    rw [hnow p hp]
    exact g.readAt_readingsOf device p.2
  · rw [eventOf, Batch.readingsOf_event?, Batch.outcome_of_known device _ _ hd,
      Outcome.readings_ofPairs_some, Batch.answered, List.filterMap_filterMap]
    congr 1
    funext v
    cases Batch.request? g.registry d.profile v <;> rfl
  · rw [eventOf_eq_none, hreadings, List.flatMap_eq_nil_iff, hevents]
    simp only [List.forall_mem_map, List.map_eq_nil_iff, ← eventOf_eq_none]
  · have hnone : g.eventOf b = none := by
      rw [eventOf, Batch.event?_eq_none, (Batch.outcome_of_unknown device _ _ hunknown _).1]
    refine ⟨hnone, ?_⟩
    rw [process_eq, (Batch.outcome_of_unknown device _ _ hunknown _).2]
  · rw [process_settles, process_settles]
    rfl

/-- A gateway of one device that must not be off. Its publisher fails. -/
def switched : Gateway Script FixedSource where
  settings := {}
  driver := {}
  source := {}
  publisher := ⟨fun _ => { outcome := .error (.server "gone") }⟩
  registry := (Registry.empty.putProfile { name := "Meter", objects := [
    .ofSpec "Switch" { kind := .string, assertion := "on" },
    .ofSpec "Level" (.plain .string)] }).takeDevices [.ofNames "1" "Pump" "Meter"]
  clock := 3

/-- Of four values one is of no known object and one fails its assertion. The others are read as
if these were not there, and the device is disabled either way. -/
theorem process_concatenates_switched :
    let timed : List (Nat × TypedValue) := [
      (0, .ofString "Switch" 7 "on"), (5, .ofString "Depth" 0 "3"),
      (9, .ofString "Switch" 0 "off"), (12, .ofString "Level" 0 "low")]
    let b : Batch := ⟨"Pump", timed.map (·.2)⟩
    let each := switched.processEach "Pump" timed
    each.1.map (fun p => readingsOf p.2) =
      [[⟨"Pump", "Switch", "on", 7⟩], [], [], [⟨"Pump", "Level", "low", 12⟩]] ∧
    readingsOf (switched.eventOf b) =
      [⟨"Pump", "Switch", "on", 7⟩, ⟨"Pump", "Level", "low", 3⟩] ∧
    each.2.registry = (switched.process b).2.registry ∧
    (each.2.registry.deviceByName "Pump").map (·.operatingState) = .ok .disabled ∧
    switched.process ⟨"Well", timed.map (·.2)⟩ =
      (none, switched.record (.began ⟨"Well", timed.map (·.2)⟩)) := by
  intro timed b each
  have heach : each.1.map (fun p => readingsOf p.2) =
      [[⟨"Pump", "Switch", "on", 7⟩], [], [], [⟨"Pump", "Level", "low", 12⟩]] := by decide +kernel
  have hdisabled : (each.2.registry.deviceByName "Pump").map (·.operatingState) =
      .ok .disabled := by decide +kernel
  have hunknown : ∀ d, switched.registry.deviceByName "Well" ≠ .ok d := fun d hd => by cases hd
  obtain ⟨hreadings, -, -, -, -, hregistry, -⟩ := switched.process_concatenates "Pump" timed
  obtain ⟨-, -, -, -, -, -, -, hwell, -⟩ := switched.process_concatenates "Well" timed
  exact ⟨heach, hreadings.trans (by decide +kernel), hregistry, hdisabled, (hwell hunknown).2⟩

end Gateway

end DeviceGateway
