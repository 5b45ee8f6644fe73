import DeviceGateway.Gateway.Command
import DeviceGateway.Proofs.Gateway.Prepare
import DeviceGateway.Proofs.Gateway.Trace
import DeviceGateway.Proofs.Table

/-! Reading a device, from the gates to the publisher. A read fails at the first gate that is
shut, and then changes nothing. Behind the last one the driver is asked, once, and its answer
is waited for. If that comes in time and is not an error the read succeeds, whatever becomes
of the values, and its event is published if any of them survives. -/

namespace DeviceGateway

/-! ### What a read does to the registry -/

/-- `r'` is `r` but for the operating state of the device of the name. -/
structure Registry.SameButState (name : String) (r r' : Registry) : Prop where
  nameById : r'.nameById = r.nameById
  catalogues : r'.catalogues = r.catalogues
  initialized : r'.initialized = r.initialized
  others : ∀ key, key ≠ name → r'.byName.get? key = r.byName.get? key
  device : (r'.byName.get? name).map (fun d => { d with operatingState := .enabled }) =
    (r.byName.get? name).map fun d => { d with operatingState := .enabled }

theorem Registry.SameButState.refl (name : String) (r : Registry) : SameButState name r r :=
  ⟨rfl, rfl, rfl, fun _ _ => rfl, rfl⟩

theorem Registry.sameButState_disable (name : String) (r : Registry) :
    SameButState name r (r.disable name) := by
  unfold disable updateOperatingState
  cases hd : r.byName.get? name with
  | none => exact .refl name r
  | some d =>
    refine ⟨rfl, rfl, rfl, fun key hkey => ?_, ?_⟩
    · simp only [Table.get?_insert, if_neg hkey]
    · simp [hd]

theorem Outcome.sameButState_settle (o : Outcome) (device : String) (r : Registry) :
    r.SameButState device (o.settle device r) := by
  unfold settle
  split
  · exact .refl device r
  · exact r.sameButState_disable device

/-! ### Answers in time -/

namespace Reply

variable {α : Type} (r : Reply α) (limit : Nat)

theorem within_asDriver_fst : (r.asDriver.within limit).1 = min r.delay limit := by
  have hdelay : r.asDriver.delay = r.delay := rfl
  unfold within
  rw [hdelay]
  split
  · next h => exact (Nat.min_eq_left h).symm
  · next h => exact (Nat.min_eq_right (Nat.le_of_not_le h)).symm

variable {r limit}

theorem within_late (h : limit < r.delay) :
    (r.asDriver.within limit).2 = .error (.timeout limit) := by
  have hlate : ¬ r.asDriver.delay ≤ limit := Nat.not_le.2 h
  simp only [within, if_neg hlate]

theorem within_in_time (h : r.delay ≤ limit) :
    (r.asDriver.within limit).2 = r.asDriver.outcome := by
  have hintime : r.asDriver.delay ≤ limit := h
  simp only [within, if_pos hintime]

/-- An error of a driver is one of its own, or is worded as one. -/
theorem asDriver_error {e : GatewayError} (h : r.outcome = .error e) :
    ∃ detail, r.asDriver.outcome = .error (.driver detail) ∧
      (e = .driver detail ∨ detail = e.message) := by
  simp only [asDriver, h, Except.mapError]
  cases e with
  | driver detail => exact ⟨detail, rfl, .inl rfl⟩
  | _ => exact ⟨_, rfl, .inr rfl⟩

theorem asDriver_ok {a : α} (h : r.outcome = .ok a) : r.asDriver.outcome = .ok a := by
  simp only [asDriver, h, Except.mapError]

/-- Values are got exactly if the driver gives them in time. -/
theorem within_asDriver_eq_ok {a : α} :
    (r.asDriver.within limit).2 = .ok a ↔ r.delay ≤ limit ∧ r.outcome = .ok a := by
  constructor
  · intro h
    rcases Nat.lt_or_ge limit r.delay with hlate | hintime
    · rw [within_late hlate] at h
      cases h
    · rw [within_in_time hintime] at h
      cases houtcome : r.outcome with
      | error e =>
        obtain ⟨detail, herror, -⟩ := asDriver_error houtcome
        rw [herror] at h
        cases h
      | ok b =>
        rw [asDriver_ok houtcome] at h
        exact ⟨hintime, h⟩
  · rintro ⟨hintime, houtcome⟩
    rw [within_in_time hintime, asDriver_ok houtcome]

end Reply

namespace Gateway

variable {δ μ : Type}

/-! ### What a read publishes -/

section Emission

variable [Driver δ] [MetadataSource μ] (g : Gateway δ μ)

/-- What is left of settling when all that was ready has been run once. -/
def settleRest : Gateway δ μ :=
  let g := g.runReady.runReady
  match g.feeder with
  | none => g
  | some f => g.feedSteps (f.overdue g.driver g.clock)

theorem settle_eq_settleRest : g.settle = g.runReady.settleRest := rfl

theorem settleRest_after (past : List (Nat × Deed)) :
    (g.after past).settleRest = g.settleRest.after past := by
  unfold settleRest
  simp only [runReady_after]
  rw [show (g.runReady.runReady.after past).feeder = g.runReady.runReady.feeder from rfl]
  split
  · rfl
  · exact feedSteps_after past _ _

/-- It adds the same to any past. -/
theorem settleRest_trace : ∃ new, ∀ past,
    { g with trace := past }.settleRest = { g.settleRest with trace := past ++ new } := by
  let fresh : Gateway δ μ := { g with trace := [] }
  have hpast : ∀ past,
      { g with trace := past }.settleRest = (fresh.settleRest).after past := by
    intro past
    rw [← settleRest_after]
    simp [after, fresh]
  refine ⟨fresh.settleRest.trace, fun past => ?_⟩
  have hg : g.settleRest = (fresh.settleRest).after g.trace := hpast g.trace
  rw [hpast, hg]
  rfl

/-- When all is done that takes no time, `h` is `g` but that the publisher was handed the
event. -/
def Emits (g : Gateway δ μ) (event : Event) (h : Gateway δ μ) : Prop :=
  ∃ before t rest, g.settle.trace = before ++ rest ∧
    h.settle = { g.settle with trace := before ++ (t, .published event) :: rest }

/-- What is ready last is run last. -/
theorem runReady_enqueue_publish (event : Event) :
    (g.enqueue [.publish event]).runReady = g.runReady.record (.published event) := by
  simp only [runReady, enqueue, List.foldl_append]
  rfl

theorem emits_enqueue (event : Event) : g.Emits event (g.enqueue [.publish event]) := by
  obtain ⟨new, hnew⟩ := g.runReady.settleRest_trace
  refine ⟨g.runReady.trace, g.runReady.clock, new, congrArg trace (hnew g.runReady.trace), ?_⟩
  have hpublished := hnew (g.runReady.trace ++ [(g.runReady.clock, .published event)])
  rw [List.append_assoc] at hpublished
  rw [settle_eq_settleRest, runReady_enqueue_publish]
  exact hpublished

end Emission

/-! ### The read itself -/

section Get

variable {g : Gateway δ μ} {key command : String}

/-- What the driver was asked to read, in order. -/
def reads (g : Gateway δ μ) : List (Addressable × List Request) :=
  g.trace.filterMap fun e => match e.2 with
    | .read target requests => some (target, requests)
    | _ => none

variable [Driver δ] [MetadataSource μ]

/-- The gateway when the driver has been asked for the requests, and its answer has been
waited for. -/
def awaitRead (g : Gateway δ μ) (d : Device) (rs : List Request) : Gateway δ μ :=
  let reply := Driver.read g.driver g.wall d.addressable rs
  ({ g with driver := reply.2 }.record (.read d.addressable rs)).pass
    (min reply.1.delay g.settings.timeout)

/-- It is the gateway that has only waited, but for the one call in its trace. -/
theorem awaitRead_eq (g : Gateway δ μ) (d : Device) (rs : List Request) :
    let reply := Driver.read g.driver g.wall d.addressable rs
    let waited := { g with driver := reply.2 }.pass (min reply.1.delay g.settings.timeout)
    ∃ new, waited.trace = g.trace ++ new ∧ (∀ e ∈ new, e.2.isOwn) ∧
      g.awaitRead d rs =
        { waited with trace := g.trace ++ (g.clock, .read d.addressable rs) :: new } := by
  intro reply waited
  obtain ⟨new, hown, hpast⟩ := pass_trace { g with driver := reply.2 }
    (min reply.1.delay g.settings.timeout)
  refine ⟨new, congrArg trace (hpast g.trace), hown, ?_⟩
  have hcalled := hpast (g.trace ++ [(g.clock, .read d.addressable rs)])
  rw [List.append_assoc] at hcalled
  exact hcalled

theorem get_of_bars {e : GatewayError} (h : g.Bars key command .get e) :
    g.get key command = (.error e, g) := by
  simp only [get, beginRead_error (prepare_eq_error.2 h)]

theorem get_of_admits {d : Device} {rs : List Request} (h : g.Admits key command .get d rs) :
    let reply := (Driver.read g.driver g.wall d.addressable rs).1
    let answer := reply.asDriver.within g.settings.timeout
    g.get key command = (g.awaitRead d rs).finishRead ⟨d, rs, answer.1, answer.2⟩ := by
  intro reply answer
  let asked : Gateway δ μ := { g with
    driver := (Driver.read g.driver g.wall d.addressable rs).2 }.record (.read d.addressable rs)
  have hwait : answer.1 = min reply.delay g.settings.timeout := reply.within_asDriver_fst _
  have hget : g.get key command =
      (asked.pass answer.1).finishRead ⟨d, rs, answer.1, answer.2⟩ := by
    simp only [get, beginRead_ok (prepare_eq_ok.2 h)]
    rfl
  exact hget.trans (congrArg (fun ms => (asked.pass ms).finishRead _) hwait)

omit [Driver δ] [MetadataSource μ] in
theorem trace_finishRead (g : Gateway δ μ) (p : PendingRead) :
    (g.finishRead p).2.trace = g.trace := by
  cases ho : p.outcome with
  | error e => simp only [finishRead, ho]
  | ok values =>
    rw [finishRead_ok g ho]
    rfl

omit [Driver δ] [MetadataSource μ] in
theorem driver_finishRead (g : Gateway δ μ) (p : PendingRead) :
    (g.finishRead p).2.driver = g.driver := by
  cases ho : p.outcome with
  | error e => simp only [finishRead, ho]
  | ok values =>
    rw [finishRead_ok g ho]
    rfl

theorem reads_get_of_admits {d : Device} {rs : List Request}
    (h : g.Admits key command .get d rs) :
    ∃ later, (g.get key command).2.reads = g.reads ++ (d.addressable, rs) :: later := by
  obtain ⟨new, -, -, hasked⟩ := g.awaitRead_eq d rs
  have htrace : (g.get key command).2.trace =
      g.trace ++ (g.clock, .read d.addressable rs) :: new := by
    rw [get_of_admits h, trace_finishRead, hasked]
  refine ⟨reads { g with trace := new }, ?_⟩
  simp [reads, htrace]

/-- A read is refused at the first gate that is shut and then changes nothing, or the driver
is asked once, with the requests in the order of the profile. An answer that comes too late
gives a timeout and an error one of the driver; then the gateway has only waited. Any other
answer makes the read succeed: its outcome is settled, which changes no more of the registry
than the operating state of the device, and its event is published if it has a reading. -/
theorem get_asks_and_publishes (g : Gateway δ μ) (key command : String) :
    ((∃ e, g.Bars key command .get e ∧ g.get key command = (.error e, g)) ∨
      ∃ d rs, g.Admits key command .get d rs ∧ g.InProfileOrder command .get d rs ∧
        let reply := Driver.read g.driver g.wall d.addressable rs
        let idle := { g with driver := reply.2 }.pass (min reply.1.delay g.settings.timeout)
        let waited := g.awaitRead d rs
        (∃ new, idle.trace = g.trace ++ new ∧ (∀ e ∈ new, e.2.isOwn) ∧
          waited = { idle with
            trace := g.trace ++ (g.clock, .read d.addressable rs) :: new }) ∧
        (g.Quiet → idle = { g with
          driver := reply.2, clock := g.clock + min reply.1.delay g.settings.timeout }) ∧
        (g.settings.timeout < reply.1.delay →
          g.get key command = (.error (.timeout g.settings.timeout), waited)) ∧
        (reply.1.delay ≤ g.settings.timeout → ∀ e, reply.1.outcome = .error e →
          ∃ detail, g.get key command = (.error (.driver detail), waited) ∧
            (e = .driver detail ∨ detail = e.message)) ∧
        (reply.1.delay ≤ g.settings.timeout → ∀ values, reply.1.outcome = .ok values →
          let o := Outcome.ofValues waited.settings.dataTransform waited.wall d.name rs values
          let event : Event := ⟨d.name, waited.wall, o.readings⟩
          let settled := waited.settleOutcome d.name o
          (g.get key command).1 = .ok ⟨event, o.complete⟩ ∧
          waited.registry.SameButState d.name (g.get key command).2.registry ∧
          (event.readings = [] → (g.get key command).2 = settled) ∧
          (event.readings ≠ [] → settled.Emits event (g.get key command).2))) ∧
    ((g.get key command).2.reads ≠ g.reads ↔ ∃ d rs, g.Admits key command .get d rs) := by
  cases h : g.prepare key command .get with
  | error e =>
    have hbars := prepare_eq_error.1 h
    have hget := get_of_bars hbars
    refine ⟨.inl ⟨e, hbars, hget⟩, ?_⟩
    constructor
    · intro hne
      exact absurd (by rw [hget]) hne
    · rintro ⟨d, rs, hadmits⟩
      rw [prepare_eq_ok.2 hadmits] at h
      cases h
  | ok p =>
    obtain ⟨d, rs⟩ := p
    have hadmits := prepare_eq_ok.1 h
    have hget := get_of_admits hadmits
    refine ⟨.inr ⟨d, rs, hadmits, hadmits.inProfileOrder, g.awaitRead_eq d rs, fun hquiet => ?_,
      fun hlate => ?_, fun hintime e he => ?_, fun hintime values hvalues => ?_⟩, ?_⟩
    · have hq : Quiet { g with driver := (Driver.read g.driver g.wall d.addressable rs).2 } :=
        ⟨hquiet.ready, hquiet.sleeping, hquiet.feeder, hquiet.intake⟩
      exact hq.pass_eq _
    · rw [hget, Reply.within_late hlate]
      rfl
    · obtain ⟨detail, houtcome, hdetail⟩ := Reply.asDriver_error he
      refine ⟨detail, ?_, hdetail⟩
      rw [hget, Reply.within_in_time hintime, houtcome]
      rfl
    · intro o event settled
      have houtcome := (Reply.within_in_time hintime).trans (Reply.asDriver_ok hvalues)
      have hdone : g.get key command = (.ok ⟨event, o.complete⟩,
          settled.enqueue (if event.isEmpty then [] else [.publish event])) := by
        rw [hget]
        exact finishRead_ok (g.awaitRead d rs) houtcome
      rw [hdone]
      refine ⟨rfl, o.sameButState_settle d.name _, fun hnone => ?_, fun hsome => ?_⟩
      · have hempty : event.isEmpty = true := List.isEmpty_iff.2 hnone
        rw [if_pos hempty]
        simp [enqueue]
      · have hempty : ¬ event.isEmpty = true := fun h => hsome (List.isEmpty_iff.1 h)
        rw [if_neg hempty]
        exact settled.emits_enqueue event
    · constructor
      · exact fun _ => ⟨d, rs, hadmits⟩
      · intro _ heq
        obtain ⟨later, hreads⟩ := reads_get_of_admits hadmits
        rw [hreads] at heq
        simp at heq

end Get

end Gateway

end DeviceGateway
