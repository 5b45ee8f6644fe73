import DeviceGateway.Proofs.Gateway.Flow
import DeviceGateway.Proofs.Gateway.Locks
import DeviceGateway.Proofs.Normalization.Pairing
import DeviceGateway.Proofs.Registry.Profiles
import DeviceGateway.Proofs.Value.Label
import Mathlib.Data.List.Nodup

/-! Values that are asked for, and values that are pushed. Where a profile reads an object in a
resource of its own, the command of that name resolves to the request that a pushed value of the
object answers. A value then becomes the same reading either way, and the registry is left the
same. -/

namespace DeviceGateway

/-! ### Objects with a resource of their own -/

/-- One resource has the name of the object. It is a command, and all that it reads is the
object. -/
structure Profile.ReadsAlone (p : Profile) (object : String) (o : Operation) : Prop where
  distinct : (p.resources.map (·.name)).Nodup
  resource : ∃ q ∈ p.resources, q.name = object ∧ q.get = [o]
  target : o.object = object
  declared : object ∈ p.commands

theorem find?_eq_of_unique {α : Type} {as : List α} {pred : α → Bool} {a : α} (ha : a ∈ as)
    (hpred : pred a = true) (hunique : ∀ b ∈ as, pred b = true → b = a) :
    as.find? pred = some a := by
  obtain ⟨b, hb⟩ := Option.isSome_iff_exists.1 (List.find?_isSome.2 ⟨a, ha, hpred⟩)
  rw [hb, hunique b (List.mem_of_find?_eq_some hb) (List.find?_some hb)]

namespace Profile.ReadsAlone

variable {p : Profile} {object : String} {o : Operation}

theorem lastOperations?_eq (h : p.ReadsAlone object o) :
    p.lastOperations? object .get = some [o] := by
  obtain ⟨q, hq, hname, hget⟩ := h.resource
  have hfound : (p.resources.reverse.find? fun r => r.name = object ∧ r.operations .get ≠ []) =
      some q := by
    refine find?_eq_of_unique (List.mem_reverse.2 hq) (by simp [hname, Resource.operations, hget])
      fun r hr hkind => ?_
    have hrname : r.name = q.name := (of_decide_eq_true hkind).1.trans hname.symm
    exact List.inj_on_of_nodup_map h.distinct (List.mem_reverse.1 hr) hq hrname
  rw [lastOperations?, hfound, Option.map_some, Resource.operations, hget]

theorem preferredRead?_eq (h : p.ReadsAlone object o) : p.preferredRead? object = some o := by
  obtain ⟨q, hq, hname, hget⟩ := h.resource
  have hown : p.firstRead? (·.name = object) object = some o := by
    refine find?_eq_of_unique ?_ (by simp [h.target]) fun o' ho' _ => ?_
    · exact List.mem_flatMap.2 ⟨q, List.mem_filter.2 ⟨hq, by simp [hname]⟩, by simp [hget]⟩
    · obtain ⟨r, hr, hread⟩ := List.mem_flatMap.1 ho'
      obtain ⟨hr, hrname⟩ := List.mem_filter.1 hr
      obtain rfl : r = q :=
        List.inj_on_of_nodup_map h.distinct hr hq ((of_decide_eq_true hrname).trans hname.symm)
      rw [hget] at hread
      exact List.mem_singleton.1 hread
  rw [preferredRead?, hown, Option.some_or]

end Profile.ReadsAlone

namespace Registry.Shows

variable {r : Registry} {p : Profile} {o : Operation} {object : DeviceObject}

/-- The command of the object's name comes to one request. -/
theorem resolve_alone {d : Device} (h : r.Shows d.profile p)
    (hobject : p.lastObject? object.name = some object) (hreads : p.ReadsAlone object.name o)
    {limit : Nat} (hlimit : 1 ≤ limit) :
    r.resolve limit d object.name .get = .ok [⟨o, object⟩] := by
  obtain ⟨declared, hdeclares, hdeclared⟩ := h.declares object.name
  have hoperations : r.operations d.profile object.name .get = .ok [o] := by
    rw [h.operations, hreads.lastOperations?_eq]
  have htarget : r.object d.profile o.object = .ok object := by
    rw [hreads.target, h.object, hobject]
  have hone : ¬ limit < [o].length := Nat.not_lt.2 hlimit
  unfold Registry.resolve
  rw [hdeclares, hdeclared.2 hreads.declared]
  simp only [bind, Except.bind, hoperations, if_neg hone, Registry.requests, htarget]
  rfl

/-- It is the request that a value of the object answers. -/
theorem request?_alone {profile : String} (h : r.Shows profile p)
    (hobject : p.lastObject? object.name = some object) (hreads : p.ReadsAlone object.name o)
    {v : TypedValue} (hv : v.resource = object.name) :
    Batch.request? r profile v = some ⟨o, object⟩ := by
  have htarget : r.object profile v.resource = .ok object := by rw [hv, h.object, hobject]
  simp only [Batch.request?, htarget, h.read, hreads.preferredRead?_eq, Option.getD_some]

end Registry.Shows

/-! ### One value -/

/-- A value that is normalised keeps its time. -/
theorem Request.origin_normalize {r : Request} {transform : Bool} {v w : TypedValue}
    (h : r.normalize transform v = .ok w) : w.origin = v.origin := by
  have hread : ∃ u : TypedValue, u.origin = v.origin ∧
      (r.object.spec.check u >>= fun _ => r.operation.mapValue u) = .ok w := by
    unfold normalize at h
    split at h
    · obtain ⟨u, hu, h⟩ := bind_eq_ok.1 h
      exact ⟨u, (ValueSpec.inbound_label hu).origin, h⟩
    · exact ⟨v, rfl, h⟩
  obtain ⟨u, hu, h⟩ := hread
  obtain ⟨-, -, h⟩ := bind_eq_ok.1 h
  exact (Operation.origin_mapValue h).trans hu

namespace Outcome

variable (transform : Bool) (now : Int64) (device : String) (r : Request) (v : TypedValue)

/-- One value is treated with the one request. -/
theorem ofValues_one :
    ofValues transform now device [r] [v] = ofValue transform now device (some r, v) := by
  have hpairs := ofValues_pairs transform now device [(r, v)]
  exact hpairs.trans (append_empty _)

theorem complete_ofValue :
    (ofValue transform now device (some r, v)).complete =
      (r.normalize transform v).toOption.isSome := by
  simp only [ofValue]
  cases r.normalize transform v <;> rfl

/-- When a value is read makes no difference to the registry. -/
theorem settle_ofValue (now' : Int64) (registry : Registry) :
    (ofValue transform now device (some r, v)).settle device registry =
      (ofValue transform now' device (some r, v)).settle device registry := by
  have hfailed : (ofValue transform now device (some r, v)).failedAssertions =
      (ofValue transform now' device (some r, v)).failedAssertions := by
    simp only [ofValue]
    cases r.normalize transform v <;> rfl
  simp only [settle, hfailed]

end Outcome

/-- A device keeps its name and its profile where no more than operating states change. -/
theorem Registry.SameButStates.deviceByName {r r' : Registry} (h : r.SameButStates r')
    {name : String} {d : Device} (hd : r.byName.get? name = some d) :
    ∃ d', r'.deviceByName name = .ok d' ∧ d'.name = d.name ∧ d'.profile = d.profile := by
  have hsame := h.devices name
  rw [hd, Option.map_some] at hsame
  obtain ⟨d', hd', heq⟩ := Option.map_eq_some_iff.1 hsame
  have hname := congrArg Device.name heq
  have hprofile := congrArg Device.profile heq
  exact ⟨d', by rw [Registry.deviceByName, hd'], hname, hprofile⟩

/-! ### Both ways -/

namespace Gateway

variable {δ μ : Type}

/-- A batch of one value is processed as an answer to the request that the value answers. -/
theorem process_one (k : Gateway δ μ) {d : Device} {r : Request} {v : TypedValue}
    (hd : k.registry.deviceByName d.name = .ok d)
    (hr : Batch.request? k.registry d.profile v = some r) :
    let o := Outcome.ofValue k.settings.dataTransform k.wall d.name (some r, v)
    (k.process ⟨d.name, [v]⟩).2.trace = k.trace ++ Passes.processing k.clock ⟨d.name, [v]⟩
      (if o.readings.isEmpty then none else some ⟨d.name, k.wall, o.readings⟩) ∧
    (k.process ⟨d.name, [v]⟩).2.registry = o.settle d.name k.registry := by
  intro o
  have houtcome : Batch.outcome? ⟨d.name, [v]⟩ k.settings.dataTransform k.wall k.registry =
      some o := by
    simp only [Batch.outcome?, hd, Batch.answered, List.filterMap_cons, List.filterMap_nil, hr,
      Option.map_some, List.map_cons, List.map_nil, Outcome.ofValues_one]
    rfl
  constructor
  · rw [(k.process_writes _).1, Batch.event?, houtcome]
  · rw [process_eq, houtcome]
    cases Batch.event? ⟨d.name, [v]⟩ k.settings.dataTransform k.wall k.registry <;> rfl

variable [Driver δ] [MetadataSource μ]

/-- While an answer is waited for, no gate is moved; and nothing at all if nothing else is to
be done or the answer comes at once. -/
theorem awaitRead_sameGates (g : Gateway δ μ) {key command : String} {d : Device}
    {rs : List Request} (h : g.Admits key command .get d rs) :
    g.SameGates (g.awaitRead d rs) ∧
      (g.Quiet ∨ (Driver.read g.driver g.wall d.addressable rs).1.delay = 0 →
        (g.awaitRead d rs).registry = g.registry) := by
  obtain ⟨new, -, -, hwaited⟩ := g.awaitRead_eq d rs
  constructor
  · have hasked : ∃ log, g.Course log (g.beginRead key command).2 := Course.refl.step (.read ..)
    rw [beginRead_ok (prepare_eq_ok.2 h)] at hasked
    obtain ⟨_, hc⟩ := (course_enduring g).pass hasked
      (min (Driver.read g.driver g.wall d.addressable rs).1.delay g.settings.timeout)
    exact hc.sameGates
  · rw [hwaited]
    rintro (hquiet | hnow)
    · have hq : Quiet { g with driver := (Driver.read g.driver g.wall d.addressable rs).2 } :=
        ⟨hquiet.ready, hquiet.sleeping, hquiet.feeder, hquiet.intake⟩
      rw [hq.pass_eq]
    · rw [hnow, Nat.zero_min]
      rfl

/-- A value of an object that is read alone, asked for and given in time, becomes the reading
that it becomes when it is pushed, but for the time of reading where it has no time of its own;
or neither way is there a reading. The registry is left the same, in particular the state of
the device. -/
theorem get_agrees_with_process (g : Gateway δ μ) (hreached : g.registry.Reachable)
    {key : String} {d : Device} {p : Profile} {o : Operation} {object : DeviceObject}
    {v : TypedValue} (hunlocked : g.locked = false) (hlimit : 1 ≤ g.settings.maxOperations)
    (hd : g.registry.lookup key = .ok d) (hdevice : d.isLocked = false)
    (hp : g.registry.profileByName d.profile = .ok p)
    (hobject : p.lastObject? object.name = some object) (hreads : p.ReadsAlone object.name o)
    (hv : v.resource = object.name)
    (hintime : (Driver.read g.driver g.wall d.addressable [⟨o, object⟩]).1.delay ≤
      g.settings.timeout)
    (hanswer : (Driver.read g.driver g.wall d.addressable [⟨o, object⟩]).1.outcome = .ok [v]) :
    let waited := g.awaitRead d [⟨o, object⟩]
    let survivor := (Request.normalize ⟨o, object⟩ g.settings.dataTransform v).toOption
    (∀ w ∈ survivor, w.origin = v.origin) ∧
    (g.get key object.name).1 = .ok ⟨⟨d.name, waited.wall,
      (survivor.map (·.toReading waited.wall d.name object.name)).toList⟩, survivor.isSome⟩ ∧
    (∀ k : Gateway δ μ, k.registry = waited.registry →
      k.settings.dataTransform = g.settings.dataTransform →
      (k.process ⟨d.name, [v]⟩).2.trace = k.trace ++ Passes.processing k.clock ⟨d.name, [v]⟩
        (survivor.map fun w => ⟨d.name, k.wall, [w.toReading k.wall d.name object.name]⟩) ∧
      (k.process ⟨d.name, [v]⟩).2.registry = (g.get key object.name).2.registry) ∧
    (g.Quiet ∨ (Driver.read g.driver g.wall d.addressable [⟨o, object⟩]).1.delay = 0 →
      waited.registry = g.registry) := by
  intro waited survivor
  have hshows := hreached.shows hp
  have hadmits : g.Admits key object.name .get d [⟨o, object⟩] :=
    ⟨hunlocked, hd, hdevice, hshows.resolve_alone hobject hreads hlimit⟩
  obtain ⟨hgates, hsame⟩ := g.awaitRead_sameGates hadmits
  have hread : ∀ now, (Outcome.ofValue g.settings.dataTransform now d.name
      (some ⟨o, object⟩, v)).readings =
        (survivor.map (·.toReading now d.name object.name)).toList := fun now =>
    Outcome.readings_ofValue g.settings.dataTransform now d.name ⟨o, object⟩ v
  -- the answer, and the registry that it leaves
  have hget : g.get key object.name = (waited.finishRead _) := get_of_admits hadmits
  have houtcome := (Reply.within_in_time hintime).trans (Reply.asDriver_ok hanswer)
  rw [finishRead_ok waited houtcome, hgates.settings] at hget
  simp only [Outcome.ofValues_one] at hget
  refine ⟨fun w hw => ?_, ?_, fun k hregistry htransform => ?_, hsame⟩
  · exact Request.origin_normalize (toOption_eq_some.1 hw)
  · rw [hget, hread, Outcome.complete_ofValue]
  · have hmem := mem_devices_of_lookup hd
    obtain ⟨d', hd', hname, hprofile⟩ :=
      hgates.registry.deviceByName (hreached.consistent.deviceByName_of_mem hmem)
    have hrequest := (hshows.congr hgates.registry.catalogues).request?_alone hobject hreads hv
    obtain ⟨htrace, hleft⟩ := k.process_one (d := d') (r := ⟨o, object⟩) (v := v)
      (by rw [hregistry, hname]; exact hd') (by rw [hregistry, hprofile]; exact hrequest)
    rw [hname, htransform] at htrace hleft
    constructor
    · rw [htrace, hread]
      cases survivor <;> rfl
    · rw [hleft, hget, hregistry]
      exact Outcome.settle_ofValue ..

/-- A level is worded as the resource of its name words it, asked for or not. -/
theorem get_agrees_with_process_worded :
    let batch : Batch := ⟨"Pump", [.ofString "Level" 7 "low"]⟩
    let event : Event := ⟨"Pump", 0, [⟨"Pump", "Level", "nearly empty", 7⟩]⟩
    (halfLocked.get "Pump" "Level").1 = .ok ⟨event, true⟩ ∧
    (halfLocked.process batch).2.trace =
      halfLocked.trace ++ Passes.processing 0 batch (some event) ∧
    (halfLocked.process batch).2.registry = (halfLocked.get "Pump" "Level").2.registry := by
  intro batch event
  have hreached : halfLocked.registry.Reachable :=
    .step .empty (.bootstrap halfLocked.source halfLocked.settings.name)
  have hreads : meter.ReadsAlone "Level"
      { operation := "get", object := "Level", mappings := .ofList [("low", "nearly empty")] } :=
    ⟨by decide, ⟨_, .tail _ (.head _), rfl, rfl⟩, rfl, by decide⟩
  have hpump : halfLocked.registry.lookup "Pump" = .ok (.ofNames "1" "Pump" "Meter") := rfl
  have hlevel : meter.lastObject? (DeviceObject.ofSpec "Level" (.plain .string)).name =
      some (.ofSpec "Level" (.plain .string)) := rfl
  obtain ⟨-, hget, hprocess, hsame⟩ := halfLocked.get_agrees_with_process hreached
    (v := .ofString "Level" 7 "low") rfl (by decide) hpump rfl rfl hlevel hreads rfl
    (by decide) rfl
  obtain ⟨htrace, hregistry⟩ := hprocess halfLocked (hsame (.inr rfl)).symm rfl
  exact ⟨hget, htrace, hregistry⟩

end Gateway

end DeviceGateway
