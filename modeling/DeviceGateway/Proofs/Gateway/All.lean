import DeviceGateway.Driver.Script
import DeviceGateway.Metadata.Source
import DeviceGateway.Proofs.Gateway.Gather

/-! Reading all devices. Between requests the device tables of a gateway are consistent and
nothing of a command is under way, so that a command for all devices has one entry for each of
those that have it, found by their ids whatever other devices are called. The entry is the
answer that the device gives alone, in whatever order the devices are read, and so is the
registry that is left. -/

namespace DeviceGateway

theorem Registry.SameButStates.consistent {r r' : Registry} (h : r.SameButStates r')
    (hr : r.Consistent) : r'.Consistent := by
  constructor
  · intro n d' hd'
    rcases h.byName_cases n with ⟨-, hnone⟩ | ⟨d, e, hd, he, hsame⟩
    · rw [hnone] at hd'
      cases hd'
    · obtain rfl : e = d' := Option.some.inj (he.symm.trans hd')
      have hname : e.name = d.name := (congrArg Device.name hsame :)
      have hid : e.id = d.id := (congrArg Device.id hsame :)
      rw [hname, hid, h.nameById]
      exact hr.named n d hd
  · intro i n hin
    rw [h.nameById] at hin
    obtain ⟨d, hd, rfl⟩ := hr.identified i n hin
    rcases h.byName_cases n with ⟨hnone, -⟩ | ⟨e, d', he, hd', hsame⟩
    · rw [hnone] at hd
      cases hd
    · obtain rfl : e = d := Option.some.inj (he.symm.trans hd)
      exact ⟨d', hd', (congrArg Device.id hsame :)⟩

namespace Gateway

variable {δ μ : Type} [Driver δ] [MetadataSource μ] {g : Gateway δ μ} {command : String}

/-! ### Devices between requests -/

theorem consistent_step {g' : Gateway δ μ} (hg : g.registry.Consistent) (hs : g.Step g') :
    g'.registry.Consistent := by
  have hcourse : ∀ {h : Gateway δ μ}, (∃ log, g.Course log h) → h.registry.Consistent :=
    fun ⟨_, hc⟩ => hc.sameGates.registry.consistent hg
  cases hs with
  | start =>
    unfold start
    split
    · exact hg
    · exact hg.bootstrap g.source g.settings.name
  | stop force => exact hcourse (g.course_stop force)
  | get key command => exact hcourse (g.course_get key command)
  | getAll command => exact hcourse (g.course_getAll command)
  | put key command parameters => exact hcourse (g.course_put key command parameters)
  | push b => exact (calm_feed.push g b).registry.consistent hg
  | release => exact (calm_feed.release g).registry.consistent hg
  | settle => exact hcourse ((course_enduring g).settle ⟨[], .refl⟩)
  | pass ms => exact hcourse ((course_enduring g).pass ⟨[], .refl⟩ ms)
  | manage h => exact hg.step h
  | removeDevice id =>
    unfold removeDevice
    split
    · exact hg
    · split
      · exact hg
      · next hremoved => exact hg.removeDevice hremoved
  | setLocked | reserve | drive => exact hg

theorem Reachable.consistent (hg : g.Reachable) : g.registry.Consistent := by
  induction hg with
  | new => exact .empty
  | step _ hs ih => exact consistent_step ih hs

/-! ### Who is asked, and what for -/

omit [Driver δ] [MetadataSource μ] in
theorem mem_targets {d : Device} : d ∈ g.targets command ↔ d ∈ g.registry.devices ∧
    d.isLocked = false ∧
    ∃ p, g.registry.profileByName d.profile = .ok p ∧ command ∈ p.commands := by
  unfold targets Registry.declares Registry.profileByName
  rw [List.mem_filter]
  cases g.registry.catalogue d.profile with
  | error e => simp [Except.map, Except.toOption]
  | ok c => simp [Except.map, Except.toOption]

omit [Driver δ] [MetadataSource μ] in
theorem targets_nodup (hg : g.registry.Consistent) (command : String) :
    ((g.targets command).map (·.name)).Nodup := by
  refine List.pairwise_map.2 ?_
  exact (hg.devices_distinct.sublist List.filter_sublist).imp And.left

omit [MetadataSource μ] in
/-- The device that is asked for by its id is the device itself. -/
theorem device_of_beginRead (hg : g.registry.Consistent) {d : Device} (hd : d ∈ g.registry.devices)
    {p : PendingRead} (hp : (g.beginRead d.id command).1 = .ok p) : p.device = d := by
  have hlookup : g.registry.lookup d.id = .ok d := by
    rw [Registry.lookup, hg.deviceById_of_mem hd]
  rw [beginRead_eq] at hp
  split at hp
  · cases hp
  · next d' hfind =>
    rw [ask_eq_ok hp]
    exact Except.ok.inj ((find_eq_ok hfind).symm.trans hlookup)

omit [Driver δ] [MetadataSource μ] in
theorem device_of_finishRead {p : PendingRead} {a : Answer} (ha : (g.finishRead p).1 = .ok a) :
    a.event.device = p.device.name := by
  cases ho : p.outcome with
  | error e =>
    rw [finishRead, ho] at ha
    cases ha
  | ok values =>
    rw [finishRead_ok g ho] at ha
    cases ha
    rfl

omit [MetadataSource μ] in
theorem device_of_expected (hg : g.registry.Consistent) {d : Device} (hd : d ∈ g.registry.devices)
    {a : Answer} (ha : g.expected command d = .ok a) : a.event.device = d.name := by
  unfold expected at ha
  split at ha
  · cases ha
  · next p hp =>
    rw [device_of_finishRead ha, device_of_beginRead hg hd hp]

/-- The answer of a read is what it would be if the driver answered at once, but for times. -/
theorem get_begun (g : Gateway δ μ) (key command : String) :
    (g.get key command).1.map Answer.undated =
      ((g.beginRead key command).1 >>= fun p => (g.finishRead p).1).map Answer.undated := by
  have hasked : ∃ log, g.Course log (g.beginRead key command).2 := Course.refl.step (.read ..)
  unfold get
  generalize g.beginRead key command = begun at hasked
  obtain ⟨result, g'⟩ := begun
  cases result with
  | error e => rfl
  | ok p =>
    obtain ⟨_, hc⟩ := (course_enduring g).pass hasked p.wait
    exact finishRead_undated hc.sameGates.settings rfl

/-- What is expected of a device is what it answers alone, but for times. -/
theorem get_undated (g : Gateway δ μ) (command : String) (d : Device) :
    (g.get d.id command).1.map Answer.undated =
      (g.expected command d).map Answer.undated := by
  rw [get_begun, expected]
  cases (g.beginRead d.id command).1 <;> rfl

/-! ### All devices -/

omit [MetadataSource μ] in
/-- All races of a command come to the same entries but for times, and leave those devices
disabled that fail their assertions or that others have disabled. -/
theorem Gathers.outcome (hsteady : Driver.Steady g.settings.timeout g.driver) {others : List String}
    {entries : List (String × Except GatewayError Answer)} {registry : Registry}
    (h : g.Gathers command others entries registry) :
    (entries.map fun e => (e.1, e.2.map Answer.undated)).Perm
      ((g.targets command).map fun d => (d.name, (g.expected command d).map Answer.undated)) ∧
    registry = g.registry.disableAll
      (others ++ (g.targets command).flatMap (g.failing command)) := by
  obtain ⟨r, hrun, hdone, hentries, rfl, rfl⟩ := h
  obtain ⟨hanswers, hregistry⟩ := hrun.outcome hsteady hdone
  refine ⟨(hentries.map _).trans ?_, hregistry⟩
  rw [List.map_map]
  exact hanswers

/-- There is one entry for each device that is not locked and whose profile is known and has the
command, and no other. It is the answer of the device alone, but for times, and if it is an event
it is one of the device. The command is one of its races: none of them gets stuck, whatever order
its tasks take, and all of them come to these entries, but for times, and to this registry, if the
same devices are disabled by batches that the intake begins meanwhile. -/
theorem Reachable.getAll_complete (hg : g.Reachable)
    (hsteady : Driver.Steady g.settings.timeout g.driver) (command : String) :
    let entries := (g.getAll command).1
    let registry := (g.getAll command).2.registry
    (entries.map (·.1)).Nodup ∧
    (∀ name, name ∈ entries.map (·.1) ↔ ∃ d ∈ g.registry.devices, d.name = name ∧
      d.isLocked = false ∧
      ∃ p, g.registry.profileByName d.profile = .ok p ∧ command ∈ p.commands) ∧
    (∀ d ∈ g.registry.devices, ∀ r, (d.name, r) ∈ entries →
      r.map Answer.undated = (g.get d.id command).1.map Answer.undated ∧
      ∀ a, r = .ok a → a.event.device = d.name) ∧
    (∀ r : Race δ μ, Race.Run g command r → ∃ r', Race.Run g command r' ∧ r'.errands = [] ∧
      r'.others = r.others ∧ r.answers <+: r'.answers) ∧
    ∃ others, g.Began others (g.getAll command).2 ∧ g.Gathers command others entries registry ∧
      ∀ others' entries' registry', g.Gathers command others' entries' registry' →
        (entries'.map fun e => (e.1, e.2.map Answer.undated)).Perm
          (entries.map fun e => (e.1, e.2.map Answer.undated)) ∧
        ((∀ n, n ∈ others' ↔ n ∈ others) → registry' = registry) := by
  intro entries registry
  have hconsistent := hg.consistent
  obtain ⟨-, others, hbegan, hgathers⟩ := hg.idle.getAll command
  obtain ⟨hentries, hregistry⟩ := hgathers.outcome hsteady
  have hnames : (entries.map (·.1)).Perm ((g.targets command).map (·.name)) := by
    have h := hentries.map Prod.fst
    rwa [List.map_map, List.map_map] at h
  refine ⟨hnames.nodup_iff.2 (targets_nodup hconsistent command), fun name => ?_,
    fun d hd r hr => ?_, fun r hr => hr.finishes, others, hbegan, hgathers,
    fun others' entries' registry' h => ?_⟩
  · rw [hnames.mem_iff, List.mem_map]
    constructor
    · rintro ⟨d, hd, rfl⟩
      obtain ⟨hmem, hunlocked, hprofile⟩ := mem_targets.1 hd
      exact ⟨d, hmem, rfl, hunlocked, hprofile⟩
    · rintro ⟨d, hmem, rfl, hunlocked, hprofile⟩
      exact ⟨d, mem_targets.2 ⟨hmem, hunlocked, hprofile⟩, rfl⟩
  · -- the entry is that of a device with the name, and there is only one
    have hmem : (d.name, r.map Answer.undated) ∈ (g.targets command).map
        fun e => (e.name, (g.expected command e).map Answer.undated) :=
      hentries.mem_iff.1 (List.mem_map.2 ⟨_, hr, rfl⟩)
    obtain ⟨e, he, heq⟩ := List.mem_map.1 hmem
    obtain ⟨hname, hanswer⟩ := Prod.mk.inj heq
    have hsame : e = d := by
      have hde := hconsistent.deviceByName_of_mem hd
      rw [← hname, hconsistent.deviceByName_of_mem (mem_targets.1 he).1] at hde
      exact Option.some.inj hde
    subst hsame
    refine ⟨by rw [get_undated, hanswer], fun a ha => ?_⟩
    rw [ha] at hanswer
    obtain ⟨b, hb, hab⟩ := map_eq_ok.1 hanswer
    have hdevice : b.event.device = a.event.device := (congrArg (·.event.device) hab :)
    rw [← hdevice, device_of_expected hconsistent hd hb]
  · obtain ⟨hentries', hregistry'⟩ := h.outcome hsteady
    refine ⟨hentries'.trans hentries.symm, fun hothers => ?_⟩
    rw [hregistry']
    refine Eq.trans (Registry.disableAll_congr _ fun n => ?_) hregistry.symm
    rw [List.mem_append, List.mem_append, hothers n]

/-- A gateway that has just started. Two of its devices have for an id what the other has for a
name, and the one that answers first is not at the level that it must be at. -/
def crossed : Gateway Script FixedSource :=
  let level (text : String) : Except GatewayError (List TypedValue) :=
    .ok [.ofString "Level" 7 text]
  let profile : Profile := Profile.withResource
    { name := "Meter"
      objects := [.ofSpec "Level" { ValueSpec.plain .string with assertion := "low" }] }
    { name := "Level", get := [.ofNames "get" "Level"] }
  let new : Gateway Script FixedSource := {
    settings := {}
    driver := { actions := .ofList [
      ("Pump", { delay := 30, values := level "low" }),
      ("Valve", { delay := 10, values := level "high" })] }
    source := {
      devices := [.ofNames "Valve" "Pump" "Meter", .ofNames "Pump" "Valve" "Meter",
        { Device.ofNames "3" "Drain" "Meter" with adminState := .locked }]
      profiles := [profile] }
    publisher := ⟨fun _ => { outcome := .ok () }⟩
    epoch := 0 }
  new.start.2

/-- Each device answers for itself, and the one at the wrong level is disabled, whichever of the
two is read first. -/
theorem getAll_complete_crossed :
    ((crossed.getAll "Level").1.map (·.1)).Perm ["Pump", "Valve"] ∧
    (∃ a, ("Valve", .ok a) ∈ (crossed.getAll "Level").1 ∧ a.event.device = "Valve" ∧
      a.complete = false) ∧
    ∀ entries registry, crossed.Gathers "Level" [] entries registry →
      (entries.map (·.1)).Perm ["Pump", "Valve"] ∧
      registry.devices.map (fun d => (d.name, d.operatingState)) =
        [("Drain", .enabled), ("Pump", .enabled), ("Valve", .disabled)] := by
  have hreachable : crossed.Reachable := .step (.new ..) .start
  obtain ⟨hnodup, hnames, hanswers, -, others, ⟨new, hnew, hothers⟩, -, hraces⟩ :=
    hreachable.getAll_complete (Script.steady _ crossed.driver) "Level"
  have htargets : (crossed.targets "Level").map (·.name) = ["Pump", "Valve"] := by decide +kernel
  have hentries : ((crossed.getAll "Level").1.map (·.1)).Perm ["Pump", "Valve"] := by
    rw [← htargets]
    refine (List.perm_ext_iff_of_nodup hnodup (by rw [htargets]; decide)).2 fun name => ?_
    rw [hnames, List.mem_map]
    simp only [mem_targets]
    grind
  have hquiet : others = [] := by
    have hnone : (crossed.getAll "Level").2.begun = [] ∧ crossed.begun = [] := by decide +kernel
    rw [hnone.1, hnone.2, List.nil_append] at hnew
    refine List.eq_nil_iff_forall_not_mem.2 fun n hn => ?_
    obtain ⟨e, he, -⟩ := hothers n hn
    rw [← hnew] at he
    cases he
  have hvalve : Device.ofNames "Pump" "Valve" "Meter" ∈ crossed.registry.devices := by
    decide +kernel
  refine ⟨hentries, ?_, fun entries registry h => ?_⟩
  · have hmem : "Valve" ∈ (crossed.getAll "Level").1.map (·.1) := hentries.mem_iff.2 (by decide)
    obtain ⟨⟨name, r⟩, hr, rfl⟩ := List.mem_map.1 hmem
    obtain ⟨halone, hdevice⟩ := hanswers _ hvalve r hr
    obtain ⟨b, hb, hfailed⟩ : ∃ b, (crossed.get "Pump" "Level").1 = .ok b ∧ b.complete = false :=
      ⟨_, rfl, rfl⟩
    change r.map Answer.undated = (crossed.get "Pump" "Level").1.map Answer.undated at halone
    rw [hb] at halone
    obtain ⟨a, rfl, hsame⟩ := map_eq_ok.1 halone
    have hcomplete : a.complete = b.complete := (congrArg Answer.complete hsame :)
    exact ⟨a, hr, hdevice a rfl, hcomplete.trans hfailed⟩
  · obtain ⟨hsame, hregistry⟩ := hraces [] entries registry h
    have hfirst := hsame.map Prod.fst
    rw [List.map_map, List.map_map] at hfirst
    refine ⟨hfirst.trans hentries, ?_⟩
    rw [hregistry (by simp [hquiet])]
    decide +kernel

end Gateway

end DeviceGateway
