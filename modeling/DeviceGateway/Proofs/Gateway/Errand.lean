import DeviceGateway.Proofs.Gateway.Locks
import DeviceGateway.Proofs.Normalization.Undated
import DeviceGateway.Proofs.Registry.Disable

/-! One command of one device, step by step. The device is found, the driver is asked, and its
answer is finished. None of these steps depends on the states of devices or on the time, but for
the times of the readings, as long as the driver answers steadily; and the last of them disables
at most the device itself. -/

namespace DeviceGateway

/-! ### Steady drivers -/

namespace Driver

variable {δ : Type} [Driver δ]

/-- What becomes of a driver that is only read from. -/
inductive AfterReads (s : δ) : δ → Prop
  | refl : AfterReads s s
  | read {t : δ} (h : AfterReads s t) (now : Int64) (target : Addressable)
    (requests : List Request) : AfterReads s (Driver.read t now target requests).2

/-- As long as it is only read from, the driver answers a read as it would at first: what is got
of its answers within the limit depends on the target and the requests alone, but for the times of
the values. It may take more or less of the time each time. -/
def Steady (limit : Nat) (s : δ) : Prop :=
  ∀ t, AfterReads s t → ∀ now target requests,
    (Driver.read t now target requests).1.got limit =
      (Driver.read s 0 target requests).1.got limit

variable {limit : Nat} {s t : δ}

theorem Steady.got_eq (h : Steady limit s) (ht : AfterReads s t) (now now' : Int64)
    (target : Addressable) (requests : List Request) :
    (Driver.read t now target requests).1.got limit =
      (Driver.read s now' target requests).1.got limit :=
  (h t ht now target requests).trans (h s .refl now' target requests).symm

/-- A driver is steady that no read changes, if it answers the same at any time. -/
theorem steady_of_unmoved
    (hmoved : ∀ now target requests, (Driver.read s now target requests).2 = s)
    (hanswer : ∀ now target requests, (Driver.read s now target requests).1.undated =
      (Driver.read s 0 target requests).1.undated) : Steady limit s := by
  intro t ht now target requests
  have hsame : t = s := by
    induction ht with
    | refl => rfl
    | read _ now target requests ih => rw [ih, hmoved]
  rw [hsame, Reply.got_eq, hanswer, ← Reply.got_eq]

end Driver

theorem Script.steady (limit : Nat) (s : Script) : Driver.Steady limit s :=
  Driver.steady_of_unmoved (fun _ _ _ => rfl) (fun _ _ _ => rfl)

/-! ### States of devices -/

/-- The device without its operating state. -/
def Device.stateless (d : Device) : Device := { d with operatingState := .enabled }

/-- What is not the state of a device is the same. -/
theorem Device.of_stateless_eq {d d' : Device} (h : d'.stateless = d.stateless) :
    d'.name = d.name ∧ d'.profile = d.profile ∧ d'.addressable = d.addressable ∧
      d'.isLocked = d.isLocked :=
  ⟨(congrArg Device.name h :), (congrArg Device.profile h :), (congrArg Device.addressable h :),
    (congrArg Device.isLocked h :)⟩

namespace Registry

theorem sameButStates_disableAll (names : List String) (r : Registry) :
    r.SameButStates (r.disableAll names) := by
  rw [disableAll_eq]
  refine ⟨rfl, rfl, rfl, fun key => ?_⟩
  rw [byName_disableAll, Option.map_map]
  congr 1
  funext d
  unfold stateAmong Function.comp
  split <;> rfl

namespace SameButStates

variable {r r' : Registry}

/-- Under a name there is no device, or the same but for its state. -/
theorem byName_cases (h : r.SameButStates r') (name : String) :
    (r.byName.get? name = none ∧ r'.byName.get? name = none) ∨
      ∃ d d', r.byName.get? name = some d ∧ r'.byName.get? name = some d' ∧
        d'.stateless = d.stateless := by
  have hname := h.devices name
  cases hd : r.byName.get? name with
  | none =>
    rw [hd] at hname
    exact .inl ⟨rfl, Option.map_eq_none_iff.1 hname⟩
  | some d =>
    rw [hd] at hname
    obtain ⟨d', hd', hsame⟩ := Option.map_eq_some_iff.1 hname
    exact .inr ⟨d, d', rfl, hd', hsame⟩

/-- Under an id there is no device, or the same but for its state. -/
theorem deviceById (h : r.SameButStates r') (id : String) :
    (r'.deviceById id).map Device.stateless = (r.deviceById id).map Device.stateless := by
  unfold Registry.deviceById
  rw [h.nameById]
  cases r.nameById.get? id with
  | none => rfl
  | some name =>
    simp only [Option.bind_some]
    rcases h.byName_cases name with ⟨hd, hd'⟩ | ⟨d, d', hd, hd', hsame⟩
    · rw [hd, hd']
    · rw [hd, hd']
      exact congrArg Except.ok hsame

/-- The same device is found, but for its state. -/
theorem lookup (h : r.SameButStates r') (key : String) :
    (r'.lookup key).map Device.stateless = (r.lookup key).map Device.stateless := by
  have hname : (r'.deviceByName key).map Device.stateless =
      (r.deviceByName key).map Device.stateless := by
    unfold Registry.deviceByName
    rcases h.byName_cases key with ⟨hd, hd'⟩ | ⟨d, d', hd, hd', hsame⟩
    · rw [hd, hd']
    · rw [hd, hd']
      exact congrArg Except.ok hsame
  unfold Registry.lookup
  rcases map_eq_map (h.deviceById key) with ⟨e, hd', hd⟩ | ⟨d', d, hd', hd, hsame⟩
  · rw [hd, hd']
    exact hname
  · rw [hd, hd']
    exact congrArg Except.ok hsame

/-- A command of the same device resolves to the same. -/
theorem resolve (h : r.SameButStates r') {d d' : Device} (hd : d'.stateless = d.stateless)
    (limit : Nat) (command : String) (m : Method) :
    r'.resolve limit d' command m = r.resolve limit d command m := by
  obtain ⟨hname, hprofile, -, -⟩ := Device.of_stateless_eq hd
  have hcatalogue : r'.catalogue = r.catalogue := by
    funext profile
    rw [Registry.catalogue, h.catalogues]
    rfl
  have hrequests : ∀ os, r'.requests d.profile os = r.requests d.profile os := by
    intro os
    induction os with
    | nil => rfl
    | cons o os ih => simp only [Registry.requests, Registry.object, hcatalogue, ih]
  unfold Registry.resolve
  simp only [hname, hprofile, Registry.declares, Registry.operations, hcatalogue, hrequests]

end SameButStates

end Registry

/-! ### The steps -/

/-- What is asked and answered, without times and states. -/
def PendingRead.undated (p : PendingRead) : PendingRead where
  device := p.device.stateless
  requests := p.requests
  wait := 0
  outcome := p.outcome.map (List.map TypedValue.undated)

theorem PendingRead.of_undated_eq {p q : PendingRead} (h : p.undated = q.undated) :
    p.device.name = q.device.name ∧ p.requests = q.requests ∧
      p.outcome.map (List.map TypedValue.undated) = q.outcome.map (List.map TypedValue.undated) :=
  ⟨(congrArg (·.device.name) h :), (congrArg PendingRead.requests h :),
    (congrArg PendingRead.outcome h :)⟩

/-- The device that the read disables, if one of its values fails an assertion. -/
def PendingRead.failing (transform : Bool) (p : PendingRead) : List String :=
  match p.outcome with
  | .error _ => []
  | .ok values =>
    if (Outcome.ofValues transform 0 p.device.name p.requests values).failedAssertions = 0 then []
    else [p.device.name]

namespace Gateway

variable {δ μ : Type} (g : Gateway δ μ)

/-- The device of a key, if neither it nor the gateway is locked. -/
def find (key : String) : Except GatewayError Device := do
  g.checkLock
  let d ← g.registry.lookup key
  if d.isLocked then .error (.locked ("device " ++ d.name)) else .ok d

/-- What is prepared for a command is a device that is found, and what the command of the
device resolves to. -/
theorem prepare_eq_find (key command : String) (m : Method) : g.prepare key command m =
    g.find key >>= fun d =>
      (g.registry.resolve g.settings.maxOperations d command m).map (d, ·) := by
  unfold prepare find
  cases g.checkLock with
  | error e => rfl
  | ok _ =>
    simp only [bind, Except.bind]
    cases g.registry.lookup key with
    | error e => rfl
    | ok d =>
      by_cases hd : d.isLocked
      · simp only [hd, if_true]
      · simp only [hd, Bool.false_eq_true, if_false]
        cases g.registry.resolve g.settings.maxOperations d command m <;> rfl

section Steps

variable [Driver δ]

/-- Asks the driver for the values of a command of the device. -/
def ask (d : Device) (command : String) : Except GatewayError PendingRead × Gateway δ μ :=
  match g.registry.resolve g.settings.maxOperations d command .get with
  | .error e => (.error e, g)
  | .ok rs =>
    let reply := Driver.read g.driver g.wall d.addressable rs
    let answer := reply.1.asDriver.within g.settings.timeout
    (.ok ⟨d, rs, answer.1, answer.2⟩,
      { g with driver := reply.2 }.record (.read d.addressable rs))

/-- A read is begun by finding the device and asking the driver. -/
theorem beginRead_eq (key command : String) : g.beginRead key command =
    match g.find key with
    | .error e => (.error e, g)
    | .ok d => g.ask d command := by
  unfold beginRead ask
  rw [prepare_eq_find]
  cases g.find key with
  | error e => rfl
  | ok d =>
    simp only [bind, Except.bind]
    cases g.registry.resolve g.settings.maxOperations d command .get <;> rfl

variable {g} {h : Gateway δ μ} {d d' : Device}

omit [Driver δ] in
theorem find_eq_ok {key : String} (hd : g.find key = .ok d) : g.registry.lookup key = .ok d := by
  unfold find at hd
  obtain ⟨-, -, hd⟩ := bind_eq_ok.1 hd
  obtain ⟨e, he, hd⟩ := bind_eq_ok.1 hd
  split at hd <;> cases hd
  exact he

theorem ask_eq_ok {command : String} {p : PendingRead} (hp : (g.ask d command).1 = .ok p) :
    p.device = d := by
  unfold ask at hp
  split at hp <;> cases hp
  rfl

omit [Driver δ] in
theorem SameGates.find (hgh : g.SameGates h) (key : String) :
    (h.find key).map Device.stateless = (g.find key).map Device.stateless := by
  have hlock : h.checkLock = g.checkLock := by
    unfold checkLock
    rw [hgh.locked, hgh.settings]
  have hlookup := hgh.registry.lookup key
  unfold Gateway.find
  rw [hlock]
  cases g.checkLock with
  | error e => rfl
  | ok _ =>
    simp only [bind, Except.bind]
    rcases map_eq_map hlookup with ⟨e, hd', hd⟩ | ⟨d', d, hd', hd, hsame⟩
    · rw [hd, hd']
    · obtain ⟨hname, -, -, hlocked⟩ := Device.of_stateless_eq hsame
      simp only [hd, hd', hlocked, hname]
      split
      · rfl
      · exact congrArg Except.ok hsame

/-- The driver is asked the same, and if the same is got of its answers then the same is
pending. -/
theorem SameGates.ask_of_got (hgh : g.SameGates h) (hd : d'.stateless = d.stateless)
    (command : String)
    (hgot : ∀ rs, g.registry.resolve g.settings.maxOperations d command .get = .ok rs →
      (Driver.read h.driver h.wall d.addressable rs).1.got g.settings.timeout =
        (Driver.read g.driver g.wall d.addressable rs).1.got g.settings.timeout) :
    (h.ask d' command).1.map PendingRead.undated = (g.ask d command).1.map PendingRead.undated := by
  have haddressable := (Device.of_stateless_eq hd).2.2.1
  unfold Gateway.ask
  rw [hgh.settings, hgh.registry.resolve hd, haddressable]
  cases hrs : g.registry.resolve g.settings.maxOperations d command .get with
  | error e => rfl
  | ok rs =>
    have hreply := hgot rs hrs
    unfold Reply.got at hreply
    refine congrArg Except.ok ?_
    simp only [PendingRead.undated, hd, hreply]

theorem SameGates.ask (hgh : g.SameGates h) (hsteady : Driver.Steady g.settings.timeout g.driver)
    (hdriver : Driver.AfterReads g.driver h.driver) (hd : d'.stateless = d.stateless)
    (command : String) :
    (h.ask d' command).1.map PendingRead.undated = (g.ask d command).1.map PendingRead.undated :=
  hgh.ask_of_got hd command fun rs _ => hsteady.got_eq hdriver h.wall g.wall d.addressable rs

end Steps

section Finish

variable {g} {h : Gateway δ μ}

/-- The answer is the same but for times. -/
theorem finishRead_undated (hsettings : h.settings = g.settings) {p q : PendingRead}
    (hp : p.undated = q.undated) :
    (h.finishRead p).1.map Answer.undated = (g.finishRead q).1.map Answer.undated := by
  obtain ⟨hname, hrequests, houtcome⟩ := PendingRead.of_undated_eq hp
  rcases map_eq_map houtcome with ⟨e, ho, ho'⟩ | ⟨vs, vs', ho, ho', hvs⟩
  · simp only [finishRead, ho, ho']
  · have hsame := Outcome.ofValues_undated g.settings.dataTransform h.wall g.wall q.device.name
      q.requests hvs
    have hreadings := congrArg Outcome.readings hsame
    have hcomplete := congrArg Outcome.complete hsame
    simp only [Outcome.undated] at hreadings hcomplete
    rw [finishRead_ok h ho, finishRead_ok g ho', hsettings, hname, hrequests]
    simp only [Except.map, Answer.undated, Event.undated, hreadings, hcomplete]

theorem failing_undated (transform : Bool) {p q : PendingRead} (hp : p.undated = q.undated) :
    p.failing transform = q.failing transform := by
  obtain ⟨hname, hrequests, houtcome⟩ := PendingRead.of_undated_eq hp
  unfold PendingRead.failing
  rcases map_eq_map houtcome with ⟨e, ho, ho'⟩ | ⟨vs, vs', ho, ho', hvs⟩
  · rw [ho, ho']
  · have hsame := Outcome.ofValues_undated transform 0 0 q.device.name q.requests hvs
    have hfailed := congrArg Outcome.failedAssertions hsame
    simp only [Outcome.undated] at hfailed
    simp only [ho, ho', hname, hrequests, hfailed]

theorem registry_finishRead (g : Gateway δ μ) (p : PendingRead) :
    (g.finishRead p).2.registry =
      g.registry.disableAll (p.failing g.settings.dataTransform) := by
  unfold PendingRead.failing
  cases ho : p.outcome with
  | error e =>
    simp only [finishRead, ho]
    rfl
  | ok values =>
    have hsame := Outcome.ofValues_undated g.settings.dataTransform g.wall 0 p.device.name
      p.requests (rfl : values.map TypedValue.undated = values.map TypedValue.undated)
    have hfailed := congrArg Outcome.failedAssertions hsame
    simp only [Outcome.undated] at hfailed
    rw [finishRead_ok g ho]
    show Outcome.settle _ p.device.name g.registry = _
    unfold Outcome.settle
    simp only [hfailed]
    split <;> rfl

end Finish

end Gateway

end DeviceGateway
