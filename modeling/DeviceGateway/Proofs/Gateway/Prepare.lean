import DeviceGateway.Gateway.Run
import DeviceGateway.Proofs.Registry.Resolve

/-! The gates before every command: the gateway is not locked, the device is known and not
locked either, and the command resolves to requests. A command fails at the first gate that
is shut. -/

namespace DeviceGateway.Gateway

variable {δ μ : Type} (g : Gateway δ μ) (key command : String) (m : Method)

/-- The gates are open: the device is `d`, and the command comes to the requests `rs`. -/
structure Admits (d : Device) (rs : List Request) : Prop where
  unlocked : g.locked = false
  found : g.registry.lookup key = .ok d
  deviceUnlocked : d.isLocked = false
  resolved : g.registry.resolve g.settings.maxOperations d command m = .ok rs

/-- The first gate that is shut gives this error. -/
inductive Bars : GatewayError → Prop where
  | locked (h : g.locked = true) : Bars (.locked ("service " ++ g.settings.name))
  | unknown {e : GatewayError} (unlocked : g.locked = false)
      (h : g.registry.lookup key = .error e) : Bars e
  | deviceLocked {d : Device} (unlocked : g.locked = false)
      (found : g.registry.lookup key = .ok d) (h : d.isLocked = true) :
      Bars (.locked ("device " ++ d.name))
  | unresolved {d : Device} {e : GatewayError} (unlocked : g.locked = false)
      (found : g.registry.lookup key = .ok d) (deviceUnlocked : d.isLocked = false)
      (h : g.registry.resolve g.settings.maxOperations d command m = .error e) : Bars e

/-- The requests are what the profile lists for the command, in that order. -/
structure InProfileOrder (d : Device) (rs : List Request) : Prop where
  listed : g.registry.operations d.profile command m = .ok (rs.map (·.operation))
  objects : ∀ q ∈ rs, g.registry.object d.profile q.operation.object = .ok q.object
  resource : ∀ p, g.registry.catalogue d.profile = .ok (.ofProfile p) →
    ∃ q ∈ p.resources, q.name = command ∧ q.operations m = rs.map (·.operation)

variable {g key command m}

theorem Admits.inProfileOrder {d : Device} {rs : List Request}
    (h : g.Admits key command m d rs) : g.InProfileOrder command m d rs := by
  obtain ⟨hlisted, hobjects⟩ := Registry.resolve_eq_ok h.resolved
  refine ⟨hlisted, hobjects, fun p hp => ?_⟩
  obtain ⟨c, hc, hos⟩ := Registry.operations_eq_ok hlisted
  cases hp.symm.trans hc
  exact Catalogue.operations?_ofProfile hos

theorem checkLock_eq_ok {u : Unit} : g.checkLock = .ok u ↔ g.locked = false := by
  unfold checkLock
  cases g.locked <;> simp

theorem checkLock_eq_error {e : GatewayError} :
    g.checkLock = .error e ↔ g.locked = true ∧ .locked ("service " ++ g.settings.name) = e := by
  unfold checkLock
  cases g.locked <;> simp

theorem prepare_eq_ok {d : Device} {rs : List Request} :
    g.prepare key command m = .ok (d, rs) ↔ g.Admits key command m d rs := by
  unfold prepare
  simp only [bind_eq_ok, checkLock_eq_ok]
  constructor
  · rintro ⟨-, hl, d', hd, h⟩
    split at h
    · cases h
    · next hu =>
      obtain ⟨rs', hrs, h⟩ := bind_eq_ok.1 h
      cases h
      exact ⟨hl, hd, by simpa using hu, hrs⟩
  · intro h
    refine ⟨(), h.unlocked, d, h.found, ?_⟩
    rw [if_neg (by simp [h.deviceUnlocked])]
    exact bind_eq_ok.2 ⟨rs, h.resolved, rfl⟩

theorem prepare_eq_error {e : GatewayError} :
    g.prepare key command m = .error e ↔ g.Bars key command m e := by
  unfold prepare
  simp only [bind_eq_error, checkLock_eq_error, checkLock_eq_ok]
  constructor
  · rintro (⟨hl, rfl⟩ | ⟨-, hl, hd | ⟨d, hd, h⟩⟩)
    · exact .locked hl
    · exact .unknown hl hd
    · split at h
      · next hu =>
        cases h
        exact .deviceLocked hl hd hu
      · next hu =>
        rcases bind_eq_error.1 h with hrs | ⟨rs, -, h⟩
        · exact .unresolved hl hd (by simpa using hu) hrs
        · cases h
  · intro h
    cases h with
    | locked hl => exact .inl ⟨hl, rfl⟩
    | unknown hl hd => exact .inr ⟨(), hl, .inl hd⟩
    | deviceLocked hl hd hu => exact .inr ⟨(), hl, .inr ⟨_, hd, by rw [if_pos hu]⟩⟩
    | unresolved hl hd hu hrs =>
      refine .inr ⟨(), hl, .inr ⟨_, hd, ?_⟩⟩
      rw [if_neg (by simp [hu])]
      exact bind_eq_error.2 (.inl hrs)

end DeviceGateway.Gateway
