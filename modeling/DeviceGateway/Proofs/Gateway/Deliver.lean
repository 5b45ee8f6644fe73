import DeviceGateway.Proofs.Gateway.Flow

/-! What is begun is handed on. Devices may be disabled while time passes, but that does not
change what becomes of a batch. So the event of a batch can be told beforehand, and the
publisher is handed it when the batch begins. -/

namespace DeviceGateway.Gateway

variable {δ μ : Type}

/-- The event of a batch that is processed at `clock`. -/
def eventAt (g : Gateway δ μ) (clock : Nat) (b : Batch) : Option Event :=
  b.event? g.settings.dataTransform (g.epoch + Int64.ofNat clock) g.registry

/-- What was begun between `g` and `h` was handed on, as the event that it has in `g`. -/
structure Hands (g h : Gateway δ μ) : Prop where
  eventAt : h.eventAt = g.eventAt
  trace : ∃ new, h.trace = g.trace ++ new ∧ ∀ t b e, (t, .began b) ∈ new →
    g.eventAt t b = some e → (t, .published e) ∈ new

namespace Hands

variable {g h k : Gateway δ μ}

theorem of_begunIn (new : List (Nat × Deed)) (heventAt : h.eventAt = g.eventAt)
    (htrace : h.trace = g.trace ++ new) (hnew : begunIn new = []) : g.Hands h := by
  refine ⟨heventAt, new, htrace, fun t b e hb _ => ?_⟩
  have hmem := mem_begunIn.2 ⟨t, hb⟩
  rw [hnew] at hmem
  cases hmem

theorem of_eq (hsettings : h.settings = g.settings) (hepoch : h.epoch = g.epoch)
    (hregistry : h.registry = g.registry) (htrace : h.trace = g.trace) : g.Hands h := by
  refine .of_begunIn [] ?_ (by rw [htrace, List.append_nil]) rfl
  unfold Gateway.eventAt
  rw [hsettings, hepoch, hregistry]

theorem refl (g : Gateway δ μ) : g.Hands g := .of_eq rfl rfl rfl rfl

theorem trans (hgh : g.Hands h) (hhk : h.Hands k) : g.Hands k where
  eventAt := hhk.eventAt.trans hgh.eventAt
  trace := by
    obtain ⟨new, hnew, hbegan⟩ := hgh.trace
    obtain ⟨new', hnew', hbegan'⟩ := hhk.trace
    refine ⟨new ++ new', by rw [hnew', hnew, List.append_assoc], fun t b e hb he => ?_⟩
    rcases List.mem_append.1 hb with hb | hb
    · exact List.mem_append_left _ (hbegan t b e hb he)
    · rw [← hgh.eventAt] at he
      exact List.mem_append_right _ (hbegan' t b e hb he)

end Hands

/-! ### What is handed on -/

section Frame

variable (g : Gateway δ μ)

theorem record_hands {d : Deed} (hd : d.begun? = none) : g.Hands (g.record d) :=
  .of_begunIn [(g.clock, d)] rfl rfl (by simp [begunIn, hd])

theorem settleOutcome_hands (device : String) (o : Outcome) :
    g.Hands (g.settleOutcome device o) := by
  refine .of_begunIn [] ?_ (List.append_nil _).symm rfl
  funext clock b
  exact b.event?_settle g.registry device g.settings.dataTransform _ o

theorem hands_outcome : OutcomeFrame (Hands (δ := δ) (μ := μ)) where
  refl := .refl
  trans := .trans
  settle := settleOutcome_hands
  publish _ _ := .of_eq rfl rfl rfl rfl
  published g _ := g.record_hands rfl

/-- A batch that is processed has the event of its time. -/
theorem process_hands (b : Batch) : g.Hands (g.process b).2 := by
  refine ⟨(hands_outcome.process g b).eventAt, _, (g.process_writes b).1, fun t c e hc he => ?_⟩
  rcases List.mem_cons.1 hc with hc | hc
  · cases hc
    have hevent : b.event? g.settings.dataTransform g.wall g.registry = some e := he
    rw [hevent]
    exact List.mem_cons_of_mem _ (List.mem_singleton.2 rfl)
  · obtain ⟨e', -, he'⟩ := List.mem_map.1 hc
    cases he'

theorem hands_frame [Driver δ] : SelfFrame (Hands (δ := δ) (μ := μ)) where
  toOutcomeFrame := hands_outcome
  conduit _ _ _ _ := .of_eq rfl rfl rfl rfl
  accepted g _ := g.record_hands rfl
  wake _ := .of_eq rfl rfl rfl rfl
  process := process_hands
  drained g _ := g.record_hands rfl
  answer _ _ _ := .of_eq rfl rfl rfl rfl
  sleep _ _ _ _ := .of_eq rfl rfl rfl rfl
  read g d rs := by
    have hdriver : g.Hands { g with
      driver := (Driver.read g.driver g.wall d.addressable rs).2 } := .of_eq rfl rfl rfl rfl
    exact hdriver.trans (record_hands _ rfl)
  reported g device source := by
    have hnoted := g.record_hands (d := .reported device .disabled) rfl
    exact hnoted.trans (.of_eq rfl rfl rfl rfl)
  ready _ _ := .of_eq rfl rfl rfl rfl
  jump _ _ := .of_eq rfl rfl rfl rfl

end Frame

end DeviceGateway.Gateway
