import DeviceGateway.Proofs.Gateway.Apart
import DeviceGateway.Proofs.Gateway.Trace

/-! Starts and stops. Only a start or a stop turns a gateway on or off, gives its sender out
or takes it back, and cancels its intake; whatever happens in between leaves that as it is.
A stop cancels for good. -/

namespace DeviceGateway

/-- The driver was started or stopped. -/
def Deed.isTurn : Deed → Bool
  | .started | .stopped _ => true
  | _ => false

theorem Deed.not_isTurn_of_isOwn {d : Deed} (h : d.isOwn) : ¬ d.isTurn := by
  cases d with
  | started | stopped => cases h
  | _ => exact Bool.false_ne_true

theorem Deed.not_isTurn_of_isApart {d : Deed} (h : d.isApart) : ¬ d.isTurn := by
  cases d with
  | started | stopped => cases h
  | _ => exact Bool.false_ne_true

namespace Gateway

variable {δ μ : Type}

/-- `h` is `g` after what is no start and no stop. -/
structure Between (g h : Gateway δ μ) : Prop where
  running : h.running = g.running
  hasSender : h.hasSender = g.hasSender
  cancelled : h.cancelled = g.cancelled
  trace : ∃ new, h.trace = g.trace ++ new ∧ ∀ e ∈ new, ¬ e.2.isTurn

namespace Between

variable {g h k : Gateway δ μ}

theorem refl (g : Gateway δ μ) : g.Between g :=
  ⟨rfl, rfl, rfl, [], (List.append_nil _).symm, by simp⟩

theorem trans (hgh : g.Between h) (hhk : h.Between k) : g.Between k where
  running := hhk.running.trans hgh.running
  hasSender := hhk.hasSender.trans hgh.hasSender
  cancelled := hhk.cancelled.trans hgh.cancelled
  trace := exists_append_trans hgh.trace hhk.trace

end Between

theorem Apart.between {g h : Gateway δ μ} (hh : g.Apart h) : g.Between h where
  running := hh.running
  hasSender := hh.hasSender
  cancelled := hh.cancelled
  trace := by
    obtain ⟨new, hnew, hapart⟩ := hh.trace
    exact ⟨new, hnew, fun e he => Deed.not_isTurn_of_isApart (hapart e he)⟩

theorem Own.between {g h : Gateway δ μ} (hh : g.Own h) : g.Between h where
  running := hh.running
  hasSender := hh.hasSender
  cancelled := hh.cancelled
  trace := by
    obtain ⟨new, hnew, hown⟩ := hh.trace
    exact ⟨new, hnew, fun e he => Deed.not_isTurn_of_isOwn (hown e he)⟩

/-! ### Starts and stops -/

section Turns

variable [Driver δ] [MetadataSource μ] {g h : Gateway δ μ}

theorem durable_between (g : Gateway δ μ) : Durable g.Between where
  toEnduring := own_frame.enduring fun _ _ hg hh => hg.trans hh.between
  apart _ _ hg hh := hg.trans hh.between
  push _ b hg := hg.trans (own_frame.push _ b).between
  reserve _ hg := hg.trans (own_frame.conduit _ _ _ _).between
  release _ hg := hg.trans (own_frame.release _).between

theorem Step.between (hs : g.Step h) :
    g.Between h ∨ h = g.start.2 ∨ ∃ force, h = g.stop force :=
  (durable_between g).step (.refl g) hs

theorem start_of_running (hg : g.running = true) : g.start = (.ok (), g) := by
  rw [start, if_pos hg]

/-- A start of a gateway that is not running asks the driver, and turns the gateway on
whatever the driver says. -/
theorem start_turns (hg : g.running = false) :
    g.start.1 = (Driver.start g.driver).1 ∧ g.start.2.running = true ∧
      g.start.2.hasSender = true ∧ g.start.2.cancelled = g.cancelled ∧
      g.start.2.trace = g.trace ++ [(g.clock, .started)] := by
  unfold start
  rw [hg]
  exact ⟨rfl, rfl, rfl, rfl, rfl⟩

theorem stop_turns (g : Gateway δ μ) (force : Bool) :
    (g.stop force).running = false ∧ (g.stop force).hasSender = false ∧
      (g.stop force).cancelled = true ∧
      ∃ new t, (g.stop force).trace = g.trace ++ new ++ [(t, .stopped force)] ∧
        ∀ e ∈ new, ¬ e.2.isTurn := by
  have hcalled := (wakeIntake_apart { g with
    cancelled := true, hasSender := false, running := false }).between
  have hawaited := (durable_between _).awaited hcalled
  obtain ⟨new, hnew, hturn⟩ := hawaited.trace
  exact ⟨hawaited.running, hawaited.hasSender, hawaited.cancelled, new, g.awaited.clock,
    congrArg (· ++ _) hnew, hturn⟩

/-- What is durable is so from a start or a stop to the next one. So it holds of gateways that
run or do not, and are cancelled or not, if starts and stops give it to those. -/
theorem Durable.reachable {P : Gateway δ μ → Prop} (hk : Durable P) (R : Bool → Bool → Prop)
    (hnew : ∀ settings driver source publisher epoch, R false false →
      P { settings, driver, source, publisher, epoch })
    (hstart : ∀ g : Gateway δ μ, g.running = false → R true g.cancelled → P g.start.2)
    (hstop : ∀ (g : Gateway δ μ) force, g.Reachable → (R g.running g.cancelled → P g) →
      R false true → P (g.stop force))
    (hg : g.Reachable) (hr : R g.running g.cancelled) : P g := by
  induction hg with
  | new => exact hnew _ _ _ _ _ hr
  | @step g h hg hs ih =>
    have hstarted : h = g.start.2 → P h := by
      rintro rfl
      cases hrunning : g.running with
      | true =>
        rw [start_of_running hrunning] at hr ⊢
        exact ih hr
      | false =>
        obtain ⟨-, hturned, -, hcancelled, -⟩ := start_turns hrunning
        rw [hturned, hcancelled] at hr
        exact hstart g hrunning hr
    have hstopped : ∀ force, h = g.stop force → P h := by
      rintro force rfl
      obtain ⟨hturned, -, hcancelled, -⟩ := g.stop_turns force
      rw [hturned, hcancelled] at hr
      exact hstop g force hg ih hr
    rcases hs.between with hb | heq | ⟨force, heq⟩
    · rw [hb.running, hb.cancelled] at hr
      rcases hk.step (ih hr) hs with hh | heq | ⟨force, heq⟩
      · exact hh
      · exact hstarted heq
      · exact hstopped force heq
    · exact hstarted heq
    · exact hstopped force heq

/-- A gateway that runs hands its sender out. -/
theorem Reachable.hasSender_eq (hg : g.Reachable) : g.hasSender = g.running := by
  induction hg with
  | new => rfl
  | @step g h _ hs ih =>
    rcases hs.between with hb | rfl | ⟨force, rfl⟩
    · rw [hb.hasSender, hb.running, ih]
    · cases hrunning : g.running with
      | true => rw [start_of_running hrunning, ih]
      | false => rw [(start_turns hrunning).2.1, (start_turns hrunning).2.2.1]
    · rw [(g.stop_turns force).1, (g.stop_turns force).2.1]

/-- The gateway was stopped before. -/
def Stopped (g : Gateway δ μ) : Prop := ∃ t force, (t, .stopped force) ∈ g.trace

/-- What was cancelled was stopped before, and it stays cancelled. -/
theorem Reachable.stopped_iff (hg : g.Reachable) : g.Stopped ↔ g.cancelled = true := by
  induction hg with
  | new => simp [Stopped]
  | @step g h _ hs ih =>
    rcases hs.between with hb | rfl | ⟨force, rfl⟩
    · obtain ⟨new, hnew, hturn⟩ := hb.trace
      rw [hb.cancelled, ← ih]
      unfold Stopped
      rw [hnew]
      constructor
      · rintro ⟨t, force, hmem⟩
        rcases List.mem_append.1 hmem with hmem | hmem
        · exact ⟨t, force, hmem⟩
        · exact absurd rfl (hturn _ hmem)
      · rintro ⟨t, force, hmem⟩
        exact ⟨t, force, List.mem_append_left _ hmem⟩
    · cases hrunning : g.running with
      | true => rwa [start_of_running hrunning]
      | false =>
        obtain ⟨-, -, -, hcancelled, htrace⟩ := start_turns hrunning
        rw [hcancelled, ← ih]
        unfold Stopped
        simp [htrace]
    · obtain ⟨-, -, hcancelled, new, t, htrace, -⟩ := g.stop_turns force
      rw [hcancelled]
      refine ⟨fun _ => rfl, fun _ => ⟨t, force, ?_⟩⟩
      simp [htrace]

end Turns

end Gateway

end DeviceGateway
