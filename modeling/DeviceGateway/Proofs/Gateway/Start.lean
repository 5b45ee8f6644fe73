import DeviceGateway.Driver.Script
import DeviceGateway.Proofs.Gateway.Lifecycle

/-! What a start says. It asks the driver only if it is the first one since the last stop,
and fails only if the driver does. A later one succeeds without asking; so after a failed
start it is no sign that the driver has been initialised. -/

namespace DeviceGateway.Gateway

variable {δ μ : Type}

/-- How often the driver was asked to start. -/
def starts (g : Gateway δ μ) : Nat := g.trace.countP (·.2 matches .started)

/-- What came of a start. -/
structure Attempt where
  /-- What the driver answered, if it was asked. -/
  asked : Option (Except GatewayError Unit)
  result : Except GatewayError Unit

/-- In one of the attempts the driver has started. -/
def Initialised (past : List Attempt) : Prop := ∃ a ∈ past, a.asked = some (.ok ())

section Life

variable [Driver δ] [MetadataSource μ]

/-- What would come of a start. -/
def attempt (g : Gateway δ μ) : Attempt where
  asked := if g.starts < g.start.2.starts then some (Driver.start g.driver).1 else none
  result := g.start.1

/-- The gateway has come about by starts, stops, and anything else in between; `past` are
the starts since its last stop, or since it is new, the latest first. -/
inductive Life : List Attempt → Gateway δ μ → Prop
  | new (settings : Settings) (driver : δ) (source : μ) (publisher : Publisher) (epoch : Int64) :
    Life [] { settings, driver, source, publisher, epoch }
  | start {past : List Attempt} {g : Gateway δ μ} (h : Life past g) :
    Life (g.attempt :: past) g.start.2
  | stop {past : List Attempt} {g : Gateway δ μ} (h : Life past g) (force : Bool) :
    Life [] (g.stop force)
  | meanwhile {past : List Attempt} {g g' : Gateway δ μ} (h : Life past g) (hs : g.Step g')
    {new : List (Nat × Deed)} (htrace : g'.trace = g.trace ++ new)
    (hnew : ∀ e ∈ new, ¬ e.2.isTurn) : Life past g'

variable {g : Gateway δ μ} {past : List Attempt}

theorem starts_start_of_running (hg : g.running = true) : g.start.2.starts = g.starts := by
  rw [start_of_running hg]

theorem starts_start_of_not_running (hg : g.running = false) :
    g.start.2.starts = g.starts + 1 := by
  unfold starts
  rw [(start_turns hg).2.2.2.2, List.countP_append]
  rfl

theorem attempt_of_running (hg : g.running = true) : g.attempt = ⟨none, .ok ()⟩ := by
  have hstarts := starts_start_of_running hg
  unfold attempt
  rw [hstarts, if_neg (Nat.lt_irrefl _), start_of_running hg]

theorem attempt_of_not_running (hg : g.running = false) :
    g.attempt = ⟨some (Driver.start g.driver).1, (Driver.start g.driver).1⟩ := by
  have hstarts := starts_start_of_not_running hg
  unfold attempt
  rw [hstarts, if_pos (Nat.lt_succ_self _), (start_turns hg).1]

/-- Between the stops only the first start asks, and from then on the gateway runs. -/
theorem Life.first_asks (h : Life past g) :
    (past = [] ∧ g.running = false) ∨
      g.running = true ∧ ∃ later r, past = later ++ [⟨some r, r⟩] ∧
        ∀ a ∈ later, a = ⟨none, .ok ()⟩ := by
  induction h with
  | new => exact .inl ⟨rfl, rfl⟩
  | @start past g h ih =>
    rcases ih with ⟨rfl, hidle⟩ | ⟨hrunning, later, r, rfl, hlater⟩
    · refine .inr ⟨(start_turns hidle).2.1, [], (Driver.start g.driver).1, ?_, by simp⟩
      rw [attempt_of_not_running hidle, List.nil_append]
    · refine .inr ⟨?_, ⟨none, .ok ()⟩ :: later, r, ?_, by simpa using hlater⟩
      · rwa [start_of_running hrunning]
      · rw [attempt_of_running hrunning, List.cons_append]
  | @stop past g h force ih => exact .inl ⟨rfl, (g.stop_turns force).1⟩
  | @meanwhile past g g' h hs new htrace hnew ih =>
    -- a start that asks and any stop would stand in the trace
    have hrunning : g'.running = g.running := by
      rcases hs.between with hb | rfl | ⟨force, rfl⟩
      · exact hb.running
      · cases hg : g.running with
        | true => rw [start_of_running hg, hg]
        | false =>
          rw [(start_turns hg).2.2.2.2] at htrace
          have hturn := List.append_cancel_left htrace
          exact absurd rfl (hnew (g.clock, .started) (by simp [← hturn]))
      · obtain ⟨-, -, -, part, t, hpart, -⟩ := g.stop_turns force
        rw [htrace, List.append_assoc] at hpart
        have hturn := List.append_cancel_left hpart
        exact absurd rfl (hnew (t, .stopped force) (by simp [hturn]))
    rwa [hrunning]

/-- A start asks the driver, once, exactly when there was no other since the last stop; it
succeeds if there was one, or if the driver does. So when it succeeds the driver has been
initialised since then exactly if no start before it failed. -/
theorem Life.start_asks_iff (h : Life past g) :
    g.start.2.starts = g.starts + (if past.isEmpty then 1 else 0) ∧
    (g.start.1 = if past.isEmpty then (Driver.start g.driver).1 else .ok ()) ∧
    (g.start.1 = .ok () →
      (Initialised (g.attempt :: past) ↔ ∀ a ∈ past, a.result = .ok ())) := by
  rcases h.first_asks with ⟨rfl, hidle⟩ | ⟨hrunning, later, r, rfl, hlater⟩
  · refine ⟨starts_start_of_not_running hidle, (start_turns hidle).1, fun hok => ?_⟩
    rw [(start_turns hidle).1] at hok
    simp [Initialised, attempt_of_not_running hidle, hok]
  · have hasked : ∀ a ∈ later, a.asked ≠ some (.ok ()) := by
      intro a ha
      rw [hlater a ha]
      exact nofun
    have hresult : ∀ a ∈ later, a.result = .ok () := by
      intro a ha
      rw [hlater a ha]
    refine ⟨?_, ?_, fun _ => ?_⟩
    · rw [starts_start_of_running hrunning]
      simp
    · rw [start_of_running hrunning]
      simp
    · rw [attempt_of_running hrunning]
      constructor
      · rintro ⟨a, ha, hok⟩ b hb
        rcases List.mem_append.1 hb with hb | hb
        · exact hresult b hb
        · rcases List.mem_cons.1 ha with rfl | ha
          · cases hok
          · rcases List.mem_append.1 ha with ha | ha
            · exact absurd hok (hasked a ha)
            · rw [List.mem_singleton.1 hb]
              rw [List.mem_singleton.1 ha] at hok
              exact Option.some.inj hok
      · intro hall
        refine ⟨⟨some r, r⟩, by simp, ?_⟩
        exact congrArg some (hall ⟨some r, r⟩ (by simp))

end Life

/-- A gateway with a driver that does not start. -/
def broken : Gateway Script FixedSource where
  settings := {}
  driver := { startFault := some (.driver "no device") }
  source := {}
  publisher := ⟨fun _ => { outcome := .ok () }⟩

/-- The same gateway after a failed start and a stop, with another driver. -/
def repaired : Gateway Script FixedSource := { broken.start.2.stop false with driver := {} }

/-- After the stop the driver is asked again. -/
theorem start_asks_iff_repaired : Life [] repaired ∧
    repaired.start.2.starts = repaired.starts + 1 ∧ repaired.start.1 = .ok () ∧
    Initialised [repaired.attempt] := by
  have hstopped : Life [] (broken.start.2.stop false) := (Life.new ..).start.stop false
  have hlife : Life [] repaired :=
    hstopped.meanwhile (.drive ({} : Script)) (List.append_nil _).symm (by simp)
  obtain ⟨hstarts, hresult, hiff⟩ := hlife.start_asks_iff
  exact ⟨hlife, hstarts, hresult, (hiff hresult).2 (by simp)⟩

/-- The second start succeeds, but the driver was never initialised, and it is not asked
again. -/
theorem start_ok_uninitialised : Life [broken.attempt] broken.start.2 ∧
    broken.start.1 = .error (.driver "no device") ∧ broken.start.2.start.1 = .ok () ∧
    broken.start.2.start.2.starts = broken.start.2.starts ∧
    ¬ Initialised [broken.start.2.attempt, broken.attempt] := by
  refine ⟨(Life.new ..).start, rfl, rfl, rfl, ?_⟩
  rw [attempt_of_running (g := broken.start.2) rfl, attempt_of_not_running (g := broken) rfl]
  rintro ⟨a, ha, hok⟩
  rcases List.mem_cons.1 ha with rfl | ha
  · cases hok
  · rw [List.mem_singleton.1 ha] at hok
    cases hok

end DeviceGateway.Gateway
