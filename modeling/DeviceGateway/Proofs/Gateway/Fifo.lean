import DeviceGateway.Driver.Script
import DeviceGateway.Proofs.Gateway.Lifecycle
import DeviceGateway.Proofs.Gateway.Progress

/-! First in, first out. From the start of an intake on, what it processes is what its
channel accepted first, and the rest waits in the channel. Nothing is lost where the serving
intake hands over to the draining one, or at its end. -/

namespace DeviceGateway.Gateway

variable {δ μ : Type}

/-- The intake has just been started, and nothing has passed through its channel. -/
structure Fresh (g : Gateway δ μ) : Prop where
  intake : g.intake = .serving none
  queue : g.channel.queue = []

theorem Fresh.shut {g : Gateway δ μ} (hg : g.Fresh) : g.Shut := by
  unfold Shut
  rw [hg.intake]
  trivial

variable [Driver δ] [MetadataSource μ] {g g₀ : Gateway δ μ} {log : List (Nat × Deed)}

/-- A start opens a channel of its own. -/
theorem fresh_start (hg : g.running = false) : g.start.2.Fresh := by
  unfold start
  rw [hg]
  exact ⟨rfl, rfl⟩

omit [MetadataSource μ] in
/-- In a channel that is left by its intake nothing waits. -/
theorem Flow.begunIn_of_absent (hfresh : g₀.Fresh) (hflow : g₀.Flow log g)
    (hi : g.intake = .absent) : begunIn log = acceptedIn log := by
  have hshut := hflow.shut hfresh.shut
  have hconserved := hflow.passes.conserved
  unfold Shut at hshut
  rw [hi] at hshut
  rw [hfresh.queue, hshut.2, List.nil_append, List.append_nil] at hconserved
  exact hconserved.symm

/-- Whatever has happened to a gateway that runs, since its last start it was a flow. -/
theorem Reachable.flow (hg : g.Reachable) (hrunning : g.running = true) :
    ∃ (g₀ : Gateway δ μ) (log : _), g₀.Fresh ∧ g₀.Flow log g := by
  have hdurable : Durable fun g => ∃ (g₀ : Gateway δ μ) (log : _), g₀.Fresh ∧ g₀.Flow log g :=
    .of_move fun ⟨g₀, log, hfresh, hf⟩ hm => ⟨g₀, log ++ _, hfresh, hf.step hm⟩
  exact hdurable.reachable (fun running _ => running = true) (fun _ _ _ _ _ h => nomatch h)
    (fun g hidle _ => ⟨g.start.2, [], fresh_start hidle, .refl⟩) (fun _ _ _ _ h => nomatch h)
    hg hrunning

/-- The batches that the intake has processed are those that its channel accepted first, each
once and in order, and what it does not yet have waits in the channel. The events that it has
handed on are those of these batches, in their order and one for each at most, whatever the
publisher says. An intake that has ended has processed everything that was accepted; and a
stop returns only then. -/
theorem Flow.first_in_first_out (hfresh : g₀.Fresh) (hflow : g₀.Flow log g) :
    acceptedIn log = begunIn log ++ g.channel.queue ∧
    (∃ made : List (Batch × Option Event), (∀ p ∈ made, Made p) ∧
      made.map (·.1) = begunIn log ∧ made.filterMap (·.2) = publishedIn log) ∧
    Tells g₀.trace log g.trace ∧
    (g.intake = .absent → begunIn log = acceptedIn log) ∧
    (g.Reachable → g.running = true → ∀ force, ∃ log', g.Flow log' (g.stop force) ∧
      (g.stop force).intake = .absent ∧ begunIn (log ++ log') = acceptedIn (log ++ log')) := by
  have hpasses := hflow.passes
  rw [hfresh.queue] at hpasses
  refine ⟨hpasses.conserved, hpasses.handed, hflow.tells, hflow.begunIn_of_absent hfresh, ?_⟩
  intro hreach hrunning force
  obtain ⟨log', hstop⟩ := g.flow_stop force
  have hend := hreach.intake_stop hrunning force
  exact ⟨log', hstop, hend, (hflow.trans hstop).begunIn_of_absent hfresh hend⟩

/-- A gateway that has just started. Its publisher takes 400 milliseconds and then fails. -/
def opened : Gateway Script FixedSource :=
  let new : Gateway Script FixedSource := {
    settings := {}
    driver := {}
    source := {
      devices := [.ofNames "1" "Pump" "Meter"]
      profiles := [{ name := "Meter", objects := [.ofSpec "Level" (.plain .string)] }] }
    publisher := ⟨fun _ => { delay := 400, outcome := .error (.server "no broker") }⟩
    epoch := 0 }
  new.start.2

def level (text : String) : Batch := ⟨"Pump", [.ofString "Level" 0 text]⟩

/-- The gateway while it publishes one batch and two more wait, one of them of a device that
nobody knows. -/
def pressed : Gateway Script FixedSource :=
  (((opened.push (level "low")).2.settle.push ⟨"Valve", []⟩).2.push (level "high")).2

theorem pressed_reachable : pressed.Reachable :=
  .step (.step (.step (.step (.step (.new ..) .start) (.push _)) .settle) (.push _)) (.push _)

theorem pressed_flow : ∃ log, opened.Flow log pressed := by
  have hdurable := durable_flow opened
  exact hdurable.push _ _ (hdurable.push _ _
    (hdurable.settle (hdurable.push _ _ ⟨[], .refl⟩)))

/-- The stop falls into the first publication. -/
theorem first_in_first_out_pressed : opened.Fresh ∧ pressed.Reachable ∧
    pressed.running = true ∧ pressed.intake = .serving (some 400) ∧
    ∃ log log', opened.Flow log pressed ∧ pressed.Flow log' (pressed.stop false) ∧
      acceptedIn log = begunIn log ++ [⟨"Valve", []⟩, level "high"] ∧
      begunIn (log ++ log') = acceptedIn (log ++ log') := by
  have hfresh : opened.Fresh := fresh_start rfl
  obtain ⟨log, hflow⟩ := pressed_flow
  obtain ⟨hwaiting, -, -, -, hstop⟩ := hflow.first_in_first_out hfresh
  obtain ⟨log', hflow', -, hall⟩ := hstop pressed_reachable rfl false
  have hqueue : pressed.channel.queue = [⟨"Valve", []⟩, level "high"] := by decide +kernel
  rw [hqueue] at hwaiting
  exact ⟨hfresh, pressed_reachable, rfl, by decide +kernel, log, log', hflow, hflow', hwaiting,
    hall⟩

end DeviceGateway.Gateway
