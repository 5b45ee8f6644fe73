import DeviceGateway.Proofs.Gateway.Deliver
import DeviceGateway.Proofs.Gateway.Lifecycle
import DeviceGateway.Proofs.Gateway.Progress
import DeviceGateway.Proofs.Gateway.Stop

/-! The pipeline of a gateway that runs. Until the first stop its channel is open, and
whatever is accepted is processed and handed to the publisher. The stop cancels for good, so
that later the intake closes its channel as soon as it has its turn. -/

namespace DeviceGateway.Gateway

variable {δ μ : Type} {g h : Gateway δ μ}

/-! ### Gateways that serve -/

/-- The intake serves an open channel and is not to stop. -/
structure Serving (g : Gateway δ μ) : Prop where
  intake : ∃ busy, g.intake = .serving busy
  isOpen : g.channel.closed = false
  cancelled : g.cancelled = false

namespace Serving

theorem congr (hg : g.Serving) (hi : h.intake = g.intake)
    (hclosed : h.channel.closed = g.channel.closed) (hcancelled : h.cancelled = g.cancelled) :
    h.Serving :=
  ⟨by rw [hi]; exact hg.intake, hclosed.trans hg.isOpen, hcancelled.trans hg.cancelled⟩

theorem refill (hg : g.Serving) : g.refill.Serving := by
  refine hg.congr (refill_aside g).intake ?_ (refill_aside g).cancelled
  obtain ⟨bs, hbs⟩ := g.refill_channel
  rw [hbs, Channel.fill_closed]

theorem wakeIntake (hg : g.Serving) : g.wakeIntake.Serving :=
  hg.congr g.wakeIntake_aside.intake (congrArg Channel.closed g.wakeIntake_aside.channel)
    g.wakeIntake_aside.cancelled

theorem push (hg : g.Serving) (b : Batch) : (g.push b).2.Serving := by
  unfold Gateway.push
  split
  · next hoffer =>
    have hclosed : (g.channel.send b).closed = g.channel.closed := by
      rw [Channel.send_of_accepted hoffer]
    have hsent : Serving ({ g with channel := g.channel.send b }.record (.accepted b)) :=
      hg.congr rfl hclosed rfl
    exact hsent.wakeIntake
  · exact hg

theorem reserve (hg : g.Serving) : g.reserve.2.Serving := by
  refine hg.congr rfl ?_ rfl
  unfold Gateway.reserve Channel.reserve
  simp only
  split <;> rfl

theorem release (hg : g.Serving) : g.release.Serving := by
  have hreleased : Serving { g with channel := g.channel.release } := hg.congr rfl rfl rfl
  exact hreleased.refill.wakeIntake

theorem feed [Driver δ] (hg : g.Serving) : g.feed.Serving := by
  refine hg.congr g.feed_aside.intake ?_ g.feed_aside.cancelled
  obtain ⟨bs, hbs⟩ := g.feed_channel
  rw [hbs, Channel.fill_closed]

theorem intakeStep (hg : g.Serving) (hstep : g.intakeStep = some h) : h.Serving := by
  obtain ⟨busy, hserving⟩ := hg.intake
  cases intakeMove_of_step hstep with
  | publish => exact ⟨⟨none, rfl⟩, hg.isOpen, hg.cancelled⟩
  | notice _ hc => cases hg.cancelled.symm.trans hc
  | @take p _ _ hp =>
    have htaken : Serving { g with channel := p.2 } :=
      hg.congr rfl (Channel.take?_eq_some hp).2 rfl
    have haside := (process_begins { g with channel := p.2 }.refill p.1).2
    exact ⟨⟨_, rfl⟩, (congrArg Channel.closed haside.channel).trans htaken.refill.isOpen,
      haside.cancelled.trans htaken.refill.cancelled⟩
  | leave _ _ _ hd => cases hg.isOpen.symm.trans (Channel.isDone_iff.1 hd).1
  | drainPublish hi | drainTake hi | finish hi | giveUp hi => cases hserving.symm.trans hi

end Serving

/-! ### From a start to the first stop -/

section Lifecycle

variable [Driver δ] [MetadataSource μ]

theorem durable_serving : Durable (Serving (δ := δ) (μ := μ)) where
  toStable := (Kept.of_apart
    (fun _ _ hg hh => hg.congr hh.intake (congrArg Channel.closed hh.channel) hh.cancelled)
    (fun _ _ hg => hg.congr rfl rfl rfl) (fun _ hg => hg.feed)
    fun _ _ hg hstep => hg.intakeStep hstep).stable
  apart _ _ hg hh := hg.congr hh.intake (congrArg Channel.closed hh.channel) hh.cancelled
  jump _ _ hg := hg.congr rfl rfl rfl
  push _ b hg := hg.push b
  reserve _ hg := hg.reserve
  release _ hg := hg.release

/-- A gateway that runs serves until its first stop. -/
theorem Reachable.serving (hg : g.Reachable) (hrunning : g.running = true)
    (hcancelled : g.cancelled = false) : g.Serving := by
  refine durable_serving.reachable (fun running cancelled => running = true ∧ cancelled = false)
    (fun _ _ _ _ _ h => nomatch h.1) (fun g hidle h => ?_) (fun _ _ _ _ h => nomatch h.1) hg
    ⟨hrunning, hcancelled⟩
  unfold start
  rw [hidle]
  exact ⟨⟨none, rfl⟩, rfl, h.2⟩

end Lifecycle

/-! ### What is accepted begins -/

section Begin

/-- What an intake has left to do until it has begun so many batches: two for each of them,
or one less if it is not busy. -/
def leftToBegin (missing : Nat) : IntakeState → Nat
  | .serving (some _) => 2 * missing
  | _ => 2 * missing - 1

theorem leftToBegin_le (missing : Nat) (i : IntakeState) : leftToBegin missing i ≤ 2 * missing := by
  unfold leftToBegin
  split <;> omega

/-- The intake serves, and with what waits there are `n` batches to begin. -/
structure Supplied (n : Nat) (g : Gateway δ μ) : Prop extends g.Serving where
  enough : n ≤ g.begun.length + g.channel.queue.length

variable {n : Nat}

/-- A serving intake ends a publication, or begins what waits first. -/
theorem Serving.intakeStep_cases (hg : g.Serving) (hstep : g.intakeStep = some h) :
    ((∃ t, g.intake = .serving (some t)) ∧ h.intake = .serving none ∧ h.begun = g.begun ∧
      h.channel = g.channel) ∨
    (g.intake = .serving none ∧ (∃ busy, h.intake = .serving busy) ∧
      h.begun.length = g.begun.length + 1 ∧
      g.channel.queue.length ≤ h.channel.queue.length + 1) := by
  obtain ⟨busy, hserving⟩ := hg.intake
  cases intakeMove_of_step hstep with
  | publish hi => exact .inl ⟨⟨_, hi⟩, rfl, rfl, rfl⟩
  | notice _ hc => cases hg.cancelled.symm.trans hc
  | @take p hi _ hp =>
    obtain ⟨bs, hqueue, -⟩ := refill_writes { g with channel := p.2 }
    have haside := (process_begins { g with channel := p.2 }.refill p.1).2
    have hbegun : ({ g with channel := p.2 }.refill.process p.1).2.begun.length =
        g.begun.length + 1 := by
      rw [haside.begun, begun_record, (refill_aside _).begun]
      exact List.length_append
    have hwaiting : p.2.queue.length ≤
        ({ g with channel := p.2 }.refill.process p.1).2.channel.queue.length := by
      rw [haside.channel]
      exact (congrArg List.length hqueue).trans List.length_append ▸ Nat.le_add_right _ _
    refine .inr ⟨hi, ⟨_, rfl⟩, hbegun, ?_⟩
    rw [(Channel.take?_eq_some hp).1, List.length_cons]
    exact Nat.succ_le_succ hwaiting
  | leave _ _ _ hd => cases hg.isOpen.symm.trans (Channel.isDone_iff.1 hd).1
  | drainPublish hi | drainTake hi | finish hi | giveUp hi => cases hserving.symm.trans hi

theorem Supplied.intakeStep (hg : g.Supplied n) (hstep : g.intakeStep = some h) :
    h.Supplied n ∧ leftToBegin (n - h.begun.length) h.intake ≤
      leftToBegin (n - g.begun.length) g.intake - 1 := by
  have hserving := hg.toServing.intakeStep hstep
  have henough := hg.enough
  rcases hg.toServing.intakeStep_cases hstep with
    ⟨⟨t, hi⟩, hidle, hbegun, hchannel⟩ | ⟨hi, -, hbegun, hwaiting⟩
  · refine ⟨⟨hserving, by rwa [hbegun, hchannel]⟩, ?_⟩
    rw [hi, hidle, hbegun]
    exact Nat.le_refl _
  · refine ⟨⟨hserving, by omega⟩, Nat.le_trans (leftToBegin_le _ _) ?_⟩
    rw [hi, hbegun]
    simp only [leftToBegin]
    omega

/-- An idle intake rests only when it has begun them all. -/
theorem Supplied.missing_eq_zero (hg : g.Supplied n) (hi : g.intake = .serving none)
    (hrest : g.Resting) : n - g.begun.length = 0 := by
  have henough := hg.enough
  unfold Resting at hrest
  rw [hi] at hrest
  rw [hrest.2.1] at henough
  exact Nat.sub_eq_zero_of_le henough

variable [Driver δ]

theorem measure_begin (n : Nat) : Measure (Supplied (δ := δ) (μ := μ) n) fun g =>
    leftToBegin (n - g.begun.length) g.intake where
  congr g h hg hi hc hcancelled hbegun := by
    refine ⟨⟨hg.toServing.congr hi (congrArg Channel.closed hc) hcancelled, ?_⟩, ?_⟩
    · rw [hbegun, hc]
      exact hg.enough
    · rw [hbegun, hi]
  feed g hg := by
    obtain ⟨bs, hqueue, -⟩ := g.feed_writes
    have hbegun := g.feed_aside.begun
    refine ⟨⟨hg.toServing.feed, ?_⟩, ?_⟩
    · rw [hqueue, List.length_append]
      exact Nat.le_trans hg.enough (Nat.add_le_add (Nat.le_of_eq (congrArg _ hbegun).symm)
        (Nat.le_add_right _ _))
    · rw [g.feed_aside.intake]
      exact Nat.le_of_eq (congrArg (fun bs => leftToBegin (n - List.length bs) g.intake) hbegun)
  step g h hg hstep := hg.intakeStep hstep
  even g hg hrest := by
    obtain ⟨busy, hi⟩ := hg.intake
    cases busy with
    | none =>
      rw [hg.missing_eq_zero hi hrest, hi]
      rfl
    | some t =>
      rw [hi]
      exact Nat.mul_mod_right 2 _
  waits g hg hrest hleft := by
    obtain ⟨busy, hi⟩ := hg.intake
    cases busy with
    | none =>
      rw [hg.missing_eq_zero hi hrest, hi] at hleft
      exact absurd rfl hleft
    | some t => exact ⟨t, by simp only [intakeTime?, hi]⟩

end Begin

/-! ### What begins is handed on -/

/-- Between `g` and `h` the intake has begun the batch, and the publisher was handed the
event that it had then. -/
def Delivers (g : Gateway δ μ) (b : Batch) (h : Gateway δ μ) : Prop :=
  ∃ new t e, h.trace = g.trace ++ new ∧ (t, .began b) ∈ new ∧ g.eventAt t b = some e ∧
    (t, .published e) ∈ new

theorem begun_map_snd (g : Gateway δ μ) : g.begun.map (·.2) = begunIn g.trace := by
  unfold begun begunIn
  rw [List.map_filterMap]
  congr 1
  funext e
  cases e.2 <;> rfl

theorem length_begun (g : Gateway δ μ) : g.begun.length = (begunIn g.trace).length := by
  rw [← begun_map_snd, List.length_map]

section Live

variable [Driver δ] [MetadataSource μ]

/-- Waited for once for every batch that waits, and once more, a serving intake has begun
them all. -/
theorem Serving.begins (hg : g.Serving) (halert : g.Alert []) {n : Nat}
    (hn : g.channel.queue.length < n) :
    g.begun.length + g.channel.queue.length ≤ (g.await intakeTime? n).begun.length := by
  obtain ⟨m, rfl⟩ : ∃ m, n = m + 1 := ⟨n - 1, by omega⟩
  let all := g.begun.length + g.channel.queue.length
  have hsupplied : g.Supplied all := ⟨hg, Nat.le_refl _⟩
  have hleft := (((measure_begin all).kept _).stable.settle
    ⟨hsupplied, leftToBegin_le (all - g.begun.length) g.intake⟩).2
  have hall : all - g.begun.length = g.channel.queue.length := Nat.add_sub_cancel_left ..
  obtain ⟨hend, hzero⟩ := (measure_begin all).awaitIntake hsupplied halert (n := m) (by omega)
  obtain ⟨busy, hi⟩ := hend.intake
  rw [hi] at hzero
  have hmissing : all - (g.await intakeTime? (m + 1)).begun.length = 0 := by
    cases busy <;> simp only [leftToBegin] at hzero <;> omega
  omega

/-- What waits in the channel has then begun. -/
theorem Serving.begins_waiting (hg : g.Serving) (halert : g.Alert []) {n : Nat}
    (hn : g.channel.queue.length < n) {b : Batch} (hb : b ∈ g.channel.queue)
    {new : List (Nat × Deed)} (htrace : (g.await intakeTime? n).trace = g.trace ++ new) :
    b ∈ begunIn new := by
  have hbegins := hg.begins halert hn
  obtain ⟨log, hflow⟩ := (durable_flow g).await intakeTime? ⟨[], .refl⟩ n
  obtain ⟨part, hpart, -, -, hbegun⟩ := hflow.tells
  rw [List.append_cancel_left (hpart.symm.trans htrace)] at hbegun
  rw [length_begun, length_begun, htrace, begunIn_append, List.length_append, hbegun] at hbegins
  have hconserved := hflow.passes.conserved
  -- what waits and what has begun are both prefixes of what was in the channel or came to it
  have hprefix : g.channel.queue <+: begunIn log :=
    List.prefix_of_prefix_length_le ⟨_, hconserved⟩ (List.prefix_append _ _) (by omega)
  rw [hbegun]
  exact hprefix.subset hb

/-- The channel is open, and a batch that finds room there, and of which a value survives, is
processed and its event handed to the publisher. -/
structure Live (g : Gateway δ μ) : Prop where
  isOpen : g.channel.closed = false
  delivers : ∀ b, g.channel.hasRoom = true → g.eventAt g.clock b ≠ none →
    (g.push b).1 = .accepted ∧ ∀ n, g.channel.queue.length + 1 < n →
      (g.push b).2.Delivers b ((g.push b).2.await intakeTime? n)

omit [Driver δ] [MetadataSource μ] in
theorem push_of_accepted (hoffer : g.channel.offer = .accepted) (b : Batch) :
    (g.push b).1 = .accepted ∧ (g.push b).2.channel.queue = g.channel.queue ++ [b] := by
  simp only [Gateway.push, hoffer]
  refine ⟨trivial, ?_⟩
  rw [(wakeIntake_writes _).2]
  exact congrArg Channel.queue (Channel.send_of_accepted hoffer)

omit [Driver δ] [MetadataSource μ] in
/-- A batch that has an event has one at any time. -/
theorem exists_eventAt {t : Nat} {b : Batch} (h : g.eventAt t b ≠ none) (u : Nat) :
    ∃ e, g.eventAt u b = some e := by
  refine Option.ne_none_iff_exists'.1 fun hnone => h ?_
  exact (b.event?_eq_none_iff g.registry _ _ _).1 hnone

theorem Serving.live (hg : g.Serving) (halert : g.Alert []) : g.Live := by
  refine ⟨hg.isOpen, fun b hroom hevent => ?_⟩
  have hoffer : g.channel.offer = .accepted := by
    simp [Channel.offer, hg.isOpen, hroom]
  obtain ⟨haccepted, hqueue⟩ := push_of_accepted hoffer b
  refine ⟨haccepted, fun n hn => ?_⟩
  obtain ⟨-, new, htrace, hhanded⟩ :=
    (hands_frame.enduring_from _).await intakeTime? (.refl (g.push b).2) n
  have hbegun : b ∈ begunIn new := by
    refine (hg.push b).begins_waiting (halert.push b) ?_ ?_ htrace
    · rwa [hqueue, List.length_append]
    · simp [hqueue]
  obtain ⟨t, hmem⟩ := mem_begunIn.1 hbegun
  rw [← (hands_frame.push g b).eventAt] at hevent
  obtain ⟨e, he⟩ := exists_eventAt hevent t
  exact ⟨new, t, e, htrace, hmem, he, hhanded t b e hmem he⟩

/-! ### After a stop -/

theorem durable_absent : Durable fun g : Gateway δ μ => g.intake = .absent :=
  .of_move fun {g h new} hg hm => by
    cases hm with
    | work hstep =>
      rw [intakeStep_absent hg] at hstep
      cases hstep
    | push b => exact (g.push_intake b).trans hg
    | feed => exact g.feed_aside.intake.trans hg
    | reserve | hangUp => exact hg
    | release => exact g.release_intake.trans hg
    | meanwhile hi => exact hi.trans hg

/-- A gateway that does not run has no intake. -/
theorem Reachable.intake_of_idle (hg : g.Reachable) (hidle : g.running = false) :
    g.intake = .absent := by
  refine durable_absent.reachable (fun running _ => running = false) (fun _ _ _ _ _ _ => rfl)
    (fun _ _ h => nomatch h) (fun g force hg ih _ => ?_) hg hidle
  cases hrunning : g.running with
  | true => exact hg.intake_stop hrunning force
  | false =>
    have hcalled : g.halted.intake = g.intake := (wakeIntake_aside _).intake
    exact durable_absent.awaited (hcalled.trans (ih hrunning))

/-- The intake is to stop, and it publishes nothing that it began while it served. -/
structure Retired (g : Gateway δ μ) : Prop where
  cancelled : g.cancelled = true
  intake : ∀ t, g.intake ≠ .serving (some t)

omit [Driver δ] [MetadataSource μ] in
theorem Retired.congr (hg : g.Retired) (hi : h.intake = g.intake)
    (hcancelled : h.cancelled = g.cancelled) : h.Retired :=
  ⟨hcancelled.trans hg.cancelled, by rw [hi]; exact hg.intake⟩

omit [MetadataSource μ] in
theorem Retired.intakeStep (hg : g.Retired) (hstep : g.intakeStep = some h) : h.Retired := by
  refine ⟨(own_frame.intakeStep hstep).cancelled.trans hg.cancelled, fun t ht => ?_⟩
  cases intakeMove_of_step hstep with
  | publish hi => exact hg.intake _ hi
  | notice =>
    rw [(refill_aside _).intake] at ht
    cases ht
  | take _ hc | leave _ hc => cases hg.cancelled.symm.trans hc
  | drainPublish | finish | giveUp => cases ht
  | drainTake =>
    unfold drainState at ht
    split at ht <;> cases ht

theorem durable_retired : Durable (Retired (δ := δ) (μ := μ)) where
  toStable := (Kept.of_apart (fun _ _ hg hh => hg.congr hh.intake hh.cancelled)
    (fun _ _ hg => hg.congr rfl rfl)
    (fun g hg => hg.congr g.feed_aside.intake g.feed_aside.cancelled)
    fun _ _ hg hstep => hg.intakeStep hstep).stable
  apart _ _ hg hh := hg.congr hh.intake hh.cancelled
  jump _ _ hg := hg.congr rfl rfl
  push g b hg := hg.congr (g.push_intake b) (own_frame.push g b).cancelled
  reserve _ hg := hg.congr rfl rfl
  release g hg := hg.congr g.release_intake (own_frame.release g).cancelled

theorem Reachable.retired (hg : g.Reachable) (hcancelled : g.cancelled = true) : g.Retired := by
  refine durable_retired.reachable (fun _ cancelled => cancelled = true)
    (fun _ _ _ _ _ h => nomatch h) (fun g hidle h => ?_) (fun g force hg _ _ => ?_) hg hcancelled
  · unfold start
    rw [hidle]
    exact ⟨h, nofun⟩
  · obtain ⟨hidle, -, hstopped, -⟩ := g.stop_turns force
    have habsent := (Reachable.step hg (.stop force)).intake_of_idle hidle
    exact ⟨hstopped, by rw [habsent]; exact nofun⟩

/-- Once an intake that is cancelled has had its turn, its channel is closed. -/
theorem Reachable.closed_settle (hg : g.Reachable) (hcancelled : g.cancelled = true) :
    g.settle.channel.closed = true := by
  have hsettled := durable_retired.settle (hg.retired hcancelled)
  have hshut := (Reachable.step hg .settle).shut
  have hrest := hg.alert.settle.1
  unfold Shut at hshut
  unfold Resting at hrest
  cases hi : g.settle.intake with
  | absent =>
    rw [hi] at hshut
    exact hshut.1
  | serving busy =>
    cases busy with
    | none =>
      rw [hi] at hrest
      cases hsettled.cancelled.symm.trans hrest.1
    | some t => exact absurd hi (hsettled.intake t)
  | draining deadline n busy =>
    rw [hi] at hshut
    exact hshut

/-- A gateway that runs hands its sender out. Until the first stop its pipeline is live.
After it, no gateway that is started again has a live one: when its intake has had its turn
everything that is pushed is refused. -/
theorem Reachable.live_iff (hg : g.Reachable) (hrunning : g.running = true) :
    g.hasSender = true ∧ (¬ g.Stopped → g.Live) ∧ (g.settle.Live ↔ ¬ g.Stopped) ∧
      (g.Stopped → ∀ b, g.settle.push b = (.closed, g.settle)) := by
  have hlive : ∀ {h : Gateway δ μ}, h.Reachable → h.running = true → h.cancelled = false →
      h.Live := fun hh hr hc => (hh.serving hr hc).live hh.alert
  have hsettled := (durable_between g).settle (.refl g)
  rw [hg.stopped_iff, Bool.not_eq_true]
  -- nothing that happens in settling stops the gateway or makes up for a stop
  refine ⟨hg.hasSender_eq.trans hrunning, hlive hg hrunning, ⟨fun h => ?_, fun hc => ?_⟩,
    fun hc => push_of_closed (hg.closed_settle hc)⟩
  · rw [← Bool.not_eq_true]
    intro hc
    cases h.isOpen.symm.trans (hg.closed_settle hc)
  · exact hlive (.step hg .settle) (hsettled.running.trans hrunning)
      (hsettled.cancelled.trans hc)

end Live

/-- A batch that is pushed behind three others is begun and handed on like them. -/
theorem live_iff_crowded : (crowded 500).Reachable ∧ (crowded 500).running = true ∧
    ¬ (crowded 500).Stopped ∧
    let last : Batch := ⟨"Pump", [.ofString "Level" 0 "last"]⟩
    let pushed := (crowded 500).push last
    pushed.1 = .accepted ∧ pushed.2.Delivers last (pushed.2.await intakeTime? 5) := by
  have hreachable := crowded_reachable 500
  have hnever : ¬ (crowded 500).Stopped := by
    rw [hreachable.stopped_iff]
    exact Bool.false_ne_true
  obtain ⟨-, hlive, -⟩ := hreachable.live_iff rfl
  obtain ⟨haccepted, hdelivers⟩ := (hlive hnever).delivers
    ⟨"Pump", [.ofString "Level" 0 "last"]⟩ rfl (by decide +kernel)
  exact ⟨hreachable, rfl, hnever, haccepted, hdelivers 5 (by decide)⟩

/-- The gateway stopped, and started again. -/
def restarted : Gateway Script FixedSource := ((crowded 500).stop false).start.2

/-- The second start succeeds and hands a sender out, but its channel is closed. -/
theorem restarted_refuses : ((crowded 500).stop false).start.1 = .ok () ∧
    restarted.Reachable ∧ restarted.running = true ∧ restarted.hasSender = true ∧
    restarted.settle.channel.closed = true ∧
    let batch : Batch := ⟨"Pump", [.ofString "Level" 0 "low"]⟩
    restarted.settle.eventAt restarted.settle.clock batch ≠ none ∧
      (restarted.settle.push batch).1 = .closed :=
  ⟨rfl, .step (.step (crowded_reachable 500) (.stop false)) .start, rfl, rfl,
    by decide +kernel, by decide +kernel, by decide +kernel⟩

end DeviceGateway.Gateway
