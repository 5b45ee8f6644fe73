import DeviceGateway.Proofs.Gateway.Apart
import DeviceGateway.Proofs.Gateway.Aside

/-! How batches flow through a gateway: accepted by the channel, processed by the intake,
handed on as events. A flow is any interleaving of what is done with the channel, the steps
of the intake, and whatever else goes on. What it says of batches is kept in a log. No step
of a flow loses, repeats or overtakes a batch. -/

namespace DeviceGateway

/-! ### Logs -/

namespace Deed

def accepted? : Deed → Option Batch
  | .accepted b => some b
  | _ => none

def begun? : Deed → Option Batch
  | .began b => some b
  | _ => none

def published? : Deed → Option Event
  | .published e => some e
  | _ => none

theorem accepted?_of_isApart {d : Deed} (h : d.isApart) : d.accepted? = none := by
  cases d with
  | accepted b => cases h
  | _ => rfl

theorem begun?_of_isApart {d : Deed} (h : d.isApart) : d.begun? = none := by
  cases d with
  | began b => cases h
  | _ => rfl

end Deed

section Logs

/-- The batches that the channel accepted, in order. -/
def acceptedIn (log : List (Nat × Deed)) : List Batch := log.filterMap (·.2.accepted?)

/-- The batches that the intake processed, in order. -/
def begunIn (log : List (Nat × Deed)) : List Batch := log.filterMap (·.2.begun?)

/-- The events that the publisher was handed, in order. -/
def publishedIn (log : List (Nat × Deed)) : List Event := log.filterMap (·.2.published?)

variable (log log' : List (Nat × Deed))

@[simp] theorem acceptedIn_append : acceptedIn (log ++ log') = acceptedIn log ++ acceptedIn log' :=
  List.filterMap_append

@[simp] theorem begunIn_append : begunIn (log ++ log') = begunIn log ++ begunIn log' :=
  List.filterMap_append

@[simp] theorem publishedIn_append :
    publishedIn (log ++ log') = publishedIn log ++ publishedIn log' :=
  List.filterMap_append

theorem mem_begunIn {log : List (Nat × Deed)} {b : Batch} :
    b ∈ begunIn log ↔ ∃ t, (t, .began b) ∈ log := by
  unfold begunIn
  rw [List.mem_filterMap]
  constructor
  · rintro ⟨⟨t, d⟩, hmem, hd⟩
    cases d with
    | began c =>
      cases hd
      exact ⟨t, hmem⟩
    | _ => cases hd
  · rintro ⟨t, hmem⟩
    exact ⟨(t, .began b), hmem, rfl⟩

/-- A batch with the event that was made of it, if a value survived. -/
def Made (p : Batch × Option Event) : Prop :=
  ∃ transform now r, p.2 = p.1.event? transform now r

/-- With the batches `before` in the channel the log leaves those `after`: what it processes
is what was accepted first, and it hands on the events of these batches, in their order. -/
structure Passes (before : List Batch) (log : List (Nat × Deed)) (after : List Batch) :
    Prop where
  conserved : before ++ acceptedIn log = begunIn log ++ after
  handed : ∃ made : List (Batch × Option Event), (∀ p ∈ made, Made p) ∧
    made.map (·.1) = begunIn log ∧ made.filterMap (·.2) = publishedIn log

namespace Passes

variable {q q' q'' : List Batch} {log log' : List (Nat × Deed)}

theorem nil (q : List Batch) : Passes q [] q :=
  ⟨List.append_nil q, [], by simp, rfl, rfl⟩

theorem trans (h : Passes q log q') (h' : Passes q' log' q'') : Passes q (log ++ log') q'' := by
  obtain ⟨made, hmade, hbegun, hpublished⟩ := h.handed
  obtain ⟨made', hmade', hbegun', hpublished'⟩ := h'.handed
  refine ⟨?_, made ++ made', ?_, ?_, ?_⟩
  · rw [acceptedIn_append, begunIn_append, ← List.append_assoc, h.conserved, List.append_assoc,
      h'.conserved, List.append_assoc]
  · intro p hp
    exact (List.mem_append.1 hp).elim (hmade p) (hmade' p)
  · rw [List.map_append, hbegun, hbegun', begunIn_append]
  · rw [List.filterMap_append, hpublished, hpublished', publishedIn_append]

/-- The channel accepts some batches. -/
theorem accept (q bs : List Batch) (clock : Nat) :
    Passes q (bs.map fun b => (clock, .accepted b)) (q ++ bs) := by
  have hbegun : begunIn (bs.map fun b => (clock, .accepted b)) = [] := by
    simp [begunIn, Deed.begun?]
  have haccepted : acceptedIn (bs.map fun b => (clock, .accepted b)) = bs := by
    simp only [acceptedIn, List.filterMap_map]
    exact List.filterMap_some
  have hpublished : publishedIn (bs.map fun b => (clock, .accepted b)) = [] := by
    simp [publishedIn, Deed.published?]
  exact ⟨by rw [haccepted, hbegun, List.nil_append], [], by simp, hbegun.symm, hpublished.symm⟩

/-- What the intake writes about a batch that it processes. -/
def processing (clock : Nat) (b : Batch) (event : Option Event) : List (Nat × Deed) :=
  (clock, .began b) :: event.toList.map fun e => (clock, .published e)

/-- The intake processes the batch that waits first. -/
theorem process {b : Batch} {event : Option Event} (h : Made (b, event)) (q : List Batch)
    (clock : Nat) : Passes (b :: q) (processing clock b event) q := by
  cases event with
  | none => exact ⟨List.append_nil _, [(b, none)], by simpa using h, rfl, rfl⟩
  | some e => exact ⟨List.append_nil _, [(b, some e)], by simpa using h, rfl, rfl⟩

/-- The intake ends. -/
theorem drained (q : List Batch) (clock : Nat) (report : DrainReport) :
    Passes q [(clock, .drained report)] q :=
  ⟨List.append_nil q, [], by simp, rfl, rfl⟩

end Passes

end Logs

namespace Gateway

variable {δ μ : Type}

/-! ### What the channel and the intake write -/

section Writes

variable (g : Gateway δ μ)

theorem process_writes (b : Batch) :
    (g.process b).2.trace = g.trace ++ Passes.processing g.clock b
      (b.event? g.settings.dataTransform g.wall g.registry) ∧
    (g.process b).2.channel = g.channel := by
  rw [process_eq]
  cases ho : b.outcome? g.settings.dataTransform g.wall g.registry with
  | none =>
    have he : b.event? g.settings.dataTransform g.wall g.registry = none := by
      simp only [Batch.event?, ho]
    rw [he]
    exact ⟨rfl, rfl⟩
  | some o =>
    cases b.event? g.settings.dataTransform g.wall g.registry with
    | none => exact ⟨rfl, rfl⟩
    | some e => exact ⟨List.append_assoc .., rfl⟩

theorem refill_writes : ∃ bs, g.refill.channel.queue = g.channel.queue ++ bs ∧
    g.refill.trace = g.trace ++ bs.map fun b => (g.clock, .accepted b) := by
  unfold refill
  cases g.feeder with
  | none => exact ⟨[], (List.append_nil _).symm, (List.append_nil _).symm⟩
  | some f =>
    obtain ⟨bs, hbs⟩ := (g.channel.fill_queue f.outbox).2
    refine ⟨bs, hbs.symm, ?_⟩
    have hnew : (f.deliver g.channel).2.queue.drop g.channel.queue.length = bs := by
      rw [Feeder.deliver, ← hbs, List.drop_left]
    simp only [recordAll, hnew, List.map_map]
    rfl

theorem wakeIntake_writes :
    g.wakeIntake.trace = g.trace ∧ g.wakeIntake.channel = g.channel := by
  unfold wakeIntake
  split <;> exact ⟨rfl, rfl⟩

theorem feed_writes [Driver δ] : ∃ bs, g.feed.channel.queue = g.channel.queue ++ bs ∧
    g.feed.trace = g.trace ++ bs.map fun b => (g.clock, .accepted b) := by
  unfold feed
  cases g.feeder with
  | none => exact ⟨[], (List.append_nil _).symm, (List.append_nil _).symm⟩
  | some f =>
    obtain ⟨bs, hqueue, htrace⟩ := refill_writes { g with feeder := f.tick g.driver g.wall }
    obtain ⟨hwake, hchannel⟩ := wakeIntake_writes { g with
      feeder := f.tick g.driver g.wall }.refill
    exact ⟨bs, by rw [hchannel]; exact hqueue, hwake.trans htrace⟩

theorem release_writes : ∃ bs, g.release.channel.queue = g.channel.queue ++ bs ∧
    g.release.trace = g.trace ++ bs.map fun b => (g.clock, .accepted b) := by
  obtain ⟨bs, hqueue, htrace⟩ := refill_writes { g with channel := g.channel.release }
  obtain ⟨hwake, hchannel⟩ := wakeIntake_writes { g with channel := g.channel.release }.refill
  exact ⟨bs, by rw [release, hchannel]; exact hqueue, hwake.trans htrace⟩

theorem push_writes (b : Batch) : ∃ bs, (g.push b).2.channel.queue = g.channel.queue ++ bs ∧
    (g.push b).2.trace = g.trace ++ bs.map fun b => (g.clock, .accepted b) := by
  unfold push
  split
  · next h =>
    obtain ⟨hwake, hchannel⟩ := wakeIntake_writes
      ({ g with channel := g.channel.send b }.record (.accepted b))
    refine ⟨[b], ?_, hwake⟩
    rw [hchannel]
    exact congrArg Channel.queue (Channel.send_of_accepted h)
  · exact ⟨[], (List.append_nil _).symm, (List.append_nil _).symm⟩

theorem reserve_writes :
    g.reserve.2.channel.queue = g.channel.queue ∧ g.reserve.2.trace = g.trace := by
  refine ⟨?_, rfl⟩
  unfold reserve Channel.reserve
  simp only
  split <;> rfl

/-! ### What keeps to itself -/

theorem push_intake (b : Batch) : (g.push b).2.intake = g.intake := by
  unfold push
  split
  · exact (wakeIntake_aside _).intake
  · rfl

theorem release_intake : g.release.intake = g.intake :=
  (wakeIntake_aside _).intake.trans (refill_aside _).intake

variable {g}

theorem push_of_closed (h : g.channel.closed = true) (b : Batch) :
    g.push b = (.closed, g) := by
  simp only [push, Channel.offer_of_closed h]

theorem reserve_of_closed (h : g.channel.closed = true) :
    g.reserve = (.closed, g) := by
  simp only [reserve, Channel.reserve, Channel.offer_of_closed h]
  rfl

theorem release_of_closed (h : g.channel.closed = true) :
    g.release.channel = g.channel.release := by
  have hclosed : { g with channel := g.channel.release }.channel.closed = true := h
  exact (wakeIntake_aside _).channel.trans (refill_aside_of_closed _ hclosed).channel

/-- A step of the intake lets in what finds room and processes one batch at most. -/
theorem intakeStep_writes {g' : Gateway δ μ} (h : g.intakeStep = some g') :
    ∃ new, g'.trace = g.trace ++ new ∧ Passes g.channel.queue new g'.channel.queue := by
  cases intakeMove_of_step h with
  | publish | leave | drainPublish => exact ⟨[], (List.append_nil _).symm, .nil _⟩
  | notice =>
    obtain ⟨bs, hqueue, htrace⟩ := refill_writes { g with
      channel := g.channel.close
      intake := .draining (g.clock + g.settings.drainTimeout) 0 none }
    refine ⟨_, htrace, ?_⟩
    rw [hqueue]
    exact .accept ..
  | @take p _ _ hp =>
    obtain ⟨bs, hqueue, htrace⟩ := refill_writes { g with channel := p.2 }
    obtain ⟨hprocess, hchannel⟩ := process_writes { g with channel := p.2 }.refill p.1
    have hdone := hprocess.trans (congrArg (· ++ _) htrace)
    rw [List.append_assoc] at hdone
    refine ⟨_, hdone, ?_⟩
    -- the room is filled before the batch is processed, but behind those that wait
    simp only [hchannel, hqueue, (Channel.take?_eq_some hp).1]
    exact (Passes.accept (p.1 :: p.2.queue) bs g.clock).trans (.process ⟨_, _, _, rfl⟩ _ _)
  | @drainTake _ _ p _ hp =>
    obtain ⟨hprocess, hchannel⟩ := process_writes { g with channel := p.2 } p.1
    refine ⟨_, hprocess, ?_⟩
    simp only [hchannel, (Channel.take?_eq_some hp).1]
    exact .process ⟨_, _, _, rfl⟩ _ _
  | finish | giveUp => exact ⟨_, rfl, .drained ..⟩

end Writes

/-! ### Flows -/

/-- One thing that happens at the channel of a gateway or at its intake, with what is
written about it, or one that is apart from them. -/
inductive Move [Driver δ] (g : Gateway δ μ) : List (Nat × Deed) → Gateway δ μ → Prop
  | work {g' : Gateway δ μ} {new : List (Nat × Deed)} (h : g.intakeStep = some g')
    (htrace : g'.trace = g.trace ++ new) : Move g new g'
  | push (b : Batch) {new : List (Nat × Deed)} (htrace : (g.push b).2.trace = g.trace ++ new) :
    Move g new (g.push b).2
  /-- The driver pushes something. -/
  | feed {new : List (Nat × Deed)} (htrace : g.feed.trace = g.trace ++ new) : Move g new g.feed
  | reserve : Move g [] g.reserve.2
  | release {new : List (Nat × Deed)} (htrace : g.release.trace = g.trace ++ new) :
    Move g new g.release
  /-- All who could send are gone. -/
  | hangUp : Move g [] { g with channel := g.channel.close }
  /-- Anything else: tasks, time, a stop that is called, changes of the registry, of the
  driver, of the publisher. -/
  | meanwhile {g' : Gateway δ μ} {new : List (Nat × Deed)} (hintake : g'.intake = g.intake)
    (hchannel : g'.channel = g.channel) (htrace : g'.trace = g.trace ++ new)
    (hnew : ∀ e ∈ new, e.2.accepted? = none ∧ e.2.begun? = none) : Move g [] g'

/-- What comes of a gateway by such things, one after the other, with the log of all that
was written about its channel and its intake. -/
inductive Flow [Driver δ] (g : Gateway δ μ) : List (Nat × Deed) → Gateway δ μ → Prop
  | refl : Flow g [] g
  | step {log new : List (Nat × Deed)} {h k : Gateway δ μ} (hf : Flow g log h)
    (hm : h.Move new k) : Flow g (log ++ new) k

section Flow

variable [Driver δ] {g h k : Gateway δ μ} {log log' new : List (Nat × Deed)}

theorem Move.flow (hm : g.Move new h) : g.Flow new h := .step .refl hm

theorem Flow.trans (hf : g.Flow log h) (hf' : h.Flow log' k) : g.Flow (log ++ log') k := by
  induction hf' with
  | refl => rwa [List.append_nil]
  | step _ hm ih =>
    rw [← List.append_assoc]
    exact ih.step hm

/-! ### No batch is lost, repeated or overtaken -/

theorem Move.passes (hm : g.Move new h) : Passes g.channel.queue new h.channel.queue := by
  cases hm with
  | work hstep htrace =>
    obtain ⟨new', htrace', hpasses⟩ := intakeStep_writes hstep
    rwa [List.append_cancel_left (htrace.symm.trans htrace')]
  | push b htrace =>
    obtain ⟨bs, hqueue, htrace'⟩ := g.push_writes b
    rw [List.append_cancel_left (htrace.symm.trans htrace'), hqueue]
    exact .accept ..
  | feed htrace =>
    obtain ⟨bs, hqueue, htrace'⟩ := g.feed_writes
    rw [List.append_cancel_left (htrace.symm.trans htrace'), hqueue]
    exact .accept ..
  | reserve =>
    rw [g.reserve_writes.1]
    exact .nil _
  | release htrace =>
    obtain ⟨bs, hqueue, htrace'⟩ := g.release_writes
    rw [List.append_cancel_left (htrace.symm.trans htrace'), hqueue]
    exact .accept ..
  | hangUp => exact .nil _
  | meanwhile _ hchannel =>
    rw [hchannel]
    exact .nil _

theorem Flow.passes (hf : g.Flow log h) : Passes g.channel.queue log h.channel.queue := by
  induction hf with
  | refl => exact .nil _
  | step _ hm ih => exact ih.trans hm.passes

/-- From the trace `old` to the trace `new` the log is all that is said about batches. -/
def Tells (old log new : List (Nat × Deed)) : Prop :=
  ∃ part, new = old ++ part ∧ log.Sublist part ∧ acceptedIn part = acceptedIn log ∧
    begunIn part = begunIn log

theorem Move.tells (hm : g.Move new h) : Tells g.trace new h.trace := by
  have hown : ∀ {part}, h.trace = g.trace ++ part → Tells g.trace part h.trace :=
    fun {part} htrace => ⟨part, htrace, List.Sublist.refl _, rfl, rfl⟩
  cases hm with
  | work _ htrace | push _ htrace | feed htrace | release htrace => exact hown htrace
  | reserve | hangUp => exact hown (List.append_nil _).symm
  | @meanwhile _ part _ _ htrace hpart =>
    refine ⟨part, htrace, List.nil_sublist _, ?_, ?_⟩
    · exact List.filterMap_eq_nil_iff.2 fun e he => (hpart e he).1
    · exact List.filterMap_eq_nil_iff.2 fun e he => (hpart e he).2

theorem Flow.tells (hf : g.Flow log h) : Tells g.trace log h.trace := by
  induction hf with
  | refl => exact ⟨[], (List.append_nil _).symm, List.Sublist.refl _, rfl, rfl⟩
  | step _ hm ih =>
    obtain ⟨part, hpart, hsub, haccepted, hbegun⟩ := ih
    obtain ⟨part', hpart', hsub', haccepted', hbegun'⟩ := hm.tells
    refine ⟨part ++ part', by rw [hpart', hpart, List.append_assoc], hsub.append hsub', ?_, ?_⟩
    · rw [acceptedIn_append, acceptedIn_append, haccepted, haccepted']
    · rw [begunIn_append, begunIn_append, hbegun, hbegun']

/-! ### The end of a flow -/

/-- An intake that has noticed its end has closed the channel, and one that has ended leaves
nothing there. -/
def Shut (g : Gateway δ μ) : Prop :=
  match g.intake with
  | .serving _ => True
  | .draining _ _ _ => g.channel.closed = true
  | .absent => g.channel.closed = true ∧ g.channel.queue = []

omit [Driver δ] in
theorem Shut.of_closed (hg : g.Shut) (hintake : h.intake = g.intake)
    (hclosed : g.channel.closed = true →
      h.channel.closed = true ∧ h.channel.queue = g.channel.queue) : h.Shut := by
  unfold Shut at hg ⊢
  rw [hintake]
  cases hi : g.intake with
  | serving busy => trivial
  | draining deadline n busy =>
    rw [hi] at hg
    exact (hclosed hg).1
  | absent =>
    rw [hi] at hg
    exact ⟨(hclosed hg.1).1, (hclosed hg.1).2.trans hg.2⟩

omit [Driver δ] in
theorem Shut.intakeStep (hg : g.Shut) (hstep : g.intakeStep = some h) : h.Shut := by
  unfold Shut at hg
  cases intakeMove_of_step hstep with
  | publish | take => trivial
  | notice =>
    have haside := refill_aside_of_closed (g := { g with
      channel := g.channel.close
      intake := .draining (g.clock + g.settings.drainTimeout) 0 none }) rfl
    simp only [Shut, haside.intake, haside.channel]
    rfl
  | leave _ _ _ hd => exact ⟨(Channel.isDone_iff.1 hd).1, (Channel.isDone_iff.1 hd).2.1⟩
  | drainPublish hi =>
    rw [hi] at hg
    exact hg
  | @drainTake deadline n p hi hp =>
    rw [hi] at hg
    have hchannel := (process_writes { g with channel := p.2 } p.1).2
    have hclosed : p.2.closed = true := (Channel.take?_eq_some hp).2.trans hg
    cases hb : ({ g with channel := p.2 }.process p.1).1 with
    | none => simpa only [Shut, drainState, hchannel] using hclosed
    | some t => simpa only [Shut, drainState, hchannel] using hclosed
  | finish hi hp hd => exact ⟨(Channel.isDone_iff.1 hd).1, (Channel.isDone_iff.1 hd).2.1⟩
  | giveUp hi hp =>
    rw [hi] at hg
    exact ⟨hg, Channel.take?_eq_none.1 hp⟩

theorem Move.shut (hm : g.Move new h) (hg : g.Shut) : h.Shut := by
  cases hm with
  | work hstep => exact hg.intakeStep hstep
  | push b =>
    refine hg.of_closed (g.push_intake b) fun hclosed => ?_
    rw [push_of_closed hclosed]
    exact ⟨hclosed, rfl⟩
  | feed =>
    refine hg.of_closed g.feed_aside.intake fun hclosed => ?_
    rw [(g.feed_aside_of_closed hclosed).channel]
    exact ⟨hclosed, rfl⟩
  | reserve =>
    refine hg.of_closed rfl fun hclosed => ?_
    rw [reserve_of_closed hclosed]
    exact ⟨hclosed, rfl⟩
  | release =>
    refine hg.of_closed g.release_intake fun hclosed => ?_
    rw [release_of_closed hclosed]
    exact ⟨hclosed, rfl⟩
  | hangUp => exact hg.of_closed rfl fun _ => ⟨rfl, rfl⟩
  | meanwhile hintake hchannel =>
    refine hg.of_closed hintake fun hclosed => ?_
    rw [hchannel]
    exact ⟨hclosed, rfl⟩

theorem Flow.shut (hf : g.Flow log h) (hg : g.Shut) : h.Shut := by
  induction hf with
  | refl => exact hg
  | step _ hm ih => exact hm.shut ih

/-! ### Everything is a flow -/

variable [MetadataSource μ]

/-- What survives every move is durable. -/
theorem Durable.of_move {P : Gateway δ μ → Prop}
    (hmove : ∀ {g h : Gateway δ μ} {new}, P g → g.Move new h → P h) : Durable P := by
  have hsame : ∀ g h : Gateway δ μ, P g → h.intake = g.intake → h.channel = g.channel →
      h.trace = g.trace → P h := fun g h hg hi hc ht =>
    hmove hg (.meanwhile hi hc (ht.trans (List.append_nil _).symm) (by simp))
  have hapart : ∀ g h : Gateway δ μ, P g → g.Apart h → P h := by
    intro g h hg ha
    obtain ⟨new, hnew, hdeeds⟩ := ha.trace
    exact hmove hg (.meanwhile ha.intake ha.channel hnew fun e he =>
      ⟨Deed.accepted?_of_isApart (hdeeds e he), Deed.begun?_of_isApart (hdeeds e he)⟩)
  have hfeed : ∀ g : Gateway δ μ, P g → P g.feed := by
    intro g hg
    obtain ⟨bs, -, htrace⟩ := g.feed_writes
    exact hmove hg (.feed htrace)
  have hkept : Kept P := .of_apart hapart (fun g ts hg => hsame g _ hg rfl rfl rfl) hfeed
    fun g g' hg hstep => by
      obtain ⟨new, htrace, -⟩ := intakeStep_writes hstep
      exact hmove hg (.work hstep htrace)
  have henduring : Enduring P := ⟨hkept.stable, fun g t hg => hsame g _ hg rfl rfl rfl⟩
  refine ⟨henduring, hapart, ?_, ?_, ?_⟩
  · intro g b hg
    obtain ⟨bs, -, htrace⟩ := g.push_writes b
    exact hmove hg (.push b htrace)
  · exact fun g hg => hmove hg .reserve
  · intro g hg
    obtain ⟨bs, -, htrace⟩ := g.release_writes
    exact hmove hg (.release htrace)

theorem durable_shut : Durable (Shut (δ := δ) (μ := μ)) := .of_move fun hg hm => hm.shut hg

theorem durable_flow (g : Gateway δ μ) : Durable fun h => ∃ log, g.Flow log h :=
  .of_move fun ⟨log, hf⟩ hm => ⟨log ++ _, hf.step hm⟩

omit [MetadataSource μ] in
theorem flow_halted (g : Gateway δ μ) : g.Flow [] g.halted := by
  let cancelled : Gateway δ μ :=
    { g with cancelled := true, hasSender := false, running := false }
  obtain ⟨htrace, hchannel⟩ := cancelled.wakeIntake_writes
  have hcalled : g.Move [] g.halted := .meanwhile cancelled.wakeIntake_aside.intake hchannel
    (htrace.trans (List.append_nil _).symm) (by simp)
  exact hcalled.flow

theorem flow_stop (g : Gateway δ μ) (force : Bool) : ∃ log, g.Flow log (g.stop force) := by
  obtain ⟨log, hf⟩ := (durable_flow g).awaited ⟨[], flow_halted g⟩
  have hnoted : g.awaited.Move [] (g.stop force) :=
    .meanwhile rfl rfl rfl (by simp [Deed.accepted?, Deed.begun?])
  exact ⟨log ++ [], hf.step hnoted⟩

/-- Whatever is asked of a gateway, or happens around it, is a flow of its batches; only a
start that opens a new channel is none. -/
theorem Step.flow (hs : g.Step h) : (∃ log, g.Flow log h) ∨ h = g.start.2 := by
  rcases (durable_flow g).step ⟨[], .refl⟩ hs with hf | hstart | ⟨force, rfl⟩
  · exact .inl hf
  · exact .inr hstart
  · exact .inl (g.flow_stop force)

end Flow

end Gateway

end DeviceGateway
