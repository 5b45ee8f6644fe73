import DeviceGateway.Proofs.Gateway.Elsewhere
import DeviceGateway.Proofs.Gateway.Reachable

/-! A command for many devices, as a gateway runs it. Its tasks are the errands of a race, in
the order in which the gateway comes to them. Every read that is put to sleep is due later, and
each time that the gateway waits for one there is one less, so that in the end no task of the
command is left. Hence nothing of a command is under way when the next request comes. -/

namespace DeviceGateway.Gateway

variable {δ μ : Type}

/-! ### Tasks that are run -/

section Tasks

variable [Driver δ] (g : Gateway δ μ)

theorem ask_proceeds (d : Device) (command : String) :
    g.Proceeds [] (g.ask d command).2 ∧ (g.ask d command).2.begun = g.begun ∧
      (g.ask d command).2.answers = g.answers := by
  unfold ask
  split
  · exact ⟨.of_eq rfl rfl rfl, rfl, rfl⟩
  · exact ⟨.of_eq rfl rfl rfl, (begun_record _ _).trans (List.append_nil _), rfl⟩

omit [Driver δ] in
theorem answer_proceeds (name : String) (r : Except GatewayError Answer) :
    g.Proceeds [] (g.answer name r) := .of_eq rfl rfl rfl

omit [Driver δ] in
theorem runFinish_proceeds (name : String) (p : PendingRead) :
    g.Proceeds [] (g.runFinish name p) :=
  (proceeds_outcome.finishRead g p).1.trans (answer_proceeds _ _ _)

/-- The end of a read, which is due later. -/
def Late (g : Gateway δ μ) (e : Nat × GatewayTask) : Prop :=
  g.clock < e.1 ∧ ∃ name p, e.2 = .finish name p

variable [MetadataSource μ]

/-- Only a read that is begun puts anything to sleep. -/
theorem runTask_proceeds (t : GatewayTask) : ∃ new, g.Proceeds new (g.runTask t) ∧
    (∀ e ∈ new, g.Late e) ∧ ((∀ name id command, t ≠ .read name id command) → new = []) := by
  cases t with
  | intake | publish | report =>
    exact ⟨[], (runTask_elsewhere g rfl).toProceeds, by simp, fun _ => rfl⟩
  | finish name p => exact ⟨[], runFinish_proceeds g name p, by simp, fun _ => rfl⟩
  | read name id command =>
    have hbegun : g.Proceeds [] (g.beginRead id command).2 := by
      rw [beginRead_eq]
      split
      · exact .of_eq rfl rfl rfl
      · exact (ask_proceeds g _ command).1
    rw [runTask_read]
    split
    · exact ⟨[], hbegun.trans (answer_proceeds _ _ _), by simp, fun _ => rfl⟩
    · next p _ =>
      split
      · exact ⟨[], hbegun.trans (runFinish_proceeds _ name p), by simp, fun _ => rfl⟩
      · next hwait =>
        refine ⟨[((g.beginRead id command).2.clock + p.wait, .finish name p)],
          ⟨hbegun.clock, hbegun.ready, ?_⟩, fun e he => ?_, fun hne => ?_⟩
        · have hsame : (g.beginRead id command).2.sleeping = g.sleeping := by
            rw [hbegun.sleeping, List.append_nil]
          simp only [hsame]
        · rw [List.mem_singleton.1 he]
          refine ⟨?_, name, p, rfl⟩
          have hclock := hbegun.clock
          simp only
          omega
        · exact absurd rfl (hne name id command)

end Tasks

/-! ### What is ready and what sleeps -/

/-- Nothing that is ready is part of a command. -/
def Calmed (g : Gateway δ μ) : Prop := ∀ t ∈ g.ready, t.isCommand = false

/-- Whatever sleeps is the end of a read, and due later. -/
def Timed (g : Gateway δ μ) : Prop := ∀ e ∈ g.sleeping, g.Late e

/-- No read is to be begun. -/
structure Begun (g : Gateway δ μ) : Prop where
  timed : g.Timed
  ready : ∀ t ∈ g.ready, ∀ name id command, t ≠ .read name id command

/-- No part of a command is under way. -/
structure Idle (g : Gateway δ μ) : Prop where
  calmed : g.Calmed
  sleeping : g.sleeping = []

section Rest

variable {g h : Gateway δ μ} {new : List (Nat × GatewayTask)}

theorem Calmed.begun (hcalmed : g.Calmed) (htimed : g.Timed) : g.Begun where
  timed := htimed
  ready t ht name id command heq := by
    have hnot := hcalmed t ht
    rw [heq] at hnot
    cases hnot

theorem Idle.begun (hg : g.Idle) : g.Begun :=
  hg.calmed.begun fun e he => by rw [hg.sleeping] at he; cases he

theorem Proceeds.calmed (hgh : g.Proceeds new h) (hg : g.Calmed) : h.Calmed := by
  obtain ⟨ts, hts, hnone⟩ := hgh.ready
  intro t ht
  rw [hts] at ht
  exact (List.mem_append.1 ht).elim (hg t) (hnone t)

theorem Proceeds.timed (hgh : g.Proceeds new h) (hg : g.Timed) (hnew : ∀ e ∈ new, g.Late e) :
    h.Timed := by
  intro e he
  rw [hgh.sleeping] at he
  have hlate : g.Late e := (List.mem_append.1 he).elim (hg e) (hnew e)
  exact ⟨by rw [hgh.clock]; exact hlate.1, hlate.2⟩

theorem Proceeds.idle (hgh : g.Proceeds [] h) (hg : g.Idle) : h.Idle :=
  ⟨hgh.calmed hg.calmed, by rw [hgh.sleeping, hg.sleeping]; rfl⟩

theorem Timed.jump (hg : g.Timed) (t : Nat) : (g.jump t).Timed := by
  intro e he
  obtain ⟨he, hlater⟩ := List.mem_filter.1 he
  exact ⟨of_decide_eq_true hlater, (hg e he).2⟩

theorem Proceeds.begun (hgh : g.Proceeds [] h) (hg : g.Begun) : h.Begun := by
  obtain ⟨ts, hts, hnone⟩ := hgh.ready
  refine ⟨hgh.timed hg.timed (by simp), fun t ht name id command heq => ?_⟩
  rw [hts] at ht
  rcases List.mem_append.1 ht with ht | ht
  · exact hg.ready t ht name id command heq
  · have hcommand := hnone t ht
    rw [heq] at hcommand
    cases hcommand

/-- Ready after a jump is what was before, the intake, and what falls due. -/
theorem mem_ready_jump {t : Nat} {task : GatewayTask} (h : task ∈ (g.jump t).ready) :
    task ∈ g.ready ∨ task = .intake ∨ ∃ e ∈ g.sleeping, e.2 = task := by
  have hready : (g.jump t).ready = g.ready ++
      ((if g.intakeTime?.any (· ≤ t) then [GatewayTask.intake] else []) ++
        (g.sleeping.filter (·.1 ≤ t)).map Prod.snd) := rfl
  rw [hready, List.mem_append, List.mem_append] at h
  rcases h with h | h | h
  · exact .inl h
  · split at h
    · exact .inr (.inl (List.mem_singleton.1 h))
    · cases h
  · obtain ⟨e, he, heq⟩ := List.mem_map.1 h
    exact .inr (.inr ⟨e, (List.mem_filter.1 he).1, heq⟩)

theorem Begun.jump (hg : g.Begun) (t : Nat) : (g.jump t).Begun := by
  refine ⟨hg.timed.jump t, fun task ht name id command heq => ?_⟩
  rcases mem_ready_jump ht with ht | rfl | ⟨e, he, rfl⟩
  · exact hg.ready task ht name id command heq
  · cases heq
  · obtain ⟨-, name', p, hfinish⟩ := hg.timed e he
    rw [hfinish] at heq
    cases heq

theorem Idle.jump (hg : g.Idle) (t : Nat) : (g.jump t).Idle := by
  constructor
  · intro task ht
    rcases mem_ready_jump ht with ht | rfl | ⟨e, he, -⟩
    · exact hg.calmed task ht
    · rfl
    · rw [hg.sleeping] at he
      cases he
  · show g.sleeping.filter (t < ·.1) = []
    rw [hg.sleeping]
    rfl

section Runs

variable [Driver δ] [MetadataSource μ]

/-- Whatever is ready is run, and what that makes ready is not part of a command. -/
theorem runReady_calmed (g : Gateway δ μ) : g.runReady.Calmed := by
  refine foldl_runTask (P := fun _ h => h.Calmed) (fun t _ h hh => ?_) fun t ht => by cases ht
  obtain ⟨new, hnew, -⟩ := runTask_proceeds h t
  exact hnew.calmed hh

theorem calmed_stable : Stable (Calmed (δ := δ) (μ := μ)) where
  runReady g _ := g.runReady_calmed
  feed g hg := (elsewhere_feed.feed g).toProceeds.calmed hg

theorem settle_calmed (g : Gateway δ μ) : g.settle.Calmed :=
  calmed_stable.settle_of_runReady g.runReady_calmed

theorem timed_kept : Kept (Timed (δ := δ) (μ := μ)) where
  task g t hg := by
    obtain ⟨new, hnew, hlate, -⟩ := runTask_proceeds g t
    exact hnew.timed hg hlate
  feed g hg := (elsewhere_feed.feed g).toProceeds.timed hg (by simp)
  ready g ts hg := hg

/-- While no read is begun the same tasks sleep. -/
theorem begun_stable (R : List (Nat × GatewayTask) → Prop) :
    Stable fun g : Gateway δ μ => g.Begun ∧ R g.sleeping where
  runReady g hg := by
    have hnone : Begun { g with ready := [] } := ⟨hg.1.timed, fun t ht => by cases ht⟩
    refine (foldl_runTask (P := fun ts h => (∀ t ∈ ts, ∀ name id command,
      t ≠ .read name id command) ∧ h.Begun ∧ R h.sleeping) ?_ ⟨hg.1.ready, hnone, hg.2⟩).2
    rintro t ts h ⟨hts, hbegun, hsleeping⟩
    obtain ⟨ht, hrest⟩ := List.forall_mem_cons.1 hts
    obtain ⟨new, hnew, -, hnothing⟩ := runTask_proceeds h t
    obtain rfl := hnothing ht
    refine ⟨hrest, hnew.begun hbegun, ?_⟩
    rwa [hnew.sleeping, List.append_nil]
  feed g hg := by
    have hfed := (elsewhere_feed.feed g).toProceeds
    refine ⟨hfed.begun hg.1, ?_⟩
    rw [hfed.sleeping, List.append_nil]
    exact hg.2

theorem idle_stable : Stable (Idle (δ := δ) (μ := μ)) where
  runReady g hg := by
    have hrest := (begun_stable (· = [])).runReady g ⟨hg.begun, hg.sleeping⟩
    exact ⟨g.runReady_calmed, hrest.2⟩
  feed g hg := (elsewhere_feed.feed g).toProceeds.idle hg

theorem idle_enduring : Enduring (Idle (δ := δ) (μ := μ)) := ⟨idle_stable, fun _ t hg => hg.jump t⟩

/-! ### Waiting -/

/-- When time has passed up to the first of the tasks that sleep, there is one less of them. -/
theorem Begun.pass (hg : g.Begun) {n t : Nat} (hlength : g.sleeping.length ≤ n + 1)
    (ht : (g.sleeping.map (·.1)).min? = some t) :
    (g.pass (t - g.clock)).Begun ∧ (g.pass (t - g.clock)).sleeping.length ≤ n := by
  obtain ⟨e, he, rfl⟩ := List.mem_map.1 (List.min?_mem ht)
  have hlate : g.clock < e.1 := (hg.timed e he).1
  have hsome : e.1 - g.clock ≠ 0 := by omega
  have hstop : g.clock + (e.1 - g.clock) = e.1 := by omega
  unfold Gateway.pass
  rw [if_neg hsome, hstop]
  refine (begun_stable fun s => s.length ≤ n + 1 ∧ e ∈ s).passSteps
    (R := fun h => h.Begun ∧ h.sleeping.length ≤ n) (fun h u hu hh => ?_) (fun h hh => ?_)
    ⟨hg, hlength, he⟩ _
  · -- the task sleeps on while the time is not come
    obtain ⟨hbegun, hle, hmem⟩ := hh
    refine ⟨hbegun.jump u, ?_, List.mem_filter.2 ⟨hmem, decide_eq_true hu⟩⟩
    exact Nat.le_trans (List.length_filter_le ..) hle
  · obtain ⟨hbegun, hle, hmem⟩ := hh
    refine ⟨hbegun.jump e.1, ?_⟩
    have hless : (h.sleeping.filter (e.1 < ·.1)).length < h.sleeping.length :=
      List.length_filter_lt_length_iff_exists.2 ⟨e, hmem, by simp⟩
    exact Nat.le_of_lt_succ (Nat.lt_of_lt_of_le hless hle)

/-- As many turns as tasks sleep are enough, and one. -/
theorem await_idle {n : Nat} (hg : g.settle.Begun) (hn : g.settle.sleeping.length < n) :
    (g.await answerTime? n).Idle := by
  induction n generalizing g with
  | zero => exact absurd hn (Nat.not_lt_zero _)
  | succ n ih =>
    unfold await
    simp only
    split
    · next hnone =>
      refine ⟨g.settle_calmed, ?_⟩
      simpa [answerTime?] using hnone
    · next t ht =>
      have hsome : g.settle.sleeping ≠ [] := by
        intro hnone
        simp [answerTime?, hnone] at ht
      obtain ⟨m, hm⟩ : ∃ m, g.settle.sleeping.length = m + 1 :=
        Nat.exists_eq_succ_of_ne_zero fun hzero => hsome (List.length_eq_zero_iff.1 hzero)
      have hpassed := hg.pass (Nat.le_of_eq hm) ht
      obtain ⟨hbegun, hless⟩ := (begun_stable (fun s => s.length ≤ m)).settle hpassed
      exact ih hbegun (by omega)

end Runs

end Rest

/-! ### The race that a gateway runs -/

/-- What an errand is for a gateway between two tasks. -/
def errandTask? (command : String) : Errand → Option GatewayTask
  | .spawned d => some (.read d.name d.id command)
  | .found .. => none
  | .asked d p => some (.finish d.name p)

/-- The parts of commands that are to be run, when `ts` are run before what is ready. -/
def underway (g : Gateway δ μ) (ts : List GatewayTask) : List GatewayTask :=
  (ts ++ g.ready ++ g.sleeping.map (·.2)).filter (·.isCommand)

/-- The task that comes next is an errand. -/
theorem exists_errand {command : String} {es : List Errand} {t : GatewayTask}
    {ts : List GatewayTask}
    (h : (es.map (errandTask? command)).Perm ((t :: ts).map some)) :
    ∃ e others, es.Perm (e :: others) ∧ errandTask? command e = some t ∧
      (others.map (errandTask? command)).Perm (ts.map some) := by
  have hmem : some t ∈ es.map (errandTask? command) := h.mem_iff.2 (by simp)
  obtain ⟨e, he, heq⟩ := List.mem_map.1 hmem
  obtain ⟨before, after, rfl⟩ := List.append_of_mem he
  have hmoved : ((e :: (before ++ after)).map (errandTask? command)).Perm ((t :: ts).map some) :=
    (List.perm_middle.map (errandTask? command)).symm.trans h
  rw [List.map_cons, List.map_cons, heq] at hmoved
  exact ⟨e, before ++ after, List.perm_middle, heq, hmoved.cons_inv⟩

theorem Proceeds.underway {g h : Gateway δ μ} (hgh : g.Proceeds [] h) (ts : List GatewayTask) :
    h.underway ts = g.underway ts := by
  obtain ⟨new, hnew, hnone⟩ := hgh.ready
  have hfilter : new.filter (·.isCommand) = [] :=
    List.filter_eq_nil_iff.2 fun t ht => by simp [hnone t ht]
  simp [Gateway.underway, hnew, hgh.sleeping, hfilter]

variable [Driver δ] {g h k : Gateway δ μ} {command : String} {ts : List GatewayTask}

/-- A race of the command that has come from `g` stands at `h`, where `ts` are run before what
is ready. The others that disable devices are batches that the intake has begun. -/
def Racing (g : Gateway δ μ) (command : String) (ts : List GatewayTask) (h : Gateway δ μ) : Prop :=
  ∃ r : Race δ μ, Race.Run g command r ∧ r.gateway = h ∧ g.Began r.others h ∧
    (r.answers.map fun a => (a.1.name, a.2)) = h.answers ∧
    (r.errands.map (errandTask? command)).Perm ((h.underway ts).map some)

theorem Racing.meanwhile (hr : Racing g command ts h) {names : List String}
    (hm : h.Meanwhile names k) (hbegan : h.Began names k) (hanswers : k.answers = h.answers)
    {ts' : List GatewayTask} (hunderway : (h.underway ts).Perm (k.underway ts')) :
    Racing g command ts' k := by
  obtain ⟨r, hrun, rfl, hothers, hsame, herrands⟩ := hr
  exact ⟨_, hrun.step (.meanwhile hm), rfl, hothers.trans hbegan, hsame.trans hanswers.symm,
    herrands.trans (hunderway.map some)⟩

theorem Racing.elsewhere (hr : Racing g command ts h) (hhk : h.Elsewhere k) :
    Racing g command ts k := by
  obtain ⟨names, hm, hbegan⟩ := hhk.meanwhile
  exact hr.meanwhile hm hbegan hhk.answers (.of_eq (hhk.underway ts).symm)

/-- An errand ends, and its answer is noted. -/
theorem racing_of_ends {r : Race δ μ} (hrun : Race.Run g command r) {e : Errand}
    {others : List Errand} {answer : Except GatewayError Answer}
    (hpick : r.errands.Perm (e :: others))
    (hnext : e.advance command r.gateway = (.inr answer, k))
    (hproceeds : r.gateway.Proceeds [] k) (hbegan : g.Began r.others k)
    (hanswers : (r.answers.map fun a => (a.1.name, a.2)) = k.answers)
    (hothers : (others.map (errandTask? command)).Perm ((r.gateway.underway ts).map some)) :
    Racing g command ts (k.answer e.device.name answer) := by
  have hends := hrun.step (.ends hpick hnext)
  have hm : k.Meanwhile [] (k.answer e.device.name answer) := ⟨rfl, rfl, rfl, rfl⟩
  refine ⟨_, hends.step (.meanwhile hm), rfl, hbegan.trans (began_nil rfl), ?_, ?_⟩
  · rw [List.map_append, hanswers]
    rfl
  · have hsame : (k.answer e.device.name answer).underway ts = r.gateway.underway ts :=
      (hproceeds.trans (answer_proceeds k e.device.name answer)).underway ts
    rw [hsame]
    exact hothers

variable [MetadataSource μ]

/-- A read for one device: it is found, the driver is asked, and the answer comes at once, later
or not at all. -/
theorem Racing.runRead {name id c : String} (hr : Racing g command (.read name id c :: ts) h) :
    Racing g command ts (h.runTask (.read name id c)) := by
  obtain ⟨r, hrun, rfl, hbegan, hanswers, herrands⟩ := hr
  have hhead : r.gateway.underway (.read name id c :: ts) =
      .read name id c :: r.gateway.underway ts := rfl
  rw [hhead] at herrands
  obtain ⟨e, others, hpick, htask, hothers⟩ := exists_errand herrands
  obtain ⟨d, rfl, rfl, rfl, rfl⟩ : ∃ d, e = .spawned d ∧ name = d.name ∧ id = d.id ∧
      c = command := by
    cases e with
    | spawned d =>
      cases htask
      exact ⟨d, rfl, rfl, rfl, rfl⟩
    | found | asked => cases htask
  rw [runTask_read, beginRead_eq]
  cases hfind : r.gateway.find d.id with
  | error e =>
    exact racing_of_ends hrun hpick (by rw [Errand.advance, hfind]) (.of_eq rfl rfl rfl) hbegan
      hanswers hothers
  | ok now =>
    have hfinds : (Errand.spawned d).advance c r.gateway = (.inl (.found d now), r.gateway) := by
      rw [Errand.advance, hfind]
    have hfound := hrun.step (.goes hpick hfinds)
    obtain ⟨hasked, hquiet, hsame⟩ := r.gateway.ask_proceeds now c
    have hanswers' := hanswers.trans hsame.symm
    have hbegan' := hbegan.same hquiet
    simp only
    generalize hask : r.gateway.ask now c = asked at hasked hbegan' hanswers' ⊢
    obtain ⟨result, h'⟩ := asked
    cases result with
    | error e =>
      exact racing_of_ends hfound (.refl _) (by rw [Errand.advance, hask]) hasked hbegan' hanswers'
        hothers
    | ok p =>
      have hasks : (Errand.found d now).advance c r.gateway = (.inl (.asked d p), h') := by
        rw [Errand.advance, hask]
      have hgone := hfound.step (.goes (.refl _) hasks)
      rw [← hasked.underway ts] at hothers
      simp only
      split
      · obtain ⟨hfinish, hquiet, hsame⟩ := proceeds_outcome.finishRead h' p
        exact racing_of_ends hgone (.refl _) rfl hfinish (hbegan'.same hquiet)
          (hanswers'.trans hsame.symm) hothers
      · have hm : h'.Meanwhile [] { h' with
            sleeping := h'.sleeping ++ [(h'.clock + p.wait, .finish d.name p)] } :=
          ⟨rfl, rfl, rfl, rfl⟩
        refine ⟨_, hgone.step (.meanwhile hm), rfl, hbegan'.trans (began_nil rfl), hanswers', ?_⟩
        have hsleeps : underway { h' with
            sleeping := h'.sleeping ++ [(h'.clock + p.wait, .finish d.name p)] } ts =
              h'.underway ts ++ [.finish d.name p] := by
          simp [underway, GatewayTask.isCommand]
        rw [hsleeps, List.map_append]
        exact (hothers.cons _).trans (List.perm_append_singleton ..).symm

theorem Racing.runTask {t : GatewayTask} (hr : Racing g command (t :: ts) h) :
    Racing g command ts (h.runTask t) := by
  cases t with
  | read name id c => exact hr.runRead
  | finish name p =>
    obtain ⟨r, hrun, rfl, hbegan, hanswers, herrands⟩ := hr
    have hhead : r.gateway.underway (.finish name p :: ts) =
        .finish name p :: r.gateway.underway ts := rfl
    rw [hhead] at herrands
    obtain ⟨e, others, hpick, htask, hothers⟩ := exists_errand herrands
    obtain ⟨d, rfl, rfl⟩ : ∃ d, e = .asked d p ∧ name = d.name := by
      cases e with
      | asked d q =>
        cases htask
        exact ⟨d, rfl, rfl⟩
      | spawned | found => cases htask
    obtain ⟨hfinish, hquiet, hsame⟩ := proceeds_outcome.finishRead r.gateway p
    exact racing_of_ends hrun hpick rfl hfinish (hbegan.same hquiet) (hanswers.trans hsame.symm)
      hothers
  | intake | publish | report =>
    have hrest : Racing g command ts h := hr.meanwhile (.refl h) (began_nil rfl) rfl (.refl _)
    exact hrest.elsewhere (runTask_elsewhere h rfl)

theorem racing_stable (g : Gateway δ μ) (command : String) : Stable (Racing g command []) where
  runReady h hr := by
    have hm : h.Meanwhile [] { h with ready := [] } := ⟨rfl, rfl, rfl, rfl⟩
    have htaken : h.underway [] = underway { h with ready := [] } h.ready := by simp [underway]
    exact foldl_runTask (P := Racing g command) (fun _ _ _ hr => hr.runTask)
      (hr.meanwhile hm (began_nil rfl) rfl (.of_eq htaken))
  feed h hr := hr.elsewhere (elsewhere_feed.feed h)

omit [MetadataSource μ] in
/-- What falls due is ready and sleeps no more. -/
theorem Racing.jump (hr : Racing g command [] h) (t : Nat) : Racing g command [] (h.jump t) := by
  have hm : h.Meanwhile [] (h.jump t) := ⟨rfl, rfl, rfl, rfl⟩
  refine hr.meanwhile hm (began_nil rfl) rfl ?_
  have hlater : (fun e : Nat × GatewayTask => decide (t < e.1)) = fun e => !decide (e.1 ≤ t) := by
    funext e
    rw [← decide_not, decide_eq_decide]
    exact Nat.not_le.symm
  have hsplit : (h.sleeping.filter (·.1 ≤ t) ++ h.sleeping.filter (t < ·.1)).Perm h.sleeping := by
    rw [hlater]
    exact List.filter_append_perm ..
  have hwoken : (if h.intakeTime?.any (· ≤ t) then [GatewayTask.intake] else []).filter
      (·.isCommand) = [] := by
    split <;> rfl
  have hjump : (h.jump t).underway [] = h.ready.filter (·.isCommand) ++
      ((h.sleeping.filter (·.1 ≤ t) ++ h.sleeping.filter (t < ·.1)).map (·.2)).filter
        (·.isCommand) := by
    simp [underway, Gateway.jump, enqueue, hwoken]
  have hbefore : h.underway [] = h.ready.filter (·.isCommand) ++
      (h.sleeping.map (·.2)).filter (·.isCommand) := by
    simp [underway]
  rw [hjump, hbefore]
  exact (((hsplit.map _).filter _).append_left _).symm

/-! ### The whole command -/

omit [MetadataSource μ] in
/-- There is an errand or an answer for each device. -/
theorem length_of_run {r : Race δ μ} (hrun : Race.Run g command r) :
    r.errands.length + r.answers.length = (g.targets command).length := by
  induction hrun with
  | start => simp [Race.start]
  | step _ hs ih =>
    cases hs with
    | goes hpick =>
      have hlength := hpick.length_eq
      simp only [List.length_cons] at hlength ⊢
      omega
    | ends hpick =>
      have hlength := hpick.length_eq
      simp only [List.length_cons] at hlength
      simp only [List.length_append, List.length_singleton]
      omega
    | meanwhile => exact ih

omit [MetadataSource μ] in
theorem Racing.length_sleeping_le (hr : Racing g command [] h) (htimed : h.Timed) :
    h.sleeping.length ≤ (g.targets command).length := by
  obtain ⟨r, hrun, rfl, -, -, herrands⟩ := hr
  have hall : (r.gateway.sleeping.map (·.2)).filter (·.isCommand) =
      r.gateway.sleeping.map (·.2) := by
    refine List.filter_eq_self.2 fun t ht => ?_
    obtain ⟨e, he, rfl⟩ := List.mem_map.1 ht
    obtain ⟨-, name, p, hfinish⟩ := htimed e he
    rw [hfinish]
    rfl
  have hlength := herrands.length_eq
  have hrun := length_of_run hrun
  simp only [underway, List.filter_append, hall, List.length_map, List.length_append] at hlength
  omega

/-- A race of the command, in some order, comes to the entries and the registry, while others
disable the devices of the names. -/
def Gathers (g : Gateway δ μ) (command : String) (others : List String)
    (entries : List (String × Except GatewayError Answer)) (registry : Registry) : Prop :=
  ∃ r : Race δ μ, Race.Run g command r ∧ r.errands = [] ∧
    entries.Perm (r.answers.map fun a => (a.1.name, a.2)) ∧ r.others = others ∧
    r.gateway.registry = registry

/-- The gateway with a read ready for each device that has the command and is not locked. -/
def spawned (g : Gateway δ μ) (command : String) : Gateway δ μ :=
  enqueue { g with answers := [] } ((g.targets command).map fun d => .read d.name d.id command)

omit [MetadataSource μ] in
theorem Idle.racing_spawned (hg : g.Idle) (command : String) :
    Racing g command [] (g.spawned command) := by
  have hm : g.Meanwhile [] (g.spawned command) := ⟨rfl, rfl, rfl, rfl⟩
  refine ⟨_, .step .start (.meanwhile hm), rfl, began_nil rfl, rfl, .of_eq ?_⟩
  have hready : g.ready.filter (·.isCommand) = [] :=
    List.filter_eq_nil_iff.2 fun t ht => by simp [hg.calmed t ht]
  have htasks : ((g.targets command).map fun d => GatewayTask.read d.name d.id command).filter
      (·.isCommand) = (g.targets command).map fun d => .read d.name d.id command := by
    refine List.filter_eq_self.2 fun t ht => ?_
    obtain ⟨d, -, rfl⟩ := List.mem_map.1 ht
    rfl
  have hunderway : (g.spawned command).underway [] =
      (g.targets command).map fun d => .read d.name d.id command := by
    simp only [underway, spawned, enqueue, List.nil_append, List.filter_append, hready, htasks,
      hg.sleeping, List.map_nil, List.append_nil]
  rw [hunderway, List.map_map]
  exact List.map_map

theorem racing_enduring (g : Gateway δ μ) (command : String) : Enduring (Racing g command []) :=
  ⟨racing_stable g command, fun _ t hr => hr.jump t⟩

/-- What a gateway does for a command for many devices is one of its races, run to the end; and
it leaves nothing of the command under way. -/
theorem Idle.getAll (hg : g.Idle) (command : String) : (g.getAll command).2.Idle ∧
    ∃ others, g.Began others (g.getAll command).2 ∧
      g.Gathers command others (g.getAll command).1 (g.getAll command).2.registry := by
  unfold Gateway.getAll
  simp only
  split
  · next hnone =>
    refine ⟨hg, [], began_nil rfl, _, .start, ?_, .refl _, rfl, rfl⟩
    simp [Race.start, List.isEmpty_iff.1 hnone]
  · have hstart := hg.racing_spawned command
    have hsettled : (g.spawned command).settle.Timed := timed_kept.stable.settle hg.begun.timed
    have hfew := ((racing_enduring g command).settle hstart).length_sleeping_le hsettled
    have hidle := await_idle ((g.spawned command).settle_calmed.begun hsettled)
      (Nat.lt_succ_of_le hfew)
    obtain ⟨r, hrun, hgateway, hbegan, hanswers, herrands⟩ :=
      (racing_enduring g command).await answerTime? hstart ((g.targets command).length + 1)
    have hover : underway ((g.spawned command).await answerTime?
        ((g.targets command).length + 1)) [] = [] := by
      refine List.filter_eq_nil_iff.2 fun t ht => ?_
      rw [hidle.sleeping, List.map_nil, List.append_nil, List.nil_append] at ht
      simp [hidle.calmed t ht]
    rw [hover] at herrands
    refine ⟨⟨hidle.calmed, hidle.sleeping⟩, r.others, hbegan.same rfl, r, hrun, ?_, ?_, rfl, ?_⟩
    · exact List.map_eq_nil_iff.1 herrands.eq_nil
    · rw [hanswers]
      exact List.mergeSort_perm ..
    · rw [hgateway]
      rfl

/-! ### Between requests -/

theorem Idle.get (hg : g.Idle) (key : String) : (g.get key command).2.Idle := by
  refine idle_enduring.get ?_ fun h p hh => (proceeds_outcome.finishRead h p).1.idle hh
  rw [beginRead_eq]
  split
  · exact hg
  · exact (ask_proceeds g _ command).1.idle hg

theorem Idle.stop (hg : g.Idle) (force : Bool) : (g.stop force).Idle := by
  have hcancelled : Idle { g with cancelled := true, hasSender := false, running := false } :=
    ⟨hg.calmed, hg.sleeping⟩
  have hawaited := idle_enduring.awaited (g := g)
    ((elsewhere_feed.wakeIntake _).toProceeds.idle hcancelled)
  exact ⟨hawaited.calmed, hawaited.sleeping⟩

theorem Idle.step {g' : Gateway δ μ} (hg : g.Idle) (hs : g.Step g') : g'.Idle := by
  cases hs with
  | start =>
    unfold Gateway.start
    split
    · exact hg
    · have hintake : ∀ t ∈ [GatewayTask.intake], t.isCommand = false := by decide
      refine ⟨fun t ht => ?_, hg.sleeping⟩
      exact (List.mem_append.1 ht).elim (hg.calmed t) (hintake t)
  | stop force => exact hg.stop force
  | get key command => exact hg.get key
  | getAll command => exact (hg.getAll command).1
  | put key command parameters =>
    exact idle_enduring.put hg fun _ _ _ _ => ⟨hg.calmed, hg.sleeping⟩
  | push b => exact (elsewhere_feed.push g b).toProceeds.idle hg
  | release => exact (elsewhere_feed.release g).toProceeds.idle hg
  | settle => exact idle_enduring.settle hg
  | pass ms => exact idle_enduring.pass hg ms
  | removeDevice id =>
    unfold Gateway.removeDevice
    split
    · exact hg
    · split
      · exact hg
      · exact ⟨hg.calmed, hg.sleeping⟩
  | setLocked | reserve | manage | drive => exact ⟨hg.calmed, hg.sleeping⟩

theorem Reachable.idle (hg : g.Reachable) : g.Idle := by
  induction hg with
  | new settings driver source publisher epoch => exact ⟨by simp [Calmed], rfl⟩
  | step _ hs ih => exact ih.step hs

end DeviceGateway.Gateway
