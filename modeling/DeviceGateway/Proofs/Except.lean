import Mathlib.Data.List.Forall2

/-! Computations that may fail, taken apart: when a sequence of steps succeeds, and at
which of them it fails. -/

namespace DeviceGateway

variable {ε α β γ : Type}

theorem bind_eq_ok {x : Except ε α} {f : α → Except ε β} {b : β} :
    (x >>= f) = .ok b ↔ ∃ a, x = .ok a ∧ f a = .ok b := by
  cases x <;> simp [bind, Except.bind]

theorem bind_eq_error {x : Except ε α} {f : α → Except ε β} {e : ε} :
    (x >>= f) = .error e ↔ x = .error e ∨ ∃ a, x = .ok a ∧ f a = .error e := by
  cases x <;> simp [bind, Except.bind]

theorem pure_eq_ok {a b : α} : (pure a : Except ε α) = .ok b ↔ a = b := by
  simp [pure, Except.pure]

theorem toOption_eq_some {x : Except ε α} {a : α} : x.toOption = some a ↔ x = .ok a := by
  cases x <;> simp [Except.toOption]

theorem map_eq_ok {f : α → β} {x : Except ε α} {b : β} :
    x.map f = .ok b ↔ ∃ a, x = .ok a ∧ f a = b := by
  cases x <;> simp [Except.map]

theorem map_eq_error {f : α → β} {x : Except ε α} {e : ε} : x.map f = .error e ↔ x = .error e := by
  cases x <;> simp [Except.map]

/-- Two computations of which the same is seen fail alike, or both succeed. -/
theorem map_eq_map {f : α → γ} {g : β → γ} {x : Except ε α} {y : Except ε β}
    (h : x.map f = y.map g) : (∃ e, x = .error e ∧ y = .error e) ∨
      ∃ a b, x = .ok a ∧ y = .ok b ∧ f a = g b := by
  cases x <;> cases y <;> simp_all [Except.map]

/-! ### One step for each element of a list -/

theorem mapM_eq_ok {f : α → Except ε β} {as : List α} {bs : List β} :
    as.mapM f = .ok bs ↔ List.Forall₂ (fun a b => f a = .ok b) as bs := by
  induction as generalizing bs with
  | nil => cases bs <;> simp [pure_eq_ok]
  | cons a as ih =>
    simp only [List.mapM_cons, bind_eq_ok, pure_eq_ok, ih, List.forall₂_cons_left_iff]
    constructor
    · rintro ⟨b, hb, cs, hcs, rfl⟩
      exact ⟨b, cs, hb, hcs, rfl⟩
    · rintro ⟨b, cs, hb, hcs, rfl⟩
      exact ⟨b, hb, cs, hcs, rfl⟩

/-- The failure is that of the first element that fails. -/
theorem mapM_eq_error {f : α → Except ε β} {as : List α} {e : ε} :
    as.mapM f = .error e ↔ ∃ before a after, as = before ++ a :: after ∧
      (∀ a' ∈ before, ∃ b, f a' = .ok b) ∧ f a = .error e := by
  induction as with
  | nil => simp [pure, Except.pure]
  | cons a as ih =>
    simp only [List.mapM_cons, bind_eq_error, ih]
    constructor
    · rintro (h | ⟨b, hb, ⟨before, a', after, rfl, hbefore, h⟩ | ⟨bs, -, h⟩⟩)
      · exact ⟨[], a, as, rfl, by simp, h⟩
      · refine ⟨a :: before, a', after, rfl, ?_, h⟩
        rintro c hc
        rcases List.mem_cons.1 hc with rfl | hc
        · exact ⟨b, hb⟩
        · exact hbefore c hc
      · cases h
    · rintro ⟨before, a', after, heq, hbefore, h⟩
      rcases before with _ | ⟨c, before⟩
      · obtain ⟨rfl, rfl⟩ := List.cons.inj heq
        exact .inl h
      · obtain ⟨rfl, rfl⟩ := List.cons.inj heq
        obtain ⟨b, hb⟩ := hbefore a (by simp)
        exact .inr ⟨b, hb, .inl ⟨before, a', after, rfl,
          fun c hc => hbefore c (by simp [hc]), h⟩⟩

/-- Steps of which the same is seen, one by one, give lists of which the same is seen. -/
theorem mapM_map_congr {f g : α → Except ε β} {view : β → γ} (as : List α)
    (h : ∀ a ∈ as, (f a).map view = (g a).map view) :
    (as.mapM f).map (List.map view) = (as.mapM g).map (List.map view) := by
  induction as with
  | nil => rfl
  | cons a as ih =>
    have hrest := ih fun a' ha' => h a' (List.mem_cons_of_mem a ha')
    simp only [List.mapM_cons]
    rcases map_eq_map (h a List.mem_cons_self) with ⟨e, hf, hg⟩ | ⟨b, c, hf, hg, hsame⟩
    · rw [hf, hg]
      rfl
    · rcases map_eq_map hrest with ⟨e, hfs, hgs⟩ | ⟨bs, cs, hfs, hgs, hsames⟩
      · rw [hf, hg, hfs, hgs]
        rfl
      · rw [hf, hg, hfs, hgs]
        exact congrArg Except.ok (congrArg₂ List.cons hsame hsames)

end DeviceGateway
