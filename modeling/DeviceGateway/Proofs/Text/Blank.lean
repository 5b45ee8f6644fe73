import DeviceGateway.Text.Basic
import Mathlib.Data.List.TakeWhile

/-! Blanks around a text. A text is trimmed to what stands between the blanks at its ends, which is
the only way to take it as blanks around something that has none. -/

namespace DeviceGateway.Text

/-- The text is `cs` with blanks before and behind it. -/
def Pads (text cs : List Char) : Prop :=
  ∃ before after, (∀ c ∈ before ++ after, isBlank c) ∧ text = before ++ cs ++ after

theorem isBlank_of_isDigit {c : Char} (h : c.isDigit) : isBlank c = false := by
  simp only [Char.isDigit, Bool.and_eq_true, decide_eq_true_eq, ge_iff_le,
    UInt32.le_iff_toNat_le] at h
  have hlow : 48 ≤ c.toNat := h.1
  have hhigh : c.toNat ≤ 57 := h.2
  simp [isBlank]
  omega

theorem dropWhile_isBlank {cs : List Char} (h : ∀ c ∈ cs, isBlank c = false) :
    cs.dropWhile isBlank = cs := by
  cases cs with
  | nil => rfl
  | cons c cs => simp [h c]

/-- Blanks at either end are trimmed away. -/
theorem Pads.trim_eq {text cs : List Char} (h : Pads text cs)
    (hcs : ∀ c ∈ cs, isBlank c = false) : trim text = cs := by
  obtain ⟨before, after, hblank, rfl⟩ := h
  have hbefore : ∀ c ∈ before, isBlank c := fun c hc => hblank c (List.mem_append_left _ hc)
  have hafter : ∀ c ∈ after.reverse, isBlank c := fun c hc =>
    hblank c (List.mem_append_right _ (List.mem_reverse.1 hc))
  have hreverse : ∀ c ∈ cs.reverse, isBlank c = false := fun c hc => hcs c (List.mem_reverse.1 hc)
  rw [trim, List.append_assoc, List.dropWhile_append_of_pos hbefore]
  cases cs with
  | nil =>
    have hnone : after.dropWhile isBlank = [] :=
      List.dropWhile_eq_nil_iff.2 fun c hc => hafter c (List.mem_reverse.2 hc)
    rw [List.nil_append, hnone]
    rfl
  | cons c cs =>
    have hkept : (c :: cs ++ after).dropWhile isBlank = c :: cs ++ after := by simp [hcs c]
    rw [hkept, List.reverse_append, List.dropWhile_append_of_pos hafter,
      dropWhile_isBlank hreverse, List.reverse_reverse]

/-- Nothing is trimmed where nothing is blank. -/
theorem trim_eq_self {cs : List Char} (h : ∀ c ∈ cs, isBlank c = false) : trim cs = cs :=
  Pads.trim_eq ⟨[], [], by simp, by simp⟩ h

/-- Nothing else is trimmed away. -/
theorem pads_trim (text : List Char) : Pads text (trim text) := by
  let rest := (text.dropWhile isBlank).reverse
  refine ⟨text.takeWhile isBlank, (rest.takeWhile isBlank).reverse, fun c hc => ?_, ?_⟩
  · rcases List.mem_append.1 hc with hc | hc
    · exact List.mem_takeWhile_imp hc
    · exact List.mem_takeWhile_imp (List.mem_reverse.1 hc)
  · have hrest : text.dropWhile isBlank =
        (rest.dropWhile isBlank).reverse ++ (rest.takeWhile isBlank).reverse := by
      rw [← List.reverse_append, List.takeWhile_append_dropWhile, List.reverse_reverse]
    rw [List.append_assoc, trim, ← hrest, List.takeWhile_append_dropWhile]

end DeviceGateway.Text
