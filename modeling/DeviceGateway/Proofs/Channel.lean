import DeviceGateway.Channel

/-! What a channel lets in: it keeps what it has, takes no more than there is room for, and
takes nothing once it is closed. -/

namespace DeviceGateway.Channel

variable {α : Type} {c : Channel α}

/-- Everything that waits has its slot, and everything reserved too. -/
def Fits (c : Channel α) : Prop := c.queue.length + c.held ≤ c.capacity

theorem Fits.length_le (h : c.Fits) : c.queue.length ≤ c.capacity :=
  Nat.le_trans (Nat.le_add_right ..) h

/-! ### Closed channels -/

theorem offer_of_closed (h : c.closed = true) : c.offer = .closed := by
  rw [offer, if_pos h]

theorem fill_of_closed (h : c.closed = true) (as : List α) : c.fill as = (c, as) := by
  cases as with
  | nil => rfl
  | cons a as => rw [fill, offer_of_closed h, if_neg (by decide)]

/-! ### What is taken -/

theorem take?_eq_some {p : α × Channel α} (h : c.take? = some p) :
    c.queue = p.1 :: p.2.queue ∧ p.2.closed = c.closed := by
  unfold take? at h
  split at h <;> cases h
  next hq => exact ⟨hq, rfl⟩

theorem take?_eq_none : c.take? = none ↔ c.queue = [] := by
  unfold take?
  split <;> simp [*]

theorem isDone_iff : c.isDone = true ↔ c.closed = true ∧ c.queue = [] ∧ c.held = 0 := by
  simp [isDone, and_assoc]

/-! ### Room -/

theorem room_of_accepted (h : c.offer = .accepted) : c.queue.length + c.held < c.capacity := by
  unfold offer at h
  split at h
  · cases h
  · split at h
    · next hroom => simpa [hasRoom] using hroom
    · cases h

theorem send_of_accepted {a : α} (h : c.offer = .accepted) :
    c.send a = { c with queue := c.queue ++ [a] } := by
  rw [send, if_pos h]

/-- What a channel is filled with comes after what waits. -/
theorem fill_queue (c : Channel α) (as : List α) :
    (c.fill as).1.capacity = c.capacity ∧ c.queue <+: (c.fill as).1.queue := by
  induction as generalizing c with
  | nil => exact ⟨rfl, List.prefix_rfl⟩
  | cons a as ih =>
    rw [fill]
    split
    · next h =>
      obtain ⟨hcapacity, hqueue⟩ := ih (c.send a)
      rw [send_of_accepted h] at hcapacity hqueue ⊢
      exact ⟨hcapacity, (List.prefix_append c.queue [a]).trans hqueue⟩
    · exact ⟨rfl, List.prefix_rfl⟩

theorem fill_closed (c : Channel α) (as : List α) : (c.fill as).1.closed = c.closed := by
  induction as generalizing c with
  | nil => rfl
  | cons a as ih =>
    rw [fill]
    split
    · next h => rw [ih, send_of_accepted h]
    · rfl

/-- What does not find room is left over. -/
theorem fill_length (c : Channel α) (as : List α) :
    (c.fill as).1.queue.length + (c.fill as).2.length = c.queue.length + as.length := by
  induction as generalizing c with
  | nil => rfl
  | cons a as ih =>
    rw [fill]
    split
    · next h =>
      have hrest := ih (c.send a)
      rw [send_of_accepted h] at hrest ⊢
      rw [hrest, List.length_append, List.length_singleton, List.length_cons]
      omega
    · rfl

namespace Fits

theorem ofCapacity (n : Nat) : (ofCapacity (α := α) n).Fits := Nat.zero_le _

theorem send (h : c.Fits) (a : α) : (c.send a).Fits := by
  by_cases ho : c.offer = .accepted
  · have hroom := room_of_accepted ho
    rw [send_of_accepted ho]
    simp only [Fits, List.length_append, List.length_singleton]
    omega
  · rw [Channel.send, if_neg ho]
    exact h

theorem reserve (h : c.Fits) : c.reserve.Fits := by
  unfold Channel.reserve
  split
  · next ho => exact Nat.succ_le_of_lt (room_of_accepted ho)
  · exact h

theorem release (h : c.Fits) : c.release.Fits := h.length_le

theorem take? (h : c.Fits) {p : α × Channel α} (hp : c.take? = some p) : p.2.Fits := by
  unfold Channel.take? at hp
  split at hp <;> cases hp
  next a as hq =>
  unfold Fits at h ⊢
  simp only [hq, List.length_cons] at h ⊢
  omega

theorem fill (h : c.Fits) (as : List α) : (c.fill as).1.Fits := by
  induction as generalizing c with
  | nil => exact h
  | cons a as ih =>
    rw [Channel.fill]
    split
    · exact ih (h.send a)
    · exact h

end Fits

end DeviceGateway.Channel
