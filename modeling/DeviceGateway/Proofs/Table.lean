import DeviceGateway.Table

/-! Tables through their look-ups. Each operation is described by what a look-up finds
afterwards, and the values of a table are what its look-ups find. -/

namespace DeviceGateway.Table

variable {α : Type}

/-! ### Operations -/

@[simp] theorem get?_empty (k : String) : (∅ : Table α).get? k = none := rfl

theorem find?_insertEntry (k k' : String) (v : α) (es : List (String × α)) :
    ((insertEntry k v es).find? (·.1 = k')).map (·.2) =
      if k' = k then some v else (es.find? (·.1 = k')).map (·.2) := by
  fun_induction insertEntry k v es <;> grind

theorem get?_insert (t : Table α) (k k' : String) (v : α) :
    (t.insert k v).get? k' = if k' = k then some v else t.get? k' :=
  find?_insertEntry k k' v t.entries

@[simp] theorem get?_insert_self (t : Table α) (k : String) (v : α) :
    (t.insert k v).get? k = some v := by
  rw [get?_insert, if_pos rfl]

theorem get?_erase (t : Table α) (k k' : String) :
    (t.erase k).get? k' = if k' = k then none else t.get? k' := by
  simp only [get?, erase, List.find?_filter]
  split
  · next h =>
    subst h
    simp
  · next h =>
    congr 2
    funext e
    by_cases he : e.1 = k' <;> simp [he, h]

theorem get?_insert_erase (t : Table α) (k k' : String) (v : α) :
    ((t.erase k).insert k v).get? k' = (t.insert k v).get? k' := by
  rw [get?_insert, get?_insert, get?_erase]
  split <;> rfl

theorem get?_insertNew (t : Table α) (k k' : String) (v : α) :
    (t.insertNew k v).get? k' = (t.get? k').or (if k' = k then some v else none) := by
  unfold insertNew contains
  cases h : t.get? k with
  | some w =>
    rw [if_pos (Option.isSome_some)]
    by_cases hk : k' = k <;> simp [hk, h]
  | none =>
    rw [if_neg (by simp), get?_insert]
    by_cases hk : k' = k <;> simp [hk, h]

/-! ### Many insertions -/

theorem get?_foldl_insert (es : List (String × α)) (t : Table α) (k : String) :
    (es.foldl (fun t e => t.insert e.1 e.2) t).get? k =
      ((es.reverse.find? (·.1 = k)).map (·.2)).or (t.get? k) := by
  induction es generalizing t with
  | nil => simp
  | cons e es ih =>
    rw [List.foldl_cons, ih, get?_insert, List.reverse_cons, List.find?_append]
    cases es.reverse.find? (·.1 = k) with
    | some e' => rfl
    | none => by_cases hk : k = e.1 <;> simp [hk, Ne.symm]

/-- Of entries with one key the last counts. -/
theorem get?_ofList (es : List (String × α)) (k : String) :
    (ofList es).get? k = (es.reverse.find? (·.1 = k)).map (·.2) := by
  rw [ofList, get?_foldl_insert, show (empty : Table α).get? k = none from rfl, Option.or_none]

/-- Of values with one key the first counts. -/
theorem get?_foldl_insertNew (key : α → String) (vs : List α) (t : Table α) (k : String) :
    (vs.foldl (fun t v => t.insertNew (key v) v) t).get? k =
      (t.get? k).or (vs.find? (key · = k)) := by
  induction vs generalizing t with
  | nil => simp
  | cons v vs ih =>
    rw [List.foldl_cons, ih, get?_insertNew, Option.or_assoc, List.find?_cons]
    by_cases hk : k = key v <;> simp [hk, Ne.symm]

/-- What is found in a table made of a list is in the list. -/
theorem mem_of_get?_ofList {es : List (String × α)} {k : String} {v : α}
    (h : (ofList es).get? k = some v) : (k, v) ∈ es := by
  rw [get?_ofList] at h
  obtain ⟨e, he, rfl⟩ := Option.map_eq_some_iff.1 h
  have hk : e.1 = k := by simpa using List.find?_some he
  exact hk ▸ List.mem_reverse.1 (List.mem_of_find?_eq_some he)

theorem contains_eq_false {t : Table α} {k : String} (h : ¬t.contains k) : t.get? k = none := by
  simpa [contains] using h

/-! ### Entries -/

theorem eq_of_mem_entries {k : String} {v w : α} :
    ∀ {es : List (String × α)}, es.Pairwise (fun a b => a.1 < b.1) →
      (k, v) ∈ es → (k, w) ∈ es → v = w
  | [], _, hv, _ => by simp at hv
  | e :: es, h, hv, hw => by
    obtain ⟨hlt, hes⟩ := List.pairwise_cons.1 h
    rcases List.mem_cons.1 hv with rfl | hv' <;> rcases List.mem_cons.1 hw with hw' | hw'
    · exact (congrArg Prod.snd hw').symm
    · exact absurd (hlt (k, w) hw') (String.lt_irrefl k)
    · subst hw'
      exact absurd (hlt (k, v) hv') (String.lt_irrefl k)
    · exact eq_of_mem_entries hes hv' hw'

theorem get?_eq_some_iff {t : Table α} {k : String} {v : α} :
    t.get? k = some v ↔ (k, v) ∈ t.entries := by
  constructor
  · intro h
    obtain ⟨e, he, rfl⟩ := Option.map_eq_some_iff.1 h
    have hk : e.1 = k := by simpa using List.find?_some he
    exact hk ▸ List.mem_of_find?_eq_some he
  · intro h
    obtain ⟨e, he⟩ : ∃ e, t.entries.find? (·.1 = k) = some e :=
      Option.isSome_iff_exists.1 (List.find?_isSome.2 ⟨_, h, by simp⟩)
    have hk : e.1 = k := by simpa using List.find?_some he
    have hv : e.2 = v := eq_of_mem_entries t.ascending (hk ▸ List.mem_of_find?_eq_some he) h
    rw [get?, he, Option.map_some, hv]

theorem mem_values {t : Table α} {v : α} : v ∈ t.values ↔ ∃ k, t.get? k = some v := by
  simp only [values, List.mem_map, get?_eq_some_iff]
  exact ⟨fun ⟨e, he, hv⟩ => ⟨e.1, hv ▸ he⟩, fun ⟨k, hk⟩ => ⟨(k, v), hk, rfl⟩⟩

theorem entries_nodup (t : Table α) : t.entries.Nodup := by
  apply t.ascending.imp
  rintro a b hlt rfl
  exact String.lt_irrefl a.1 hlt

/-- Under a free key a value comes beside the others. -/
theorem values_insert_perm {t : Table α} {k : String} (h : t.get? k = none) (v : α) :
    (t.insert k v).values.Perm (t.values ++ [v]) := by
  have hfree : ∀ es : List (String × α), (∀ w, (k, w) ∉ es) →
      (insertEntry k v es).Perm ((k, v) :: es) := by
    intro es hes
    fun_induction insertEntry k v es with
    | case1 => exact .refl _
    | case2 w es => exact absurd List.mem_cons_self (hes w)
    | case3 => exact .refl _
    | case4 k' w es _ _ ih =>
      exact ((ih fun w' hw' => hes w' (List.mem_cons_of_mem _ hw')).cons _).trans (.swap ..)
  have hentries : (t.insert k v).entries.Perm ((k, v) :: t.entries) := by
    refine hfree t.entries fun w hw => ?_
    rw [get?_eq_some_iff.2 hw] at h
    cases h
  exact (hentries.map Prod.snd).trans (List.perm_append_singleton v t.values).symm

/-- Tables with the same look-ups are the same. -/
theorem eq_of_get?_eq {t t' : Table α} (h : ∀ k, t.get? k = t'.get? k) : t = t' := by
  have hperm : t.entries.Perm t'.entries := by
    refine (List.perm_ext_iff_of_nodup t.entries_nodup t'.entries_nodup).2 fun e => ?_
    rw [← get?_eq_some_iff, ← get?_eq_some_iff, h]
  have hentries : t.entries = t'.entries := by
    refine hperm.eq_of_pairwise (fun a b _ _ hab hba => ?_) t.ascending t'.ascending
    exact absurd (String.lt_trans hab hba) (String.lt_irrefl _)
  cases t
  cases t'
  cases hentries
  rfl

/-- A table is made again of its entries. -/
theorem ofList_entries (t : Table α) : ofList t.entries = t := by
  refine eq_of_get?_eq fun k => Option.ext fun v => ⟨fun h => ?_, fun h => ?_⟩
  · exact get?_eq_some_iff.2 (mem_of_get?_ofList h)
  · have hmem : (k, v) ∈ t.entries := get?_eq_some_iff.1 h
    obtain ⟨w, hw⟩ : ∃ w, (ofList t.entries).get? k = some w := by
      rw [get?_ofList, ← Option.isSome_iff_exists, Option.isSome_map, List.find?_isSome]
      exact ⟨(k, v), List.mem_reverse.2 hmem, by simp⟩
    rw [hw, eq_of_mem_entries t.ascending hmem (mem_of_get?_ofList hw)]

end DeviceGateway.Table
