import DeviceGateway.Profile.Codec
import DeviceGateway.Proofs.Json.Record
import DeviceGateway.Proofs.Table

/-! What is encoded is decoded again: the containers undo their encoding if the decoders of what is
in them do, and a record that is written with all its fields, in their order, is read back if each
field is. -/

namespace DeviceGateway.Json

variable {α β : Type}

/-! ### Scalars and containers -/

theorem text_encode (s : String) : text (.string s) = .ok s := rfl

theorem integerIn_encode {low high n : Int} (name : String) (hlow : low ≤ n) (hhigh : n ≤ high) :
    integerIn low high name (.integer n) = .ok n := by
  simp [integerIn, Decoder.scalar, Schema.scalarFault?, hlow, hhigh]

theorem port_encode (n : UInt16) : port (.integer n.toNat) = .ok n := by
  have hhigh : (n.toNat : Int) ≤ 65535 := by
    have := n.toNat_lt
    omega
  exact map_eq_ok.2 ⟨_, integerIn_encode "u16" (Int.natCast_nonneg _) hhigh, by simp⟩

theorem epoch_encode (n : Int64) : epoch (.integer n.toInt) = .ok n := by
  have hhigh : n.toInt ≤ 2 ^ 63 - 1 := by
    have := n.toInt_lt
    omega
  exact map_eq_ok.2 ⟨_, integerIn_encode "i64" n.le_toInt hhigh, by simp⟩

theorem list_encode {d : Decoder α} {encode : α → Json} (h : ∀ a, d (encode a) = .ok a)
    (as : List α) : list d (.array (as.map encode)) = .ok as := by
  refine mapM_eq_ok.2 ?_
  rw [List.forall₂_map_left_iff, List.forall₂_same]
  exact fun a _ => h a

theorem table_encode {d : Decoder α} {encode : α → Json} (h : ∀ a, d (encode a) = .ok a)
    (t : Table α) : table d (t.encode encode) = .ok t := by
  have hadd : ∀ (u : Table α) (e : String × α),
      (d (encode e.2)).map (fun a => u.insert e.1 a) = Pure.pure (u.insert e.1 e.2) := by
    intro u e
    rw [h]
    rfl
  change (t.entries.map fun e => (e.1, encode e.2)).foldlM
    (fun u m => (d m.2).map fun a => u.insert m.1 a) Table.empty = .ok t
  simp only [List.foldlM_map, hadd, List.foldlM_pure]
  exact congrArg Except.ok t.ofList_entries

/-! ### Records -/

namespace Shape

/-- The members are a record's fields, in their order, and the record is built from them. -/
structure Writes (s : Shape α) (a : α) (ms : List (String × Json)) : Prop where
  names : ms.map (·.1) = s.fields.map (·.name)
  check : ∀ m ∈ ms, ∃ f ∈ s.fields, f.name = m.1 ∧ f.check m.2 = .ok ()
  build : ∀ get, (∀ m ∈ ms, get m.1 = some m.2) → s.build get = .ok a

namespace Writes

variable {name : String} {d : Decoder α} {a : α} {j : Json}

theorem pure (a : α) : (Shape.pure a).Writes a [] := ⟨rfl, nofun, fun _ _ => rfl⟩

theorem and {s : Shape (α → β)} {t : Shape α} {g : α → β} {ms ns : List (String × Json)}
    (hs : s.Writes g ms) (ht : t.Writes a ns) : (s.and t).Writes (g a) (ms ++ ns) where
  names := by rw [List.map_append, hs.names, ht.names, Shape.and, List.map_append]
  check m hm := by
    rcases List.mem_append.1 hm with hm | hm
    · obtain ⟨f, hf, hfield⟩ := hs.check m hm
      exact ⟨f, List.mem_append_left _ hf, hfield⟩
    · obtain ⟨f, hf, hfield⟩ := ht.check m hm
      exact ⟨f, List.mem_append_right _ hf, hfield⟩
  build get hget := by
    have hg := hs.build get fun m hm => hget m (List.mem_append_left _ hm)
    have ha := ht.build get fun m hm => hget m (List.mem_append_right _ hm)
    exact bind_eq_ok.2 ⟨g, hg, bind_eq_ok.2 ⟨a, ha, rfl⟩⟩

theorem required (h : d j = .ok a) : (Shape.required name d).Writes a [(name, j)] where
  names := rfl
  check := by simp [Shape.required, h, Except.map]
  build get hget := by simpa [Shape.required, hget (name, j)] using h

theorem optional {default : α} (h : d j = .ok a) :
    (Shape.optional name default d).Writes a [(name, j)] where
  names := rfl
  check := by simp [Shape.optional, h, Except.map]
  build get hget := by simpa [Shape.optional, hget (name, j)] using h

/-- A record whose fields have different names is read back from the object of its members. -/
theorem decode {s : Shape α} {ms : List (String × Json)} (h : s.Writes a ms)
    (hnames : (s.fields.map (·.name)).Nodup) : s.decode name (.object ms) = .ok a := by
  have hkeys : (ms.map (·.1)).Nodup := h.names ▸ hnames
  refine decode_object_eq_ok.2 ⟨visit_eq_ok.2 ⟨hkeys.filter _, by simp, fun m hm f hf => ?_⟩, ?_⟩
  · obtain ⟨hmem, hname⟩ := rule?_eq_some hf
    obtain ⟨f', hmem', hname', hcheck⟩ := h.check m hm
    rwa [List.inj_on_of_nodup_map hnames hmem hmem' (hname.trans hname'.symm)]
  · exact h.build _ fun m hm => lookUp_of_mem hkeys hm

end Writes

end Shape

end DeviceGateway.Json
