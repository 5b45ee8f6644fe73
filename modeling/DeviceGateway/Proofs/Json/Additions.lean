import DeviceGateway.Proofs.Json.Record
import Mathlib.Logic.Relation

/-! Members that are no fields. One may be added to any object that stands where the schema has a
record, at any depth. A decoder is tolerant if that never changes what it accepts, and every decoder
that is put together from the ones here is. -/

namespace DeviceGateway.Json

open Relation (ReflGen ReflTransGen)

/-- From the first value to the second one member was added that is no field of the record in whose
object it stands. -/
inductive Adds : Schema → Json → Json → Prop
  | member {name fields before after k v} (hunknown : k ∉ fields.map (·.1)) :
      Adds (.record name fields) (.object (before ++ after)) (.object (before ++ (k, v) :: after))
  | field {name fields before after k required schema j j'}
      (hfield : (k, required, schema) ∈ fields) (hadds : Adds schema j j') :
      Adds (.record name fields) (.object (before ++ (k, j) :: after))
        (.object (before ++ (k, j') :: after))
  /-- A record may also be an array, of its fields in order. -/
  | place {name fields items items' k required schema j j'}
      (hplace : fields[items.length]? = some (k, required, schema)) (hadds : Adds schema j j') :
      Adds (.record name fields) (.array (items ++ j :: items')) (.array (items ++ j' :: items'))
  | item {schema items items' j j'} (hadds : Adds schema j j') :
      Adds (.list schema) (.array (items ++ j :: items')) (.array (items ++ j' :: items'))
  | entry {schema before after k j j'} (hadds : Adds schema j j') :
      Adds (.table schema) (.object (before ++ (k, j) :: after))
        (.object (before ++ (k, j') :: after))

/-- A member more does not change what is accepted. -/
class Decoder.Tolerant {α : Type} (d : Decoder α) : Prop where
  accepts : ∀ ⦃j j' a⦄, Adds d.schema j j' → d j = .ok a → d j' = .ok a

/-- A list with one element in place of another. -/
theorem forall₂_replace {α : Type} {R : α → α → Prop} (hrefl : ∀ a, R a a) {a a' : α} (h : R a a')
    (before after : List α) : List.Forall₂ R (before ++ a :: after) (before ++ a' :: after) :=
  List.rel_append (List.forall₂_same.2 fun a _ => hrefl a)
    (.cons h (List.forall₂_same.2 fun a _ => hrefl a))

theorem split_of_getElem? {α : Type} {as : List α} {n : Nat} {a : α} (h : as[n]? = some a) :
    ∃ before after, as = before ++ a :: after ∧ before.length = n := by
  obtain ⟨hn, rfl⟩ := List.getElem?_eq_some_iff.1 h
  refine ⟨as.take n, as.drop (n + 1), ?_, List.length_take_of_le (Nat.le_of_lt hn)⟩
  rw [← List.drop_eq_getElem_cons hn, List.take_append_drop]

namespace Decoder.Tolerant

variable {α : Type} (d : Decoder α) [d.Tolerant]

/-- Neither do many members more. -/
theorem accepts_many {j j' : Json} {a : α} (h : ReflTransGen (Adds d.schema) j j')
    (hok : d j = .ok a) : d j' = .ok a := by
  induction h with
  | refl => exact hok
  | tail _ hadds ih => exact accepts hadds ih

/-! ### Scalars and containers -/

instance : Json.text.Tolerant := ⟨nofun⟩

instance : Json.anything.Tolerant := ⟨nofun⟩

instance : Json.port.Tolerant := ⟨nofun⟩

instance : Json.epoch.Tolerant := ⟨nofun⟩

instance (names : List (String × α)) : (Json.variant names).Tolerant := ⟨nofun⟩

instance : (Json.list d).Tolerant := by
  refine ⟨fun j j' as hadds hok => ?_⟩
  cases hadds with
  | @item _ items items' j j' hadds =>
    change (items ++ j :: items').mapM d.run = .ok as at hok
    change (items ++ j' :: items').mapM d.run = .ok as
    simp only [List.mapM_append, List.mapM_cons, bind_eq_ok] at hok ⊢
    obtain ⟨bs, hbs, cs, ⟨a, ha, hrest⟩, has⟩ := hok
    exact ⟨bs, hbs, cs, ⟨a, Decoder.Tolerant.accepts hadds ha, hrest⟩, has⟩

instance : (Json.table d).Tolerant := by
  refine ⟨fun j j' t hadds hok => ?_⟩
  cases hadds with
  | @entry _ before after k j j' hadds =>
    let add (t : Table α) (m : String × Json) : Except DecodeCause (Table α) :=
      (d m.2).map fun a => t.insert m.1 a
    change (before ++ (k, j) :: after).foldlM add Table.empty = .ok t at hok
    change (before ++ (k, j') :: after).foldlM add Table.empty = .ok t
    simp only [List.foldlM_append, List.foldlM_cons, bind_eq_ok] at hok ⊢
    obtain ⟨u, hu, w, hw, hrest⟩ := hok
    obtain ⟨a, ha, rfl⟩ := map_eq_ok.1 hw
    exact ⟨u, hu, _, map_eq_ok.2 ⟨a, Decoder.Tolerant.accepts hadds ha, rfl⟩, hrest⟩

end Decoder.Tolerant

/-! ### Records -/

namespace Shape

variable {α β : Type}

/-- A member more within the value of a field changes neither the check of the field nor the record
that is built. -/
class Tolerant (s : Shape α) : Prop where
  check : ∀ f ∈ s.fields, ∀ ⦃j j'⦄, Adds f.schema j j' → f.check j = .ok () → f.check j' = .ok ()
  build : ∀ ⦃get get' a⦄,
    (∀ f ∈ s.fields, Option.Rel (ReflGen (Adds f.schema)) (get f.name) (get' f.name)) →
    s.build get = .ok a → s.build get' = .ok a

namespace Tolerant

instance (a : α) : (Shape.pure a).Tolerant := ⟨nofun, fun _ _ _ _ hok => hok⟩

instance (s : Shape (α → β)) (t : Shape α) [s.Tolerant] [t.Tolerant] : (s.and t).Tolerant where
  check f hf := (List.mem_append.1 hf).elim (check f) (check f)
  build get get' b hget hok := by
    obtain ⟨g, hg, hrest⟩ := bind_eq_ok.1 hok
    obtain ⟨a, ha, hb⟩ := bind_eq_ok.1 hrest
    have hg' := build (fun f hf => hget f (List.mem_append_left _ hf)) hg
    have ha' := build (fun f hf => hget f (List.mem_append_right _ hf)) ha
    exact bind_eq_ok.2 ⟨g, hg', bind_eq_ok.2 ⟨a, ha', hb⟩⟩

section Field

variable (d : Decoder α) [d.Tolerant]

theorem check_field {j j' : Json} (hadds : Adds d.schema j j')
    (hok : (d j).map (fun _ => ()) = .ok ()) : (d j').map (fun _ => ()) = .ok () := by
  obtain ⟨a, ha, -⟩ := map_eq_ok.1 hok
  exact map_eq_ok.2 ⟨a, Decoder.Tolerant.accepts hadds ha, rfl⟩

theorem build_field {x x' : Option Json} {absent : Except DecodeCause α} {a : α}
    (h : Option.Rel (ReflGen (Adds d.schema)) x x')
    (hok : (match x with | some j => d j | none => absent) = .ok a) :
    (match x' with | some j => d j | none => absent) = .ok a := by
  cases h with
  | none => exact hok
  | some h =>
    cases h with
    | refl => exact hok
    | single hadds => exact Decoder.Tolerant.accepts hadds hok

instance (name : String) : (Shape.required name d).Tolerant where
  check f hf j j' := by
    obtain rfl := List.mem_singleton.1 hf
    exact check_field d
  build get get' a hget := build_field d (hget _ (List.mem_singleton_self _))

instance (name : String) (default : α) : (Shape.optional name default d).Tolerant where
  check f hf j j' := by
    obtain rfl := List.mem_singleton.1 hf
    exact check_field d
  build get get' a hget := build_field d (hget _ (List.mem_singleton_self _))

end Field

/-! ### Members and items -/

section Decode

variable {s : Shape α} (hnames : (s.fields.map (·.name)).Nodup)

/-- The second value has a member more than the first, or none, if it is the value of a field. -/
def Grown (s : Shape α) (k : String) (j j' : Json) : Prop :=
  ∀ f ∈ s.fields, f.name = k → ReflGen (Adds f.schema) j j'

include hnames in
theorem grown_of_adds {f : FieldRule} (hf : f ∈ s.fields) {j j' : Json}
    (hadds : Adds f.schema j j') : Grown s f.name j j' := by
  intro f' hf' hname
  rw [List.inj_on_of_nodup_map hnames hf' hf hname]
  exact .single hadds

variable [s.Tolerant]

include hnames in
theorem build_replace {f : FieldRule} (hf : f ∈ s.fields) {j j' : Json}
    (hadds : Adds f.schema j j') {before after : List (String × Json)} {a : α}
    (hok : s.build (lookUp (before ++ (f.name, j) :: after)) = .ok a) :
    s.build (lookUp (before ++ (f.name, j') :: after)) = .ok a := by
  have hgrown : List.Forall₂ (fun m m' => m.1 = m'.1 ∧ Grown s m.1 m.2 m'.2)
      (before ++ (f.name, j) :: after) (before ++ (f.name, j') :: after) :=
    forall₂_replace (fun _ => ⟨rfl, fun _ _ _ => .refl⟩) ⟨rfl, grown_of_adds hnames hf hadds⟩ _ _
  refine Tolerant.build (fun f hf => ?_) hok
  have hrel := lookUp_rel hgrown f.name
  revert hrel
  generalize lookUp _ f.name = x, lookUp _ f.name = x'
  rintro (h | _)
  · exact .some (h f hf rfl)
  · exact .none

variable {name : String} {a : α}

/-- A member that is no field is passed over. -/
theorem decode_member {before after : List (String × Json)} {k : String} {v : Json}
    (hunknown : k ∉ s.fields.map (·.name))
    (hok : s.decode name (.object (before ++ after)) = .ok a) :
    s.decode name (.object (before ++ (k, v) :: after)) = .ok a := by
  obtain ⟨hvisit, hbuild⟩ := decode_object_eq_ok.1 hok
  obtain ⟨hnodup, hseen, hcheck⟩ := visit_eq_ok.1 hvisit
  have hrule : rule? s.fields k = none := by
    rwa [← Option.not_isSome_iff_eq_none, rule?_isSome]
  have hgiven : given s.fields (before ++ (k, v) :: after) = given s.fields (before ++ after) := by
    simp [given, hrule]
  refine decode_object_eq_ok.2 ⟨visit_eq_ok.2 ⟨hgiven ▸ hnodup, hgiven ▸ hseen, ?_⟩, ?_⟩
  · simp only [List.forall_mem_append, List.forall_mem_cons] at hcheck ⊢
    exact ⟨hcheck.1, by simp [hrule], hcheck.2⟩
  · refine Tolerant.build (fun f hf => ?_) hbuild
    have hne : f.name ≠ k := by
      rintro rfl
      exact hunknown (List.mem_map_of_mem hf)
    rw [lookUp_insert hne]
    cases lookUp (before ++ after) f.name with
    | none => exact .none
    | some j => exact .some .refl

section Replace

variable {f : FieldRule} (hf : f ∈ s.fields) {j j' : Json} (hadds : Adds f.schema j j')
include hnames hf hadds

theorem decode_field {before after : List (String × Json)}
    (hok : s.decode name (.object (before ++ (f.name, j) :: after)) = .ok a) :
    s.decode name (.object (before ++ (f.name, j') :: after)) = .ok a := by
  obtain ⟨hvisit, hbuild⟩ := decode_object_eq_ok.1 hok
  obtain ⟨hnodup, hseen, hcheck⟩ := visit_eq_ok.1 hvisit
  have hgiven : given s.fields (before ++ (f.name, j') :: after) =
      given s.fields (before ++ (f.name, j) :: after) := by
    simp [given]
  refine decode_object_eq_ok.2 ⟨visit_eq_ok.2 ⟨hgiven ▸ hnodup, hgiven ▸ hseen, ?_⟩,
    build_replace hnames hf hadds hbuild⟩
  simp only [List.forall_mem_append, List.forall_mem_cons] at hcheck ⊢
  obtain ⟨hbefore, hfield, hafter⟩ := hcheck
  refine ⟨hbefore, fun f' hf' => ?_, hafter⟩
  obtain ⟨hmem, hname⟩ := rule?_eq_some hf'
  obtain rfl := List.inj_on_of_nodup_map hnames hmem hf hname
  exact Tolerant.check f' hf hadds (hfield f' hf')

theorem decode_place {items items' : List Json} (hplace : s.fields[items.length]? = some f)
    (hok : s.decode name (.array (items ++ j :: items')) = .ok a) :
    s.decode name (.array (items ++ j' :: items')) = .ok a := by
  obtain ⟨before, after, hfields, hlength⟩ := split_of_getElem? hplace
  obtain ⟨hvisit, hbuild⟩ := decode_array_eq_ok.1 hok
  obtain ⟨hfit, hrequired, hcheck⟩ := visitItems_eq_ok.1 hvisit
  refine decode_array_eq_ok.2 ⟨visitItems_eq_ok.2 ⟨by simpa using hfit, ?_, ?_⟩, ?_⟩
  · simpa using hrequired
  · rw [hfields, List.zip_append hlength, List.zip_cons_cons] at hcheck ⊢
    simp only [List.forall_mem_append, List.forall_mem_cons] at hcheck ⊢
    obtain ⟨hbefore, hitem, hafter⟩ := hcheck
    exact ⟨hbefore, Tolerant.check f hf hadds hitem, hafter⟩
  · have hnamesLength : (before.map (·.name)).length = items.length := by simpa using hlength
    rw [hfields, List.map_append, List.map_cons, List.zip_append hnamesLength,
      List.zip_cons_cons] at hbuild ⊢
    exact build_replace hnames hf hadds hbuild

end Replace

include hnames in
theorem decode (name : String) : (s.decode name).Tolerant := by
  refine ⟨fun j j' a hadds hok => ?_⟩
  cases hadds with
  | member hunknown => exact decode_member (by simpa using hunknown) hok
  | field hfield hadds =>
    obtain ⟨f, hf, ⟨⟩⟩ := List.mem_map.1 hfield
    exact decode_field hnames hf hadds hok
  | place hplace hadds =>
    rw [List.getElem?_map] at hplace
    obtain ⟨f, hf, ⟨⟩⟩ := Option.map_eq_some_iff.1 hplace
    exact decode_place hnames (List.mem_of_getElem? hf) hadds hf hok

end Decode

end Tolerant

end Shape

end DeviceGateway.Json
