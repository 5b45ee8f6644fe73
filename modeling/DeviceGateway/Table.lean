/-! Tables keyed by text. The entries are kept in strictly ascending key order, so
a key occurs at most once and equal tables are equal values. `get?` is the view:
each operation is described by what it does to look-ups. -/

namespace DeviceGateway

/-- A finite map from text, by ascending key. -/
structure Table (α : Type) where
  entries : List (String × α)
  ascending : entries.Pairwise (fun a b => a.1 < b.1)
  deriving DecidableEq

namespace Table

variable {α β : Type}

/-! ### Sorted entries -/

/-- The entries with `v` under `k`, in place of an older value. -/
def insertEntry (k : String) (v : α) : List (String × α) → List (String × α)
  | [] => [(k, v)]
  | (k', v') :: r =>
    if k = k' then (k, v) :: r
    else if k < k' then (k, v) :: (k', v') :: r
    else (k', v') :: insertEntry k v r

theorem mem_insertEntry {k : String} {v : α} {e : String × α} {es : List (String × α)}
    (h : e ∈ insertEntry k v es) : e = (k, v) ∨ e ∈ es := by
  fun_induction insertEntry k v es <;> grind

theorem insertEntry_ascending {k : String} {v : α} {es : List (String × α)}
    (h : es.Pairwise (fun a b => a.1 < b.1)) :
    (insertEntry k v es).Pairwise (fun a b => a.1 < b.1) := by
  fun_induction insertEntry k v es with
  | case1 => simp
  | case2 k' r => simpa using h
  | case3 k' v' r hne hlt =>
    refine List.pairwise_cons.2 ⟨?_, h⟩
    intro e he
    rcases List.mem_cons.1 he with rfl | he
    · exact hlt
    · exact String.lt_trans hlt ((List.pairwise_cons.1 h).1 e he)
  | case4 k' v' r hne hnlt ih =>
    obtain ⟨h1, h2⟩ := List.pairwise_cons.1 h
    refine List.pairwise_cons.2 ⟨?_, ih h2⟩
    intro e he
    rcases mem_insertEntry he with rfl | he
    · have hle : k' ≤ k := String.not_lt.1 hnlt
      apply String.not_le.1
      intro hle'
      exact hne (String.le_antisymm hle' hle)
    · exact h1 e he

/-! ### Operations -/

def empty : Table α := ⟨[], List.Pairwise.nil⟩

instance : Inhabited (Table α) := ⟨empty⟩

instance : EmptyCollection (Table α) := ⟨empty⟩

def get? (t : Table α) (k : String) : Option α := (t.entries.find? (·.1 = k)).map (·.2)

def contains (t : Table α) (k : String) : Bool := (t.get? k).isSome

/-- `v` under `k`, in place of an older value. -/
def insert (t : Table α) (k : String) (v : α) : Table α :=
  ⟨insertEntry k v t.entries, insertEntry_ascending t.ascending⟩

/-- `v` under `k` unless the key is taken. -/
def insertNew (t : Table α) (k : String) (v : α) : Table α :=
  if t.contains k then t else t.insert k v

def erase (t : Table α) (k : String) : Table α :=
  ⟨t.entries.filter (·.1 ≠ k), t.ascending.filter _⟩

/-- The entries inserted in list order: the last of equal keys counts. -/
def ofList (es : List (String × α)) : Table α :=
  es.foldl (fun t e => t.insert e.1 e.2) empty

def keys (t : Table α) : List String := t.entries.map (·.1)

def values (t : Table α) : List α := t.entries.map (·.2)

def isEmpty (t : Table α) : Bool := t.entries.isEmpty

def size (t : Table α) : Nat := t.entries.length

end Table

end DeviceGateway
