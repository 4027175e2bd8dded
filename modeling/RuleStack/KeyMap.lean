set_option autoImplicit false

namespace RuleStack

/-- The entries, with every key below the keys after it. -/
structure KeyMap (α : Type) where
  entries : List (String × α)
  ordered : entries.Pairwise (fun a b => a.1 < b.1)
  deriving DecidableEq, Repr

namespace KeyMap

variable {α β : Type}

/-- Puts one entry into ordered entries; an equal key keeps the value that `keep` chooses
from the new and the old one. -/
def place (keep : α → α → α) (key : String) (value : α) : List (String × α) → List (String × α)
  | [] => [(key, value)]
  | (k, v) :: rest =>
    if key < k then (key, value) :: (k, v) :: rest
    else if key = k then (key, keep value v) :: rest
    else (k, v) :: place keep key value rest

theorem fst_mem_place {keep : α → α → α} {key : String} {value : α} {es : List (String × α)}
    {e : String × α} (h : e ∈ place keep key value es) : e.1 = key ∨ ∃ f ∈ es, f.1 = e.1 := by
  induction es with
  | nil => simp_all [place]
  | cons x rest ih =>
    obtain ⟨k, v⟩ := x
    rw [place] at h
    split at h
    · rcases List.mem_cons.1 h with rfl | h
      · exact .inl rfl
      · exact .inr ⟨e, h, rfl⟩
    · split at h
      · rcases List.mem_cons.1 h with rfl | h
        · exact .inl rfl
        · exact .inr ⟨e, List.mem_cons_of_mem _ h, rfl⟩
      · rcases List.mem_cons.1 h with rfl | h
        · exact .inr ⟨_, List.mem_cons_self, rfl⟩
        · rcases ih h with h | ⟨f, hf, he⟩
          · exact .inl h
          · exact .inr ⟨f, List.mem_cons_of_mem _ hf, he⟩

theorem ordered_place (keep : α → α → α) (key : String) (value : α) {es : List (String × α)}
    (h : es.Pairwise (fun a b => a.1 < b.1)) :
    (place keep key value es).Pairwise (fun a b => a.1 < b.1) := by
  induction es with
  | nil => simp [place]
  | cons x rest ih =>
    obtain ⟨k, v⟩ := x
    have hk := List.pairwise_cons.1 h
    rw [place]
    split
    · rename_i hlt
      refine List.pairwise_cons.2 ⟨fun e he => ?_, h⟩
      rcases List.mem_cons.1 he with rfl | he
      · exact hlt
      · exact String.lt_trans hlt (hk.1 e he)
    · split
      · rename_i heq
        subst heq
        exact List.pairwise_cons.2 ⟨hk.1, hk.2⟩
      · rename_i hlt hne
        refine List.pairwise_cons.2 ⟨fun e he => ?_, ih hk.2⟩
        rcases fst_mem_place he with he | ⟨f, hf, he⟩
        · rw [he]
          exact Std.lt_of_le_of_ne (String.not_lt.1 hlt) (Ne.symm hne)
        · rw [← he]
          exact hk.1 f hf

def empty : KeyMap α := ⟨[], .nil⟩

instance : Inhabited (KeyMap α) := ⟨empty⟩

def isEmpty (m : KeyMap α) : Bool := m.entries.isEmpty

def keys (m : KeyMap α) : List String := m.entries.map (·.1)

def values (m : KeyMap α) : List α := m.entries.map (·.2)

def get? (m : KeyMap α) (key : String) : Option α := m.entries.lookup key

def contains (m : KeyMap α) (key : String) : Bool := (m.get? key).isSome

def insert (m : KeyMap α) (key : String) (value : α) : KeyMap α :=
  ⟨place (fun new _ => new) key value m.entries, ordered_place _ _ _ m.ordered⟩

def insertNew (m : KeyMap α) (key : String) (value : α) : KeyMap α :=
  ⟨place (fun _ old => old) key value m.entries, ordered_place _ _ _ m.ordered⟩

def insertAll (m : KeyMap α) : List (String × α) → KeyMap α
  | [] => m
  | (key, value) :: rest => (m.insert key value).insertAll rest

/-- The bindings of a list; of a repeated key the last one counts. -/
def ofList : List (String × α) → KeyMap α
  | [] => empty
  | (key, value) :: rest => (ofList rest).insertNew key value

theorem ext {a b : KeyMap α} (h : a.entries = b.entries) : a = b := by
  cases a; cases b; cases h; rfl

theorem lookup_cons_of_ne {key k : String} (h : key ≠ k) (v : α) (es : List (String × α)) :
    ((k, v) :: es).lookup key = es.lookup key := by
  rw [List.lookup_cons, beq_eq_false_iff_ne.2 h]

theorem lookup_eq_none_of_lt {key : String} {es : List (String × α)}
    (h : ∀ e ∈ es, key < e.1) : es.lookup key = none := by
  rw [List.lookup_eq_none_iff]
  intro e he
  have hne : key ≠ e.1 := fun hk => String.lt_irrefl e.1 (hk ▸ h e he)
  exact bne_iff_ne.2 hne

theorem lookup_place_self (keep : α → α → α) (key : String) (value : α)
    (es : List (String × α)) (h : es.Pairwise (fun a b => a.1 < b.1)) :
    (place keep key value es).lookup key = some (((es.lookup key).map (keep value)).getD value) := by
  induction es with
  | nil => simp [place]
  | cons x rest ih =>
    obtain ⟨k, v⟩ := x
    have hk := List.pairwise_cons.1 h
    rw [place]
    split
    · rename_i hlt
      have hnone : ((k, v) :: rest).lookup key = none :=
        lookup_eq_none_of_lt fun e he => by
          rcases List.mem_cons.1 he with rfl | he
          · exact hlt
          · exact String.lt_trans hlt (hk.1 e he)
      rw [hnone]
      simp
    · split
      · rename_i heq
        subst heq
        simp
      · rename_i hne
        rw [lookup_cons_of_ne hne, lookup_cons_of_ne hne, ih hk.2]

theorem lookup_place_of_ne (keep : α → α → α) {key other : String} (h : other ≠ key) (value : α)
    (es : List (String × α)) : (place keep key value es).lookup other = es.lookup other := by
  induction es with
  | nil => exact lookup_cons_of_ne h value []
  | cons x rest ih =>
    obtain ⟨k, v⟩ := x
    rw [place]
    split
    · exact lookup_cons_of_ne h value _
    · split
      · rename_i heq
        subst heq
        rw [lookup_cons_of_ne h, lookup_cons_of_ne h]
      · rw [List.lookup_cons, List.lookup_cons, ih]

@[simp] theorem get?_empty (key : String) : (empty : KeyMap α).get? key = none := rfl

@[simp] theorem get?_insert_self (m : KeyMap α) (key : String) (value : α) :
    (m.insert key value).get? key = some value := by
  rw [insert, get?, lookup_place_self _ _ _ _ m.ordered]
  cases m.entries.lookup key <;> rfl

theorem get?_insert_of_ne (m : KeyMap α) {key other : String} (h : other ≠ key) (value : α) :
    (m.insert key value).get? other = m.get? other :=
  lookup_place_of_ne _ h value m.entries

theorem get?_insert (m : KeyMap α) (key other : String) (value : α) :
    (m.insert key value).get? other = if other = key then some value else m.get? other := by
  split
  · next h => rw [h, get?_insert_self]
  · next h => exact get?_insert_of_ne m h value

@[simp] theorem contains_insert_self (m : KeyMap α) (key : String) (value : α) :
    (m.insert key value).contains key = true := by simp [contains]

theorem contains_insert (m : KeyMap α) (key other : String) (value : α) :
    (m.insert key value).contains other = (other == key || m.contains other) := by
  rw [contains, contains, get?_insert]
  split <;> simp_all

end KeyMap
end RuleStack
