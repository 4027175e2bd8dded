import RuleStack.KeyMap
set_option autoImplicit false

namespace RuleStack.KeyMap

variable {α : Type}

theorem ne_of_key_lt {a b : String} (h : a < b) : a ≠ b := fun he => String.lt_irrefl b (he ▸ h)

theorem nodup_keys (m : KeyMap α) : m.keys.Nodup :=
  List.pairwise_map.2 (m.ordered.imp ne_of_key_lt)

theorem mem_keys_of_mem {m : KeyMap α} {e : String × α} (h : e ∈ m.entries) : e.1 ∈ m.keys :=
  List.mem_map_of_mem h

theorem mem_keys_iff_of_perm {m : KeyMap α} {es : List (String × α)} (h : m.entries.Perm es)
    (key : String) : key ∈ m.keys ↔ key ∈ es.map (·.1) :=
  (h.map (·.1)).mem_iff

theorem nodup_of_perm {m : KeyMap α} {es : List (String × α)} (h : m.entries.Perm es) :
    (es.map (·.1)).Nodup := by
  have hn : (m.entries.map (·.1)).Nodup := m.nodup_keys
  exact (h.map (·.1)).nodup_iff.1 hn

theorem contains_iff (m : KeyMap α) (key : String) : m.contains key = true ↔ key ∈ m.keys := by
  rw [contains, get?, keys, Option.isSome_iff_ne_none, Ne, List.lookup_eq_none_iff]
  simp only [bne_iff_ne, Prod.forall, List.mem_map, Prod.exists, exists_and_right, exists_eq_right]
  constructor
  · intro h
    apply Classical.byContradiction
    intro hn
    refine h fun k v hm he => hn ⟨v, ?_⟩
    rw [he]
    exact hm
  · rintro ⟨v, hm⟩ h
    exact h key v hm rfl

theorem mem_keys_of_get? {m : KeyMap α} {key : String} {value : α} (h : m.get? key = some value) :
    key ∈ m.keys := by
  rw [← contains_iff, contains, h]
  rfl

theorem exists_get?_of_mem_keys {m : KeyMap α} {key : String} (h : key ∈ m.keys) :
    ∃ value, m.get? key = some value := by
  rw [← contains_iff] at h
  exact Option.isSome_iff_exists.1 h

theorem contains_eq_false_iff (m : KeyMap α) (key : String) :
    m.contains key = false ↔ key ∉ m.keys := by
  rw [← contains_iff, Bool.not_eq_true]

theorem eq_of_perm {a b : KeyMap α} (h : a.entries.Perm b.entries) : a = b :=
  ext (h.eq_of_pairwise (fun _ _ _ _ hab hba => absurd hba (String.lt_asymm hab))
    a.ordered b.ordered)

theorem lookup_eq_some_of_mem {es : List (String × α)} (h : (es.map (·.1)).Nodup) {key : String}
    {value : α} (hm : (key, value) ∈ es) : es.lookup key = some value := by
  induction es with
  | nil => simp at hm
  | cons e rest ih =>
    obtain ⟨k, v⟩ := e
    rw [List.map_cons, List.nodup_cons] at h
    rcases List.mem_cons.1 hm with he | hm
    · cases he
      simp
    · have hkey : key ∈ rest.map (·.1) := List.mem_map_of_mem hm
      have hne : key ≠ k := fun he => h.1 (he ▸ hkey)
      rw [lookup_cons_of_ne hne, ih h.2 hm]

theorem get?_eq_some_of_mem {m : KeyMap α} {key : String} {value : α}
    (h : (key, value) ∈ m.entries) : m.get? key = some value :=
  lookup_eq_some_of_mem m.nodup_keys h

theorem mem_of_lookup {es : List (String × α)} {key : String} {value : α}
    (h : es.lookup key = some value) : (key, value) ∈ es := by
  obtain ⟨before, after, hentries, -⟩ := List.lookup_eq_some_iff.1 h
  rw [hentries]
  exact List.mem_append_right _ List.mem_cons_self

theorem mem_of_get? {m : KeyMap α} {key : String} {value : α} (h : m.get? key = some value) :
    (key, value) ∈ m.entries := mem_of_lookup h

theorem get?_of_subset {m n : KeyMap α} (h : m.entries ⊆ n.entries) {key : String} {value : α}
    (hvalue : m.get? key = some value) : n.get? key = some value :=
  get?_eq_some_of_mem (h (mem_of_get? hvalue))

theorem eq_empty_of_isEmpty {m : KeyMap α} (h : m.isEmpty = true) : m = empty :=
  ext (List.isEmpty_iff.1 h)

theorem ext_get? {a b : KeyMap α} (h : ∀ key, a.get? key = b.get? key) : a = b := by
  have hnodup (m : KeyMap α) : m.entries.Nodup :=
    m.ordered.imp fun hlt heq => ne_of_key_lt hlt (congrArg Prod.fst heq)
  refine eq_of_perm ((List.perm_ext_iff_of_nodup (hnodup a) (hnodup b)).2 fun e => ?_)
  exact ⟨fun he => mem_of_get? ((h e.1).symm.trans (get?_eq_some_of_mem he)),
    fun he => mem_of_get? ((h e.1).trans (get?_eq_some_of_mem he))⟩

theorem place_perm (keep : α → α → α) (key : String) (value : α) {es : List (String × α)}
    (ho : es.Pairwise (fun a b => a.1 < b.1)) :
    (place keep key value es).Perm
      ((key, ((es.lookup key).map (keep value)).getD value) ::
        es.filter (fun e => e.1 != key)) := by
  induction es with
  | nil => simp [place]
  | cons e rest ih =>
    obtain ⟨k, v⟩ := e
    obtain ⟨hk, hrest⟩ := List.pairwise_cons.1 ho
    rw [place]
    split
    · rename_i hlt
      -- all keys are greater, so nothing is found and nothing is filtered out
      have habove : ∀ e ∈ (k, v) :: rest, key < e.1 := by
        intro e he
        rcases List.mem_cons.1 he with rfl | he
        · exact hlt
        · exact String.lt_trans hlt (hk e he)
      have hall : ((k, v) :: rest).filter (fun e => e.1 != key) = (k, v) :: rest :=
        List.filter_eq_self.2 fun e he => bne_iff_ne.2 (ne_of_key_lt (habove e he)).symm
      rw [lookup_eq_none_of_lt habove, hall]
      exact .refl _
    · split
      · rename_i heq
        subst heq
        have hall : rest.filter (fun e => e.1 != key) = rest :=
          List.filter_eq_self.2 fun e he => bne_iff_ne.2 (ne_of_key_lt (hk e he)).symm
        simp [hall]
      · rename_i hne
        rw [lookup_cons_of_ne hne, List.filter_cons_of_pos (by simpa using Ne.symm hne)]
        exact ((ih hrest).cons _).trans (.swap _ _ _)

/-- Binding a key puts its entry in the place of any with that key. -/
theorem entries_insert_perm (m : KeyMap α) (key : String) (value : α) :
    (m.insert key value).entries.Perm
      ((key, value) :: m.entries.filter (fun e => e.1 != key)) := by
  have h := place_perm (fun new _ => new) key value m.ordered
  cases hl : m.entries.lookup key <;> simpa [hl, insert] using h

theorem filter_ne_eq_self {m : KeyMap α} {key : String} (h : key ∉ m.keys) :
    m.entries.filter (fun e => e.1 != key) = m.entries :=
  List.filter_eq_self.2 fun _ he => bne_iff_ne.2 fun heq => h (heq ▸ mem_keys_of_mem he)

theorem entries_insert_perm_of_perm {m : KeyMap α} {es : List (String × α)}
    (h : m.entries.Perm es) {key : String} (hkey : key ∉ m.keys) (value : α) :
    (m.insert key value).entries.Perm (es ++ [(key, value)]) := by
  have hinsert := m.entries_insert_perm key value
  rw [filter_ne_eq_self hkey] at hinsert
  exact hinsert.trans ((h.cons _).trans (List.perm_append_singleton _ _).symm)

/-- Binding a list of keys puts its entries in the place of any with these keys. -/
theorem entries_insertAll_perm (m : KeyMap α) {es : List (String × α)}
    (h : (es.map (·.1)).Nodup) :
    (m.insertAll es).entries.Perm
      (m.entries.filter (fun e => !(es.map (·.1)).contains e.1) ++ es) := by
  induction es generalizing m with
  | nil =>
    rw [List.append_nil, List.filter_eq_self.2 (by simp)]
    exact .refl _
  | cons e rest ih =>
    obtain ⟨k, v⟩ := e
    rw [List.map_cons, List.nodup_cons] at h
    have hstep := (m.entries_insert_perm k v).filter (fun e => !(rest.map (·.1)).contains e.1)
    rw [List.filter_cons_of_pos (by simpa using h.1), List.filter_filter] at hstep
    have hfilter : m.entries.filter (fun e => !((k :: rest.map (·.1)).contains e.1)) =
        m.entries.filter (fun e => !(rest.map (·.1)).contains e.1 && e.1 != k) := by
      apply List.filter_congr
      intro e _
      rw [List.contains_cons, Bool.not_or, Bool.and_comm]
      rfl
    rw [insertAll, List.map_cons, hfilter]
    refine (ih (m.insert k v) h.2).trans ((hstep.append_right rest).trans ?_)
    exact List.perm_middle.symm

theorem mem_insertAll_iff (m : KeyMap α) {es : List (String × α)} (h : (es.map (·.1)).Nodup)
    (e : String × α) :
    e ∈ (m.insertAll es).entries ↔ (e ∈ m.entries ∧ e.1 ∉ es.map (·.1)) ∨ e ∈ es := by
  rw [(m.entries_insertAll_perm h).mem_iff, List.mem_append, List.mem_filter]
  simp only [Bool.not_eq_true', List.contains_eq_mem, decide_eq_false_iff_not]

theorem entries_insertAll_perm_of_perm {m : KeyMap α} {es new : List (String × α)}
    (h : m.entries.Perm es) (hnew : (new.map (·.1)).Nodup) (hfree : ∀ e ∈ new, e.1 ∉ m.keys) :
    (m.insertAll new).entries.Perm (es ++ new) := by
  have hall : m.entries.filter (fun e => !(new.map (·.1)).contains e.1) = m.entries := by
    apply List.filter_eq_self.2
    intro e he
    simp only [List.contains_eq_mem, Bool.not_eq_true', decide_eq_false_iff_not]
    intro hm
    obtain ⟨f, hf, hfe⟩ := List.mem_map.1 hm
    exact hfree f hf (hfe ▸ mem_keys_of_mem he)
  have hinsert := m.entries_insertAll_perm hnew
  rw [hall] at hinsert
  exact hinsert.trans (h.append_right new)

theorem mem_of_mem_insert {m : KeyMap α} {key : String} {value : α} {e : String × α}
    (h : e ∈ (m.insert key value).entries) : e = (key, value) ∨ e ∈ m.entries := by
  rcases List.mem_cons.1 ((m.entries_insert_perm key value).mem_iff.1 h) with rfl | hm
  · exact .inl rfl
  · exact .inr (List.mem_filter.1 hm).1

theorem mem_of_mem_insertAll {m : KeyMap α} {es : List (String × α)} {e : String × α}
    (h : e ∈ (m.insertAll es).entries) : e ∈ m.entries ∨ e ∈ es := by
  induction es generalizing m with
  | nil => exact .inl h
  | cons f rest ih =>
    rcases ih h with hm | hm
    · rcases mem_of_mem_insert hm with rfl | hm
      · exact .inr List.mem_cons_self
      · exact .inl hm
    · exact .inr (List.mem_cons_of_mem _ hm)

theorem mem_keys_insert (m : KeyMap α) (key other : String) (value : α) :
    other ∈ (m.insert key value).keys ↔ other = key ∨ other ∈ m.keys := by
  rw [← contains_iff, contains_insert, Bool.or_eq_true, beq_iff_eq, contains_iff]

theorem mem_keys_insertAll (m : KeyMap α) (es : List (String × α)) (key : String) :
    key ∈ (m.insertAll es).keys ↔ key ∈ m.keys ∨ key ∈ es.map (·.1) := by
  induction es generalizing m with
  | nil => simp [insertAll]
  | cons e rest ih =>
    rw [insertAll, ih, mem_keys_insert, List.map_cons, List.mem_cons]
    grind

theorem get?_insertAll_of_mem (m : KeyMap α) {es : List (String × α)} (h : (es.map (·.1)).Nodup)
    {e : String × α} (he : e ∈ es) : (m.insertAll es).get? e.1 = some e.2 :=
  get?_eq_some_of_mem ((m.entries_insertAll_perm h).mem_iff.2 (List.mem_append_right _ he))

theorem get?_insertAll_of_not_mem (m : KeyMap α) {es : List (String × α)} {key : String}
    (h : key ∉ es.map (·.1)) : (m.insertAll es).get? key = m.get? key := by
  induction es generalizing m with
  | nil => rfl
  | cons e rest ih =>
    rw [List.map_cons, List.mem_cons, not_or] at h
    rw [insertAll, ih _ h.2, m.get?_insert_of_ne h.1]

theorem get?_insert_of_get? {m : KeyMap α} {key other : String} {value : α}
    (h : m.get? key = some value) (hother : other ∉ m.keys) (new : α) :
    (m.insert other new).get? key = some value := by
  have hne : key ≠ other := fun he => hother (he ▸ mem_keys_of_get? h)
  rw [m.get?_insert_of_ne hne, h]

theorem insert_of_get? {m : KeyMap α} {key : String} {value : α} (h : m.get? key = some value) :
    m.insert key value = m := by
  refine ext_get? fun other => ?_
  rw [get?_insert]
  split
  · rename_i heq
    rw [heq, h]
  · rfl

theorem insertAll_of_get? {m : KeyMap α} {es : List (String × α)}
    (h : ∀ e ∈ es, m.get? e.1 = some e.2) : m.insertAll es = m := by
  induction es with
  | nil => rfl
  | cons e rest ih =>
    rw [insertAll, insert_of_get? (h e List.mem_cons_self)]
    exact ih fun f hf => h f (List.mem_cons_of_mem e hf)

theorem insert_comm (m : KeyMap α) {key other : String} (h : key ≠ other) (value new : α) :
    (m.insert key value).insert other new = (m.insert other new).insert key value := by
  refine ext_get? fun k => ?_
  simp only [get?_insert]
  split <;> split <;> simp_all

theorem insertAll_entries (m : KeyMap α) : empty.insertAll m.entries = m :=
  eq_of_perm (entries_insertAll_perm_of_perm (m := empty) (.refl _) m.nodup_keys
    fun _ _ hkey => (List.not_mem_nil hkey).elim)

theorem nodup_keys_append_iff (m : KeyMap α) (keys : List String) :
    (m.keys ++ keys).Nodup ↔ keys.Nodup ∧ ∀ key ∈ keys, key ∉ m.keys := by
  rw [List.nodup_append]
  constructor
  · rintro ⟨-, hn, hd⟩
    exact ⟨hn, fun key hkey hm => hd key hm key hkey rfl⟩
  · rintro ⟨hn, hd⟩
    exact ⟨m.nodup_keys, hn, fun x hx y hy he => hd y hy (he ▸ hx)⟩

theorem insertNew_of_mem {m : KeyMap α} {key : String} (h : key ∈ m.keys) (value : α) :
    m.insertNew key value = m := by
  obtain ⟨es, ho⟩ := m
  apply ext
  change place (fun _ old => old) key value es = es
  replace h : key ∈ es.map (·.1) := h
  induction es with
  | nil => simp at h
  | cons e rest ih =>
    obtain ⟨k, v⟩ := e
    obtain ⟨hk, hrest⟩ := List.pairwise_cons.1 ho
    rw [List.map_cons, List.mem_cons] at h
    rw [place]
    split
    · rename_i hlt
      -- the key is below all others, so it is not among them
      rcases h with heq | hm
      · exact absurd heq (ne_of_key_lt hlt)
      · obtain ⟨f, hf, hfk⟩ := List.mem_map.1 hm
        exact absurd hfk.symm (ne_of_key_lt (String.lt_trans hlt (hk f hf)))
    · split
      · rename_i heq
        rw [heq]
      · rename_i hne
        rw [ih hrest (h.resolve_left hne)]

theorem entries_insertNew_perm {m : KeyMap α} {key : String} (h : key ∉ m.keys) (value : α) :
    (m.insertNew key value).entries.Perm ((key, value) :: m.entries) := by
  have hperm := place_perm (fun _ old => old) key value m.ordered
  have hnone : m.entries.lookup key = none := by
    have hfree := (m.contains_eq_false_iff key).2 h
    simpa [contains, get?] using hfree
  rw [hnone, filter_ne_eq_self h] at hperm
  exact hperm

theorem mem_of_mem_ofList {es : List (String × α)} {e : String × α}
    (h : e ∈ (ofList es).entries) : e ∈ es := by
  induction es with
  | nil => cases h
  | cons f rest ih =>
    obtain ⟨k, v⟩ := f
    rw [ofList] at h
    by_cases hk : k ∈ (ofList rest).keys
    · rw [insertNew_of_mem hk] at h
      exact List.mem_cons_of_mem _ (ih h)
    · rcases List.mem_cons.1 ((entries_insertNew_perm hk v).mem_iff.1 h) with rfl | hm
      · exact List.mem_cons_self
      · exact List.mem_cons_of_mem _ (ih hm)

theorem entries_ofList_perm {es : List (String × α)} (h : (es.map (·.1)).Nodup) :
    (ofList es).entries.Perm es := by
  induction es with
  | nil => exact .refl _
  | cons e rest ih =>
    obtain ⟨k, v⟩ := e
    rw [List.map_cons, List.nodup_cons] at h
    have hk : k ∉ (ofList rest).keys := by
      intro hm
      obtain ⟨f, hf, hfk⟩ := List.mem_map.1 hm
      exact h.1 (List.mem_map.2 ⟨f, mem_of_mem_ofList hf, hfk⟩)
    exact (entries_insertNew_perm hk v).trans ((ih h.2).cons _)

theorem get?_insertNew (m : KeyMap α) (key other : String) (value : α) :
    (m.insertNew key value).get? other =
      (m.get? other).or (if other = key then some value else none) := by
  split
  · rename_i heq
    rw [heq, insertNew, get?, lookup_place_self _ _ _ _ m.ordered, get?]
    cases m.entries.lookup key <;> rfl
  · rename_i hne
    rw [insertNew, get?, lookup_place_of_ne _ hne, Option.or_none, get?]

theorem get?_ofList_nil (key : String) : (ofList ([] : List (String × α))).get? key = none := rfl

theorem get?_ofList_cons (key other : String) (value : α) (es : List (String × α)) :
    (ofList ((key, value) :: es)).get? other =
      ((ofList es).get? other).or (if other = key then some value else none) :=
  get?_insertNew (ofList es) key other value

theorem get?_ofList_append (es fs : List (String × α)) (key : String) :
    (ofList (es ++ fs)).get? key = ((ofList fs).get? key).or ((ofList es).get? key) := by
  induction es with
  | nil => exact (Option.or_none).symm
  | cons e rest ih =>
    obtain ⟨k, v⟩ := e
    rw [List.cons_append, get?_ofList_cons, get?_ofList_cons, ih, Option.or_assoc]

theorem get?_ofList_of_lookup {es : List (String × α)} (h : (es.map (·.1)).Nodup) {key : String}
    {value : α} (hvalue : es.lookup key = some value) : (ofList es).get? key = some value :=
  get?_eq_some_of_mem ((entries_ofList_perm h).mem_iff.2 (mem_of_lookup hvalue))

theorem ofList_entries (m : KeyMap α) : ofList m.entries = m :=
  eq_of_perm (entries_ofList_perm m.nodup_keys)

variable {β : Type}

/-- Other names for the keys leave the same bindings, if no two keys get one name. -/
theorem entries_ofList_rename_perm {name : String → String}
    (hname : ∀ a b, name a = name b → a = b) (value : String × α → β) (es : List (String × α)) :
    (ofList (es.map fun e => (name e.1, value e))).entries.Perm
      ((ofList es).entries.map fun e => (name e.1, value e)) := by
  induction es with
  | nil => exact .refl _
  | cons e rest ih =>
    obtain ⟨k, v⟩ := e
    have hkeys : name k ∈ (ofList (rest.map fun e => (name e.1, value e))).keys ↔
        k ∈ (ofList rest).keys := by
      rw [mem_keys_iff_of_perm ih, List.map_map, keys]
      simp only [List.mem_map, Function.comp]
      constructor
      · rintro ⟨f, hf, hfk⟩
        exact ⟨f, hf, hname _ _ hfk⟩
      · rintro ⟨f, hf, rfl⟩
        exact ⟨f, hf, rfl⟩
    rw [List.map_cons, ofList, ofList]
    by_cases hk : k ∈ (ofList rest).keys
    · rw [insertNew_of_mem hk, insertNew_of_mem (hkeys.2 hk)]
      exact ih
    · have hnew := (entries_insertNew_perm hk v).map fun e => (name e.1, value e)
      refine (entries_insertNew_perm (fun hm => hk (hkeys.1 hm)) _).trans ?_
      exact (ih.cons _).trans hnew.symm

theorem lookup_map (f : α → β) (es : List (String × α)) (key : String) :
    (es.map fun e => (e.1, f e.2)).lookup key = (es.lookup key).map f := by
  induction es with
  | nil => rfl
  | cons e rest ih =>
    obtain ⟨k, v⟩ := e
    rw [List.map_cons, List.lookup_cons, List.lookup_cons, ih]
    cases key == k <;> rfl

theorem entries_ofList_map (f : α → β) (es : List (String × α)) :
    (ofList (es.map fun e => (e.1, f e.2))).entries =
      (ofList es).entries.map fun e => (e.1, f e.2) := by
  have hordered : ((ofList es).entries.map fun e => (e.1, f e.2)).Pairwise
      (fun a b => a.1 < b.1) :=
    List.pairwise_map.2 ((ofList es).ordered.imp id)
  have hperm := entries_ofList_rename_perm (fun _ _ (h : id _ = id _) => h) (fun e => f e.2) es
  have hmaps : ofList (es.map fun e => (e.1, f e.2)) = ⟨_, hordered⟩ := eq_of_perm hperm
  rw [hmaps]

end RuleStack.KeyMap
