import RuleStack.Proofs.Json.Record
set_option autoImplicit false

namespace RuleStack

namespace Record

variable {σ : Type} {r : Record σ}

/-- In normal form these members, written for the given fields and after them, are read from state
`s` to state `t`. -/
inductive Written (r : Record σ) : List (Field σ) → σ → List (String × Json) → σ → Prop
  | unlisted {members : List (String × Json)} {s t : σ}
      (hfree : ∀ e ∈ members, e.1 ∉ r.names) (hnames : (members.map (·.1)).Nodup)
      (hread : (members.map fun e => (e.1, e.2.normalize)).foldlM r.readMember s = .ok t) :
      Written r [] s members t
  | member {f : Field σ} {fields : List (Field σ)} {v : Json} {members : List (String × Json)}
      {s u t : σ} (hread : f.read v.normalize s = .ok u) (hrest : Written r fields u members t) :
      Written r (f :: fields) s ((f.name, v) :: members) t
  | skipped {f : Field σ} {fields : List (Field σ)} {members : List (String × Json)} {s t : σ}
      (hoptional : f.required = false) (hrest : Written r fields s members t) :
      Written r (f :: fields) s members t

/-- Nothing in the map has the name of a field, and all of it is in normal form. -/
def Beside (r : Record σ) (m : KeyMap Json) : Prop := ∀ e ∈ m.entries, e.1 ∉ r.names ∧ e.2.Normal

theorem beside_empty (r : Record σ) : r.Beside .empty := fun _ h => (List.not_mem_nil h).elim

theorem Beside.insert {m : KeyMap Json} (h : r.Beside m) {key : String} {v : Json}
    (hkey : key ∉ r.names) (hv : v.Normal) : r.Beside (m.insert key v) := by
  intro e he
  rcases KeyMap.mem_of_mem_insert he with rfl | he
  · exact ⟨hkey, hv⟩
  · exact h e he

theorem KeepsIn.written {get : σ → KeyMap Json} {set : KeyMap Json → σ → σ}
    (h : r.KeepsIn get set) {m : KeyMap Json} (hm : r.Beside m) {s : σ} (hs : get s = .empty) :
    Written r [] s m.entries (set m s) := by
  refine .unlisted (fun e he => (hm e he).1) m.nodup_keys ?_
  have hentries : (m.entries.map fun e => (e.1, e.2.normalize)) = m.entries := by
    rw [← Json.normalizeMembers_eq]
    exact Json.normalizeMembers_eq_self fun e he => Json.normalize_eq_self (hm e he).2
  rw [hentries, h.foldlM_readMember fun e he => (hm e he).1, hs, KeyMap.insertAll_entries]

namespace Written

variable {fields : List (Field σ)} {members : List (String × Json)} {s t : σ}

theorem nil (r : Record σ) (s : σ) : Written r [] s [] s :=
  .unlisted (by simp) .nil rfl

theorem of_append_nil (h : Written r fields s (members ++ []) t) :
    Written r fields s members t := by
  rwa [List.append_nil] at h

theorem optional {α : Type} {read : Json → Except Mismatch α} {set : α → σ → σ} {name : String}
    {value : Option Json} (a : α) (hsome : ∀ v ∈ value, read v.normalize = .ok a)
    (hnone : value = none → set a s = s) (hrest : Written r fields (set a s) members t) :
    Written r (.optional name read set :: fields) s (Json.optionalMember name value ++ members)
      t := by
  cases value with
  | some v => exact .member ((Outcome.map_eq_ok_iff _ _ _).2 ⟨a, hsome v rfl, rfl⟩) hrest
  | none =>
    rw [hnone rfl] at hrest
    exact .skipped rfl hrest

theorem option {α : Type} {read : Json → Except Mismatch α} {write : α → Json}
    {set : Option α → σ → σ} {x : Option α} {name : String}
    (hx : ∀ a ∈ x, (write a).normalize ≠ .null ∧ read (write a).normalize = .ok a)
    (hs : set none s = s) (hrest : Written r fields (set x s) members t) :
    Written r (.optional name (Json.readOption read) set :: fields) s
      (Json.optionalMember name (x.map write) ++ members) t := by
  refine .optional x (fun v hv => ?_) (fun hnone => ?_) hrest
  · obtain ⟨a, rfl, rfl⟩ := Option.map_eq_some_iff.1 hv
    exact (Json.readOption_eq_ok_some_iff _ a).2 (hx a rfl)
  · rw [Option.map_eq_none_iff.1 hnone, hs]

theorem text {set : Option String → σ → σ} {x : Option String} {name : String}
    (hs : set none s = s) (hrest : Written r fields (set x s) members t) :
    Written r (.optional name (Json.readOption Json.readText) set :: fields) s
      (Json.optionalMember name (x.map .str) ++ members) t :=
  .option (fun _ _ => ⟨nofun, rfl⟩) hs hrest

theorem any {set : Option Json → σ → σ} {x : Option Json} {name : String}
    (hx : ∀ v ∈ x, v.Solid) (hs : set none s = s)
    (hrest : Written r fields (set x s) members t) :
    Written r (.optional name (Json.readOption .ok) set :: fields) s
      (Json.optionalMember name x ++ members) t := by
  have hid : x.map id = x := congrFun Option.map_id x
  rw [← hid]
  refine .option (fun v hv => ?_) hs hrest
  rw [id, Json.normalize_eq_self (hx v hv).2]
  exact ⟨(hx v hv).1, rfl⟩

/-- A map that is left out when it is empty. -/
theorem map {α : Type} {read : Json → Except Mismatch α} {set : KeyMap α → σ → σ} {m : KeyMap α}
    {v : Json} {name : String} (hread : Json.readMap read v.normalize = .ok m)
    (hs : set .empty s = s) (hrest : Written r fields (set m s) members t) :
    Written r (.optional name (Json.readMap read) set :: fields) s
      (Json.optionalMember name (if m.isEmpty then none else some v) ++ members) t := by
  refine .optional m (fun w hw => ?_) (fun hnone => ?_) hrest
  · split at hw <;> cases hw
    exact hread
  · split at hnone
    · rename_i hempty
      rw [KeyMap.eq_empty_of_isEmpty hempty, hs]
    · cases hnone

theorem flag {read : Json → Except Mismatch Unit} (set : Bool → σ → σ) {present : Bool} {v : Json}
    {name : String} (hread : Json.readOption read v.normalize = .ok (some ()))
    (hs : set false s = s) (hrest : Written r fields (set present s) members t) :
    Written r (.optional name (Json.readOption read) (fun x => set x.isSome) :: fields) s
      (Json.optionalMember name (if present then some v else none) ++ members) t := by
  cases present with
  | false => exact .optional none nofun (fun _ => hs) hrest
  | true =>
    refine .optional (some ()) (fun w hw => ?_) nofun hrest
    cases hw
    exact hread

theorem name_of_mem (h : Written r fields s members t) {name : String}
    (hname : name ∈ members.map (·.1)) : name ∈ fields.map (·.name) ∨ name ∉ r.names := by
  induction h with
  | unlisted hfree =>
    obtain ⟨e, he, rfl⟩ := List.mem_map.1 hname
    exact .inr (hfree e he)
  | member _ _ ih =>
    rcases List.mem_cons.1 hname with rfl | hname
    · exact .inl List.mem_cons_self
    · exact (ih hname).imp_left (List.mem_cons_of_mem _)
  | skipped _ _ ih => exact (ih hname).imp_left (List.mem_cons_of_mem _)

theorem nodup_names (h : Written r fields s members t) (hfields : fields ⊆ r.fields)
    (hnodup : (fields.map (·.name)).Nodup) : (members.map (·.1)).Nodup := by
  induction h with
  | unlisted _ hnames => exact hnames
  | @member f fields v members s u t _ hrest ih =>
    rw [List.map_cons, List.nodup_cons] at hnodup ⊢
    refine ⟨fun hname => ?_, ih (List.subset_of_cons_subset hfields) hnodup.2⟩
    rcases hrest.name_of_mem hname with hlater | hunlisted
    · exact hnodup.1 hlater
    · exact hunlisted ((r.mem_names_iff f.name).2 ⟨f, hfields List.mem_cons_self, rfl⟩)
  | skipped _ _ ih =>
    rw [List.map_cons, List.nodup_cons] at hnodup
    exact ih (List.subset_of_cons_subset hfields) hnodup.2

theorem mem_names_of_required (h : Written r fields s members t) {f : Field σ} (hf : f ∈ fields)
    (hrequired : f.required = true) : f.name ∈ members.map (·.1) := by
  induction h with
  | unlisted => cases hf
  | member _ _ ih =>
    rcases List.mem_cons.1 hf with rfl | hf
    · exact List.mem_cons_self
    · exact List.mem_cons_of_mem _ (ih hf)
  | skipped hoptional _ ih =>
    rcases List.mem_cons.1 hf with rfl | hf
    · exact absurd (hoptional.symm.trans hrequired) Bool.false_ne_true
    · exact ih hf

theorem foldlM_readMember (h : Written r fields s members t) (hfields : fields ⊆ r.fields)
    (hnames : r.names.Nodup) :
    (members.map fun e => (e.1, e.2.normalize)).foldlM r.readMember s = .ok t := by
  induction h with
  | unlisted _ _ hread => exact hread
  | member hread _ ih =>
    rw [List.map_cons, List.foldlM_cons, readMember_of_mem hnames (hfields List.mem_cons_self),
      hread]
    exact ih (List.subset_of_cons_subset hfields)
  | skipped _ _ ih => exact ih (List.subset_of_cons_subset hfields)

theorem read_normalize (hr : r.Orderless) (h : Written r r.fields r.start members t) :
    r.read (Json.obj members).normalize = .ok t := by
  have hnames := h.nodup_names (List.Subset.refl _) hr.names
  obtain ⟨ordered, hordered, hperm⟩ := Json.normalize_obj hnames
  have hfold : ordered.foldlM r.readMember r.start = .ok t := by
    refine (hr.foldlM_of_perm hperm.symm ?_ _ _).1
      (h.foldlM_readMember (List.Subset.refl _) hr.names)
    rwa [List.map_map]
  have hmissing : r.firstMissing? ordered = none := by
    rw [firstMissing?, Option.map_eq_none_iff, List.find?_eq_none]
    intro f hf hnone
    rw [Bool.and_eq_true, Option.isNone_iff_eq_none, List.lookup_eq_none_iff] at hnone
    obtain ⟨e, he, hname⟩ := List.mem_map.1 (h.mem_names_of_required hf hnone.1)
    have hmem : (e.1, e.2.normalize) ∈ ordered := hperm.mem_iff.2 (List.mem_map_of_mem he)
    exact absurd hname.symm (by simpa using hnone.2 _ hmem)
  rw [hordered, read, readMembers, hfold]
  simp only [bind, Except.bind, hmissing]

end Written

end Record

end RuleStack
