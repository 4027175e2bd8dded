import RuleStack.Proofs.Json.Numbers
import RuleStack.Proofs.KeyMap
import RuleStack.Template
set_option autoImplicit false

namespace RuleStack.Json

/-- A property of a value may be assumed of its items and of the values of its members. -/
@[elab_as_elim]
theorem induct {P : Json → Prop} (null : P .null) (bool : ∀ value, P (.bool value))
    (num : ∀ value, P (.num value)) (str : ∀ value, P (.str value))
    (arr : ∀ items, (∀ v ∈ items, P v) → P (.arr items))
    (obj : ∀ members, (∀ e ∈ members, P e.2) → P (.obj members)) (v : Json) : P v :=
  @Json.rec P (fun items => ∀ v ∈ items, P v) (fun members => ∀ e ∈ members, P e.2)
    (fun e => P e.2) null bool num str arr obj
    (by simp) (fun _ _ hitem hrest => List.forall_mem_cons.2 ⟨hitem, hrest⟩)
    (by simp) (fun _ _ hmember hrest => List.forall_mem_cons.2 ⟨hmember, hrest⟩)
    (fun _ _ hvalue => hvalue) v

theorem normalizeItems_eq (items : List Json) : normalizeItems items = items.map normalize := by
  induction items with
  | nil => rfl
  | cons item rest ih => rw [normalizeItems, ih, List.map_cons]

theorem normalizeMembers_eq (members : List (String × Json)) :
    normalizeMembers members = members.map fun e => (e.1, e.2.normalize) := by
  induction members with
  | nil => rfl
  | cons e rest ih => rw [normalizeMembers, ih, List.map_cons]

mutual
def mapNumbers (f : Number → Number) : Json → Json
  | .num n => .num (f n)
  | .arr items => .arr (mapNumbersItems f items)
  | .obj members => .obj (mapNumbersMembers f members)
  | v => v

def mapNumbersItems (f : Number → Number) : List Json → List Json
  | [] => []
  | item :: rest => mapNumbers f item :: mapNumbersItems f rest

def mapNumbersMembers (f : Number → Number) : List (String × Json) → List (String × Json)
  | [] => []
  | (key, value) :: rest => (key, mapNumbers f value) :: mapNumbersMembers f rest
end

theorem mapNumbersItems_eq (f : Number → Number) (items : List Json) :
    mapNumbersItems f items = items.map (mapNumbers f) := by
  induction items with
  | nil => rfl
  | cons item rest ih => rw [mapNumbersItems, ih, List.map_cons]

theorem mapNumbersMembers_eq (f : Number → Number) (members : List (String × Json)) :
    mapNumbersMembers f members = members.map fun e => (e.1, mapNumbers f e.2) := by
  induction members with
  | nil => rfl
  | cons e rest ih => rw [mapNumbersMembers, ih, List.map_cons]

/-- The value with its numbers as they come back from the canonical text. -/
def settle (v : Json) : Json := v.mapNumbers Number.settle

theorem normalize_mapNumbers (f : Number → Number) (v : Json) :
    (v.mapNumbers f).normalize = v.normalize.mapNumbers f := by
  induction v using induct with
  | null => rfl
  | bool => rfl
  | num => rfl
  | str => rfl
  | arr items ih =>
    simp only [mapNumbers, normalize, mapNumbersItems_eq, normalizeItems_eq, List.map_map]
    exact congrArg arr (List.map_congr_left ih)
  | obj members ih =>
    simp only [mapNumbers, normalize, object, mapNumbersMembers_eq, normalizeMembers_eq,
      ← KeyMap.entries_ofList_map, List.map_map]
    have hmembers : members.map (fun e => (e.1, (mapNumbers f e.2).normalize)) =
        members.map (fun e => (e.1, mapNumbers f e.2.normalize)) :=
      List.map_congr_left fun e he => by rw [ih e he]
    exact congrArg (fun ms => obj (KeyMap.ofList ms).entries) hmembers

theorem normalize_normalize (v : Json) : v.normalize.normalize = v.normalize := by
  induction v using induct with
  | null => rfl
  | bool => rfl
  | num => rfl
  | str => rfl
  | arr items ih =>
    simp only [normalize, normalizeItems_eq, List.map_map]
    exact congrArg arr (List.map_congr_left ih)
  | obj members ih =>
    simp only [normalize, object, normalizeMembers_eq]
    have hmembers : (KeyMap.ofList (members.map fun e => (e.1, e.2.normalize))).entries.map
          (fun e => (e.1, e.2.normalize)) =
        (KeyMap.ofList (members.map fun e => (e.1, e.2.normalize))).entries := by
      refine (List.map_congr_left fun e he => ?_).trans (List.map_id _)
      obtain ⟨d, hd, rfl⟩ := List.mem_map.1 (KeyMap.mem_of_mem_ofList he)
      rw [ih d hd]
      rfl
    rw [hmembers, KeyMap.ofList_entries]

mutual
def depth : Json → Nat
  | .arr items => depthItems items + 1
  | .obj members => depthMembers members + 1
  | _ => 0

def depthItems : List Json → Nat
  | [] => 0
  | item :: rest => max (depth item) (depthItems rest)

def depthMembers : List (String × Json) → Nat
  | [] => 0
  | (_, value) :: rest => max (depth value) (depthMembers rest)
end

theorem depthItems_le_iff (items : List Json) (n : Nat) :
    depthItems items ≤ n ↔ ∀ v ∈ items, v.depth ≤ n := by
  induction items with
  | nil => simp [depthItems]
  | cons item rest ih => rw [depthItems, Nat.max_le, ih, List.forall_mem_cons]

theorem depthMembers_le_iff (members : List (String × Json)) (n : Nat) :
    depthMembers members ≤ n ↔ ∀ e ∈ members, e.2.depth ≤ n := by
  induction members with
  | nil => simp [depthMembers]
  | cons e rest ih => rw [depthMembers, Nat.max_le, ih, List.forall_mem_cons]

theorem depthItems_congr {items others : List Json}
    (h : ∀ n, (∀ v ∈ items, v.depth ≤ n) ↔ ∀ v ∈ others, v.depth ≤ n) :
    depthItems items = depthItems others := by
  have hle (n : Nat) : depthItems items ≤ n ↔ depthItems others ≤ n := by
    rw [depthItems_le_iff, depthItems_le_iff, h]
  exact Nat.le_antisymm ((hle _).2 (Nat.le_refl _)) ((hle _).1 (Nat.le_refl _))

theorem depthMembers_congr {members others : List (String × Json)}
    (h : ∀ n, (∀ e ∈ members, e.2.depth ≤ n) ↔ ∀ e ∈ others, e.2.depth ≤ n) :
    depthMembers members = depthMembers others := by
  have hle (n : Nat) : depthMembers members ≤ n ↔ depthMembers others ≤ n := by
    rw [depthMembers_le_iff, depthMembers_le_iff, h]
  exact Nat.le_antisymm ((hle _).2 (Nat.le_refl _)) ((hle _).1 (Nat.le_refl _))

theorem depth_mapNumbers (f : Number → Number) (v : Json) : (v.mapNumbers f).depth = v.depth := by
  induction v using induct with
  | null => rfl
  | bool => rfl
  | num => rfl
  | str => rfl
  | arr items ih =>
    rw [mapNumbers, mapNumbersItems_eq, depth, depth]
    refine congrArg (· + 1) (depthItems_congr fun n => ?_)
    rw [List.forall_mem_map]
    exact forall₂_congr fun v hv => by rw [ih v hv]
  | obj members ih =>
    rw [mapNumbers, mapNumbersMembers_eq, depth, depth]
    refine congrArg (· + 1) (depthMembers_congr fun n => ?_)
    rw [List.forall_mem_map]
    exact forall₂_congr fun e he => by rw [ih e he]

theorem depth_normalize_le (v : Json) : v.normalize.depth ≤ v.depth := by
  induction v using induct with
  | null => exact Nat.le_refl _
  | bool => exact Nat.le_refl _
  | num => exact Nat.le_refl _
  | str => exact Nat.le_refl _
  | arr items ih =>
    rw [normalize, normalizeItems_eq, depth, depth, Nat.add_le_add_iff_right, depthItems_le_iff,
      List.forall_mem_map]
    intro v hv
    exact Nat.le_trans (ih v hv) ((depthItems_le_iff items _).1 (Nat.le_refl _) v hv)
  | obj members ih =>
    rw [normalize, object, normalizeMembers_eq, depth, depth, Nat.add_le_add_iff_right,
      depthMembers_le_iff]
    intro e he
    obtain ⟨d, hd, rfl⟩ := List.mem_map.1 (KeyMap.mem_of_mem_ofList he)
    exact Nat.le_trans (ih d hd) ((depthMembers_le_iff members _).1 (Nat.le_refl _) d hd)

theorem normalItems_iff (items : List Json) : NormalItems items ↔ ∀ v ∈ items, v.Normal := by
  induction items with
  | nil => simp [NormalItems]
  | cons item rest ih => rw [NormalItems, ih, List.forall_mem_cons]

theorem normalMembers_iff (members : List (String × Json)) :
    NormalMembers members ↔ ∀ e ∈ members, e.2.Normal := by
  induction members with
  | nil => simp [NormalMembers]
  | cons e rest ih => rw [NormalMembers, ih, List.forall_mem_cons]

@[simp] theorem normal_null : null.Normal := trivial

@[simp] theorem normal_bool (value : Bool) : (bool value).Normal := trivial

@[simp] theorem normal_num (value : Number) : (num value).Normal := trivial

@[simp] theorem normal_str (value : String) : (str value).Normal := trivial

@[simp] theorem normal_arr (items : List Json) : (arr items).Normal ↔ ∀ v ∈ items, v.Normal :=
  normalItems_iff items

theorem normal_obj (members : List (String × Json)) :
    (obj members).Normal ↔
      members.Pairwise (fun a b => a.1 < b.1) ∧ ∀ e ∈ members, e.2.Normal :=
  and_congr_right fun _ => normalMembers_iff members

@[simp] theorem normal_obj_nil : (obj []).Normal := (normal_obj []).2 ⟨.nil, by simp⟩

@[simp] theorem normal_obj_singleton (key : String) (value : Json) :
    (obj [(key, value)]).Normal ↔ value.Normal := by
  simp [normal_obj]

@[simp] theorem normal_ofMap (m : KeyMap Json) :
    (ofMap m).Normal ↔ ∀ e ∈ m.entries, e.2.Normal :=
  (normal_obj m.entries).trans (and_iff_right m.ordered)

theorem normal_object {members : List (String × Json)} (h : ∀ e ∈ members, e.2.Normal) :
    (object members).Normal :=
  (normal_ofMap _).2 fun e he => h e (KeyMap.mem_of_mem_ofList he)

theorem normal_object_iff {members : List (String × Json)} (hkeys : (members.map (·.1)).Nodup) :
    (object members).Normal ↔ ∀ e ∈ members, e.2.Normal := by
  rw [object, ← ofMap, normal_ofMap]
  simp only [(KeyMap.entries_ofList_perm hkeys).mem_iff]

@[simp] theorem normal_strings (values : List String) : (strings values).Normal := by
  simp [strings]

@[simp] theorem normal_ref (key : String) : (ref key).Normal := by simp [ref]

@[simp] theorem normal_getAtt (key part : String) : (getAtt key part).Normal := by simp [getAtt]

@[simp] theorem normal_join (separator : String) (parts : List Json) :
    (join separator parts).Normal ↔ ∀ v ∈ parts, v.Normal := by
  simp [join]

theorem normal_normalize (v : Json) : v.normalize.Normal := by
  induction v using induct with
  | null => trivial
  | bool => trivial
  | num => trivial
  | str => trivial
  | arr items ih =>
    rw [normalize, normalizeItems_eq, normal_arr, List.forall_mem_map]
    exact ih
  | obj members ih =>
    rw [normalize, normalizeMembers_eq]
    refine normal_object ?_
    rw [List.forall_mem_map]
    exact ih

theorem normalizeMembers_eq_self {members : List (String × Json)}
    (h : ∀ e ∈ members, e.2.normalize = e.2) : normalizeMembers members = members := by
  rw [normalizeMembers_eq]
  refine (List.map_congr_left fun e he => ?_).trans (List.map_id _)
  rw [h e he]
  rfl

theorem normalize_eq_self {v : Json} (h : v.Normal) : v.normalize = v := by
  induction v using induct with
  | null => rfl
  | bool => rfl
  | num => rfl
  | str => rfl
  | arr items ih =>
    rw [normal_arr] at h
    rw [normalize, normalizeItems_eq]
    exact congrArg arr ((List.map_congr_left fun v hv => ih v hv (h v hv)).trans (List.map_id _))
  | obj members ih =>
    rw [normal_obj] at h
    have hmembers := normalizeMembers_eq_self fun e he => ih e he (h.2 e he)
    have hordered : KeyMap.ofList members = ⟨members, h.1⟩ := KeyMap.ofList_entries ⟨members, h.1⟩
    rw [normalize, hmembers, object, hordered]

theorem normal_iff (v : Json) : v.Normal ↔ v.normalize = v :=
  ⟨normalize_eq_self, fun h => h ▸ normal_normalize v⟩

instance (v : Json) : Decidable v.Normal := decidable_of_iff _ (normal_iff v).symm

theorem normalize_obj {members : List (String × Json)} (h : (members.map (·.1)).Nodup) :
    ∃ ordered, (obj members).normalize = obj ordered ∧
      ordered.Perm (members.map fun e => (e.1, e.2.normalize)) := by
  refine ⟨_, rfl, ?_⟩
  rw [normalizeMembers_eq]
  refine KeyMap.entries_ofList_perm ?_
  rwa [List.map_map]

theorem exists_member_of_lookup {members ordered : List (String × Json)}
    (h : (obj members).normalize = obj ordered) {name : String} {v : Json}
    (hv : ordered.lookup name = some v) : ∃ w, (name, w) ∈ members ∧ w.normalize = v := by
  cases h
  have hmem := KeyMap.mem_of_mem_ofList (KeyMap.mem_of_lookup hv)
  rw [normalizeMembers_eq] at hmem
  obtain ⟨e, he, heq⟩ := List.mem_map.1 hmem
  cases heq
  exact ⟨e.2, he, rfl⟩

end RuleStack.Json
