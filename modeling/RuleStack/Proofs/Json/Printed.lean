import RuleStack.Proofs.Json.Spelling
set_option autoImplicit false

namespace RuleStack

namespace Number

/-- The canonical text of the number is that of an integer, and the number is none. -/
def ReadsAsInteger : Number → Prop
  | .integer _ _ => False
  | .float x => ∃ value, x.whole? = some value ∧ InWord value

theorem settle_same_iff (n : Number) : n.settle.same n = true ↔ ¬ n.ReadsAsInteger := by
  cases n with
  | integer value h => simp [settle, same, ReadsAsInteger]
  | float x =>
    cases hwhole : x.whole? with
    | none => simp [settle, same, ReadsAsInteger, hwhole, Binary64.same]
    | some value =>
      by_cases hword : InWord value
      · simp [settle, same, ReadsAsInteger, hwhole, ofInt?_eq_some hword, hword]
      · simp [settle, same, ReadsAsInteger, hwhole, ofInt?_eq_none hword, hword, Binary64.same]

end Number

namespace Json

mutual
def numbers : Json → List Number
  | .num n => [n]
  | .arr items => numbersItems items
  | .obj members => numbersMembers members
  | _ => []

def numbersItems : List Json → List Number
  | [] => []
  | item :: rest => numbers item ++ numbersItems rest

def numbersMembers : List (String × Json) → List Number
  | [] => []
  | (_, value) :: rest => numbers value ++ numbersMembers rest
end

theorem sameItems_mapNumbers {f : Number → Number} {P : Number → Prop} {items : List Json}
    (h : ∀ v ∈ items, (v.mapNumbers f).same v = true ↔ ∀ n ∈ v.numbers, P n) :
    sameItems (mapNumbersItems f items) items = true ↔ ∀ n ∈ numbersItems items, P n := by
  induction items with
  | nil => simp [mapNumbersItems, sameItems, numbersItems]
  | cons item rest ih =>
    rw [mapNumbersItems, sameItems, numbersItems, Bool.and_eq_true, List.forall_mem_append,
      h item List.mem_cons_self, ih fun v hv => h v (List.mem_cons_of_mem _ hv)]

theorem sameMembers_mapNumbers {f : Number → Number} {P : Number → Prop}
    {members : List (String × Json)}
    (h : ∀ e ∈ members, (e.2.mapNumbers f).same e.2 = true ↔ ∀ n ∈ e.2.numbers, P n) :
    sameMembers (mapNumbersMembers f members) members = true ↔
      ∀ n ∈ numbersMembers members, P n := by
  induction members with
  | nil => simp [mapNumbersMembers, sameMembers, numbersMembers]
  | cons member rest ih =>
    obtain ⟨key, value⟩ := member
    have hvalue := h (key, value) List.mem_cons_self
    rw [mapNumbersMembers, sameMembers, numbersMembers, Bool.and_eq_true, Bool.and_eq_true,
      List.forall_mem_append, ih fun e he => h e (List.mem_cons_of_mem _ he), hvalue]
    simp

theorem settle_same_iff (v : Json) :
    v.settle.same v = true ↔ ∀ n ∈ v.numbers, ¬ n.ReadsAsInteger := by
  induction v using induct with
  | null => simp [settle, mapNumbers, same, numbers]
  | bool value => simp [settle, mapNumbers, same, numbers]
  | num n => simp [settle, mapNumbers, same, numbers, Number.settle_same_iff]
  | str s => simp [settle, mapNumbers, same, numbers]
  | arr items ih => exact sameItems_mapNumbers ih
  | obj members ih => exact sameMembers_mapNumbers ih

theorem scans_of_spells {text : List Char} {v : Json} (h : Spells text v.tokens) :
    Scans text v.tokens [] := by
  have hscans := h [] (stopsAt_nil _)
  rwa [List.append_nil] at hscans

theorem parse_canonical_eq_ok_iff (v w : Json) :
    parse v.canonical = .ok w ↔ v.settle.arrange.depth ≤ maxDepth ∧ w = v.normalize.settle := by
  have hread := parseChars_eq_ok_iff (scans_of_spells (spells_canonical v)) w
  rw [normalize_arrange, settle, normalize_mapNumbers] at hread
  rw [parse, canonical, String.toList_ofList]
  exact hread

theorem parse_pretty {v : Json} (hdepth : v.depth ≤ maxDepth) :
    parse (v.pretty ++ "\n") = .ok v.normalize := by
  have hbreak : ∀ c ∈ ['\n'], isSpace c = true := by simp [isSpace]
  have hspells := (spells_pretty v 0).append_blanks hbreak
  have hread := (parseChars_eq_ok_iff (scans_of_spells hspells) v.normalize).2 ⟨hdepth, rfl⟩
  rw [parse, String.toList_append, pretty, String.toList_ofList]
  exact hread

theorem render_eq_ok_iff (v : Json) (text : String) :
    v.render = .ok text ↔
      v.settle.arrange.depth ≤ maxDepth ∧ text = v.normalize.settle.pretty ++ "\n" := by
  unfold render
  cases hread : parse v.canonical with
  | ok w =>
    obtain ⟨hdepth, rfl⟩ := (parse_canonical_eq_ok_iff v w).1 hread
    simp [Except.map, hdepth, eq_comm]
  | error e =>
    have hdeep : ¬ v.settle.arrange.depth ≤ maxDepth := by
      intro hdepth
      rw [(parse_canonical_eq_ok_iff v _).2 ⟨hdepth, rfl⟩] at hread
      cases hread
    simp [Except.map, hdeep]

/-- What is printed for a value reads back as its normal form, with settled numbers. -/
theorem parse_of_render {v : Json} {text : String} (h : v.render = .ok text) :
    parse text = .ok v.normalize.settle := by
  obtain ⟨hdepth, rfl⟩ := (render_eq_ok_iff v text).1 h
  have hnormal : v.normalize.settle = v.settle.arrange.normalize := by
    rw [normalize_arrange, settle, settle, normalize_mapNumbers]
  have hshallow : v.normalize.settle.depth ≤ maxDepth := by
    rw [hnormal]
    exact Nat.le_trans (depth_normalize_le _) hdepth
  rw [parse_pretty hshallow, hnormal, normalize_normalize]

end Json
end RuleStack

namespace RuleStack.Json

/-- What is read back where the value was printed. -/
def printed (v : Json) : Json := v.normalize.settle

theorem printed_normalize (v : Json) : v.normalize.printed = v.printed := by
  rw [printed, normalize_normalize, printed]

theorem printed_arr (items : List Json) : (arr items).printed = arr (items.map printed) := by
  rw [printed, normalize, settle, mapNumbers, mapNumbersItems_eq, normalizeItems_eq, List.map_map]
  rfl

theorem printed_obj (members : List (String × Json)) :
    (obj members).printed =
      obj ((KeyMap.ofList members).entries.map fun e => (e.1, e.2.printed)) := by
  rw [printed, normalize, object, normalizeMembers_eq, KeyMap.entries_ofList_map, settle,
    mapNumbers, mapNumbersMembers_eq, List.map_map]
  rfl

theorem member?_printed (members : List (String × Json)) (key : String) :
    (obj members).printed.member? key = ((KeyMap.ofList members).get? key).map printed := by
  rw [printed_obj]
  exact KeyMap.lookup_map printed _ key

theorem depth_printed (v : Json) : v.printed.depth = v.normalize.depth := depth_mapNumbers _ _

/-- A value prints unless it nests too deep. -/
theorem exists_render_iff (v : Json) :
    (∃ text, v.render = .ok text) ↔ v.printed.depth ≤ maxDepth := by
  have hdepth : v.settle.arrange.depth = v.printed.depth := by
    rw [depth_arrange, settle, normalize_mapNumbers]
    rfl
  simp only [render_eq_ok_iff, hdepth, exists_and_left, exists_eq, and_true]

theorem exists_render_of_depth_le {v : Json} (h : v.depth ≤ maxDepth) :
    ∃ text, v.render = .ok text := by
  rw [exists_render_iff, depth_printed]
  exact Nat.le_trans (depth_normalize_le v) h

theorem depth_of_member? {v w : Json} {key : String} (h : v.member? key = some w) :
    w.depth + 1 ≤ v.depth := by
  cases v with
  | obj members =>
    obtain ⟨es, fs, rfl, -⟩ := List.lookup_eq_some_iff.1 h
    rw [depth, Nat.add_le_add_iff_right]
    exact (depthMembers_le_iff _ _).1 (Nat.le_refl _) (key, w) (by simp)
  | _ => cases h

/-- The value below these keys, one inside the other. -/
def at? (v : Json) : List String → Option Json
  | [] => some v
  | key :: rest => (v.member? key).bind (·.at? rest)

theorem at?_append (v : Json) (path more : List String) :
    v.at? (path ++ more) = (v.at? path).bind (·.at? more) := by
  induction path generalizing v with
  | nil => rfl
  | cons key rest ih =>
    rw [List.cons_append, at?, at?]
    cases v.member? key with
    | none => rfl
    | some u => exact ih u

theorem depth_of_at? {path : List String} {v w : Json} (h : v.at? path = some w) :
    w.depth + path.length ≤ v.depth := by
  induction path generalizing v with
  | nil =>
    cases h
    exact Nat.le_refl _
  | cons key rest ih =>
    obtain ⟨u, hu, hw⟩ := Option.bind_eq_some_iff.1 h
    have hmember := depth_of_member? hu
    have hrest := ih hw
    rw [List.length_cons]
    omega

end RuleStack.Json
