import RuleStack.Proofs.Json.Structure
/-!
A template is closed when every reference in it finds an entry, and acyclic when no way along its
references leads from a resource back to it. Added resources that are layered leave no reference
dangling (`Extends.closed`) and close no cycle (`Extends.acyclic`).
-/
set_option autoImplicit false

namespace RuleStack

inductive Reference where
  | ref (target : String)
  | getAtt (target : String)
  | dependsOn (target : String)
  deriving DecidableEq, Repr

def Reference.target : Reference → String
  | .ref target | .getAtt target | .dependsOn target => target

def isPseudo (key : String) : Bool := "AWS::".toList.isPrefixOf key.toList

namespace Json

def reference? : List (String × Json) → Option Reference
  | [("Ref", .str target)] => some (.ref target)
  | [("Fn::GetAtt", .arr (.str target :: _))] => some (.getAtt target)
  | _ => none

mutual
def references : Json → List Reference
  | .arr items => referencesItems items
  | .obj members => (reference? members).toList ++ referencesMembers members
  | _ => []

def referencesItems : List Json → List Reference
  | [] => []
  | item :: rest => item.references ++ referencesItems rest

def referencesMembers : List (String × Json) → List Reference
  | [] => []
  | (_, value) :: rest => value.references ++ referencesMembers rest
end

def isReferring (key : String) : Bool := key == "Ref" || key == "Fn::GetAtt"

mutual
/-- No object in the value has a member by which it could refer to an entry. -/
def isInert : Json → Bool
  | .arr items => areInertItems items
  | .obj members => areInertMembers members
  | _ => true

def areInertItems : List Json → Bool
  | [] => true
  | item :: rest => item.isInert && areInertItems rest

def areInertMembers : List (String × Json) → Bool
  | [] => true
  | (key, value) :: rest => !isReferring key && value.isInert && areInertMembers rest
end

end Json

namespace Resource

def dependencies (r : Resource) : List String :=
  match r.dependsOn with
  | some (.str key) => [key]
  | some (.arr items) => items.filterMap Json.asText?
  | _ => []

def references (r : Resource) : List Reference :=
  r.dependencies.map .dependsOn ++ r.toJson.references

end Resource

def Output.references (o : Output) : List Reference := o.toJson.references

namespace Template

/-- The template has what the reference names. A value may also be that of a parameter, or one that
is there without a declaration. -/
def Resolves (t : Template) : Reference → Prop
  | .ref target =>
    target ∈ t.parameters.keys ∨ target ∈ t.resources.keys ∨ isPseudo target = true
  | .getAtt target | .dependsOn target => target ∈ t.resources.keys

instance (t : Template) : DecidablePred t.Resolves
  | .ref _ => inferInstanceAs (Decidable (_ ∨ _ ∨ _))
  | .getAtt _ | .dependsOn _ => inferInstanceAs (Decidable (_ ∈ _))

/-- No reference of a resource or an output is left dangling. -/
structure Closed (t : Template) : Prop where
  resources : ∀ e ∈ t.resources.entries, ∀ x ∈ e.2.references, t.Resolves x
  outputs : ∀ e ∈ t.outputs.entries, ∀ x ∈ e.2.references, t.Resolves x

instance (t : Template) : Decidable t.Closed :=
  decidable_of_iff
    ((∀ e ∈ t.resources.entries, ∀ x ∈ e.2.references, t.Resolves x) ∧
      ∀ e ∈ t.outputs.entries, ∀ x ∈ e.2.references, t.Resolves x)
    ⟨fun h => ⟨h.1, h.2⟩, fun h => ⟨h.resources, h.outputs⟩⟩

/-- The reference makes a resource wait for another: it names a resource, and not a parameter of
the same key. -/
def Orders (t : Template) (x : Reference) : Prop :=
  x.target ∈ t.resources.keys ∧ isPseudo x.target = false ∧
    ∀ target, x = .ref target → target ∉ t.parameters.keys

def Edge (t : Template) (a b : String) : Prop :=
  ∃ r, (a, r) ∈ t.resources.entries ∧ ∃ x ∈ r.references, x.target = b ∧ t.Orders x

def Acyclic (t : Template) : Prop := ∀ key, ¬ Relation.TransGen t.Edge key key

theorem acyclic_of_rank {t : Template} (rank : String → Nat)
    (h : ∀ a b, t.Edge a b → rank b < rank a) : t.Acyclic := by
  have hway {a b : String} (hab : Relation.TransGen t.Edge a b) : rank b < rank a := by
    induction hab with
    | single hedge => exact h _ _ hedge
    | tail _ hedge ih => exact Nat.lt_trans (h _ _ hedge) ih
  exact fun key hcycle => Nat.lt_irrefl _ (hway hcycle)

end Template

namespace Json

theorem referencesItems_eq (items : List Json) :
    referencesItems items = items.flatMap references := by
  induction items with
  | nil => rfl
  | cons item rest ih => rw [referencesItems, ih, List.flatMap_cons]

theorem referencesMembers_eq (members : List (String × Json)) :
    referencesMembers members = members.flatMap fun e => e.2.references := by
  induction members with
  | nil => rfl
  | cons e rest ih => rw [referencesMembers, ih, List.flatMap_cons]

theorem areInertItems_iff (items : List Json) :
    areInertItems items = true ↔ ∀ v ∈ items, v.isInert = true := by
  induction items with
  | nil => simp [areInertItems]
  | cons item rest ih => rw [areInertItems, Bool.and_eq_true, ih, List.forall_mem_cons]

theorem areInertMembers_iff (members : List (String × Json)) :
    areInertMembers members = true ↔
      ∀ e ∈ members, isReferring e.1 = false ∧ e.2.isInert = true := by
  induction members with
  | nil => simp [areInertMembers]
  | cons e rest ih =>
    rw [areInertMembers, Bool.and_eq_true, Bool.and_eq_true, Bool.not_eq_true', ih,
      List.forall_mem_cons]

theorem reference?_eq_none {members : List (String × Json)}
    (h : ∀ e ∈ members, isReferring e.1 = false) : reference? members = none := by
  unfold reference?
  split
  · cases h _ List.mem_cons_self
  · cases h _ List.mem_cons_self
  · rfl

theorem reference?_eq_none_of_ref {members : List (String × Json)}
    (h : ∀ e ∈ members, ∃ key, e.2 = .ref key) : reference? members = none := by
  unfold reference?
  split
  · obtain ⟨key, hkey⟩ := h _ List.mem_cons_self
    cases hkey
  · obtain ⟨key, hkey⟩ := h _ List.mem_cons_self
    cases hkey
  · rfl

@[simp] theorem references_str (value : String) : (str value).references = [] := rfl

@[simp] theorem references_num (value : Number) : (num value).references = [] := rfl

@[simp] theorem references_arr (items : List Json) :
    (arr items).references = items.flatMap references := referencesItems_eq items

@[simp] theorem references_ref (key : String) : (ref key).references = [.ref key] := rfl

@[simp] theorem references_getAtt (key part : String) :
    (getAtt key part).references = [.getAtt key] := rfl

@[simp] theorem references_join (separator : String) (parts : List Json) :
    (join separator parts).references = parts.flatMap references := by
  simp [join, references, reference?, referencesMembers, referencesItems_eq]

@[simp] theorem references_strings (values : List String) : (strings values).references = [] := by
  simp [strings, List.flatMap_map]

theorem references_eq_nil_of_isInert (v : Json) (h : v.isInert = true) : v.references = [] := by
  induction v using induct with
  | null => rfl
  | bool => rfl
  | num => rfl
  | str => rfl
  | arr items ih =>
    rw [isInert, areInertItems_iff] at h
    rw [references_arr, List.flatMap_eq_nil_iff]
    exact fun v hv => ih v hv (h v hv)
  | obj members ih =>
    rw [isInert, areInertMembers_iff] at h
    rw [references, reference?_eq_none fun e he => (h e he).1, referencesMembers_eq,
      Option.toList_none, List.nil_append, List.flatMap_eq_nil_iff]
    exact fun e he => ih e he (h e he).2

theorem isInert_normalize (v : Json) (h : v.isInert = true) : v.normalize.isInert = true := by
  induction v using induct with
  | null => rfl
  | bool => rfl
  | num => rfl
  | str => rfl
  | arr items ih =>
    rw [isInert, areInertItems_iff] at h
    rw [normalize, normalizeItems_eq, isInert, areInertItems_iff, List.forall_mem_map]
    exact fun v hv => ih v hv (h v hv)
  | obj members ih =>
    rw [isInert, areInertMembers_iff] at h
    rw [normalize, object, normalizeMembers_eq, isInert, areInertMembers_iff]
    intro e he
    obtain ⟨d, hd, rfl⟩ := List.mem_map.1 (KeyMap.mem_of_mem_ofList he)
    exact ⟨(h d hd).1, ih d hd (h d hd).2⟩

theorem references_obj {members : List (String × Json)} (h : reference? members = none) :
    (obj members).references = members.flatMap fun e => e.2.references := by
  rw [references, h, referencesMembers_eq]
  rfl

end Json
end RuleStack

namespace RuleStack.Template

/-- The template declares all that the base template does, and its resources are those of the base
template with the added ones over them. -/
structure Extends (base : Template) (added : List (String × Resource)) (t : Template) : Prop where
  parameters : ∀ key ∈ base.parameters.keys, key ∈ t.parameters.keys
  keys : ∀ key ∈ base.resources.keys, key ∈ t.resources.keys
  present : ∀ e ∈ added, e ∈ t.resources.entries
  resources : ∀ e ∈ t.resources.entries, e ∈ added ∨ e ∈ base.resources.entries

def HasBelow (rank : Resource → Nat) (added : List (String × Resource)) (bound : Nat)
    (key : String) : Prop :=
  ∃ r, (key, r) ∈ added ∧ rank r < bound

/-- The reference names a parameter, or one of the entries below the bound. -/
def Answers (rank : Resource → Nat) (added : List (String × Resource)) (bound : Nat)
    (t : Template) : Reference → Prop
  | .ref key => key ∈ t.parameters.keys ∨ isPseudo key = true ∨ HasBelow rank added bound key
  | .getAtt key | .dependsOn key => HasBelow rank added bound key

/-- The entries refer to one another from higher ranks to lower ones, and else to parameters only. -/
def Layered (rank : Resource → Nat) (added : List (String × Resource)) (t : Template) : Prop :=
  ∀ e ∈ added, ∀ x ∈ e.2.references, t.Answers rank added (rank e.2) x

theorem Answers.hasBelow_of_orders {rank : Resource → Nat} {added : List (String × Resource)}
    {bound : Nat} {t : Template} {x : Reference} (h : t.Answers rank added bound x)
    (horders : t.Orders x) : HasBelow rank added bound x.target := by
  obtain ⟨-, hpseudo, hparameter⟩ := horders
  cases x with
  | ref key =>
    rcases h with h | h | h
    · exact absurd h (hparameter key rfl)
    · exact absurd (hpseudo.symm.trans h) Bool.false_ne_true
    · exact h
  | getAtt key => exact h
  | dependsOn key => exact h

namespace Extends

variable {base t : Template} {added : List (String × Resource)} {rank : Resource → Nat}
  (h : base.Extends added t)
include h

theorem mem_keys_of_hasBelow {bound : Nat} {key : String} (hkey : HasBelow rank added bound key) :
    key ∈ t.resources.keys := by
  obtain ⟨r, hr, -⟩ := hkey
  exact KeyMap.mem_keys_of_mem (h.present _ hr)

theorem resolves_of_answers {bound : Nat} {x : Reference} (hx : t.Answers rank added bound x) :
    t.Resolves x := by
  cases x with
  | ref key =>
    rcases hx with hx | hx | hx
    · exact .inl hx
    · exact .inr (.inr hx)
    · exact .inr (.inl (h.mem_keys_of_hasBelow hx))
  | getAtt key => exact h.mem_keys_of_hasBelow hx
  | dependsOn key => exact h.mem_keys_of_hasBelow hx

theorem resolves_of_base {x : Reference} (hx : base.Resolves x) : t.Resolves x := by
  cases x with
  | ref key => exact hx.imp (h.parameters key) (Or.imp_left (h.keys key))
  | getAtt key => exact h.keys key hx
  | dependsOn key => exact h.keys key hx

theorem closed (hlayered : t.Layered rank added) (hbase : base.Closed)
    (houtputs : ∀ e ∈ t.outputs.entries,
      e ∈ base.outputs.entries ∨ ∃ bound, ∀ x ∈ e.2.references, t.Answers rank added bound x) :
    t.Closed := by
  constructor
  · intro e he x hx
    rcases h.resources e he with hadded | hold
    · exact h.resolves_of_answers (hlayered e hadded x hx)
    · exact h.resolves_of_base (hbase.resources e hold x hx)
  · intro e he x hx
    rcases houtputs e he with hold | ⟨bound, hanswers⟩
    · exact h.resolves_of_base (hbase.outputs e hold x hx)
    · exact h.resolves_of_answers (hanswers x hx)

omit h in
def rankAt (rank : Resource → Nat) (t : Template) (key : String) : Nat :=
  ((t.resources.get? key).map rank).getD 0

theorem rankAt_of_mem {e : String × Resource} (he : e ∈ added) : rankAt rank t e.1 = rank e.2 := by
  rw [rankAt, KeyMap.get?_eq_some_of_mem (h.present e he)]
  rfl

/-- From an added resource the references lead on to added resources, of lower rank. -/
theorem mem_of_edge (hlayered : t.Layered rank added) {a b : String} (hedge : t.Edge a b)
    (ha : a ∈ added.map (·.1)) :
    b ∈ added.map (·.1) ∧ rankAt rank t b < rankAt rank t a := by
  obtain ⟨r, hr, x, hx, rfl, horders⟩ := hedge
  obtain ⟨e, he, rfl⟩ := List.mem_map.1 ha
  have hsame : e.2 = r := Option.some.inj
    ((KeyMap.get?_eq_some_of_mem (h.present e he)).symm.trans (KeyMap.get?_eq_some_of_mem hr))
  obtain ⟨q, hq, hlt⟩ := (hlayered e he x (hsame ▸ hx)).hasBelow_of_orders horders
  refine ⟨List.mem_map_of_mem (f := (·.1)) hq, ?_⟩
  rw [h.rankAt_of_mem he, h.rankAt_of_mem hq]
  exact hlt

theorem mem_of_transGen (hlayered : t.Layered rank added) {a b : String}
    (hway : Relation.TransGen t.Edge a b) (ha : a ∈ added.map (·.1)) :
    b ∈ added.map (·.1) ∧ rankAt rank t b < rankAt rank t a := by
  induction hway with
  | single hedge => exact h.mem_of_edge hlayered hedge ha
  | tail _ hedge ih =>
    obtain ⟨hb, hlt⟩ := ih
    obtain ⟨hc, hlt'⟩ := h.mem_of_edge hlayered hedge hb
    exact ⟨hc, Nat.lt_trans hlt' hlt⟩

theorem base_edge {a b : String} (hedge : t.Edge a b) (ha : a ∉ added.map (·.1))
    (hb : b ∉ added.map (·.1)) : base.Edge a b := by
  obtain ⟨r, hr, x, hx, rfl, hkey, hpseudo, hparameter⟩ := hedge
  have hold {key : String} {r : Resource} (hr : (key, r) ∈ t.resources.entries)
      (hkey : key ∉ added.map (·.1)) : (key, r) ∈ base.resources.entries :=
    (h.resources _ hr).resolve_left fun he => hkey (List.mem_map_of_mem (f := (·.1)) he)
  obtain ⟨e, he, hetarget⟩ := List.mem_map.1 hkey
  refine ⟨r, hold hr ha, x, hx, rfl, ?_, hpseudo, fun key hkey hmem => ?_⟩
  · rw [← hetarget] at hb ⊢
    exact KeyMap.mem_keys_of_mem (hold he hb)
  · exact hparameter key hkey (h.parameters key hmem)

theorem base_transGen (hlayered : t.Layered rank added) {a b : String}
    (hway : Relation.TransGen t.Edge a b) (hb : b ∉ added.map (·.1)) :
    Relation.TransGen base.Edge a b := by
  have hbefore {a b : String} (hedge : t.Edge a b) (hb : b ∉ added.map (·.1)) :
      a ∉ added.map (·.1) := fun ha => hb (h.mem_of_edge hlayered hedge ha).1
  induction hway with
  | single hedge => exact .single (h.base_edge hedge (hbefore hedge hb) hb)
  | tail _ hedge ih =>
    have hc := hbefore hedge hb
    exact (ih hc).tail (h.base_edge hedge hc hb)

theorem acyclic (hlayered : t.Layered rank added) (hbase : base.Acyclic) : t.Acyclic := by
  intro key hcycle
  -- a cycle with one added resource has only such, and any other one is a cycle of the base template
  by_cases hkey : key ∈ added.map (·.1)
  · exact Nat.lt_irrefl _ (h.mem_of_transGen hlayered hcycle hkey).2
  · exact hbase key (h.base_transGen hlayered hcycle hkey)

end Extends
end RuleStack.Template
