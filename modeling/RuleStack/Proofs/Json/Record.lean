import Mathlib.Data.List.Nodup
import Mathlib.Data.List.Pairwise
import RuleStack.Proofs.Json.Decoded
/-!
In an orderless record any two members with different names can change places
(`Orderless.readMember_swap`). A record is orderless where its fields set parts of their own
(`Separate`) and unlisted members are kept in another part (`KeepsIn`).
-/
set_option autoImplicit false

namespace RuleStack

/-- What two steps give, one after the other, they give the other way round. -/
def Swap {ε σ : Type} (p q : σ → Except ε σ) : Prop :=
  ∀ s u, (p s >>= q) = .ok u ↔ (q s >>= p) = .ok u

namespace Swap

variable {ε σ : Type} {p q : σ → Except ε σ}

theorem symm (h : Swap p q) : Swap q p := fun s u => (h s u).symm

theorem of_ok (q : σ → Except ε σ) : Swap .ok q := by
  intro s u
  cases hq : q s <;> simp [bind, Except.bind, hq]

theorem of_error (e : ε) (q : σ → Except ε σ) : Swap (fun _ => .error e) q := by
  intro s u
  cases hq : q s <;> simp [bind, Except.bind]

theorem of_set {α : Type} {f : σ → σ} {g : α → σ → σ} (h : ∀ a s, g a (f s) = f (g a s))
    (x : Except ε α) : Swap (fun s => .ok (f s)) (fun s => x.map (g · s)) := by
  intro s u
  cases x <;> simp [Except.map, bind, Except.bind, h]

theorem of_sets {α β : Type} {f : α → σ → σ} {g : β → σ → σ}
    (h : ∀ a b s, g b (f a s) = f a (g b s)) (x : Except ε α) (y : Except ε β) :
    Swap (fun s => x.map (f · s)) (fun s => y.map (g · s)) := by
  intro s u
  cases x <;> cases y <;> simp [Except.map, bind, Except.bind, h]

end Swap

namespace Field

variable {σ : Type}

def Swaps (f g : Field σ) : Prop := ∀ v w, Swap (f.read v) (g.read w)

/-- Every field changes places with all that follow it. -/
def Apart : List (Field σ) → Prop
  | [] | [_] => True
  | [f, g] => f.Swaps g
  | f :: fields => fields.Forall f.Swaps ∧ Apart fields

theorem pairwise_of_apart {fields : List (Field σ)} (h : Apart fields) : fields.Pairwise Swaps := by
  induction fields using Apart.induct with
  | case1 => exact .nil
  | case2 f => exact List.pairwise_singleton _ f
  | case3 f g => exact List.pairwise_pair.2 h
  | case4 f fields _ _ ih =>
    rw [Apart] at h
    · exact .cons (List.forall_iff_forall_mem.1 h.1) (ih h.2)
    all_goals assumption

end Field

namespace Record

variable {σ : Type} {r : Record σ}

def names (r : Record σ) : List String := r.fields.map (·.name)

/-- No name stands for two fields, and members with different names can change places. -/
structure Orderless (r : Record σ) : Prop where
  names : r.names.Nodup
  fields : r.fields.Pairwise Field.Swaps
  kept : ∀ keep, r.unlisted = .kept keep → ∀ key v,
    (∀ f ∈ r.fields, ∀ w, Swap (fun s => .ok (keep key v s)) (f.read w)) ∧
    ∀ other w, key ≠ other →
      Swap (ε := Mismatch) (fun s => .ok (keep key v s)) (fun s => .ok (keep other w s))

theorem mem_names_iff (r : Record σ) (name : String) :
    name ∈ r.names ↔ ∃ f ∈ r.fields, f.name = name := List.mem_map

theorem exists_field {m : String × Json} (hm : m.1 ∈ r.names) :
    ∃ f ∈ r.fields, f.name = m.1 ∧ (r.readMember · m) = f.read m.2 := by
  cases hfind : r.fields.find? (·.name == m.1) with
  | some f =>
    refine ⟨f, List.mem_of_find?_eq_some hfind, by simpa using List.find?_some hfind, ?_⟩
    funext s
    rw [readMember, hfind]
  | none =>
    obtain ⟨f, hf, hname⟩ := (r.mem_names_iff m.1).1 hm
    exact absurd (beq_iff_eq.2 hname) (List.find?_eq_none.1 hfind f hf)

theorem readMember_of_mem (h : r.names.Nodup) {f : Field σ} (hf : f ∈ r.fields) (s : σ)
    (v : Json) : r.readMember s (f.name, v) = f.read v s := by
  obtain ⟨g, hg, hname, hread⟩ := exists_field (m := (f.name, v))
    ((r.mem_names_iff f.name).2 ⟨f, hf, rfl⟩)
  cases List.inj_on_of_nodup_map h hg hf hname
  exact congrFun hread s

theorem find?_of_not_mem {name : String} (h : name ∉ r.names) :
    r.fields.find? (·.name == name) = none := by
  rw [List.find?_eq_none]
  intro f hf hname
  exact h ((r.mem_names_iff name).2 ⟨f, hf, beq_iff_eq.1 hname⟩)

theorem readMember_of_not_mem {keep : String → Json → σ → σ} (hkept : r.unlisted = .kept keep)
    {m : String × Json} (hm : m.1 ∉ r.names) (s : σ) :
    r.readMember s m = .ok (keep m.1 m.2 s) := by
  rw [readMember, find?_of_not_mem hm, hkept]

theorem swap_of_not_mem {m : String × Json} (hm : m.1 ∉ r.names) {q : σ → Except Mismatch σ}
    (hq : ∀ keep, r.unlisted = .kept keep → Swap (fun s => .ok (keep m.1 m.2 s)) q) :
    Swap (r.readMember · m) q := by
  simp only [readMember, find?_of_not_mem hm]
  cases hunlisted : r.unlisted with
  | ignored => exact .of_ok q
  | refused => exact .of_error _ q
  | kept keep => exact hq keep hunlisted

namespace Orderless

variable (h : r.Orderless)
include h

theorem fields_swap {f g : Field σ} (hf : f ∈ r.fields) (hg : g ∈ r.fields)
    (hne : f.name ≠ g.name) (v w : Json) : Swap (f.read v) (g.read w) := by
  have hsymm : Std.Symm (Field.Swaps (σ := σ)) := ⟨fun _ _ hswap v w => (hswap w v).symm⟩
  exact h.fields.forall hf hg (fun he => hne (congrArg Field.name he)) v w

theorem readMember_swap {m n : String × Json} (hne : m.1 ≠ n.1) :
    Swap (r.readMember · m) (r.readMember · n) := by
  by_cases hm : m.1 ∈ r.names
  · obtain ⟨f, hf, hfm, hread⟩ := exists_field hm
    rw [hread]
    by_cases hn : n.1 ∈ r.names
    · obtain ⟨g, hg, hgn, hread'⟩ := exists_field hn
      rw [hread']
      exact h.fields_swap hf hg (by rwa [hfm, hgn]) m.2 n.2
    · exact (swap_of_not_mem hn fun keep hkept => (h.kept keep hkept n.1 n.2).1 f hf m.2).symm
  · refine swap_of_not_mem hm fun keep hkept => ?_
    by_cases hn : n.1 ∈ r.names
    · obtain ⟨g, hg, -, hread'⟩ := exists_field hn
      rw [hread']
      exact (h.kept keep hkept m.1 m.2).1 g hg n.2
    · refine (swap_of_not_mem hn fun keep' hkept' => ?_).symm
      cases hkept.symm.trans hkept'
      exact (h.kept keep hkept n.1 n.2).2 m.1 m.2 hne.symm

theorem foldlM_of_perm {members others : List (String × Json)} (hperm : members.Perm others)
    (hnames : (members.map (·.1)).Nodup) (s u : σ) :
    members.foldlM r.readMember s = .ok u ↔ others.foldlM r.readMember s = .ok u := by
  -- two neighbours that change places differ in name, since all members do
  induction hperm generalizing s with
  | nil => exact Iff.rfl
  | cons m _ ih =>
    rw [List.map_cons, List.nodup_cons] at hnames
    simp only [List.foldlM_cons, Outcome.bind_eq_ok_iff, ih hnames.2]
  | swap m n rest =>
    have hne : n.1 ≠ m.1 := fun he => by simp [he] at hnames
    simp only [List.foldlM_cons]
    rw [← bind_assoc, ← bind_assoc, Outcome.bind_eq_ok_iff, Outcome.bind_eq_ok_iff]
    exact exists_congr fun t => and_congr_left fun _ => h.readMember_swap hne s t
  | trans hfirst _ ih ih' =>
    exact (ih hnames s).trans (ih' ((hfirst.map _).nodup_iff.1 hnames) s)

end Orderless

/-- No name stands for two fields, and any two fields can change places. A record of fields that each
set a part of their own is separate by the proofs that stand here. -/
structure Separate (r : Record σ) : Prop where
  names : r.names.Nodup := by decide
  fields : Field.Apart r.fields := by
    and_intros <;> exact fun _ _ => .of_sets (by intros; rfl) _ _

theorem Separate.orderless (h : r.Separate) (hunlisted : ∀ keep, r.unlisted ≠ .kept keep) :
    r.Orderless :=
  ⟨h.names, Field.pairwise_of_apart h.fields, fun keep hkeep => absurd hkeep (hunlisted keep)⟩

/-- Unlisted members are kept in a map, which `get` and `set` read and replace in a state, and which
no field sets. -/
structure KeepsIn (r : Record σ) (get : σ → KeyMap Json) (set : KeyMap Json → σ → σ) : Prop
    extends Separate r where
  unlisted : r.unlisted = .kept fun key v s => set ((get s).insert key v) s := by rfl
  get_set : ∀ m s, get (set m s) = m := by intros; rfl
  set_set : ∀ m n s, set m (set n s) = set m s := by intros; rfl
  set_get : ∀ s, set (get s) s = s := by intros; rfl
  kept : r.fields.Forall fun f => ∀ key v w,
      Swap (fun s => .ok (set ((get s).insert key v) s)) (f.read w) := by
    and_intros <;> exact fun _ _ _ => .of_set (by intros; rfl) _

namespace KeepsIn

variable {get : σ → KeyMap Json} {set : KeyMap Json → σ → σ} (h : r.KeepsIn get set)
include h

theorem orderless : r.Orderless := by
  refine ⟨h.names, Field.pairwise_of_apart h.fields, fun keep hkeep key v => ?_⟩
  cases h.unlisted.symm.trans hkeep
  refine ⟨fun f hf => List.forall_iff_forall_mem.1 h.kept f hf key v, fun other w hne s u => ?_⟩
  simp only [bind, Except.bind, h.get_set, h.set_set, KeyMap.insert_comm _ hne]

theorem foldlM_readMember {members : List (String × Json)} (hfree : ∀ e ∈ members, e.1 ∉ r.names)
    (s : σ) : members.foldlM r.readMember s = .ok (set ((get s).insertAll members) s) := by
  induction members generalizing s with
  | nil => rw [KeyMap.insertAll, h.set_get]; rfl
  | cons m rest ih =>
    rw [List.forall_mem_cons] at hfree
    rw [List.foldlM_cons, readMember_of_not_mem h.unlisted hfree.1]
    refine (ih hfree.2 _).trans ?_
    rw [h.get_set, h.set_set]
    rfl

end KeepsIn

end Record

def Field.Keeps {σ : Type} (f : Field σ) (P : σ → Prop) : Prop :=
  ∀ v s u, v.Normal → P s → f.read v s = .ok u → P u

namespace Field.Keeps

variable {σ α : Type} {P : σ → Prop} {name : String} {read : Json → Except Mismatch α}
  {set : α → σ → σ} (h : ∀ v a s, v.Normal → read v = .ok a → P s → P (set a s))
include h

theorem optional : (Field.optional name read set).Keeps P := by
  intro v s u hv hs hread
  obtain ⟨a, ha, rfl⟩ := (Outcome.map_eq_ok_iff _ _ _).1 hread
  exact h v a s hv ha hs

theorem mandatory : (Field.mandatory name read set).Keeps P :=
  (optional h : (Field.optional name read set).Keeps P)

end Field.Keeps

namespace Record

variable {σ : Type} {r : Record σ} {P : σ → Prop}

section Start

variable (hstart : P r.start)
include hstart

/-- What holds at the start and is kept by every field and by every unlisted member holds of what
is read from an object. -/
theorem readMembers_induction {members : List (String × Json)}
    (hfield : ∀ f ∈ r.fields, ∀ m ∈ members, ∀ s u, P s → f.read m.2 s = .ok u → P u)
    (hkept : ∀ keep, r.unlisted = .kept keep → ∀ m ∈ members, ∀ s, m.1 ∉ r.names → P s →
      P (keep m.1 m.2 s)) {t : σ} (h : r.readMembers members = .ok t) : P t := by
  obtain ⟨u, hu, hdone⟩ := (Outcome.bind_eq_ok_iff _ _ _).1 h
  split at hdone
  · cases hdone
  · cases hdone
    refine Outcome.foldlM_induction members (fun s m hm u hs hread => ?_) hstart hu
    by_cases hname : m.1 ∈ r.names
    · obtain ⟨f, hf, -, hmember⟩ := exists_field hname
      exact hfield f hf m hm s u hs ((congrFun hmember s).symm.trans hread)
    · rw [readMember, find?_of_not_mem hname] at hread
      cases hunlisted : r.unlisted with
      | ignored =>
        rw [hunlisted] at hread
        cases hread
        exact hs
      | refused =>
        rw [hunlisted] at hread
        cases hread
      | kept keep =>
        rw [hunlisted] at hread
        cases hread
        exact hkept keep hunlisted m hm s hname hs

theorem readInOrder_induction {items : List Json}
    (hfield : ∀ f ∈ r.fields, ∀ v ∈ items, ∀ s u, P s → f.read v s = .ok u → P u) {t : σ}
    (h : r.readInOrder 0 r.start r.fields items = .ok t) : P t := by
  -- the fields and items that are left
  suffices hall : ∀ fields rest passed s, fields ⊆ r.fields → rest ⊆ items → P s →
      r.readInOrder passed s fields rest = .ok t → P t from
    hall r.fields items 0 r.start (List.Subset.refl _) (List.Subset.refl _) hstart h
  clear h hstart
  intro fields
  induction fields with
  | nil =>
    intro rest passed s _ _ hs h
    cases rest <;> cases h
    exact hs
  | cons f fields ih =>
    intro rest passed s hfields hrest hs h
    have hlater := List.subset_of_cons_subset hfields
    cases rest with
    | nil =>
      rw [readInOrder] at h
      split at h
      · cases h
      · exact ih [] (passed + 1) s hlater hrest hs h
    | cons v rest =>
      obtain ⟨u, hu, h⟩ := (Outcome.bind_eq_ok_iff _ _ _).1 h
      exact ih rest (passed + 1) u hlater (List.subset_of_cons_subset hrest)
        (hfield f (hfields List.mem_cons_self) v (hrest List.mem_cons_self) s u hs hu) h

/-- What is read from a value in normal form, be it an object or a list. -/
theorem decoded_induction (hfields : r.fields.Forall (·.Keeps P))
    (hkept : ∀ keep, r.unlisted = .kept keep → ∀ key v s, key ∉ r.names → v.Normal → P s →
      P (keep key v s)) {t : σ} (h : Json.Decoded r.read t) : P t := by
  obtain ⟨v, hv, h⟩ := h
  have hfield := List.forall_iff_forall_mem.1 hfields
  cases v with
  | obj members =>
    have hnormal := ((Json.normal_obj members).1 hv).2
    exact readMembers_induction hstart (fun f hf m hm s u => hfield f hf m.2 s u (hnormal m hm))
      (fun keep hkeep m hm s hname => hkept keep hkeep m.1 m.2 s hname (hnormal m hm)) h
  | arr items =>
    rw [Json.normal_arr] at hv
    rw [read] at h
    split at h
    · cases h
    · exact readInOrder_induction hstart (fun f hf v hmem s u => hfield f hf v s u (hv v hmem)) h
  | _ => cases h

end Start

theorem KeepsIn.decoded_induction {get : σ → KeyMap Json} {set : KeyMap Json → σ → σ}
    (hkeeps : r.KeepsIn get set) (hstart : P r.start) (hfields : r.fields.Forall (·.Keeps P))
    (hkept : ∀ key v s, key ∉ r.names → v.Normal → P s → P (set ((get s).insert key v) s)) {t : σ}
    (h : Json.Decoded r.read t) : P t := by
  refine Record.decoded_induction hstart hfields (fun keep hkeep => ?_) h
  cases hkeeps.unlisted.symm.trans hkeep
  exact hkept

end Record
end RuleStack
