import RuleStack.Rule
set_option autoImplicit false

namespace RuleStack

/-- Something that must be so, and the error where it is not. -/
structure Requirement where
  met : Prop
  error : RuleError

namespace Requirement

def FirstUnmet (qs : List Requirement) (e : RuleError) : Prop :=
  ∃ before q after, qs = before ++ q :: after ∧ (∀ p ∈ before, p.met) ∧ ¬ q.met ∧ q.error = e

theorem not_firstUnmet_nil (e : RuleError) : ¬ FirstUnmet [] e := by
  rintro ⟨before, q, after, h, -⟩
  exact List.append_ne_nil_of_right_ne_nil before (List.cons_ne_nil q after) h.symm

theorem firstUnmet_cons_iff (q : Requirement) (qs : List Requirement) (e : RuleError) :
    FirstUnmet (q :: qs) e ↔ (¬ q.met ∧ q.error = e) ∨ (q.met ∧ FirstUnmet qs e) := by
  constructor
  · rintro ⟨before, p, after, h, hbefore, hp, he⟩
    cases before with
    | nil =>
      cases h
      exact .inl ⟨hp, he⟩
    | cons first before =>
      cases h
      rw [List.forall_mem_cons] at hbefore
      exact .inr ⟨hbefore.1, before, p, after, rfl, hbefore.2, hp, he⟩
  · rintro (⟨hq, he⟩ | ⟨hq, before, p, after, rfl, hbefore, hp, he⟩)
    · exact ⟨[], q, qs, rfl, List.forall_mem_nil _, hq, he⟩
    · exact ⟨q :: before, p, after, rfl, List.forall_mem_cons.2 ⟨hq, hbefore⟩, hp, he⟩

theorem firstUnmet_append_iff (ps qs : List Requirement) (e : RuleError) :
    FirstUnmet (ps ++ qs) e ↔ FirstUnmet ps e ∨ ((∀ p ∈ ps, p.met) ∧ FirstUnmet qs e) := by
  induction ps with
  | nil => simp [not_firstUnmet_nil]
  | cons p ps ih =>
    rw [List.cons_append, firstUnmet_cons_iff, firstUnmet_cons_iff, ih, List.forall_mem_cons,
      and_or_left, or_assoc, and_assoc]

theorem FirstUnmet.unique {qs : List Requirement} {e e' : RuleError} (h : FirstUnmet qs e)
    (h' : FirstUnmet qs e') : e = e' := by
  induction qs with
  | nil => exact absurd h (not_firstUnmet_nil e)
  | cons q qs ih =>
    rw [firstUnmet_cons_iff] at h h'
    rcases h with ⟨hq, rfl⟩ | ⟨hq, h⟩
    · exact h'.elim And.right fun h' => absurd h'.1 hq
    · exact h'.elim (fun h' => absurd hq h'.1) fun h' => ih h h'.2

theorem FirstUnmet.not_all {qs : List Requirement} {e : RuleError} (h : FirstUnmet qs e) :
    ¬ ∀ q ∈ qs, q.met := by
  obtain ⟨before, q, after, rfl, -, hq, -⟩ := h
  exact fun hall => hq (hall q (by simp))

end Requirement

open Requirement

/-- Going through these requirements one by one has this outcome. -/
structure Checks {α : Type} (x : Except RuleError α) (qs : List Requirement) : Prop where
  ok : ∀ a, x = .ok a → ∀ q ∈ qs, q.met
  error : ∀ e, x = .error e → FirstUnmet qs e

namespace Checks

variable {α β : Type} {x : Except RuleError α} {ps qs : List Requirement}

theorem pure (a : α) : Checks (.ok a) [] where
  ok _ _ := List.forall_mem_nil _
  error _ h := by cases h

theorem met {p : Prop} {e : RuleError} (h : p) (hx : Checks x qs) : Checks x (⟨p, e⟩ :: qs) where
  ok a ha := List.forall_mem_cons.2 ⟨h, hx.ok a ha⟩
  error e' he := (firstUnmet_cons_iff _ qs e').2 (.inr ⟨h, hx.error e' he⟩)

theorem unmet {p : Prop} {e : RuleError} (h : ¬ p) (qs : List Requirement) :
    Checks (.error e : Except RuleError α) (⟨p, e⟩ :: qs) where
  ok _ ha := nomatch ha
  error e' he := (firstUnmet_cons_iff _ qs e').2 (.inl ⟨h, Except.error.inj he⟩)

theorem guard {p : Prop} {b : Bool} {e : RuleError} (h : b = true ↔ ¬ p) (hx : Checks x qs) :
    Checks (if b = true then .error e else x) (⟨p, e⟩ :: qs) := by
  by_cases hp : p
  · rw [if_neg fun hb => h.1 hb hp]
    exact met hp hx
  · rw [if_pos (h.2 hp)]
    exact unmet hp qs

/-- The steps after one that succeeds add their own requirements. -/
theorem bind {f : α → Except RuleError β} (hx : Checks x ps)
    (hf : ∀ a, x = .ok a → Checks (f a) qs) : Checks (x >>= f) (ps ++ qs) := by
  cases x with
  | error e =>
    refine ⟨fun _ h => (nomatch h), fun e' h => ?_⟩
    cases h
    exact (firstUnmet_append_iff ps qs e).2 (.inl (hx.error e rfl))
  | ok a =>
    have hps := hx.ok a rfl
    have hfa := hf a rfl
    refine ⟨fun b hb => ?_, fun e he => ?_⟩
    · exact List.forall_mem_append.2 ⟨hps, hfa.ok b hb⟩
    · exact (firstUnmet_append_iff ps qs e).2 (.inr ⟨hps, hfa.error e he⟩)

theorem bind_nil {f : α → Except RuleError β} (hx : Checks x qs)
    (hf : ∀ a, x = .ok a → Checks (f a) []) : Checks (x >>= f) qs := by
  simpa using hx.bind hf

theorem map (f : α → β) (hx : Checks x qs) : Checks (x.map f) qs := by
  cases x with
  | error e =>
    refine ⟨fun _ h => (nomatch h), fun e' h => ?_⟩
    cases h
    exact hx.error e rfl
  | ok a => exact ⟨fun _ _ => hx.ok a rfl, fun _ h => nomatch h⟩

theorem forM {check : α → Except RuleError Unit} {requirements : α → List Requirement}
    (h : ∀ a, Checks (check a) (requirements a)) (items : List α) :
    Checks (items.forM check) (items.flatMap requirements) := by
  induction items with
  | nil => exact pure ()
  | cons a rest ih => exact (h a).bind fun _ _ => ih

theorem exists_ok_iff (hx : Checks x qs) : (∃ a, x = .ok a) ↔ ∀ q ∈ qs, q.met := by
  refine ⟨fun ⟨a, h⟩ => hx.ok a h, fun hall => ?_⟩
  cases x with
  | error e => exact absurd hall (hx.error e rfl).not_all
  | ok a => exact ⟨a, rfl⟩

theorem error_iff (hx : Checks x qs) (e : RuleError) : x = .error e ↔ FirstUnmet qs e := by
  refine ⟨hx.error e, fun h => ?_⟩
  cases x with
  | error e' => rw [(hx.error e' rfl).unique h]
  | ok a => exact absurd (hx.ok a rfl) h.not_all

/-- A step that asks again for what is met asks for nothing more. -/
theorem again (hx : Checks x qs) (hall : ∀ q ∈ qs, q.met) : Checks x [] := by
  obtain ⟨a, rfl⟩ := hx.exists_ok_iff.2 hall
  exact pure a

end Checks
end RuleStack
