set_option autoImplicit false

namespace RuleStack.Outcome

variable {ε ε' α β : Type}

theorem bind_eq_ok_iff (x : Except ε α) (f : α → Except ε β) (b : β) :
    (x >>= f) = .ok b ↔ ∃ a, x = .ok a ∧ f a = .ok b := by
  cases x <;> simp [bind, Except.bind]

theorem map_eq_ok_iff (x : Except ε α) (f : α → β) (b : β) :
    x.map f = .ok b ↔ ∃ a, x = .ok a ∧ f a = b := by
  cases x <;> simp [Except.map]

theorem map_eq_error_iff (x : Except ε α) (f : α → β) (e : ε) :
    x.map f = .error e ↔ x = .error e := by
  cases x <;> simp [Except.map]

theorem map_bind_congr {γ δ : Type} {x y : Except ε α} {see : α → γ} {f : α → Except ε β}
    {look : β → δ} (h : x.map see = y.map see)
    (hf : ∀ a b, see a = see b → (f a).map look = (f b).map look) :
    (x >>= f).map look = (y >>= f).map look := by
  cases x with
  | error e =>
    cases y with
    | error e' => exact congrArg Except.error (Except.error.inj h)
    | ok b => cases h
  | ok a =>
    cases y with
    | error e => cases h
    | ok b => exact hf a b (Except.ok.inj h)

theorem map_bind_congr_right {γ : Type} {f g : α → Except ε β} {look : β → γ} (x : Except ε α)
    (h : ∀ a, (f a).map look = (g a).map look) : (x >>= f).map look = (x >>= g).map look := by
  cases x with
  | error e => rfl
  | ok a => exact h a

theorem mapError_ok (f : ε → ε') (a : α) : (Except.ok a).mapError f = .ok a := rfl

theorem mapError_error (f : ε → ε') (e : ε) :
    (Except.error e : Except ε α).mapError f = .error (f e) := rfl

theorem map_mapError (x : Except ε α) (f : ε → ε') (g : α → β) :
    (x.mapError f).map g = (x.map g).mapError f := by
  cases x <;> rfl

theorem mapError_eq_ok_iff (x : Except ε α) (f : ε → ε') (a : α) :
    x.mapError f = .ok a ↔ x = .ok a := by
  cases x <;> simp [mapError_ok, mapError_error]

theorem exists_unit_eq_ok_iff (x : Except ε Unit) : (∃ u, x = .ok u) ↔ x = .ok () :=
  ⟨fun ⟨_, h⟩ => h, fun h => ⟨(), h⟩⟩

theorem exists_eq_error_iff (x : Except ε α) : (∃ e, x = .error e) ↔ ∀ a, x ≠ .ok a := by
  cases x <;> simp

theorem exists_of_isOk {x : Except ε α} (h : x.isOk = true) : ∃ a, x = .ok a := by
  cases x with
  | ok a => exact ⟨a, rfl⟩
  | error e => cases h

/-- What computing the outcome shows of it. -/
theorem exists_ok_of_decide {x : Except ε α} {P : α → Prop} [DecidablePred P]
    (h : x.toOption.any (fun a => decide (P a)) = true) : ∃ a, x = .ok a ∧ P a := by
  cases x with
  | ok a => exact ⟨a, rfl, of_decide_eq_true h⟩
  | error e => cases h

theorem mem_toList_toOption_iff (x : Except ε α) (a : α) : a ∈ x.toOption.toList ↔ x = .ok a := by
  cases x <;> simp [Except.toOption, eq_comm]

theorem forM_eq_ok_iff (check : α → Except ε Unit) (items : List α) :
    forM items check = .ok () ↔ ∀ a ∈ items, check a = .ok () := by
  induction items with
  | nil => simp [pure, Except.pure]
  | cons a rest ih =>
    rw [List.forM_cons, bind_eq_ok_iff, List.forall_mem_cons, ← ih]
    exact ⟨fun ⟨_, ha, hrest⟩ => ⟨ha, hrest⟩, fun ⟨ha, hrest⟩ => ⟨(), ha, hrest⟩⟩

theorem mapM_eq_ok_iff (f : α → Except ε β) (items : List α) (results : List β) :
    items.mapM f = .ok results ↔ items.map f = results.map .ok := by
  induction items generalizing results with
  | nil => cases results <;> simp [pure, Except.pure]
  | cons a rest ih =>
    simp only [List.mapM_cons, bind_eq_ok_iff, ih, pure, Except.pure, Except.ok.injEq,
      List.map_cons]
    constructor
    · rintro ⟨b, hb, bs, hbs, rfl⟩
      rw [hb, hbs, List.map_cons]
    · intro h
      cases results with
      | nil => cases h
      | cons b bs =>
        rw [List.map_cons, List.cons.injEq] at h
        exact ⟨b, h.1, bs, h.2, rfl⟩

theorem exists_of_mem_mapM {f : α → Except ε β} {items : List α} {results : List β}
    (h : items.mapM f = .ok results) {b : β} (hb : b ∈ results) : ∃ a ∈ items, f a = .ok b := by
  have hmap : Except.ok b ∈ items.map f := by
    rw [(mapM_eq_ok_iff f items results).1 h]
    exact List.mem_map_of_mem hb
  exact List.mem_map.1 hmap

theorem mapM_eq_ok_iff_filterMap (f : α → Except ε β) (items : List α) (results : List β) :
    items.mapM f = .ok results ↔
      (∀ a ∈ items, ∃ b, f a = .ok b) ∧ items.filterMap (fun a => (f a).toOption) = results := by
  induction items generalizing results with
  | nil => simp [pure, Except.pure]
  | cons a rest ih =>
    simp only [List.mapM_cons, bind_eq_ok_iff, ih, pure, Except.pure, Except.ok.injEq,
      List.forall_mem_cons]
    constructor
    · rintro ⟨b, hb, bs, ⟨hrest, rfl⟩, rfl⟩
      exact ⟨⟨⟨b, hb⟩, hrest⟩, by rw [List.filterMap_cons, hb]; rfl⟩
    · rintro ⟨⟨⟨b, hb⟩, hrest⟩, rfl⟩
      exact ⟨b, hb, _, ⟨hrest, rfl⟩, by rw [List.filterMap_cons, hb]; rfl⟩

theorem mapM_eq_error_iff (f : α → Except ε β) (items : List α) (e : ε) :
    items.mapM f = .error e ↔
      ∃ before a after, items = before ++ a :: after ∧
        (∀ earlier ∈ before, ∃ b, f earlier = .ok b) ∧ f a = .error e := by
  induction items with
  | nil => simp [pure, Except.pure]
  | cons a rest ih =>
    have hsplit : (∃ before x after, a :: rest = before ++ x :: after ∧
          (∀ earlier ∈ before, ∃ b, f earlier = .ok b) ∧ f x = .error e) ↔
        f a = .error e ∨ (∃ b, f a = .ok b) ∧ rest.mapM f = .error e := by
      rw [ih]
      constructor
      · rintro ⟨before, x, after, hitems, hbefore, hx⟩
        cases before with
        | nil =>
          cases hitems
          exact .inl hx
        | cons first before =>
          cases hitems
          rw [List.forall_mem_cons] at hbefore
          exact .inr ⟨hbefore.1, before, x, after, rfl, hbefore.2, hx⟩
      · rintro (ha | ⟨ha, before, x, after, rfl, hbefore, hx⟩)
        · exact ⟨[], a, rest, rfl, List.forall_mem_nil _, ha⟩
        · exact ⟨a :: before, x, after, rfl, List.forall_mem_cons.2 ⟨ha, hbefore⟩, hx⟩
    rw [hsplit, List.mapM_cons]
    cases f a with
    | error e' => simp [bind, Except.bind]
    | ok b => cases rest.mapM f <;> simp [bind, Except.bind, pure, Except.pure]

/-- Fails with the first of these faults, and succeeds where there is none. -/
def ofFaults : List ε → Except ε Unit
  | [] => .ok ()
  | e :: _ => .error e

def faultUnless (p : Prop) [Decidable p] (e : ε) : List ε := if p then [] else [e]

@[simp] theorem ofFaults_nil : ofFaults ([] : List ε) = .ok () := rfl

theorem ofFaults_eq_ok_iff (es : List ε) : ofFaults es = .ok () ↔ es = [] := by
  cases es <;> simp [ofFaults]

theorem ofFaults_eq_error_iff (es : List ε) (e : ε) :
    ofFaults es = .error e ↔ es.head? = some e := by
  cases es <;> simp [ofFaults]

theorem ofFaults_append (es fs : List ε) :
    ofFaults (es ++ fs) = ofFaults es >>= fun _ => ofFaults fs := by
  cases es <;> rfl

theorem ofFaults_unless_append (p : Prop) [Decidable p] (e : ε) (es : List ε) :
    ofFaults (faultUnless p e ++ es) = if p then ofFaults es else .error e := by
  by_cases h : p <;> simp [faultUnless, h, ofFaults]

theorem ofFaults_unless (p : Prop) [Decidable p] (e : ε) :
    ofFaults (faultUnless p e) = if p then .ok () else .error e := by
  by_cases h : p <;> simp [faultUnless, h, ofFaults]

@[simp] theorem faultUnless_eq_nil_iff (p : Prop) [Decidable p] (e : ε) :
    faultUnless p e = [] ↔ p := by
  by_cases h : p <;> simp [faultUnless, h]

theorem forM_eq_ofFaults {check : α → Except ε Unit} {faults : α → List ε}
    (h : ∀ a, check a = ofFaults (faults a)) (items : List α) :
    items.forM check = ofFaults (items.flatMap faults) := by
  induction items with
  | nil => rfl
  | cons a rest ih =>
    rw [List.flatMap_cons, ofFaults_append, ← h, ← ih]
    rfl

theorem foldlM_induction {P : β → Prop} {step : β → α → Except ε β} (items : List α)
    (hstep : ∀ b, ∀ a ∈ items, ∀ b', P b → step b a = .ok b' → P b') {b b' : β} (h : P b)
    (hfold : items.foldlM step b = .ok b') : P b' := by
  induction items generalizing b with
  | nil =>
    cases hfold
    exact h
  | cons a rest ih =>
    rw [List.foldlM_cons, bind_eq_ok_iff] at hfold
    obtain ⟨c, hc, hrest⟩ := hfold
    exact ih (fun b a ha => hstep b a (List.mem_cons_of_mem _ ha))
      (hstep b a List.mem_cons_self c h hc) hrest

end RuleStack.Outcome
