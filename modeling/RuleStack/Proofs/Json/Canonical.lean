import RuleStack.Proofs.Json.Printed
set_option autoImplicit false

namespace RuleStack

def Number.IsInteger : Number → Prop
  | .integer _ _ => True
  | .float _ => False

instance : DecidablePred Number.IsInteger
  | .integer _ _ => isTrue trivial
  | .float _ => isFalse id

namespace Json

theorem Scans.unique {cs : List Char} {ts us : List Token} (h : Scans cs ts [])
    (h' : Scans cs us []) : ts = us := by
  generalize hend : ([] : List Char) = rest at h
  induction h generalizing us with
  | done =>
    subst hend
    cases h'
    rfl
  | blank hc _ ih =>
    cases h' with
    | blank _ hcs => exact ih hcs hend
    | token hc' => exact absurd (hc.symm.trans hc') (by decide)
  | token hc ht _ ih =>
    cases h' with
    | blank hc' => exact absurd (hc'.symm.trans hc) (by decide)
    | token _ ht' hafter =>
      cases ht.symm.trans ht'
      rw [ih hafter hend]

/-- From these tokens on, the value before them and what comes after it are settled. -/
def Framed {α : Type} (tokens : α → List Token) (x : α) : Prop :=
  ∀ y s t, tokens x ++ s = tokens y ++ t → x = y ∧ s = t

/-- No row of the kind starts with this token. -/
def NoStart {α : Type} (tokens : α → List Token) (closing : Token) : Prop :=
  ∀ x s t, tokens x ++ s ≠ closing :: t

theorem commaJoined_cons_append (ts : List Token) (rest : List (List Token)) (after : List Token) :
    ∃ tail, commaJoined (ts :: rest) ++ after = ts ++ tail ∧
      tail = if rest = [] then after else .comma :: (commaJoined rest ++ after) := by
  cases rest with
  | nil => exact ⟨after, rfl, rfl⟩
  | cons next rest => exact ⟨_, List.append_assoc .., rfl⟩

theorem commaJoined_framed {α : Type} {tokens : α → List Token} {closing : Token}
    (hcomma : closing ≠ .comma) (hstart : NoStart tokens closing) {xs : List α}
    (h : ∀ x ∈ xs, Framed tokens x) (ys : List α) (s t : List Token)
    (heq : commaJoined (xs.map tokens) ++ closing :: s =
      commaJoined (ys.map tokens) ++ closing :: t) : xs = ys ∧ s = t := by
  induction xs generalizing ys with
  | nil =>
    cases ys with
    | nil => exact ⟨rfl, (List.cons.inj heq).2⟩
    | cons y ys =>
      obtain ⟨tail, htail, -⟩ :=
        commaJoined_cons_append (tokens y) (ys.map tokens) (closing :: t)
      exact absurd (htail.symm.trans heq.symm) (hstart y tail s)
  | cons x xs ih =>
    obtain ⟨tail, htail, hx⟩ :=
      commaJoined_cons_append (tokens x) (xs.map tokens) (closing :: s)
    rw [List.map_cons, htail] at heq
    cases ys with
    | nil => exact absurd heq (hstart x tail t)
    | cons y ys =>
      obtain ⟨tail', htail', hy⟩ :=
        commaJoined_cons_append (tokens y) (ys.map tokens) (closing :: t)
      rw [List.map_cons, htail'] at heq
      obtain ⟨rfl, hrest⟩ := h x List.mem_cons_self y tail tail' heq
      rw [hx, hy] at hrest
      cases xs with
      | nil =>
        cases ys with
        | nil => exact ⟨rfl, (List.cons.inj hrest).2⟩
        | cons z ys => exact absurd (List.cons.inj hrest).1 hcomma
      | cons w xs =>
        cases ys with
        | nil => exact absurd (List.cons.inj hrest).1.symm hcomma
        | cons z ys =>
          obtain ⟨hparts, hafter⟩ := ih (fun u hu => h u (List.mem_cons_of_mem _ hu)) (z :: ys)
            (List.cons.inj hrest).2
          exact ⟨congrArg (x :: ·) hparts, hafter⟩

theorem noStart_tokens {closing : Token}
    (hclosing : closing = .closeArray ∨ closing = .closeObject) : NoStart tokens closing := by
  intro v s t h
  rcases hclosing with rfl | rfl <;> cases v <;> cases h

theorem noStart_memberTokens : NoStart memberTokens .closeObject := by
  intro e s t h
  cases h

theorem Framed.member {member : String × Json} (h : Framed tokens member.2) :
    Framed memberTokens member := by
  intro other s t heq
  simp only [memberTokens, List.cons_append, List.cons.injEq, Token.text.injEq, true_and] at heq
  obtain ⟨hvalue, hafter⟩ := h other.2 s t heq.2
  exact ⟨Prod.ext heq.1 hvalue, hafter⟩

theorem framed_tokens (v : Json) : Framed tokens v := by
  induction v using induct with
  | null =>
    intro w s t h
    cases w <;> cases h
    exact ⟨rfl, rfl⟩
  | bool value =>
    intro w s t h
    cases w <;> cases h
    exact ⟨rfl, rfl⟩
  | num value =>
    intro w s t h
    cases w <;> cases h
    exact ⟨rfl, rfl⟩
  | str value =>
    intro w s t h
    cases w <;> cases h
    exact ⟨rfl, rfl⟩
  | arr items ih =>
    intro w s t h
    cases w with
    | arr others =>
      simp only [tokens, tokensItems_eq, List.cons_append, List.append_assoc, List.nil_append,
        List.cons.injEq, true_and] at h
      obtain ⟨rfl, hafter⟩ := commaJoined_framed (by simp) (noStart_tokens (.inl rfl)) ih _ _ _ h
      exact ⟨rfl, hafter⟩
    | _ => cases h
  | obj members ih =>
    intro w s t h
    cases w with
    | obj others =>
      simp only [tokens, tokensMembers_eq, List.cons_append, List.append_assoc, List.nil_append,
        List.cons.injEq, true_and] at h
      obtain ⟨rfl, hafter⟩ := commaJoined_framed (by simp) noStart_memberTokens
        (fun e he => (ih e he).member) _ _ _ h
      exact ⟨rfl, hafter⟩
    | _ => cases h

theorem tokens_injective {v w : Json} (h : v.tokens = w.tokens) : v = w :=
  (framed_tokens v w [] [] (congrArg (· ++ []) h)).1

theorem printed_eq_of_canonical_eq {v w : Json} (h : v.canonical = w.canonical) :
    v.printed = w.printed := by
  have hchars : v.canonicalChars = w.canonicalChars := String.ofList_injective h
  have hv := scans_of_spells (spells_canonical v)
  have hw := scans_of_spells (spells_canonical w)
  rw [← hchars] at hw
  have harrange := congrArg normalize (tokens_injective (hv.unique hw))
  rw [normalize_arrange, normalize_arrange, settle, settle, normalize_mapNumbers,
    normalize_mapNumbers] at harrange
  exact harrange

theorem numbersItems_eq (items : List Json) : numbersItems items = items.flatMap numbers := by
  induction items with
  | nil => rfl
  | cons item rest ih => rw [numbersItems, ih, List.flatMap_cons]

theorem numbersMembers_eq (members : List (String × Json)) :
    numbersMembers members = members.flatMap fun e => e.2.numbers := by
  induction members with
  | nil => rfl
  | cons e rest ih => rw [numbersMembers, ih, List.flatMap_cons]

theorem mapNumbers_eq_self {f : Number → Number} {v : Json} (h : ∀ n ∈ v.numbers, f n = n) :
    v.mapNumbers f = v := by
  induction v using induct with
  | null => rfl
  | bool => rfl
  | num n => exact congrArg num (h n (List.mem_singleton_self n))
  | str => rfl
  | arr items ih =>
    rw [mapNumbers, mapNumbersItems_eq]
    refine congrArg arr ((List.map_congr_left fun v hv => ih v hv fun n hn => h n ?_).trans
      (List.map_id _))
    rw [numbers, numbersItems_eq]
    exact List.mem_flatMap.2 ⟨v, hv, hn⟩
  | obj members ih =>
    rw [mapNumbers, mapNumbersMembers_eq]
    refine congrArg obj ((List.map_congr_left fun e he => ?_).trans (List.map_id _))
    have hvalue : e.2.mapNumbers f = e.2 := ih e he fun n hn => h n (by
      rw [numbers, numbersMembers_eq]
      exact List.mem_flatMap.2 ⟨e, he, hn⟩)
    rw [hvalue]
    rfl

def Whole (v : Json) : Prop := ∀ n ∈ v.numbers, n.IsInteger

instance (v : Json) : Decidable v.Whole :=
  inferInstanceAs (Decidable (∀ n ∈ v.numbers, n.IsInteger))

theorem printed_of_whole {v : Json} (h : v.Whole) : v.printed = v.normalize := by
  have hsettle : v.settle = v := mapNumbers_eq_self fun n hn => by
    cases n with
    | integer => rfl
    | float => cases h _ hn
  rw [printed, settle, ← normalize_mapNumbers, ← settle, hsettle]

/-- Among values whose numbers are integers, the canonical text tells all normal forms apart. -/
theorem normalize_eq_of_canonical_eq {v w : Json} (hv : v.Whole) (hw : w.Whole)
    (h : v.canonical = w.canonical) : v.normalize = w.normalize := by
  rw [← printed_of_whole hv, ← printed_of_whole hw, printed_eq_of_canonical_eq h]

end Json
end RuleStack
