import RuleStack.Key
/-!
Path and package are put in lowercase apart from each other, and a capital sigma may end the package
where it does not end a word of the path. So a package that is written in a path is found, or one
before it in the list, unless it has a sigma that changes its form (`written_package_found`).
-/
set_option autoImplicit false

namespace RuleStack.Text

theorem contains_iff_append (text part : String) :
    contains text part = true ↔ ∃ before after, before ++ part ++ after = text := by
  rw [contains_iff]
  constructor
  · rintro ⟨before, after, h⟩
    refine ⟨String.ofList before, String.ofList after, ?_⟩
    rw [← String.toList_inj, String.toList_append, String.toList_append, String.toList_ofList,
      String.toList_ofList, h]
  · rintro ⟨before, after, rfl⟩
    exact ⟨before.toList, after.toList, by simp only [String.toList_append]⟩

theorem forall_place_cons_iff {α : Type} {a c : α} {rest : List α} {P : List α → List α → Prop} :
    (∀ front back, c :: rest = front ++ a :: back → P front back) ↔
      (c = a → P [] rest) ∧ ∀ front back, rest = front ++ a :: back → P (c :: front) back := by
  constructor
  · intro h
    refine ⟨?_, fun front back heq => h _ _ (by rw [heq, List.cons_append])⟩
    rintro rfl
    exact h [] rest rfl
  · rintro ⟨hhead, htail⟩ front back heq
    cases front with
    | nil =>
      obtain ⟨rfl, rfl⟩ := List.cons_eq_cons.1 heq
      exact hhead rfl
    | cons d front =>
      obtain ⟨rfl, hrest⟩ := List.cons_eq_cons.1 heq
      exact htail front back hrest

/-- The lowercase form of what stands after `cs` is an end of the whole lowercase form. -/
theorem lowerFrom_suffix (before cs after : List Char) :
    lowerFrom (cs.reverse ++ before) after <:+ lowerFrom before (cs ++ after) := by
  induction cs generalizing before with
  | nil => exact List.suffix_rfl
  | cons c rest ih =>
    have hrest := ih (c :: before)
    rw [List.reverse_cons, List.append_assoc, List.singleton_append, List.cons_append, lowerFrom]
    split
    · exact hrest.trans (List.suffix_cons _ _)
    · split
      · exact (hrest.trans (List.suffix_cons _ _)).trans (List.suffix_cons _ _)
      · exact hrest.trans (List.suffix_cons _ _)

/-- The lowercase forms of `cs` in two places are the same just if the sigmas have the same forms
in both. In the second place nothing comes after. -/
theorem lowerFrom_append_eq_iff (before other cs after : List Char) :
    lowerFrom before (cs ++ after) =
        lowerFrom other cs ++ lowerFrom (cs.reverse ++ before) after ↔
      ∀ front back, cs = front ++ capitalSigma :: back →
        sigmaForm (front.reverse ++ before) (back ++ after) =
          sigmaForm (front.reverse ++ other) back := by
  induction cs generalizing before other with
  | nil => simp [lowerFrom]
  | cons c rest ih =>
    have hrest := ih (c :: before) (c :: other)
    rw [forall_place_cons_iff]
    simp only [List.reverse_cons, List.append_assoc, List.cons_append, List.reverse_nil,
      List.nil_append]
    rw [← hrest, lowerFrom, lowerFrom]
    split
    · rename_i hsigma
      simp [hsigma]
    · rename_i hsigma
      split <;> simp [hsigma]

/-- Each capital sigma of the text has the same form between the two others as in the text alone. -/
def Steady (before text after : String) : Prop :=
  ∀ front back, text.toList = front ++ capitalSigma :: back →
    sigmaForm (front.reverse ++ before.toList.reverse) (back ++ after.toList) =
      sigmaForm front.reverse back

theorem steady_of_not_mem {text : String} (h : capitalSigma ∉ text.toList)
    (before after : String) : Steady before text after := by
  intro front back hplace
  exact absurd (hplace ▸ List.mem_append_right _ List.mem_cons_self) h

/-- A character at which a word ends, whatever comes before it. -/
def isWall (c : Char) : Bool := !isCaseIgnorable c && !isCased c

theorem startsCased_cons (c : Char) (cs : List Char) :
    startsCased (c :: cs) = if isCaseIgnorable c then startsCased cs else isCased c := by
  rw [startsCased, List.dropWhile_cons]
  cases isCaseIgnorable c <;> rfl

theorem startsCased_append {cs rest : List Char} (h : rest.head?.all isWall = true) :
    startsCased (cs ++ rest) = startsCased cs := by
  induction cs with
  | nil =>
    cases rest with
    | nil => rfl
    | cons c rest =>
      simp only [List.head?_cons, Option.all_some, isWall, Bool.and_eq_true,
        Bool.not_eq_true'] at h
      rw [List.nil_append, startsCased_cons, h.1, h.2]
      rfl
  | cons c cs ih => rw [List.cons_append, startsCased_cons, startsCased_cons, ih]

theorem steady_of_walls {before after : String}
    (hbefore : before.toList.getLast?.all isWall = true)
    (hafter : after.toList.head?.all isWall = true) (text : String) :
    Steady before text after := by
  intro front back _
  rw [← List.head?_reverse] at hbefore
  rw [sigmaForm, sigmaForm, startsCased_append hbefore, startsCased_append hafter]

/-- The lowercase form of a text stands at the place of the text in the lowercase form of a longer
one just if it is steady there. -/
theorem lowercase_keeps_iff (before text after : String) :
    Steady before text after ↔
      lowerFrom before.toList.reverse (text.toList ++ after.toList) =
        (lowercase text).toList ++
          lowerFrom (text.toList.reverse ++ before.toList.reverse) after.toList := by
  rw [lowercase, String.toList_ofList, lowerFrom_append_eq_iff]
  simp only [List.append_nil]
  rfl

theorem contains_lowercase_of_steady {before text after : String} (h : Steady before text after) :
    contains (lowercase (before ++ text ++ after)) (lowercase text) = true := by
  have hplace := (lowercase_keeps_iff before text after).1 h
  have hsuffix := lowerFrom_suffix [] before.toList (text.toList ++ after.toList)
  rw [List.append_nil, hplace] at hsuffix
  rw [contains_iff, lowercase.eq_1 (before ++ text ++ after), String.toList_ofList,
    String.append_assoc, String.toList_append, String.toList_append]
  exact (List.prefix_append _ _).isInfix.trans hsuffix.isInfix

end RuleStack.Text

namespace RuleStack.Namer

def Found (n : Namer) (modulePath package : String) : Prop :=
  ∃ first, n.package? modulePath = some first ∧
    n.packages.idxOf first ≤ n.packages.idxOf package

/-- No package that occurs is before the one that is found. -/
theorem idxOf_le_of_package? {n : Namer} {modulePath first package : String}
    (hfirst : n.package? modulePath = some first) (hoccurs : occurs package modulePath = true) :
    n.packages.idxOf first ≤ n.packages.idxOf package := by
  obtain ⟨hfirstOccurs, earlier, later, hsplit, hearlier⟩ := List.find?_eq_some_iff_append.1 hfirst
  have hnot : ∀ p, occurs p modulePath = true → p ∉ earlier := by
    intro p hp hmem
    have hmiss := hearlier p hmem
    rw [hp] at hmiss
    cases hmiss
  rw [hsplit, List.idxOf_append, if_neg (hnot first hfirstOccurs), List.idxOf_append,
    if_neg (hnot package hoccurs), List.idxOf_cons_self]
  exact Nat.add_le_add_right (Nat.zero_le _) _

theorem found_iff (n : Namer) (modulePath package : String) :
    n.Found modulePath package ↔
      ∃ p ∈ n.packages, n.packages.idxOf p ≤ n.packages.idxOf package ∧
        occurs p modulePath = true := by
  constructor
  · rintro ⟨first, hfirst, hle⟩
    exact ⟨first, List.mem_of_find?_eq_some hfirst, hle,
      List.find?_some (p := (occurs · modulePath)) hfirst⟩
  · rintro ⟨p, hp, hle, hoccurs⟩
    have hsome : (n.package? modulePath).isSome = true := List.find?_isSome.2 ⟨p, hp, hoccurs⟩
    obtain ⟨first, hfirst⟩ := Option.isSome_iff_exists.1 hsome
    exact ⟨first, hfirst, Nat.le_trans (idxOf_le_of_package? hfirst hoccurs) hle⟩

theorem occurs_of_steady {before package after : String} (hne : package ≠ "")
    (h : Text.Steady before package after) :
    occurs package (before ++ package ++ after) = true := by
  rw [occurs, Text.contains_lowercase_of_steady h, Bool.and_true, Bool.not_eq_true',
    String.isEmpty_eq_false_iff]
  exact hne

/-- A package of the list that is written in a path has its lowercase form at the same place of the
lowercase path just if its capital sigmas keep their forms there, and then it is found, or one
before it. They keep them if there are none, and also if the package starts and ends where words
do. -/
theorem written_package_found (n : Namer) (modulePath package : String)
    (hmem : package ∈ n.packages) (hne : package ≠ "")
    (hwritten : Text.contains modulePath package = true) :
    (∀ before after, before ++ package ++ after = modulePath →
      (Text.Steady before package after ↔
        Text.lowerFrom before.toList.reverse (package.toList ++ after.toList) =
          (Text.lowercase package).toList ++
            Text.lowerFrom (package.toList.reverse ++ before.toList.reverse) after.toList) ∧
      (Text.Steady before package after → n.Found modulePath package) ∧
      (before.toList.getLast?.all Text.isWall = true →
        after.toList.head?.all Text.isWall = true → n.Found modulePath package)) ∧
    (Text.capitalSigma ∉ package.toList → n.Found modulePath package) := by
  have hsteady : ∀ before after, before ++ package ++ after = modulePath →
      Text.Steady before package after → n.Found modulePath package := by
    rintro before after rfl h
    exact (n.found_iff _ _).2 ⟨package, hmem, Nat.le_refl _, occurs_of_steady hne h⟩
  refine ⟨fun before after hplace => ⟨Text.lowercase_keeps_iff before package after,
    hsteady before after hplace, fun hbefore hafter => ?_⟩, fun hsigma => ?_⟩
  · exact hsteady before after hplace (Text.steady_of_walls hbefore hafter package)
  · obtain ⟨before, after, hplace⟩ := (Text.contains_iff_append modulePath package).1 hwritten
    exact hsteady before after hplace (Text.steady_of_not_mem hsigma before after)

theorem written_package_found_sample :
    (⟨["@acme/audit", "ΟΔΟΣ", "Σ-rules"]⟩ : Namer).Found "lib/ΟΔΟΣ/login.js" "ΟΔΟΣ" ∧
    (⟨["@acme/audit", "patrol-rules"]⟩ : Namer).Found "xpatrol-rules.js" "patrol-rules" := by
  refine ⟨?_, ?_⟩
  · exact ((written_package_found _ "lib/ΟΔΟΣ/login.js" "ΟΔΟΣ" (by decide) (by decide)
      (by rfl)).1 "lib/" "/login.js" (by rfl)).2.2 (by decide +kernel)
      (by decide +kernel)
  · exact (written_package_found _ "xpatrol-rules.js" "patrol-rules" (by decide) (by decide)
      (by rfl)).2 (by decide)

/-- The dot of the ending does not end the word, so the sigma is not the final one in the path. -/
theorem written_package_missed :
    Text.contains "ΟΔΟΣ.js" "ΟΔΟΣ" = true ∧
      (⟨["ΟΔΟΣ"]⟩ : Namer).package? "ΟΔΟΣ.js" = none := by
  decide +kernel

end RuleStack.Namer
