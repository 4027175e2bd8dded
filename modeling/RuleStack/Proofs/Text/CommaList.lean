import RuleStack.Notification
import RuleStack.Proofs.Text.Blank
set_option autoImplicit false

namespace RuleStack.Text

theorem commaParts_eq_splitOn (cs : List Char) : commaParts cs = cs.splitOn ',' := by
  fun_induction commaParts cs with
  | case1 => rfl
  | case2 rest ih => rw [List.splitOn_cons_eq_if_modifyHead, if_pos (beq_self_eq_true ','), ih]
  | case3 c rest hc hrest ih => exact absurd (ih.symm.trans hrest) (List.splitOn_ne_nil _ _)
  | case4 c rest hc first others hrest ih =>
    rw [List.splitOn_cons_eq_if_modifyHead, if_neg (by simpa using hc), ← ih, hrest]
    rfl

theorem commaParts_ne_nil (cs : List Char) : commaParts cs ≠ [] := by
  rw [commaParts_eq_splitOn]
  exact List.splitOn_ne_nil _ _

theorem commaParts_eq_singleton {cs : List Char} (h : ',' ∉ cs) : commaParts cs = [cs] := by
  rw [commaParts_eq_splitOn, List.splitOn_eq_singleton h]

theorem commaParts_append_cons {before : List Char} (h : ',' ∉ before) (rest : List Char) :
    commaParts (before ++ ',' :: rest) = before :: commaParts rest := by
  simp only [commaParts_eq_splitOn, List.splitOn_append_cons_self_of_not_mem h]

theorem length_commaParts (cs : List Char) : (commaParts cs).length = cs.count ',' + 1 := by
  fun_induction commaParts cs with
  | case1 => rfl
  | case2 rest ih => rw [List.length_cons, ih, List.count_cons_self]
  | case3 c rest hc hrest ih => exact absurd hrest (commaParts_ne_nil rest)
  | case4 c rest hc first others hrest ih =>
    rw [List.count_cons_of_ne hc, ← ih, hrest]
    rfl

theorem comma_notMem_of_mem_commaParts (cs : List Char) : ∀ part ∈ commaParts cs, ',' ∉ part := by
  fun_induction commaParts cs with
  | case1 => simp
  | case2 rest ih => exact List.forall_mem_cons.2 ⟨List.not_mem_nil, ih⟩
  | case3 c rest hc hrest ih => exact absurd hrest (commaParts_ne_nil rest)
  | case4 c rest hc first others hrest ih =>
    rw [hrest, List.forall_mem_cons] at ih
    have hfirst : ',' ∉ c :: first := List.not_mem_cons_of_ne_of_not_mem (Ne.symm hc) ih.1
    exact List.forall_mem_cons.2 ⟨hfirst, ih.2⟩

theorem trimAfterComma_cons (part : List Char) {parts : List (List Char)} (h : parts ≠ []) :
    trimAfterComma (part :: parts) = trimEnd (trimStart part) :: trimAfterComma parts := by
  cases parts with
  | nil => exact absurd rfl h
  | cons next rest => rfl

theorem trimAtCommas_cons (first : List Char) {parts : List (List Char)} (h : parts ≠ []) :
    trimAtCommas (first :: parts) = trimEnd first :: trimAfterComma parts := by
  cases parts with
  | nil => exact absurd rfl h
  | cons next rest => rfl

theorem length_trimAfterComma (parts : List (List Char)) :
    (trimAfterComma parts).length = parts.length := by
  fun_induction trimAfterComma parts <;> simp_all

theorem length_trimAtCommas (parts : List (List Char)) :
    (trimAtCommas parts).length = parts.length := by
  fun_cases trimAtCommas parts <;> simp [length_trimAfterComma]

theorem trimAfterComma_ne_nil {parts : List (List Char)} (h : parts ≠ []) :
    trimAfterComma parts ≠ [] := by
  rw [← List.length_pos_iff, length_trimAfterComma]
  exact List.length_pos_iff.2 h

theorem startsBare_of_mem_trimAfterComma (parts : List (List Char)) :
    ∀ item ∈ trimAfterComma parts, StartsBare item := by
  fun_induction trimAfterComma parts with
  | case1 => exact List.forall_mem_nil _
  | case2 last => exact List.forall_mem_singleton.2 (startsBare_trimStart last)
  | case3 part rest hrest ih =>
    exact List.forall_mem_cons.2 ⟨startsBare_trimEnd (startsBare_trimStart part), ih⟩

theorem endsBare_of_mem_trimAfterComma (parts : List (List Char)) :
    ∀ item ∈ (trimAfterComma parts).dropLast, EndsBare item := by
  fun_induction trimAfterComma parts with
  | case1 => exact List.forall_mem_nil _
  | case2 last => exact List.forall_mem_nil _
  | case3 part rest hrest ih =>
    rw [List.dropLast_cons_of_ne_nil (trimAfterComma_ne_nil hrest)]
    exact List.forall_mem_cons.2 ⟨endsBare_trimEnd _, ih⟩

theorem comma_notMem_of_mem_trimAfterComma {parts : List (List Char)}
    (h : ∀ part ∈ parts, ',' ∉ part) : ∀ item ∈ trimAfterComma parts, ',' ∉ item := by
  have htrim {cs : List Char} (hcs : ',' ∉ cs) : ',' ∉ trimStart cs :=
    fun hmem => hcs ((trimStart_isSuffix cs).subset hmem)
  fun_induction trimAfterComma parts with
  | case1 => exact List.forall_mem_nil _
  | case2 last => exact List.forall_mem_singleton.2 (htrim (h last List.mem_cons_self))
  | case3 part rest hrest ih =>
    rw [List.forall_mem_cons] at h
    exact List.forall_mem_cons.2
      ⟨fun hmem => htrim h.1 ((trimEnd_isPrefix _).subset hmem), ih h.2⟩

structure Gap where
  before : String
  after : String
  blank_before : blank before = true
  blank_after : blank after = true

namespace Gap

theorem isBlank_before (g : Gap) : ∀ c ∈ g.before.toList, isBlank c = true :=
  List.all_eq_true.1 g.blank_before

theorem isBlank_after (g : Gap) : ∀ c ∈ g.after.toList, isBlank c = true :=
  List.all_eq_true.1 g.blank_after

def text (g : Gap) : String := g.before ++ "," ++ g.after

theorem toList_append_text_append (item rest : String) (g : Gap) :
    (item ++ g.text ++ rest).toList =
      item.toList ++ g.before.toList ++ ',' :: (g.after.toList ++ rest.toList) := by
  simp [text]

def plain : Gap := ⟨"", "", rfl, rfl⟩

end Gap

/-- The items in order, with `gap 0` after the first of them, `gap 1` after the second, and so on;
nothing follows the last. -/
def spread (gap : Nat → Gap) : List String → String
  | [] => ""
  | [item] => item
  | item :: next :: rest => item ++ (gap 0).text ++ spread (fun i => gap (i + 1)) (next :: rest)

theorem spread_plain (items : List String) :
    spread (fun _ => .plain) items = ",".intercalate items := by
  induction items with
  | nil => rfl
  | cons item rest ih =>
    cases rest with
    | nil => rfl
    | cons next rest => rw [spread, ih, String.intercalate_cons_cons]; rfl

/-- Items that a text with commas can stand for: no item has a comma in it or white space next to
one, and a text without commas is not empty. -/
structure CommaItems (items : List String) : Prop where
  ne_nil : items ≠ []
  ne_empty : items ≠ [""]
  comma_notMem : ∀ item ∈ items, ',' ∉ item.toList
  startsBare : ∀ item ∈ items.tail, StartsBare item.toList
  endsBare : ∀ item ∈ items.dropLast, EndsBare item.toList

theorem comma_notMem_of_isBlank {cs : List Char} (h : ∀ c ∈ cs, isBlank c = true) : ',' ∉ cs :=
  fun hmem => absurd (h ',' hmem) (by decide)

theorem trimAfterComma_spread {items : List String} (hne : items ≠ [])
    (hcomma : ∀ item ∈ items, ',' ∉ item.toList) (hstart : ∀ item ∈ items, StartsBare item.toList)
    (hend : ∀ item ∈ items.dropLast, EndsBare item.toList) (gap : Nat → Gap) {before : List Char}
    (hbefore : ∀ c ∈ before, isBlank c = true) :
    trimAfterComma (commaParts (before ++ (spread gap items).toList)) =
      items.map String.toList := by
  fun_induction spread gap items generalizing before with
  | case1 => exact absurd rfl hne
  | case2 gap item =>
    have hpart : ',' ∉ before ++ item.toList :=
      List.not_mem_append (comma_notMem_of_isBlank hbefore) (hcomma item List.mem_cons_self)
    rw [commaParts_eq_singleton hpart, trimAfterComma, trimStart_append hbefore,
      trimStart_eq_self (hstart item List.mem_cons_self)]
    rfl
  | case3 gap item next rest ih =>
    rw [List.forall_mem_cons] at hcomma hstart
    rw [List.dropLast_cons_of_ne_nil (List.cons_ne_nil next rest), List.forall_mem_cons] at hend
    have hpart : ',' ∉ before ++ item.toList ++ (gap 0).before.toList :=
      List.not_mem_append (List.not_mem_append (comma_notMem_of_isBlank hbefore) hcomma.1)
        (comma_notMem_of_isBlank (gap 0).isBlank_before)
    have hrest := ih (List.cons_ne_nil next rest) hcomma.2 hstart.2 hend.2 (gap 0).isBlank_after
    rw [Gap.toList_append_text_append, ← List.append_assoc, ← List.append_assoc,
      commaParts_append_cons hpart, trimAfterComma_cons _ (commaParts_ne_nil _), hrest,
      trimEnd_trimStart_append hbefore (gap 0).isBlank_before hstart.1 hend.1]
    rfl

theorem commaList_of_ne_empty {text : String} (h : text ≠ "") :
    commaList (some text) = (trimAtCommas (commaParts text.toList)).map String.ofList := by
  rw [commaList, if_neg (by simpa using h)]

theorem spread_ne_empty {items : List String} (h : CommaItems items) (gap : Nat → Gap) :
    spread gap items ≠ "" := by
  fun_cases spread gap items with
  | case1 => exact absurd rfl h.ne_nil
  | case2 item => exact fun hitem => h.ne_empty (by rw [hitem])
  | case3 item next rest =>
    intro hempty
    have hlist := congrArg String.toList hempty
    rw [Gap.toList_append_text_append] at hlist
    exact List.cons_ne_nil _ _ (List.append_eq_nil_iff.1 hlist).2

theorem trimAtCommas_spread {items : List String} (h : CommaItems items) (gap : Nat → Gap) :
    trimAtCommas (commaParts (spread gap items).toList) = items.map String.toList := by
  obtain ⟨hne, -, hcomma, hstart, hend⟩ := h
  fun_cases spread gap items with
  | case1 => exact absurd rfl hne
  | case2 item =>
    rw [commaParts_eq_singleton (hcomma item List.mem_cons_self)]
    rfl
  | case3 item next rest =>
    rw [List.forall_mem_cons] at hcomma
    rw [List.dropLast_cons_of_ne_nil (List.cons_ne_nil next rest), List.forall_mem_cons] at hend
    have hpart : ',' ∉ item.toList ++ (gap 0).before.toList :=
      List.not_mem_append hcomma.1 (comma_notMem_of_isBlank (gap 0).isBlank_before)
    have hrest := trimAfterComma_spread (List.cons_ne_nil next rest) hcomma.2 hstart hend.2
      (fun i => gap (i + 1)) (gap 0).isBlank_after
    rw [Gap.toList_append_text_append, commaParts_append_cons hpart,
      trimAtCommas_cons _ (commaParts_ne_nil _), hrest, trimEnd_append (gap 0).isBlank_before,
      trimEnd_eq_self hend.1]
    rfl

theorem commaList_of_spread {items : List String} (h : CommaItems items) (gap : Nat → Gap) :
    commaList (some (spread gap items)) = items := by
  rw [commaList_of_ne_empty (spread_ne_empty h gap), trimAtCommas_spread h gap, List.map_map]
  simp

theorem length_commaList {text : String} (h : text ≠ "") :
    (commaList (some text)).length = text.toList.count ',' + 1 := by
  rw [commaList_of_ne_empty h, List.length_map, length_trimAtCommas, length_commaParts]

theorem eq_of_commaParts_eq_singleton {cs part : List Char} (h : commaParts cs = [part]) :
    part = cs := by
  have hjoin : [','].intercalate (cs.splitOn ',') = cs := List.intercalate_splitOn ','
  rwa [← commaParts_eq_splitOn, h, List.intercalate_singleton] at hjoin

theorem commaItems_commaList {text : String} (h : text ≠ "") :
    CommaItems (commaList (some text)) := by
  have hcomma := comma_notMem_of_mem_commaParts text.toList
  rw [commaList_of_ne_empty h]
  cases hparts : commaParts text.toList with
  | nil => exact absurd hparts (commaParts_ne_nil _)
  | cons first others =>
    rw [hparts, List.forall_mem_cons] at hcomma
    cases others with
    | nil =>
      obtain rfl := eq_of_commaParts_eq_singleton hparts
      simp only [trimAtCommas, List.map_singleton, String.ofList_toList]
      exact {
        ne_nil := List.cons_ne_nil _ _
        ne_empty := by simpa using h
        comma_notMem := List.forall_mem_singleton.2 hcomma.1
        startsBare := List.forall_mem_nil _
        endsBare := List.forall_mem_nil _ }
    | cons second rest =>
      have hrest := trimAfterComma_ne_nil (List.cons_ne_nil second rest)
      have hfirst : ',' ∉ trimEnd first :=
        fun hmem => hcomma.1 ((trimEnd_isPrefix first).subset hmem)
      rw [trimAtCommas_cons first (List.cons_ne_nil second rest), List.map_cons]
      refine ⟨List.cons_ne_nil _ _, by simpa using fun _ => hrest, ?_, ?_, ?_⟩
      · simp only [List.forall_mem_cons, List.forall_mem_map, String.toList_ofList]
        exact ⟨hfirst, comma_notMem_of_mem_trimAfterComma hcomma.2⟩
      · simp only [List.tail_cons, List.forall_mem_map, String.toList_ofList]
        exact startsBare_of_mem_trimAfterComma _
      · rw [List.dropLast_cons_of_ne_nil (by simpa using hrest), ← List.map_dropLast]
        simp only [List.forall_mem_cons, List.forall_mem_map, String.toList_ofList]
        exact ⟨endsBare_trimEnd first, endsBare_of_mem_trimAfterComma _⟩

/-- Text that is written from items, with any white space next to the commas, is split into these
items. Text that is not empty is split into one item more than it has commas, without commas in
them, and the items with plain commas between them are split into the same items. -/
theorem commaList_spread :
    (∀ items, CommaItems items → ∀ gap : Nat → Gap, commaList (some (spread gap items)) = items) ∧
    ∀ text, text ≠ "" →
      (commaList (some text)).length = text.toList.count ',' + 1 ∧
      (∀ item ∈ commaList (some text), ',' ∉ item.toList) ∧
      commaList (some (",".intercalate (commaList (some text)))) = commaList (some text) := by
  refine ⟨fun items h gap => commaList_of_spread h gap, fun text h => ?_⟩
  have hitems := commaItems_commaList h
  refine ⟨length_commaList h, hitems.comma_notMem, ?_⟩
  rw [← spread_plain]
  exact commaList_of_spread hitems _

/-- White space at the ends of the text belongs to its items, and an item may be empty. -/
theorem commaList_spread_sample :
    CommaItems ["\u2003a b", "", "c "] ∧
      commaList (some "\u2003a b \t,\u00a0 \t,\u00a0c ") = ["\u2003a b", "", "c "] ∧
      commaList (some "\u2003a b,,c ") = ["\u2003a b", "", "c "] := by
  have hitems : CommaItems ["\u2003a b", "", "c "] :=
    ⟨by decide, by decide, by decide, by decide, by decide⟩
  have hwide := commaList_spread.1 _ hitems fun _ => ⟨" \t", "\u00a0", rfl, rfl⟩
  have hplain := commaList_spread.2 "\u2003a b \t,\u00a0 \t,\u00a0c " (by decide)
  have htext : commaList (some "\u2003a b \t,\u00a0 \t,\u00a0c ") = ["\u2003a b", "", "c "] := hwide
  rw [htext] at hplain
  exact ⟨hitems, htext, hplain.2.2⟩

end RuleStack.Text
