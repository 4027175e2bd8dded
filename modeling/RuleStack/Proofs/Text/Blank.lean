import RuleStack.Key
set_option autoImplicit false

namespace RuleStack

@[simp] theorem alphanumericOnly_append (a b : String) :
    alphanumericOnly (a ++ b) = alphanumericOnly a ++ alphanumericOnly b := by
  simp [alphanumericOnly]

@[simp] theorem alphanumericOnly_alphanumericOnly (s : String) :
    alphanumericOnly (alphanumericOnly s) = alphanumericOnly s := by
  simp [alphanumericOnly]

theorem alphanumericOnly_eq_self {s : String} (h : ∀ c ∈ s.toList, c.isAlphanum = true) :
    alphanumericOnly s = s := by
  rw [alphanumericOnly, List.filter_eq_self.2 h, String.ofList_toList]

namespace Text

theorem trimStart_eq_nil_iff (cs : List Char) :
    trimStart cs = [] ↔ ∀ c ∈ cs, isBlank c = true := by
  induction cs with
  | nil => simp [trimStart]
  | cons c rest ih =>
    rw [trimStart, List.dropWhile_cons, List.forall_mem_cons, ← ih]
    split
    · rename_i hc
      exact (and_iff_right hc).symm
    · rename_i hc
      exact iff_of_false (List.cons_ne_nil c rest) fun h => hc h.1

theorem trimEnd_eq_nil_iff (cs : List Char) : trimEnd cs = [] ↔ ∀ c ∈ cs, isBlank c = true := by
  rw [trimEnd, List.reverse_eq_nil_iff]
  exact (trimStart_eq_nil_iff cs.reverse).trans (by simp only [List.mem_reverse])

theorem forall_mem_trimStart_iff (cs : List Char) :
    (∀ c ∈ trimStart cs, isBlank c = true) ↔ ∀ c ∈ cs, isBlank c = true := by
  induction cs with
  | nil => exact Iff.rfl
  | cons c rest ih =>
    rw [trimStart, List.dropWhile_cons]
    split
    · rename_i hc
      rw [List.forall_mem_cons]
      exact ih.trans (and_iff_right hc).symm
    · exact Iff.rfl

/-- Trimming leaves nothing of a text just if it is blank. -/
theorem trim_eq_empty_iff (s : String) : trim s = "" ↔ blank s = true := by
  rw [trim, blank, List.all_eq_true, ← forall_mem_trimStart_iff, ← trimEnd_eq_nil_iff,
    ← String.toList_inj]
  simp

theorem blank_append (a b : String) : blank (a ++ b) = (blank a && blank b) := by
  simp [blank]

theorem codes_of_isAlphanum {c : Char} (h : c.isAlphanum = true) :
    (65 ≤ c.toNat ∧ c.toNat ≤ 90) ∨ (97 ≤ c.toNat ∧ c.toNat ≤ 122) ∨
      (48 ≤ c.toNat ∧ c.toNat ≤ 57) := by
  have hcodes : (decide (65 ≤ c.toNat ∧ c.toNat ≤ 90) ||
      decide (97 ≤ c.toNat) && decide (c.toNat ≤ 122) ||
      decide (48 ≤ c.toNat) && decide (c.toNat ≤ 57)) = true := h
  simpa [or_assoc] using hcodes

theorem isBlank_of_isAlphanum {c : Char} (h : c.isAlphanum = true) : isBlank c = false := by
  have hcodes := codes_of_isAlphanum h
  simp only [isBlank, Bool.or_eq_false_iff, Bool.and_eq_false_iff, decide_eq_false_iff_not,
    beq_eq_false_iff_ne]
  omega

theorem blank_alphanumericOnly_iff (s : String) :
    blank (alphanumericOnly s) = true ↔ alphanumericOnly s = "" := by
  constructor
  · intro h
    rw [blank, alphanumericOnly, String.toList_ofList, List.all_eq_true] at h
    have hnone : s.toList.filter Char.isAlphanum = [] := by
      rw [List.eq_nil_iff_forall_not_mem]
      intro c hc
      have hblank := isBlank_of_isAlphanum (List.mem_filter.1 hc).2
      rw [h c hc] at hblank
      cases hblank
    rw [alphanumericOnly, hnone]
  · intro h
    rw [h]
    rfl

def StartsBare (cs : List Char) : Prop := ∀ c ∈ cs.head?, isBlank c = false

def EndsBare (cs : List Char) : Prop := ∀ c ∈ cs.getLast?, isBlank c = false

instance (cs : List Char) : Decidable (StartsBare cs) :=
  Option.decidableForallMem cs.head?

instance (cs : List Char) : Decidable (EndsBare cs) :=
  Option.decidableForallMem cs.getLast?

section Trim

variable {cs before after : List Char}

theorem trimStart_append (h : ∀ c ∈ before, isBlank c = true) :
    trimStart (before ++ cs) = trimStart cs :=
  List.dropWhile_append_of_pos h

theorem trimStart_eq_self (h : StartsBare cs) : trimStart cs = cs := by
  cases cs with
  | nil => rfl
  | cons c rest => exact List.dropWhile_cons_of_neg (by simp [h c rfl])

theorem startsBare_trimStart (cs : List Char) : StartsBare (trimStart cs) := by
  intro c hc
  have hfirst := List.head?_dropWhile_not isBlank cs
  rw [trimStart] at hc
  rwa [hc] at hfirst

theorem trimEnd_eq_reverse (cs : List Char) : trimEnd cs = (trimStart cs.reverse).reverse := rfl

theorem endsBare_iff (cs : List Char) : EndsBare cs ↔ StartsBare cs.reverse := by
  rw [EndsBare, StartsBare, List.head?_reverse]

theorem trimEnd_append (h : ∀ c ∈ after, isBlank c = true) :
    trimEnd (cs ++ after) = trimEnd cs := by
  rw [trimEnd_eq_reverse, List.reverse_append, trimStart_append (by simpa using h),
    trimEnd_eq_reverse]

theorem trimEnd_eq_self (h : EndsBare cs) : trimEnd cs = cs := by
  rw [trimEnd_eq_reverse, trimStart_eq_self ((endsBare_iff cs).1 h), List.reverse_reverse]

theorem endsBare_trimEnd (cs : List Char) : EndsBare (trimEnd cs) := by
  rw [endsBare_iff, trimEnd_eq_reverse, List.reverse_reverse]
  exact startsBare_trimStart _

theorem trimStart_isSuffix (cs : List Char) : trimStart cs <:+ cs := List.dropWhile_suffix isBlank

theorem trimEnd_isPrefix (cs : List Char) : trimEnd cs <+: cs := by
  rw [trimEnd_eq_reverse, ← List.reverse_suffix, List.reverse_reverse]
  exact trimStart_isSuffix _

theorem startsBare_trimEnd (h : StartsBare cs) : StartsBare (trimEnd cs) := by
  intro c hc
  obtain ⟨rest, hrest⟩ := trimEnd_isPrefix cs
  exact h c (by rw [← hrest, List.head?_append, hc]; rfl)

theorem trimEnd_trimStart_append (hbefore : ∀ c ∈ before, isBlank c = true)
    (hafter : ∀ c ∈ after, isBlank c = true) (hstart : StartsBare cs) (hend : EndsBare cs) :
    trimEnd (trimStart (before ++ cs ++ after)) = cs := by
  rw [List.append_assoc, trimStart_append hbefore]
  cases cs with
  | nil =>
    rw [List.nil_append, (trimStart_eq_nil_iff after).2 hafter]
    rfl
  | cons c rest =>
    have hstarts : StartsBare (c :: rest ++ after) := hstart
    rw [trimStart_eq_self hstarts, trimEnd_append hafter, trimEnd_eq_self hend]

end Trim

end Text
end RuleStack

namespace RuleStack.Text

theorem utf8ByteSize_eq_length {cs : List Char} (h : ∀ c ∈ cs, c.isAlphanum = true) :
    (String.ofList cs).utf8ByteSize = cs.length := by
  induction cs with
  | nil => rfl
  | cons c rest ih =>
    have hc : c.utf8Size = 1 := by
      rw [Char.utf8Size_eq_one_iff]
      have hcodes := codes_of_isAlphanum (h c List.mem_cons_self)
      have hsmall : c.val.toNat ≤ 127 := by
        have hval : c.val.toNat = c.toNat := rfl
        omega
      exact hsmall
    have hrest := ih fun d hd => h d (List.mem_cons_of_mem c hd)
    rw [List.length_cons, ← hrest, String.ofList_cons, String.utf8ByteSize_append,
      String.utf8ByteSize_singleton, hc, Nat.add_comm]

/-- The text before a place that is counted in bytes. There is none where the text has no such
place, or it lies inside a character. -/
def upTo? (place : Nat) (s : String) : Option String :=
  if h : String.Pos.Raw.IsValid s ⟨place⟩ then some (s.sliceTo (s.pos ⟨place⟩ h)).copy else none

theorem upTo?_eq_some_iff {place : Nat} {s front : String} :
    upTo? place s = some front ↔ front.utf8ByteSize = place ∧ ∃ rest, s = front ++ rest := by
  constructor
  · intro h
    rw [upTo?] at h
    split at h
    · obtain ⟨rest, hsplits⟩ := String.copy_sliceTo_eq_iff_exists_splits.1 (Option.some.inj h)
      exact ⟨congrArg String.Pos.Raw.byteIdx hsplits.offset_eq_rawEndPos.symm, rest,
        hsplits.eq_append⟩
    · cases h
  · rintro ⟨rfl, rest, rfl⟩
    have hvalid : String.Pos.Raw.IsValid (front ++ rest) ⟨front.utf8ByteSize⟩ :=
      String.Pos.Raw.isValid_iff_exists_append.2 ⟨front, rest, rfl, rfl⟩
    have hsplits : ((front ++ rest).pos _ hvalid).Splits front rest := ⟨rfl, rfl⟩
    rw [upTo?, dif_pos hvalid, hsplits.copy_sliceTo_eq]

example : upTo? 2 "éa" = some "é" ∧ upTo? 1 "éa" = none := by decide

theorem upTo?_ofList {cs : List Char} (h : ∀ c ∈ cs, c.isAlphanum = true) (place : Nat) :
    upTo? place (String.ofList cs) =
      if place ≤ cs.length then some (String.ofList (cs.take place)) else none := by
  split
  · rename_i hplace
    rw [upTo?_eq_some_iff]
    constructor
    · rw [utf8ByteSize_eq_length fun c hc => h c (List.mem_of_mem_take hc), List.length_take,
        Nat.min_eq_left hplace]
    · exact ⟨String.ofList (cs.drop place), by rw [← String.ofList_append, List.take_append_drop]⟩
  · rename_i hplace
    rw [Option.eq_none_iff_forall_ne_some]
    intro front hfront
    obtain ⟨hsize, rest, hparts⟩ := upTo?_eq_some_iff.1 hfront
    -- the front of a text is not longer than the text
    have hwhole := congrArg String.utf8ByteSize hparts
    rw [utf8ByteSize_eq_length h, String.utf8ByteSize_append] at hwhole
    omega

end RuleStack.Text
