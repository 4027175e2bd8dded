import RuleStack.Json.Parser
import RuleStack.Proofs.Number.Rounding
set_option autoImplicit false

namespace RuleStack.Json

def IsDigits (ds : List Char) : Prop := ds ≠ [] ∧ ∀ c ∈ ds, c.isDigit = true

def continuesNumber (c : Char) : Bool := c.isDigit || c == '.' || c == 'e' || c == 'E'

def StopsAt (kind : Char → Bool) (rest : List Char) : Prop :=
  ∀ c tail, rest = c :: tail → kind c = false

abbrev Stops (rest : List Char) : Prop := StopsAt continuesNumber rest

theorem stopsAt_nil (kind : Char → Bool) : StopsAt kind [] := by
  intro c tail h
  cases h

theorem stopsAt_cons {kind : Char → Bool} {c : Char} (h : kind c = false) (tail : List Char) :
    StopsAt kind (c :: tail) := by
  intro d rest he
  cases he
  exact h

theorem StopsAt.isDigit {rest : List Char} (h : Stops rest) : StopsAt Char.isDigit rest := by
  intro c tail he
  have hc := h c tail he
  simp only [continuesNumber, Bool.or_eq_false_iff] at hc
  exact hc.1.1.1

theorem isDigits_natText (n : Nat) : IsDigits (natText n) :=
  ⟨Nat.toDigits_ne_nil, fun _ hc => Nat.isDigit_of_mem_toDigits (by decide) (by decide) hc⟩

theorem digitsValue_eq (ds : List Char) : digitsValue ds = Nat.ofDigitChars 10 ds 0 := rfl

@[simp] theorem digitsValue_natText (n : Nat) : digitsValue (natText n) = n :=
  Nat.ofDigitChars_ten_toDigits

theorem digitsValue_append (as bs : List Char) :
    digitsValue (as ++ bs) = digitsValue as * 10 ^ bs.length + digitsValue bs := by
  simp only [digitsValue_eq, Nat.ofDigitChars_append]
  rw [Nat.ofDigitChars_eq_ofDigitChars_zero, Nat.mul_comm]

@[simp] theorem digitsValue_zeros (count : Nat) : digitsValue (List.replicate count '0') = 0 := by
  rw [digitsValue_eq, Nat.ofDigitChars_replicate_zero, Nat.mul_zero]

theorem isDigits_append {as bs : List Char} (ha : IsDigits as) (hb : ∀ c ∈ bs, c.isDigit = true) :
    IsDigits (as ++ bs) := by
  refine ⟨by simp [ha.1], fun c hc => ?_⟩
  rcases List.mem_append.1 hc with hc | hc
  · exact ha.2 c hc
  · exact hb c hc

theorem isDigit_of_mem_zeros {count : Nat} {c : Char} (h : c ∈ List.replicate count '0') :
    c.isDigit = true := by
  rw [List.eq_of_mem_replicate h]
  rfl

theorem digitsValue_cons_zero (ds : List Char) : digitsValue ('0' :: ds) = digitsValue ds :=
  (digitsValue_append ['0'] ds).trans (by simp [digitsValue])

theorem digitChar_ne_zero : ∀ n, n < 10 → n ≠ 0 → Nat.digitChar n ≠ '0' := by decide

theorem head?_natText_ne {n : Nat} (h : n ≠ 0) : (natText n).head? ≠ some '0' := by
  induction n using Nat.strongRecOn with
  | ind n ih =>
    by_cases hlt : n < 10
    · rw [natText, Nat.toDigits_of_lt_base hlt]
      simpa using digitChar_ne_zero n hlt h
    · have hsplit := Nat.toDigits_of_base_le (b := 10) (by decide) (Nat.not_lt.1 hlt)
      have hhead := ih (n / 10) (by omega) (by omega)
      rw [natText] at hhead ⊢
      rw [hsplit]
      cases hds : Nat.toDigits 10 (n / 10) with
      | nil => exact absurd hds Nat.toDigits_ne_nil
      | cons c cs => simpa [hds] using hhead

theorem signed_natAbs (value : Int) : signed (decide (value < 0)) value.natAbs = value := by
  unfold signed
  by_cases hneg : value < 0
  · rw [decide_eq_true hneg, if_pos rfl]
    omega
  · rw [decide_eq_false hneg, if_neg (by decide)]
    omega

theorem readDigits?_append {ds rest : List Char} (hds : IsDigits ds)
    (hrest : StopsAt Char.isDigit rest) : readDigits? (ds ++ rest) = some (ds, rest) := by
  have htake : (ds ++ rest).takeWhile Char.isDigit = ds := by
    rw [List.takeWhile_append_of_pos hds.2]
    cases rest with
    | nil => simp
    | cons c tail => simp [hrest c tail rfl]
  have hdrop : (ds ++ rest).dropWhile Char.isDigit = rest := by
    rw [List.dropWhile_append_of_pos hds.2]
    cases rest with
    | nil => simp
    | cons c tail => simp [hrest c tail rfl]
  unfold readDigits?
  rw [htake, hdrop]
  cases ds with
  | nil => exact absurd rfl hds.1
  | cons c cs => rfl

def IsWhole (ds : List Char) : Prop := ds = ['0'] ∨ IsDigits ds ∧ ds.head? ≠ some '0'

theorem readWhole?_append {ds rest : List Char} (hds : IsWhole ds)
    (hrest : StopsAt Char.isDigit rest) : readWhole? (ds ++ rest) = some (ds, rest) := by
  rcases hds with rfl | ⟨hdigits, hhead⟩
  · rfl
  · cases ds with
    | nil => exact absurd rfl hdigits.1
    | cons c cs =>
      have hc : c ≠ '0' := fun he => hhead (he ▸ rfl)
      have hread := readDigits?_append hdigits hrest
      unfold readWhole?
      split
      · rename_i he
        cases he
        exact absurd rfl hc
      · exact hread

structure Literal where
  whole : List Char
  fraction : Option (List Char)
  exponent : Option Int

namespace Literal

def fractionText : Option (List Char) → List Char
  | some ds => '.' :: ds
  | none => []

def exponentText : Option Int → List Char
  | some e => Layout.exponentText e
  | none => []

def text (lit : Literal) : List Char :=
  lit.whole ++ (fractionText lit.fraction ++ exponentText lit.exponent)

def isWhole (lit : Literal) : Bool := lit.fraction.isNone && lit.exponent.isNone

structure WellFormed (lit : Literal) : Prop where
  whole : IsWhole lit.whole
  fraction : ∀ ds, lit.fraction = some ds → IsDigits ds

def decimal (lit : Literal) : Decimal :=
  ⟨digitsValue (lit.whole ++ lit.fraction.getD []),
    lit.exponent.getD 0 - (lit.fraction.getD []).length⟩

theorem readExponent?_append (exponent : Option Int) {rest : List Char} (hrest : Stops rest) :
    readExponent? (exponentText exponent ++ rest) = some (exponent, rest) := by
  cases exponent with
  | none =>
    cases rest with
    | nil => rfl
    | cons c tail =>
      have hc := hrest c tail rfl
      simp only [continuesNumber, Bool.or_eq_false_iff, beq_eq_false_iff_ne] at hc
      simp [exponentText, readExponent?, hc.1.2, hc.2]
  | some e =>
    have hdigits := readDigits?_append (isDigits_natText e.natAbs) hrest.isDigit
    have hvalue := signed_natAbs e
    by_cases hneg : e < 0
    · rw [decide_eq_true hneg] at hvalue
      simp [exponentText, Layout.exponentText, readExponent?, hneg, readSign, hdigits, hvalue]
    · rw [decide_eq_false hneg] at hvalue
      simp [exponentText, Layout.exponentText, readExponent?, hneg, readSign, hdigits, hvalue]

theorem stopsAt_exponentText (exponent : Option Int) {rest : List Char} (hrest : Stops rest) :
    StopsAt Char.isDigit (exponentText exponent ++ rest) := by
  cases exponent with
  | none => exact hrest.isDigit
  | some e => exact stopsAt_cons (by decide) _

theorem readFraction?_append {fraction : Option (List Char)} (exponent : Option Int)
    (hfraction : ∀ ds, fraction = some ds → IsDigits ds) {rest : List Char} (hrest : Stops rest) :
    readFraction? (fractionText fraction ++ (exponentText exponent ++ rest)) =
      some (fraction, exponentText exponent ++ rest) := by
  cases fraction with
  | some ds =>
    have hread := readDigits?_append (hfraction ds rfl) (stopsAt_exponentText exponent hrest)
    simp [fractionText, readFraction?, hread]
  | none =>
    have hpoint : StopsAt (· == '.') (exponentText exponent ++ rest) := by
      cases exponent with
      | some e => exact stopsAt_cons (by decide) _
      | none =>
        intro c tail he
        have hc := hrest c tail he
        simp only [continuesNumber, Bool.or_eq_false_iff] at hc
        exact hc.1.1.2
    simp only [fractionText, List.nil_append]
    unfold readFraction?
    split
    · rename_i he
      simpa using hpoint _ _ he
    · rfl

theorem readUnsigned?_text (negative : Bool) {lit : Literal} (hlit : lit.WellFormed)
    {rest : List Char} (hrest : Stops rest) :
    readUnsigned? negative (lit.text ++ rest) =
      (number? negative lit.whole lit.fraction lit.exponent).map (·, rest) := by
  have hafter : StopsAt Char.isDigit
      (fractionText lit.fraction ++ (exponentText lit.exponent ++ rest)) := by
    cases lit.fraction with
    | some ds => exact stopsAt_cons (by decide) _
    | none => exact stopsAt_exponentText lit.exponent hrest
  have hwhole := readWhole?_append hlit.whole hafter
  have hfraction := readFraction?_append lit.exponent hlit.fraction hrest
  have hexponent := readExponent?_append lit.exponent hrest
  unfold readUnsigned? text
  simp only [List.append_assoc, hwhole, hfraction, hexponent, Option.bind_eq_bind,
    Option.bind_some]
  cases number? negative lit.whole lit.fraction lit.exponent <;> rfl

end Literal
end RuleStack.Json
