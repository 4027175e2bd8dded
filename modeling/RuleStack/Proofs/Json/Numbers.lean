import RuleStack.Proofs.Json.Literal
set_option autoImplicit false

namespace RuleStack

open Json

def Decimal.lead (d : Decimal) : Int := d.exponent + (natText d.digits).length - 1

namespace Layout

def Positional (l : Layout) (d : Decimal) : Prop := l.lowest ≤ d.lead ∧ d.lead ≤ l.highest

instance (l : Layout) (d : Decimal) : Decidable (l.Positional d) :=
  inferInstanceAs (Decidable (_ ∧ _))

structure Writes (l : Layout) (d : Decimal) (lit : Literal) : Prop where
  wellFormed : lit.WellFormed
  text_eq : l.decimalText d = lit.text
  value_eq (negative : Bool) :
    Binary64.ofDecimal? negative lit.decimal = Binary64.ofDecimal? negative d
  isWhole_iff : lit.isWhole = true ↔ l.fraction = false ∧ 0 ≤ d.exponent ∧ l.Positional d
  digits_eq : lit.isWhole = true → lit.decimal.digits = d.digits * 10 ^ d.exponent.toNat

variable {l : Layout} {d : Decimal}

theorem isWhole_natText (hd : d.digits ≠ 0) {ds : List Char} (hds : ∀ c ∈ ds, c.isDigit = true) :
    IsWhole (natText d.digits ++ ds) := by
  have hdigits := isDigits_natText d.digits
  refine .inr ⟨isDigits_append hdigits hds, ?_⟩
  have hhead := head?_natText_ne hd
  cases htext : natText d.digits with
  | nil => exact absurd htext hdigits.1
  | cons c cs => simpa [htext] using hhead

theorem ofDecimal?_zeros (negative : Bool) (hexp : 0 ≤ d.exponent) (extra : Nat) :
    Binary64.ofDecimal? negative ⟨d.digits * 10 ^ (d.exponent.toNat + extra), 0 - extra⟩ =
      Binary64.ofDecimal? negative d := by
  have hsum : (0 : Int) - extra + (d.exponent.toNat + extra : Nat) = d.exponent := by omega
  rw [Binary64.ofDecimal?_mul_pow, hsum]

theorem writes_whole (hd : d.digits ≠ 0) (hpos : l.Positional d) (hexp : 0 ≤ d.exponent) :
    ∃ lit, l.Writes d lit := by
  let zeros := List.replicate d.exponent.toNat '0'
  have hwhole : IsWhole (natText d.digits ++ zeros) :=
    isWhole_natText hd fun _ hc => isDigit_of_mem_zeros hc
  have hvalue : digitsValue (natText d.digits ++ zeros) = d.digits * 10 ^ d.exponent.toNat := by
    rw [digitsValue_append, digitsValue_natText, digitsValue_zeros, List.length_replicate,
      Nat.add_zero]
  have htext : l.decimalText d = natText d.digits ++ zeros ++ l.fractionText := by
    unfold decimalText
    exact (if_pos hpos).trans (if_pos hexp)
  cases hf : l.fraction with
  | false =>
    refine ⟨⟨natText d.digits ++ zeros, none, none⟩, ⟨hwhole, by simp⟩, ?_, fun negative => ?_, ?_,
      fun _ => ?_⟩
    · simp [htext, fractionText, hf, Literal.text, Literal.fractionText, Literal.exponentText]
    · have hread := ofDecimal?_zeros negative hexp 0
      simpa [Literal.decimal, hvalue] using hread
    · simp [Literal.isWhole, hexp, hpos, hf]
    · simp [Literal.decimal, hvalue]
  | true =>
    have hvalue' : digitsValue (natText d.digits ++ (zeros ++ ['0'])) =
        d.digits * 10 ^ (d.exponent.toNat + 1) := by
      rw [← List.append_assoc, digitsValue_append, hvalue, Nat.pow_succ, ← Nat.mul_assoc]
      rfl
    refine ⟨⟨natText d.digits ++ zeros, some ['0'], none⟩, ⟨hwhole, by simp [IsDigits]⟩, ?_,
      fun negative => ?_, ?_, fun h => ?_⟩
    · simp [htext, fractionText, hf, Literal.text, Literal.fractionText, Literal.exponentText]
    · have hread := ofDecimal?_zeros negative hexp 1
      simpa [Literal.decimal, hvalue'] using hread
    · simp [Literal.isWhole, hf]
    · cases h

theorem Writes.of_decimal_eq {lit : Literal} (hlit : lit.WellFormed)
    (htext : l.decimalText d = lit.text) (hdecimal : lit.decimal = d)
    (hwhole : lit.isWhole = false) (hnot : ¬ (0 ≤ d.exponent ∧ l.Positional d)) :
    l.Writes d lit := by
  have hnone {p : Prop} (h : lit.isWhole = true) : p := by
    rw [hwhole] at h
    cases h
  exact ⟨hlit, htext, fun negative => by rw [hdecimal],
    ⟨hnone, fun h => absurd h.2 hnot⟩, hnone⟩

theorem writes_point (hd : d.digits ≠ 0) (hpos : l.Positional d) (hexp : d.exponent < 0)
    (hlead : 0 ≤ d.lead) : ∃ lit, l.Writes d lit := by
  have hdigits := isDigits_natText d.digits
  have hlength : d.lead = d.exponent + (natText d.digits).length - 1 := rfl
  let before := (natText d.digits).take (d.lead.toNat + 1)
  let after := (natText d.digits).drop (d.lead.toNat + 1)
  have htext : l.decimalText d = before ++ '.' :: after := by
    unfold decimalText
    exact (if_pos hpos).trans ((if_neg (Int.not_le.2 hexp)).trans (if_pos hlead))
  have hbefore : IsWhole before := by
    have hhead := head?_natText_ne hd
    cases hnat : natText d.digits with
    | nil => exact absurd hnat hdigits.1
    | cons c cs =>
      rw [hnat] at hhead
      refine .inr ⟨⟨by simp [before, hnat], fun x hx => hdigits.2 x (List.mem_of_mem_take hx)⟩, ?_⟩
      simpa [before, hnat] using hhead
  have hafter : IsDigits after := by
    refine ⟨?_, fun x hx => hdigits.2 x (List.mem_of_mem_drop hx)⟩
    rw [Ne, List.drop_eq_nil_iff]
    omega
  have hdecimal : Literal.decimal ⟨before, some after, none⟩ = d := by
    have hexponent : (0 : Int) - after.length = d.exponent := by
      rw [List.length_drop]
      omega
    simp only [Literal.decimal, Option.getD_some, Option.getD_none, hexponent]
    rw [List.take_append_drop, digitsValue_natText]
  refine ⟨_, .of_decimal_eq ⟨hbefore, ?_⟩ ?_ hdecimal rfl (by omega)⟩
  · intro ds he
    cases he
    exact hafter
  · simp [htext, Literal.text, Literal.fractionText, Literal.exponentText]

theorem writes_small (hpos : l.Positional d) (hexp : d.exponent < 0) (hlead : d.lead < 0) :
    ∃ lit, l.Writes d lit := by
  have hlength : d.lead = d.exponent + (natText d.digits).length - 1 := rfl
  let zeros := List.replicate (-d.lead - 1).toNat '0'
  have htext : l.decimalText d = '0' :: '.' :: (zeros ++ natText d.digits) := by
    unfold decimalText
    exact (if_pos hpos).trans
      ((if_neg (Int.not_le.2 hexp)).trans (if_neg (Int.not_le.2 hlead)))
  have hafter : IsDigits (zeros ++ natText d.digits) := by
    refine ⟨by simp [(isDigits_natText d.digits).1], fun c hc => ?_⟩
    rcases List.mem_append.1 hc with hc | hc
    · exact isDigit_of_mem_zeros hc
    · exact (isDigits_natText d.digits).2 c hc
  have hdecimal : Literal.decimal ⟨['0'], some (zeros ++ natText d.digits), none⟩ = d := by
    have hexponent : (0 : Int) - (zeros ++ natText d.digits).length = d.exponent := by
      rw [List.length_append, List.length_replicate]
      omega
    have hvalue : digitsValue ('0' :: (zeros ++ natText d.digits)) = d.digits := by
      rw [digitsValue_cons_zero, digitsValue_append, digitsValue_zeros, digitsValue_natText,
        Nat.zero_mul, Nat.zero_add]
    simp only [Literal.decimal, Option.getD_some, Option.getD_none, hexponent]
    exact congrArg (Decimal.mk · _) hvalue
  refine ⟨_, .of_decimal_eq ⟨.inl rfl, ?_⟩ ?_ hdecimal rfl (by omega)⟩
  · intro ds he
    cases he
    exact hafter
  · simp [htext, Literal.text, Literal.fractionText, Literal.exponentText]

theorem writes_exponent (hd : d.digits ≠ 0) (hpos : ¬ l.Positional d) :
    ∃ lit, l.Writes d lit := by
  have hdigits := isDigits_natText d.digits
  have hhead := head?_natText_ne hd
  have hvalue := digitsValue_natText d.digits
  have hlength : d.lead = d.exponent + (natText d.digits).length - 1 := rfl
  cases hnat : natText d.digits with
  | nil => exact absurd hnat hdigits.1
  | cons c rest =>
    rw [hnat] at hdigits hhead hvalue hlength
    have hfirst : IsWhole [c] := by
      refine .inr ⟨⟨by simp, fun x hx => hdigits.2 x ?_⟩, by simpa using hhead⟩
      rw [List.mem_singleton.1 hx]
      exact List.mem_cons_self
    cases rest with
    | nil =>
      have htext : l.decimalText d = c :: exponentText d.lead := by
        unfold decimalText
        refine (if_neg hpos).trans ?_
        rw [hnat, hlength]
      have hdecimal : Literal.decimal ⟨[c], none, some d.lead⟩ = d := by
        have hexponent : d.lead - (0 : Nat) = d.exponent := by
          rw [hlength]
          simp
        simp only [Literal.decimal, Option.getD_some, Option.getD_none, List.append_nil, hvalue,
          List.length_nil, hexponent]
      refine ⟨_, .of_decimal_eq ⟨hfirst, by simp⟩ ?_ hdecimal rfl fun h => hpos h.2⟩
      simp [htext, Literal.text, Literal.fractionText, Literal.exponentText]
    | cons e es =>
      have htext : l.decimalText d = c :: '.' :: (e :: es ++ exponentText d.lead) := by
        unfold decimalText
        refine (if_neg hpos).trans ?_
        rw [hnat, hlength]
      have hafter : IsDigits (e :: es) :=
        ⟨by simp, fun x hx => hdigits.2 x (List.mem_cons_of_mem _ hx)⟩
      have hdecimal : Literal.decimal ⟨[c], some (e :: es), some d.lead⟩ = d := by
        have hexponent : d.lead - (e :: es).length = d.exponent := by
          rw [hlength, List.length_cons]
          omega
        simp only [Literal.decimal, Option.getD_some, List.singleton_append, hvalue, hexponent]
      refine ⟨_, .of_decimal_eq ⟨hfirst, ?_⟩ ?_ hdecimal rfl fun h => hpos h.2⟩
      · intro ds he
        cases he
        exact hafter
      · simp [htext, Literal.text, Literal.fractionText, Literal.exponentText]

theorem exists_literal (l : Layout) {d : Decimal} (hd : d.digits ≠ 0) :
    ∃ lit, l.Writes d lit := by
  by_cases hpos : l.Positional d
  · by_cases hexp : 0 ≤ d.exponent
    · exact writes_whole hd hpos hexp
    · by_cases hlead : 0 ≤ d.lead
      · exact writes_point hd hpos (Int.not_le.1 hexp) hlead
      · exact writes_small hpos (Int.not_le.1 hexp) (Int.not_le.1 hlead)
  · exact writes_exponent hd hpos

end Layout

namespace Binary64

/-- The whole number that the shortest decimal of a double stands for, if it stands for one. -/
def whole? (x : Binary64) : Option Int :=
  if x.isZero then some 0
  else if 0 ≤ x.shortest.trim.exponent then
    some (signed x.negative (x.shortest.trim.digits * 10 ^ x.shortest.trim.exponent.toNat))
  else none

theorem eq_zero {x : Binary64} (hx : x.isZero = true) : x = zero x.negative := by
  obtain ⟨negative, code, hfinite⟩ := x
  have hcode : code = 0 := by simpa [isZero] using hx
  subst hcode
  rfl

theorem ofDecimal?_trim_shortest {x : Binary64} (hx : x.isZero = false) :
    ofDecimal? x.negative x.shortest.trim = some x := by
  rw [ofDecimal?_trim, ofDecimal?_shortest x hx]

theorem digits_ne_zero {x : Binary64} (hx : x.isZero = false) : x.shortest.trim.digits ≠ 0 := by
  intro hzero
  have hread := ofDecimal?_trim_shortest hx
  unfold ofDecimal? at hread
  rw [if_pos hzero, Option.some.injEq] at hread
  rw [← hread] at hx
  simp [isZero, zero] at hx

end Binary64

namespace Number

/-- A number as it comes back from the canonical text: a double that is a whole number of one word
comes back as that number. -/
def settle : Number → Number
  | .integer value h => .integer value h
  | .float x => (x.whole?.bind ofInt?).getD (.float x)

theorem settle_float_of_exponent_neg {x : Binary64} (hx : x.isZero = false)
    (hexp : ¬ 0 ≤ x.shortest.trim.exponent) : settle (.float x) = .float x := by
  have hwhole : x.whole? = none := by simp [Binary64.whole?, hx, hexp]
  rw [settle, hwhole]
  rfl

theorem settle_float_of_exponent_nonneg {x : Binary64} (hx : x.isZero = false)
    (hexp : 0 ≤ x.shortest.trim.exponent) :
    settle (.float x) = (ofInt? (signed x.negative
      (x.shortest.trim.digits * 10 ^ x.shortest.trim.exponent.toNat))).getD (.float x) := by
  simp [settle, Binary64.whole?, hx, hexp]

theorem ofInt?_eq_some {value : Int} (h : InWord value) : ofInt? value = some (.integer value h) :=
  dif_pos h

theorem ofInt?_eq_none {value : Int} (h : ¬ InWord value) : ofInt? value = none := dif_neg h

end Number

def signText (negative : Bool) : List Char := if negative then ['-'] else []

theorem readNumber?_signText (negative : Bool) {c : Char} (hc : c.isDigit = true)
    (cs : List Char) :
    readNumber? (signText negative ++ c :: cs) = readUnsigned? negative (c :: cs) := by
  cases negative with
  | true => rfl
  | false =>
    simp only [signText, Bool.false_eq_true, if_false, List.nil_append]
    unfold readNumber?
    split
    · rename_i he
      cases he
      exact absurd hc (by decide)
    · rfl

theorem Json.Literal.readNumber?_text (negative : Bool) {lit : Literal} (hlit : lit.WellFormed)
    {rest : List Char} (hrest : Stops rest) :
    readNumber? (signText negative ++ lit.text ++ rest) =
      (if lit.isWhole && !(negative && lit.decimal.digits == 0) then
        (Number.ofInt? (signed negative lit.decimal.digits)).or
          ((Binary64.ofDecimal? negative lit.decimal).map .float)
      else (Binary64.ofDecimal? negative lit.decimal).map .float).map (·, rest) := by
  have hread := readUnsigned?_text negative hlit hrest
  have hfirst : ∃ c cs, lit.text ++ rest = c :: cs ∧ c.isDigit = true := by
    rcases hlit.whole with hzero | ⟨⟨hne, hall⟩, -⟩
    · exact ⟨'0', fractionText lit.fraction ++ (exponentText lit.exponent ++ rest),
        by simp [text, hzero], rfl⟩
    · cases hwhole : lit.whole with
      | nil => exact absurd hwhole hne
      | cons c cs =>
        exact ⟨c, cs ++ (fractionText lit.fraction ++ (exponentText lit.exponent ++ rest)),
          by simp [text, hwhole], hall c (by simp [hwhole])⟩
  obtain ⟨c, cs, htext, hdigit⟩ := hfirst
  rw [List.append_assoc, htext, readNumber?_signText negative hdigit, ← htext, hread]
  rfl

namespace Layout

theorem intText_eq (value : Int) :
    intText value = signText (decide (value < 0)) ++ natText value.natAbs := by
  by_cases h : value < 0 <;> simp [intText, signText, h]

theorem readNumber?_intText (value : Int) (h : InWord value) {rest : List Char}
    (hrest : Stops rest) :
    readNumber? (intText value ++ rest) = some (.integer value h, rest) := by
  have hlit : Literal.WellFormed ⟨natText value.natAbs, none, none⟩ := by
    refine ⟨?_, by simp⟩
    by_cases hzero : value.natAbs = 0
    · rw [hzero]
      exact .inl rfl
    · exact .inr ⟨isDigits_natText _, head?_natText_ne hzero⟩
  have hread := Literal.readNumber?_text (decide (value < 0)) hlit hrest
  have htext : Literal.text ⟨natText value.natAbs, none, none⟩ = natText value.natAbs := by
    simp [Literal.text, Literal.fractionText, Literal.exponentText]
  have hdigits : Literal.decimal ⟨natText value.natAbs, none, none⟩ = ⟨value.natAbs, 0⟩ := by
    simp [Literal.decimal]
  rw [htext, hdigits] at hread
  dsimp only at hread
  rw [signed_natAbs, Number.ofInt?_eq_some h] at hread
  -- only `-0` is no whole number, and no integer is written so
  have hplain : (decide (value < 0) && value.natAbs == 0) = false := by
    by_cases hneg : value < 0
    · simp [hneg]
      omega
    · simp [hneg]
  rw [intText_eq, hread, hplain]
  rfl

/-- A double that is not zero reads back as itself, or else as the whole number that it is written
as. -/
theorem readNumber?_floatText (l : Layout) {x : Binary64} (hx : x.isZero = false)
    {rest : List Char} (hrest : Stops rest) :
    readNumber? (l.floatText x ++ rest) =
      some (if l.fraction = false ∧ l.Positional x.shortest.trim then Number.settle (.float x)
        else .float x, rest) := by
  obtain ⟨lit, hlit⟩ := exists_literal l (Binary64.digits_ne_zero hx)
  have hread := Literal.readNumber?_text x.negative hlit.wellFormed hrest
  have hvalue := hlit.value_eq x.negative
  rw [Binary64.ofDecimal?_trim_shortest hx] at hvalue
  rw [hvalue] at hread
  have htext : l.floatText x = signText x.negative ++ lit.text := by
    rw [← hlit.text_eq]
    simp [floatText, hx, signText]
  rw [htext, hread]
  by_cases hexp : 0 ≤ x.shortest.trim.exponent
  · by_cases hwhole : l.fraction = false ∧ l.Positional x.shortest.trim
    · have hlitWhole := hlit.isWhole_iff.2 ⟨hwhole.1, hexp, hwhole.2⟩
      have hdigits := hlit.digits_eq hlitWhole
      have hne : lit.decimal.digits ≠ 0 := by
        rw [hdigits]
        exact Nat.mul_ne_zero (Binary64.digits_ne_zero hx) (Nat.ne_of_gt (Nat.pow_pos (by decide)))
      have hnotZero : (x.negative && lit.decimal.digits == 0) = false := by simp [hne]
      rw [if_pos hwhole, hlitWhole, hnotZero, Number.settle_float_of_exponent_nonneg hx hexp,
        ← hdigits]
      cases Number.ofInt? (signed x.negative lit.decimal.digits) <;> rfl
    · have hnot : lit.isWhole = false := by
        rw [← Bool.not_eq_true, hlit.isWhole_iff]
        exact fun h => hwhole ⟨h.1, h.2.2⟩
      rw [hnot, if_neg hwhole]
      rfl
  · have hnot : lit.isWhole = false := by
      rw [← Bool.not_eq_true, hlit.isWhole_iff]
      exact fun h => hexp h.2.1
    rw [hnot, Number.settle_float_of_exponent_neg hx hexp, ite_self]
    rfl

/-- In the plain layout a number reads back as it was. -/
theorem readNumber?_plain (n : Number) {rest : List Char} (hrest : Stops rest) :
    readNumber? (plain.numberText n ++ rest) = some (n, rest) := by
  cases n with
  | integer value h => exact readNumber?_intText value h hrest
  | float x =>
    cases hx : x.isZero with
    | false => exact readNumber?_floatText plain hx hrest
    | true =>
      have hlit : Literal.WellFormed ⟨['0'], some ['0'], none⟩ := ⟨.inl rfl, by simp [IsDigits]⟩
      have hread := Literal.readNumber?_text x.negative hlit hrest
      have htext : plain.floatText x = signText x.negative ++ ['0', '.', '0'] := by
        simp [floatText, hx, signText, plain, fractionText]
      have hvalue : Binary64.ofDecimal? x.negative ⟨0, -1⟩ = some x := by
        rw [Binary64.eq_zero hx]
        rfl
      exact (congrArg (fun cs => readNumber? (cs ++ rest)) htext).trans
        (hread.trans (congrArg (fun o => (o.map Number.float).map (·, rest)) hvalue))

theorem pow_lead_le {d : Decimal} (hd : d.digits ≠ 0) (hexp : 0 ≤ d.exponent) :
    10 ^ d.lead.toNat ≤ d.digits * 10 ^ d.exponent.toNat := by
  have hpos : 0 < (natText d.digits).length :=
    List.length_pos_iff.2 (isDigits_natText d.digits).1
  have hlead : d.lead.toNat = (natText d.digits).length - 1 + d.exponent.toNat := by
    unfold Decimal.lead
    omega
  have hdigits : 10 ^ ((natText d.digits).length - 1) ≤ d.digits := by
    by_cases hone : (natText d.digits).length - 1 = 0
    · rw [hone]
      omega
    · have hlarge : ¬ (natText d.digits).length ≤ (natText d.digits).length - 1 := by omega
      have hiff := Nat.length_toDigits_le_iff (n := d.digits) (b := 10) (by decide)
        (Nat.pos_of_ne_zero hone)
      exact Nat.not_lt.1 fun hlt => hlarge (hiff.2 hlt)
  rw [hlead, Nat.pow_add]
  exact Nat.mul_le_mul_right _ hdigits

/-- Doubles that the canonical layout writes with an exponent are beyond one word. -/
theorem settle_of_not_positional {x : Binary64} (hx : x.isZero = false)
    (hpos : ¬ canonical.Positional x.shortest.trim) :
    Number.settle (.float x) = .float x := by
  by_cases hexp : 0 ≤ x.shortest.trim.exponent
  · have hlength : 0 < (natText x.shortest.trim.digits).length :=
      List.length_pos_iff.2 (isDigits_natText x.shortest.trim.digits).1
    have hlead : 21 ≤ x.shortest.trim.lead.toNat := by
      unfold Positional canonical at hpos
      unfold Decimal.lead at hpos ⊢
      dsimp only at hpos
      omega
    have hlarge := pow_lead_le (Binary64.digits_ne_zero hx) hexp
    have hpow : 10 ^ 21 ≤ 10 ^ x.shortest.trim.lead.toNat := Nat.pow_le_pow_right (by decide) hlead
    have hnot : ¬ InWord (signed x.negative
        (x.shortest.trim.digits * 10 ^ x.shortest.trim.exponent.toNat)) := by
      unfold InWord Number.minWhole Number.maxWhole signed
      split <;> omega
    rw [Number.settle_float_of_exponent_nonneg hx hexp, Number.ofInt?_eq_none hnot]
    rfl
  · exact Number.settle_float_of_exponent_neg hx hexp

/-- In the canonical layout a number reads back settled. -/
theorem readNumber?_canonical (n : Number) {rest : List Char} (hrest : Stops rest) :
    readNumber? (canonical.numberText n ++ rest) = some (n.settle, rest) := by
  cases n with
  | integer value h => exact readNumber?_intText value h hrest
  | float x =>
    cases hx : x.isZero with
    | false =>
      have hread := readNumber?_floatText canonical hx hrest
      by_cases hpos : canonical.Positional x.shortest.trim
      · rw [if_pos ⟨rfl, hpos⟩] at hread
        exact hread
      · rw [if_neg fun h => hpos h.2] at hread
        rw [settle_of_not_positional hx hpos]
        exact hread
    | true =>
      have hlit : Literal.WellFormed ⟨['0'], none, none⟩ := ⟨.inl rfl, by simp⟩
      have hread := Literal.readNumber?_text false hlit hrest
      have htext : canonical.floatText x = ['0'] := by
        simp [floatText, hx, canonical, fractionText]
      have hsettle : Number.settle (.float x) = .integer 0 (by decide) := by
        have hwhole : x.whole? = some 0 := by simp [Binary64.whole?, hx]
        rw [Number.settle, hwhole]
        rfl
      rw [hsettle]
      exact (congrArg (fun cs => readNumber? (cs ++ rest)) htext).trans hread

end Layout

end RuleStack
