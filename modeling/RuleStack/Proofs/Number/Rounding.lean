import Mathlib.Algebra.Group.Nat.Defs
import RuleStack.Number
set_option autoImplicit false

namespace RuleStack

namespace Binary64

theorem roundHalfEven_mul_right (num den : Nat) {c : Nat} (hc : 0 < c) :
    roundHalfEven (num * c) (den * c) = roundHalfEven num den := by
  have hdouble : 2 * (num % den * c) = 2 * (num % den) * c := by rw [Nat.mul_assoc]
  unfold roundHalfEven
  simp only [Nat.mul_div_mul_right _ _ hc, Nat.mul_mod_mul_right, hdouble,
    Nat.mul_lt_mul_right hc]

theorem roundCode_mul_right (num den : Nat) {c : Nat} (hc : 0 < c) :
    roundCode (num * c) (den * c) = roundCode num den := by
  have hunits : num * c * Nat.pow 2 1074 = num * Nat.pow 2 1074 * c := Nat.mul_right_comm _ _ _
  have hscale (s : Nat) : den * c * s = den * s * c := Nat.mul_right_comm _ _ _
  unfold roundCode
  simp only [hunits, Nat.mul_div_mul_right _ _ hc, hscale, roundHalfEven_mul_right _ _ hc]

theorem roundHalfEven_exact (num : Nat) {den : Nat} (hden : 0 < den) :
    roundHalfEven (num * den) den = num := by
  unfold roundHalfEven
  simp [Nat.mul_div_cancel _ hden, hden]

def Aligned (significand shift : Nat) : Prop :=
  significand < 2 * binade ∧ (shift = 0 ∨ binade ≤ significand)

theorem binade_eq : binade = 2 ^ 52 := rfl

theorem log2_of_aligned {significand shift : Nat} (h : Aligned significand shift) :
    Nat.log2 (significand * 2 ^ shift) + 1 - 53 = shift := by
  obtain ⟨hlt, hzero | hle⟩ := h
  · subst hzero
    have hlog : Nat.log2 significand < 53 ∨ significand = 0 := by
      by_cases hs : significand = 0
      · exact .inr hs
      · exact .inl ((Nat.log2_lt hs).2 hlt)
    rcases hlog with hlog | rfl
    · simp only [Nat.pow_zero, Nat.mul_one]
      omega
    · decide
  · have hne : significand * 2 ^ shift ≠ 0 := by
      have hpos : 0 < significand := Nat.lt_of_lt_of_le (by decide) hle
      exact Nat.ne_of_gt (Nat.mul_pos hpos (Nat.pow_pos (by decide)))
    have hlow : 52 + shift ≤ Nat.log2 (significand * 2 ^ shift) := by
      rw [Nat.le_log2 hne, Nat.pow_add]
      exact Nat.mul_le_mul_right _ hle
    have hhigh : Nat.log2 (significand * 2 ^ shift) < 53 + shift := by
      rw [Nat.log2_lt hne, Nat.pow_add]
      exact Nat.mul_lt_mul_of_pos_right hlt (Nat.pow_pos (by decide))
    omega

/-- A quotient that is a magnitude is not rounded. -/
theorem roundCode_exact {significand shift num den low : Nat} (h : Aligned significand shift)
    (hden : 0 < den) (hlow : low = 1074)
    (hnum : num * Nat.pow 2 low = significand * 2 ^ shift * den) :
    roundCode num den = shift * binade + significand := by
  have hdiv : significand * 2 ^ shift * den / den = significand * 2 ^ shift :=
    Nat.mul_div_cancel _ hden
  have hround : significand * 2 ^ shift * den = significand * (den * 2 ^ shift) := by
    rw [Nat.mul_assoc, Nat.mul_comm (2 ^ shift)]
  have hpos : 0 < den * 2 ^ shift := Nat.mul_pos hden (Nat.pow_pos (by decide))
  unfold roundCode
  rw [← hlow]
  simp only [hnum, hdiv, log2_of_aligned h]
  rw [hround]
  exact congrArg _ (roundHalfEven_exact significand hpos)

theorem aligned_parts (x : Binary64) : Aligned x.parts.1 x.parts.2 := by
  unfold parts Aligned
  split
  · rename_i hlt
    exact ⟨hlt, .inl rfl⟩
  · have hmod : x.code % binade < binade := Nat.mod_lt _ (by decide)
    dsimp only
    omega

theorem code_eq_of_parts (x : Binary64) : x.parts.2 * binade + x.parts.1 = x.code := by
  unfold parts
  split
  · simp
  · rename_i hge
    have hcode := Nat.div_add_mod x.code binade
    have hdiv : 1 ≤ x.code / binade :=
      (Nat.le_div_iff_mul_le (by decide)).2 (by omega)
    have hsplit : x.code / binade - 1 + 1 = x.code / binade := Nat.sub_add_cancel hdiv
    rw [← hsplit, Nat.mul_succ, Nat.mul_comm] at hcode
    dsimp only
    omega

theorem shift_lt (x : Binary64) : x.parts.2 < 2046 := by
  have hcode := code_eq_of_parts x
  have hfinite := x.finite
  have haligned := (aligned_parts x).2
  unfold infinity at hfinite
  rw [binade_eq] at *
  omega

theorem digitCount_pos_eq (n : Nat) (h : n ≠ 0) : digitCount n = digitCount (n / 10) + 1 := by
  cases n with
  | zero => contradiction
  | succ n => rw [digitCount]

theorem digitCount_mul_ten (n : Nat) (h : n ≠ 0) : digitCount (n * 10) = digitCount n + 1 := by
  rw [digitCount_pos_eq (n * 10) (by omega), Nat.mul_div_cancel n (by decide)]

theorem digitCount_le_iff (n count : Nat) : digitCount n ≤ count ↔ n < 10 ^ count := by
  induction count generalizing n with
  | zero =>
    by_cases h : n = 0
    · simp [h, digitCount]
    · rw [digitCount_pos_eq n h]
      omega
  | succ count ih =>
    by_cases h : n = 0
    · rw [h, digitCount]
      exact iff_of_true (Nat.zero_le _) (Nat.pow_pos (by decide))
    · rw [digitCount_pos_eq n h, Nat.add_le_add_iff_right, ih, Nat.pow_succ,
        Nat.div_lt_iff_lt_mul (by decide)]

theorem lt_digitCount_iff (n count : Nat) : count < digitCount n ↔ 10 ^ count ≤ n := by
  rw [← Nat.not_le, digitCount_le_iff, Nat.not_lt]

theorem ofDecimal?_scale (negative : Bool) (digits : Nat) (exponent : Int) :
    ofDecimal? negative ⟨digits * 10, exponent⟩ = ofDecimal? negative ⟨digits, exponent + 1⟩ := by
  by_cases hzero : digits = 0
  · simp [hzero, ofDecimal?]
  · have hten : digits * 10 ≠ 0 := by omega
    have htop : exponent + (digitCount digits + 1 : Nat) = exponent + 1 + digitCount digits := by
      omega
    unfold ofDecimal?
    simp only [hzero, hten, if_false, digitCount_mul_ten digits hzero, htop]
    -- the exponent changes its sign between the two only where it is `-1`
    by_cases hge : 0 ≤ exponent
    · have hsucc : (exponent + 1).toNat = exponent.toNat + 1 := by omega
      have hpow : digits * 10 * Nat.pow 10 exponent.toNat =
          digits * Nat.pow 10 (exponent.toNat + 1) := by
        rw [Nat.mul_assoc, Nat.mul_comm 10]
        rfl
      simp only [hge, show 0 ≤ exponent + 1 by omega, if_true, hsucc, hpow]
    · by_cases hone : exponent = -1
      · subst hone
        have hround := roundCode_mul_right digits 1 (c := 10) (by decide)
        simp only [show ¬ (0 : Int) ≤ -1 by decide, show (0 : Int) ≤ -1 + 1 by decide, if_true,
          if_false]
        have hleft : roundCode (digits * 10) (Nat.pow 10 (- (-1 : Int)).toNat) =
            roundCode digits 1 := hround
        have hright : roundCode (digits * Nat.pow 10 (-1 + 1 : Int).toNat) 1 =
            roundCode digits 1 := by
          rw [show Nat.pow 10 (-1 + 1 : Int).toNat = 1 by rfl, Nat.mul_one]
        rw [hleft, hright]
      · have hsucc : (-exponent).toNat = (-(exponent + 1)).toNat + 1 := by omega
        have hpow : Nat.pow 10 ((-(exponent + 1)).toNat + 1) =
            Nat.pow 10 (-(exponent + 1)).toNat * 10 := rfl
        simp only [hge, show ¬ 0 ≤ exponent + 1 by omega, if_false, hsucc, hpow,
          roundCode_mul_right _ _ (show 0 < 10 by decide)]

theorem ofDecimal?_mul_pow (negative : Bool) (digits count : Nat) (exponent : Int) :
    ofDecimal? negative ⟨digits * 10 ^ count, exponent⟩ =
      ofDecimal? negative ⟨digits, exponent + count⟩ := by
  induction count generalizing exponent with
  | zero => simp
  | succ count ih =>
    rw [Nat.pow_succ, ← Nat.mul_assoc, ofDecimal?_scale, ih]
    congr 2
    omega

theorem ofDecimal?_trim (negative : Bool) (d : Decimal) :
    ofDecimal? negative d.trim = ofDecimal? negative d := by
  fun_induction Decimal.trim d with
  | case1 d h ih =>
    have hdigits : d.digits / 10 * 10 = d.digits := by omega
    rw [ih, ← ofDecimal?_scale, hdigits]
  | case2 => rfl

theorem ofDecimal?_between (negative : Bool) {digits : Nat} {exponent : Int}
    (hdigits : digits ≠ 0) (hlow : -400 ≤ exponent + digitCount digits)
    (hhigh : exponent + digitCount digits ≤ 400) :
    ofDecimal? negative ⟨digits, exponent⟩ = ofCode? negative
      (if 0 ≤ exponent then roundCode (digits * Nat.pow 10 exponent.toNat) 1
        else roundCode digits (Nat.pow 10 (-exponent).toNat)) := by
  unfold ofDecimal?
  simp only [hdigits, if_false, Int.not_lt.2 hlow, Int.not_lt.2 hhigh]
  split <;> rfl

theorem significand_pos {x : Binary64} (hx : x.isZero = false) : 0 < x.parts.1 := by
  have hcode := code_eq_of_parts x
  have haligned := (aligned_parts x).2
  have hne : x.code ≠ 0 := by simpa [isZero] using hx
  rw [binade_eq] at *
  by_cases hs : x.parts.1 = 0
  · rw [hs] at hcode haligned
    rcases haligned with hzero | hle
    · rw [hzero] at hcode
      omega
    · omega
  · omega

theorem ofCode?_code (x : Binary64) : ofCode? x.negative x.code = some x := by
  unfold ofCode?
  rw [dif_pos x.finite]

theorem two_pow_le_ten_pow {a b : Nat} (h : a ≤ 3 * b) : 2 ^ a ≤ 10 ^ b := by
  have hpow : (2 : Nat) ^ a ≤ 2 ^ (3 * b) := Nat.pow_le_pow_right (by decide) h
  rw [Nat.pow_mul] at hpow
  exact Nat.le_trans hpow (Nat.pow_le_pow_left (by decide) b)

theorem digitCount_aligned_le {significand shift count : Nat} (h : Aligned significand shift)
    (hcount : 53 + shift ≤ 3 * count) : digitCount (significand * 2 ^ shift) ≤ count := by
  have hlt : significand * 2 ^ shift < 2 ^ 53 * 2 ^ shift :=
    Nat.mul_lt_mul_of_pos_right h.1 (Nat.pow_pos (by decide))
  rw [← Nat.pow_add] at hlt
  rw [digitCount_le_iff]
  exact Nat.lt_of_lt_of_le hlt (two_pow_le_ten_pow hcount)

theorem whole_scaled (significand : Nat) {low high : Nat} (h : low ≤ high) :
    significand * 2 ^ (high - low) * Nat.pow 2 low = significand * 2 ^ high * 1 := by
  rw [Nat.mul_assoc, Nat.mul_one]
  exact congrArg (significand * ·) (Nat.pow_sub_mul_pow 2 h)

/-- A magnitude that is a whole number reads back from its digits. -/
theorem ofDecimal?_whole {x : Binary64} {low : Nat} (hx : x.isZero = false) (hlow : low = 1074)
    (hshift : low ≤ x.parts.2) :
    ofDecimal? x.negative ⟨x.parts.1 * 2 ^ (x.parts.2 - low), 0⟩ = some x := by
  have haligned := aligned_parts x
  have hlt := shift_lt x
  have hpos : 0 < x.parts.1 * 2 ^ (x.parts.2 - low) :=
    Nat.mul_pos (significand_pos hx) (Nat.pow_pos (by decide))
  have hle : binade ≤ x.parts.1 := haligned.2.resolve_left (by omega)
  have hcount : digitCount (x.parts.1 * 2 ^ (x.parts.2 - low)) ≤ 400 :=
    digitCount_aligned_le ⟨haligned.1, .inr hle⟩ (by omega)
  have hround := roundCode_exact haligned (by decide) hlow (whole_scaled x.parts.1 hshift)
  have hone : Nat.pow 10 (0 : Int).toNat = 1 := rfl
  rw [ofDecimal?_between _ (Nat.ne_of_gt hpos) (by omega) (by omega), if_pos (Int.le_refl 0),
    hone, Nat.mul_one, hround, code_eq_of_parts, ofCode?_code]

theorem ten_pow_eq (n : Nat) : 10 ^ n = 5 ^ n * 2 ^ n := Nat.mul_pow 5 2 n

theorem fraction_scaled (significand : Nat) {low high : Nat} (h : low ≤ high) :
    significand * 5 ^ (high - low) * Nat.pow 2 high =
      significand * 2 ^ low * Nat.pow 10 (high - low) := by
  have hpow : (2 : Nat) ^ high = 2 ^ (high - low) * 2 ^ low := (Nat.pow_sub_mul_pow 2 h).symm
  have hten : Nat.pow 10 (high - low) = 5 ^ (high - low) * 2 ^ (high - low) := ten_pow_eq _
  rw [hten, show Nat.pow 2 high = 2 ^ high from rfl, hpow]
  simp only [Nat.mul_comm, Nat.mul_left_comm, Nat.mul_assoc]

theorem two_pow_le_five_pow {a b : Nat} (h : a ≤ 2 * b) : 2 ^ a ≤ 5 ^ b := by
  have hpow : (2 : Nat) ^ a ≤ 2 ^ (2 * b) := Nat.pow_le_pow_right (by decide) h
  rw [Nat.pow_mul] at hpow
  exact Nat.le_trans hpow (Nat.pow_le_pow_left (by decide) b)

/-- A power of five has at least a digit for each two of its factors. -/
theorem lt_digitCount_mul_five_pow {significand n count : Nat} (hpos : 0 < significand)
    (hcount : 3 * count ≤ 2 * n) : count < digitCount (significand * 5 ^ n) := by
  have hle : count ≤ n := by omega
  have hsplit : (5 : Nat) ^ n = 5 ^ (n - count) * 5 ^ count := (Nat.pow_sub_mul_pow 5 hle).symm
  have htwo : (2 : Nat) ^ count ≤ 5 ^ (n - count) := two_pow_le_five_pow (by omega)
  rw [lt_digitCount_iff, ten_pow_eq, hsplit, Nat.mul_comm (5 ^ count)]
  exact Nat.le_trans (Nat.mul_le_mul_right _ htwo) (Nat.le_mul_of_pos_left _ hpos)

theorem digitCount_mul_five_pow_le {significand count : Nat} (h : significand < 10 ^ count)
    (n : Nat) : digitCount (significand * 5 ^ n) ≤ count + n := by
  rw [digitCount_le_iff, Nat.pow_add]
  exact Nat.mul_lt_mul_of_lt_of_le h (Nat.pow_le_pow_left (by decide) n)
    (Nat.pow_pos (by decide))

/-- A magnitude with a fraction reads back from its digits. -/
theorem ofDecimal?_fraction {x : Binary64} {low : Nat} (hx : x.isZero = false) (hlow : low = 1074)
    (hshift : x.parts.2 < low) :
    ofDecimal? x.negative ⟨x.parts.1 * 5 ^ (low - x.parts.2), (x.parts.2 : Int) - low⟩ =
      some x := by
  have haligned := aligned_parts x
  have hsig := significand_pos hx
  have hpos : 0 < x.parts.1 * 5 ^ (low - x.parts.2) := Nat.mul_pos hsig (Nat.pow_pos (by decide))
  have hfew : 674 - x.parts.2 < digitCount (x.parts.1 * 5 ^ (low - x.parts.2)) :=
    lt_digitCount_mul_five_pow hsig (by omega)
  have hmany : digitCount (x.parts.1 * 5 ^ (low - x.parts.2)) ≤ 18 + (low - x.parts.2) :=
    digitCount_mul_five_pow_le (Nat.lt_of_lt_of_le haligned.1 (by decide)) _
  have hden : 0 < Nat.pow 10 (low - x.parts.2) := Nat.pow_pos (by decide)
  have hround := roundCode_exact haligned hden hlow
    (fraction_scaled x.parts.1 (Nat.le_of_lt hshift))
  have hexponent : (-((x.parts.2 : Int) - low)).toNat = low - x.parts.2 := by omega
  rw [ofDecimal?_between _ (Nat.ne_of_gt hpos) (by omega) (by omega), if_neg (by omega),
    hexponent, hround, code_eq_of_parts, ofCode?_code]

theorem ofDecimal?_exact (x : Binary64) (hx : x.isZero = false) :
    ofDecimal? x.negative x.exact = some x := by
  unfold exact
  dsimp only
  split
  · next hshift => exact ofDecimal?_whole hx rfl hshift
  · next hshift => exact ofDecimal?_fraction hx rfl (Nat.not_le.1 hshift)

theorem ofDecimal?_shortest (x : Binary64) (hx : x.isZero = false) :
    ofDecimal? x.negative x.shortest = some x := by
  unfold shortest
  dsimp only
  cases hfind : ((List.range' 1 17).flatMap (neighbours x.exact)).find?
      (fun d => ofDecimal? x.negative d == some x) with
  | none => exact ofDecimal?_exact x hx
  | some d => simpa using List.find?_some hfind

end Binary64
end RuleStack
