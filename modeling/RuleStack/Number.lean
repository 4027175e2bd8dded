/-!
Finite doubles as exact data. A magnitude is kept as its code, the 63 bits below the sign, and
`code = shift * 2 ^ 52 + significand` where the magnitude is `significand * 2 ^ shift` units of
`2 ^ -1074`. A document also has whole numbers of one machine word, and `1` is not `1.0`.
-/
set_option autoImplicit false

namespace RuleStack

def Binary64.binade : Nat := Nat.pow 2 52

/-- The first code that is not a finite number. -/
def Binary64.infinity : Nat := 2047 * Binary64.binade

structure Binary64 where
  negative : Bool
  code : Nat
  finite : code < Binary64.infinity
  deriving DecidableEq, Repr

/-- A number `digits * 10 ^ exponent`. -/
structure Decimal where
  digits : Nat
  exponent : Int
  deriving DecidableEq, Repr

namespace Binary64

def zero (negative : Bool) : Binary64 := ⟨negative, 0, by decide⟩

def isZero (x : Binary64) : Bool := x.code == 0

/-- Equality of the numbers denoted: the two zeros are one number. -/
def same (x y : Binary64) : Bool := x.code == y.code && (x.negative == y.negative || x.code == 0)

/-- The magnitude is `(parts x).1 * 2 ^ (parts x).2` units of `2 ^ -1074`. -/
def parts (x : Binary64) : Nat × Nat :=
  if x.code < 2 * binade then (x.code, 0)
  else (x.code % binade + binade, x.code / binade - 1)

def roundHalfEven (num den : Nat) : Nat :=
  let floor := num / den
  let twice := 2 * (num % den)
  if twice < den then floor
  else if den < twice then floor + 1
  else floor + floor % 2

/-- The code nearest to `num / den`; it may be beyond the finite ones. -/
def roundCode (num den : Nat) : Nat :=
  let units := num * Nat.pow 2 1074
  let shift := (Nat.log2 (units / den) + 1) - 53
  shift * binade + roundHalfEven units (den * Nat.pow 2 shift)

def ofCode? (negative : Bool) (code : Nat) : Option Binary64 :=
  if h : code < infinity then some ⟨negative, code, h⟩ else none

def digitCount : Nat → Nat
  | 0 => 0
  | n + 1 => digitCount ((n + 1) / 10) + 1
decreasing_by omega

/-- The number nearest to a signed decimal, or none where it is too large. Decimals from
`10 ^ 400` on and below `10 ^ -400` are decided without being computed. -/
def ofDecimal? (negative : Bool) (d : Decimal) : Option Binary64 :=
  if d.digits = 0 then some (zero negative)
  else
    let top := d.exponent + digitCount d.digits
    if 400 < top then none
    else if top < -400 then some (zero negative)
    else if 0 ≤ d.exponent then
      ofCode? negative (roundCode (d.digits * Nat.pow 10 d.exponent.toNat) 1)
    else
      ofCode? negative (roundCode d.digits (Nat.pow 10 (-d.exponent).toNat))

def exact (x : Binary64) : Decimal :=
  let (significand, shift) := x.parts
  if 1074 ≤ shift then ⟨significand * Nat.pow 2 (shift - 1074), 0⟩
  else ⟨significand * Nat.pow 5 (1074 - shift), shift - 1074⟩

/-- The decimals of `count` leading digits next to the magnitude `full`, the nearer one first;
of two as near the even one. -/
def neighbours (full : Decimal) (count : Nat) : List Decimal :=
  let dropped := digitCount full.digits - count
  let unit := Nat.pow 10 dropped
  let below := full.digits / unit
  let rest := full.digits % unit
  let decimal (n : Nat) : Decimal := ⟨n, full.exponent + dropped⟩
  if rest = 0 then [decimal below]
  else if 2 * rest < unit ∨ (2 * rest = unit ∧ below % 2 = 0) then
    [decimal below, decimal (below + 1)]
  else [decimal (below + 1), decimal below]

/-- The decimal of fewest digits that reads back as the number, the nearest one of these; the
magnitude in full stands in where no decimal of up to seventeen digits would do. -/
def shortest (x : Binary64) : Decimal :=
  let full := x.exact
  (((List.range' 1 17).flatMap (neighbours full)).find?
    (fun d => ofDecimal? x.negative d == some x)).getD full

end Binary64

def Number.minWhole : Int := -9223372036854775808

def Number.maxWhole : Nat := 18446744073709551615

abbrev InWord (value : Int) : Prop := Number.minWhole ≤ value ∧ value ≤ Number.maxWhole

inductive Number where
  | integer (value : Int) (inWord : InWord value)
  | float (value : Binary64)
  deriving DecidableEq, Repr

namespace Number

def ofInt? (value : Int) : Option Number :=
  if h : InWord value then some (.integer value h) else none

def ofNat (value : Nat) (h : value ≤ maxWhole) : Number :=
  .integer value ⟨by unfold minWhole; omega, by omega⟩

def toNat? : Number → Option Nat
  | .integer value _ => if 0 ≤ value then some value.toNat else none
  | .float _ => none

/-- The number as a word of 32 bits. A double, a negative number and one from `2 ^ 32` on have
none. -/
def toWord? (n : Number) : Option UInt32 :=
  n.toNat?.bind fun value =>
    if h : value < UInt32.size then some (UInt32.ofNatLT value h) else none

/-- Equality by value; it holds between the two zeros among the doubles. -/
def same : Number → Number → Bool
  | .integer a _, .integer b _ => a == b
  | .float a, .float b => a.same b
  | _, _ => false

@[simp] theorem toNat?_ofNat (value : Nat) (h : value ≤ maxWhole) :
    (ofNat value h).toNat? = some value := by
  simp [ofNat, toNat?]

end Number

structure Layout where
  lowest : Int
  highest : Int
  fraction : Bool
  signedZero : Bool
  deriving DecidableEq, Repr

namespace Layout

/-- Whole doubles keep `.0`, and exponents from `-5` to `15` are written positionally. -/
def plain : Layout := ⟨-5, 15, true, true⟩

/-- Whole doubles look like integers, and exponents from `-6` to `20` are written positionally. -/
def canonical : Layout := ⟨-6, 20, false, false⟩

end Layout

def natText (n : Nat) : List Char := Nat.toDigits 10 n

def intText (i : Int) : List Char :=
  if i < 0 then '-' :: natText i.natAbs else natText i.natAbs

namespace Decimal

def trim (d : Decimal) : Decimal :=
  if h : d.digits ≠ 0 ∧ d.digits % 10 = 0 then trim ⟨d.digits / 10, d.exponent + 1⟩ else d
termination_by d.digits
decreasing_by omega

end Decimal

namespace Layout

def exponentText (e : Int) : List Char :=
  'e' :: (if e < 0 then '-' else '+') :: natText e.natAbs

def fractionText (l : Layout) : List Char := if l.fraction then ['.', '0'] else []

def decimalText (l : Layout) (d : Decimal) : List Char :=
  let digits := natText d.digits
  let lead := d.exponent + digits.length - 1
  if l.lowest ≤ lead ∧ lead ≤ l.highest then
    if 0 ≤ d.exponent then
      digits ++ List.replicate d.exponent.toNat '0' ++ l.fractionText
    else if 0 ≤ lead then
      digits.take (lead.toNat + 1) ++ '.' :: digits.drop (lead.toNat + 1)
    else
      '0' :: '.' :: (List.replicate (-lead - 1).toNat '0' ++ digits)
  else
    match digits with
    | [] => []
    | [c] => c :: exponentText lead
    | c :: rest => c :: '.' :: (rest ++ exponentText lead)

def floatText (l : Layout) (x : Binary64) : List Char :=
  if x.isZero then
    (if x.negative && l.signedZero then ['-'] else []) ++ '0' :: l.fractionText
  else
    (if x.negative then ['-'] else []) ++ l.decimalText x.shortest.trim

def numberText (l : Layout) : Number → List Char
  | .integer value _ => intText value
  | .float value => l.floatText value

end Layout
end RuleStack
