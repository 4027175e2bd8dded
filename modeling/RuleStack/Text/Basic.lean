set_option autoImplicit false

namespace RuleStack.Text

def isBlank (c : Char) : Bool :=
  let n := c.toNat
  (0x09 ≤ n && n ≤ 0x0D) || n == 0x20 || n == 0x85 || n == 0xA0 || n == 0x1680 ||
    (0x2000 ≤ n && n ≤ 0x200A) || n == 0x2028 || n == 0x2029 || n == 0x202F || n == 0x205F ||
    n == 0x3000

def trimStart (cs : List Char) : List Char := cs.dropWhile isBlank

def trimEnd (cs : List Char) : List Char := (cs.reverse.dropWhile isBlank).reverse

def trim (s : String) : String := String.ofList (trimEnd (trimStart s.toList))

def blank (s : String) : Bool := s.toList.all isBlank

def hexDigit (n : Nat) : Char := Nat.digitChar n

def hexValue? (c : Char) : Option Nat :=
  if '0' ≤ c ∧ c ≤ '9' then some (c.toNat - '0'.toNat)
  else if 'a' ≤ c ∧ c ≤ 'f' then some (c.toNat - 'a'.toNat + 10)
  else if 'A' ≤ c ∧ c ≤ 'F' then some (c.toNat - 'A'.toNat + 10)
  else none

theorem hexValue?_hexDigit : ∀ n, n < 16 → hexValue? (hexDigit n) = some n := by decide

def occursIn (part : List Char) : List Char → Bool
  | [] => part.isEmpty
  | c :: rest => part.isPrefixOf (c :: rest) || occursIn part rest

theorem occursIn_iff (part text : List Char) : occursIn part text = true ↔ part <:+: text := by
  induction text with
  | nil => simp [occursIn]
  | cons c rest ih =>
    rw [occursIn, Bool.or_eq_true, ih, List.infix_cons_iff, List.isPrefixOf_iff_prefix]

def contains (text part : String) : Bool := occursIn part.toList text.toList

theorem contains_iff (text part : String) :
    contains text part = true ↔ part.toList <:+: text.toList :=
  occursIn_iff part.toList text.toList

/-- One character more at the front: a mark opens a new slice, any other joins the first one. -/
def addToSlices (mark c : Char) (slices : List Char × List (List Char)) :
    List Char × List (List Char) :=
  if c = mark then ([], slices.1 :: slices.2) else (c :: slices.1, slices.2)

/-- The slices in order, empty ones included; a text without the mark is one slice. -/
def slices (mark : Char) (cs : List Char) : List (List Char) :=
  let (first, others) := cs.foldr (addToSlices mark) ([], [])
  first :: others

@[simp] theorem slices_nil (mark : Char) : slices mark [] = [[]] := rfl

@[simp] theorem slices_mark (mark : Char) (cs : List Char) :
    slices mark (mark :: cs) = [] :: slices mark cs := by
  simp [slices, addToSlices]

end RuleStack.Text
