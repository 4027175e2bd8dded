import RuleStack.Text.Basic
import RuleStack.Toml.Basic
set_option autoImplicit false

namespace RuleStack.Toml

/-- Every character but the control characters, of which a tab is allowed. -/
def isPlain (c : Char) : Bool := c == '\t' || (0x20 ≤ c.toNat && c.toNat != 0x7F)

def isSpace (c : Char) : Bool := c == ' ' || c == '\t'

def readCode? (count : Nat) (cs : List Char) : Option (Char × List Char) := do
  let digits ← (cs.take count).mapM Text.hexValue?
  let code := digits.foldl (fun n d => 16 * n + d) 0
  if digits.length = count ∧ code.isValidChar then some (Char.ofNat code, cs.drop count) else none

def readEscape? : List Char → Option (Char × List Char)
  | 'b' :: rest => some ('\x08', rest)
  | 't' :: rest => some ('\t', rest)
  | 'n' :: rest => some ('\n', rest)
  | 'f' :: rest => some ('\x0c', rest)
  | 'r' :: rest => some ('\r', rest)
  | 'e' :: rest => some ('\x1b', rest)
  | '"' :: rest => some ('"', rest)
  | '\\' :: rest => some ('\\', rest)
  | 'x' :: rest => readCode? 2 rest
  | 'u' :: rest => readCode? 4 rest
  | 'U' :: rest => readCode? 8 rest
  | _ => none

theorem length_of_readCode? {count : Nat} {cs rest : List Char} {c : Char}
    (h : readCode? count cs = some (c, rest)) : rest.length ≤ cs.length := by
  simp only [readCode?, bind, Option.bind_eq_some_iff, Option.ite_none_right_eq_some,
    Option.some.injEq, Prod.mk.injEq] at h
  obtain ⟨_, _, _, _, rfl⟩ := h
  simp

theorem length_of_readEscape? {cs rest : List Char} {c : Char}
    (h : readEscape? cs = some (c, rest)) : rest.length < cs.length := by
  revert h
  fun_cases readEscape? cs <;> intro h
  case case9 | case10 | case11 => exact Nat.lt_succ_of_le (length_of_readCode? h)
  case case12 => simp at h
  all_goals
    cases h
    simp

def readBreak? : List Char → Option (List Char)
  | '\n' :: rest => some rest
  | '\r' :: '\n' :: rest => some rest
  | _ => none

def dropBreak (cs : List Char) : List Char := (readBreak? cs).getD cs

def dropBlank : List Char → List Char
  | ' ' :: rest => dropBlank rest
  | '\t' :: rest => dropBlank rest
  | '\n' :: rest => dropBlank rest
  | '\r' :: '\n' :: rest => dropBlank rest
  | cs => cs

/-- A backslash at the end of a line takes away the white space up to the next text. -/
def readFold? (cs : List Char) : Option (List Char) :=
  (readBreak? (cs.dropWhile isSpace)).map dropBlank

theorem length_of_readBreak? {cs rest : List Char} (h : readBreak? cs = some rest) :
    rest.length < cs.length := by
  revert h
  fun_cases readBreak? cs <;> intro h <;> cases h <;> simp only [List.length_cons] <;> omega

theorem length_dropBlank_le (cs : List Char) : (dropBlank cs).length ≤ cs.length := by
  fun_induction dropBlank cs with
  | case5 => exact Nat.le_refl _
  | _ =>
    simp only [List.length_cons]
    omega

theorem length_of_readFold? {cs rest : List Char} (h : readFold? cs = some rest) :
    rest.length < cs.length := by
  obtain ⟨after, ha, rfl⟩ := Option.map_eq_some_iff.1 h
  have h₁ := length_of_readBreak? ha
  have h₂ := (List.dropWhile_suffix (l := cs) isSpace).length_le
  have h₃ := length_dropBlank_le after
  omega

def readBasic? (read : List Char) : List Char → Option (String × List Char)
  | '"' :: rest => some (String.ofList read.reverse, rest)
  | '\\' :: rest =>
    match h : readEscape? rest with
    | none => none
    | some (c, after) =>
      have := length_of_readEscape? h
      readBasic? (c :: read) after
  | c :: rest => if isPlain c then readBasic? (c :: read) rest else none
  | [] => none
termination_by cs => cs.length
decreasing_by all_goals simp only [List.length_cons]; omega

def readLiteral? (read : List Char) : List Char → Option (String × List Char)
  | '\'' :: rest => some (String.ofList read.reverse, rest)
  | c :: rest => if isPlain c then readLiteral? (c :: read) rest else none
  | [] => none

def closeLines (quote : Char) (read rest : List Char) : String × List Char :=
  let extra := (rest.take 2).takeWhile (· == quote)
  (String.ofList (read.reverse ++ extra), rest.drop extra.length)

def readBasicLines? (read : List Char) : List Char → Option (String × List Char)
  | '"' :: '"' :: '"' :: rest => some (closeLines '"' read rest)
  | '\\' :: rest =>
    match hf : readFold? rest with
    | some after =>
      have := length_of_readFold? hf
      readBasicLines? read after
    | none =>
      match h : readEscape? rest with
      | none => none
      | some (c, after) =>
        have := length_of_readEscape? h
        readBasicLines? (c :: read) after
  | '\n' :: rest => readBasicLines? ('\n' :: read) rest
  | '\r' :: '\n' :: rest => readBasicLines? ('\n' :: '\r' :: read) rest
  | c :: rest => if isPlain c then readBasicLines? (c :: read) rest else none
  | [] => none
termination_by cs => cs.length
decreasing_by all_goals simp only [List.length_cons]; omega

def readLiteralLines? (read : List Char) : List Char → Option (String × List Char)
  | '\'' :: '\'' :: '\'' :: rest => some (closeLines '\'' read rest)
  | '\n' :: rest => readLiteralLines? ('\n' :: read) rest
  | '\r' :: '\n' :: rest => readLiteralLines? ('\n' :: '\r' :: read) rest
  | c :: rest => if isPlain c then readLiteralLines? (c :: read) rest else none
  | [] => none

def readText? : List Char → Option (String × List Char)
  | '"' :: '"' :: '"' :: rest => readBasicLines? [] (dropBreak rest)
  | '"' :: rest => readBasic? [] rest
  | '\'' :: '\'' :: '\'' :: rest => readLiteralLines? [] (dropBreak rest)
  | '\'' :: rest => readLiteral? [] rest
  | _ => none

def isHexDigit (c : Char) : Bool :=
  c.isDigit || ('a' ≤ c && c ≤ 'f') || ('A' ≤ c && c ≤ 'F')

/-- A group before another one ends with a digit, or is a single character. -/
def closesGroup (isDigit : Char → Bool) : List Char → Bool
  | [] => false
  | [_] => true
  | group => group.getLast?.any isDigit

def opensGroup (isDigit : Char → Bool) (group : List Char) : Bool := group.head?.any isDigit

def areGroups (isDigit : Char → Bool) : List (List Char) → Bool
  | group :: next :: rest =>
    closesGroup isDigit group && opensGroup isDigit next && areGroups isDigit (next :: rest)
  | _ => true

def isGrouped (isDigit : Char → Bool) (cs : List Char) : Bool :=
  areGroups isDigit (Text.slices '_' cs)

def unsigned : List Char → List Char
  | '+' :: rest => rest
  | '-' :: rest => rest
  | cs => cs

def isExponentMark (c : Char) : Bool := c == 'e' || c == 'E'

def isDecimalMark (c : Char) : Bool := c == '.' || isExponentMark c

/-- The digits of a number in another base than ten. There may be none. -/
def isInBase (isDigit : Char → Bool) (cs : List Char) : Bool :=
  cs.all (fun c => isDigit c || c == '_') && isGrouped isDigit cs

/-- A whole number in base ten: a zero stands alone or does not lead. -/
def isWhole (cs : List Char) : Bool :=
  let body := unsigned cs
  match body.dropWhile Char.isDigit with
  | [] => body == ['0'] || body.head?.any (· != '0')
  | '_' :: rest =>
    body.head? != some '0' && rest.all (fun c => c != ' ' && !isDecimalMark c) &&
      isGrouped isHexDigit cs
  | _ => false

def isInteger : List Char → Bool
  | '0' :: 'x' :: rest => isInBase isHexDigit rest
  | '0' :: 'o' :: rest => isInBase (fun c => '0' ≤ c && c ≤ '7') rest
  | '0' :: 'b' :: rest => isInBase (fun c => c == '0' || c == '1') rest
  | cs => isWhole cs

def isRunChar (c : Char) : Bool := c.isDigit || c == '_'

def readRun? (cs : List Char) : Option (List Char × List Char) :=
  let run := cs.takeWhile isRunChar
  if run.any Char.isDigit then some (run, cs.dropWhile isRunChar) else none

/-- The digits before a fraction or an exponent: a zero stands alone or does not lead. -/
def readMantissa? (cs : List Char) : Option (List Char) := do
  let (run, rest) ← readRun? cs
  if run.head? = some '0' ∧ 1 < run.countP Char.isDigit then none else some rest

def readFraction? : List Char → Option (List Char)
  | '.' :: rest => (readRun? rest).map (·.2)
  | cs => some cs

def readExponent? : List Char → Option (List Char)
  | [] => some []
  | c :: rest =>
    if isExponentMark c then (readRun? (unsigned rest)).map (·.2) else some (c :: rest)

def isFractional (cs : List Char) : Bool :=
  (unsigned cs).any isDecimalMark && isGrouped Char.isDigit cs &&
    (((readMantissa? (unsigned cs)).bind readFraction?).bind readExponent?) == some []

def isDecimal (cs : List Char) : Bool :=
  unsigned cs == ['i', 'n', 'f'] || unsigned cs == ['n', 'a', 'n'] || isFractional cs

def digitValue (c : Char) : Nat := c.toNat - '0'.toNat

def pairValue? (a b : Char) : Option Nat :=
  if a.isDigit && b.isDigit then some (10 * digitValue a + digitValue b) else none

def isLeapYear (year : Nat) : Bool := year % 4 == 0 && (year % 100 != 0 || year % 400 == 0)

def daysIn (year month : Nat) : Nat :=
  if month == 2 then if isLeapYear year then 29 else 28
  else if month == 4 || month == 6 || month == 9 || month == 11 then 30
  else 31

def readDate? : List Char → Option (List Char)
  | a :: b :: c :: d :: '-' :: e :: f :: '-' :: g :: h :: rest => do
    let century ← pairValue? a b
    let year ← pairValue? c d
    let month ← pairValue? e f
    let day ← pairValue? g h
    if 1 ≤ month ∧ month ≤ 12 ∧ 1 ≤ day ∧ day ≤ daysIn (100 * century + year) month then
      some rest
    else none
  | _ => none

/-- The seconds of a time of day, which may be left out, with a fraction if there is one. -/
def readSeconds? : List Char → Option (List Char)
  | ':' :: a :: b :: rest => do
    let second ← pairValue? a b
    if 60 < second then none
    else
      match rest with
      | '.' :: c :: rest => if c.isDigit then some (rest.dropWhile Char.isDigit) else none
      | rest => some rest
  | ':' :: _ => none
  | cs => some cs

def readHourMinute? : List Char → Option (List Char)
  | a :: b :: ':' :: c :: d :: rest => do
    let hour ← pairValue? a b
    let minute ← pairValue? c d
    if hour ≤ 23 ∧ minute ≤ 59 then some rest else none
  | _ => none

def readTime? (cs : List Char) : Option (List Char) := (readHourMinute? cs).bind readSeconds?

def isOffset : List Char → Bool
  | [] => true
  | ['Z'] | ['z'] => true
  | c :: rest => (c == '+' || c == '-') && readHourMinute? rest == some []

def isMoment (cs : List Char) : Bool :=
  readTime? cs == some [] ||
    match readDate? cs with
    | none => false
    | some [] => true
    | some (c :: rest) =>
      (c == 'T' || c == 't' || c == ' ') && (readTime? rest).any isOffset

def isQuote (c : Char) : Bool := c == '"' || c == '\''

/-- The character may stand in a word. A quote may, but not first. -/
def isWordChar (c : Char) : Bool :=
  !(isSpace c || ['\n', '\r', '#', '=', ',', '[', ']', '\x7b', '\x7d'].contains c)

/-- Takes a word off a text. What is taken so far and the blanks after it are given, the last
character first. -/
def takeWord (read gap : List Char) : List Char → List Char × List Char
  | [] => (read.reverse, gap.reverse)
  | c :: rest =>
    if isSpace c then takeWord read (c :: gap) rest
    else if isWordChar c && (gap.isEmpty || !isQuote c) then takeWord (c :: (gap ++ read)) [] rest
    else (read.reverse, gap.reverse ++ c :: rest)

def ofWord? (word : List Char) : Option Toml :=
  if word == "true".toList then some (.boolean true)
  else if word == "false".toList then some (.boolean false)
  else if isInteger word || isDecimal word then some (.number (String.ofList word))
  else if isMoment word then some (.moment (String.ofList word))
  else none

def readWord? (cs : List Char) : Option (Toml × List Char) :=
  let (word, rest) := takeWord [] [] cs
  (ofWord? word).map (·, rest)

end RuleStack.Toml
