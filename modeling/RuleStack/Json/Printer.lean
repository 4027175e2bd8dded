import RuleStack.Json.Basic
import RuleStack.Text.Basic
/-!
JSON text: compact, pretty, and canonical. In the canonical text members stand in the order of their
quoted keys, the quotes included, so `"a!"` comes before `"a"`, and whole doubles are written like
integers.
-/
set_option autoImplicit false

namespace RuleStack.Json.Escape

open RuleStack.Text (hexDigit hexValue? hexValue?_hexDigit)

def hexValue4? (a b c d : Char) : Option Nat :=
  match hexValue? a, hexValue? b, hexValue? c, hexValue? d with
  | some a, some b, some c, some d => some (4096 * a + 256 * b + 16 * c + d)
  | _, _, _, _ => none

/-- A quote, a backslash and the characters below the space are escaped, nothing else. -/
def encodeChar (c : Char) : List Char :=
  match c with
  | '"' => ['\\', '"']
  | '\\' => ['\\', '\\']
  | '\x08' => ['\\', 'b']
  | '\x0c' => ['\\', 'f']
  | '\n' => ['\\', 'n']
  | '\r' => ['\\', 'r']
  | '\t' => ['\\', 't']
  | c =>
    if c.toNat < 32 then
      ['\\', 'u', '0', '0', hexDigit (c.toNat / 16), hexDigit (c.toNat % 16)]
    else [c]

def encode (cs : List Char) : List Char := cs.flatMap encodeChar

def quote (s : String) : List Char := '"' :: (encode s.toList ++ ['"'])

def isHighSurrogate (n : Nat) : Bool := 0xD800 ≤ n && n < 0xDC00

def isLowSurrogate (n : Nat) : Bool := 0xDC00 ≤ n && n < 0xE000

def joinSurrogates (high low : Nat) : Char :=
  Char.ofNat (0x10000 + (high - 0xD800) * 0x400 + (low - 0xDC00))

def simpleEscape? : Char → Option Char
  | '"' => some '"'
  | '\\' => some '\\'
  | '/' => some '/'
  | 'b' => some '\x08'
  | 'f' => some '\x0c'
  | 'n' => some '\n'
  | 'r' => some '\r'
  | 't' => some '\t'
  | _ => none

/-- Reads one character of a string, escaped or not, that does not end it. A high surrogate has to
be followed by a low one, and a low surrogate cannot stand alone. -/
def decodeChar? : List Char → Option (Char × List Char)
  | '\\' :: 'u' :: a :: b :: c :: d :: rest =>
    match hexValue4? a b c d with
    | none => none
    | some n =>
      if isLowSurrogate n then none
      else if isHighSurrogate n then
        match rest with
        | '\\' :: 'u' :: e :: f :: g :: h :: rest =>
          match hexValue4? e f g h with
          | some m => if isLowSurrogate m then some (joinSurrogates n m, rest) else none
          | none => none
        | _ => none
      else some (Char.ofNat n, rest)
  | '\\' :: c :: rest => (simpleEscape? c).map (·, rest)
  | c :: rest => if c = '\\' ∨ c.toNat < 32 then none else some (c, rest)
  | [] => none

theorem length_of_decodeChar? {cs rest : List Char} {c : Char}
    (h : decodeChar? cs = some (c, rest)) : rest.length < cs.length := by
  revert h
  fun_cases decodeChar? cs <;> intro h <;>
    simp only [Option.map_eq_some_iff, Option.some.injEq, Prod.mk.injEq, reduceCtorEq] at h
  case case8 =>
    obtain ⟨_, _, _, rfl⟩ := h
    simp only [List.length_cons]
    omega
  all_goals
    obtain ⟨_, rfl⟩ := h
    simp only [List.length_cons]
    omega

/-- Reads a string up to its closing quote. `read` holds what was read before, reversed. -/
def decode (read : List Char) (cs : List Char) : Option (List Char × List Char) :=
  match cs with
  | '"' :: rest => some (read.reverse, rest)
  | cs =>
    match h : decodeChar? cs with
    | none => none
    | some (c, rest) =>
      have := length_of_decodeChar? h
      decode (c :: read) rest
termination_by cs.length

theorem length_of_decode {read cs s rest : List Char}
    (h : decode read cs = some (s, rest)) : rest.length < cs.length := by
  fun_induction decode read cs with
  | case1 => cases h; simp
  | case2 => simp at h
  | case3 read cs _ c r hc _ ih => exact Nat.lt_trans (ih h) (length_of_decodeChar? hc)

theorem decodeChar?_plain {c : Char} (h : c ≠ '\\') (hc : ¬ c.toNat < 32) (rest : List Char) :
    decodeChar? (c :: rest) = some (c, rest) := by
  unfold decodeChar?
  split
  · simp_all
  · simp_all
  · simp_all
  · simp_all

theorem decodeChar?_encodeChar (c : Char) (rest : List Char) :
    decodeChar? (encodeChar c ++ rest) = some (c, rest) := by
  unfold encodeChar
  split
  case h_8 h1 h2 h3 h4 h5 h6 h7 =>
    split
    · rename_i hlt
      have h1 := hexValue?_hexDigit (c.toNat / 16) (by omega)
      have h2 := hexValue?_hexDigit (c.toNat % 16) (by omega)
      have h0 : hexValue? '0' = some 0 := by decide
      have hn : 4096 * 0 + 256 * 0 + 16 * (c.toNat / 16) + c.toNat % 16 = c.toNat := by omega
      have hlow : isLowSurrogate c.toNat = false := by simp [isLowSurrogate]; omega
      have hhigh : isHighSurrogate c.toNat = false := by simp [isHighSurrogate]; omega
      simp only [List.cons_append, List.nil_append, decodeChar?, hexValue4?, h0, h1, h2, hn, hlow,
        hhigh, Bool.false_eq_true, if_false, Char.ofNat_toNat]
    · exact decodeChar?_plain h2 ‹_› rest
  all_goals rfl

theorem encodeChar_ne_quote (c : Char) (rest tail : List Char) :
    encodeChar c ++ rest ≠ '"' :: tail := by
  unfold encodeChar
  split
  case h_8 h1 h2 h3 h4 h5 h6 h7 =>
    split
    · simp
    · simp only [List.cons_append, List.nil_append, ne_eq, List.cons.injEq, not_and]
      exact fun h => absurd h h1
  all_goals simp

theorem decode_encode (read cs rest : List Char) :
    decode read (encode cs ++ '"' :: rest) = some (read.reverse ++ cs, rest) := by
  induction cs generalizing read with
  | nil => simp [encode, decode]
  | cons c cs ih =>
    have hs : encode (c :: cs) ++ '"' :: rest = encodeChar c ++ (encode cs ++ '"' :: rest) := by
      simp [encode]
    rw [hs, decode.eq_def]
    split
    · rename_i tail he
      exact absurd he (encodeChar_ne_quote c _ tail)
    · split
      · rename_i he
        rw [decodeChar?_encodeChar] at he
        simp at he
      · rename_i d r he
        rw [decodeChar?_encodeChar] at he
        cases he
        rw [ih]
        simp

end RuleStack.Json.Escape

namespace RuleStack.Json

def boolText (value : Bool) : List Char := (if value then "true" else "false").toList

mutual
def compactChars : Json → List Char
  | .null => "null".toList
  | .bool value => boolText value
  | .num value => Layout.plain.numberText value
  | .str value => Escape.quote value
  | .arr items => '[' :: (compactItems items ++ [']'])
  | .obj members => '\x7b' :: (compactMembers members ++ ['\x7d'])

def compactItems : List Json → List Char
  | [] => []
  | [item] => compactChars item
  | item :: rest => compactChars item ++ ',' :: compactItems rest

def compactMembers : List (String × Json) → List Char
  | [] => []
  | [(key, value)] => Escape.quote key ++ ':' :: compactChars value
  | (key, value) :: rest =>
    Escape.quote key ++ ':' :: (compactChars value ++ ',' :: compactMembers rest)
end

def compact (value : Json) : String := String.ofList value.compactChars

def newline (level : Nat) : List Char := '\n' :: List.replicate (2 * level) ' '

mutual
/-- Each item and member on a line of its own, one level further in than its container; an empty
container stays on one line. -/
def prettyChars (level : Nat) : Json → List Char
  | .null => "null".toList
  | .bool value => boolText value
  | .num value => Layout.plain.numberText value
  | .str value => Escape.quote value
  | .arr [] => ['[', ']']
  | .arr (item :: rest) =>
    '[' :: (newline (level + 1) ++ prettyItems (level + 1) (item :: rest) ++ newline level ++ [']'])
  | .obj [] => ['\x7b', '\x7d']
  | .obj (member :: rest) =>
    '\x7b' :: (newline (level + 1) ++ prettyMembers (level + 1) (member :: rest) ++
      newline level ++ ['\x7d'])

def prettyItems (level : Nat) : List Json → List Char
  | [] => []
  | [item] => prettyChars level item
  | item :: rest => prettyChars level item ++ ',' :: (newline level ++ prettyItems level rest)

def prettyMembers (level : Nat) : List (String × Json) → List Char
  | [] => []
  | [(key, value)] => Escape.quote key ++ ':' :: ' ' :: prettyChars level value
  | (key, value) :: rest =>
    Escape.quote key ++ ':' :: ' ' :: (prettyChars level value ++
      ',' :: (newline level ++ prettyMembers level rest))
end

def pretty (value : Json) : String := String.ofList (value.prettyChars 0)

def joinMembers : List (String × List Char) → List Char
  | [] => []
  | [(key, text)] => key.toList ++ ':' :: text
  | (key, text) :: rest => key.toList ++ ':' :: (text ++ ',' :: joinMembers rest)

mutual
def canonicalChars : Json → List Char
  | .null => "null".toList
  | .bool value => boolText value
  | .num value => Layout.canonical.numberText value
  | .str value => Escape.quote value
  | .arr items => '[' :: (canonicalItems items ++ [']'])
  | .obj members =>
    '\x7b' :: (joinMembers (KeyMap.ofList (canonicalMembers members)).entries ++ ['\x7d'])

def canonicalItems : List Json → List Char
  | [] => []
  | [item] => canonicalChars item
  | item :: rest => canonicalChars item ++ ',' :: canonicalItems rest

def canonicalMembers : List (String × Json) → List (String × List Char)
  | [] => []
  | (key, value) :: rest =>
    (String.ofList (Escape.quote key), canonicalChars value) :: canonicalMembers rest
end

def canonical (value : Json) : String := String.ofList value.canonicalChars

end RuleStack.Json
