import RuleStack.Json.Printer
/-!
JSON text is read token by token, in one go. The reader keeps the containers that are open, the
innermost first, and what may come next.
-/
set_option autoImplicit false

namespace RuleStack.Json

inductive Token where
  | openArray
  | closeArray
  | openObject
  | closeObject
  | comma
  | colon
  | text (value : String)
  | scalar (value : Json)

def isSpace (c : Char) : Bool := c == ' ' || c == '\n' || c == '\r' || c == '\t'

def digitsValue (ds : List Char) : Nat := ds.foldl (fun n d => 10 * n + (d.toNat - '0'.toNat)) 0

def readDigits? (cs : List Char) : Option (List Char × List Char) :=
  match cs.takeWhile Char.isDigit with
  | [] => none
  | ds => some (ds, cs.dropWhile Char.isDigit)

/-- The whole part of a number: a zero alone, or digits that start with another one. -/
def readWhole? : List Char → Option (List Char × List Char)
  | '0' :: rest => some (['0'], rest)
  | cs => readDigits? cs

def readFraction? : List Char → Option (Option (List Char) × List Char)
  | '.' :: rest => (readDigits? rest).map (fun p => (some p.1, p.2))
  | cs => some (none, cs)

def readSign : List Char → Bool × List Char
  | '-' :: rest => (true, rest)
  | '+' :: rest => (false, rest)
  | cs => (false, cs)

def signed (negative : Bool) (n : Nat) : Int := if negative then -n else n

def readExponent? : List Char → Option (Option Int × List Char)
  | c :: rest =>
    if c = 'e' ∨ c = 'E' then
      (readDigits? (readSign rest).2).map fun p =>
        (some (signed (readSign rest).1 (digitsValue p.1)), p.2)
    else some (none, c :: rest)
  | [] => some (none, [])

/-- A literal without a fraction and an exponent is a whole number where it fits a machine word;
`-0` and everything else is a double. -/
def number? (negative : Bool) (whole : List Char) (fraction : Option (List Char))
    (exponent : Option Int) : Option Number :=
  let digits := digitsValue (whole ++ fraction.getD [])
  let double :=
    (Binary64.ofDecimal? negative ⟨digits, exponent.getD 0 - (fraction.getD []).length⟩).map
      Number.float
  if fraction.isNone && exponent.isNone && !(negative && digits == 0) then
    (Number.ofInt? (signed negative digits)).or double
  else double

def readUnsigned? (negative : Bool) (cs : List Char) : Option (Number × List Char) := do
  let (whole, rest) ← readWhole? cs
  let (fraction, rest) ← readFraction? rest
  let (exponent, rest) ← readExponent? rest
  let n ← number? negative whole fraction exponent
  some (n, rest)

def readNumber? : List Char → Option (Number × List Char)
  | '-' :: rest => readUnsigned? true rest
  | cs => readUnsigned? false cs

def readToken? : List Char → Option (Token × List Char)
  | '[' :: rest => some (.openArray, rest)
  | ']' :: rest => some (.closeArray, rest)
  | '\x7b' :: rest => some (.openObject, rest)
  | '\x7d' :: rest => some (.closeObject, rest)
  | ',' :: rest => some (.comma, rest)
  | ':' :: rest => some (.colon, rest)
  | '"' :: rest => (Escape.decode [] rest).map (fun p => (.text (String.ofList p.1), p.2))
  | 'n' :: 'u' :: 'l' :: 'l' :: rest => some (.scalar .null, rest)
  | 't' :: 'r' :: 'u' :: 'e' :: rest => some (.scalar (.bool true), rest)
  | 'f' :: 'a' :: 'l' :: 's' :: 'e' :: rest => some (.scalar (.bool false), rest)
  | cs => (readNumber? cs).map (fun p => (.scalar (.num p.1), p.2))

theorem length_of_readDigits? {cs ds rest : List Char} (h : readDigits? cs = some (ds, rest)) :
    rest.length < cs.length := by
  unfold readDigits? at h
  split at h
  · simp at h
  · rename_i hne
    simp only [Option.some.injEq, Prod.mk.injEq] at h
    obtain ⟨_, rfl⟩ := h
    have hs := congrArg List.length (List.takeWhile_append_dropWhile (p := Char.isDigit) (l := cs))
    have hp : 0 < (cs.takeWhile Char.isDigit).length := List.length_pos_iff.2 hne
    rw [List.length_append] at hs
    omega

theorem length_of_readWhole? {cs ds rest : List Char} (h : readWhole? cs = some (ds, rest)) :
    rest.length < cs.length := by
  unfold readWhole? at h
  split at h
  · simp only [Option.some.injEq, Prod.mk.injEq] at h
    obtain ⟨_, rfl⟩ := h
    simp
  · exact length_of_readDigits? h

theorem length_of_readFraction? {cs rest : List Char} {f : Option (List Char)}
    (h : readFraction? cs = some (f, rest)) : rest.length ≤ cs.length := by
  unfold readFraction? at h
  split at h
  · obtain ⟨⟨ds, r⟩, hd, he⟩ := Option.map_eq_some_iff.1 h
    simp only [Prod.mk.injEq] at he
    obtain ⟨_, rfl⟩ := he
    have := length_of_readDigits? hd
    simp only [List.length_cons]
    omega
  · simp only [Option.some.injEq, Prod.mk.injEq] at h
    obtain ⟨_, rfl⟩ := h
    exact Nat.le_refl _

theorem length_readSign_le (cs : List Char) : (readSign cs).2.length ≤ cs.length := by
  unfold readSign
  split <;> simp

theorem length_of_readExponent? {cs rest : List Char} {e : Option Int}
    (h : readExponent? cs = some (e, rest)) : rest.length ≤ cs.length := by
  unfold readExponent? at h
  split at h
  · split at h
    · obtain ⟨⟨ds, r⟩, hd, he⟩ := Option.map_eq_some_iff.1 h
      simp only [Prod.mk.injEq] at he
      obtain ⟨_, rfl⟩ := he
      have h1 := length_of_readDigits? hd
      rename_i tail _ _
      have h2 := length_readSign_le tail
      simp only [List.length_cons]
      omega
    · simp only [Option.some.injEq, Prod.mk.injEq] at h
      obtain ⟨_, rfl⟩ := h
      exact Nat.le_refl _
  · simp only [Option.some.injEq, Prod.mk.injEq] at h
    obtain ⟨_, rfl⟩ := h
    exact Nat.le_refl _

theorem length_of_readUnsigned? {negative : Bool} {cs rest : List Char} {n : Number}
    (h : readUnsigned? negative cs = some (n, rest)) : rest.length < cs.length := by
  simp only [readUnsigned?, Option.bind_eq_bind, Option.bind_eq_some_iff, Option.some.injEq,
    Prod.mk.injEq] at h
  obtain ⟨⟨_, r₁⟩, h₁, ⟨_, r₂⟩, h₂, ⟨_, r₃⟩, h₃, _, _, _, rfl⟩ := h
  have h₁ := length_of_readWhole? h₁
  have h₂ := length_of_readFraction? h₂
  have h₃ := length_of_readExponent? h₃
  dsimp only at h₁ h₂ h₃ ⊢
  omega

theorem length_of_readNumber? {cs rest : List Char} {n : Number}
    (h : readNumber? cs = some (n, rest)) : rest.length < cs.length := by
  unfold readNumber? at h
  split at h
  · have := length_of_readUnsigned? h
    simp only [List.length_cons]
    omega
  · exact length_of_readUnsigned? h

theorem length_of_readToken? {cs rest : List Char} {t : Token}
    (h : readToken? cs = some (t, rest)) : rest.length < cs.length := by
  revert h
  fun_cases readToken? cs <;> intro h <;>
    simp only [Option.map_eq_some_iff, Option.some.injEq, Prod.mk.injEq] at h
  case case7 =>
    obtain ⟨⟨_, _⟩, hd, _, rfl⟩ := h
    have := Escape.length_of_decode hd
    simp only [List.length_cons]
    omega
  case case11 =>
    obtain ⟨⟨_, _⟩, hn, _, rfl⟩ := h
    exact length_of_readNumber? hn
  all_goals
    obtain ⟨_, rfl⟩ := h
    simp only [List.length_cons]
    omega

/-- An open container with what it holds so far, the last item first. -/
inductive Frame where
  | array (items : List Json)
  | object (members : List (String × Json))
  | member (key : String) (members : List (String × Json))

inductive Focus where
  | value
  | firstItem
  | key
  | firstKey
  | colon (key : String)
  | next
  | done (value : Json)

structure Reader where
  focus : Focus
  frames : List Frame

inductive ParseFault where
  | malformed
  | tooDeep
  deriving DecidableEq, Repr

/-- One text stands for all malformed values: what the reader expected there is not modelled. -/
def ParseFault.text : ParseFault → String
  | .malformed => "malformed value"
  | .tooDeep => "recursion limit exceeded"

def maxDepth : Nat := 127

namespace Reader

def start : Reader := ⟨.value, []⟩

def accept (frames : List Frame) (value : Json) : Except ParseFault Reader :=
  match frames with
  | [] => .ok ⟨.done value, []⟩
  | .array items :: rest => .ok ⟨.next, .array (value :: items) :: rest⟩
  | .member key members :: rest => .ok ⟨.next, .object ((key, value) :: members) :: rest⟩
  | .object _ :: _ => .error .malformed

def enter (frames : List Frame) (frame : Frame) (focus : Focus) : Except ParseFault Reader :=
  if frames.length < maxDepth then .ok ⟨focus, frame :: frames⟩ else .error .tooDeep

def leave : List Frame → Except ParseFault Reader
  | .array items :: rest => accept rest (.arr items.reverse)
  | .object members :: rest => accept rest (object members.reverse)
  | _ => .error .malformed

def readValue (frames : List Frame) : Token → Except ParseFault Reader
  | .scalar value => accept frames value
  | .text value => accept frames (.str value)
  | .openArray => enter frames (.array []) .firstItem
  | .openObject => enter frames (.object []) .firstKey
  | _ => .error .malformed

def step (r : Reader) (token : Token) : Except ParseFault Reader :=
  match r.focus, token with
  | .value, token => readValue r.frames token
  | .firstItem, .closeArray => leave r.frames
  | .firstItem, token => readValue r.frames token
  | .key, .text key => .ok ⟨.colon key, r.frames⟩
  | .firstKey, .text key => .ok ⟨.colon key, r.frames⟩
  | .firstKey, .closeObject => leave r.frames
  | .colon key, .colon =>
    match r.frames with
    | .object members :: rest => .ok ⟨.value, .member key members :: rest⟩
    | _ => .error .malformed
  | .next, .comma =>
    match r.frames with
    | .array _ :: _ => .ok ⟨.value, r.frames⟩
    | .object _ :: _ => .ok ⟨.key, r.frames⟩
    | _ => .error .malformed
  | .next, .closeArray =>
    match r.frames with
    | .array _ :: _ => leave r.frames
    | _ => .error .malformed
  | .next, .closeObject =>
    match r.frames with
    | .object _ :: _ => leave r.frames
    | _ => .error .malformed
  | _, _ => .error .malformed

/-- Reads to the end of the text. A fault comes with the text from the token on that it is at. -/
def run (r : Reader) (cs : List Char) : Except (ParseFault × List Char) Json :=
  match cs with
  | [] =>
    match r.focus with
    | .done value => .ok value
    | _ => .error (.malformed, [])
  | c :: rest =>
    if isSpace c then run r rest
    else
      match h : readToken? (c :: rest) with
      | none => .error (.malformed, c :: rest)
      | some (token, after) =>
        have := length_of_readToken? h
        match r.step token with
        | .error fault => .error (fault, c :: rest)
        | .ok r => run r after
termination_by cs.length
decreasing_by
  · exact Nat.lt_succ_self _
  · exact this

end Reader

/-- A fault with the place of the token it is at; columns count bytes from one. -/
structure ParseError where
  fault : ParseFault
  line : Nat
  column : Nat
  deriving DecidableEq, Repr

def ParseError.message (e : ParseError) : String :=
  e.fault.text ++ " at line " ++ String.ofList (Nat.toDigits 10 e.line) ++
    " column " ++ String.ofList (Nat.toDigits 10 e.column)

def locate (fault : ParseFault) (before : List Char) : ParseError :=
  let lastLine := (before.reverse.takeWhile (· != '\n')).reverse
  ⟨fault, before.count '\n' + 1, (String.ofList lastLine).utf8ByteSize + 1⟩

def parseChars (cs : List Char) : Except ParseError Json :=
  match Reader.start.run cs with
  | .ok value => .ok value
  | .error (fault, rest) => .error (locate fault (cs.take (cs.length - rest.length)))

def parse (text : String) : Except ParseError Json := parseChars text.toList

def parseBytes (bytes : ByteArray) : Except ParseError Json :=
  match String.fromUTF8? bytes with
  | some text => parse text
  | none => .error ⟨.malformed, 1, 1⟩

/-- Fails for values that nest deeper than a reader follows. -/
def render (value : Json) : Except ParseError String :=
  (parse value.canonical).map (fun read => read.pretty ++ "\n")

end RuleStack.Json
