import RuleStack.Toml.Scalar
/-!
TOML, version 1.1. Every step takes at least one character, or leads to one that does, so twice the
length of the text is more steps than reading needs.
-/
set_option autoImplicit false

namespace RuleStack.Toml

def isBareKeyChar (c : Char) : Bool := c.isAlphanum || c == '_' || c == '-'

def skipSpaces (cs : List Char) : List Char := cs.dropWhile isSpace

def skipComment : List Char → List Char
  | '#' :: rest => rest.dropWhile isPlain
  | cs => cs

def readLineEnd? (cs : List Char) : Option (List Char) :=
  match skipComment (skipSpaces cs) with
  | [] => some []
  | rest => readBreak? rest

def skipBlank (cs : List Char) : List Char :=
  match cs with
  | ' ' :: rest => skipBlank rest
  | '\t' :: rest => skipBlank rest
  | '\n' :: rest => skipBlank rest
  | '\r' :: '\n' :: rest => skipBlank rest
  | '#' :: rest =>
    have := (List.dropWhile_suffix (l := rest) isPlain).length_le
    skipBlank (rest.dropWhile isPlain)
  | cs => cs
termination_by cs.length
decreasing_by all_goals simp only [List.length_cons]; omega

def readKey? : List Char → Option (String × List Char)
  | '"' :: rest => readBasic? [] rest
  | '\'' :: rest => readLiteral? [] rest
  | cs =>
    match cs.takeWhile isBareKeyChar with
    | [] => none
    | name => some (String.ofList name, cs.dropWhile isBareKeyChar)

/-- Reads a key of at most `parts` parts with points between them, after the parts in `lead`. -/
def readParts? (parts : Nat) (lead : List String) (cs : List Char) :
    Option (KeyPath × List Char) :=
  match parts with
  | 0 => none
  | parts + 1 => do
    let (key, rest) ← readKey? cs
    match skipSpaces rest with
    | '.' :: after => readParts? parts (lead ++ [key]) (skipSpaces after)
    | _ => some (⟨lead, key⟩, skipSpaces rest)

/-- The parts that a key may have, and the levels that values may nest. -/
def maxDepth : Nat := 80

def readPath? (cs : List Char) : Option (KeyPath × List Char) := readParts? maxDepth [] cs

mutual
/-- Reads a value, in which arrays and tables nest at most `depth` levels. -/
def readValue? (steps depth : Nat) (cs : List Char) : Option (Toml × List Char) :=
  match steps with
  | 0 => none
  | steps + 1 =>
    match depth, cs with
    | 0, '[' :: _ => none
    | 0, '\x7b' :: _ => none
    | depth + 1, '[' :: rest => readItems? steps depth [] (skipBlank rest)
    | depth + 1, '\x7b' :: rest => readMembers? steps depth [] (skipBlank rest)
    | _, '"' :: _ => (readText? cs).map (fun p => (.text p.1, p.2))
    | _, '\'' :: _ => (readText? cs).map (fun p => (.text p.1, p.2))
    | _, _ => readWord? cs

/-- Reads the items of an array to its end; those read before are given, the last one first. -/
def readItems? (steps depth : Nat) (read : List Toml) (cs : List Char) :
    Option (Toml × List Char) :=
  match steps with
  | 0 => none
  | steps + 1 =>
    match cs with
    | ']' :: rest => some (.array read.reverse, rest)
    | cs => do
      let (value, rest) ← readValue? steps depth cs
      match skipBlank rest with
      | ',' :: rest => readItems? steps depth (value :: read) (skipBlank rest)
      | ']' :: rest => some (.array (value :: read).reverse, rest)
      | _ => none

def readMembers? (steps depth : Nat) (read : Entries) (cs : List Char) :
    Option (Toml × List Char) :=
  match steps with
  | 0 => none
  | steps + 1 =>
    match cs with
    | '\x7d' :: rest => some (.table .inline read, rest)
    | cs => do
      let (path, rest) ← readPath? cs
      match skipBlank rest with
      | '=' :: rest =>
        let (value, rest) ← readValue? steps depth (skipBlank rest)
        let read ← assign read path value
        match skipBlank rest with
        | ',' :: rest => readMembers? steps depth read (skipBlank rest)
        | '\x7d' :: rest => some (.table .inline read, rest)
        | _ => none
      | _ => none
end

def readEntry? (steps : Nat) (cs : List Char) : Option (Line × List Char) := do
  let (path, rest) ← readPath? cs
  match rest with
  | '=' :: rest =>
    let (value, rest) ← readValue? steps maxDepth (skipSpaces rest)
    some (.entry path value, rest)
  | _ => none

def readLine? (steps : Nat) : List Char → Option (Line × List Char)
  | '[' :: '[' :: rest => do
    let (path, rest) ← readPath? (skipSpaces rest)
    match rest with
    | ']' :: ']' :: rest => some (.header (.element path), rest)
    | _ => none
  | '[' :: rest => do
    let (path, rest) ← readPath? (skipSpaces rest)
    match rest with
    | ']' :: rest => some (.header (.table path), rest)
    | _ => none
  | cs => readEntry? steps cs

def readLines? (steps : Nat) (read : List Line) (cs : List Char) : Option (List Line) :=
  match steps with
  | 0 => none
  | steps + 1 =>
    match skipBlank cs with
    | [] => some read.reverse
    | cs => do
      let (line, rest) ← readLine? steps cs
      let rest ← readLineEnd? rest
      readLines? steps (line :: read) rest

def skipMark : List Char → List Char
  | '\ufeff' :: rest => rest
  | cs => cs

def parse? (text : String) : Option Entries := do
  let cs := skipMark text.toList
  let lines ← readLines? (2 * cs.length + 2) [] cs
  build [] lines

end RuleStack.Toml
