import RuleStack.Json.Basic
import RuleStack.Text.Quoted
/-!
Typed values read from JSON. A record reads an object member by member, in the order in which the
members stand, and then asks for the required fields. One that keeps no unlisted members also reads
a list of its fields.
-/
set_option autoImplicit false

namespace RuleStack

inductive Mismatch where
  | wrongType (found : Json) (expected : String)
  | wrongValue (found : Json) (expected : String)
  | wrongLength (length : Nat) (expected : String)
  | missing (field : String)
  | unknownField (field : String) (known : List String)
  | unknownVariant (variant : String) (known : List String)
  deriving DecidableEq

namespace Mismatch

def ticked (s : String) : String := "`" ++ s ++ "`"

def foundText : Json → String
  | .null => "null"
  | .bool value => "boolean " ++ ticked (if value then "true" else "false")
  | .num (.integer value _) => "integer " ++ ticked (String.ofList (intText value))
  | .num (.float value) => "floating point " ++ ticked (String.ofList (Layout.plain.floatText value))
  | .str value => "string " ++ Text.quoted value
  | .arr _ => "sequence"
  | .obj _ => "map"

def choiceText : List String → String
  | [a] => ticked a
  | [a, b] => ticked a ++ " or " ++ ticked b
  | names => "one of " ++ ", ".intercalate (names.map ticked)

def message : Mismatch → String
  | .wrongType found expected => "invalid type: " ++ foundText found ++ ", expected " ++ expected
  | .wrongValue found expected => "invalid value: " ++ foundText found ++ ", expected " ++ expected
  | .wrongLength length expected =>
    "invalid length " ++ String.ofList (natText length) ++ ", expected " ++ expected
  | .missing field => "missing field " ++ ticked field
  | .unknownField field known =>
    "unknown field " ++ ticked field ++ ", expected " ++ choiceText known
  | .unknownVariant variant known =>
    "unknown variant " ++ ticked variant ++ ", expected " ++ choiceText known

end Mismatch

namespace Json

def readText : Json → Except Mismatch String
  | .str value => .ok value
  | value => .error (.wrongType value "a string")

def readBool : Json → Except Mismatch Bool
  | .bool value => .ok value
  | value => .error (.wrongType value "a boolean")

def readNumber : Json → Except Mismatch Number
  | .num value => .ok value
  | value => .error (.wrongType value "a JSON number")

variable {α : Type}

/-- Null is read as none. -/
def readOption (read : Json → Except Mismatch α) : Json → Except Mismatch (Option α)
  | .null => .ok none
  | value => (read value).map some

def readList (read : Json → Except Mismatch α) : Json → Except Mismatch (List α)
  | .arr items => items.mapM read
  | value => .error (.wrongType value "a sequence")

def readMember (read : Json → Except Mismatch α) (m : String × Json) :
    Except Mismatch (String × α) :=
  (read m.2).map (m.1, ·)

def readMap (read : Json → Except Mismatch α) : Json → Except Mismatch (KeyMap α)
  | .obj members => (members.mapM (readMember read)).map KeyMap.ofList
  | value => .error (.wrongType value "a map")

def readPair (read : Json → Except Mismatch α) : Json → Except Mismatch (String × α)
  | .arr [] => .error (.wrongLength 0 "a tuple of size 2")
  | .arr [key] => do
    let _ ← readText key
    .error (.wrongLength 1 "a tuple of size 2")
  | .arr (key :: value :: rest) => do
    let key ← readText key
    let value ← read value
    if rest.isEmpty then .ok (key, value)
    else .error (.wrongLength (rest.length + 2) "fewer elements in array")
  | value => .error (.wrongType value "a tuple of size 2")

end Json

structure Field (σ : Type) where
  name : String
  required : Bool
  read : Json → σ → Except Mismatch σ

inductive Unlisted (σ : Type) where
  | ignored
  | refused
  | kept (keep : String → Json → σ → σ)

structure Record (σ : Type) where
  name : String
  start : σ
  fields : List (Field σ)
  unlisted : Unlisted σ

namespace Field

variable {σ α : Type}

def mandatory (name : String) (read : Json → Except Mismatch α) (set : α → σ → σ) : Field σ :=
  ⟨name, true, fun value s => (read value).map (set · s)⟩

/-- A field that may be left out; its start value then stays. -/
def optional (name : String) (read : Json → Except Mismatch α) (set : α → σ → σ) : Field σ :=
  ⟨name, false, fun value s => (read value).map (set · s)⟩

end Field

namespace Record

variable {σ : Type}

def structName (r : Record σ) : String := "struct " ++ r.name

def readMember (r : Record σ) (s : σ) (m : String × Json) : Except Mismatch σ :=
  match r.fields.find? (·.name == m.1) with
  | some field => field.read m.2 s
  | none =>
    match r.unlisted with
    | .ignored => .ok s
    | .refused => .error (.unknownField m.1 (r.fields.map (·.name)))
    | .kept keep => .ok (keep m.1 m.2 s)

def firstMissing? (r : Record σ) (members : List (String × Json)) : Option String :=
  (r.fields.find? (fun f => f.required && (members.lookup f.name).isNone)).map (·.name)

def readMembers (r : Record σ) (members : List (String × Json)) : Except Mismatch σ := do
  let s ← members.foldlM r.readMember r.start
  match r.firstMissing? members with
  | some field => .error (.missing field)
  | none => .ok s

/-- Reads the values for `fields`, of which `passed` stand before them. -/
def readInOrder (r : Record σ) (passed : Nat) (s : σ) :
    List (Field σ) → List Json → Except Mismatch σ
  | [], [] => .ok s
  | [], value :: rest =>
    .error (.wrongLength (passed + (value :: rest).length) "fewer elements in array")
  | field :: fields, [] =>
    if field.required then
      .error (.wrongLength passed
        (r.structName ++ " with " ++ String.ofList (natText r.fields.length) ++ " element" ++
          if r.fields.length = 1 then "" else "s"))
    else readInOrder r (passed + 1) s fields []
  | field :: fields, value :: rest => do
    let s ← field.read value s
    readInOrder r (passed + 1) s fields rest

def read (r : Record σ) : Json → Except Mismatch σ
  | .obj members => r.readMembers members
  | .arr items =>
    match r.unlisted with
    | .kept _ => .error (.wrongType (.arr items) r.structName)
    | _ => r.readInOrder 0 r.start r.fields items
  | value => .error (.wrongType value r.structName)

end Record
end RuleStack
