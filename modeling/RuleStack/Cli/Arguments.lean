set_option autoImplicit false

namespace RuleStack

structure CompileInputs where
  config : Option String
  /-- Rule files; if there are any, they stand in for those of the settings. -/
  rules : List String
  base : Option String
  revisionToken : Option String
  deriving DecidableEq, Repr

inductive Command where
  | compile (inputs : CompileInputs) (out : Option String)
  | check (inputs : CompileInputs) (template : String)
  | handlers (template : String)
  | fragment (config : Option String) (rule kind : String)
  | validateConfig (config : Option String)
  | exampleConfig
  deriving DecidableEq, Repr

inductive Stop where
  | usage
  | help
  | version
  deriving DecidableEq, Repr

structure OptionKind where
  name : String
  /-- Takes one or more words, and may be repeated. -/
  repeats : Bool
  /-- The empty text is no value for it. -/
  isPath : Bool
  deriving DecidableEq, Repr

namespace OptionKind

def path (name : String) : OptionKind := ⟨name, false, true⟩
def paths (name : String) : OptionKind := ⟨name, true, true⟩
def text (name : String) : OptionKind := ⟨name, false, false⟩

end OptionKind

namespace Arguments

def isWord (arg : String) : Bool := arg.toList.head? != some '-' || arg == "-"

structure Reading where
  verbose : Bool
  given : List (String × String)
  /-- The option that a word would belong to now. -/
  awaiting : Option OptionKind
  /-- That option has no value yet. -/
  lacking : Bool
  deriving DecidableEq, Repr

namespace Reading

def start : Reading := ⟨false, [], none, false⟩

def setVerbose (r : Reading) : Except Stop Reading :=
  if r.verbose then .error .usage else .ok { r with verbose := true, awaiting := none }

def give (r : Reading) (kind : OptionKind) (value : String) : Except Stop Reading :=
  if kind.isPath && value.isEmpty then .error .usage
  else .ok { r with
    given := r.given ++ [(kind.name, value)]
    awaiting := if kind.repeats then some kind else none
    lacking := false }

/-- Starts an option, which may be given once unless it repeats. -/
def begin (r : Reading) (kind : OptionKind) : Except Stop Reading :=
  if !kind.repeats && r.given.any (·.1 == kind.name) then .error .usage
  else .ok { r with awaiting := some kind, lacking := true }

def readLong (r : Reading) (kinds : List OptionKind) (body : List Char) : Except Stop Reading := do
  let name := String.ofList (body.takeWhile (· != '='))
  match kinds.find? (·.name == name), body.dropWhile (· != '=') with
  | some kind, [] => r.begin kind
  | some kind, _ :: value => do
    let r ← r.begin kind
    let r ← r.give kind (String.ofList value)
    .ok { r with awaiting := none }
  | none, _ :: _ => .error .usage
  | none, [] =>
    if name == "verbose" then r.setVerbose
    else if name == "help" then .error .help
    else .error .usage

def readShort (r : Reading) : List Char → Except Stop Reading
  | [] => .ok r
  | 'v' :: rest => do
    let r ← r.setVerbose
    r.readShort rest
  | 'h' :: _ => .error .help
  | _ => .error .usage

def readArgument (r : Reading) (kinds : List OptionKind) (arg : String) : Except Stop Reading :=
  if isWord arg then
    match r.awaiting with
    | some kind => r.give kind arg
    | none => .error .usage
  else if r.lacking then .error .usage
  else
    match arg.toList with
    | '-' :: '-' :: body => r.readLong kinds body
    | _ :: body => r.readShort body
    | [] => .error .usage

def close (r : Reading) : Except Stop Reading := if r.lacking then .error .usage else .ok r

def readAll (r : Reading) (kinds : List OptionKind) : List String → Except Stop Reading
  | [] => r.close
  | ["--"] => r.close
  | arg :: rest => do
    let r ← r.readArgument kinds arg
    r.readAll kinds rest

def value? (r : Reading) (name : String) : Option String := r.given.lookup name

def values (r : Reading) (name : String) : List String :=
  (r.given.filter (·.1 == name)).map (·.2)

def need (r : Reading) (name : String) : Except Stop String :=
  match r.value? name with
  | some value => .ok value
  | none => .error .usage

def inputs (r : Reading) : CompileInputs :=
  ⟨r.value? "config", r.values "rules", r.value? "base", r.value? "revision-token"⟩

end Reading

def inputKinds : List OptionKind :=
  [.path "config", .paths "rules", .path "base", .text "revision-token"]

/-- Reads letters after one dash before a command; the flag tells whether `-v` was given. -/
def readLetters (top verbose : Bool) : List Char → Except Stop Bool
  | [] => .ok verbose
  | 'v' :: rest => if verbose then .error .usage else readLetters top true rest
  | 'h' :: _ => .error .help
  | 'V' :: _ => .error (if top then .version else .usage)
  | _ => .error .usage

def readFlag (top verbose : Bool) (arg : String) : Except Stop Bool :=
  if arg == "--verbose" then if verbose then .error .usage else .ok true
  else if arg == "--help" then .error .help
  else if top && arg == "--version" then .error .version
  else
    match arg.toList with
    | '-' :: '-' :: _ => .error .usage
    | _ :: letters => readLetters top verbose letters
    | [] => .error .usage

def readName (top verbose : Bool) : List String → Except Stop (String × List String)
  | [] => .error .usage
  | arg :: rest =>
    if isWord arg then .ok (arg, rest)
    else do
      let verbose ← readFlag top verbose arg
      readName top verbose rest

def readConfigCommand (args : List String) : Except Stop Command := do
  let (name, rest) ← readName false false args
  if name == "validate" then
    let r ← Reading.start.readAll [.path "config"] rest
    .ok (.validateConfig (r.value? "config"))
  else if name == "example" then
    let _ ← Reading.start.readAll [] rest
    .ok .exampleConfig
  else .error .usage

def read (args : List String) : Except Stop Command := do
  let (name, rest) ← readName true false args
  if name == "compile" then
    let r ← Reading.start.readAll (inputKinds ++ [.path "out"]) rest
    .ok (.compile r.inputs (r.value? "out"))
  else if name == "check" then
    let r ← Reading.start.readAll (inputKinds ++ [.path "template"]) rest
    .ok (.check r.inputs (← r.need "template"))
  else if name == "handlers" then
    let r ← Reading.start.readAll [.path "template"] rest
    .ok (.handlers (← r.need "template"))
  else if name == "fragment" then
    let r ← Reading.start.readAll [.path "config", .path "rule", .text "kind"] rest
    .ok (.fragment (r.value? "config") (← r.need "rule") (← r.need "kind"))
  else if name == "config" then readConfigCommand rest
  else .error .usage

end Arguments
end RuleStack
