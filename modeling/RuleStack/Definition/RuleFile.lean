import RuleStack.Files
import RuleStack.Key
import RuleStack.Rule
set_option autoImplicit false

namespace RuleStack

structure Definition where
  modulePath : String
  rule : Rule
  deriving DecidableEq

namespace Definition

/-- The rule as it is compiled: its name carries the package of the module, and the module is the
source of its code. -/
def prepared (d : Definition) (namer : Namer) : Rule :=
  { d.rule with
    name := d.rule.name.map (namer.namespaced · d.modulePath)
    sourcePath := some d.modulePath }

end Definition

inductive DefinitionError where
  | unreadable (modulePath : String) (cause : ReadError)
  | invalid (modulePath : String) (cause : RuleError)
  deriving DecidableEq

def DefinitionError.message : DefinitionError → String
  | .unreadable modulePath cause =>
    "rule source io error: " ++ modulePath ++ ": " ++ cause.message
  | .invalid modulePath cause =>
    "rule definition " ++ modulePath ++ " is invalid: " ++ cause.message

structure RuleFile where
  /-- The path as its author wrote it. -/
  modulePath : String
  path : String
  deriving DecidableEq, Repr

namespace RuleFile

def maxBytes : Nat := 1048576

def asGiven (path : String) : RuleFile := ⟨path, path⟩

def rulesOfBytes (bytes : ByteArray) : Except RuleError (List Rule) :=
  match Json.parseBytes bytes with
  | .error e => .error (.malformed (.unreadable e))
  | .ok value => Rule.listOfJson value

def definitions (f : RuleFile) :
    Except ReadError ByteArray → Except DefinitionError (List Definition)
  | .error e => .error (.unreadable f.modulePath e)
  | .ok bytes =>
    match rulesOfBytes bytes with
    | .error e => .error (.invalid f.modulePath e)
    | .ok rules => .ok (rules.map (⟨f.modulePath, ·⟩))

def read (f : RuleFile) (fs : FileSystem) : Except DefinitionError (List Definition) :=
  f.definitions (fs.readBounded f.path maxBytes)

def readAll (fs : FileSystem) : List RuleFile → Except DefinitionError (List Definition)
  | [] => .ok []
  | f :: rest =>
    match f.read fs with
    | .error e => .error e
    | .ok found => (readAll fs rest).map (found ++ ·)

end RuleFile
end RuleStack
