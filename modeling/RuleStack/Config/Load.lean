import RuleStack.Config.Basic
import RuleStack.Toml.Parser
set_option autoImplicit false

namespace RuleStack

namespace RevisionMode

def ofText (label : String) : Except Mismatch RevisionMode :=
  match ofLabel? label with
  | some mode => .ok mode
  | none => .error (.unknownVariant label (all.map RevisionMode.label))

/-- A label, or a label as the only key of an object that holds null. -/
def ofJson : Json → Except Mismatch RevisionMode
  | .str label => ofText label
  | .obj [(label, value)] => do
    let mode ← ofText label
    if value = .null then .ok mode else .error (.wrongType value "unit")
  | .obj members => .error (.wrongValue (.obj members) "map with a single key")
  | value => .error (.wrongType value "string or map")

/-- A label, or a label as the only key of a table that holds an empty table or array. -/
def ofToml? : Toml → Option RevisionMode
  | .text label => ofLabel? label
  | .table _ [(label, .table _ [])] => ofLabel? label
  | .table _ [(label, .array [])] => ofLabel? label
  | _ => none

end RevisionMode

namespace Toml

def text? : Toml → Option String
  | .text value => some value
  | _ => none

def texts? : Toml → Option (List String)
  | .array items => items.mapM text?
  | .tables items => items.mapM text?
  | _ => none

end Toml

namespace Config

structure Entry where
  name : String
  ofJson : Json → Config → Except Mismatch Config
  ofToml? : Toml → Config → Option Config

namespace Entry

def text (name : String) (set : String → Config → Config) : Entry where
  name := name
  ofJson value c := (Json.readText value).map (set · c)
  ofToml? value c := value.text?.map (set · c)

def texts (name : String) (set : List String → Config → Config) : Entry where
  name := name
  ofJson value c := (Json.readList Json.readText value).map (set · c)
  ofToml? value c := value.texts?.map (set · c)

def optionalText (name : String) (set : Option String → Config → Config) : Entry where
  name := name
  ofJson value c := (Json.readOption Json.readText value).map (set · c)
  ofToml? value c := value.text?.map (fun text => set (some text) c)

def mode (name : String) (set : RevisionMode → Config → Config) : Entry where
  name := name
  ofJson value c := (RevisionMode.ofJson value).map (set · c)
  ofToml? value c := (RevisionMode.ofToml? value).map (set · c)

end Entry

structure Section where
  name : String
  title : String
  entries : List Entry

def sections : List Section := [
  ⟨"template", "TemplateConfig", [
    .text "description" (fun v c => { c with description := v }),
    .text "format_version" (fun v c => { c with formatVersion := v })]⟩,
  ⟨"namespace", "NamespaceConfig", [.texts "packages" (fun v c => { c with packages := v })]⟩,
  ⟨"rules", "RulesConfig", [.texts "paths" (fun v c => { c with rulePaths := v })]⟩,
  ⟨"build", "BuildConfig", [.text "runtime" (fun v c => { c with runtime := v })]⟩,
  ⟨"deployment", "DeploymentConfig", [
    .mode "revision" (fun v c => { c with mode := v }),
    .optionalText "token" (fun v c => { c with token := v })]⟩,
  ⟨"output", "OutputConfig", [.optionalText "path" (fun v c => { c with outputPath := v })]⟩]

namespace Section

def record (s : Section) (c : Config) : Record Config :=
  ⟨s.title, c, s.entries.map (fun e => ⟨e.name, false, e.ofJson⟩), .refused⟩

def ofEntry? (s : Section) (c : Config) (entry : String × Toml) : Option Config := do
  let e ← s.entries.find? (·.name == entry.1)
  e.ofToml? entry.2 c

/-- Values for the first entries, in their order; values beyond the last entry do not count. -/
def ofItems? (c : Config) : List Entry → List Toml → Option Config
  | [], _ | _ :: _, [] => some c
  | e :: entries, value :: rest => do
    let c ← e.ofToml? value c
    ofItems? c entries rest

def ofToml? (s : Section) (value : Toml) (c : Config) : Option Config :=
  match value with
  | .table _ entries => entries.foldlM s.ofEntry? c
  | .array items => ofItems? c s.entries items
  | .tables items => ofItems? c s.entries items
  | _ => none

end Section

def record : Record Config where
  name := "RulecfnConfig"
  start := standard
  fields := sections.map (fun s => ⟨s.name, false, fun value c => (s.record c).read value⟩)
  unlisted := .refused

def ofJson (value : Json) : Except Mismatch Config := record.read value

def ofSection? (c : Config) (entry : String × Toml) : Option Config := do
  let s ← sections.find? (·.name == entry.1)
  s.ofToml? entry.2 c

def ofToml? (entries : Toml.Entries) : Option Config := entries.foldlM ofSection? standard

def optionJson (value : Option String) : Json :=
  match value with
  | some value => .str value
  | none => .null

def toJson (c : Config) : Json :=
  .obj [
    ("template", .obj [
      ("description", .str c.description), ("format_version", .str c.formatVersion)]),
    ("namespace", .obj [("packages", .strings c.packages)]),
    ("rules", .obj [("paths", .strings c.rulePaths)]),
    ("build", .obj [("runtime", .str c.runtime)]),
    ("deployment", .obj [
      ("revision", .str c.mode.label), ("token", optionJson c.token)]),
    ("output", .obj [("path", optionJson c.outputPath)])]

end Config

inductive ConfigError where
  | unreadable (cause : FileError)
  /-- The text is no TOML, or it is none of settings. -/
  | unparsable
  | invalid (fault : ConfigFault)
  deriving DecidableEq, Repr

/-- What a reader of settings says of a text that it cannot read is not modelled. -/
def ConfigError.message : ConfigError → String
  | .unreadable cause => "config io error: " ++ cause.message
  | .unparsable => "config parse error"
  | .invalid fault => "invalid config: " ++ fault.message

namespace Config

def defaultName : String := "rulecfn.toml"

def environmentVariable : String := "RULECFN_CONFIG"

def maxFileBytes : Nat := 1048576

def choosePath (given environment : Option String) : Except ConfigError String :=
  match given, environment with
  | some path, _ => .ok path
  | none, some path =>
    if maxPathLength < path.utf8ByteSize then .error (.invalid (.tooLong "config path"))
    else .ok path
  | none, none => .ok defaultName

def checkFilePath (path : String) : Except ConfigFault Unit :=
  if maxPathLength < path.utf8ByteSize then .error (.tooLong "config path")
  else if componentsFit path then .ok ()
  else .error (.componentTooLong "config")

def ofBytes (path : String) (bytes : ByteArray) : Except ConfigError Config :=
  if maxFileBytes < bytes.size then .error (.invalid .fileTooLarge)
  else
    match String.fromUTF8? bytes with
    | none => .error (.invalid .notText)
    | some text =>
      match (Toml.parse? text).bind ofToml? with
      | none => .error .unparsable
      | some c => .ok { c with sourceDir := Path.parent? path }

def loadFrom (fs : FileSystem) (path : String) : Except ConfigError Config := do
  (checkFilePath path).mapError .invalid
  let bytes ← (fs.read path).mapError .unreadable
  let c ← ofBytes path bytes
  c.validate.mapError .invalid
  .ok c

def load (fs : FileSystem) (given environment : Option String) : Except ConfigError Config := do
  let path ← choosePath given environment
  loadFrom fs path

/-- Loads settings, or takes the standard ones where no path is given and there is no file of the
default name. -/
def loadOrStandard (fs : FileSystem) (given environment : Option String) :
    Except ConfigError Config := do
  let path ← choosePath given environment
  if given.isNone && environment.isNone && !fs.doesExist path then .ok standard
  else loadFrom fs path

end Config
end RuleStack
