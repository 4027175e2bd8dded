import RuleStack.Cli.Arguments
import RuleStack.Config.Load
import RuleStack.Handler
/-!
A run of a command leaves an exit code, what it printed, and the file system as it is afterwards.
Only `compile` writes: one file, in directories that it makes if they are missing.
-/
set_option autoImplicit false

namespace RuleStack

inductive CommandError where
  | config (cause : ConfigError)
  | unreadableTemplate (path : String) (cause : ReadError)
  | unparsableTemplate (path : String) (cause : Json.ParseError)
  | invalidTemplate (path : String) (cause : Mismatch)
  | compile (cause : CompilerError)
  | outOfDate (path : String)
  | unknownKind (cause : RuleError)
  | definition (cause : DefinitionError)
  | notSingle (count : Nat)
  | fragment (label : String) (cause : RuleError)
  | tooDeep (cause : Json.ParseError)
  | noDirectory (path : String) (cause : FileError)
  | unwritten (path : String) (cause : FileError)
  deriving DecidableEq

def CommandError.message : CommandError → String
  | .config cause => "failed to load config: " ++ cause.message
  | .unreadableTemplate path cause =>
    "failed to read template " ++ path ++ ": " ++ cause.message
  | .unparsableTemplate path cause => "invalid template json " ++ path ++ ": " ++ cause.message
  | .invalidTemplate path cause => "invalid template " ++ path ++ ": " ++ cause.message
  | .compile cause => "compile failed: " ++ cause.message
  | .outOfDate path => "template " ++ path ++ " is out of date"
  | .unknownKind cause => cause.message
  | .definition cause => cause.message
  | .notSingle count =>
    "fragment requires exactly one rule definition, found " ++ String.ofList (natText count)
  | .fragment label cause => "fragment " ++ label ++ " failed: " ++ cause.message
  | .tooDeep cause => "failed to canonicalize json: " ++ cause.message
  | .noDirectory path cause => "failed to create " ++ path ++ ": " ++ cause.message
  | .unwritten path cause => "failed to write " ++ path ++ ": " ++ cause.message

structure Outcome where
  code : Nat
  printed : String
  complaint : String
  files : FileSystem

namespace Command

def maxTemplateBytes : Nat := 4194304

def readTemplateJson (fs : FileSystem) (path : String) : Except CommandError Json := do
  let bytes ← (fs.readBounded path maxTemplateBytes).mapError (.unreadableTemplate path)
  (Json.parseBytes bytes).mapError (.unparsableTemplate path)

def readTemplate (fs : FileSystem) (path : String) : Except CommandError Template := do
  let value ← readTemplateJson fs path
  (Template.ofJson value).mapError (.invalidTemplate path)

def readBase (fs : FileSystem) : Option String → Except CommandError Template
  | some path => readTemplate fs path
  | none => .ok .empty

def render (value : Json) : Except CommandError String := value.render.mapError .tooDeep

def loadConfig (fs : FileSystem) (given environment : Option String) :
    Except CommandError Config :=
  (Config.loadOrStandard fs given environment).mapError .config

/-- The rule files given with the command, or else those of the settings. -/
def ruleFiles (c : Config) (given : List String) : List RuleFile :=
  if given.isEmpty then c.ruleFiles else given.map RuleFile.asGiven

def compilerFor (c : Config) : Option String → Compiler
  | some token => { c.compiler with options := { c.options with revision := .token token } }
  | none => c.compiler

def compileTemplate (fs : FileSystem) (c : Config) (inputs : CompileInputs) :
    Except CommandError Template := do
  let base ← readBase fs inputs.base
  let source := RuleFile.readAll fs (ruleFiles c inputs.rules)
  ((compilerFor c inputs.revisionToken).run base source).mapError .compile

/-- The directory that a file is to be put into, if it is not the working directory. -/
def parentDirectory? (path : String) : Option String :=
  (Path.parent? path).filter (fun parent => !parent.isEmpty)

def makeParent (fs : FileSystem) (path : String) : FileSystem × Except CommandError Unit :=
  match parentDirectory? path with
  | none => (fs, .ok ())
  | some parent =>
    match fs.makeDirectories (FileSystem.chain parent) with
    | (fs, .ok ()) => (fs, .ok ())
    | (fs, .error e) => (fs, .error (.noDirectory parent e))

/-- Makes missing directories and writes the file. What was made before a failure stays. -/
def writeFile (fs : FileSystem) (path text : String) : FileSystem × Except CommandError Unit :=
  match makeParent fs path with
  | (fs, .error e) => (fs, .error e)
  | (fs, .ok ()) =>
    match fs.write path text.toUTF8 with
    | .ok fs => (fs, .ok ())
    | .error e => (fs, .error (.unwritten path e))

def compileText (fs : FileSystem) (environment : Option String) (inputs : CompileInputs)
    (out : Option String) : Except CommandError (String × Option String) := do
  let c ← loadConfig fs inputs.config environment
  let template ← compileTemplate fs c inputs
  let text ← render template.toJson
  .ok (text, out.or c.output?)

def checkText (fs : FileSystem) (environment : Option String) (inputs : CompileInputs)
    (path : String) : Except CommandError String := do
  let c ← loadConfig fs inputs.config environment
  let template ← compileTemplate fs c inputs
  let found ← readTemplateJson fs path
  if found.same template.toJson.normalize then .ok ("template " ++ path ++ " is up to date\n")
  else .error (.outOfDate path)

def handlersText (fs : FileSystem) (path : String) : Except CommandError String := do
  let template ← readTemplate fs path
  render (Handler.listToJson template.handlers)

def single : List Definition → Except CommandError Definition
  | [d] => .ok d
  | ds => .error (.notSingle ds.length)

def fragmentText (fs : FileSystem) (environment config : Option String) (rule label : String) :
    Except CommandError String := do
  let kind ← (FragmentKind.parse label).mapError .unknownKind
  let c ← loadConfig fs config environment
  let definitions ← ((RuleFile.asGiven rule).read fs).mapError .definition
  let d ← single definitions
  let part ← ((c.compiler.prepare d).fragment c.runtime kind).mapError (.fragment kind.label)
  render part.toJson

def validationText (fs : FileSystem) (environment config : Option String) :
    Except CommandError String := do
  let _ ← (Config.load fs config environment).mapError .config
  .ok "config ok\n"

def deliver (fs : FileSystem) (text : String) :
    Option String → FileSystem × Except CommandError String
  | none => (fs, .ok text)
  | some path =>
    match writeFile fs path text with
    | (fs, result) => (fs, result.map (fun _ => ""))

def perform (fs : FileSystem) (environment : Option String) :
    Command → FileSystem × Except CommandError String
  | .compile inputs out =>
    match compileText fs environment inputs out with
    | .error e => (fs, .error e)
    | .ok (text, target) => deliver fs text target
  | .check inputs template => (fs, checkText fs environment inputs template)
  | .handlers template => (fs, handlersText fs template)
  | .fragment config rule kind => (fs, fragmentText fs environment config rule kind)
  | .validateConfig config => (fs, validationText fs environment config)
  | .exampleConfig => (fs, .ok Config.exampleText)

/-- Runs a command. Log lines are not modelled, such as the warning of a compile without rule
files, so the complaint is that of a failure. -/
def run (fs : FileSystem) (environment : Option String) (command : Command) : Outcome :=
  match command.perform fs environment with
  | (fs, .ok printed) => ⟨0, printed, "", fs⟩
  | (fs, .error e) => ⟨1, "", e.message ++ "\n", fs⟩

end Command

namespace Cli

def programName : String := "rulecfn"

def versionText : String := programName ++ " 0.1.0\n"

/-- One line stands for the texts on help and usage, whose words are not modelled. -/
def helpText : String :=
  "Usage: " ++ programName ++ " [-v] compile|check|handlers|fragment|config [OPTIONS]\n"

def run (fs : FileSystem) (environment : Option String) (args : List String) : Outcome :=
  match Arguments.read args with
  | .ok command => command.run fs environment
  | .error .usage => ⟨2, "", helpText, fs⟩
  | .error .help => ⟨0, helpText, "", fs⟩
  | .error .version => ⟨0, versionText, "", fs⟩

end Cli
end RuleStack

namespace RuleStack.Command

def configPaths (given environment : Option String) : List String :=
  match Config.choosePath given environment with
  | .ok path => [path]
  | .error _ => []

def inputPaths (fs : FileSystem) (environment : Option String) (inputs : CompileInputs) :
    List String :=
  configPaths inputs.config environment ++ inputs.base.toList ++
    match loadConfig fs inputs.config environment with
    | .ok c => (ruleFiles c inputs.rules).map (·.path) ++ c.output?.toList
    | .error _ => []

def paths (fs : FileSystem) (environment : Option String) : Command → List String
  | .compile inputs out => inputPaths fs environment inputs ++ out.toList
  | .check inputs template => inputPaths fs environment inputs ++ [template]
  | .handlers template => [template]
  | .fragment config rule _ => configPaths config environment ++ [rule]
  | .validateConfig config => configPaths config environment
  | .exampleConfig => []

/-- Every path with the directories on its way, those first. -/
def trails (paths : List String) : List String :=
  paths.flatMap (fun path => (Path.ancestors path.toList).reverse.map String.ofList)

end RuleStack.Command
