import RuleStack.Compiler
set_option autoImplicit false

namespace RuleStack

inductive RevisionMode where
  | contentHash
  | fixed
  | token
  deriving DecidableEq, Repr

namespace RevisionMode

def all : List RevisionMode := [.contentHash, .fixed, .token]

def label : RevisionMode → String
  | .contentHash => "content_hash"
  | .fixed => "fixed"
  | .token => "token"

def ofLabel? (label : String) : Option RevisionMode :=
  all.find? (fun mode => mode.label == label)

end RevisionMode

structure Config where
  description : String
  formatVersion : String
  packages : List String
  rulePaths : List String
  runtime : String
  mode : RevisionMode
  token : Option String
  outputPath : Option String
  /-- The directory of the settings file, if the settings come from a file. -/
  sourceDir : Option String
  deriving DecidableEq, Repr

namespace Config

def standard : Config where
  description := StackOptions.defaultDescription
  formatVersion := StackOptions.defaultFormatVersion
  packages := []
  rulePaths := []
  runtime := defaultRuntime
  mode := .contentHash
  token := none
  outputPath := none
  sourceDir := none

/-- The revision that the settings ask for. A token mode without a token counts as a content
hash. -/
def revision (c : Config) : Revision :=
  match c.mode, c.token with
  | .fixed, _ => .fixed
  | .token, some token => .token token
  | .contentHash, _ | .token, none => .contentHash

def options (c : Config) : StackOptions := ⟨c.revision, c.formatVersion, c.description⟩

def compiler (c : Config) : Compiler := ⟨⟨c.packages⟩, c.runtime, c.options⟩

/-- Where a path of the settings leads. White space around it does not count. -/
def resolve (c : Config) (path : String) : String :=
  match c.sourceDir with
  | some dir => Path.join dir (Text.trim path)
  | none => Text.trim path

def resolvedPaths (c : Config) : List String := c.rulePaths.map c.resolve

def ruleFiles (c : Config) : List RuleFile :=
  c.rulePaths.map (fun path => ⟨Text.trim path, c.resolve path⟩)

def output? (c : Config) : Option String := c.outputPath.map c.resolve

end Config

inductive ConfigFault where
  | blank (field : String)
  | tooLong (field : String)
  | componentTooLong (field : String)
  | tooManyPackages
  | tooManyPaths
  | repeatedPackage (package : String)
  | tokenMissing
  | tokenUnused
  | tokenUnfit (cause : StackError)
  | fileTooLarge
  | notText
  deriving DecidableEq, Repr

namespace Config

def maxPackages : Nat := 256

def maxRulePaths : Nat := 1024

/-- In bytes, as all lengths here. -/
def maxTextLength : Nat := 1024

def maxPathLength : Nat := 4096

def maxComponentLength : Nat := 255

end Config

def ConfigFault.message : ConfigFault → String
  | .blank field => field ++ " must be non-empty"
  | .tooLong field => field ++ " exceeds max length"
  | .componentTooLong field => field ++ " path component too long"
  | .tooManyPackages =>
    "namespace.packages exceeds max entries (" ++ String.ofList (natText Config.maxPackages) ++ ")"
  | .tooManyPaths =>
    "rules.paths exceeds max entries (" ++ String.ofList (natText Config.maxRulePaths) ++ ")"
  | .repeatedPackage package => "namespace.packages contains duplicate entry: " ++ package
  | .tokenMissing => "deployment.revision=token requires deployment.token"
  | .tokenUnused => "deployment.token requires deployment.revision=token"
  | .tokenUnfit cause => "deployment.token: " ++ cause.message
  | .fileTooLarge => "config file exceeds size limit"
  | .notText => "config file must be utf-8"

namespace Config

def checkText (field value : String) : Except ConfigFault Unit :=
  if Text.blank value then .error (.blank field)
  else if maxTextLength < value.utf8ByteSize then .error (.tooLong field)
  else .ok ()

def componentsFit (path : String) : Bool :=
  (Path.components path).all (fun name => name.utf8ByteSize ≤ maxComponentLength)

/-- White space around a path does not count. -/
def checkPath (field value : String) : Except ConfigFault Unit :=
  let path := Text.trim value
  if path.isEmpty then .error (.blank field)
  else if maxPathLength < path.utf8ByteSize then .error (.tooLong field)
  else if componentsFit path then .ok ()
  else .error (.componentTooLong field)

/-- Checks packages one by one; `seen` holds those before them in lowercase. -/
def checkPackages (seen : List String) : List String → Except ConfigFault Unit
  | [] => .ok ()
  | package :: rest =>
    match checkText "namespace.packages entry" package with
    | .error e => .error e
    | .ok () =>
      if Text.lowercase package ∈ seen then .error (.repeatedPackage package)
      else checkPackages (Text.lowercase package :: seen) rest

def checkTemplate (c : Config) : Except ConfigFault Unit := do
  checkText "template.description" c.description
  checkText "template.format_version" c.formatVersion

def checkNamespace (c : Config) : Except ConfigFault Unit :=
  if maxPackages < c.packages.length then .error .tooManyPackages
  else checkPackages [] c.packages

def checkRules (c : Config) : Except ConfigFault Unit :=
  if maxRulePaths < c.rulePaths.length then .error .tooManyPaths
  else c.rulePaths.forM (checkPath "rules.paths entry")

def checkDeployment (c : Config) : Except ConfigFault Unit :=
  match c.mode, c.token with
  | .token, none => .error .tokenMissing
  | .token, some token => (Revision.checkToken token).mapError .tokenUnfit
  | .contentHash, some _ | .fixed, some _ => .error .tokenUnused
  | .contentHash, none | .fixed, none => .ok ()

def checkOutput (c : Config) : Except ConfigFault Unit :=
  match c.outputPath with
  | some path => checkPath "output.path" path
  | none => .ok ()

/-- Checks the sections in order; the first fault found is the one reported. -/
def validate (c : Config) : Except ConfigFault Unit := do
  c.checkTemplate
  c.checkNamespace
  c.checkRules
  checkText "build.runtime" c.runtime
  c.checkDeployment
  c.checkOutput

end Config
end RuleStack

namespace RuleStack.Config

def exampleText : String := "[template]
description = \"LambdaCfn\"
format_version = \"2010-09-09\"

[namespace]
packages = [\"@mapbox/patrol-rules-aws\", \"patrol-rules-github\"]

[rules]
paths = [\"rules/root-login.json\"]

[build]
runtime = \"nodejs\"

[deployment]
revision = \"content_hash\"

[output]
path = \"build/template.json\"
"

end RuleStack.Config
