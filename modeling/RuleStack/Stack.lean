import RuleStack.Digest
import RuleStack.Fragment.Kind
/-!
A stack template under construction. Parts are put in one after another, each under a key of its
own, and the first HTTP method brings the shared API with it. A part that does not fit leaves
everything as it was; a bundle that does not fit leaves what came before that part.
-/
set_option autoImplicit false

namespace RuleStack

inductive StackError where
  | duplicateParameter (key : String)
  | duplicateResource (key : String)
  | duplicateOutput (key : String)
  | invalidToken (token : String)
  deriving DecidableEq, Repr

def StackError.message : StackError → String
  | .duplicateParameter key => "duplicate parameter: " ++ key
  | .duplicateResource key => "duplicate resource: " ++ key
  | .duplicateOutput key => "duplicate output: " ++ key
  | .invalidToken token => "invalid revision token: " ++ token

structure Assembly where
  template : Template
  policies : List Policy
  hasGateway : Bool
  methodKeys : List String
  deploymentKey : String
  /-- How many bundles were put in as a whole. -/
  bundleCount : Nat
  deriving DecidableEq

inductive Part where
  | parameter (key : String) (value : Parameter)
  | resource (key : String) (value : Resource)
  | output (key : String) (value : Output)
  deriving DecidableEq

def Bundle.parts (b : Bundle) : List Part :=
  b.parameters.map (fun e => .parameter e.1 e.2) ++ b.resources.map (fun e => .resource e.1 e.2) ++
    b.outputs.map (fun e => .output e.1 e.2)

def gatewayResources (deploymentKey : String) : List (String × Resource) :=
  [(Key.restApi, restApi), (Key.apiKey, apiKey deploymentKey)] ++ gatewayAlarms

def apiKeyOutput : Output := .make (.ref Key.apiKey)

namespace Assembly

def start (template : Template) (deploymentKey : String) : Assembly :=
  ⟨template, [], false, [], deploymentKey, 0⟩

/-- Keys that no part may have, because the stack puts its own resources there at the end. -/
def reserved (key : String) : Bool := key == Key.role || key == Key.alarmTopic

def taken (a : Assembly) (key : String) : Bool :=
  a.template.resources.contains key || reserved key

def firstTaken? (a : Assembly) (keys : List String) : Option String := keys.find? a.taken

def putParameter (a : Assembly) (key : String) (value : Parameter) : Except StackError Assembly :=
  if a.template.parameters.contains key then .error (.duplicateParameter key)
  else .ok { a with
    template := { a.template with parameters := a.template.parameters.insert key value } }

def putOutput (a : Assembly) (key : String) (value : Output) : Except StackError Assembly :=
  if a.template.outputs.contains key then .error (.duplicateOutput key)
  else .ok { a with template := { a.template with outputs := a.template.outputs.insert key value } }

/-- Puts in the shared API, all of it or nothing. -/
def putGateway (a : Assembly) : Except StackError Assembly :=
  match a.firstTaken? ((gatewayResources a.deploymentKey).map (·.1)) with
  | some key => .error (.duplicateResource key)
  | none =>
    if a.template.outputs.contains Key.apiKeyOutput then
      .error (.duplicateOutput Key.apiKeyOutput)
    else .ok { a with
      hasGateway := true
      template := { a.template with
        resources := a.template.resources.insertAll (gatewayResources a.deploymentKey)
        outputs := a.template.outputs.insert Key.apiKeyOutput apiKeyOutput } }

def withGateway (a : Assembly) : Except StackError Assembly :=
  if a.hasGateway then .ok a else a.putGateway

def setResource (a : Assembly) (key : String) (value : Resource) : Assembly :=
  { a with
    methodKeys := if value.isMethod then a.methodKeys ++ [key] else a.methodKeys
    template := { a.template with resources := a.template.resources.insert key value } }

def putResource (a : Assembly) (key : String) (value : Resource) : Except StackError Assembly :=
  if a.taken key then .error (.duplicateResource key)
  else if value.isMethod then a.withGateway.map (·.setResource key value)
  else .ok (a.setResource key value)

def put (a : Assembly) : Part → Except StackError Assembly
  | .parameter key value => a.putParameter key value
  | .resource key value => a.putResource key value
  | .output key value => a.putOutput key value

def addPolicy (a : Assembly) (policy : Policy) : Assembly :=
  { a with policies := a.policies ++ [policy] }

/-- Puts in parts up to the first that does not fit, and says what was wrong with that one. -/
def putAll (a : Assembly) : List Part → Assembly × Except StackError Unit
  | [] => (a, .ok ())
  | part :: rest =>
    match a.put part with
    | .ok a => a.putAll rest
    | .error e => (a, .error e)

/-- A policy and the count of bundles come last, when all parts are in. -/
def close (a : Assembly) (policy : Option Policy) : Assembly :=
  { a with
    policies := a.policies ++ policy.toList
    bundleCount := a.bundleCount + 1 }

def putBundle (a : Assembly) (b : Bundle) : Assembly × Except StackError Unit :=
  match a.putAll b.parts with
  | (a, .ok ()) => (a.close b.policy, .ok ())
  | (a, .error e) => (a, .error e)

inductive Action where
  | put (part : Part)
  | addPolicy (policy : Policy)
  | putBundle (bundle : Bundle)
  deriving DecidableEq

/-- The assembly after an action, whether it succeeds or not, with the outcome. -/
def act (a : Assembly) : Action → Assembly × Except StackError Unit
  | .put part =>
    match a.put part with
    | .ok a => (a, .ok ())
    | .error e => (a, .error e)
  | .addPolicy policy => (a.addPolicy policy, .ok ())
  | .putBundle bundle => a.putBundle bundle

def actAll (a : Assembly) (actions : List Action) : Assembly :=
  actions.foldl (fun a action => (a.act action).1) a

/-- The template with the resources that the stack owns: the role, if there is a bundle to use it,
and the alarm topic. -/
def withOwned (a : Assembly) : Assembly :=
  let resources :=
    if 0 < a.bundleCount then a.template.resources.insert Key.role (executionRole a.policies)
    else a.template.resources
  { a with template := { a.template with resources := resources.insert Key.alarmTopic alarmTopic } }

def finish (a : Assembly) : Except StackError Template :=
  let a := a.withOwned
  if a.hasGateway then
    if a.taken a.deploymentKey then .error (.duplicateResource a.deploymentKey)
    else .ok { a.template with
      resources := a.template.resources.insert a.deploymentKey (apiDeployment a.methodKeys) }
  else .ok a.template

end Assembly

inductive Revision where
  | fixed
  | token (token : String)
  | contentHash
  deriving DecidableEq, Repr

namespace Revision

def digestLength : Nat := 12

def maxTokenLength : Nat := 64

def tokenFits (token : String) : Bool :=
  !token.isEmpty && token.utf8ByteSize ≤ maxTokenLength && token.toList.all Char.isAlphanum

def checkToken (token : String) : Except StackError Unit :=
  if tokenFits token then .ok () else .error (.invalidToken token)

/-- What a content hash covers: the base template and the bundles. -/
def content (base : Template) (bundles : List Bundle) : Json :=
  .arr [base.toJson, .arr (bundles.map Bundle.toJson)]

def contentText (base : Template) (bundles : List Bundle) : String :=
  (content base bundles).canonical

def contentDigest (base : Template) (bundles : List Bundle) : String :=
  Digest.hexOf (contentText base bundles).toUTF8

def deploymentKey (revision : Revision) (base : Template) (bundles : List Bundle) :
    Except StackError String :=
  match revision with
  | .fixed => .ok (Key.deployment "")
  | .token t => (checkToken t).map (fun _ => Key.deployment t)
  | .contentHash => .ok (Key.deployment (Digest.short digestLength (contentDigest base bundles)))

end Revision

structure StackOptions where
  revision : Revision
  formatVersion : String
  description : String
  deriving DecidableEq, Repr

namespace StackOptions

def defaultFormatVersion : String := "2010-09-09"

def defaultDescription : String := "LambdaCfn"

def standard : StackOptions := ⟨.contentHash, defaultFormatVersion, defaultDescription⟩

def globalParameters : List (String × Parameter) := [
  (Key.codeBucket, .text "String" "lambda function S3 bucket location"),
  (Key.codeFolder, .text "String" "lambda function S3 prefix location"),
  (Key.codeRevision, .text "String" "lambda function S3 prefix location"),
  (Key.serviceToken, .text "String" "StreambotEnv lambda function ARN"),
  (Key.alarmEmail, .text "String" "Alarm notifications will send to this email address")]

def seed (o : StackOptions) (base : Template) : Template :=
  { base with
    formatVersion := some (base.formatVersion.getD o.formatVersion)
    description := some (base.description.getD o.description)
    parameters := base.parameters.insertAll globalParameters }

def putBundles (a : Assembly) : List Bundle → Except StackError Assembly
  | [] => .ok a
  | bundle :: rest =>
    match a.putBundle bundle with
    | (a, .ok ()) => putBundles a rest
    | (_, .error e) => .error e

def compile (o : StackOptions) (base : Template) (bundles : List Bundle) :
    Except StackError Template := do
  let deploymentKey ← o.revision.deploymentKey base bundles
  let assembly ← putBundles (.start (o.seed base) deploymentKey) bundles
  assembly.finish

end StackOptions
end RuleStack
