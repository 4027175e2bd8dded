import RuleStack.Key
import RuleStack.Template
set_option autoImplicit false

namespace RuleStack

def Parameter.lacks (text : Option String) : Bool := (text.getD "").isEmpty

def Parameter.check (key : String) (p : Parameter) : Except RuleError Unit :=
  if lacks p.kind then .error (.missing ("parameter " ++ key) "Type")
  else if lacks p.description then .error (.missing ("parameter " ++ key) "Description")
  else .ok ()

namespace Rule

def parameterKey (name key : String) : String := alphanumericOnly name ++ key

def namespacedParameters (r : Rule) : Except RuleError (List (String × Parameter)) := do
  let name ← r.requireName "parameters"
  r.parameters.entries.forM (fun e => e.2.check e.1)
  .ok (r.parameters.entries.map (fun e => (parameterKey name e.1, e.2)))

end Rule

namespace Sizing

def defaultTimeout : UInt32 := 60
def maxTimeout : UInt32 := 300
def defaultMemory : UInt32 := 128
def maxMemory : UInt32 := 1536
def memoryStep : UInt32 := 64

def timeoutFits (seconds : UInt32) : Bool := 1 ≤ seconds && seconds ≤ maxTimeout

def memoryFits (megabytes : UInt32) : Bool :=
  defaultMemory ≤ megabytes && megabytes ≤ maxMemory && megabytes % memoryStep == 0

/-- The requested whole number where it is a word that fits, and `standard` otherwise. -/
def choose (fits : UInt32 → Bool) (standard : UInt32) (requested : Option Number) : UInt32 :=
  ((requested.bind Number.toWord?).filter fits).getD standard

def timeout (requested : Option Number) : Nat := (choose timeoutFits defaultTimeout requested).toNat

def memory (requested : Option Number) : Nat := (choose memoryFits defaultMemory requested).toNat

theorem toNat_le_maxWhole (w : UInt32) : w.toNat ≤ Number.maxWhole :=
  Nat.le_trans (Nat.le_of_lt w.toNat_lt) (by decide)

theorem timeout_le (requested : Option Number) : timeout requested ≤ Number.maxWhole :=
  toNat_le_maxWhole _

theorem memory_le (requested : Option Number) : memory requested ≤ Number.maxWhole :=
  toNat_le_maxWhole _

end Sizing

def defaultRuntime : String := "nodejs"

namespace Rule

def handlerName (name : String) : String := "index." ++ name

/-- Where the code archive lies: in the bucket, under the folder, named by the revision. -/
def codeLocation : Json :=
  Json.object [
    ("S3Bucket", .ref Key.codeBucket),
    ("S3Key", .join "" [.ref Key.codeFolder, .ref Key.codeRevision, .str ".zip"])]

def functionOf (r : Rule) (name runtime : String) : Resource :=
  { Resource.make Resource.functionKind [
      ("Code", codeLocation),
      ("Role", .getAtt Key.role "Arn"),
      ("Description", .ref "AWS::StackName"),
      ("Handler", .str (handlerName name)),
      ("MemorySize", .ofNat (Sizing.memory r.memorySize) (Sizing.memory_le _)),
      ("Runtime", .str runtime),
      ("Timeout", .ofNat (Sizing.timeout r.timeout) (Sizing.timeout_le _))] with
    metadata := some (.obj (match r.sourcePath with
      | some path => [("sourcePath", .str path)]
      | none => [])) }

def function (r : Rule) (runtime : String) : Except RuleError Resource :=
  (r.requireName "compute unit").map (r.functionOf · runtime)

/-- Who invokes the function, and from where. A topic comes before an API, and events last. -/
def invoker (r : Rule) (name : String) : String × Json :=
  if r.topic then ("sns.amazonaws.com", .ref (Key.topic name))
  else if r.gateway.isSome then
    ("apigateway.amazonaws.com", .join "" [
      .str "arn:aws:execute-api:", .ref "AWS::Region", .str ":", .ref "AWS::AccountId", .str ":",
      .ref Key.restApi, .str "/*"])
  else
    ("events.amazonaws.com", .join "" [
      .str "arn:aws:events:", .ref "AWS::Region", .str ":", .ref "AWS::AccountId", .str ":rule/",
      .ref "AWS::StackName", .str "*"])

def permissionOf (r : Rule) (name : String) : Resource :=
  .make Resource.permissionKind [
    ("FunctionName", .getAtt name "Arn"),
    ("Action", .str "lambda:InvokeFunction"),
    ("Principal", .str (r.invoker name).1),
    ("SourceArn", (r.invoker name).2)]

def permission (r : Rule) : Except RuleError Resource :=
  (r.requireName "invoke permission").map r.permissionOf

def bindings (name : String) (parameterKeys : List String) : KeyMap Json :=
  ((KeyMap.ofList [("ServiceToken", .ref Key.serviceToken), ("FunctionName", .ref name)]).insertAll
    (parameterKeys.map (fun key => (key, .ref key)))).insert Key.alarmTopic (.ref Key.alarmTopic)

def environment (r : Rule) : Except RuleError Resource := do
  let name ← r.requireName "environment"
  let parameters ← r.namespacedParameters
  .ok { Resource.make Resource.environmentKind [] with
    properties := bindings name (parameters.map (·.1)) }

end Rule
end RuleStack
