import RuleStack.Json.Parser
import RuleStack.Json.Record
set_option autoImplicit false

namespace RuleStack

structure Parameter where
  kind : Option String
  description : Option String
  extra : KeyMap Json
  deriving DecidableEq, Inhabited

/-- A permission statement. Every part may be missing here; `Statement.check` asks for them. -/
structure Statement where
  effect : Option Json
  action : Option Json
  notAction : Option Json
  resource : Option Json
  notResource : Option Json
  extra : KeyMap Json
  deriving DecidableEq, Inhabited

structure EventTrigger where
  pattern : Option Json
  deriving DecidableEq, Inhabited

structure GatewayTrigger where
  method : Option String
  apiKey : Bool
  methodResponses : Option (List Json)
  integrationResponses : Option (List Json)
  deriving DecidableEq, Inhabited

structure Rule where
  name : Option String
  sourcePath : Option String
  parameters : KeyMap Parameter
  statements : Option (List Statement)
  event : Option EventTrigger
  schedule : Option String
  topic : Bool
  gateway : Option GatewayTrigger
  memorySize : Option Number
  timeout : Option Number
  deriving DecidableEq, Inhabited

def Parameter.text (kind description : String) : Parameter :=
  ⟨some kind, some description, .empty⟩

def Statement.allow (action resource : Json) : Statement :=
  ⟨some (.str "Allow"), some action, none, some resource, none, .empty⟩

inductive Malformed where
  | unreadable (error : Json.ParseError)
  | noRuleSet
  | notAnObject
  | statementsNotAList
  | parametersNotAnObject
  | mismatch (cause : Mismatch)
  deriving DecidableEq

def Malformed.message : Malformed → String
  | .unreadable error => "malformed json: " ++ error.message
  | .noRuleSet => "rule definitions must be an object or an array of objects"
  | .notAnObject => "rule config must be an object"
  | .statementsNotAList => "statements must be an array"
  | .parametersNotAnObject => "parameters must be an object"
  | .mismatch cause => cause.message

inductive RuleError where
  /-- The rule has no usable name, which `part` needs. -/
  | unnamed (part : String)
  | missing (context : String) (field : String)
  | empty (field : String)
  | malformed (cause : Malformed)
  | unknownKind (kind : String)
  | unknownVerb (verb : String)
  deriving DecidableEq

def RuleError.message : RuleError → String
  | .unnamed part => "name property required for " ++ part
  | .missing context field => context ++ " must contain " ++ field ++ " property"
  | .empty field => field ++ " must not be empty"
  | .malformed cause => "invalid shape: " ++ cause.message
  | .unknownKind kind => "unknown fragment kind: " ++ kind
  | .unknownVerb verb => "invalid client HTTP method specified: " ++ verb

/-- A value that says nothing: null, blank text, an empty list or an empty object. -/
def Json.isVoid : Json → Bool
  | .null => true
  | .str value => Text.blank value
  | .arr items => items.isEmpty
  | .obj members => members.isEmpty
  | .bool _ | .num _ => false

namespace Rule

def usableName? (r : Rule) : Option String := r.name.filter (fun name => !Text.blank name)

def requireName (r : Rule) (part : String) : Except RuleError String :=
  match r.usableName? with
  | some name => .ok name
  | none => .error (.unnamed part)

end Rule

def Json.optionalMember (name : String) (value : Option Json) : List (String × Json) :=
  match value with
  | some value => [(name, value)]
  | none => []

namespace Parameter

def record : Record Parameter where
  name := "ParameterSpec"
  start := ⟨none, none, .empty⟩
  fields := [
    .optional "Type" (Json.readOption Json.readText) (fun v s => { s with kind := v }),
    .optional "Description" (Json.readOption Json.readText) (fun v s => { s with description := v })]
  unlisted := .kept (fun key value s => { s with extra := s.extra.insert key value })

def toJson (p : Parameter) : Json :=
  .obj (Json.optionalMember "Type" (p.kind.map .str) ++
    Json.optionalMember "Description" (p.description.map .str) ++ p.extra.entries)

end Parameter

namespace Statement

def readAny : Json → Except Mismatch (Option Json) := Json.readOption .ok

def record : Record Statement where
  name := "PolicyStatement"
  start := ⟨none, none, none, none, none, .empty⟩
  fields := [
    .optional "Effect" readAny (fun v s => { s with effect := v }),
    .optional "Action" readAny (fun v s => { s with action := v }),
    .optional "NotAction" readAny (fun v s => { s with notAction := v }),
    .optional "Resource" readAny (fun v s => { s with resource := v }),
    .optional "NotResource" readAny (fun v s => { s with notResource := v })]
  unlisted := .kept (fun key value s => { s with extra := s.extra.insert key value })

def toJson (s : Statement) : Json :=
  .obj (Json.optionalMember "Effect" s.effect ++ Json.optionalMember "Action" s.action ++
    Json.optionalMember "NotAction" s.notAction ++ Json.optionalMember "Resource" s.resource ++
    Json.optionalMember "NotResource" s.notResource ++ s.extra.entries)

end Statement

namespace EventTrigger

def record : Record EventTrigger where
  name := "EventRule"
  start := ⟨none⟩
  fields := [.optional "eventPattern" (Json.readOption .ok) (fun v s => { s with pattern := v })]
  unlisted := .ignored

def toJson (e : EventTrigger) : Json := .obj (Json.optionalMember "eventPattern" e.pattern)

end EventTrigger

/-- A topic trigger has no members of its own. -/
def topicRecord : Record Unit := ⟨"SnsRule", (), [], .ignored⟩

namespace GatewayTrigger

def record : Record GatewayTrigger where
  name := "GatewayRule"
  start := ⟨none, false, none, none⟩
  fields := [
    .optional "method" (Json.readOption Json.readText) (fun v s => { s with method := v }),
    .optional "apiKey" Json.readBool (fun v s => { s with apiKey := v }),
    .optional "methodResponses" (Json.readOption (Json.readList .ok))
      (fun v s => { s with methodResponses := v }),
    .optional "integrationResponses" (Json.readOption (Json.readList .ok))
      (fun v s => { s with integrationResponses := v })]
  unlisted := .ignored

def toJson (g : GatewayTrigger) : Json :=
  .obj (Json.optionalMember "method" (g.method.map .str) ++ [("apiKey", .bool g.apiKey)] ++
    Json.optionalMember "methodResponses" (g.methodResponses.map .arr) ++
    Json.optionalMember "integrationResponses" (g.integrationResponses.map .arr))

end GatewayTrigger

namespace Rule

def empty : Rule := ⟨none, none, .empty, none, none, none, false, none, none, none⟩

def record : Record Rule where
  name := "RuleConfig"
  start := empty
  fields := [
    .optional "name" (Json.readOption Json.readText) (fun v s => { s with name := v }),
    .optional "sourcePath" (Json.readOption Json.readText) (fun v s => { s with sourcePath := v }),
    .optional "parameters" (Json.readMap Parameter.record.read)
      (fun v s => { s with parameters := v }),
    .optional "statements" (Json.readOption (Json.readList Statement.record.read))
      (fun v s => { s with statements := v }),
    .optional "eventRule" (Json.readOption EventTrigger.record.read)
      (fun v s => { s with event := v }),
    .optional "scheduledRule" (Json.readOption Json.readText) (fun v s => { s with schedule := v }),
    .optional "snsRule" (Json.readOption topicRecord.read)
      (fun v s => { s with topic := v.isSome }),
    .optional "gatewayRule" (Json.readOption GatewayTrigger.record.read)
      (fun v s => { s with gateway := v }),
    .optional "memorySize" (Json.readOption Json.readNumber)
      (fun v s => { s with memorySize := v }),
    .optional "timeout" (Json.readOption Json.readNumber) (fun v s => { s with timeout := v })]
  unlisted := .ignored

def parametersJson (parameters : KeyMap Parameter) : Json :=
  .obj (parameters.entries.map (fun e => (e.1, e.2.toJson)))

def toJson (r : Rule) : Json :=
  .obj (Json.optionalMember "name" (r.name.map .str) ++
    Json.optionalMember "sourcePath" (r.sourcePath.map .str) ++
    Json.optionalMember "parameters"
      (if r.parameters.isEmpty then none else some (parametersJson r.parameters)) ++
    Json.optionalMember "statements"
      (r.statements.map (fun ss => .arr (ss.map Statement.toJson))) ++
    Json.optionalMember "eventRule" (r.event.map EventTrigger.toJson) ++
    Json.optionalMember "scheduledRule" (r.schedule.map .str) ++
    Json.optionalMember "snsRule" (if r.topic then some (.obj []) else none) ++
    Json.optionalMember "gatewayRule" (r.gateway.map GatewayTrigger.toJson) ++
    Json.optionalMember "memorySize" (r.memorySize.map .num) ++
    Json.optionalMember "timeout" (r.timeout.map .num))

def checkStatements (members : List (String × Json)) : Except Malformed Unit :=
  match members.lookup "statements" with
  | none | some .null | some (.arr _) => .ok ()
  | some _ => .error .statementsNotAList

def checkParameters (members : List (String × Json)) : Except Malformed Unit :=
  match members.lookup "parameters" with
  | none | some (.obj _) => .ok ()
  | some _ => .error .parametersNotAnObject

def ofMembers (members : List (String × Json)) : Except Malformed Rule := do
  checkStatements members
  checkParameters members
  (record.readMembers members).mapError .mismatch

def ofJson : Json → Except RuleError Rule
  | .obj members => (ofMembers members).mapError .malformed
  | _ => .error (.malformed .notAnObject)

def listOfJson : Json → Except RuleError (List Rule)
  | .arr items => items.mapM ofJson
  | .obj members => (ofJson (.obj members)).map ([·])
  | _ => .error (.malformed .noRuleSet)

end Rule
end RuleStack
