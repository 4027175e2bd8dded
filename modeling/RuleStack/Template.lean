import RuleStack.Rule
set_option autoImplicit false

namespace RuleStack

structure Resource where
  kind : String
  dependsOn : Option Json
  properties : KeyMap Json
  metadata : Option Json
  extra : KeyMap Json
  deriving DecidableEq, Inhabited

structure Output where
  value : Json
  extra : KeyMap Json
  deriving DecidableEq, Inhabited

structure PolicyDocument where
  version : Option String
  statements : List Statement
  deriving DecidableEq, Inhabited

structure Policy where
  name : String
  document : PolicyDocument
  deriving DecidableEq, Inhabited

structure Template where
  formatVersion : Option String
  description : Option String
  parameters : KeyMap Parameter
  resources : KeyMap Resource
  outputs : KeyMap Output
  extra : KeyMap Json
  deriving DecidableEq, Inhabited

/-- What one rule contributes, in the order in which it is built. -/
structure Bundle where
  name : String
  parameters : List (String × Parameter)
  resources : List (String × Resource)
  policy : Option Policy
  outputs : List (String × Output)
  deriving DecidableEq, Inhabited

namespace Resource

def functionKind : String := "AWS::Lambda::Function"
def permissionKind : String := "AWS::Lambda::Permission"
def environmentKind : String := "Custom::StreambotEnv"
def eventRuleKind : String := "AWS::Events::Rule"
def topicKind : String := "AWS::SNS::Topic"
def userKind : String := "AWS::IAM::User"
def accessKeyKind : String := "AWS::IAM::AccessKey"
def roleKind : String := "AWS::IAM::Role"
def alarmKind : String := "AWS::CloudWatch::Alarm"
def restApiKind : String := "AWS::ApiGateway::RestApi"
def routeKind : String := "AWS::ApiGateway::Resource"
def methodKind : String := "AWS::ApiGateway::Method"
def apiKeyKind : String := "AWS::ApiGateway::ApiKey"
def deploymentKind : String := "AWS::ApiGateway::Deployment"

def make (kind : String) (properties : List (String × Json)) : Resource :=
  ⟨kind, none, .ofList properties, none, .empty⟩

def isMethod (r : Resource) : Bool := r.kind == methodKind

def isFunction (r : Resource) : Bool := r.kind == functionKind

end Resource

def Output.make (value : Json) : Output := ⟨value, .empty⟩

def Template.empty : Template := ⟨none, none, .empty, .empty, .empty, .empty⟩

def Json.ref (key : String) : Json := .obj [("Ref", .str key)]

def Json.getAtt (key part : String) : Json :=
  .obj [("Fn::GetAtt", .arr [.str key, .str part])]

def Json.join (separator : String) (parts : List Json) : Json :=
  .obj [("Fn::Join", .arr [.str separator, .arr parts])]

namespace Resource

def record : Record Resource where
  name := "Resource"
  start := ⟨"", none, .empty, none, .empty⟩
  fields := [
    .mandatory "Type" Json.readText (fun v s => { s with kind := v }),
    .optional "DependsOn" (Json.readOption .ok) (fun v s => { s with dependsOn := v }),
    .optional "Properties" (Json.readMap .ok) (fun v s => { s with properties := v }),
    .optional "Metadata" (Json.readOption .ok) (fun v s => { s with metadata := v })]
  unlisted := .kept (fun key value s => { s with extra := s.extra.insert key value })

def toJson (r : Resource) : Json :=
  .obj ([("Type", .str r.kind)] ++ Json.optionalMember "DependsOn" r.dependsOn ++
    Json.optionalMember "Properties"
      (if r.properties.isEmpty then none else some (.ofMap r.properties)) ++
    Json.optionalMember "Metadata" r.metadata ++ r.extra.entries)

end Resource

namespace Output

def record : Record Output where
  name := "Output"
  start := ⟨.null, .empty⟩
  fields := [.mandatory "Value" .ok (fun v s => { s with value := v })]
  unlisted := .kept (fun key value s => { s with extra := s.extra.insert key value })

def toJson (o : Output) : Json := .obj (("Value", o.value) :: o.extra.entries)

end Output

namespace PolicyDocument

def record : Record PolicyDocument where
  name := "PolicyDocument"
  start := ⟨none, []⟩
  fields := [
    .optional "Version" (Json.readOption Json.readText) (fun v s => { s with version := v }),
    .mandatory "Statement" (Json.readList Statement.record.read)
      (fun v s => { s with statements := v })]
  unlisted := .ignored

def toJson (d : PolicyDocument) : Json :=
  .obj (Json.optionalMember "Version" (d.version.map .str) ++
    [("Statement", .arr (d.statements.map Statement.toJson))])

end PolicyDocument

namespace Policy

def record : Record Policy where
  name := "Policy"
  start := ⟨"", ⟨none, []⟩⟩
  fields := [
    .mandatory "PolicyName" Json.readText (fun v s => { s with name := v }),
    .mandatory "PolicyDocument" PolicyDocument.record.read (fun v s => { s with document := v })]
  unlisted := .ignored

def toJson (p : Policy) : Json :=
  .obj [("PolicyName", .str p.name), ("PolicyDocument", p.document.toJson)]

end Policy

namespace Template

def record : Record Template where
  name := "TemplateDocument"
  start := empty
  fields := [
    .optional "AWSTemplateFormatVersion" (Json.readOption Json.readText)
      (fun v s => { s with formatVersion := v }),
    .optional "Description" (Json.readOption Json.readText) (fun v s => { s with description := v }),
    .optional "Parameters" (Json.readMap Parameter.record.read)
      (fun v s => { s with parameters := v }),
    .optional "Resources" (Json.readMap Resource.record.read)
      (fun v s => { s with resources := v }),
    .optional "Outputs" (Json.readMap Output.record.read) (fun v s => { s with outputs := v })]
  unlisted := .kept (fun key value s => { s with extra := s.extra.insert key value })

def sectionJson {α : Type} (write : α → Json) (entries : List (String × α)) : Json :=
  .obj (entries.map (fun e => (e.1, write e.2)))

def toJson (t : Template) : Json :=
  .obj (Json.optionalMember "AWSTemplateFormatVersion" (t.formatVersion.map .str) ++
    Json.optionalMember "Description" (t.description.map .str) ++
    [("Parameters", sectionJson Parameter.toJson t.parameters.entries),
      ("Resources", sectionJson Resource.toJson t.resources.entries),
      ("Outputs", sectionJson Output.toJson t.outputs.entries)] ++ t.extra.entries)

def ofJson (value : Json) : Except Mismatch Template := record.read value

end Template

namespace Bundle

def pairs {α : Type} (write : α → Json) (entries : List (String × α)) : Json :=
  .arr (entries.map (fun e => .arr [.str e.1, write e.2]))

def toJson (b : Bundle) : Json :=
  .obj ([("name", .str b.name), ("Parameters", pairs Parameter.toJson b.parameters),
      ("Resources", pairs Resource.toJson b.resources)] ++
    Json.optionalMember "Policy" (b.policy.map Policy.toJson) ++
    [("Outputs", pairs Output.toJson b.outputs)])

end Bundle
end RuleStack
