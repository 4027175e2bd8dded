import RuleStack.Key
import RuleStack.Template
set_option autoImplicit false

namespace RuleStack

namespace Rule

def topicOf (name : String) : Resource :=
  let title := Json.join "-" [.ref "AWS::StackName", .str name]
  .make Resource.topicKind [
    ("DisplayName", title),
    ("TopicName", title),
    ("Subscription", .arr [
      Json.object [("Endpoint", .getAtt name "Arn"), ("Protocol", .str "lambda")]])]

def topicResource (r : Rule) : Except RuleError Resource := (r.requireName "topic").map topicOf

def publishStatement (name : String) : Json :=
  Json.object [
    ("Resource", .arr [.ref (Key.topic name)]),
    ("Action", .strings ["sns:ListTopics", "sns:Publish"]),
    ("Effect", .str "Allow")]

def listStatement : Json :=
  Json.object [
    ("Resource", .arr [.join "" [
      .str "arn:aws:sns:", .ref "AWS::Region", .str ":", .ref "AWS::AccountId", .str ":*"]]),
    ("Action", .strings ["sns:ListTopics"]),
    ("Effect", .str "Allow")]

def topicUserOf (name : String) : Resource :=
  .make Resource.userKind [
    ("Policies", .arr [
      Json.object [
        ("PolicyName", .str (name ++ "SNSTopicPolicy")),
        ("PolicyDocument", Json.object [
          ("Version", .str "2012-10-17"),
          ("Statement", .arr [publishStatement name, listStatement])])]])]

def topicUser (r : Rule) : Except RuleError Resource :=
  (r.requireName "topic user").map topicUserOf

def topicAccessKeyOf (name : String) : Resource :=
  .make Resource.accessKeyKind [("UserName", .ref (Key.topicUser name))]

def topicAccessKey (r : Rule) : Except RuleError Resource :=
  (r.requireName "topic access key").map topicAccessKeyOf

end Rule

def alarmTopic : Resource :=
  .make Resource.topicKind [
    ("TopicName", .ref "AWS::StackName"),
    ("Subscription", .arr [
      Json.object [("Endpoint", .ref Key.alarmEmail), ("Protocol", .str "email")]])]

inductive EventKind where
  | pattern
  | schedule
  deriving DecidableEq, Repr

namespace EventKind

def label : EventKind → String
  | .pattern => "eventRule"
  | .schedule => "scheduledRule"

def parse (label : String) : Except RuleError EventKind :=
  match label with
  | "eventRule" => .ok .pattern
  | "scheduledRule" => .ok .schedule
  | other => .error (.unknownKind other)

end EventKind

namespace Rule

def eventPattern (r : Rule) : Except RuleError Json :=
  match r.event.bind (·.pattern) with
  | none | some .null => .error (.missing "eventRule" "eventPattern")
  | some pattern => if pattern.isVoid then .error (.empty "eventPattern") else .ok pattern

def scheduleExpression (r : Rule) : Except RuleError Json :=
  match r.schedule with
  | none => .error (.missing "rule" "scheduledRule")
  | some expression =>
    if Text.blank expression then .error (.empty "scheduledRule") else .ok (.str expression)

def eventRuleOf (name property : String) (value : Json) : Resource :=
  .make Resource.eventRuleKind [
    ("RoleArn", .getAtt Key.role "Arn"),
    ("State", .str "ENABLED"),
    ("Targets", .arr [Json.object [("Arn", .getAtt name "Arn"), ("Id", .str name)]]),
    (property, value)]

def eventTrigger (r : Rule) (kind : EventKind) : Except RuleError Resource := do
  let name ← r.requireName "event trigger"
  match kind with
  | .pattern => return eventRuleOf name "EventPattern" (← r.eventPattern)
  | .schedule => return eventRuleOf name "ScheduleExpression" (← r.scheduleExpression)

end Rule

inductive Verb where
  | get
  | head
  | put
  | patch
  | options
  | post
  | delete
  deriving DecidableEq, Repr

namespace Verb

def all : List Verb := [.get, .head, .put, .patch, .options, .post, .delete]

def label : Verb → String
  | .get => "GET"
  | .head => "HEAD"
  | .put => "PUT"
  | .patch => "PATCH"
  | .options => "OPTIONS"
  | .post => "POST"
  | .delete => "DELETE"

/-- Reads a verb; the case of ASCII letters does not matter. -/
def parse (text : String) : Except RuleError Verb :=
  match all.find? (fun v => v.label.toList == text.toList.map Char.toUpper) with
  | some verb => .ok verb
  | none => .error (.unknownVerb text)

end Verb

inductive GatewayPart where
  | route
  | method
  deriving DecidableEq, Repr

def GatewayPart.parse (label : String) : Except RuleError GatewayPart :=
  match label with
  | "resource" => .ok .route
  | "method" => .ok .method
  | other => .error (.unknownKind other)

def GatewayPart.label : GatewayPart → String
  | .route => "Resource"
  | .method => "Method"

def stageName : String := "prod"

namespace Rule

def verb (g : GatewayTrigger) : Except RuleError Verb :=
  match g.method with
  | some method => Verb.parse method
  | none => .error (.missing "gatewayRule" "method")

def pathPart (name : String) : String := Text.lowercase name

def routeOf (name : String) : Resource :=
  .make Resource.routeKind [
    ("ParentId", .getAtt Key.restApi "RootResourceId"),
    ("RestApiId", .ref Key.restApi),
    ("PathPart", .str (pathPart name))]

def statusResponse (status : String) : Json :=
  Json.object [
    ("StatusCode", .str status),
    ("ResponseModels", .obj [("application/json", .str "Empty")])]

def standardMethodResponses : List Json := [statusResponse "200", statusResponse "500"]

def standardIntegrationResponses : List Json := [
  .obj [("StatusCode", .str "200")],
  Json.object [
    ("StatusCode", .str "500"),
    ("SelectionPattern", .str "^(?i)(error|exception).*")]]

def integration (name : String) (g : GatewayTrigger) : Json :=
  Json.object [
    ("Type", .str "AWS"),
    ("IntegrationHttpMethod", .str "POST"),
    ("IntegrationResponses", .arr (g.integrationResponses.getD standardIntegrationResponses)),
    ("Uri", .join "" [
      .str "arn:aws:apigateway:", .ref "AWS::Region", .str ":lambda:path/2015-03-31/functions/",
      .getAtt name "Arn", .str "/invocations"])]

def methodOf (name : String) (g : GatewayTrigger) (verb : Verb) : Resource :=
  .make Resource.methodKind ([
    ("RestApiId", .ref Key.restApi),
    ("ResourceId", .ref (Key.route name)),
    ("AuthorizationType", .str "None"),
    ("HttpMethod", .str verb.label),
    ("MethodResponses", .arr (g.methodResponses.getD standardMethodResponses)),
    ("Integration", integration name g)] ++
    if g.apiKey then [("ApiKeyRequired", .str "true")] else [])

def gatewayTrigger (r : Rule) (part : GatewayPart) : Except RuleError Resource := do
  let name ← r.requireName "gateway trigger"
  match r.gateway with
  | none => .error (.missing "rule" "gatewayRule")
  | some gateway =>
    let verb ← verb gateway
    match part with
    | .route => .ok (routeOf name)
    | .method => .ok (methodOf name gateway verb)

end Rule

def restApi : Resource :=
  .make Resource.restApiKind [
    ("Name", .ref "AWS::StackName"),
    ("FailOnWarnings", .str "true")]

/-- The access key is made after the deployment it belongs to. -/
def apiKey (deploymentKey : String) : Resource :=
  { Resource.make Resource.apiKeyKind [
      ("Name", .ref "AWS::StackName"),
      ("Enabled", .str "true"),
      ("StageKeys", .arr [
        Json.object [("RestApiId", .ref Key.restApi), ("StageName", .str stageName)]])] with
    dependsOn := some (.str deploymentKey) }

/-- A deployment is made after the methods it deploys. -/
def apiDeployment (methodKeys : List String) : Resource :=
  { Resource.make Resource.deploymentKind [
      ("RestApiId", .ref Key.restApi),
      ("StageName", .str stageName)] with
    dependsOn := some (.strings methodKeys) }

end RuleStack

namespace RuleStack.Rule

def topicOutputs (name : String) : List (String × Output) := [
  (Key.topic name, .make (.ref (Key.topic name))),
  (Key.topicAccessKey name, .make (.ref (Key.topicAccessKey name))),
  (Key.topicSecret name, .make (.getAtt (Key.topicAccessKey name) "SecretAccessKey"))]

def endpointOutput (name : String) : String × Output :=
  (Key.endpoint name, .make (.join "" [
    .str "https://", .ref Key.restApi, .str ".execute-api.", .ref "AWS::Region",
    .str (".amazonaws.com/" ++ stageName ++ "/"), .str (pathPart name)]))

def outputsOf (r : Rule) (name : String) : List (String × Output) :=
  (if r.topic then topicOutputs name else []) ++
    (if r.gateway.isSome then [endpointOutput name] else [])

def outputs (r : Rule) : Except RuleError (List (String × Output)) :=
  (r.requireName "outputs").map r.outputsOf

end RuleStack.Rule
