import RuleStack.Fragment.Function
import RuleStack.Fragment.Trigger
set_option autoImplicit false

namespace RuleStack

structure Alarm where
  anchor : String
  metric : String
  threshold : String
  comparison : String
  metrics : String
  dimension : String
  subject : Json

namespace Alarm

def runbook : String := "https://github.com/mapbox/lambda-cfn/blob/master/alarms.md"

def resource (a : Alarm) : Resource :=
  .make Resource.alarmKind [
    ("EvaluationPeriods", .str "5"),
    ("Statistic", .str "Sum"),
    ("Threshold", .str a.threshold),
    ("AlarmDescription", .str (runbook ++ "#" ++ a.anchor)),
    ("Period", .str "60"),
    ("AlarmActions", .arr [.ref Key.alarmTopic]),
    ("Namespace", .str a.metrics),
    ("Dimensions", .arr [Json.object [("Name", .str a.dimension), ("Value", a.subject)]]),
    ("ComparisonOperator", .str a.comparison),
    ("MetricName", .str a.metric)]

def ofFunction (name anchor metric comparison : String) : Alarm :=
  ⟨anchor, metric, "0", comparison, "AWS/Lambda", "FunctionName", .ref name⟩

def ofApi (key metric threshold : String) : Alarm :=
  ⟨key, metric, threshold, "GreaterThanThreshold", "AWS/ApiGateway", "APIName",
    .ref "AWS::StackName"⟩

end Alarm

def Rule.alarmsOf (name : String) : List (String × Resource) := [
  (Key.alarm name "Errors", (Alarm.ofFunction name "Errors" "Errors" "GreaterThanThreshold").resource),
  (Key.alarm name "NoInvocations",
    (Alarm.ofFunction name "NoInvocations" "Invocations" "LessThanThreshold").resource)]

def Rule.alarms (r : Rule) : Except RuleError (List (String × Resource)) :=
  (r.requireName "alarms").map Rule.alarmsOf

def gatewayAlarms : List (String × Resource) := [
  (Key.latencyAlarm, (Alarm.ofApi Key.latencyAlarm "Latency" "4").resource),
  (Key.clientErrorAlarm, (Alarm.ofApi Key.clientErrorAlarm "4xxError" "100").resource),
  (Key.countAlarm, (Alarm.ofApi Key.countAlarm "Count" "10000").resource)]

namespace Statement

def present (part : Option Json) : Bool :=
  match part with
  | some value => !value.isVoid
  | none => false

/-- A statement needs an effect, a resource and an action; the latter two may be negated. -/
def check (s : Statement) : Except RuleError Unit :=
  if !present s.effect then .error (.missing "statement" "Effect")
  else if !(present s.resource || present s.notResource) then
    .error (.missing "statement" "Resource or NotResource")
  else if !(present s.action || present s.notAction) then
    .error (.missing "statement" "Action or NotAction")
  else .ok ()

end Statement

def Rule.policy (r : Rule) : Except RuleError (Option Policy) :=
  match r.statements with
  | none => .ok none
  | some statements => do
    let name ← r.requireName "policy"
    statements.forM Statement.check
    .ok (some ⟨name, ⟨none, statements⟩⟩)

def basePolicy : Policy :=
  ⟨"basic", ⟨none, [
    .allow (.strings ["logs:*"]) (.str "arn:aws:logs:*:*:*"),
    .allow (.strings ["dynamodb:GetItem"]) (.join "" [
      .str "arn:aws:dynamodb:us-east-1:", .ref "AWS::AccountId", .str ":table/streambot-env*"]),
    .allow (.strings ["sns:Publish"]) (.ref Key.alarmTopic),
    .allow (.strings ["iam:SimulateCustomPolicy"]) (.str "*")]⟩⟩

def trustStatement (service : String) : Json :=
  Json.object [
    ("Sid", .str ""),
    ("Effect", .str "Allow"),
    ("Principal", .obj [("Service", .str service)]),
    ("Action", .str "sts:AssumeRole")]

def executionRole (policies : List Policy) : Resource :=
  .make Resource.roleKind [
    ("AssumeRolePolicyDocument", .obj [
      ("Statement", .arr (["lambda.amazonaws.com", "apigateway.amazonaws.com",
        "events.amazonaws.com"].map trustStatement))]),
    ("Path", .str "/"),
    ("Policies", .arr ((basePolicy :: policies).map (fun p => p.toJson.normalize)))]

inductive FragmentKind where
  | function
  | permission
  | environment
  | alarms
  | parameters
  | policy
  | outputs
  | event (kind : EventKind)
  | gateway (part : GatewayPart)
  | topic
  | topicUser
  | topicAccessKey
  deriving DecidableEq, Repr

namespace FragmentKind

def all : List FragmentKind := [
  .function, .permission, .environment, .alarms, .parameters, .policy, .outputs,
  .event .pattern, .event .schedule, .gateway .route, .gateway .method,
  .topic, .topicUser, .topicAccessKey]

def label : FragmentKind → String
  | .function => "compute"
  | .permission => "permission"
  | .environment => "environment"
  | .alarms => "alarms"
  | .parameters => "parameters"
  | .policy => "policy"
  | .outputs => "outputs"
  | .event kind => kind.label
  | .gateway .route => "gatewayResource"
  | .gateway .method => "gatewayMethod"
  | .topic => "snsTopic"
  | .topicUser => "snsUser"
  | .topicAccessKey => "snsAccessKey"

def parse (label : String) : Except RuleError FragmentKind :=
  match all.find? (fun kind => kind.label == label) with
  | some kind => .ok kind
  | none => .error (.unknownKind label)

end FragmentKind

inductive Fragment where
  | resource (resource : Resource)
  | resources (entries : List (String × Resource))
  | parameters (entries : List (String × Parameter))
  | policy (policy : Option Policy)
  | outputs (entries : List (String × Output))
  deriving DecidableEq

/-- Several parts are written as pairs, and a policy that there is not as null. -/
def Fragment.toJson : Fragment → Json
  | .resource r => r.toJson.normalize
  | .resources entries => (Bundle.pairs Resource.toJson entries).normalize
  | .parameters entries => (Bundle.pairs Parameter.toJson entries).normalize
  | .policy (some p) => p.toJson.normalize
  | .policy none => .null
  | .outputs entries => (Bundle.pairs Output.toJson entries).normalize

def Rule.fragment (r : Rule) (runtime : String) : FragmentKind → Except RuleError Fragment
  | .function => (r.function runtime).map .resource
  | .permission => r.permission.map .resource
  | .environment => r.environment.map .resource
  | .alarms => r.alarms.map .resources
  | .parameters => r.namespacedParameters.map .parameters
  | .policy => r.policy.map .policy
  | .outputs => r.outputs.map .outputs
  | .event kind => (r.eventTrigger kind).map .resource
  | .gateway part => (r.gatewayTrigger part).map .resource
  | .topic => r.topicResource.map .resource
  | .topicUser => r.topicUser.map .resource
  | .topicAccessKey => r.topicAccessKey.map .resource

end RuleStack
