import RuleStack.Text.Basic
import RuleStack.Text.Lowercase
set_option autoImplicit false

namespace RuleStack

def alphanumericOnly (s : String) : String := String.ofList (s.toList.filter Char.isAlphanum)

namespace Key

def role : String := "LambdaCfnRole"
def alarmTopic : String := "LambdaCfnAlarmSNSTopic"
def restApi : String := "ApiGateway"
def apiKey : String := "ApiKey"
def latencyAlarm : String := "ApiLatencyAlarm"
def clientErrorAlarm : String := "Api4xxAlarm"
def countAlarm : String := "ApiCountAlarm"

def deployment (revision : String) : String := "ApiDeployment" ++ revision

def apiKeyOutput : String := "APIKey"

def codeBucket : String := "CodeS3Bucket"
def codeFolder : String := "CodeS3Prefix"
def codeRevision : String := "GitSha"
def serviceToken : String := "StreambotEnv"
def alarmEmail : String := "AlarmEmail"

def permission (name : String) : String := name ++ "Permission"
def environment (name : String) : String := "StreambotEnv" ++ name
def topic (name : String) : String := name ++ "SNSTopic"
def topicUser (name : String) : String := name ++ "SNSUser"
def topicAccessKey (name : String) : String := name ++ "SNSUserAccessKey"
def eventRule (name : String) : String := name ++ "EventRule"
def scheduledRule (name : String) : String := name ++ "ScheduledRule"
def route (name : String) : String := name ++ "GatewayRuleResource"
def method (name : String) : String := name ++ "GatewayRuleMethod"
def alarm (name kind : String) : String := name ++ "Alarm" ++ kind

def topicSecret (name : String) : String := name ++ "SNSUserSecretAccessKey"
def endpoint (name : String) : String := name ++ "APIEndpoint"

end Key

structure Namer where
  packages : List String
  deriving DecidableEq, Repr

namespace Namer

def occurs (package modulePath : String) : Bool :=
  !package.isEmpty && Text.contains (Text.lowercase modulePath) (Text.lowercase package)

def package? (n : Namer) (modulePath : String) : Option String :=
  n.packages.find? (occurs · modulePath)

def namespaced (n : Namer) (name modulePath : String) : String :=
  match n.package? modulePath with
  | some package => alphanumericOnly package ++ name
  | none => name

end Namer
end RuleStack
