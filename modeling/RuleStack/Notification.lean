import RuleStack.Json.Printer
import RuleStack.Json.Record
import RuleStack.Key
set_option autoImplicit false

namespace RuleStack

abbrev Variables := List (String × String)

namespace Variables

/-- The value of the first variable whose name contains `part`, or nothing. -/
def valueOf (vars : Variables) (part : String) : String :=
  match vars.find? (fun v => Text.contains v.1 part) with
  | some v => v.2
  | none => ""

/-- The value of the first variable of this very name that has a value. -/
def named? (vars : Variables) (name : String) : Option String :=
  (vars.find? (fun v => v.1 == name && !v.2.isEmpty)).map (·.2)

end Variables

namespace Text

def commaParts (cs : List Char) : List (List Char) :=
  match cs with
  | [] => [[]]
  | ',' :: rest => [] :: commaParts rest
  | c :: rest =>
    match commaParts rest with
    | [] => [[c]]
    | first :: others => (c :: first) :: others

def trimAfterComma : List (List Char) → List (List Char)
  | [] => []
  | [last] => [trimStart last]
  | part :: rest => trimEnd (trimStart part) :: trimAfterComma rest

def trimAtCommas : List (List Char) → List (List Char)
  | [] => []
  | [part] => [part]
  | first :: rest => trimEnd first :: trimAfterComma rest

/-- The items of a list written with commas. White space next to a comma does not count, and empty
text is a list without items. -/
def commaList (value : Option String) : List String :=
  match value with
  | none => []
  | some value =>
    if value.isEmpty then []
    else (trimAtCommas (commaParts value.toList)).map String.ofList

end Text

structure Notification where
  subject : String
  summary : String
  event : Json
  deriving DecidableEq

structure PublishRequest where
  topic : String
  subject : String
  message : String
  deriving DecidableEq, Repr

inductive NotifyError where
  | noTopic
  deriving DecidableEq, Repr

def NotifyError.message : NotifyError → String
  | .noTopic => "notification topic variable " ++ Key.alarmTopic ++ " is not set"

namespace Notification

def record : Record Notification where
  name := "Notification"
  start := ⟨"", "", .null⟩
  fields := [
    .mandatory "subject" Json.readText (fun v s => { s with subject := v }),
    .mandatory "summary" Json.readText (fun v s => { s with summary := v }),
    .mandatory "event" .ok (fun v s => { s with event := v })]
  unlisted := .ignored

def ofJson (value : Json) : Except Mismatch Notification := record.read value

def body (n : Notification) : String := n.summary ++ "\n\n" ++ n.event.pretty

def request (n : Notification) (topic : String) : PublishRequest := ⟨topic, n.subject, n.body⟩

def requestFor (n : Notification) (vars : Variables) : Except NotifyError PublishRequest :=
  match vars.named? Key.alarmTopic with
  | some topic => .ok (n.request topic)
  | none => .error .noTopic

end Notification

def PublishRequest.toJson (r : PublishRequest) : Json :=
  .obj [("TopicArn", .str r.topic), ("Subject", .str r.subject), ("Message", .str r.message)]

structure Outbox where
  sent : List PublishRequest
  deriving DecidableEq, Repr

namespace Outbox

def empty : Outbox := ⟨[]⟩

def messageId (o : Outbox) : String := "recorded-" ++ String.ofList (natText o.sent.length)

def publish (o : Outbox) (request : PublishRequest) : Outbox := ⟨o.sent ++ [request]⟩

def notify (o : Outbox) (vars : Variables) (n : Notification) :
    Outbox × Except NotifyError String :=
  match n.requestFor vars with
  | .ok request => (o.publish request, .ok (o.publish request).messageId)
  | .error e => (o, .error e)

end Outbox
end RuleStack
