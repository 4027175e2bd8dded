import RuleStack.Template
set_option autoImplicit false

namespace RuleStack

structure Handler where
  /-- The name under which the code is looked up, which is the key of the function. -/
  name : String
  entryPoint : Option String
  sourcePath : String
  deriving DecidableEq, Repr

namespace Resource

def sourcePath? (r : Resource) : Option String :=
  (r.metadata.bind (Json.member? "sourcePath")).bind Json.asText?

def entryPoint? (r : Resource) : Option String :=
  (r.properties.get? "Handler").bind Json.asText?

def handler? (key : String) (r : Resource) : Option Handler :=
  if r.isFunction then r.sourcePath?.map (⟨key, r.entryPoint?, ·⟩) else none

end Resource

def Template.handlers (t : Template) : List Handler :=
  t.resources.entries.filterMap (fun e => e.2.handler? e.1)

def Handler.toJson (h : Handler) : Json :=
  .obj ([("export", .str h.name)] ++ Json.optionalMember "handler" (h.entryPoint.map .str) ++
    [("sourcePath", .str h.sourcePath)])

def Handler.listToJson (handlers : List Handler) : Json := .arr (handlers.map Handler.toJson)

end RuleStack
