import RuleStack.Definition.RuleFile
import RuleStack.Stack
set_option autoImplicit false

namespace RuleStack.Rule

def whenDeclared (declared : Bool) (parts : List (String × Except RuleError Resource)) :
    Except RuleError (List (String × Resource)) :=
  if declared then parts.mapM (fun p => p.2.map (p.1, ·)) else .ok []

def bundleResources (r : Rule) (name runtime : String) :
    Except RuleError (List (String × Resource)) := do
  let core ← whenDeclared true [
    (name, r.function runtime),
    (Key.permission name, r.permission),
    (Key.environment name, r.environment)]
  let topic ← whenDeclared r.topic [
    (Key.topic name, r.topicResource),
    (Key.topicUser name, r.topicUser),
    (Key.topicAccessKey name, r.topicAccessKey)]
  let event ← whenDeclared r.event.isSome [(Key.eventRule name, r.eventTrigger .pattern)]
  let schedule ← whenDeclared r.schedule.isSome
    [(Key.scheduledRule name, r.eventTrigger .schedule)]
  let gateway ← whenDeclared r.gateway.isSome [
    (Key.route name, r.gatewayTrigger .route),
    (Key.method name, r.gatewayTrigger .method)]
  let alarms ← r.alarms
  .ok (core ++ topic ++ event ++ schedule ++ gateway ++ alarms)

/-- Builds everything that the rule contributes; the first thing wrong with it stops the build. -/
def bundle (r : Rule) (runtime : String) : Except RuleError Bundle := do
  let name ← r.requireName "rule bundle"
  let resources ← r.bundleResources name runtime
  let parameters ← r.namespacedParameters
  let policy ← r.policy
  let outputs ← r.outputs
  .ok ⟨name, parameters, resources, policy, outputs⟩

end RuleStack.Rule

namespace RuleStack

structure Compiler where
  namer : Namer
  runtime : String
  options : StackOptions
  deriving DecidableEq, Repr

inductive CompilerError where
  | definition (cause : DefinitionError)
  | rule (modulePath : String) (cause : RuleError)
  | stack (cause : StackError)
  deriving DecidableEq

def CompilerError.message : CompilerError → String
  | .definition cause => cause.message
  | .rule modulePath cause => "rule " ++ modulePath ++ ": " ++ cause.message
  | .stack cause => cause.message

namespace Compiler

def prepare (c : Compiler) (d : Definition) : Rule := d.prepared c.namer

def bundle (c : Compiler) (d : Definition) : Except CompilerError Bundle :=
  ((c.prepare d).bundle c.runtime).mapError (.rule d.modulePath)

def bundles (c : Compiler) (definitions : List Definition) : Except CompilerError (List Bundle) :=
  definitions.mapM c.bundle

def compile (c : Compiler) (base : Template) (definitions : List Definition) :
    Except CompilerError Template := do
  let bundles ← c.bundles definitions
  (c.options.compile base bundles).mapError .stack

def run (c : Compiler) (base : Template) (source : Except DefinitionError (List Definition)) :
    Except CompilerError Template := do
  let definitions ← source.mapError .definition
  c.compile base definitions

end Compiler
end RuleStack
