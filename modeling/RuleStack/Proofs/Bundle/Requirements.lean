import RuleStack.Proofs.Bundle.Build
import RuleStack.Proofs.Rule.Requirement
import RuleStack.Proofs.Text.Blank
/-!
A build goes through many steps, some of which look at the same thing twice. It fails all the same
just where the first of the requirements that is not met says so (`Rule.bundle_checks`).
-/
set_option autoImplicit false

namespace RuleStack

open Requirement

/-- The part says something: it is there, and it is not null, a blank text, an empty list or an
empty object. -/
def Filled (part : Option Json) : Prop :=
  ∃ value ∈ part, value ≠ .null ∧ (∀ s, value = .str s → Text.trim s ≠ "") ∧ value ≠ .arr [] ∧
    value ≠ .obj []

theorem isVoid_eq_false_iff (value : Json) :
    value.isVoid = false ↔ value ≠ .null ∧ (∀ s, value = .str s → Text.trim s ≠ "") ∧
      value ≠ .arr [] ∧ value ≠ .obj [] := by
  cases value <;> simp [Json.isVoid, Text.trim_eq_empty_iff]

theorem filled_some_iff (value : Json) : Filled (some value) ↔ value.isVoid = false := by
  simp only [Filled, isVoid_eq_false_iff, Option.mem_some_iff, exists_eq_left']

theorem not_present_iff (part : Option Json) :
    (!Statement.present part) = true ↔ ¬ Filled part := by
  cases part with
  | none => simp [Statement.present, Filled]
  | some value => simp [Statement.present, filled_some_iff]

def Given (text : Option String) : Prop := ∃ s ∈ text, s ≠ ""

theorem lacks_iff (text : Option String) : Parameter.lacks text = true ↔ ¬ Given text := by
  cases text <;> simp [Parameter.lacks, Given]

def Parameter.requirements (key : String) (p : Parameter) : List Requirement := [
  ⟨Given p.kind, .missing ("parameter " ++ key) "Type"⟩,
  ⟨Given p.description, .missing ("parameter " ++ key) "Description"⟩]

theorem Parameter.met_iff (key : String) (p : Parameter) :
    (∀ q ∈ p.requirements key, q.met) ↔ Given p.kind ∧ Given p.description := by
  simp [Parameter.requirements]

def Statement.requirements (s : Statement) : List Requirement := [
  ⟨Filled s.effect, .missing "statement" "Effect"⟩,
  ⟨Filled s.resource ∨ Filled s.notResource, .missing "statement" "Resource or NotResource"⟩,
  ⟨Filled s.action ∨ Filled s.notAction, .missing "statement" "Action or NotAction"⟩]

theorem Statement.met_iff (s : Statement) :
    (∀ q ∈ s.requirements, q.met) ↔ Filled s.effect ∧
      (Filled s.resource ∨ Filled s.notResource) ∧ (Filled s.action ∨ Filled s.notAction) := by
  simp [Statement.requirements]

def EventTrigger.requirements (e : EventTrigger) : List Requirement := [
  ⟨e.pattern ≠ none ∧ e.pattern ≠ some .null, .missing "eventRule" "eventPattern"⟩,
  ⟨Filled e.pattern, .empty "eventPattern"⟩]

theorem EventTrigger.met_iff (e : EventTrigger) :
    (∀ q ∈ e.requirements, q.met) ↔ Filled e.pattern := by
  rw [requirements, List.forall_mem_cons, List.forall_mem_singleton, and_iff_right_iff_imp]
  rintro ⟨value, hvalue, hnull, -⟩
  rw [Option.mem_def.1 hvalue]
  exact ⟨Option.some_ne_none value, fun h => hnull (Option.some.inj h)⟩

def scheduleRequirements (expression : String) : List Requirement := [
  ⟨Text.trim expression ≠ "", .empty "scheduledRule"⟩]

theorem schedule_met_iff (expression : String) :
    (∀ q ∈ scheduleRequirements expression, q.met) ↔ Text.trim expression ≠ "" :=
  List.forall_mem_singleton

def IsVerb (method : String) : Prop :=
  method.toUpper ∈ ["GET", "HEAD", "PUT", "PATCH", "OPTIONS", "POST", "DELETE"]

def GatewayTrigger.requirements (g : GatewayTrigger) : List Requirement :=
  ⟨g.method ≠ none, .missing "gatewayRule" "method"⟩ ::
    g.method.toList.map fun method => ⟨IsVerb method, .unknownVerb method⟩

theorem GatewayTrigger.met_iff (g : GatewayTrigger) :
    (∀ q ∈ g.requirements, q.met) ↔ ∃ method ∈ g.method, IsVerb method := by
  rw [requirements]
  cases g.method <;> simp

namespace Rule

def nameRequirement (r : Rule) : Requirement :=
  ⟨∃ name ∈ r.name, Text.trim name ≠ "", .unnamed "rule bundle"⟩

def parameterRequirements (r : Rule) : List Requirement :=
  r.parameters.entries.flatMap fun e => e.2.requirements e.1

def triggerRequirements (r : Rule) : List Requirement :=
  r.event.toList.flatMap EventTrigger.requirements ++
    (r.schedule.toList.flatMap scheduleRequirements ++
      r.gateway.toList.flatMap GatewayTrigger.requirements)

def statementRequirements (r : Rule) : List Requirement :=
  r.statements.toList.flatten.flatMap Statement.requirements

/-- Everything that a build asks of a rule, in the order in which it does. -/
def requirements (r : Rule) : List Requirement :=
  r.nameRequirement :: (r.parameterRequirements ++ r.triggerRequirements ++
    r.statementRequirements)

end Rule

theorem Parameter.checks (key : String) (p : Parameter) :
    Checks (p.check key) (p.requirements key) :=
  .guard (lacks_iff p.kind) <| .guard (lacks_iff p.description) <| .pure ()

theorem Statement.checks (s : Statement) : Checks s.check s.requirements := by
  have hor (a b : Option Json) :
      (!(Statement.present a || Statement.present b)) = true ↔ ¬ (Filled a ∨ Filled b) := by
    rw [Bool.not_or, Bool.and_eq_true, not_present_iff, not_present_iff, not_or]
  exact .guard (not_present_iff s.effect) <| .guard (hor _ _) <| .guard (hor _ _) <| .pure ()

namespace Rule

theorem usableName?_ne_none_iff (r : Rule) :
    r.usableName? ≠ none ↔ ∃ name ∈ r.name, Text.trim name ≠ "" := by
  simp [usableName?, Option.filter_eq_none_iff, Text.trim_eq_empty_iff]

theorem requireName_checks (r : Rule) :
    Checks (r.requireName "rule bundle") [r.nameRequirement] := by
  rw [requireName]
  cases hname : r.usableName? with
  | none => exact .unmet (fun h => r.usableName?_ne_none_iff.2 h hname) []
  | some name => exact .met (r.usableName?_ne_none_iff.1 (by simp [hname])) (.pure name)

theorem eventPattern_checks {r : Rule} {e : EventTrigger} (h : r.event = some e) :
    Checks r.eventPattern e.requirements := by
  rw [eventPattern, h, Option.bind_some, EventTrigger.requirements]
  split
  · rename_i hpattern
    exact .unmet (fun hmet => hmet.1 hpattern) _
  · rename_i hpattern
    exact .unmet (fun hmet => hmet.2 hpattern) _
  · rename_i pattern hnull hpattern
    refine .met ?_ (.guard ?_ (.pure _))
    · rw [hpattern]
      exact ⟨Option.some_ne_none _, fun h => hnull (Option.some.inj h)⟩
    · rw [hpattern, filled_some_iff, Bool.not_eq_false]

theorem scheduleExpression_checks {r : Rule} {expression : String}
    (h : r.schedule = some expression) :
    Checks r.scheduleExpression (scheduleRequirements expression) := by
  rw [scheduleExpression, h]
  exact .guard (by simp [Text.trim_eq_empty_iff]) (.pure _)

theorem isVerb_iff (method : String) :
    IsVerb method ↔ ∃ v ∈ Verb.all, v.label.toList = method.toList.map Char.toUpper := by
  have hupper : method.toUpper.toList = method.toList.map Char.toUpper := String.toList_map ..
  have hverbs : ["GET", "HEAD", "PUT", "PATCH", "OPTIONS", "POST", "DELETE"] =
      Verb.all.map Verb.label := rfl
  rw [IsVerb, hverbs, List.mem_map, ← hupper]
  simp only [String.toList_inj]

theorem verb_checks (g : GatewayTrigger) : Checks (verb g) g.requirements := by
  rw [verb, GatewayTrigger.requirements]
  cases hmethod : g.method with
  | none => exact .unmet (by simp) _
  | some method =>
    refine .met (by simp) ?_
    simp only [Verb.parse, Option.toList_some, List.map_singleton]
    split
    · rename_i verb hverb
      have hlabel := List.find?_some hverb
      refine .met ((isVerb_iff method).2 ⟨verb, List.mem_of_find?_eq_some hverb, ?_⟩) (.pure verb)
      exact eq_of_beq hlabel
    · rename_i hverb
      refine .unmet (fun h => ?_) []
      obtain ⟨verb, hall, hlabel⟩ := (isVerb_iff method).1 h
      exact List.find?_eq_none.1 hverb verb hall (beq_iff_eq.2 hlabel)

theorem parts_nil_checks : Checks (whenDeclared true []) [] := .pure []

theorem parts_cons_checks {key : String} {x : Except RuleError Resource}
    {rest : List (String × Except RuleError Resource)} {ps qs : List Requirement}
    (hx : Checks x ps) (hrest : ∀ a, x = .ok a → Checks (whenDeclared true rest) qs) :
    Checks (whenDeclared true ((key, x) :: rest)) (ps ++ qs) := by
  have hsteps : whenDeclared true ((key, x) :: rest) =
      x >>= fun a => (whenDeclared true rest).map ((key, a) :: ·) := by
    simp only [whenDeclared, if_true, List.mapM_cons]
    cases x <;> rfl
  rw [hsteps]
  exact hx.bind fun a ha => (hrest a ha).map _

theorem declared_checks {α : Type} {trigger : Option α}
    {parts : List (String × Except RuleError Resource)} {requirements : α → List Requirement}
    (h : ∀ a, trigger = some a → Checks (whenDeclared true parts) (requirements a)) :
    Checks (whenDeclared trigger.isSome parts) (trigger.toList.flatMap requirements) := by
  cases trigger with
  | none => exact .pure []
  | some a => simpa using h a rfl

section Named

variable {r : Rule} {name : String} (h : r.usableName? = some name)
include h

theorem namespacedParameters_checks : Checks r.namespacedParameters r.parameterRequirements := by
  rw [namespacedParameters, requireName_of_usable h]
  exact (Checks.forM (fun e => Parameter.checks e.1 e.2) r.parameters.entries).map _

theorem core_checks (runtime : String) :
    Checks (whenDeclared true [
        (name, r.function runtime),
        (Key.permission name, r.permission),
        (Key.environment name, r.environment)]) r.parameterRequirements := by
  have henvironment : Checks r.environment r.parameterRequirements := by
    rw [environment, requireName_of_usable h]
    exact (namespacedParameters_checks h).map _
  have hfunction : Checks (r.function runtime) [] := by
    rw [function, requireName_of_usable h]
    exact .pure _
  have hpermission : Checks r.permission [] := by
    rw [permission, requireName_of_usable h]
    exact .pure _
  simpa using parts_cons_checks hfunction fun _ _ => parts_cons_checks hpermission fun _ _ =>
    parts_cons_checks henvironment fun _ _ => parts_nil_checks

theorem event_checks :
    Checks (whenDeclared r.event.isSome [(Key.eventRule name, r.eventTrigger .pattern)])
      (r.event.toList.flatMap EventTrigger.requirements) := by
  refine declared_checks fun e he => ?_
  have htrigger : Checks (r.eventTrigger .pattern) e.requirements := by
    rw [eventTrigger, requireName_of_usable h]
    exact (eventPattern_checks he).map _
  simpa using parts_cons_checks htrigger fun _ _ => parts_nil_checks

theorem schedule_checks :
    Checks (whenDeclared r.schedule.isSome [(Key.scheduledRule name, r.eventTrigger .schedule)])
      (r.schedule.toList.flatMap scheduleRequirements) := by
  refine declared_checks fun expression he => ?_
  have htrigger : Checks (r.eventTrigger .schedule) (scheduleRequirements expression) := by
    rw [eventTrigger, requireName_of_usable h]
    exact (scheduleExpression_checks he).map _
  simpa using parts_cons_checks htrigger fun _ _ => parts_nil_checks

/-- The verb is looked at for the route, and again for the method. -/
theorem gateway_checks :
    Checks (whenDeclared r.gateway.isSome [
        (Key.route name, r.gatewayTrigger .route),
        (Key.method name, r.gatewayTrigger .method)])
      (r.gateway.toList.flatMap GatewayTrigger.requirements) := by
  refine declared_checks fun g hg => ?_
  have htrigger (part : GatewayPart) : Checks (r.gatewayTrigger part) g.requirements := by
    rw [gatewayTrigger, requireName_of_usable h, hg]
    cases part with
    | route => exact (verb_checks g).map _
    | method => exact (verb_checks g).map _
  simpa using parts_cons_checks (htrigger .route) fun _ hroute =>
    parts_cons_checks ((htrigger .method).again ((htrigger .route).ok _ hroute)) fun _ _ =>
      parts_nil_checks

theorem bundleResources_checks (runtime : String) :
    Checks (r.bundleResources name runtime) (r.parameterRequirements ++ r.triggerRequirements) := by
  have hsteps : r.bundleResources name runtime =
      whenDeclared true [
          (name, r.function runtime),
          (Key.permission name, r.permission),
          (Key.environment name, r.environment)] >>= fun core =>
        whenDeclared r.event.isSome [(Key.eventRule name, r.eventTrigger .pattern)] >>= fun event =>
        whenDeclared r.schedule.isSome
          [(Key.scheduledRule name, r.eventTrigger .schedule)] >>= fun schedule =>
        whenDeclared r.gateway.isSome [
          (Key.route name, r.gatewayTrigger .route),
          (Key.method name, r.gatewayTrigger .method)] >>= fun gateway =>
        .ok (core ++ r.topicPartsOf name ++ event ++ schedule ++ gateway ++ alarmsOf name) := by
    rw [bundleResources, topicParts_eq h, alarms, requireName_of_usable h]
    rfl
  rw [hsteps]
  exact (core_checks h runtime).bind fun _ _ => (event_checks h).bind fun _ _ =>
    (schedule_checks h).bind fun _ _ => (gateway_checks h).bind_nil fun _ _ => .pure _

theorem policy_checks : Checks r.policy r.statementRequirements := by
  rw [policy, statementRequirements]
  cases r.statements with
  | none => exact .pure none
  | some statements =>
    simp only [requireName_of_usable h, Option.toList_some, List.flatten_singleton]
    exact (Checks.forM Statement.checks statements).bind_nil fun _ _ => .pure _

theorem outputs_checks : Checks r.outputs [] := by
  rw [outputs, requireName_of_usable h]
  exact .pure _

end Named

/-- The parameters are looked at for the environment, and again for themselves. -/
theorem bundle_checks (r : Rule) (runtime : String) :
    Checks (r.bundle runtime) r.requirements := by
  refine r.requireName_checks.bind fun name hname => ?_
  have h : r.usableName? = some name := (r.requireName_eq_ok_iff _ name).1 hname
  refine (bundleResources_checks h runtime).bind fun resources hresources => ?_
  have hmet := (bundleResources_checks h runtime).ok resources hresources
  have hparameters : Checks r.namespacedParameters [] :=
    (namespacedParameters_checks h).again (List.forall_mem_append.1 hmet).1
  exact hparameters.bind fun _ _ => (policy_checks h).bind_nil fun _ _ =>
    (outputs_checks h).bind_nil fun _ _ => .pure _

structure Acceptable (r : Rule) : Prop where
  name : ∃ name ∈ r.name, Text.trim name ≠ ""
  parameters : ∀ e ∈ r.parameters.entries, Given e.2.kind ∧ Given e.2.description
  event : ∀ e ∈ r.event, Filled e.pattern
  schedule : ∀ expression ∈ r.schedule, Text.trim expression ≠ ""
  gateway : ∀ g ∈ r.gateway, ∃ method ∈ g.method, IsVerb method
  statements : ∀ statements ∈ r.statements, ∀ s ∈ statements,
    Filled s.effect ∧ (Filled s.resource ∨ Filled s.notResource) ∧
      (Filled s.action ∨ Filled s.notAction)

theorem acceptable_iff (r : Rule) : r.Acceptable ↔ ∀ q ∈ r.requirements, q.met := by
  simp only [requirements, nameRequirement, parameterRequirements, triggerRequirements,
    statementRequirements, List.forall_mem_cons, List.forall_mem_append, List.forall_mem_flatMap,
    List.forall_mem_flatten, Option.mem_toList, Parameter.met_iff, Statement.met_iff,
    EventTrigger.met_iff, schedule_met_iff, GatewayTrigger.met_iff]
  constructor
  · rintro ⟨hname, hparameters, hevent, hschedule, hgateway, hstatements⟩
    exact ⟨hname, ⟨hparameters, hevent, hschedule, hgateway⟩, hstatements⟩
  · rintro ⟨hname, ⟨hparameters, hevent, hschedule, hgateway⟩, hstatements⟩
    exact ⟨hname, hparameters, hevent, hschedule, hgateway, hstatements⟩

/-- A rule builds just if it is acceptable, and the error of one that is not comes from the first of
the requirements that it does not meet. -/
theorem bundle_acceptance (r : Rule) (runtime : String) :
    ((∃ b, r.bundle runtime = .ok b) ↔ r.Acceptable) ∧
      ∀ e, r.bundle runtime = .error e ↔ FirstUnmet r.requirements e := by
  have hchecks := r.bundle_checks runtime
  exact ⟨hchecks.exists_ok_iff.trans r.acceptable_iff.symm, hchecks.error_iff⟩

/-- A schedule comes before a verb. -/
example : ({ empty with
    name := some "audit", schedule := some " ",
    gateway := some ⟨some "FETCH", false, none, none⟩ } : Rule).bundle "nodejs" =
      .error (.empty "scheduledRule") := by
  rfl

end Rule
end RuleStack
