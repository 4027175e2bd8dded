import RuleStack.Compiler
import RuleStack.Proofs.Outcome
set_option autoImplicit false

namespace RuleStack.Rule

open Outcome

/-- Nothing is wrong with the rule, its name aside. -/
structure Complete (r : Rule) : Prop where
  parameters : ∀ e ∈ r.parameters.entries, e.2.check e.1 = .ok ()
  statements : ∀ ss ∈ r.statements, ∀ s ∈ ss, s.check = .ok ()
  event : r.event.isSome = true → ∃ v, r.eventPattern = .ok v
  schedule : r.schedule.isSome = true → ∃ v, r.scheduleExpression = .ok v
  gateway : ∀ g ∈ r.gateway, ∃ v, verb g = .ok v

def parametersOf (r : Rule) (name : String) : List (String × Parameter) :=
  r.parameters.entries.map fun e => (parameterKey name e.1, e.2)

def environmentOf (r : Rule) (name : String) : Resource :=
  { Resource.make Resource.environmentKind [] with
    properties := bindings name ((r.parametersOf name).map (·.1)) }

def coreOf (r : Rule) (name runtime : String) : List (String × Resource) := [
  (name, r.functionOf name runtime),
  (Key.permission name, r.permissionOf name),
  (Key.environment name, r.environmentOf name)]

def topicPartsOf (r : Rule) (name : String) : List (String × Resource) :=
  if r.topic then [
    (Key.topic name, topicOf name),
    (Key.topicUser name, topicUserOf name),
    (Key.topicAccessKey name, topicAccessKeyOf name)]
  else []

def patternPartsOf (r : Rule) (name : String) : List (String × Resource) :=
  r.eventPattern.toOption.toList.map fun v =>
    (Key.eventRule name, eventRuleOf name "EventPattern" v)

def schedulePartsOf (r : Rule) (name : String) : List (String × Resource) :=
  r.scheduleExpression.toOption.toList.map fun v =>
    (Key.scheduledRule name, eventRuleOf name "ScheduleExpression" v)

def gatewayPartsOf (r : Rule) (name : String) : List (String × Resource) :=
  r.gateway.toList.flatMap fun g => (verb g).toOption.toList.flatMap fun v =>
    [(Key.route name, routeOf name), (Key.method name, methodOf name g v)]

def resourcesOf (r : Rule) (name runtime : String) : List (String × Resource) :=
  r.coreOf name runtime ++ r.topicPartsOf name ++ r.patternPartsOf name ++
    r.schedulePartsOf name ++ r.gatewayPartsOf name ++ alarmsOf name

def policyOf (r : Rule) (name : String) : Option Policy :=
  r.statements.map fun ss => ⟨name, ⟨none, ss⟩⟩

def bundleOf (r : Rule) (name runtime : String) : Bundle :=
  ⟨name, r.parametersOf name, r.resourcesOf name runtime, r.policyOf name, r.outputsOf name⟩

theorem requireName_eq_ok_iff (r : Rule) (part name : String) :
    r.requireName part = .ok name ↔ r.usableName? = some name := by
  rw [requireName]
  cases r.usableName? <;> simp

theorem whenDeclared_map (declared : Bool) (own : List (String × Resource)) :
    whenDeclared declared (own.map fun e => (e.1, .ok e.2)) =
      .ok (if declared then own else []) := by
  rw [whenDeclared]
  cases declared with
  | false => rfl
  | true => simp [mapM_eq_ok_iff, Except.map]

theorem exists_of_whenDeclared {parts : List (String × Except RuleError Resource)}
    {es : List (String × Resource)} (h : whenDeclared true parts = .ok es) :
    ∀ p ∈ parts, ∃ v, p.2 = .ok v := by
  rw [whenDeclared, if_pos rfl, mapM_eq_ok_iff] at h
  intro p hp
  have hmem := List.mem_map_of_mem (f := fun p => p.2.map (p.1, ·)) hp
  rw [h] at hmem
  obtain ⟨e, -, he⟩ := List.mem_map.1 hmem
  obtain ⟨v, hv, -⟩ := (map_eq_ok_iff _ _ _).1 he.symm
  exact ⟨v, hv⟩

section Named

variable {r : Rule} {name : String} (h : r.usableName? = some name)
include h

theorem requireName_of_usable (part : String) : r.requireName part = .ok name :=
  (r.requireName_eq_ok_iff part name).2 h

theorem namespacedParameters_eq_ok_iff (ps : List (String × Parameter)) :
    r.namespacedParameters = .ok ps ↔
      (∀ e ∈ r.parameters.entries, e.2.check e.1 = .ok ()) ∧ r.parametersOf name = ps := by
  simp only [namespacedParameters, bind_eq_ok_iff, requireName_of_usable h, Except.ok.injEq,
    exists_eq_left', exists_and_right, exists_unit_eq_ok_iff]
  rw [List.forM_eq_forM, forM_eq_ok_iff]
  rfl

theorem policy_eq_ok_iff (p : Option Policy) :
    r.policy = .ok p ↔
      (∀ ss ∈ r.statements, ∀ s ∈ ss, s.check = .ok ()) ∧ r.policyOf name = p := by
  rw [policy, policyOf]
  cases r.statements with
  | none => simp
  | some ss =>
    simp only [bind_eq_ok_iff, requireName_of_usable h, Except.ok.injEq, exists_eq_left',
      exists_and_right, exists_unit_eq_ok_iff, Option.mem_def, Option.some.injEq, forall_eq',
      Option.map_some]
    rw [List.forM_eq_forM, forM_eq_ok_iff]

theorem environment_eq_ok_iff (e : Resource) :
    r.environment = .ok e ↔
      (∀ e ∈ r.parameters.entries, e.2.check e.1 = .ok ()) ∧ r.environmentOf name = e := by
  simp only [environment, bind_eq_ok_iff, requireName_of_usable h, Except.ok.injEq,
    exists_eq_left', namespacedParameters_eq_ok_iff h, and_assoc]
  constructor
  · rintro ⟨ps, hchecks, rfl, he⟩
    exact ⟨hchecks, he⟩
  · rintro ⟨hchecks, he⟩
    exact ⟨_, hchecks, rfl, he⟩

theorem core_eq_ok_iff (runtime : String) (es : List (String × Resource)) :
    whenDeclared true [
        (name, r.function runtime),
        (Key.permission name, r.permission),
        (Key.environment name, r.environment)] = .ok es ↔
      (∀ e ∈ r.parameters.entries, e.2.check e.1 = .ok ()) ∧ r.coreOf name runtime = es := by
  have hfunction : r.function runtime = .ok (r.functionOf name runtime) := by
    rw [function, requireName_of_usable h]
    rfl
  have hpermission : r.permission = .ok (r.permissionOf name) := by
    rw [permission, requireName_of_usable h]
    rfl
  rw [hfunction, hpermission]
  have hbuilt := whenDeclared_map true (r.coreOf name runtime)
  constructor
  · intro hes
    obtain ⟨e, he⟩ := exists_of_whenDeclared hes (Key.environment name, r.environment) (by simp)
    obtain ⟨hchecks, rfl⟩ := (environment_eq_ok_iff h e).1 he
    rw [show r.environment = _ from he] at hes
    exact ⟨hchecks, Except.ok.inj (hbuilt.symm.trans hes)⟩
  · rintro ⟨hchecks, rfl⟩
    rw [(environment_eq_ok_iff h _).2 ⟨hchecks, rfl⟩]
    exact hbuilt

theorem topicParts_eq :
    whenDeclared r.topic [
        (Key.topic name, r.topicResource),
        (Key.topicUser name, r.topicUser),
        (Key.topicAccessKey name, r.topicAccessKey)] = .ok (r.topicPartsOf name) := by
  simp only [topicResource, topicUser, topicAccessKey, requireName_of_usable h, Except.map]
  exact whenDeclared_map r.topic [
    (Key.topic name, topicOf name),
    (Key.topicUser name, topicUserOf name),
    (Key.topicAccessKey name, topicAccessKeyOf name)]

theorem gatewayParts_eq_ok_iff (es : List (String × Resource)) :
    whenDeclared r.gateway.isSome [
        (Key.route name, r.gatewayTrigger .route),
        (Key.method name, r.gatewayTrigger .method)] = .ok es ↔
      (∀ g ∈ r.gateway, ∃ v, verb g = .ok v) ∧ r.gatewayPartsOf name = es := by
  simp only [gatewayTrigger, requireName_of_usable h, bind, Except.bind, gatewayPartsOf]
  cases r.gateway with
  | none => simp [whenDeclared]
  | some g =>
    simp only [Option.mem_def, Option.some.injEq, forall_eq', Option.isSome_some,
      Option.toList_some, List.flatMap_singleton]
    cases verb g with
    | ok v =>
      have hbuilt := whenDeclared_map true
        [(Key.route name, routeOf name), (Key.method name, methodOf name g v)]
      exact (iff_of_eq (congrArg (· = Except.ok es) hbuilt)).trans (by simp [Except.toOption])
    | error e =>
      constructor
      · intro hes
        obtain ⟨v, hv⟩ := exists_of_whenDeclared hes _ List.mem_cons_self
        cases hv
      · rintro ⟨⟨v, hv⟩, -⟩
        cases hv

omit h in
theorem triggerParts_eq_ok_iff {declared : Bool} {value : Except RuleError Json}
    (hdeclared : ∀ v, value = .ok v → declared = true) (key : String) (build : Json → Resource)
    (es : List (String × Resource)) :
    whenDeclared declared [(key, value.map build)] = .ok es ↔
      (declared = true → ∃ v, value = .ok v) ∧
        (value.toOption.toList.map fun v => (key, build v)) = es := by
  cases value with
  | ok v =>
    have hbuilt := whenDeclared_map true [(key, build v)]
    rw [hdeclared v rfl]
    exact (iff_of_eq (congrArg (· = Except.ok es) hbuilt)).trans (by simp [Except.toOption])
  | error e =>
    cases declared with
    | false => simp [whenDeclared, Except.toOption]
    | true =>
      constructor
      · intro hes
        obtain ⟨v, hv⟩ := exists_of_whenDeclared hes _ List.mem_cons_self
        cases hv
      · rintro ⟨hv, -⟩
        obtain ⟨v, hv⟩ := hv rfl
        cases hv

theorem patternParts_eq_ok_iff (es : List (String × Resource)) :
    whenDeclared r.event.isSome [(Key.eventRule name, r.eventTrigger .pattern)] = .ok es ↔
      (r.event.isSome = true → ∃ v, r.eventPattern = .ok v) ∧ r.patternPartsOf name = es := by
  have htrigger : r.eventTrigger .pattern =
      r.eventPattern.map (eventRuleOf name "EventPattern") := by
    rw [eventTrigger, requireName_of_usable h]
    cases r.eventPattern <;> rfl
  rw [htrigger]
  refine triggerParts_eq_ok_iff (fun v hv => ?_) _ _ es
  cases hevent : r.event with
  | none => simp [eventPattern, hevent] at hv
  | some e => rfl

theorem scheduleParts_eq_ok_iff (es : List (String × Resource)) :
    whenDeclared r.schedule.isSome [(Key.scheduledRule name, r.eventTrigger .schedule)] = .ok es ↔
      (r.schedule.isSome = true → ∃ v, r.scheduleExpression = .ok v) ∧
        r.schedulePartsOf name = es := by
  have htrigger : r.eventTrigger .schedule =
      r.scheduleExpression.map (eventRuleOf name "ScheduleExpression") := by
    rw [eventTrigger, requireName_of_usable h]
    cases r.scheduleExpression <;> rfl
  rw [htrigger]
  refine triggerParts_eq_ok_iff (fun v hv => ?_) _ _ es
  cases hschedule : r.schedule with
  | none => simp [scheduleExpression, hschedule] at hv
  | some e => rfl

theorem bundleResources_eq_ok_iff (runtime : String) (es : List (String × Resource)) :
    r.bundleResources name runtime = .ok es ↔
      (∀ e ∈ r.parameters.entries, e.2.check e.1 = .ok ()) ∧
      (r.event.isSome = true → ∃ v, r.eventPattern = .ok v) ∧
      (r.schedule.isSome = true → ∃ v, r.scheduleExpression = .ok v) ∧
      (∀ g ∈ r.gateway, ∃ v, verb g = .ok v) ∧ r.resourcesOf name runtime = es := by
  simp only [bundleResources, bind_eq_ok_iff, core_eq_ok_iff h, topicParts_eq h,
    patternParts_eq_ok_iff h, scheduleParts_eq_ok_iff h, gatewayParts_eq_ok_iff h, alarms,
    requireName_of_usable h, Except.map, Except.ok.injEq, exists_eq_left']
  constructor
  · rintro ⟨_, ⟨hparameters, rfl⟩, _, ⟨hevent, rfl⟩, _, ⟨hschedule, rfl⟩, _, ⟨hgateway, rfl⟩, hes⟩
    exact ⟨hparameters, hevent, hschedule, hgateway, hes⟩
  · rintro ⟨hparameters, hevent, hschedule, hgateway, hes⟩
    exact ⟨_, ⟨hparameters, rfl⟩, _, ⟨hevent, rfl⟩, _, ⟨hschedule, rfl⟩, _, ⟨hgateway, rfl⟩, hes⟩

end Named

/-- A rule with a usable name builds exactly when nothing else is wrong with it. -/
theorem bundle_eq_ok_iff (r : Rule) (runtime : String) (b : Bundle) :
    r.bundle runtime = .ok b ↔
      ∃ name, r.usableName? = some name ∧ r.Complete ∧ r.bundleOf name runtime = b := by
  simp only [bundle, bind_eq_ok_iff, requireName_eq_ok_iff, Except.ok.injEq]
  refine exists_congr fun name => and_congr_right fun h => ?_
  simp only [bundleResources_eq_ok_iff h, namespacedParameters_eq_ok_iff h, policy_eq_ok_iff h,
    outputs, requireName_of_usable h, Except.map, Except.ok.injEq, exists_eq_left']
  constructor
  · rintro ⟨_, ⟨hparameters, hevent, hschedule, hgateway, rfl⟩, _, ⟨-, rfl⟩, _,
      ⟨hstatements, rfl⟩, hb⟩
    exact ⟨⟨hparameters, hstatements, hevent, hschedule, hgateway⟩, hb⟩
  · rintro ⟨hcomplete, hb⟩
    exact ⟨_, ⟨hcomplete.parameters, hcomplete.event, hcomplete.schedule, hcomplete.gateway, rfl⟩,
      _, ⟨hcomplete.parameters, rfl⟩, _, ⟨hcomplete.statements, rfl⟩, hb⟩

end RuleStack.Rule
