import RuleStack.Proofs.Fragment.References
import RuleStack.Proofs.Stack.Acceptance
/-!
Every resource has a rank by its type (`Resource.rank`), and a resource that a stack adds refers to
lower ranks and to parameters only (`answers_resourcesOf`).
-/
set_option autoImplicit false

namespace RuleStack

def Bundle.stackResources (deploymentKey : String) (bundles : List Bundle) :
    List (String × Resource) :=
  gatewayFor deploymentKey (allResources bundles) ++ allResources bundles ++
    finalResources deploymentKey bundles

/-- The template extends the base template by what a stack of these bundles adds. -/
structure StackOver (base : Template) (bundles : List Bundle) (deploymentKey : String)
    (t : Template) : Prop where
  resources : base.Extends (Bundle.stackResources deploymentKey bundles) t
  globals : ∀ key ∈ StackOptions.globalKeys, key ∈ t.parameters.keys
  parameters : ∀ key ∈ Bundle.parameterKeys bundles, key ∈ t.parameters.keys
  outputs : ∀ e ∈ t.outputs.entries, e ∈ base.outputs.entries ∨
    e ∈ gatewayOutputFor (Bundle.allResources bundles) ++ Bundle.allOutputs bundles

namespace StackOptions

variable {o : StackOptions} {base : Template} {bundles : List Bundle} {deploymentKey : String}
  {a : Assembly}

theorem mem_parameters_of_collected (h : Collected (o.seed base) deploymentKey bundles a)
    (key : String) :
    key ∈ a.finished.parameters.keys ↔
      (key ∈ base.parameters.keys ∨ key ∈ globalKeys) ∨ key ∈ Bundle.parameterKeys bundles := by
  rw [← o.mem_seed_parameters_iff, Bundle.parameterKeys, ← Bundle.parameters_allParts,
    ← List.mem_append]
  exact h.holds.mem_parameter_keys_iff key

theorem mem_resources_of_collected (h : Collected (o.seed base) deploymentKey bundles a)
    (key : String) :
    key ∈ a.finished.resources.keys ↔ key ∈ base.resources.keys ∨
      key ∈ (Bundle.stackResources deploymentKey bundles).map (·.1) := by
  rw [a.resources_finished, KeyMap.mem_keys_insertAll, h.holds.mem_resource_keys_iff,
    Bundle.resources_allParts, h.finalResources_eq, Bundle.stackResources, List.map_append,
    List.map_append, map_fst_gatewayFor, List.append_assoc, List.mem_append, or_assoc,
    ← List.mem_append]
  rfl

theorem stackOver_of_collected (h : Collected (o.seed base) deploymentKey bundles a)
    (hfree : a.hasGateway = true → a.taken a.deploymentKey = false) :
    StackOver base bundles deploymentKey a.finished := by
  have hparts := h.holds.resources
  have houtputs := h.holds.outputs
  rw [Bundle.resources_allParts] at hparts
  rw [Bundle.resources_allParts, Bundle.outputs_allParts] at houtputs
  have hmem (e : String × Resource) := a.template.resources.mem_insertAll_iff
    (Assembly.nodup_finalResources hfree) e
  have hparameters := mem_parameters_of_collected h
  refine ⟨⟨fun key hkey => (hparameters key).2 (.inl (.inl hkey)),
      fun key hkey => (mem_resources_of_collected h key).2 (.inl hkey), ?_, ?_⟩,
    fun key hkey => (hparameters key).2 (.inl (.inr hkey)),
    fun key hkey => (hparameters key).2 (.inr hkey), fun e he => ?_⟩
  · intro e he
    rw [a.resources_finished, hmem]
    rw [Bundle.stackResources, ← h.finalResources_eq, List.mem_append] at he
    refine he.imp_left fun he => ?_
    have hentry : e ∈ a.template.resources.entries := by
      rw [hparts.mem_iff, List.append_assoc]
      exact List.mem_append_right _ he
    rw [← Bundle.resources_allParts] at he
    exact ⟨hentry, Assembly.not_mem_finalResources hfree (KeyMap.mem_keys_of_mem hentry)
      (h.holds.reserved_of_mem he)⟩
  · intro e he
    rw [a.resources_finished, hmem, hparts.mem_iff] at he
    rw [Bundle.stackResources, ← h.finalResources_eq, List.mem_append]
    rcases he with ⟨he, -⟩ | he
    · rw [List.append_assoc, List.mem_append] at he
      exact he.symm.imp_left .inl
    · exact .inl (.inr he)
  · rw [← List.mem_append, ← List.append_assoc]
    exact houtputs.mem_iff.1 he

/-- Whatever bundles compile without a method at a key of the shared API, the result is a stack over
the base template. -/
theorem exists_stackOver (o : StackOptions) (base : Template) (bundles : List Bundle)
    (hapart : Apart (Bundle.allResources bundles)) {t : Template}
    (h : o.compile base bundles = .ok t) :
    ∃ deploymentKey, StackOver base bundles deploymentKey t := by
  obtain ⟨deploymentKey, a, -, hcollected, hfree, rfl⟩ := exists_collected hapart h
  exact ⟨deploymentKey, stackOver_of_collected hcollected hfree⟩

end StackOptions

open Template

namespace Resource

def ranks : List (String × Nat) := [
  (roleKind, 1), (routeKind, 1), (functionKind, 2), (topicKind, 3), (environmentKind, 3),
  (eventRuleKind, 3), (alarmKind, 3), (methodKind, 3), (userKind, 4), (permissionKind, 4),
  (deploymentKind, 4), (accessKeyKind, 5), (apiKeyKind, 5)]

/-- The topic for alarms is below the role, and other topics are above it. -/
def rank (r : Resource) : Nat := if r = alarmTopic then 0 else (ranks.lookup r.kind).getD 0

theorem rank_eq {r : Resource} (kind : String) (hkind : r.kind = kind)
    (htopic : kind ≠ topicKind) : r.rank = (ranks.lookup kind).getD 0 := by
  have hne : r ≠ alarmTopic := by
    rintro rfl
    exact htopic hkind.symm
  rw [rank, if_neg hne, hkind]

theorem rank_alarmTopic : alarmTopic.rank = 0 := if_pos rfl

theorem rank_restApi : restApi.rank = 0 := rank_eq restApiKind rfl (by decide)

theorem rank_executionRole (policies : List Policy) : (executionRole policies).rank = 1 :=
  rank_eq roleKind rfl (by decide)

theorem rank_routeOf (name : String) : (Rule.routeOf name).rank = 1 :=
  rank_eq routeKind rfl (by decide)

theorem rank_functionOf (r : Rule) (name runtime : String) :
    (r.functionOf name runtime).rank = 2 :=
  rank_eq functionKind rfl (by decide)

theorem rank_topicOf (name : String) : (Rule.topicOf name).rank = 3 := by
  -- the topic for alarms has the same type, but no display name
  have hne : Rule.topicOf name ≠ alarmTopic := by
    intro h
    have hnames := congrArg (fun r => r.properties.keys.contains "DisplayName") h
    cases hnames
  rw [rank, if_neg hne]
  rfl

theorem rank_environmentOf (r : Rule) (name : String) : (r.environmentOf name).rank = 3 :=
  rank_eq environmentKind rfl (by decide)

theorem rank_eventRuleOf (name property : String) (value : Json) :
    (Rule.eventRuleOf name property value).rank = 3 :=
  rank_eq eventRuleKind rfl (by decide)

theorem rank_alarm (a : Alarm) : a.resource.rank = 3 := rank_eq alarmKind rfl (by decide)

theorem rank_of_isMethod {r : Resource} (h : r.isMethod = true) : r.rank = 3 :=
  rank_eq methodKind (beq_iff_eq.1 h) (by decide)

theorem rank_topicUserOf (name : String) : (Rule.topicUserOf name).rank = 4 :=
  rank_eq userKind rfl (by decide)

theorem rank_permissionOf (r : Rule) (name : String) : (r.permissionOf name).rank = 4 :=
  rank_eq permissionKind rfl (by decide)

theorem rank_apiDeployment (methodKeys : List String) : (apiDeployment methodKeys).rank = 4 :=
  rank_eq deploymentKind rfl (by decide)

theorem rank_topicAccessKeyOf (name : String) : (Rule.topicAccessKeyOf name).rank = 5 :=
  rank_eq accessKeyKind rfl (by decide)

theorem rank_apiKey (deploymentKey : String) : (apiKey deploymentKey).rank = 5 :=
  rank_eq apiKeyKind rfl (by decide)

end Resource

section Answers

variable {t : Template} {added : List (String × Resource)} {bound : Nat}

theorem answers_parameter {key : String} (h : key ∈ t.parameters.keys) :
    t.Answers Resource.rank added bound (.ref key) := .inl h

theorem answers_pseudo {key : String} (h : isPseudo key = true) :
    t.Answers Resource.rank added bound (.ref key) := .inr (.inl h)

theorem answers_resource {x : Reference} {r : Resource} (h : (x.target, r) ∈ added)
    (hrank : r.rank < bound) : t.Answers Resource.rank added bound x := by
  cases x with
  | ref key => exact .inr (.inr ⟨r, h, hrank⟩)
  | getAtt key => exact ⟨r, h, hrank⟩
  | dependsOn key => exact ⟨r, h, hrank⟩

end Answers

/-- What a rule needs around it: its own entries, the parameters of the stack, the role and the alarm
topic, and the API if it has a method there. -/
structure Rule.Placed (r : Rule) (name runtime : String) (added : List (String × Resource))
    (t : Template) : Prop where
  own : ∀ e ∈ r.resourcesOf name runtime, e ∈ added
  globals : ∀ key ∈ StackOptions.globalKeys, key ∈ t.parameters.keys
  parameters : ∀ e ∈ r.parametersOf name, e.1 ∈ t.parameters.keys
  role : ∃ policies, (Key.role, executionRole policies) ∈ added
  topic : (Key.alarmTopic, alarmTopic) ∈ added
  restApi : r.gateway.isSome = true → (Key.restApi, restApi) ∈ added

namespace Rule

theorem mem_core (r : Rule) (name runtime : String) :
    (name, r.functionOf name runtime) ∈ r.resourcesOf name runtime := by
  simp [resourcesOf, coreOf]

theorem mem_topicParts {r : Rule} (h : r.topic = true) (name runtime : String) :
    (Key.topic name, topicOf name) ∈ r.resourcesOf name runtime ∧
      (Key.topicUser name, topicUserOf name) ∈ r.resourcesOf name runtime ∧
      (Key.topicAccessKey name, topicAccessKeyOf name) ∈ r.resourcesOf name runtime := by
  simp [resourcesOf, topicPartsOf, h]

theorem mem_gatewayParts {r : Rule} {g : GatewayTrigger} {v : Verb} (hg : r.gateway = some g)
    (hv : verb g = .ok v) (name runtime : String) :
    (Key.route name, routeOf name) ∈ r.resourcesOf name runtime ∧
      (Key.method name, methodOf name g v) ∈ r.resourcesOf name runtime := by
  simp [resourcesOf, gatewayPartsOf, hg, hv, Except.toOption]

namespace Placed

variable {r : Rule} {name runtime : String} {added : List (String × Resource)} {t : Template}
  (h : r.Placed name runtime added t)
include h

theorem answers_role {bound : Nat} (hbound : 1 < bound) :
    t.Answers Resource.rank added bound (.getAtt Key.role) := by
  obtain ⟨policies, hrole⟩ := h.role
  refine answers_resource hrole ?_
  rwa [Resource.rank_executionRole]

theorem answers_alarmTopic {bound : Nat} (hbound : 0 < bound) :
    t.Answers Resource.rank added bound (.ref Key.alarmTopic) :=
  answers_resource h.topic (by rwa [Resource.rank_alarmTopic])

theorem answers_restApi {bound : Nat} (hbound : 0 < bound) (hgateway : r.gateway.isSome = true)
    {x : Reference} (hx : x.target = Key.restApi) : t.Answers Resource.rank added bound x :=
  answers_resource (hx ▸ h.restApi hgateway) (by rwa [Resource.rank_restApi])

theorem answers_function {bound : Nat} (hbound : 2 < bound) {x : Reference}
    (hx : x.target = name) : t.Answers Resource.rank added bound x :=
  answers_resource (hx ▸ h.own _ (r.mem_core name runtime)) (by rwa [Resource.rank_functionOf])

theorem answers_topic {bound : Nat} (hbound : 3 < bound) (htopic : r.topic = true) :
    t.Answers Resource.rank added bound (.ref (Key.topic name)) :=
  answers_resource (h.own _ (mem_topicParts htopic name runtime).1)
    (by rwa [Resource.rank_topicOf])

theorem answers_functionOf {x : Reference} (hx : x ∈ (r.functionOf name runtime).references) :
    t.Answers Resource.rank added 2 x := by
  have hx := r.references_functionOf name runtime hx
  simp only [List.mem_cons, List.not_mem_nil, or_false] at hx
  rcases hx with rfl | rfl | rfl | rfl | rfl
  · exact answers_parameter (h.globals _ (by decide))
  · exact answers_parameter (h.globals _ (by decide))
  · exact answers_parameter (h.globals _ (by decide))
  · exact h.answers_role (by decide)
  · exact answers_pseudo (by decide)

theorem answers_permissionOf {x : Reference} (hx : x ∈ (r.permissionOf name).references) :
    t.Answers Resource.rank added 4 x := by
  rcases List.mem_cons.1 (r.references_permissionOf name hx) with rfl | hx
  · exact h.answers_function (by decide) rfl
  · rcases mem_references_invoker hx with ⟨htopic, rfl⟩ | ⟨hgateway, rfl⟩ | ⟨key, hkey, rfl⟩
    · exact h.answers_topic (by decide) htopic
    · exact h.answers_restApi (by decide) hgateway rfl
    · exact answers_pseudo hkey

theorem answers_environmentOf {x : Reference} (hx : x ∈ (r.environmentOf name).references) :
    t.Answers Resource.rank added 3 x := by
  have hx := r.references_environmentOf name hx
  simp only [List.mem_append, List.mem_cons, List.not_mem_nil, or_false, List.mem_map] at hx
  rcases hx with (rfl | rfl | rfl) | ⟨e, he, rfl⟩
  · exact answers_parameter (h.globals _ (by decide))
  · exact h.answers_function (by decide) rfl
  · exact h.answers_alarmTopic (by decide)
  · exact answers_parameter (h.parameters e he)

theorem answers_topicOf {x : Reference} (hx : x ∈ (topicOf name).references) :
    t.Answers Resource.rank added 3 x := by
  have hx := references_topicOf name hx
  simp only [List.mem_cons, List.not_mem_nil, or_false] at hx
  rcases hx with rfl | rfl
  · exact answers_pseudo (by decide)
  · exact h.answers_function (by decide) rfl

theorem answers_topicUserOf (htopic : r.topic = true) {x : Reference}
    (hx : x ∈ (topicUserOf name).references) : t.Answers Resource.rank added 4 x := by
  have hx := references_topicUserOf name hx
  simp only [List.mem_cons, List.not_mem_nil, or_false] at hx
  rcases hx with rfl | rfl | rfl
  · exact h.answers_topic (by decide) htopic
  · exact answers_pseudo (by decide)
  · exact answers_pseudo (by decide)

theorem answers_topicAccessKeyOf (htopic : r.topic = true) {x : Reference}
    (hx : x ∈ (topicAccessKeyOf name).references) : t.Answers Resource.rank added 5 x := by
  cases List.mem_singleton.1 (references_topicAccessKeyOf name hx)
  refine answers_resource (h.own _ (mem_topicParts htopic name runtime).2.1) ?_
  rw [Resource.rank_topicUserOf]
  decide

theorem answers_eventRuleOf {property : String}
    (hproperty : property = "EventPattern" ∨ property = "ScheduleExpression") {value : Json}
    (hvalue : value.references = []) {x : Reference}
    (hx : x ∈ (eventRuleOf name property value).references) :
    t.Answers Resource.rank added 3 x := by
  have hx := references_eventRuleOf name hproperty value hx
  simp only [hvalue, List.append_nil, List.mem_cons, List.not_mem_nil, or_false] at hx
  rcases hx with rfl | rfl
  · exact h.answers_role (by decide)
  · exact h.answers_function (by decide) rfl

theorem answers_routeOf (hgateway : r.gateway.isSome = true) {x : Reference}
    (hx : x ∈ (routeOf name).references) : t.Answers Resource.rank added 1 x := by
  have hx := references_routeOf name hx
  simp only [List.mem_cons, List.not_mem_nil, or_false] at hx
  rcases hx with rfl | rfl
  · exact h.answers_restApi (by decide) hgateway rfl
  · exact h.answers_restApi (by decide) hgateway rfl

theorem answers_methodOf (hinert : r.Inert) {g : GatewayTrigger} (hg : r.gateway = some g)
    {v : Verb} (hv : verb g = .ok v) {x : Reference}
    (hx : x ∈ (methodOf name g v).references) : t.Answers Resource.rank added 3 x := by
  obtain ⟨hmethod, hintegration⟩ := hinert.references_responses hg
  have hx := references_methodOf name g v hx
  simp only [hmethod, hintegration, List.append_nil, List.mem_append, List.mem_cons,
    List.not_mem_nil, or_false] at hx
  rcases hx with (rfl | rfl) | rfl | rfl
  · exact h.answers_restApi (by decide) (by rw [hg]; rfl) rfl
  · refine answers_resource (h.own _ (mem_gatewayParts hg hv name runtime).1) ?_
    rw [Resource.rank_routeOf]
    decide
  · exact answers_pseudo (by decide)
  · exact h.answers_function (by decide) rfl

theorem answers_coreOf {e : String × Resource} (he : e ∈ r.coreOf name runtime) {x : Reference}
    (hx : x ∈ e.2.references) : t.Answers Resource.rank added e.2.rank x := by
  simp only [coreOf, List.mem_cons, List.not_mem_nil, or_false] at he
  rcases he with rfl | rfl | rfl
  · rw [Resource.rank_functionOf]
    exact h.answers_functionOf hx
  · rw [Resource.rank_permissionOf]
    exact h.answers_permissionOf hx
  · rw [Resource.rank_environmentOf]
    exact h.answers_environmentOf hx

theorem answers_topicPartsOf {e : String × Resource} (he : e ∈ r.topicPartsOf name)
    {x : Reference} (hx : x ∈ e.2.references) : t.Answers Resource.rank added e.2.rank x := by
  rw [topicPartsOf] at he
  split at he
  · rename_i htopic
    simp only [List.mem_cons, List.not_mem_nil, or_false] at he
    rcases he with rfl | rfl | rfl
    · rw [Resource.rank_topicOf]
      exact h.answers_topicOf hx
    · rw [Resource.rank_topicUserOf]
      exact h.answers_topicUserOf htopic hx
    · rw [Resource.rank_topicAccessKeyOf]
      exact h.answers_topicAccessKeyOf htopic hx
  · cases he

theorem answers_patternPartsOf (hinert : r.Inert) {e : String × Resource}
    (he : e ∈ r.patternPartsOf name) {x : Reference} (hx : x ∈ e.2.references) :
    t.Answers Resource.rank added e.2.rank x := by
  obtain ⟨v, hv, rfl⟩ := List.mem_map.1 he
  rw [Outcome.mem_toList_toOption_iff] at hv
  rw [Resource.rank_eventRuleOf]
  exact h.answers_eventRuleOf (.inl rfl) (hinert.references_eventPattern hv) hx

theorem answers_schedulePartsOf {e : String × Resource} (he : e ∈ r.schedulePartsOf name)
    {x : Reference} (hx : x ∈ e.2.references) : t.Answers Resource.rank added e.2.rank x := by
  obtain ⟨v, hv, rfl⟩ := List.mem_map.1 he
  rw [Outcome.mem_toList_toOption_iff] at hv
  rw [Resource.rank_eventRuleOf]
  exact h.answers_eventRuleOf (.inr rfl) (references_scheduleExpression hv) hx

theorem answers_gatewayPartsOf (hinert : r.Inert) {e : String × Resource}
    (he : e ∈ r.gatewayPartsOf name) {x : Reference} (hx : x ∈ e.2.references) :
    t.Answers Resource.rank added e.2.rank x := by
  obtain ⟨g, hg, he⟩ := List.mem_flatMap.1 he
  obtain ⟨v, hv, he⟩ := List.mem_flatMap.1 he
  rw [Option.mem_toList] at hg
  rw [Outcome.mem_toList_toOption_iff] at hv
  simp only [List.mem_cons, List.not_mem_nil, or_false] at he
  rcases he with rfl | rfl
  · rw [Resource.rank_routeOf]
    exact h.answers_routeOf (by rw [hg]; rfl) hx
  · rw [Resource.rank_of_isMethod rfl]
    exact h.answers_methodOf hinert hg hv hx

theorem answers_alarmsOf {e : String × Resource} (he : e ∈ alarmsOf name) {x : Reference}
    (hx : x ∈ e.2.references) : t.Answers Resource.rank added e.2.rank x := by
  have hrank : e.2.rank = 3 := by
    simp only [alarmsOf, List.mem_cons, List.not_mem_nil, or_false] at he
    rcases he with rfl | rfl <;> exact Resource.rank_alarm _
  have hx := references_alarmsOf name e he hx
  simp only [List.mem_cons, List.not_mem_nil, or_false] at hx
  rw [hrank]
  rcases hx with rfl | rfl
  · exact h.answers_alarmTopic (by decide)
  · exact h.answers_function (by decide) rfl

/-- Whatever triggers the rule has, its resources refer to lower ranks. -/
theorem answers_resourcesOf (hinert : r.Inert) {e : String × Resource}
    (he : e ∈ r.resourcesOf name runtime) {x : Reference} (hx : x ∈ e.2.references) :
    t.Answers Resource.rank added e.2.rank x := by
  simp only [resourcesOf, List.mem_append] at he
  rcases he with ((((he | he) | he) | he) | he) | he
  · exact h.answers_coreOf he hx
  · exact h.answers_topicPartsOf he hx
  · exact h.answers_patternPartsOf hinert he hx
  · exact h.answers_schedulePartsOf he hx
  · exact h.answers_gatewayPartsOf hinert he hx
  · exact h.answers_alarmsOf he hx

theorem answers_outputsOf {e : String × Output} (he : e ∈ r.outputsOf name) {x : Reference}
    (hx : x ∈ e.2.references) : t.Answers Resource.rank added 6 x := by
  rw [outputsOf, List.mem_append] at he
  rcases he with he | he
  · split at he
    · rename_i htopic
      have hx := references_topicOutputs name e he hx
      have hkey : (Key.topicAccessKey name, topicAccessKeyOf name) ∈ added :=
        h.own _ (mem_topicParts htopic name runtime).2.2
      have hrank : (topicAccessKeyOf name).rank < 6 := by
        rw [Resource.rank_topicAccessKeyOf]
        decide
      simp only [List.mem_cons, List.not_mem_nil, or_false] at hx
      rcases hx with rfl | rfl | rfl
      · exact h.answers_topic (by decide) htopic
      · exact answers_resource hkey hrank
      · exact answers_resource hkey hrank
    · cases he
  · split at he
    · rename_i hgateway
      cases List.mem_singleton.1 he
      have hx := references_endpointOutput name hx
      simp only [List.mem_cons, List.not_mem_nil, or_false] at hx
      rcases hx with rfl | rfl
      · exact h.answers_restApi (by decide) hgateway rfl
      · exact answers_pseudo (by decide)
    · cases he

end Placed
end Rule
end RuleStack
