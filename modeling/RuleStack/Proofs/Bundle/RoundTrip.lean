import RuleStack.Proofs.Bundle.Build
import RuleStack.Proofs.Template.RoundTrip
set_option autoImplicit false

namespace RuleStack

open Json

/-- All parts of the bundle are read as they stand. -/
structure Bundle.Tidy (b : Bundle) : Prop where
  parameters : ∀ e ∈ b.parameters, e.2.Tidy
  resources : ∀ e ∈ b.resources, e.2.Tidy
  policy : ∀ p ∈ b.policy, p.Tidy
  outputs : ∀ e ∈ b.outputs, e.2.Tidy

namespace Resource

theorem tidy_mk {kind : String} {dependsOn metadata : Option Json}
    {properties : List (String × Json)} (hdependsOn : ∀ v ∈ dependsOn, v.Solid)
    (hproperties : ∀ e ∈ properties, e.2.Normal) (hmetadata : ∀ v ∈ metadata, v.Solid) :
    (mk kind dependsOn (.ofList properties) metadata .empty).Tidy :=
  ⟨hdependsOn, fun e he => hproperties e (KeyMap.mem_of_mem_ofList he), hmetadata,
    record.beside_empty⟩

theorem tidy_make {kind : String} {properties : List (String × Json)}
    (h : ∀ e ∈ properties, e.2.Normal) : (make kind properties).Tidy :=
  tidy_mk nofun h nofun

end Resource

theorem Output.tidy_make {value : Json} (h : value.Normal) : (make value).Tidy :=
  ⟨h, record.beside_empty⟩

theorem Parameter.tidy_text (kind description : String) : (text kind description).Tidy :=
  record.beside_empty

theorem Alarm.tidy_resource {a : Alarm} (h : a.subject.Normal) : a.resource.Tidy :=
  Resource.tidy_make (by simp [h, normal_object_iff])

namespace Rule

theorem tidy_functionOf (r : Rule) (name runtime : String) : (r.functionOf name runtime).Tidy := by
  have hmetadata : ∀ v ∈ (r.functionOf name runtime).metadata, v.Solid := by
    rintro v ⟨⟩
    refine ⟨nofun, ?_⟩
    cases r.sourcePath <;> simp
  exact Resource.tidy_mk nofun (by simp [codeLocation, normal_object_iff, ofNat]) hmetadata

theorem tidy_permissionOf (r : Rule) (name : String) : (r.permissionOf name).Tidy := by
  have hinvoker : (r.invoker name).2.Normal := by
    rw [invoker]
    split
    · simp
    · split <;> simp
  exact Resource.tidy_make (by simp [hinvoker])

theorem tidy_environmentOf (r : Rule) (name : String) : (r.environmentOf name).Tidy := by
  refine ⟨nofun, fun e he => ?_, nofun, Resource.record.beside_empty⟩
  rcases KeyMap.mem_of_mem_insert he with rfl | he
  · exact normal_ref Key.alarmTopic
  rcases KeyMap.mem_of_mem_insertAll he with he | he
  · rcases List.mem_cons.1 (KeyMap.mem_of_mem_ofList he) with rfl | he
    · exact normal_ref Key.serviceToken
    · cases List.mem_singleton.1 he
      exact normal_ref name
  · obtain ⟨key, -, rfl⟩ := List.mem_map.1 he
    exact normal_ref key

theorem tidy_topicOf (name : String) : (topicOf name).Tidy :=
  Resource.tidy_make (by simp [normal_object_iff])

theorem tidy_topicUserOf (name : String) : (topicUserOf name).Tidy :=
  Resource.tidy_make (by simp [normal_object_iff, publishStatement, listStatement])

theorem tidy_topicAccessKeyOf (name : String) : (topicAccessKeyOf name).Tidy :=
  Resource.tidy_make (by simp)

theorem tidy_eventRuleOf (name property : String) {value : Json} (h : value.Normal) :
    (eventRuleOf name property value).Tidy :=
  Resource.tidy_make (by simp [normal_object_iff, h])

theorem tidy_routeOf (name : String) : (routeOf name).Tidy :=
  Resource.tidy_make (by simp)

theorem normal_getD {responses : Option (List Json)} {standard : List Json}
    (h : ∀ vs ∈ responses, ∀ v ∈ vs, v.Normal) (hstandard : ∀ v ∈ standard, v.Normal) :
    ∀ v ∈ responses.getD standard, v.Normal := by
  cases responses with
  | none => exact hstandard
  | some vs => exact h vs rfl

theorem tidy_methodOf (name : String) {g : GatewayTrigger} (h : g.Tidy) (verb : Verb) :
    (methodOf name g verb).Tidy := by
  have hmethod : ∀ v ∈ g.methodResponses.getD standardMethodResponses, v.Normal :=
    normal_getD h.methodResponses
      (by simp [standardMethodResponses, statusResponse, normal_object_iff])
  have hintegration :
      ∀ v ∈ g.integrationResponses.getD standardIntegrationResponses, v.Normal :=
    normal_getD h.integrationResponses (by simp [standardIntegrationResponses, normal_object_iff])
  refine Resource.tidy_make ?_
  cases g.apiKey <;> simpa [integration, normal_object_iff] using ⟨hmethod, hintegration⟩

theorem tidy_alarmsOf (name : String) : ∀ e ∈ alarmsOf name, e.2.Tidy := by
  simp only [alarmsOf, List.forall_mem_cons]
  exact ⟨Alarm.tidy_resource (normal_ref name), Alarm.tidy_resource (normal_ref name), nofun⟩

theorem tidy_outputsOf (r : Rule) (name : String) : ∀ e ∈ r.outputsOf name, e.2.Tidy := by
  rw [outputsOf, List.forall_mem_append]
  constructor
  · split
    · simp only [topicOutputs, List.forall_mem_cons]
      exact ⟨Output.tidy_make (normal_ref _), Output.tidy_make (normal_ref _),
        Output.tidy_make (normal_getAtt _ _), nofun⟩
    · nofun
  · split
    · refine List.forall_mem_singleton.2 (Output.tidy_make ?_)
      simp
    · nofun

theorem normal_eventPattern {r : Rule} (h : r.Tidy) {v : Json} (hv : r.eventPattern = .ok v) :
    v.Normal := by
  rw [eventPattern] at hv
  split at hv
  · cases hv
  · cases hv
  · rename_i pattern hpattern
    split at hv
    · cases hv
    · cases hv
      obtain ⟨e, he, hpattern⟩ := Option.bind_eq_some_iff.1 hpattern
      exact (h.event e he v hpattern).2

theorem normal_scheduleExpression {r : Rule} {v : Json} (hv : r.scheduleExpression = .ok v) :
    v.Normal := by
  rw [scheduleExpression] at hv
  split at hv
  · cases hv
  · split at hv
    · cases hv
    · cases hv
      exact normal_str _

theorem tidy_resourcesOf {r : Rule} (h : r.Tidy) (name runtime : String) :
    ∀ e ∈ r.resourcesOf name runtime, e.2.Tidy := by
  simp only [resourcesOf, List.forall_mem_append]
  refine ⟨⟨⟨⟨⟨?core, ?topic⟩, ?pattern⟩, ?schedule⟩, ?gateway⟩, tidy_alarmsOf name⟩
  case core =>
    simp only [coreOf, List.forall_mem_cons]
    exact ⟨r.tidy_functionOf name runtime, r.tidy_permissionOf name, r.tidy_environmentOf name,
      nofun⟩
  case topic =>
    rw [topicPartsOf]
    split
    · simp only [List.forall_mem_cons]
      exact ⟨tidy_topicOf name, tidy_topicUserOf name, tidy_topicAccessKeyOf name, nofun⟩
    · nofun
  case pattern =>
    rw [patternPartsOf, List.forall_mem_map]
    intro v hv
    exact tidy_eventRuleOf name _
      (normal_eventPattern h ((Outcome.mem_toList_toOption_iff _ _).1 hv))
  case schedule =>
    rw [schedulePartsOf, List.forall_mem_map]
    intro v hv
    exact tidy_eventRuleOf name _
      (normal_scheduleExpression ((Outcome.mem_toList_toOption_iff _ _).1 hv))
  case gateway =>
    intro e he
    obtain ⟨g, hg, he⟩ := List.mem_flatMap.1 he
    obtain ⟨v, -, he⟩ := List.mem_flatMap.1 he
    rcases List.mem_cons.1 he with rfl | he
    · exact tidy_routeOf name
    · cases List.mem_singleton.1 he
      exact tidy_methodOf name (h.gateway g (Option.mem_toList.1 hg)) v

theorem tidy_bundleOf {r : Rule} (h : r.Tidy) (name runtime : String) :
    (r.bundleOf name runtime).Tidy := by
  refine ⟨?parameters, tidy_resourcesOf h name runtime, ?policy, r.tidy_outputsOf name⟩
  case parameters =>
    simp only [bundleOf, parametersOf, List.forall_mem_map]
    exact h.parameters
  case policy =>
    intro p hp
    obtain ⟨ss, hss, rfl⟩ := Option.map_eq_some_iff.1 hp
    exact h.statements ss hss

/-- What a tidy rule contributes is tidy. -/
theorem tidy_bundle {r : Rule} (h : r.Tidy) {runtime : String} {b : Bundle}
    (hb : r.bundle runtime = .ok b) : b.Tidy := by
  obtain ⟨name, -, -, rfl⟩ := (r.bundle_eq_ok_iff runtime b).1 hb
  exact tidy_bundleOf h name runtime

end Rule

theorem tidy_alarmTopic : alarmTopic.Tidy :=
  Resource.tidy_make (by simp [normal_object_iff])

theorem tidy_executionRole (policies : List Policy) : (executionRole policies).Tidy :=
  Resource.tidy_make (by simp [normal_object_iff, trustStatement, normal_normalize])

theorem tidy_apiDeployment (methodKeys : List String) : (apiDeployment methodKeys).Tidy := by
  refine Resource.tidy_mk ?_ (by simp) nofun
  rintro v ⟨⟩
  exact ⟨nofun, normal_strings methodKeys⟩

theorem tidy_gatewayResources (deploymentKey : String) :
    ∀ e ∈ gatewayResources deploymentKey, e.2.Tidy := by
  have hrestApi : restApi.Tidy := Resource.tidy_make (by simp)
  have hapiKey : (apiKey deploymentKey).Tidy := by
    refine Resource.tidy_mk ?_ (by simp [normal_object_iff]) nofun
    rintro v ⟨⟩
    exact ⟨nofun, normal_str deploymentKey⟩
  simp only [gatewayResources, gatewayAlarms, List.cons_append, List.nil_append,
    List.forall_mem_cons]
  exact ⟨hrestApi, hapiKey, Alarm.tidy_resource (normal_ref _), Alarm.tidy_resource (normal_ref _),
    Alarm.tidy_resource (normal_ref _), nofun⟩

theorem tidy_apiKeyOutput : apiKeyOutput.Tidy := Output.tidy_make (normal_ref Key.apiKey)

theorem StackOptions.tidy_globalParameters : ∀ e ∈ globalParameters, e.2.Tidy := by
  simp [globalParameters, Parameter.tidy_text]

namespace Json

variable {α : Type} {read : Json → Except Mismatch α} {write : α → Json}

theorem readPair_normalize {e : String × α} (h : read (write e.2).normalize = .ok e.2) :
    readPair read (arr [.str e.1, write e.2]).normalize = .ok e := by
  simp only [normalize, normalizeItems, readPair, readText, h, bind, Except.bind]
  rfl

end Json

namespace Bundle

def record : Record Bundle where
  name := "RuleBundle"
  start := ⟨"", [], [], none, []⟩
  fields := [
    .mandatory "name" readText (fun v s => { s with name := v }),
    .mandatory "Parameters" (readList (readPair Parameter.record.read))
      (fun v s => { s with parameters := v }),
    .mandatory "Resources" (readList (readPair Resource.record.read))
      (fun v s => { s with resources := v }),
    .optional "Policy" (readOption Policy.record.read) (fun v s => { s with policy := v }),
    .mandatory "Outputs" (readList (readPair Output.record.read))
      (fun v s => { s with outputs := v })]
  unlisted := .ignored

theorem orderless_record : record.Orderless :=
  Record.Separate.orderless {} nofun

theorem read_pairs {α : Type} {read : Json → Except Mismatch α} {write : α → Json}
    {es : List (String × α)} (h : ∀ e ∈ es, read (write e.2).normalize = .ok e.2) :
    readList (readPair read) (pairs write es).normalize = .ok es :=
  readList_normalize fun e he => readPair_normalize (h e he)

theorem read_toJson {b : Bundle} (h : b.Tidy) : record.read b.toJson.normalize = .ok b := by
  refine Record.Written.read_normalize orderless_record (.of_append_nil ?_)
  simp only [List.append_assoc]
  have hparameters := read_pairs fun e he => Parameter.read_toJson (h.parameters e he)
  have hresources := read_pairs fun e he => Resource.read_toJson (h.resources e he)
  have houtputs := read_pairs fun e he => Output.read_toJson (h.outputs e he)
  refine .member rfl (.member ((Outcome.map_eq_ok_iff _ _ _).2 ⟨_, hparameters, rfl⟩) ?_)
  refine .member ((Outcome.map_eq_ok_iff _ _ _).2 ⟨_, hresources, rfl⟩) ?_
  refine .option (fun p hp => ⟨nofun, Policy.read_toJson (h.policy p hp)⟩) rfl ?_
  exact .member ((Outcome.map_eq_ok_iff _ _ _).2 ⟨_, houtputs, rfl⟩) (.nil record b)

end Bundle

end RuleStack
