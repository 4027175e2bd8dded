import RuleStack.Proofs.Bundle.Build
import RuleStack.Proofs.Template.Reference
set_option autoImplicit false

namespace RuleStack

open Json

theorem mem_references_object {members : List (String × Json)}
    (hkeys : (members.map (·.1)).Nodup) (h : (members.any fun e => isReferring e.1) = false)
    (x : Reference) : x ∈ (object members).references ↔ ∃ e ∈ members, x ∈ e.2.references := by
  have hperm := KeyMap.entries_ofList_perm hkeys
  have hnone : reference? (KeyMap.ofList members).entries = none :=
    reference?_eq_none fun e he =>
      Bool.eq_false_iff.2 (List.any_eq_false.1 h e (KeyMap.mem_of_mem_ofList he))
  rw [object, references_obj hnone, List.mem_flatMap]
  simp only [hperm.mem_iff]

@[simp] theorem flatMap_optionalMember {α : Type} (f : String × Json → List α) (name : String)
    (value : Option Json) :
    (optionalMember name value).flatMap f = value.toList.flatMap fun v => f (name, v) := by
  cases value <;> simp [optionalMember]

namespace Resource

theorem references_toJson (r : Resource) :
    r.toJson.references =
      r.dependsOn.toList.flatMap Json.references ++ (ofMap r.properties).references ++
        r.metadata.toList.flatMap Json.references ++ r.extra.entries.flatMap (·.2.references) := by
  have hproperties : ((if r.properties.isEmpty then none else some (ofMap r.properties)) :
      Option Json).toList.flatMap Json.references = (ofMap r.properties).references := by
    cases hempty : r.properties.isEmpty with
    | false => simp
    | true =>
      have hnil : r.properties.entries = [] := List.isEmpty_iff.1 hempty
      simp [ofMap, hnil, Json.references, referencesMembers, reference?]
  have htype (rest : List (String × Json)) : reference? (("Type", .str r.kind) :: rest) = none := by
    cases rest <;> rfl
  rw [toJson, references_obj (by simpa using htype _)]
  simp [hproperties]

theorem mem_references_mk {kind : String} {dependsOn metadata : Option Json}
    {properties : List (String × Json)} (hkeys : (properties.map (·.1)).Nodup)
    (h : (properties.any fun e => isReferring e.1) = false) (x : Reference) :
    x ∈ (mk kind dependsOn (.ofList properties) metadata .empty).references ↔
      (∃ key ∈ (mk kind dependsOn (.ofList properties) metadata .empty).dependencies,
        .dependsOn key = x) ∨
      (∃ v ∈ dependsOn, x ∈ v.references) ∨ (∃ e ∈ properties, x ∈ e.2.references) ∨
        ∃ v ∈ metadata, x ∈ v.references := by
  rw [← mem_references_object hkeys h, references, references_toJson]
  simp [KeyMap.empty, ofMap, object]

theorem mem_references_make {kind : String} {properties : List (String × Json)}
    (hkeys : (properties.map (·.1)).Nodup)
    (h : (properties.any fun e => isReferring e.1) = false) (x : Reference) :
    x ∈ (make kind properties).references ↔ ∃ e ∈ properties, x ∈ e.2.references := by
  rw [make, mem_references_mk hkeys h]
  simp [dependencies]

end Resource

theorem references_output (value : Json) : (Output.make value).references = value.references := by
  rw [Output.references, Output.toJson, references_obj rfl]
  simp [Output.make, KeyMap.empty]

namespace Rule

/-- No value that the author of the rule wrote for a template refers to an entry of it. -/
structure Inert (r : Rule) : Prop where
  pattern : ∀ e ∈ r.event, ∀ v ∈ e.pattern, v.isInert = true
  statements : ∀ ss ∈ r.statements, ∀ s ∈ ss, s.toJson.isInert = true
  methodResponses : ∀ g ∈ r.gateway, ∀ vs ∈ g.methodResponses, ∀ v ∈ vs, v.isInert = true
  integrationResponses : ∀ g ∈ r.gateway, ∀ vs ∈ g.integrationResponses, ∀ v ∈ vs, v.isInert = true

namespace Inert

variable {r : Rule} (h : r.Inert)
include h

theorem references_eventPattern {v : Json} (hv : r.eventPattern = .ok v) : v.references = [] := by
  rw [eventPattern] at hv
  split at hv
  · cases hv
  · cases hv
  · rename_i pattern hpattern
    split at hv
    · cases hv
    · cases hv
      obtain ⟨e, he, hpattern⟩ := Option.bind_eq_some_iff.1 hpattern
      exact references_eq_nil_of_isInert v (h.pattern e he v hpattern)

theorem references_responses {g : GatewayTrigger} (hg : r.gateway = some g) :
    (Json.arr (g.methodResponses.getD [])).references = [] ∧
      (Json.arr (g.integrationResponses.getD [])).references = [] := by
  have hnone {responses : Option (List Json)}
      (hinert : ∀ vs ∈ responses, ∀ v ∈ vs, v.isInert = true) :
      (Json.arr (responses.getD [])).references = [] := by
    refine references_eq_nil_of_isInert _ ((areInertItems_iff _).2 ?_)
    cases responses with
    | none => simp
    | some vs => exact hinert vs rfl
  exact ⟨hnone (h.methodResponses g hg), hnone (h.integrationResponses g hg)⟩

theorem isInert_policyOf {name : String} {p : Policy} (hp : p ∈ r.policyOf name) :
    p.toJson.isInert = true := by
  obtain ⟨ss, hss, rfl⟩ := Option.map_eq_some_iff.1 hp
  have hstatements : ∀ v ∈ ss.map Statement.toJson, v.isInert = true := by
    rw [List.forall_mem_map]
    exact h.statements ss hss
  simp only [Policy.toJson, PolicyDocument.toJson, isInert, areInertMembers, isReferring,
    optionalMember, Option.map_none, List.nil_append, (areInertItems_iff _).2 hstatements]
  rfl

end Inert

theorem references_functionOf (r : Rule) (name runtime : String) :
    (r.functionOf name runtime).references ⊆ [
      .ref Key.codeBucket, .ref Key.codeFolder, .ref Key.codeRevision, .getAtt Key.role,
      .ref "AWS::StackName"] := by
  intro x hx
  have hpath (path : String) : (Json.obj [("sourcePath", .str path)]).references = [] := rfl
  have hnone : (Json.obj []).references = [] := rfl
  cases hsource : r.sourcePath <;>
    simpa [functionOf, hsource, hpath, hnone, Resource.make, Resource.mem_references_mk,
      Resource.dependencies, codeLocation, mem_references_object, isReferring, Json.ofNat,
      or_assoc] using hx

theorem references_permissionOf (r : Rule) (name : String) :
    (r.permissionOf name).references ⊆ .getAtt name :: (r.invoker name).2.references := by
  intro x hx
  simpa [permissionOf, Resource.mem_references_make, isReferring] using hx

theorem mem_references_invoker {r : Rule} {name : String} {x : Reference}
    (hx : x ∈ (r.invoker name).2.references) :
    (r.topic = true ∧ x = .ref (Key.topic name)) ∨
      (r.gateway.isSome = true ∧ x = .ref Key.restApi) ∨
      ∃ key, isPseudo key = true ∧ x = .ref key := by
  rw [invoker] at hx
  split at hx
  · rename_i htopic
    exact .inl ⟨htopic, by simpa using hx⟩
  · split at hx
    · rename_i hgateway
      have hx : x = .ref "AWS::Region" ∨ x = .ref "AWS::AccountId" ∨ x = .ref Key.restApi := by
        simpa using hx
      rcases hx with rfl | rfl | rfl
      · exact .inr (.inr ⟨_, by decide, rfl⟩)
      · exact .inr (.inr ⟨_, by decide, rfl⟩)
      · exact .inr (.inl ⟨hgateway, rfl⟩)
    · have hx : x = .ref "AWS::Region" ∨ x = .ref "AWS::AccountId" ∨
          x = .ref "AWS::StackName" := by
        simpa using hx
      rcases hx with rfl | rfl | rfl <;> exact .inr (.inr ⟨_, by decide, rfl⟩)

theorem references_environmentOf (r : Rule) (name : String) :
    (r.environmentOf name).references ⊆
      [.ref Key.serviceToken, .ref name, .ref Key.alarmTopic] ++
        (r.parametersOf name).map (.ref ·.1) := by
  -- bindings may take the place of others, so only what a binding can be is known
  have hbindings : ∀ e ∈ (r.environmentOf name).properties.entries,
      ∃ key, e.2 = .ref key ∧ Reference.ref key ∈
        [.ref Key.serviceToken, .ref name, .ref Key.alarmTopic] ++
          (r.parametersOf name).map (.ref ·.1) := by
    intro e he
    rcases KeyMap.mem_of_mem_insert he with rfl | he
    · exact ⟨Key.alarmTopic, rfl, by simp⟩
    rcases KeyMap.mem_of_mem_insertAll he with he | he
    · rcases List.mem_cons.1 (KeyMap.mem_of_mem_ofList he) with rfl | he
      · exact ⟨Key.serviceToken, rfl, by simp⟩
      · cases List.mem_singleton.1 he
        exact ⟨name, rfl, by simp⟩
    · obtain ⟨key, hkey, rfl⟩ := List.mem_map.1 he
      obtain ⟨p, hp, rfl⟩ := List.mem_map.1 hkey
      exact ⟨p.1, rfl, List.mem_append_right _ (List.mem_map_of_mem hp)⟩
  have hnone : reference? (r.environmentOf name).properties.entries = none :=
    reference?_eq_none_of_ref fun e he => (hbindings e he).imp fun _ h => h.1
  intro x hx
  have hproperties : x ∈ (ofMap (r.environmentOf name).properties).references := by
    rw [Resource.references, Resource.references_toJson] at hx
    simpa [environmentOf, Resource.make, Resource.dependencies, KeyMap.empty] using hx
  rw [ofMap, references_obj hnone, List.mem_flatMap] at hproperties
  obtain ⟨e, he, hx⟩ := hproperties
  obtain ⟨key, hvalue, hkey⟩ := hbindings e he
  rw [hvalue, references_ref, List.mem_singleton] at hx
  rwa [hx]

theorem references_topicOf (name : String) :
    (topicOf name).references ⊆ [.ref "AWS::StackName", .getAtt name] := by
  intro x hx
  simpa [topicOf, Resource.mem_references_make, mem_references_object, isReferring,
    or_assoc] using hx

theorem references_topicUserOf (name : String) :
    (topicUserOf name).references ⊆
      [.ref (Key.topic name), .ref "AWS::Region", .ref "AWS::AccountId"] := by
  intro x hx
  simpa [topicUserOf, publishStatement, listStatement, Resource.mem_references_make,
    mem_references_object, isReferring] using hx

theorem references_topicAccessKeyOf (name : String) :
    (topicAccessKeyOf name).references ⊆ [.ref (Key.topicUser name)] := by
  intro x hx
  simpa [topicAccessKeyOf, Resource.mem_references_make, isReferring] using hx

theorem references_eventRuleOf (name : String) {property : String}
    (hproperty : property = "EventPattern" ∨ property = "ScheduleExpression") (value : Json) :
    (eventRuleOf name property value).references ⊆
      [.getAtt Key.role, .getAtt name] ++ value.references := by
  intro x hx
  rcases hproperty with rfl | rfl <;>
    simpa [eventRuleOf, Resource.mem_references_make, mem_references_object, isReferring] using hx

theorem references_scheduleExpression {r : Rule} {v : Json} (hv : r.scheduleExpression = .ok v) :
    v.references = [] := by
  rw [scheduleExpression] at hv
  split at hv
  · cases hv
  · split at hv
    · cases hv
    · cases hv
      rfl

theorem references_routeOf (name : String) :
    (routeOf name).references ⊆ [.getAtt Key.restApi, .ref Key.restApi] := by
  intro x hx
  simpa [routeOf, Resource.mem_references_make, isReferring] using hx

theorem references_methodOf (name : String) (g : GatewayTrigger) (verb : Verb) :
    (methodOf name g verb).references ⊆
      [.ref Key.restApi, .ref (Key.route name)] ++
        (Json.arr (g.methodResponses.getD [])).references ++
        (Json.arr (g.integrationResponses.getD [])).references ++
        [.ref "AWS::Region", .getAtt name] := by
  intro x hx
  have hmethod : (Json.arr (g.methodResponses.getD standardMethodResponses)).references =
      (Json.arr (g.methodResponses.getD [])).references := by
    cases g.methodResponses <;> rfl
  have hintegration :
      (Json.arr (g.integrationResponses.getD standardIntegrationResponses)).references =
        (Json.arr (g.integrationResponses.getD [])).references := by
    cases g.integrationResponses <;> rfl
  cases hkey : g.apiKey <;>
    simpa [methodOf, integration, hkey, Resource.mem_references_make, mem_references_object,
      isReferring, -references_arr, hmethod, hintegration, or_assoc] using hx

theorem references_topicOutputs (name : String) :
    ∀ e ∈ topicOutputs name, e.2.references ⊆ [
      .ref (Key.topic name), .ref (Key.topicAccessKey name),
      .getAtt (Key.topicAccessKey name)] := by
  simp [topicOutputs, references_output]

theorem references_endpointOutput (name : String) :
    (endpointOutput name).2.references ⊆ [.ref Key.restApi, .ref "AWS::Region"] := by
  simp [endpointOutput, references_output]

end Rule

theorem Alarm.references_resource (a : Alarm) :
    a.resource.references ⊆ .ref Key.alarmTopic :: a.subject.references := by
  intro x hx
  simpa [resource, Resource.mem_references_make, mem_references_object, isReferring] using hx

theorem Rule.references_alarmsOf (name : String) :
    ∀ e ∈ alarmsOf name, e.2.references ⊆ [.ref Key.alarmTopic, .ref name] := by
  simp only [alarmsOf, List.forall_mem_cons]
  exact ⟨Alarm.references_resource _, Alarm.references_resource _, by simp⟩

theorem references_gatewayAlarms :
    ∀ e ∈ gatewayAlarms, e.2.references ⊆ [.ref Key.alarmTopic, .ref "AWS::StackName"] := by
  simp only [gatewayAlarms, List.forall_mem_cons]
  exact ⟨Alarm.references_resource _, Alarm.references_resource _, Alarm.references_resource _,
    by simp⟩

theorem references_restApi : restApi.references ⊆ [.ref "AWS::StackName"] := by
  intro x hx
  simpa [restApi, Resource.mem_references_make, isReferring] using hx

theorem references_apiKey (deploymentKey : String) :
    (apiKey deploymentKey).references ⊆
      [.dependsOn deploymentKey, .ref "AWS::StackName", .ref Key.restApi] := by
  intro x hx
  simpa [apiKey, Resource.make, Resource.mem_references_mk, Resource.dependencies,
    mem_references_object, isReferring, eq_comm] using hx

theorem references_apiDeployment (methodKeys : List String) :
    (apiDeployment methodKeys).references ⊆ .ref Key.restApi :: methodKeys.map .dependsOn := by
  intro x hx
  have hkeys : (apiDeployment methodKeys).dependencies = methodKeys := by
    simp [apiDeployment, Resource.dependencies, strings, List.filterMap_map, Function.comp_def,
      asText?]
  rw [List.mem_cons, List.mem_map, ← hkeys]
  simpa [apiDeployment, Resource.make, Resource.mem_references_mk, isReferring, or_comm] using hx

theorem references_alarmTopic :
    alarmTopic.references ⊆ [.ref "AWS::StackName", .ref Key.alarmEmail] := by
  intro x hx
  simpa [alarmTopic, Resource.mem_references_make, mem_references_object, isReferring] using hx

theorem references_executionRole {policies : List Policy}
    (h : ∀ p ∈ policies, p.toJson.isInert = true) :
    (executionRole policies).references ⊆ [.ref "AWS::AccountId", .ref Key.alarmTopic] := by
  have htrust : (Json.obj [("Statement", .arr (["lambda.amazonaws.com", "apigateway.amazonaws.com",
      "events.amazonaws.com"].map trustStatement))]).references = [] := by rfl
  have hbase : basePolicy.toJson.normalize.references =
      [.ref "AWS::AccountId", .ref Key.alarmTopic] := by rfl
  have hown : ∀ p ∈ policies, p.toJson.normalize.references = [] :=
    fun p hp => references_eq_nil_of_isInert _ (isInert_normalize _ (h p hp))
  intro x hx
  obtain ⟨e, he, hx⟩ :=
    (Resource.mem_references_make (by simp) (by simp [isReferring]) x).1 hx
  simp only [List.mem_cons, List.not_mem_nil, or_false] at he
  rcases he with rfl | rfl | rfl
  · rw [htrust] at hx
    cases hx
  · cases hx
  · rw [references_arr, List.map_cons, List.flatMap_cons, hbase, List.mem_append] at hx
    refine hx.resolve_right fun hx => ?_
    obtain ⟨v, hv, hx⟩ := List.mem_flatMap.1 hx
    obtain ⟨p, hp, rfl⟩ := List.mem_map.1 hv
    rw [hown p hp] at hx
    cases hx

end RuleStack
