import RuleStack.Proofs.Stack.Layers
set_option autoImplicit false

namespace RuleStack

open Template

/-- The bundle is that of a complete rule in which nobody wrote references. -/
def Bundle.OfRule (b : Bundle) : Prop :=
  ∃ (r : Rule) (name runtime : String), r.Complete ∧ r.Inert ∧ r.bundleOf name runtime = b

namespace Rule

theorem mem_gatewayParts_of_isMethod {r : Rule} {name runtime : String} {e : String × Resource}
    (he : e ∈ r.resourcesOf name runtime) (hmethod : e.2.isMethod = true) :
    e ∈ r.gatewayPartsOf name := by
  simp only [resourcesOf, List.mem_append] at he
  rcases he with ((((he | he) | he) | he) | he) | he
  · simp only [coreOf, List.mem_cons, List.not_mem_nil, or_false] at he
    rcases he with rfl | rfl | rfl <;> cases hmethod
  · rw [topicPartsOf] at he
    split at he
    · simp only [List.mem_cons, List.not_mem_nil, or_false] at he
      rcases he with rfl | rfl | rfl <;> cases hmethod
    · cases he
  · obtain ⟨v, -, rfl⟩ := List.mem_map.1 he
    cases hmethod
  · obtain ⟨v, -, rfl⟩ := List.mem_map.1 he
    cases hmethod
  · exact he
  · simp only [alarmsOf, List.mem_cons, List.not_mem_nil, or_false] at he
    rcases he with rfl | rfl <;> cases hmethod

theorem key_of_isMethod {r : Rule} {name runtime : String} {e : String × Resource}
    (he : e ∈ r.resourcesOf name runtime) (hmethod : e.2.isMethod = true) :
    e.1 = Key.method name := by
  obtain ⟨g, -, he⟩ := List.mem_flatMap.1 (mem_gatewayParts_of_isMethod he hmethod)
  obtain ⟨v, -, he⟩ := List.mem_flatMap.1 he
  simp only [List.mem_cons, List.not_mem_nil, or_false] at he
  rcases he with rfl | rfl
  · cases hmethod
  · rfl

/-- A complete rule has a method exactly when it declares an HTTP trigger. -/
theorem hasMethod_resourcesOf {r : Rule} (h : r.Complete) (name runtime : String) :
    hasMethod (r.resourcesOf name runtime) = r.gateway.isSome := by
  cases hgateway : r.gateway with
  | none =>
    rw [Option.isSome_none, ← Bool.not_eq_true, hasMethod_iff]
    rintro ⟨e, he, hmethod⟩
    have hpart := mem_gatewayParts_of_isMethod he hmethod
    rw [gatewayPartsOf, hgateway] at hpart
    cases hpart
  | some g =>
    obtain ⟨v, hv⟩ := h.gateway g hgateway
    exact (hasMethod_iff _).2 ⟨_, (mem_gatewayParts hgateway hv name runtime).2, rfl⟩

theorem method_not_mem_gatewayKeys (name : String) : Key.method name ∉ gatewayKeys := by
  intro h
  have hshort : ∀ key ∈ gatewayKeys, key.length ≤ 15 := by decide
  have hlength := hshort _ h
  rw [Key.method, String.length_append] at hlength
  have hsuffix : "GatewayRuleMethod".length = 17 := by decide
  omega

theorem apart_resourcesOf (r : Rule) (name runtime : String) : Apart (r.resourcesOf name runtime) := by
  intro e he hmethod
  rw [key_of_isMethod he hmethod]
  exact method_not_mem_gatewayKeys name

end Rule

theorem apart_of_rules {bundles : List Bundle} (h : ∀ b ∈ bundles, b.OfRule) :
    Apart (Bundle.allResources bundles) := by
  refine Bundle.apart_allResources fun b hb e he hmethod => ?_
  obtain ⟨r, name, runtime, -, -, rfl⟩ := h b hb
  exact r.apart_resourcesOf name runtime e he hmethod

namespace StackOver

variable {base t : Template} {bundles : List Bundle} {deploymentKey : String}
  (h : StackOver base bundles deploymentKey t)

theorem mem_of_resources {b : Bundle} (hb : b ∈ bundles) {e : String × Resource}
    (he : e ∈ b.resources) : e ∈ Bundle.stackResources deploymentKey bundles := by
  have hmem : e ∈ Bundle.allResources bundles := List.mem_flatMap.2 ⟨b, hb, he⟩
  simp [Bundle.stackResources, hmem]

theorem mem_alarmTopic :
    (Key.alarmTopic, alarmTopic) ∈ Bundle.stackResources deploymentKey bundles := by
  simp [Bundle.stackResources, Bundle.finalResources]

theorem mem_role (hbundles : bundles ≠ []) :
    (Key.role, executionRole (Bundle.allPolicies bundles)) ∈
      Bundle.stackResources deploymentKey bundles := by
  simp [Bundle.stackResources, Bundle.finalResources, hbundles]

theorem mem_gateway (hmethod : hasMethod (Bundle.allResources bundles) = true)
    {e : String × Resource} (he : e ∈ gatewayResources deploymentKey) :
    e ∈ Bundle.stackResources deploymentKey bundles := by
  simp [Bundle.stackResources, gatewayFor, hmethod, he]

theorem mem_deployment (hmethod : hasMethod (Bundle.allResources bundles) = true) :
    (deploymentKey, apiDeployment (methodKeysOf (Bundle.allResources bundles))) ∈
      Bundle.stackResources deploymentKey bundles := by
  simp [Bundle.stackResources, Bundle.finalResources, hmethod]

theorem answers_alarmTopic {bound : Nat} (hbound : 0 < bound) :
    t.Answers Resource.rank (Bundle.stackResources deploymentKey bundles) bound
      (.ref Key.alarmTopic) :=
  answers_resource mem_alarmTopic (by rwa [Resource.rank_alarmTopic])

theorem answers_restApi (hmethod : hasMethod (Bundle.allResources bundles) = true) {bound : Nat}
    (hbound : 0 < bound) :
    t.Answers Resource.rank (Bundle.stackResources deploymentKey bundles) bound
      (.ref Key.restApi) :=
  answers_resource (mem_gateway hmethod List.mem_cons_self) (by rwa [Resource.rank_restApi])

theorem answers_gatewayResources (hmethod : hasMethod (Bundle.allResources bundles) = true)
    {e : String × Resource} (he : e ∈ gatewayResources deploymentKey) {x : Reference}
    (hx : x ∈ e.2.references) :
    t.Answers Resource.rank (Bundle.stackResources deploymentKey bundles) e.2.rank x := by
  simp only [gatewayResources, List.cons_append, List.nil_append, List.mem_cons] at he
  rcases he with rfl | rfl | he
  · cases List.mem_singleton.1 (references_restApi hx)
    exact answers_pseudo (by decide)
  · have hx := references_apiKey deploymentKey hx
    simp only [List.mem_cons, List.not_mem_nil, or_false] at hx
    rw [Resource.rank_apiKey]
    rcases hx with rfl | rfl | rfl
    · refine answers_resource (mem_deployment hmethod) ?_
      rw [Resource.rank_apiDeployment]
      decide
    · exact answers_pseudo (by decide)
    · exact answers_restApi hmethod (by decide)
  · have hrank : e.2.rank = 3 := by
      simp only [gatewayAlarms, List.mem_cons, List.not_mem_nil, or_false] at he
      rcases he with rfl | rfl | rfl <;> exact Resource.rank_alarm _
    have hx := references_gatewayAlarms e he hx
    simp only [List.mem_cons, List.not_mem_nil, or_false] at hx
    rw [hrank]
    rcases hx with rfl | rfl
    · exact answers_alarmTopic (by decide)
    · exact answers_pseudo (by decide)

theorem answers_apiDeployment (hmethod : hasMethod (Bundle.allResources bundles) = true)
    {x : Reference}
    (hx : x ∈ (apiDeployment (methodKeysOf (Bundle.allResources bundles))).references) :
    t.Answers Resource.rank (Bundle.stackResources deploymentKey bundles) 4 x := by
  rcases List.mem_cons.1 (references_apiDeployment _ hx) with rfl | hx
  · exact answers_restApi hmethod (by decide)
  · obtain ⟨key, hkey, rfl⟩ := List.mem_map.1 hx
    obtain ⟨e, he, rfl⟩ := List.mem_map.1 hkey
    obtain ⟨he, heMethod⟩ := List.mem_filter.1 he
    obtain ⟨b, hb, he⟩ := List.mem_flatMap.1 he
    refine answers_resource (mem_of_resources hb he) ?_
    rw [Resource.rank_of_isMethod heMethod]
    decide

theorem answers_executionRole (hrules : ∀ b ∈ bundles, b.OfRule) {x : Reference}
    (hx : x ∈ (executionRole (Bundle.allPolicies bundles)).references) :
    t.Answers Resource.rank (Bundle.stackResources deploymentKey bundles) 1 x := by
  have hinert : ∀ p ∈ Bundle.allPolicies bundles, p.toJson.isInert = true := by
    intro p hp
    obtain ⟨b, hb, hp⟩ := List.mem_filterMap.1 hp
    obtain ⟨r, name, runtime, -, hinert, rfl⟩ := hrules b hb
    exact hinert.isInert_policyOf hp
  have hx := references_executionRole hinert hx
  simp only [List.mem_cons, List.not_mem_nil, or_false] at hx
  rcases hx with rfl | rfl
  · exact answers_pseudo (by decide)
  · exact answers_alarmTopic (by decide)

include h

theorem placed {r : Rule} {name runtime : String} (hcomplete : r.Complete)
    (hb : r.bundleOf name runtime ∈ bundles) :
    r.Placed name runtime (Bundle.stackResources deploymentKey bundles) t where
  own e he := mem_of_resources hb he
  globals := h.globals
  parameters e he :=
    h.parameters e.1 (List.mem_map_of_mem (List.mem_flatMap.2 ⟨_, hb, he⟩))
  role := ⟨_, mem_role (List.ne_nil_of_mem hb)⟩
  topic := mem_alarmTopic
  restApi := by
    intro hgateway
    obtain ⟨g, hg⟩ := Option.isSome_iff_exists.1 hgateway
    obtain ⟨v, hv⟩ := hcomplete.gateway g hg
    have hentry := (Rule.mem_gatewayParts hg hv name runtime).2
    have hmethod : hasMethod (Bundle.allResources bundles) = true :=
      (hasMethod_iff _).2 ⟨_, List.mem_flatMap.2 ⟨_, hb, hentry⟩, rfl⟩
    exact mem_gateway hmethod List.mem_cons_self

/-- In a stack of rules all that the stack adds is layered by rank. -/
theorem layered (hrules : ∀ b ∈ bundles, b.OfRule) :
    t.Layered Resource.rank (Bundle.stackResources deploymentKey bundles) := by
  intro e he x hx
  simp only [Bundle.stackResources, Bundle.finalResources, List.mem_append] at he
  rcases he with (he | he) | ((he | he) | he)
  · rw [gatewayFor] at he
    split at he
    · rename_i hmethod
      exact answers_gatewayResources hmethod he hx
    · cases he
  · obtain ⟨b, hb, hentry⟩ := List.mem_flatMap.1 he
    obtain ⟨r, name, runtime, hcomplete, hinert, rfl⟩ := hrules b hb
    exact (h.placed hcomplete hb).answers_resourcesOf hinert hentry hx
  · split at he
    · cases he
    · cases List.mem_singleton.1 he
      rw [Resource.rank_executionRole]
      exact answers_executionRole hrules hx
  · cases List.mem_singleton.1 he
    have hx := references_alarmTopic hx
    simp only [List.mem_cons, List.not_mem_nil, or_false] at hx
    rcases hx with rfl | rfl
    · exact answers_pseudo (by decide)
    · exact answers_parameter (h.globals _ (by decide))
  · split at he
    · rename_i hmethod
      cases List.mem_singleton.1 he
      rw [Resource.rank_apiDeployment]
      exact answers_apiDeployment hmethod hx
    · cases he

/-- In a stack of rules the outputs beside those of the base template refer to what the stack has. -/
theorem answers_outputs (hrules : ∀ b ∈ bundles, b.OfRule) {e : String × Output}
    (he : e ∈ gatewayOutputFor (Bundle.allResources bundles) ++ Bundle.allOutputs bundles)
    {x : Reference} (hx : x ∈ e.2.references) :
    t.Answers Resource.rank (Bundle.stackResources deploymentKey bundles) 6 x := by
  rcases List.mem_append.1 he with he | he
  · rw [gatewayOutputFor] at he
    split at he
    · rename_i hmethod
      cases List.mem_singleton.1 he
      have hx : x = .ref Key.apiKey := by simpa [apiKeyOutput, references_output] using hx
      subst hx
      refine answers_resource (mem_gateway hmethod (List.mem_cons_of_mem _ List.mem_cons_self)) ?_
      rw [Resource.rank_apiKey]
      decide
    · cases he
  · obtain ⟨b, hb, he⟩ := List.mem_flatMap.1 he
    obtain ⟨r, name, runtime, hcomplete, -, rfl⟩ := hrules b hb
    exact (h.placed hcomplete hb).answers_outputsOf he hx

end StackOver
end RuleStack
