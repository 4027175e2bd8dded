import RuleStack.Proofs.Assembly.Content
import RuleStack.Proofs.Assembly.Gateway
import RuleStack.Proofs.Outcome
import RuleStack.Proofs.Stack.Revision
set_option autoImplicit false

namespace RuleStack

namespace Bundle

def allParameters (bundles : List Bundle) : List (String × Parameter) :=
  bundles.flatMap (·.parameters)

def allResources (bundles : List Bundle) : List (String × Resource) :=
  bundles.flatMap (·.resources)

def allOutputs (bundles : List Bundle) : List (String × Output) := bundles.flatMap (·.outputs)

def allPolicies (bundles : List Bundle) : List Policy := bundles.filterMap (·.policy)

def allParts (bundles : List Bundle) : List Part := bundles.flatMap parts

theorem parameters_parts (b : Bundle) : Part.parameters b.parts = b.parameters := by
  simp [Part.parameters, parts, List.filterMap_map, Function.comp_def, Part.parameter?]

theorem resources_parts (b : Bundle) : Part.resources b.parts = b.resources := by
  have hnone {α : Type} (es : List α) :
      es.filterMap (fun _ => (none : Option (String × Resource))) = [] := by simp
  simp [Part.resources, parts, List.filterMap_map, Function.comp_def, Part.resource?, hnone]

theorem outputs_parts (b : Bundle) : Part.outputs b.parts = b.outputs := by
  have hnone {α : Type} (es : List α) :
      es.filterMap (fun _ => (none : Option (String × Output))) = [] := by simp
  simp [Part.outputs, parts, List.filterMap_map, Function.comp_def, Part.output?, hnone]

theorem filterMap_allParts {α : Type} (select : Part → Option α) {own : Bundle → List α}
    (hown : ∀ b : Bundle, b.parts.filterMap select = own b) (bundles : List Bundle) :
    (allParts bundles).filterMap select = bundles.flatMap own := by
  simp only [allParts, List.filterMap_flatMap, hown]

@[simp] theorem parameters_allParts (bundles : List Bundle) :
    Part.parameters (allParts bundles) = allParameters bundles :=
  filterMap_allParts _ parameters_parts bundles

@[simp] theorem resources_allParts (bundles : List Bundle) :
    Part.resources (allParts bundles) = allResources bundles :=
  filterMap_allParts _ resources_parts bundles

@[simp] theorem outputs_allParts (bundles : List Bundle) :
    Part.outputs (allParts bundles) = allOutputs bundles :=
  filterMap_allParts _ outputs_parts bundles

theorem apart_allResources {bundles : List Bundle}
    (h : ∀ b ∈ bundles, ∀ e ∈ b.resources, e.2.isMethod = true → e.1 ∉ gatewayKeys) :
    Apart (allResources bundles) := by
  intro e he
  obtain ⟨b, hb, heb⟩ := List.mem_flatMap.1 he
  exact h b hb e heb

theorem allPolicies_append (bundles more : List Bundle) :
    allPolicies (bundles ++ more) = allPolicies bundles ++ allPolicies more :=
  List.filterMap_append

theorem allPolicies_singleton (b : Bundle) : allPolicies [b] = b.policy.toList := by
  cases hpolicy : b.policy <;> simp [allPolicies, hpolicy]

end Bundle

theorem Assembly.policies_putBundle {a a' : Assembly} {b : Bundle}
    (h : a.putBundle b = (a', .ok ())) :
    a'.policies = a.policies ++ b.policy.toList ∧ a'.bundleCount = a.bundleCount + 1 := by
  obtain ⟨c, hc, rfl⟩ := (a.putBundle_eq_ok_iff a' b).1 h
  have hparts := policies_putAll b.parts a
  rw [hc] at hparts
  exact ⟨congrArg (· ++ b.policy.toList) hparts.1, congrArg (· + 1) hparts.2⟩

def Bundle.finalResources (deploymentKey : String) (bundles : List Bundle) :
    List (String × Resource) :=
  (if bundles = [] then [] else [(Key.role, executionRole (allPolicies bundles))]) ++
    [(Key.alarmTopic, alarmTopic)] ++
    if hasMethod (allResources bundles) then
      [(deploymentKey, apiDeployment (methodKeysOf (allResources bundles)))]
    else []

/-- The assembly holds the parts of these bundles, and their policies in order. -/
structure Collected (start : Template) (deploymentKey : String) (bundles : List Bundle)
    (a : Assembly) : Prop where
  holds : Holds start deploymentKey (Bundle.allParts bundles) a
  policies : a.policies = Bundle.allPolicies bundles
  bundleCount : a.bundleCount = bundles.length

namespace Collected

variable {start : Template} {deploymentKey : String} {bundles : List Bundle} {a a' : Assembly}

theorem of_start (start : Template) (deploymentKey : String) :
    Collected start deploymentKey [] (.start start deploymentKey) :=
  ⟨.of_start start deploymentKey, rfl, rfl⟩

theorem of_putBundle (h : Collected start deploymentKey bundles a) {b : Bundle}
    (hapart : Apart b.resources) (hput : a.putBundle b = (a', .ok ())) :
    Collected start deploymentKey (bundles ++ [b]) a' := by
  obtain ⟨hpolicies, hcount⟩ := Assembly.policies_putBundle hput
  obtain ⟨c, hc, rfl⟩ := (a.putBundle_eq_ok_iff a' b).1 hput
  have hholds := Assembly.holds_putAll b.parts h.holds (b.resources_parts.symm ▸ hapart) hc
  constructor
  · have hparts : Bundle.allParts (bundles ++ [b]) = Bundle.allParts bundles ++ b.parts := by
      simp [Bundle.allParts]
    rw [hparts]
    exact hholds.of_close b.policy
  · rw [hpolicies, h.policies, Bundle.allPolicies_append, Bundle.allPolicies_singleton]
  · rw [hcount, h.bundleCount, List.length_append, List.length_singleton]

theorem finalResources_eq (h : Collected start deploymentKey bundles a) :
    a.finalResources = Bundle.finalResources deploymentKey bundles := by
  have hgateway := h.holds.hasGateway
  have hmethodKeys := h.holds.methodKeys
  rw [Bundle.resources_allParts] at hgateway hmethodKeys
  have hcount : 0 < a.bundleCount ↔ bundles ≠ [] := by
    rw [h.bundleCount, List.length_pos_iff]
  rw [Assembly.finalResources, Bundle.finalResources, h.policies, hgateway, hmethodKeys,
    h.holds.deploymentKey]
  simp only [hcount, ne_eq, ite_not]

theorem putBundle_of_fits (h : Collected start deploymentKey bundles a) {b : Bundle}
    (hfits : Fits start (Bundle.allParts bundles ++ b.parts)) :
    ∃ a', a.putBundle b = (a', .ok ()) := by
  obtain ⟨c, hc⟩ := Assembly.putAll_of_fits b.parts h.holds hfits
  exact ⟨c.close b.policy, by rw [Assembly.putBundle, hc]⟩

end Collected

namespace StackOptions

variable {start : Template} {deploymentKey : String} {bundles : List Bundle}

theorem putBundles_cons_eq_ok_iff (a a' : Assembly) (b : Bundle) (rest : List Bundle) :
    putBundles a (b :: rest) = .ok a' ↔
      ∃ c, a.putBundle b = (c, .ok ()) ∧ putBundles c rest = .ok a' := by
  rw [putBundles]
  split
  · rename_i c hc
    simp [hc]
  · rename_i c e hc
    simp [hc]

theorem putBundles_collected (more : List Bundle) {bundles : List Bundle} {a a' : Assembly}
    (h : Collected start deploymentKey bundles a) (hapart : Apart (Bundle.allResources more))
    (hput : putBundles a more = .ok a') : Collected start deploymentKey (bundles ++ more) a' := by
  induction more generalizing bundles a with
  | nil =>
    cases hput
    rwa [List.append_nil]
  | cons b rest ih =>
    obtain ⟨c, hc, hrest⟩ := (putBundles_cons_eq_ok_iff a a' b rest).1 hput
    have hb : Apart b.resources := fun e he => hapart e (List.mem_append_left _ he)
    have hapart : Apart (Bundle.allResources rest) :=
      fun e he => hapart e (List.mem_append_right _ he)
    have hcollected := ih (h.of_putBundle hb hc) hapart hrest
    rwa [List.append_assoc] at hcollected

theorem collected_of_putBundles {a : Assembly} (hapart : Apart (Bundle.allResources bundles))
    (hput : putBundles (.start start deploymentKey) bundles = .ok a) :
    Collected start deploymentKey bundles a := by
  have hcollected := putBundles_collected bundles (.of_start start deploymentKey) hapart hput
  rwa [List.nil_append] at hcollected

theorem putBundles_of_fits (more : List Bundle) {bundles : List Bundle} {a : Assembly}
    (h : Collected start deploymentKey bundles a)
    (hfits : Fits start (Bundle.allParts (bundles ++ more))) :
    ∃ a', putBundles a more = .ok a' := by
  induction more generalizing bundles a with
  | nil => exact ⟨a, rfl⟩
  | cons b rest ih =>
    have hsplit : Bundle.allParts (bundles ++ b :: rest) =
        Bundle.allParts bundles ++ b.parts ++ Bundle.allParts rest := by simp [Bundle.allParts]
    rw [hsplit] at hfits
    have hfirst := hfits.of_append
    obtain ⟨c, hc⟩ := h.putBundle_of_fits hfirst
    have hb : Apart b.resources := by
      intro e he
      refine hfirst.apart e ?_
      rw [Part.resources_append, b.resources_parts]
      exact List.mem_append_right _ he
    have hnext : Fits start (Bundle.allParts (bundles ++ [b] ++ rest)) := by
      simpa [Bundle.allParts] using hfits
    obtain ⟨a', ha'⟩ := ih (h.of_putBundle hb hc) hnext
    exact ⟨a', by rw [putBundles, hc]; exact ha'⟩

theorem putBundles_induction {P : Assembly → Prop}
    (hstep : ∀ a part a', P a → a.Step part a' → P a')
    (hclose : ∀ a policy, P a → P (a.close policy)) (bundles : List Bundle) {a a' : Assembly}
    (h : P a) (hput : putBundles a bundles = .ok a') : P a' := by
  induction bundles generalizing a with
  | nil =>
    cases hput
    exact h
  | cons b rest ih =>
    obtain ⟨c, hc, hrest⟩ := (putBundles_cons_eq_ok_iff a a' b rest).1 hput
    obtain ⟨c, hparts, rfl⟩ := (a.putBundle_eq_ok_iff c b).1 hc
    have hkept := Assembly.putAll_induction hstep b.parts h
    rw [hparts] at hkept
    exact ih (hclose c b.policy hkept) hrest

theorem policies_putBundles (bundles : List Bundle) {a a' : Assembly}
    (hput : putBundles a bundles = .ok a') :
    a'.policies = a.policies ++ Bundle.allPolicies bundles ∧
      a'.bundleCount = a.bundleCount + bundles.length := by
  induction bundles generalizing a with
  | nil =>
    cases hput
    exact ⟨(List.append_nil _).symm, rfl⟩
  | cons b rest ih =>
    obtain ⟨c, hc, hrest⟩ := (putBundles_cons_eq_ok_iff a a' b rest).1 hput
    obtain ⟨hpolicies, hcount⟩ := Assembly.policies_putBundle hc
    obtain ⟨hpolicies', hcount'⟩ := ih hrest
    constructor
    · rw [hpolicies', hpolicies, List.append_assoc, ← Bundle.allPolicies_singleton,
        ← Bundle.allPolicies_append, List.singleton_append]
    · rw [hcount', hcount, List.length_cons]
      omega

end StackOptions

theorem StackOptions.compile_eq_ok_iff (o : StackOptions) (base : Template) (bundles : List Bundle)
    (t : Template) :
    o.compile base bundles = .ok t ↔
      ∃ key a, o.revision.deploymentKey base bundles = .ok key ∧
        putBundles (.start (o.seed base) key) bundles = .ok a ∧ a.finish = .ok t := by
  simp only [compile, bind, Except.bind]
  cases o.revision.deploymentKey base bundles with
  | error e => simp
  | ok key =>
    cases hput : putBundles (.start (o.seed base) key) bundles with
    | error e => simp [hput]
    | ok a => simp [hput]

/-- A compile without a method at a key of the shared API finishes an assembly that holds the
bundles. -/
theorem StackOptions.exists_collected {o : StackOptions} {base t : Template} {bundles : List Bundle}
    (hapart : Apart (Bundle.allResources bundles)) (h : o.compile base bundles = .ok t) :
    ∃ deploymentKey a, o.revision.deploymentKey base bundles = .ok deploymentKey ∧
      Collected (o.seed base) deploymentKey bundles a ∧
      (a.hasGateway = true → a.taken a.deploymentKey = false) ∧ t = a.finished := by
  obtain ⟨deploymentKey, a, hkey, hput, hfinish⟩ := (o.compile_eq_ok_iff base bundles t).1 h
  obtain ⟨hfree, rfl⟩ := (a.finish_eq_ok_iff t).1 hfinish
  exact ⟨deploymentKey, a, hkey, collected_of_putBundles hapart hput, hfree, rfl⟩

namespace StackOptions

def sampleBundles : List Bundle := [
  ⟨"audit", [("auditLimit", .text "Number" "how many")],
    [("audit", .make Resource.functionKind []),
      ("auditPermission", .make Resource.permissionKind [])],
    some ⟨"audit", ⟨none, []⟩⟩, []⟩,
  ⟨"hook", [],
    [("hook", .make Resource.functionKind []),
      ("hookGatewayRuleMethod", .make Resource.methodKind [("HttpMethod", .str "POST")])],
    none, [("hookAPIEndpoint", .make (.ref Key.restApi))]⟩]

def sample : StackOptions := ⟨.token "r1", defaultFormatVersion, defaultDescription⟩

theorem apart_sampleBundles :
    ∀ b ∈ sampleBundles, ∀ e ∈ b.resources, e.2.isMethod = true → e.1 ∉ gatewayKeys := by decide

theorem sample_compiles : ∃ t, sample.compile .empty sampleBundles = .ok t :=
  Outcome.exists_of_isOk rfl

end StackOptions
end RuleStack
