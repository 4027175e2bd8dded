import RuleStack.Proofs.Bundle.Keys
import RuleStack.Proofs.Compiler.Run
/-!
A key is new to its section when it is put in, and nobody looks at the other sections, so one key
may name a parameter and a resource. `run_unambiguous_iff` says when that happens.
-/
set_option autoImplicit false

namespace RuleStack

/-- No key names both a parameter and a resource. -/
def Template.Unambiguous (t : Template) : Prop :=
  ∀ key ∈ t.parameters.keys, key ∉ t.resources.keys

instance (t : Template) : Decidable t.Unambiguous :=
  inferInstanceAs (Decidable (∀ key ∈ t.parameters.keys, key ∉ t.resources.keys))

/-- The keys of what a stack makes for itself: the alarm topic, with a bundle the role, and with a
method the shared API and its deployment. -/
def stackKeys (deploymentKey : String) (bundled method : Bool) : List String :=
  Key.alarmTopic :: (if bundled then [Key.role] else []) ++
    if method then deploymentKey :: gatewayKeys else []

namespace Rule

def suffixes : List String :=
  ["Permission", "SNSTopic", "SNSUser", "SNSUserAccessKey", "EventRule", "ScheduledRule",
    "GatewayRuleResource", "GatewayRuleMethod", "AlarmErrors", "AlarmNoInvocations"]

theorem of_mem_resourceKeys {r : Rule} {name key : String} (h : key ∈ r.resourceKeys name) :
    key = name ∨ key = Key.environment name ∨ ∃ suffix ∈ suffixes, key = name ++ suffix := by
  have hany : (∃ suffix ∈ suffixes, key = name ++ suffix) ↔ key ∈ suffixes.map (name ++ ·) := by
    simp only [List.mem_map, eq_comm]
  rw [hany]
  simp only [resourceKeys, Key.permission, Key.topic, Key.topicUser, Key.topicAccessKey,
    Key.eventRule, Key.scheduledRule, Key.route, Key.method, Key.alarm, String.append_assoc,
    List.mem_append, List.mem_ite_nil_right, List.mem_cons, List.not_mem_nil, or_false] at h
  simp only [suffixes, List.map_cons, List.map_nil, List.mem_cons, List.not_mem_nil, or_false]
  grind

/-- Of the resources of a rule only the function can have the key of a parameter that every stack
declares. -/
theorem mem_resourceKeys_global_iff (r : Rule) {name key : String} (hname : name ≠ "")
    (hglobal : key ∈ StackOptions.globalKeys) : key ∈ r.resourceKeys name ↔ key = name := by
  constructor
  · intro hkey
    rcases of_mem_resourceKeys hkey with hkey | rfl | ⟨suffix, hsuffix, rfl⟩
    · exact hkey
    · have hprefix : ∀ key ∈ StackOptions.globalKeys,
          "StreambotEnv".toList <+: key.toList → key = "StreambotEnv" := by decide
      have hbare := hprefix _ hglobal (by simp [Key.environment])
      have hempty : name = "" := by simpa [Key.environment] using hbare
      exact absurd hempty hname
    · have hends : ∀ key ∈ StackOptions.globalKeys, ∀ suffix ∈ suffixes,
          ¬ suffix.toList <:+ key.toList := by decide
      exact absurd (by simp) (hends _ hglobal suffix hsuffix)
  · rintro rfl
    simp [resourceKeys]

end Rule

namespace Bundle

theorem keys_stackResources (deploymentKey : String) (bundles : List Bundle) (key : String) :
    key ∈ (stackResources deploymentKey bundles).map (·.1) ↔
      key ∈ resourceKeys bundles ∨
        key ∈ stackKeys deploymentKey (!bundles.isEmpty) (hasMethod (allResources bundles)) := by
  simp only [stackResources, finalResources, gatewayFor, resourceKeys, stackKeys]
  cases hasMethod (allResources bundles) <;> cases bundles <;>
    simp [map_fst_gatewayResources] <;> grind

end Bundle

theorem global_not_mem_stackKeys {key : String} (h : key ∈ StackOptions.globalKeys)
    (suffix : String) (bundled method : Bool) :
    key ∉ stackKeys (Key.deployment suffix) bundled method := by
  have hown : ∀ key ∈ StackOptions.globalKeys,
      key ∉ Key.alarmTopic :: Key.role :: gatewayKeys ∧
        ¬ "ApiDeployment".toList <+: key.toList := by decide
  obtain ⟨hkeys, hdeployment⟩ := hown key h
  have hne := Revision.deployment_ne hdeployment suffix
  simp only [List.mem_cons, not_or] at hkeys
  cases bundled <;> cases method <;> simp [stackKeys, hkeys, hne.symm]

namespace Compiler

variable {c : Compiler} {definitions : List Definition} {bundles : List Bundle}

def ruleKeys (c : Compiler) (keys : Rule → String → List String) (definitions : List Definition) :
    List String :=
  definitions.flatMap fun d => (c.prepare d).name.toList.flatMap (keys (c.prepare d))

def sharedKeys (deploymentKey : String) (definitions : List Definition) : List String :=
  stackKeys deploymentKey (!definitions.isEmpty) (definitions.any (·.rule.gateway.isSome))

/-- The names in use keep the parameters and the resources of a stack of rules apart. -/
structure KeysApart (c : Compiler) (base : Template) (definitions : List Definition)
    (deploymentKey : String) : Prop where
  globals : ∀ key ∈ StackOptions.globalKeys,
    key ∉ base.resources.keys ∧ ∀ d ∈ definitions, (c.prepare d).name ≠ some key
  baseParameters : ∀ key ∈ base.parameters.keys,
    key ∉ c.ruleKeys Rule.resourceKeys definitions ∧ key ∉ sharedKeys deploymentKey definitions
  ruleParameters : ∀ key ∈ c.ruleKeys Rule.parameterKeys definitions,
    key ∉ base.resources.keys ∧ key ∉ c.ruleKeys Rule.resourceKeys definitions ∧
      key ∉ sharedKeys deploymentKey definitions

section Bundles

variable (h : c.bundles definitions = .ok bundles)
include h

theorem parameterKeys_of_bundles :
    Bundle.parameterKeys bundles = c.ruleKeys Rule.parameterKeys definitions := by
  rw [Bundle.parameterKeys, Bundle.allParameters, ruleKeys, List.map_flatMap, List.flatMap_def,
    List.flatMap_def]
  refine congrArg List.flatten (map_of_bundles h fun d b hb => ?_)
  obtain ⟨name, husable, -, rfl⟩ := (c.bundle_eq_ok_iff d b).1 hb
  have hname : (c.prepare d).name = some name := (Option.filter_eq_some_iff.1 husable).1
  rw [hname, Option.toList_some, List.flatMap_singleton]
  exact (c.prepare d).map_fst_parametersOf name

theorem resourceKeys_of_bundles :
    Bundle.resourceKeys bundles = c.ruleKeys Rule.resourceKeys definitions := by
  rw [Bundle.resourceKeys, Bundle.allResources, ruleKeys, List.map_flatMap, List.flatMap_def,
    List.flatMap_def]
  refine congrArg List.flatten (map_of_bundles h fun d b hb => ?_)
  obtain ⟨name, husable, hcomplete, rfl⟩ := (c.bundle_eq_ok_iff d b).1 hb
  have hname : (c.prepare d).name = some name := (Option.filter_eq_some_iff.1 husable).1
  rw [hname, Option.toList_some, List.flatMap_singleton]
  exact Rule.map_fst_resourcesOf hcomplete name c.runtime

theorem sharedKeys_of_bundles (deploymentKey : String) :
    stackKeys deploymentKey (!bundles.isEmpty) (hasMethod (Bundle.allResources bundles)) =
      sharedKeys deploymentKey definitions := by
  have hempty : bundles.isEmpty = definitions.isEmpty := by
    have hsame := congrArg List.isEmpty ((c.bundles_eq_ok_iff _ _).1 h)
    rw [List.isEmpty_map, List.isEmpty_map] at hsame
    exact hsame.symm
  have hflags : bundles.map (fun b => hasMethod b.resources) =
      definitions.map (·.rule.gateway.isSome) := by
    refine map_of_bundles h fun d b hb => ?_
    obtain ⟨name, -, hcomplete, rfl⟩ := (c.bundle_eq_ok_iff d b).1 hb
    exact Rule.hasMethod_resourcesOf hcomplete name c.runtime
  have hmethod : hasMethod (Bundle.allResources bundles) =
      definitions.any (·.rule.gateway.isSome) := by
    have hany := congrArg (List.any · id) hflags
    simp only [List.any_map] at hany
    rw [hasMethod, Bundle.allResources, List.any_flatMap]
    exact hany
  rw [sharedKeys, hempty, hmethod]

/-- A parameter that every stack declares has the key of a rule's resource just where a rule is
called like it. -/
theorem global_mem_ruleKeys_iff {key : String} (hglobal : key ∈ StackOptions.globalKeys) :
    key ∈ c.ruleKeys Rule.resourceKeys definitions ↔
      ∃ d ∈ definitions, (c.prepare d).name = some key := by
  rw [ruleKeys, List.mem_flatMap]
  refine exists_congr fun d => and_congr_right fun hd => ?_
  obtain ⟨b, -, hb⟩ := exists_bundle_of_mem h hd
  obtain ⟨name, husable, -, -⟩ := (c.bundle_eq_ok_iff d b).1 hb
  obtain ⟨hname, hblank⟩ := Option.filter_eq_some_iff.1 husable
  have hne : name ≠ "" := by
    rintro rfl
    cases hblank
  have hname : (c.prepare d).name = some name := hname
  rw [hname, Option.toList_some, List.flatMap_singleton,
    Rule.mem_resourceKeys_global_iff _ hne hglobal, Option.some.injEq, eq_comm]

end Bundles

/-- Over an unambiguous base template a run gives an unambiguous template exactly when the names
keep parameters and resources apart: no key is checked against the keys of another section. -/
theorem run_unambiguous_iff (c : Compiler) (base : Template) (definitions : List Definition)
    (hbase : base.Unambiguous) (t : Template) (h : c.run base (.ok definitions) = .ok t) :
    ∃ bundles deploymentKey, c.bundles definitions = .ok bundles ∧
      c.options.revision.deploymentKey base bundles = .ok deploymentKey ∧
      (t.Unambiguous ↔ c.KeysApart base definitions deploymentKey) := by
  obtain ⟨ds, bundles, hds, hbundles, hcompile⟩ := (c.run_eq_ok_iff base _ t).1 h
  cases hds
  obtain ⟨deploymentKey, a, hkey, hcollected, -, rfl⟩ :=
    StackOptions.exists_collected (apart_of_bundles hbundles) hcompile
  refine ⟨bundles, deploymentKey, hbundles, hkey, ?_⟩
  obtain ⟨suffix, rfl⟩ := Revision.exists_suffix hkey
  have hparameters := StackOptions.mem_parameters_of_collected hcollected
  have hresources := StackOptions.mem_resources_of_collected hcollected
  simp only [Bundle.keys_stackResources, resourceKeys_of_bundles hbundles,
    sharedKeys_of_bundles hbundles] at hresources
  simp only [parameterKeys_of_bundles hbundles] at hparameters
  have hglobals : ∀ key ∈ StackOptions.globalKeys,
      key ∉ sharedKeys (Key.deployment suffix) definitions :=
    fun key hkey => global_not_mem_stackKeys hkey suffix _ _
  constructor
  · intro ht
    have hapart {key : String} (hkey : key ∈ a.finished.parameters.keys) := ht key hkey
    simp only [hparameters, hresources, not_or] at hapart
    refine ⟨fun key hkey => ?_, fun key hkey => ?_, fun key hkey => hapart (.inr hkey)⟩
    · obtain ⟨hfree, hrules, -⟩ := hapart (.inl (.inr hkey))
      rw [global_mem_ruleKeys_iff hbundles hkey] at hrules
      exact ⟨hfree, fun d hd hname => hrules ⟨d, hd, hname⟩⟩
    · exact (hapart (.inl (.inl hkey))).2
  · intro hapart key hkey
    rw [hparameters] at hkey
    simp only [hresources, not_or]
    rcases hkey with (hkey | hkey) | hkey
    · exact ⟨hbase key hkey, hapart.baseParameters key hkey⟩
    · obtain ⟨hfree, hrules⟩ := hapart.globals key hkey
      refine ⟨hfree, ?_, hglobals key hkey⟩
      rw [global_mem_ruleKeys_iff hbundles hkey]
      exact fun ⟨d, hd, hname⟩ => hrules d hd hname
    · exact hapart.ruleParameters key hkey

theorem run_unambiguous_iff_sample :
    sampleBase.Unambiguous ∧
      ∃ t, sample.run sampleBase (.ok sampleDefinitions) = .ok t ∧ t.Unambiguous := by
  have hbase : sampleBase.Unambiguous := by decide
  obtain ⟨t, ht⟩ := sampleDefinitions_compile
  obtain ⟨bundles, deploymentKey, -, hkey, hiff⟩ :=
    run_unambiguous_iff sample sampleBase sampleDefinitions hbase t ht
  have hdeployment : sample.options.revision.deploymentKey sampleBase bundles =
      .ok "ApiDeploymentr1" := rfl
  cases hkey.symm.trans hdeployment
  refine ⟨hbase, t, ht, hiff.2 ⟨?globals, ?baseParameters, ?ruleParameters⟩⟩
  case globals => decide
  case baseParameters => decide
  case ruleParameters => decide

def sampleAmbiguous : Definition :=
  ⟨"rules/audit.js",
    { Rule.empty with
      name := some "audit"
      parameters := .ofList [("Permission", .text "String" "who may")] }⟩

/-- A run over the empty base template gives a parameter and a resource with the same key, and the
environment of the rule refers to that key. -/
theorem permission_is_ambiguous :
    Template.empty.Unambiguous ∧
      ∃ t, sample.run .empty (.ok [sampleAmbiguous]) = .ok t ∧
        "auditPermission" ∈ t.parameters.keys ∧ "auditPermission" ∈ t.resources.keys ∧
        ∃ r ∈ t.resources.get? "StreambotEnvaudit", .ref "auditPermission" ∈ r.references := by
  have hempty : Template.empty.Unambiguous := by decide
  exact ⟨hempty, Outcome.exists_ok_of_decide rfl⟩

end Compiler
end RuleStack
