import RuleStack.Proofs.Stack.Compile
/-!
A compile keeps all resources of the base template but those at two keys (`compile_base_resource`).
Each section of the compiled template is given by its entries, none of which is lost, put in twice
or overwritten (`compile_document`).
-/
set_option autoImplicit false

namespace RuleStack

namespace StackOptions

theorem get?_resource_putBundles {a a' : Assembly} {bundles : List Bundle} {key : String}
    {value : Resource} (hput : putBundles a bundles = .ok a')
    (h : a.template.resources.get? key = some value) :
    a'.template.resources.get? key = some value :=
  putBundles_induction (P := fun b => b.template.resources.get? key = some value)
    (fun _ _ _ hvalue hstep => hstep.get?_resource hvalue) (fun _ _ hvalue => hvalue) bundles h hput

/-- A successful compile keeps each resource of the base template under its key. The exceptions are
the role, which the stack replaces by its own as soon as there is a bundle, and the alarm topic,
which it always replaces. -/
theorem compile_base_resource (o : StackOptions) (base : Template) (bundles : List Bundle)
    (t : Template) (h : o.compile base bundles = .ok t) (key : String) (value : Resource)
    (hvalue : base.resources.get? key = some value) :
    t.resources.get? key =
      some (if key = Key.alarmTopic then alarmTopic
        else if key = Key.role ∧ bundles ≠ [] then executionRole (Bundle.allPolicies bundles)
        else value) := by
  obtain ⟨deploymentKey, a, -, hput, hfinish⟩ := (o.compile_eq_ok_iff base bundles t).1 h
  obtain ⟨hfree, rfl⟩ := (a.finish_eq_ok_iff t).1 hfinish
  obtain ⟨hpolicies, hcount⟩ := policies_putBundles bundles hput
  have hkept : a.template.resources.get? key = some value := get?_resource_putBundles hput hvalue
  have hdeployment : ¬ (a.hasGateway = true ∧ key = a.deploymentKey) := by
    rintro ⟨hgateway, rfl⟩
    exact ((a.taken_eq_false_iff _).1 (hfree hgateway)).1 (KeyMap.mem_keys_of_get? hkept)
  have hbundles : 0 < a.bundleCount ↔ bundles ≠ [] := by
    rw [hcount, ← List.length_pos_iff, Assembly.start, Nat.zero_add]
  have hown : a.policies = Bundle.allPolicies bundles := hpolicies
  rw [a.get?_resources_finished, if_neg hdeployment, hkept, hown]
  simp only [hbundles, apply_ite some]

def sampleBase : Template :=
  { Template.empty with
    resources := .ofList [
      (Key.role, .make Resource.roleKind [("Path", .str "/audit/")]),
      ("Table", .make "AWS::DynamoDB::Table" [])] }

theorem sampleBase_compiles : ∃ t, sample.compile sampleBase sampleBundles = .ok t :=
  Outcome.exists_of_isOk (by decide)

theorem compile_base_resource_sample :
    ∃ t, sample.compile sampleBase sampleBundles = .ok t ∧
      sampleBase.resources.get? "Table" = some (.make "AWS::DynamoDB::Table" []) ∧
      t.resources.get? "Table" = some (.make "AWS::DynamoDB::Table" []) := by
  obtain ⟨t, ht⟩ := sampleBase_compiles
  have htable : sampleBase.resources.get? "Table" = some (.make "AWS::DynamoDB::Table" []) := by
    decide
  exact ⟨t, ht, htable, compile_base_resource sample sampleBase sampleBundles t ht "Table" _ htable⟩

/-- A compile that succeeds replaces the role of the base template. -/
theorem base_role_replaced :
    ∃ t, sample.compile sampleBase sampleBundles = .ok t ∧
      t.resources.get? Key.role ≠ sampleBase.resources.get? Key.role := by
  obtain ⟨t, ht⟩ := sampleBase_compiles
  have hrole : ((sample.compile sampleBase sampleBundles).toOption.map fun t =>
      t.resources.get? Key.role) ≠ some (sampleBase.resources.get? Key.role) := by decide
  rw [ht] at hrole
  exact ⟨t, ht, fun h => hrole (congrArg some h)⟩

end StackOptions

/-- The base template, the bundles, and what the stack adds to them, with nothing else. -/
structure StackOptions.Document (o : StackOptions) (base : Template) (bundles : List Bundle)
    (deploymentKey : String) (t : Template) : Prop where
  formatVersion : t.formatVersion = some (base.formatVersion.getD o.formatVersion)
  description : t.description = some (base.description.getD o.description)
  extra : t.extra = base.extra
  parameters : t.parameters.entries.Perm
    (base.parameters.entries.filter (fun e => !(globalParameters.map (·.1)).contains e.1) ++
      globalParameters ++ Bundle.allParameters bundles)
  outputs : t.outputs.entries.Perm
    (base.outputs.entries ++
      (if hasMethod (Bundle.allResources bundles)
        then [(Key.apiKeyOutput, .make (.ref Key.apiKey))] else []) ++
      Bundle.allOutputs bundles)
  resources : t.resources.entries.Perm
    (base.resources.entries ++
      (if hasMethod (Bundle.allResources bundles) then gatewayResources deploymentKey else []) ++
      Bundle.allResources bundles ++
      (if bundles = [] then [] else [(Key.role, executionRole (Bundle.allPolicies bundles))]) ++
      [(Key.alarmTopic, alarmTopic)] ++
      (if hasMethod (Bundle.allResources bundles)
        then [(deploymentKey, apiDeployment (methodKeysOf (Bundle.allResources bundles)))]
        else []))

theorem Holds.not_mem_of_reserved {start : Template} {deploymentKey : String} {parts : List Part}
    {a : Assembly} (h : Holds start deploymentKey parts a) {key : String}
    (hreserved : Assembly.reserved key = true) (hstart : key ∉ start.resources.keys) :
    key ∉ a.template.resources.keys := by
  rw [KeyMap.mem_keys_iff_of_perm h.resources, List.append_assoc, List.map_append, List.mem_append,
    not_or]
  refine ⟨hstart, fun hm => ?_⟩
  obtain ⟨e, he, rfl⟩ := List.mem_map.1 hm
  rw [h.reserved_of_mem he] at hreserved
  cases hreserved

namespace StackOptions

theorem document_of_collected {o : StackOptions} {base : Template} {bundles : List Bundle}
    {deploymentKey : String} {a : Assembly}
    (h : Collected (o.seed base) deploymentKey bundles a)
    (hrole : Key.role ∉ base.resources.keys) (htopic : Key.alarmTopic ∉ base.resources.keys)
    (hfree : a.hasGateway = true → a.taken a.deploymentKey = false) :
    o.Document base bundles deploymentKey a.finished := by
  have hholds := h.holds
  have hresources := hholds.resources
  have houtputs := hholds.outputs
  have hparameters := hholds.parameters
  rw [Bundle.resources_allParts] at hresources houtputs
  rw [Bundle.outputs_allParts] at houtputs
  rw [Bundle.parameters_allParts] at hparameters
  have hnodup : (globalParameters.map (·.1)).Nodup := by decide
  have hseed := KeyMap.entries_insertAll_perm base.parameters hnodup
  have hkept : ∀ key, Assembly.reserved key = true → key ∉ a.template.resources.keys := by
    intro key hreserved
    refine hholds.not_mem_of_reserved hreserved ?_
    rw [Assembly.reserved, Bool.or_eq_true, beq_iff_eq, beq_iff_eq] at hreserved
    rcases hreserved with rfl | rfl
    · exact hrole
    · exact htopic
  have hfinal := KeyMap.entries_insertAll_perm_of_perm hresources
    (Assembly.nodup_finalResources hfree) (Assembly.finalResources_free hfree hkept)
  refine ⟨hholds.formatVersion, hholds.description, hholds.extra,
    hparameters.trans (hseed.append_right _), houtputs, ?_⟩
  rw [a.resources_finished, h.finalResources_eq, Bundle.finalResources]
  rw [h.finalResources_eq, Bundle.finalResources, ← List.append_assoc, ← List.append_assoc] at hfinal
  exact hfinal

/-- A compile over a base template without the resources that a stack owns gives exactly the base
template, the bundles and what the stack adds. -/
theorem compile_document (o : StackOptions) (base : Template) (bundles : List Bundle)
    (hrole : Key.role ∉ base.resources.keys) (htopic : Key.alarmTopic ∉ base.resources.keys)
    (hapart : ∀ b ∈ bundles, ∀ e ∈ b.resources, e.2.isMethod = true → e.1 ∉ gatewayKeys)
    (t : Template) (ht : o.compile base bundles = .ok t) (deploymentKey : String)
    (hkey : o.revision.deploymentKey base bundles = .ok deploymentKey) :
    o.Document base bundles deploymentKey t := by
  obtain ⟨key, a, hkey', hput, hfinish⟩ := (o.compile_eq_ok_iff base bundles t).1 ht
  cases hkey.symm.trans hkey'
  have hall := Bundle.apart_allResources hapart
  obtain ⟨hfree, rfl⟩ := (a.finish_eq_ok_iff t).1 hfinish
  exact document_of_collected (collected_of_putBundles hall hput) hrole htopic hfree

theorem compile_document_sample :
    Key.role ∉ Template.empty.resources.keys ∧ Key.alarmTopic ∉ Template.empty.resources.keys ∧
      (∀ b ∈ sampleBundles, ∀ e ∈ b.resources, e.2.isMethod = true → e.1 ∉ gatewayKeys) ∧
      ∃ t, sample.compile .empty sampleBundles = .ok t ∧
        sample.revision.deploymentKey .empty sampleBundles = .ok "ApiDeploymentr1" ∧
        sample.Document .empty sampleBundles "ApiDeploymentr1" t := by
  have hrole : Key.role ∉ Template.empty.resources.keys := List.not_mem_nil
  have htopic : Key.alarmTopic ∉ Template.empty.resources.keys := List.not_mem_nil
  have hkey : sample.revision.deploymentKey .empty sampleBundles = .ok "ApiDeploymentr1" := rfl
  obtain ⟨t, ht⟩ := sample_compiles
  exact ⟨hrole, htopic, apart_sampleBundles, t, ht, hkey,
    compile_document sample .empty sampleBundles hrole htopic apart_sampleBundles t ht _ hkey⟩

end StackOptions
end RuleStack
