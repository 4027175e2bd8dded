import RuleStack.Proofs.Stack.Document
import RuleStack.Proofs.Stack.Order
/-!
Whether a compile succeeds does not depend on where a part stands: no key is taken twice, and
nothing stands where the stack puts its own resources (`compile_succeeds_iff`).
-/
set_option autoImplicit false

namespace RuleStack

namespace Bundle

def parameterKeys (bundles : List Bundle) : List String := (allParameters bundles).map (·.1)

def resourceKeys (bundles : List Bundle) : List String := (allResources bundles).map (·.1)

def outputKeys (bundles : List Bundle) : List String := (allOutputs bundles).map (·.1)

end Bundle

namespace StackOptions

def globalKeys : List String := globalParameters.map (·.1)

/-- The conditions under which bundles compile over a base template. -/
structure Accepts (o : StackOptions) (base : Template) (bundles : List Bundle) : Prop where
  token : ∀ token, o.revision = .token token →
    1 ≤ token.length ∧ token.length ≤ 64 ∧ ∀ c ∈ token.toList, c.isAlphanum = true
  parameters : (Bundle.parameterKeys bundles).Nodup ∧
    ∀ key ∈ Bundle.parameterKeys bundles, key ∉ base.parameters.keys ∧ key ∉ globalKeys
  resources : (Bundle.resourceKeys bundles).Nodup ∧
    ∀ key ∈ Bundle.resourceKeys bundles,
      key ∉ base.resources.keys ∧ key ≠ Key.role ∧ key ≠ Key.alarmTopic
  outputs : (Bundle.outputKeys bundles).Nodup ∧
    ∀ key ∈ Bundle.outputKeys bundles, key ∉ base.outputs.keys
  /-- A method needs room for the shared API, for its deployment and for the output with its key. -/
  gateway : (∃ e ∈ Bundle.allResources bundles, e.2.isMethod = true) →
    (∀ key ∈ gatewayKeys, key ∉ base.resources.keys ∧ key ∉ Bundle.resourceKeys bundles) ∧
    (∀ key, o.revision.deploymentKey base bundles = .ok key →
      key ∉ base.resources.keys ∧ key ∉ Bundle.resourceKeys bundles) ∧
    Key.apiKeyOutput ∉ base.outputs.keys ∧ Key.apiKeyOutput ∉ Bundle.outputKeys bundles

end StackOptions

theorem reserved_eq_false_iff (key : String) :
    Assembly.reserved key = false ↔ key ≠ Key.role ∧ key ≠ Key.alarmTopic := by
  simp [Assembly.reserved]

theorem hasMethod_iff (rs : List (String × Resource)) :
    hasMethod rs = true ↔ ∃ e ∈ rs, e.2.isMethod = true := List.any_eq_true

theorem nodup_keys_gateway_iff {α : Type} (m : KeyMap α) (method : Bool) (own : List String)
    (hown : own.Nodup) (keys : List String) :
    (m.keys ++ (if method then own else []) ++ keys).Nodup ↔
      (keys.Nodup ∧ ∀ key ∈ keys, key ∉ m.keys) ∧
      (method = true → ∀ key ∈ own, key ∉ m.keys ∧ key ∉ keys) := by
  rw [List.append_assoc, KeyMap.nodup_keys_append_iff, List.nodup_append]
  cases method with
  | false => simp
  | true =>
    simp only [if_true, List.mem_append, forall_const]
    constructor
    · rintro ⟨⟨-, hn, hd⟩, hm⟩
      exact ⟨⟨hn, fun key hk => hm key (.inr hk)⟩,
        fun key hk => ⟨hm key (.inl hk), fun hk' => hd key hk key hk' rfl⟩⟩
    · rintro ⟨⟨hn, hm⟩, hd⟩
      refine ⟨⟨hown, hn, fun x hx y hy he => (hd x hx).2 (he ▸ hy)⟩, fun key hk => ?_⟩
      rcases hk with hk | hk
      · exact (hd key hk).1
      · exact hm key hk

namespace StackOptions

variable {o : StackOptions} {base : Template} {bundles : List Bundle}

theorem mem_seed_parameters_iff (o : StackOptions) (base : Template) (key : String) :
    key ∈ (o.seed base).parameters.keys ↔ key ∈ base.parameters.keys ∨ key ∈ globalKeys :=
  KeyMap.mem_keys_insertAll base.parameters globalParameters key

theorem accepts_iff (o : StackOptions) (base : Template) (bundles : List Bundle) :
    o.Accepts base bundles ↔
      (∀ token, o.revision = .token token → Revision.tokenFits token = true) ∧
      Fits (o.seed base) (Bundle.allParts bundles) ∧
      (hasMethod (Bundle.allResources bundles) = true →
        ∀ key, o.revision.deploymentKey base bundles = .ok key →
          key ∉ base.resources.keys ∧ key ∉ Bundle.resourceKeys bundles) := by
  have hparameters := KeyMap.nodup_keys_append_iff (o.seed base).parameters
    (Bundle.parameterKeys bundles)
  have hresources := nodup_keys_gateway_iff base.resources
    (hasMethod (Bundle.allResources bundles)) gatewayKeys nodup_gatewayKeys
    (Bundle.resourceKeys bundles)
  have houtputs := nodup_keys_gateway_iff base.outputs
    (hasMethod (Bundle.allResources bundles)) [Key.apiKeyOutput] (by simp)
    (Bundle.outputKeys bundles)
  have hreserved : (∀ e ∈ Bundle.allResources bundles, Assembly.reserved e.1 = false) ↔
      ∀ key ∈ Bundle.resourceKeys bundles, key ≠ Key.role ∧ key ≠ Key.alarmTopic := by
    simp only [Bundle.resourceKeys, List.forall_mem_map, reserved_eq_false_iff]
  simp only [mem_seed_parameters_iff, not_or] at hparameters
  simp only [List.mem_singleton, forall_eq] at houtputs
  constructor
  · intro h
    refine ⟨fun t ht => (Revision.tokenFits_iff t).2 (h.token t ht), ?_, fun hmethod => ?_⟩
    · have hg := fun hmethod => h.gateway ((hasMethod_iff _).1 hmethod)
      constructor
      · rw [Bundle.parameters_allParts]
        exact hparameters.2 h.parameters
      · rw [Bundle.resources_allParts]
        exact hresources.2 ⟨⟨h.resources.1, fun key hk => (h.resources.2 key hk).1⟩,
          fun hmethod => (hg hmethod).1⟩
      · rw [Bundle.resources_allParts]
        exact hreserved.2 fun key hk => (h.resources.2 key hk).2
      · rw [Bundle.resources_allParts, Bundle.outputs_allParts]
        exact houtputs.2 ⟨h.outputs, fun hmethod => (hg hmethod).2.2⟩
    · exact (h.gateway ((hasMethod_iff _).1 hmethod)).2.1
  · rintro ⟨htoken, hfits, hdeployment⟩
    have hp := hfits.parameters
    have hr := hfits.resources
    have hu := hfits.unreserved
    have ho := hfits.outputs
    rw [Bundle.parameters_allParts] at hp
    rw [Bundle.resources_allParts] at hr hu ho
    rw [Bundle.outputs_allParts] at ho
    have hr := hresources.1 hr
    have hu := hreserved.1 hu
    have ho := houtputs.1 ho
    refine ⟨fun t ht => (Revision.tokenFits_iff t).1 (htoken t ht), hparameters.1 hp,
      ⟨hr.1.1, fun key hk => ⟨hr.1.2 key hk, hu key hk⟩⟩, ho.1, fun hany => ?_⟩
    have hmethod := (hasMethod_iff _).2 hany
    exact ⟨hr.2 hmethod, hdeployment hmethod, ho.2 hmethod⟩

/-- The deployment key of a stack is free at the end exactly when neither the base template nor a
bundle has it. -/
theorem taken_deployment_iff {a : Assembly} {key : String}
    (h : Collected (o.seed base) key bundles a)
    (hkey : o.revision.deploymentKey base bundles = .ok key) :
    a.taken key = false ↔ key ∉ base.resources.keys ∧ key ∉ Bundle.resourceKeys bundles := by
  obtain ⟨suffix, rfl⟩ := Revision.exists_suffix hkey
  have hreserved : Assembly.reserved (Key.deployment suffix) = false :=
    (reserved_eq_false_iff _).2
      ⟨Revision.deployment_ne (by decide) suffix, Revision.deployment_ne (by decide) suffix⟩
  have hgateway : Key.deployment suffix ∉ gatewayKeys := by
    intro hm
    have hheads : ∀ key ∈ gatewayKeys, ¬ "ApiDeployment".toList <+: key.toList := by decide
    exact Revision.deployment_ne (hheads _ hm) suffix rfl
  rw [a.taken_eq_false_iff, h.holds.mem_resource_keys_iff, Bundle.resources_allParts]
  simp only [hreserved, List.mem_append, not_or, and_true]
  have hown : Key.deployment suffix ∉
      if hasMethod (Bundle.allResources bundles) then gatewayKeys else [] := by
    split
    · exact hgateway
    · exact List.not_mem_nil
  constructor
  · rintro ⟨⟨hbase, -⟩, hkeys⟩
    exact ⟨hbase, hkeys⟩
  · rintro ⟨hbase, hkeys⟩
    exact ⟨⟨hbase, hown⟩, hkeys⟩

/-- Bundles without a method at a key of the shared API compile exactly when no key is taken twice
and the stack finds room for what it adds. -/
theorem compile_succeeds_iff (o : StackOptions) (base : Template) (bundles : List Bundle)
    (hapart : ∀ b ∈ bundles, ∀ e ∈ b.resources, e.2.isMethod = true → e.1 ∉ gatewayKeys) :
    (∃ t, o.compile base bundles = .ok t) ↔ o.Accepts base bundles := by
  have hall := Bundle.apart_allResources hapart
  rw [accepts_iff]
  constructor
  · rintro ⟨t, ht⟩
    obtain ⟨key, a, hkey, hput, hfinish⟩ := (o.compile_eq_ok_iff base bundles t).1 ht
    have hcollected := collected_of_putBundles hall hput
    have hfree := ((a.finish_eq_ok_iff t).1 hfinish).1
    rw [hcollected.holds.hasGateway, hcollected.holds.deploymentKey,
      Bundle.resources_allParts] at hfree
    refine ⟨(o.revision.deploymentKey_ok_iff base bundles).1 ⟨key, hkey⟩, hcollected.holds.fits,
      fun hmethod key' hkey' => ?_⟩
    cases hkey.symm.trans hkey'
    exact (taken_deployment_iff hcollected hkey).1 (hfree hmethod)
  · rintro ⟨htoken, hfits, hdeployment⟩
    obtain ⟨key, hkey⟩ := (o.revision.deploymentKey_ok_iff base bundles).2 htoken
    obtain ⟨a, hput⟩ := putBundles_of_fits bundles (.of_start (o.seed base) key) hfits
    have hcollected := collected_of_putBundles hall hput
    refine ⟨a.finished, (o.compile_eq_ok_iff base bundles _).2 ⟨key, a, hkey, hput, ?_⟩⟩
    refine (a.finish_eq_ok_iff _).2 ⟨fun hgateway => ?_, rfl⟩
    rw [hcollected.holds.hasGateway, Bundle.resources_allParts] at hgateway
    rw [hcollected.holds.deploymentKey]
    exact (taken_deployment_iff hcollected hkey).2 (hdeployment hgateway key hkey)

theorem compile_succeeds_iff_sample :
    (∀ b ∈ sampleBundles, ∀ e ∈ b.resources, e.2.isMethod = true → e.1 ∉ gatewayKeys) ∧
      (∃ t, sample.compile .empty sampleBundles = .ok t) ∧
      sample.Accepts .empty sampleBundles :=
  ⟨apart_sampleBundles, sample_compiles,
    (compile_succeeds_iff sample .empty sampleBundles apart_sampleBundles).1 sample_compiles⟩

end StackOptions

/-- The template has a format version, a description and the global parameters, as a compile seeds
them. -/
structure Template.Seeded (t : Template) : Prop where
  formatVersion : t.formatVersion.isSome = true
  description : t.description.isSome = true
  parameters : ∀ e ∈ StackOptions.globalParameters, t.parameters.get? e.1 = some e.2

namespace Template.Seeded

variable {a a' : Assembly}

theorem of_step {part : Part} (h : a.template.Seeded) (hstep : a.Step part a') :
    a'.template.Seeded := by
  have hmetadata : a'.template.formatVersion = a.template.formatVersion ∧
      a'.template.description = a.template.description := by
    cases hstep <;> exact ⟨rfl, rfl⟩
  exact ⟨hmetadata.1 ▸ h.formatVersion, hmetadata.2 ▸ h.description,
    fun e he => hstep.get?_parameter (h.parameters e he)⟩

theorem of_putBundles {bundles : List Bundle} (h : a.template.Seeded)
    (hput : StackOptions.putBundles a bundles = .ok a') : a'.template.Seeded :=
  StackOptions.putBundles_induction (P := fun b => b.template.Seeded)
    (fun _ _ _ hseeded hstep => hseeded.of_step hstep) (fun _ _ hseeded => hseeded) bundles h hput

end Template.Seeded

namespace StackOptions

theorem seeded_seed (o : StackOptions) (base : Template) : (o.seed base).Seeded where
  formatVersion := rfl
  description := rfl
  parameters _ he := base.parameters.get?_insertAll_of_mem (by decide) he

theorem seed_eq_self (o : StackOptions) {t : Template} (h : t.Seeded) : o.seed t = t := by
  obtain ⟨version, hversion⟩ := Option.isSome_iff_exists.1 h.formatVersion
  obtain ⟨description, hdescription⟩ := Option.isSome_iff_exists.1 h.description
  have hparameters : t.parameters.insertAll globalParameters = t.parameters :=
    KeyMap.insertAll_of_get? h.parameters
  refine Template.ext ?_ ?_ hparameters rfl rfl rfl
  · rw [seed, hversion, Option.getD_some]
  · rw [seed, hdescription, Option.getD_some]

/-- Without bundles a compile sets the alarm topic in the seeded template, and that is all. -/
theorem compile_nil_eq_ok_iff (o : StackOptions) (t u : Template) :
    o.compile t [] = .ok u ↔
      (∃ key, o.revision.deploymentKey t [] = .ok key) ∧
        u = { o.seed t with resources := t.resources.insert Key.alarmTopic alarmTopic } := by
  have hfinish (key : String) : (Assembly.start (o.seed t) key).finish = .ok u ↔
      u = { o.seed t with resources := t.resources.insert Key.alarmTopic alarmTopic } := by
    rw [Assembly.finish_eq_ok_iff]
    exact and_iff_right nofun
  rw [compile_eq_ok_iff]
  constructor
  · rintro ⟨key, _, hkey, hput, hdone⟩
    cases hput
    exact ⟨⟨key, hkey⟩, (hfinish key).1 hdone⟩
  · rintro ⟨⟨key, hkey⟩, hu⟩
    exact ⟨key, _, hkey, rfl, (hfinish key).2 hu⟩

theorem seeded_of_compile {o : StackOptions} {base t : Template} {bundles : List Bundle}
    (h : o.compile base bundles = .ok t) : t.Seeded := by
  obtain ⟨key, a, -, hput, hfinish⟩ := (o.compile_eq_ok_iff base bundles t).1 h
  obtain ⟨-, rfl⟩ := (a.finish_eq_ok_iff t).1 hfinish
  obtain ⟨hformat, hdescription, hparameters⟩ := (o.seeded_seed base).of_putBundles hput
  exact ⟨hformat, hdescription, hparameters⟩

/-- Nothing takes the place of the alarm topic, the deployment of the shared API neither. -/
theorem alarmTopic_of_compile {o : StackOptions} {base t : Template} {bundles : List Bundle}
    (h : o.compile base bundles = .ok t) : t.resources.get? Key.alarmTopic = some alarmTopic := by
  obtain ⟨key, a, -, -, hfinish⟩ := (o.compile_eq_ok_iff base bundles t).1 h
  obtain ⟨hfree, rfl⟩ := (a.finish_eq_ok_iff t).1 hfinish
  have hdeployment := Assembly.not_deployment_of_reserved hfree Key.alarmTopic rfl
  rw [a.get?_resources_finished, if_neg hdeployment, if_pos rfl]

/-- A compiled template, compiled again without bundles under whatever options, stays as it is. Only
a token that is none can stop that. -/
theorem compile_again_eq_self_iff (o o' : StackOptions) (base : Template) (bundles : List Bundle)
    (t : Template) (h : o.compile base bundles = .ok t) :
    o'.compile t [] = .ok t ↔ ∀ token, o'.revision = .token token →
      1 ≤ token.length ∧ token.length ≤ 64 ∧ ∀ c ∈ token.toList, c.isAlphanum = true := by
  have hsame : t = { o'.seed t with
      resources := t.resources.insert Key.alarmTopic alarmTopic } := by
    rw [o'.seed_eq_self (seeded_of_compile h), KeyMap.insert_of_get? (alarmTopic_of_compile h)]
  rw [compile_nil_eq_ok_iff, and_iff_left hsame, Revision.deploymentKey_ok_iff]
  simp only [Revision.tokenFits_iff]

theorem compile_again_eq_self_iff_sample :
    ∃ t, sample.compile sampleBase sampleBundles = .ok t ∧ standard.compile t [] = .ok t := by
  obtain ⟨t, ht⟩ := sampleBase_compiles
  exact ⟨t, ht, (compile_again_eq_self_iff sample standard sampleBase sampleBundles t ht).2 nofun⟩

end StackOptions
end RuleStack
