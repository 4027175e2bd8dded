import RuleStack.Proofs.Stack.Compile
/-!
Whether parts fit does not depend on their order, and in another order they make the same template,
but for the policies of the role and the methods of the deployment (`Collected.sameButOrder`).
-/
set_option autoImplicit false

namespace RuleStack

theorem Template.ext {t u : Template} (hformat : t.formatVersion = u.formatVersion)
    (hdescription : t.description = u.description) (hparameters : t.parameters = u.parameters)
    (hresources : t.resources = u.resources) (houtputs : t.outputs = u.outputs)
    (hextra : t.extra = u.extra) : t = u := by
  cases t
  cases u
  simp_all

/-- The resources that two templates have at a key are the same, but the policies of the role and
the methods of the deployment may stand in another order. -/
inductive SameAt (deploymentKey : String) : String → Option Resource → Option Resource → Prop where
  | same (key : String) (r : Option Resource) : SameAt deploymentKey key r r
  | role {policies others : List Policy} : policies.Perm others →
      SameAt deploymentKey Key.role (some (executionRole policies)) (some (executionRole others))
  | deployment {methods others : List String} : methods.Perm others →
      SameAt deploymentKey deploymentKey (some (apiDeployment methods))
        (some (apiDeployment others))

/-- The templates are equal but for the order of the role's policies after the first, and of the
methods that the deployment waits for. -/
structure Template.SameButOrder (deploymentKey : String) (t u : Template) : Prop where
  formatVersion : t.formatVersion = u.formatVersion
  description : t.description = u.description
  extra : t.extra = u.extra
  parameters : t.parameters = u.parameters
  outputs : t.outputs = u.outputs
  resources : ∀ key, SameAt deploymentKey key (t.resources.get? key) (u.resources.get? key)

structure Template.WithinBut (deploymentKey : String) (t u : Template) : Prop where
  parameters : ∀ key value, t.parameters.get? key = some value →
    u.parameters.get? key = some value
  resources : ∀ key value, key ≠ Key.role → key ≠ deploymentKey →
    t.resources.get? key = some value → u.resources.get? key = some value
  outputs : ∀ key value, t.outputs.get? key = some value → u.outputs.get? key = some value

structure Template.Has (t : Template) (b : Bundle) : Prop where
  parameters : ∀ e ∈ b.parameters, t.parameters.get? e.1 = some e.2
  resources : ∀ e ∈ b.resources, t.resources.get? e.1 = some e.2
  outputs : ∀ e ∈ b.outputs, t.outputs.get? e.1 = some e.2

section Order

variable {rs qs : List (String × Resource)} {parts more : List Part}

theorem hasMethod_perm (h : rs.Perm qs) : hasMethod rs = hasMethod qs := h.any_eq

theorem methodKeysOf_perm (h : rs.Perm qs) : (methodKeysOf rs).Perm (methodKeysOf qs) :=
  (h.filter _).map _

theorem gatewayFor_perm (deploymentKey : String) (h : rs.Perm qs) :
    gatewayFor deploymentKey rs = gatewayFor deploymentKey qs := by
  rw [gatewayFor, hasMethod_perm h, gatewayFor]

theorem gatewayOutputFor_perm (h : rs.Perm qs) : gatewayOutputFor rs = gatewayOutputFor qs := by
  rw [gatewayOutputFor, hasMethod_perm h, gatewayOutputFor]

theorem hasMethod_of_subset (h : rs ⊆ qs) (hmethod : hasMethod rs = true) : hasMethod qs = true := by
  obtain ⟨e, he, hvalue⟩ := List.any_eq_true.1 hmethod
  exact List.any_eq_true.2 ⟨e, h he, hvalue⟩

theorem whenMethod_subset {α : Type} {own : List α} (h : rs ⊆ qs) :
    (if hasMethod rs then own else []) ⊆ if hasMethod qs then own else [] := by
  intro e he
  split at he
  · rename_i hmethod
    rwa [if_pos (hasMethod_of_subset h hmethod)]
  · cases he

theorem Part.parameters_perm (h : parts.Perm more) : (parameters parts).Perm (parameters more) :=
  h.filterMap _

theorem Part.resources_perm (h : parts.Perm more) : (resources parts).Perm (resources more) :=
  h.filterMap _

theorem Part.outputs_perm (h : parts.Perm more) : (outputs parts).Perm (outputs more) :=
  h.filterMap _

theorem Fits.of_perm {start : Template} (h : Fits start parts) (hperm : parts.Perm more) :
    Fits start more where
  parameters :=
    (((Part.parameters_perm hperm).map _).append_left _).nodup_iff.1 h.parameters
  resources := by
    have hresources := Part.resources_perm hperm
    rw [← hasMethod_perm hresources]
    exact ((hresources.map _).append_left _).nodup_iff.1 h.resources
  unreserved e he := h.unreserved e ((Part.resources_perm hperm).mem_iff.2 he)
  outputs := by
    rw [← hasMethod_perm (Part.resources_perm hperm)]
    exact (((Part.outputs_perm hperm).map _).append_left _).nodup_iff.1 h.outputs

end Order

namespace Holds

variable {start : Template} {deploymentKey : String} {parts more : List Part} {a b : Assembly}

/-- Parts in another order make the same template. -/
theorem template_eq (ha : Holds start deploymentKey parts a)
    (hb : Holds start deploymentKey more b) (hperm : parts.Perm more) :
    a.template = b.template := by
  have hresources := Part.resources_perm hperm
  have hparametersB := hb.parameters
  have hresourcesB := hb.resources
  have houtputsB := hb.outputs
  rw [← gatewayFor_perm deploymentKey hresources] at hresourcesB
  rw [← gatewayOutputFor_perm hresources] at houtputsB
  apply Template.ext
  case hformat => exact ha.formatVersion.trans hb.formatVersion.symm
  case hdescription => exact ha.description.trans hb.description.symm
  case hextra => exact ha.extra.trans hb.extra.symm
  case hparameters =>
    refine KeyMap.eq_of_perm (ha.parameters.trans (.trans ?_ hparametersB.symm))
    exact (Part.parameters_perm hperm).append_left _
  case hresources =>
    refine KeyMap.eq_of_perm (ha.resources.trans (.trans ?_ hresourcesB.symm))
    exact hresources.append_left _
  case houtputs =>
    refine KeyMap.eq_of_perm (ha.outputs.trans (.trans ?_ houtputsB.symm))
    exact (Part.outputs_perm hperm).append_left _

theorem keeps (ha : Holds start deploymentKey parts a) (hb : Holds start deploymentKey more b)
    (hsub : more ⊆ parts) : b.template.Keeps a.template := by
  have hresources : Part.resources more ⊆ Part.resources parts := List.filterMap_subset _ hsub
  refine ⟨fun _ _ => KeyMap.get?_of_subset fun e he => ?_,
    fun _ _ => KeyMap.get?_of_subset fun e he => ?_,
    fun _ _ => KeyMap.get?_of_subset fun e he => ?_⟩
  · rw [hb.parameters.mem_iff, List.mem_append] at he
    rw [ha.parameters.mem_iff, List.mem_append]
    exact he.imp_right fun he => List.filterMap_subset _ hsub he
  · rw [hb.resources.mem_iff, List.mem_append, List.mem_append] at he
    rw [ha.resources.mem_iff, List.mem_append, List.mem_append]
    exact he.imp (Or.imp_right fun he => whenMethod_subset hresources he) fun he => hresources he
  · rw [hb.outputs.mem_iff, List.mem_append, List.mem_append] at he
    rw [ha.outputs.mem_iff, List.mem_append, List.mem_append]
    exact he.imp (Or.imp_right fun he => whenMethod_subset hresources he)
      fun he => List.filterMap_subset _ hsub he

end Holds

namespace Bundle

variable {bundles others : List Bundle}

theorem allParts_append (bundles more : List Bundle) :
    allParts (bundles ++ more) = allParts bundles ++ allParts more := List.flatMap_append

theorem allParts_perm (h : bundles.Perm others) : (allParts bundles).Perm (allParts others) :=
  h.flatMap_right parts

theorem allParts_subset (h : others ⊆ bundles) : allParts others ⊆ allParts bundles := by
  intro part hpart
  obtain ⟨b, hb, hpart⟩ := List.mem_flatMap.1 hpart
  exact List.mem_flatMap.2 ⟨b, h hb, hpart⟩

theorem allPolicies_perm (h : bundles.Perm others) :
    (allPolicies bundles).Perm (allPolicies others) := h.filterMap _

end Bundle

namespace Collected

variable {start : Template} {deploymentKey : String} {bundles others : List Bundle}
  {a b : Assembly}

/-- Where bundles fit, those among them do, in any order. -/
theorem fits_of_perm (h : Collected start deploymentKey bundles a) {kept dropped : List Bundle}
    (hperm : bundles.Perm (kept ++ dropped)) : Fits start (Bundle.allParts kept) := by
  have hall := h.holds.fits.of_perm (Bundle.allParts_perm hperm)
  rw [Bundle.allParts_append] at hall
  exact hall.of_append

/-- Finished, the same bundles in another order differ in the role and the deployment alone. -/
theorem sameButOrder (ha : Collected start deploymentKey bundles a)
    (hb : Collected start deploymentKey others b) (hperm : bundles.Perm others) :
    a.finished.SameButOrder deploymentKey b.finished := by
  have hparts := Bundle.allParts_perm hperm
  have hresources := Part.resources_perm hparts
  have htemplate : a.template = b.template := ha.holds.template_eq hb.holds hparts
  have hgateway : b.hasGateway = a.hasGateway := by
    rw [hb.holds.hasGateway, ha.holds.hasGateway, hasMethod_perm hresources]
  have hcount : b.bundleCount = a.bundleCount := by
    rw [hb.bundleCount, ha.bundleCount, hperm.length_eq]
  have hmethods : a.methodKeys.Perm b.methodKeys := by
    rw [ha.holds.methodKeys, hb.holds.methodKeys]
    exact methodKeysOf_perm hresources
  have hpolicies : a.policies.Perm b.policies := by
    rw [ha.policies, hb.policies]
    exact Bundle.allPolicies_perm hperm
  constructor
  case formatVersion => exact (congrArg Template.formatVersion htemplate :)
  case description => exact (congrArg Template.description htemplate :)
  case extra => exact (congrArg Template.extra htemplate :)
  case parameters => exact (congrArg Template.parameters htemplate :)
  case outputs => exact (congrArg Template.outputs htemplate :)
  case resources =>
    intro key
    rw [a.get?_resources_finished, b.get?_resources_finished, ha.holds.deploymentKey,
      hb.holds.deploymentKey, hgateway, hcount, htemplate]
    split
    · rename_i h
      rw [h.2]
      exact .deployment hmethods
    · split
      · exact .same _ _
      · split
        · rename_i h
          rw [h.1]
          exact .role hpolicies
        · exact .same _ _

theorem has (h : Collected start deploymentKey bundles a)
    (hfree : a.hasGateway = true → a.taken a.deploymentKey = false) {bundle : Bundle}
    (hbundle : bundle ∈ bundles) : a.finished.Has bundle := by
  have hparts {part : Part} (hpart : part ∈ bundle.parts) : part ∈ Bundle.allParts bundles :=
    List.mem_flatMap.2 ⟨bundle, hbundle, hpart⟩
  constructor
  · intro e he
    refine KeyMap.get?_eq_some_of_mem (h.holds.parameters.mem_iff.2 ?_)
    rw [Bundle.parameters_allParts]
    exact List.mem_append_right _ (List.mem_flatMap.2 ⟨bundle, hbundle, he⟩)
  · intro e he
    have hpart : e ∈ Part.resources (Bundle.allParts bundles) := by
      rw [Bundle.resources_allParts]
      exact List.mem_flatMap.2 ⟨bundle, hbundle, he⟩
    have hvalue := KeyMap.get?_eq_some_of_mem
      (h.holds.resources.mem_iff.2 (List.mem_append_right _ hpart))
    rw [Assembly.get?_finished (KeyMap.mem_keys_of_get? hvalue) (h.holds.unreserved e hpart) hfree]
    exact hvalue
  · intro e he
    refine KeyMap.get?_eq_some_of_mem (h.holds.outputs.mem_iff.2 ?_)
    rw [Bundle.outputs_allParts]
    exact List.mem_append_right _ (List.mem_flatMap.2 ⟨bundle, hbundle, he⟩)

theorem keeps (ha : Collected start deploymentKey bundles a)
    (hb : Collected start deploymentKey others b) (hsub : others ⊆ bundles) :
    b.template.Keeps a.template :=
  ha.holds.keeps hb.holds (Bundle.allParts_subset hsub)

theorem withinBut (ha : Collected start deploymentKey bundles a)
    (hb : Collected start deploymentKey others b) (hsub : others ⊆ bundles) :
    b.finished.WithinBut deploymentKey a.finished := by
  have hkeeps := ha.keeps hb hsub
  refine ⟨hkeeps.parameters, fun key value hrole hdeployment => ?_, hkeeps.outputs⟩
  rw [a.get?_resources_finished, b.get?_resources_finished, ha.holds.deploymentKey,
    hb.holds.deploymentKey]
  simp only [hrole, hdeployment, and_false, false_and, if_false]
  split
  · exact id
  · exact hkeeps.resources key value

theorem free_of_subset (ha : Collected start deploymentKey bundles a)
    (hb : Collected start deploymentKey others b) (hsub : others ⊆ bundles)
    (hfree : a.hasGateway = true → a.taken a.deploymentKey = false) :
    b.hasGateway = true → b.taken b.deploymentKey = false := by
  intro hgateway
  have hall : a.hasGateway = true := by
    rw [hb.holds.hasGateway] at hgateway
    rw [ha.holds.hasGateway]
    exact hasMethod_of_subset
      (List.filterMap_subset _ (Bundle.allParts_subset hsub)) hgateway
  have htaken := hfree hall
  rw [ha.holds.deploymentKey, Assembly.taken_eq_false_iff] at htaken
  rw [hb.holds.deploymentKey, Assembly.taken_eq_false_iff]
  refine ⟨fun hkey => htaken.1 ?_, htaken.2⟩
  obtain ⟨value, hvalue⟩ := KeyMap.exists_get?_of_mem_keys hkey
  exact KeyMap.mem_keys_of_get? ((ha.keeps hb hsub).resources _ _ hvalue)

end Collected

/-- The deployment keys of other revisions than content hashes do not depend on the bundles. -/
theorem Revision.deploymentKey_eq {r : Revision} (h : r ≠ .contentHash) (base : Template)
    (bundles others : List Bundle) : r.deploymentKey base bundles = r.deploymentKey base others := by
  cases r with
  | fixed => rfl
  | token t => rfl
  | contentHash => exact absurd rfl h

namespace StackOptions

variable {o : StackOptions} {base t : Template} {bundles kept dropped : List Bundle}

/-- Where bundles compile, those among them do, and the two assemblies can be compared. -/
theorem exists_both_collected (hrevision : o.revision ≠ .contentHash)
    (hapart : Apart (Bundle.allResources bundles)) (h : o.compile base bundles = .ok t)
    (hperm : bundles.Perm (kept ++ dropped)) :
    ∃ deploymentKey a b, (∀ others, o.revision.deploymentKey base others = .ok deploymentKey) ∧
      Collected (o.seed base) deploymentKey bundles a ∧
      Collected (o.seed base) deploymentKey kept b ∧
      (a.hasGateway = true → a.taken a.deploymentKey = false) ∧
      (b.hasGateway = true → b.taken b.deploymentKey = false) ∧
      t = a.finished ∧ o.compile base kept = .ok b.finished := by
  obtain ⟨deploymentKey, a, hkey, ha, hfree, rfl⟩ := exists_collected hapart h
  have hkeys (others : List Bundle) : o.revision.deploymentKey base others = .ok deploymentKey :=
    (Revision.deploymentKey_eq hrevision base others bundles).trans hkey
  -- to fit does not depend on the order, so fewer bundles fit as well, and get an assembly of their own
  have hfits := ha.fits_of_perm hperm
  have hkeptApart : Apart (Bundle.allResources kept) := by
    have hparts := hfits.apart
    rwa [Bundle.resources_allParts] at hparts
  obtain ⟨b, hb⟩ := putBundles_of_fits kept (.of_start (o.seed base) deploymentKey) hfits
  have hcollected := collected_of_putBundles hkeptApart hb
  have hsub : kept ⊆ bundles := fun d hd => hperm.mem_iff.2 (List.mem_append_left _ hd)
  have hfreeKept := ha.free_of_subset hcollected hsub hfree
  refine ⟨deploymentKey, a, b, hkeys, ha, hcollected, hfree, hfreeKept, rfl, ?_⟩
  exact (o.compile_eq_ok_iff base kept _).2
    ⟨deploymentKey, b, hkeys kept, hb, (b.finish_eq_ok_iff _).2 ⟨hfreeKept, rfl⟩⟩

theorem compile_of_perm (hrevision : o.revision ≠ .contentHash)
    (hapart : Apart (Bundle.allResources bundles)) (h : o.compile base bundles = .ok t)
    {others : List Bundle} (hperm : bundles.Perm others) :
    ∃ deploymentKey u, (∀ bundles, o.revision.deploymentKey base bundles = .ok deploymentKey) ∧
      o.compile base others = .ok u ∧ t.SameButOrder deploymentKey u := by
  rw [← List.append_nil others] at hperm
  obtain ⟨deploymentKey, a, b, hkeys, ha, hb, -, -, rfl, hcompile⟩ :=
    exists_both_collected hrevision hapart h hperm
  rw [List.append_nil] at hperm
  exact ⟨deploymentKey, b.finished, hkeys, hcompile, ha.sameButOrder hb hperm⟩

theorem compile_of_fewer (hrevision : o.revision ≠ .contentHash)
    (hapart : Apart (Bundle.allResources bundles)) (h : o.compile base bundles = .ok t)
    (hperm : bundles.Perm (kept ++ dropped)) :
    ∃ deploymentKey u, (∀ bundles, o.revision.deploymentKey base bundles = .ok deploymentKey) ∧
      o.compile base kept = .ok u ∧ u.WithinBut deploymentKey t ∧
      ∀ b ∈ kept, t.Has b ∧ u.Has b := by
  obtain ⟨deploymentKey, a, b, hkeys, ha, hb, hfree, hfreeKept, rfl, hcompile⟩ :=
    exists_both_collected hrevision hapart h hperm
  have hsub : kept ⊆ bundles := fun d hd => hperm.mem_iff.2 (List.mem_append_left _ hd)
  exact ⟨deploymentKey, b.finished, hkeys, hcompile, ha.withinBut hb hsub,
    fun d hd => ⟨ha.has hfree (hsub hd), hb.has hfreeKept hd⟩⟩

end StackOptions
end RuleStack
