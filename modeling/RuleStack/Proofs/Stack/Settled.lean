import RuleStack.Proofs.Assembly.Gateway
import RuleStack.Proofs.Template.RoundTrip
set_option autoImplicit false

namespace RuleStack

def Part.settle : Part → Part
  | .parameter key value => .parameter key (value.mapNumbers Number.settle)
  | .resource key value => .resource key (value.mapNumbers Number.settle)
  | .output key value => .output key (value.mapNumbers Number.settle)

theorem settle_gatewayResources (deploymentKey : String) :
    (gatewayResources deploymentKey).map (fun e => (e.1, e.2.mapNumbers Number.settle)) =
      gatewayResources deploymentKey := rfl

namespace Assembly

def settle (a : Assembly) : Assembly := { a with template := a.template.settle }

theorem taken_settle (a : Assembly) (key : String) : a.settle.taken key = a.taken key :=
  congrArg (· || reserved key) (KeyMap.contains_mapValues _ _ key)

theorem firstTaken?_settle (a : Assembly) (keys : List String) :
    a.settle.firstTaken? keys = a.firstTaken? keys :=
  congrArg keys.find? (funext a.taken_settle)

theorem putParameter_settle (a : Assembly) (key : String) (value : Parameter) :
    a.settle.putParameter key (value.mapNumbers Number.settle) =
      (a.putParameter key value).map settle := by
  have hkeys : a.settle.template.parameters.contains key = a.template.parameters.contains key :=
    KeyMap.contains_mapValues _ _ key
  rw [putParameter, putParameter, hkeys]
  split
  · rfl
  · simp only [Except.map, settle, Template.settle, Template.mapNumbers, KeyMap.mapValues_insert]

theorem contains_outputs_settle (a : Assembly) (key : String) :
    a.settle.template.outputs.contains key = a.template.outputs.contains key :=
  KeyMap.contains_mapValues _ _ key

theorem putOutput_settle (a : Assembly) (key : String) (value : Output) :
    a.settle.putOutput key (value.mapNumbers Number.settle) =
      (a.putOutput key value).map settle := by
  rw [putOutput, putOutput, contains_outputs_settle]
  split
  · rfl
  · simp only [Except.map, settle, Template.settle, Template.mapNumbers, KeyMap.mapValues_insert]

theorem setGateway_settle (a : Assembly) : a.settle.setGateway = a.setGateway.settle := by
  have houtput : apiKeyOutput.mapNumbers Number.settle = apiKeyOutput := rfl
  simp only [setGateway, settle, Template.settle, Template.mapNumbers, KeyMap.mapValues_insert,
    KeyMap.mapValues_insertAll, settle_gatewayResources, houtput]

theorem putGateway_settle (a : Assembly) : a.settle.putGateway = a.putGateway.map settle := by
  have hkey : a.settle.deploymentKey = a.deploymentKey := rfl
  rw [putGateway, putGateway, firstTaken?_settle, contains_outputs_settle, hkey]
  cases a.firstTaken? ((gatewayResources a.deploymentKey).map (·.1)) with
  | some key => rfl
  | none =>
    dsimp only
    split
    · rfl
    · exact congrArg Except.ok a.setGateway_settle

theorem withGateway_settle (a : Assembly) : a.settle.withGateway = a.withGateway.map settle := by
  rw [withGateway, withGateway, putGateway_settle]
  show (if a.hasGateway then _ else _) = _
  split <;> rfl

theorem setResource_settle (a : Assembly) (key : String) (value : Resource) :
    a.settle.setResource key (value.mapNumbers Number.settle) =
      (a.setResource key value).settle := by
  simp only [setResource, settle, Template.settle, Template.mapNumbers, KeyMap.mapValues_insert]
  rfl

theorem putResource_settle (a : Assembly) (key : String) (value : Resource) :
    a.settle.putResource key (value.mapNumbers Number.settle) =
      (a.putResource key value).map settle := by
  have hmethod : (value.mapNumbers Number.settle).isMethod = value.isMethod := rfl
  rw [putResource, putResource, taken_settle, hmethod, withGateway_settle]
  split
  · rfl
  split
  · cases a.withGateway with
    | error e => rfl
    | ok b => exact congrArg Except.ok (b.setResource_settle key value)
  · exact congrArg Except.ok (a.setResource_settle key value)

theorem put_settle (a : Assembly) (part : Part) :
    a.settle.put part.settle = (a.put part).map settle := by
  cases part with
  | parameter key value => exact a.putParameter_settle key value
  | resource key value => exact a.putResource_settle key value
  | output key value => exact a.putOutput_settle key value

theorem putAll_settle (a : Assembly) (parts : List Part) :
    a.settle.putAll (parts.map Part.settle) = (a.putAll parts).map settle id := by
  induction parts generalizing a with
  | nil => rfl
  | cons part rest ih =>
    rw [List.map_cons, putAll, putAll, put_settle]
    cases a.put part with
    | error e => rfl
    | ok b => exact ih b

section Alike

variable {a b : Assembly} (h : a.settle = b.settle)
include h

theorem putBundle_settle_congr (bundle : Bundle) :
    (a.putBundle bundle).map settle id = (b.putBundle bundle).map settle id := by
  -- both go the way of the settled parts in the settled assembly
  have hparts : (a.putAll bundle.parts).map settle id = (b.putAll bundle.parts).map settle id := by
    rw [← putAll_settle, h, putAll_settle]
  rw [putBundle, putBundle]
  generalize a.putAll bundle.parts = x, b.putAll bundle.parts = y at hparts
  obtain ⟨a', result⟩ := x
  obtain ⟨b', result'⟩ := y
  obtain ⟨hsame, hresult⟩ := Prod.mk.inj hparts
  cases hresult
  cases result with
  | error e => exact hparts
  | ok => exact Prod.ext (congrArg (·.close bundle.policy) hsame) rfl

theorem putBundles_settle_congr (bundles : List Bundle) :
    (StackOptions.putBundles a bundles).map settle =
      (StackOptions.putBundles b bundles).map settle := by
  induction bundles generalizing a b with
  | nil => exact congrArg Except.ok h
  | cons bundle rest ih =>
    have hbundle := putBundle_settle_congr h bundle
    rw [StackOptions.putBundles, StackOptions.putBundles]
    generalize a.putBundle bundle = x, b.putBundle bundle = y at hbundle
    obtain ⟨a', result⟩ := x
    obtain ⟨b', result'⟩ := y
    obtain ⟨hsame, hresult⟩ := Prod.mk.inj hbundle
    cases hresult
    cases result with
    | error e => rfl
    | ok => exact ih hsame

theorem finished_settle_congr : a.finished.settle = b.finished.settle := by
  have hresources : a.template.resources.mapValues (Resource.mapNumbers Number.settle) =
      b.template.resources.mapValues (Resource.mapNumbers Number.settle) :=
    congrArg (·.template.resources) h
  have howned : a.ownedResources.mapValues (Resource.mapNumbers Number.settle) =
      b.ownedResources.mapValues (Resource.mapNumbers Number.settle) := by
    have hcount : a.bundleCount = b.bundleCount := congrArg (·.bundleCount) h
    have hpolicies : a.policies = b.policies := congrArg (·.policies) h
    rw [ownedResources, ownedResources, KeyMap.mapValues_insert, KeyMap.mapValues_insert, hcount,
      hpolicies]
    split
    · rw [KeyMap.mapValues_insert, KeyMap.mapValues_insert, hresources]
    · rw [hresources]
  have hgateway : a.hasGateway = b.hasGateway := congrArg (·.hasGateway) h
  have hmethods : a.methodKeys = b.methodKeys := congrArg (·.methodKeys) h
  have hkey : a.deploymentKey = b.deploymentKey := congrArg (·.deploymentKey) h
  have hall : a.finished.resources.mapValues (Resource.mapNumbers Number.settle) =
      b.finished.resources.mapValues (Resource.mapNumbers Number.settle) := by
    rw [finished, finished, hgateway, hmethods, hkey]
    dsimp only
    split
    · rw [KeyMap.mapValues_insert, KeyMap.mapValues_insert, howned]
    · exact howned
  have htemplate : a.template.settle = b.template.settle := congrArg (·.template) h
  have hset (c : Assembly) : c.finished.settle =
      { c.template.settle with
        resources := c.finished.resources.mapValues (Resource.mapNumbers Number.settle) } := rfl
  rw [hset, hset, htemplate, hall]

theorem finish_settle_congr : a.finish.map Template.settle = b.finish.map Template.settle := by
  have hgateway : a.hasGateway = b.hasGateway := congrArg (·.hasGateway) h
  have hkey : a.deploymentKey = b.deploymentKey := congrArg (·.deploymentKey) h
  have htaken : a.taken a.deploymentKey = b.taken b.deploymentKey := by
    rw [← taken_settle, h, taken_settle, hkey]
  rw [finish_eq, finish_eq, hgateway, htaken, hkey]
  split
  · rfl
  · exact congrArg Except.ok (finished_settle_congr h)

end Alike
end Assembly

variable {base other : Template} (h : base.settle = other.settle)
include h

/-- The content hash sees no difference between a double and the integer that it is settled to. -/
theorem Revision.deploymentKey_settle_congr (revision : Revision) (bundles : List Bundle) :
    revision.deploymentKey base bundles = revision.deploymentKey other bundles := by
  have hbase : base.toJson.settle = other.toJson.settle := by
    rw [← Template.toJson_settle, h, Template.toJson_settle]
  have hcontent : contentText base bundles = contentText other bundles := by
    rw [contentText, contentText, ← Json.canonical_settle,
      ← Json.canonical_settle (content other bundles)]
    simp only [content, Json.settle, Json.mapNumbers, Json.mapNumbersItems] at hbase ⊢
    rw [hbase]
  cases revision with
  | contentHash => rw [deploymentKey, deploymentKey, contentDigest, contentDigest, hcontent]
  | _ => rfl

theorem StackOptions.seed_settle_congr (o : StackOptions) :
    (o.seed base).settle = (o.seed other).settle := by
  have hformat : base.formatVersion = other.formatVersion := congrArg (·.formatVersion) h
  have hdescription : base.description = other.description := congrArg (·.description) h
  have hparameters : base.parameters.mapValues (Parameter.mapNumbers Number.settle) =
      other.parameters.mapValues (Parameter.mapNumbers Number.settle) := congrArg (·.parameters) h
  have hset (t : Template) : (o.seed t).settle =
      { t.settle with
        formatVersion := some (t.formatVersion.getD o.formatVersion)
        description := some (t.description.getD o.description)
        parameters := (t.parameters.insertAll globalParameters).mapValues
          (Parameter.mapNumbers Number.settle) } := rfl
  rw [hset, hset, h, hformat, hdescription, KeyMap.mapValues_insertAll, KeyMap.mapValues_insertAll,
    hparameters]

/-- Base templates that are the same with settled numbers fail to compile with the same error, or
compile to templates that are the same with settled numbers. -/
theorem StackOptions.compile_settle_congr (o : StackOptions) (bundles : List Bundle) :
    (o.compile base bundles).map Template.settle =
      (o.compile other bundles).map Template.settle := by
  rw [compile, compile, Revision.deploymentKey_settle_congr h o.revision bundles]
  cases o.revision.deploymentKey other bundles with
  | error e => rfl
  | ok key =>
    have hstart : (Assembly.start (o.seed base) key).settle =
        (Assembly.start (o.seed other) key).settle :=
      congrArg (Assembly.start · key) (o.seed_settle_congr h)
    exact Outcome.map_bind_congr (Assembly.putBundles_settle_congr hstart bundles)
      fun _ _ hsame => Assembly.finish_settle_congr hsame

theorem StackOptions.compile_render_congr (o : StackOptions) (bundles : List Bundle) :
    (o.compile base bundles).map (·.toJson.render) =
      (o.compile other bundles).map (·.toJson.render) := by
  have hprint (x : Except StackError Template) :
      (x.map Template.settle).map (·.toJson.render) = x.map (·.toJson.render) := by
    cases x with
    | error e => rfl
    | ok t => exact congrArg Except.ok t.render_settle
  rw [← hprint, o.compile_settle_congr h, hprint]

end RuleStack
