import Mathlib.Data.List.Nodup
import RuleStack.Proofs.Compiler.Fragment
import RuleStack.Proofs.Compiler.Names
set_option autoImplicit false

namespace RuleStack

def Resource.policyNames? (r : Resource) : Option (List String) :=
  match r.properties.get? "Policies" with
  | some (.arr policies) => policies.mapM fun p => (p.member? "PolicyName").bind Json.asText?
  | _ => none

def Template.policyNames? (t : Template) : Option (List String) :=
  (t.resources.get? Key.role).bind Resource.policyNames?

theorem Policy.name_of_normalize (p : Policy) :
    (p.toJson.normalize.member? "PolicyName").bind Json.asText? = some p.name := by
  have hmember : p.toJson.normalize.member? "PolicyName" =
      (KeyMap.ofList [("PolicyName", .str p.name),
        ("PolicyDocument", p.document.toJson.normalize)]).get? "PolicyName" := rfl
  rw [hmember]
  simp [KeyMap.get?_ofList_cons, KeyMap.get?_ofList_nil, Json.asText?]

theorem policyNames?_executionRole (policies : List Policy) :
    (executionRole policies).policyNames? = some ("basic" :: policies.map (·.name)) := by
  have hnames (ps : List Policy) : (ps.map (·.toJson.normalize)).mapM
        (fun v => (v.member? "PolicyName").bind Json.asText?) = some (ps.map (·.name)) := by
    induction ps with
    | nil => rfl
    | cons p rest ih =>
      rw [List.map_cons, List.mapM_cons, p.name_of_normalize, ih]
      rfl
  rw [Resource.policyNames?, get?_policies_executionRole]
  exact hnames (basePolicy :: policies)

namespace Compiler

variable {c : Compiler} {base t : Template} {definitions : List Definition} {bundles : List Bundle}

def policyNames (c : Compiler) (definitions : List Definition) : List String :=
  c.namesWith (fun r => r.statements.isSome) definitions

theorem policyNames_of_bundles (h : c.bundles definitions = .ok bundles) :
    (Bundle.allPolicies bundles).map (·.name) = c.policyNames definitions := by
  have hown : ∀ d b, c.bundle d = .ok b → b.policy.map (·.name) =
      if d.rule.statements.isSome then (c.prepare d).name else none := by
    intro d b hb
    have hname := name_of_bundle hb
    obtain ⟨name, -, -, rfl⟩ := (c.bundle_eq_ok_iff d b).1 hb
    have hstatements : (c.prepare d).statements = d.rule.statements := rfl
    rw [hname]
    simp only [Rule.bundleOf, Rule.policyOf, hstatements, Option.map_map]
    cases d.rule.statements <;> rfl
  rw [Bundle.allPolicies, List.map_filterMap, filterMap_of_bundles h hown, policyNames, namesWith,
    names, List.filterMap_filter]

theorem role_of_run (h : c.run base (.ok definitions) = .ok t) (hne : definitions ≠ []) :
    ∃ bundles, c.bundles definitions = .ok bundles ∧
      t.resources.get? Key.role = some (executionRole (Bundle.allPolicies bundles)) := by
  obtain ⟨bundles, deploymentKey, a, hbundles, hcollected, hfree, rfl⟩ := collected_of_run h
  have hbundled : bundles ≠ [] := by
    rintro rfl
    exact hne (List.map_eq_nil_iff.1 ((c.bundles_eq_ok_iff definitions []).1 hbundles))
  exact ⟨bundles, hbundles, hcollected.role_finished hfree hbundled⟩

/-- The role of a run over some definitions has the base policy, and then the policies of the rules
with statements under the full names of these, which all differ. So all policies of the role have
names of their own just if no such rule has the name of the base policy. -/
theorem policyNames_of_run (c : Compiler) (base : Template) (definitions : List Definition)
    (hne : definitions ≠ []) (t : Template) (h : c.run base (.ok definitions) = .ok t) :
    t.policyNames? = some ("basic" :: c.policyNames definitions) ∧
      (c.policyNames definitions).Nodup ∧
      (("basic" :: c.policyNames definitions).Nodup ↔ "basic" ∉ c.policyNames definitions) := by
  obtain ⟨bundles, hbundles, hrole⟩ := role_of_run h hne
  have hnodup : (c.policyNames definitions).Nodup := nodup_namesWith h _
  refine ⟨?_, hnodup, ?_⟩
  · rw [Template.policyNames?, hrole, Option.bind_some, policyNames?_executionRole,
      policyNames_of_bundles hbundles]
  · rw [List.nodup_cons, and_iff_left hnodup]

theorem policyNames_of_run_sample :
    sampleDefinitions ≠ [] ∧ ∃ t, sample.run sampleBase (.ok sampleDefinitions) = .ok t ∧
      t.policyNames? = some ["basic", "patrolruleslogin"] := by
  have hne : sampleDefinitions ≠ [] := List.cons_ne_nil _ _
  have hnames : sample.policyNames sampleDefinitions = ["patrolruleslogin"] := by decide +kernel
  obtain ⟨t, ht⟩ := sampleDefinitions_compile
  obtain ⟨hpolicies, -⟩ := policyNames_of_run sample sampleBase sampleDefinitions hne t ht
  rw [hnames] at hpolicies
  exact ⟨hne, t, ht, hpolicies⟩

def basicRule : Definition :=
  ⟨"rules/basic.js", { Rule.empty with
    name := some "basic"
    statements := some [.allow (.str "sns:Publish") (.str "*")] }⟩

/-- It compiles, and two policies of the role have one name. -/
theorem base_policy_name_twice :
    ∃ t, sample.run .empty (.ok [basicRule]) = .ok t ∧
      t.policyNames? = some ["basic", "basic"] :=
  Outcome.exists_ok_of_decide rfl

end Compiler

def Resource.routePath? (r : Resource) : Option String :=
  if r.kind = routeKind ∧ r.properties.get? "RestApiId" = some (.ref Key.restApi) ∧
      r.properties.get? "ParentId" = some (.getAtt Key.restApi "RootResourceId") then
    (r.properties.get? "PathPart").bind Json.asText?
  else none

def Resource.methodRoute? (r : Resource) : Option String :=
  if r.isMethod then
    ((r.properties.get? "ResourceId").bind (·.member? "Ref")).bind Json.asText?
  else none

def endpointStart : List Json := [
  .str "https://", .ref Key.restApi, .str ".execute-api.", .ref "AWS::Region",
  .str ".amazonaws.com/prod/"]

def Output.endpointPath? (o : Output) : Option String :=
  match o.value with
  | .obj [("Fn::Join", .arr [.str "", .arr parts])] =>
    if parts.dropLast = endpointStart then parts.getLast?.bind Json.asText? else none
  | _ => none

namespace Template

def routePath? (t : Template) (key : String) : Option String :=
  (t.resources.get? key).bind Resource.routePath?

def methodPath? (t : Template) (key : String) : Option String :=
  ((t.resources.get? key).bind Resource.methodRoute?).bind t.routePath?

def endpointPath? (t : Template) (key : String) : Option String :=
  (t.outputs.get? key).bind Output.endpointPath?

/-- A request to the address in this output gets to this method. -/
def Leads (t : Template) (output method : String) : Prop :=
  ∃ path, t.endpointPath? output = some path ∧ t.methodPath? method = some path

/-- The parts of the template by which the rule of this name is reached, at this path. -/
structure Reaches (t : Template) (name path : String) : Prop where
  route : t.routePath? (Key.route name) = some path
  method : t.methodPath? (Key.method name) = some path
  endpoint : t.endpointPath? (Key.endpoint name) = some path

theorem leads_iff {t : Template} {name other path path' : String} (h : t.Reaches name path)
    (h' : t.Reaches other path') :
    t.Leads (Key.endpoint name) (Key.method other) ↔ path = path' := by
  simp only [Leads, h.endpoint, h'.method, Option.some.injEq, exists_eq_left', eq_comm]

end Template

namespace Rule

theorem routePath?_routeOf (name : String) :
    (routeOf name).routePath? = some (Text.lowercase name) := by
  simp [Resource.routePath?, routeOf, pathPart, Resource.make, KeyMap.get?_ofList_cons,
    KeyMap.get?_ofList_nil, Json.asText?]

theorem methodRoute?_methodOf (name : String) (g : GatewayTrigger) (v : Verb) :
    (methodOf name g v).methodRoute? = some (Key.route name) := by
  have hmethod : (methodOf name g v).isMethod = true := rfl
  have hroute : (methodOf name g v).properties.get? "ResourceId" =
      some (.ref (Key.route name)) := by
    cases hkey : g.apiKey <;>
      simp [methodOf, Resource.make, hkey, KeyMap.get?_ofList_cons, KeyMap.get?_ofList_nil]
  rw [Resource.methodRoute?, if_pos hmethod, hroute]
  rfl

theorem endpointPath?_endpointOutput (name : String) :
    (endpointOutput name).2.endpointPath? = some (Text.lowercase name) := rfl

theorem reaches_of_has {r : Rule} {name runtime : String} {t : Template}
    (hgateway : r.gateway.isSome = true) (hcomplete : r.Complete)
    (h : t.Has (r.bundleOf name runtime)) : t.Reaches name (Text.lowercase name) := by
  obtain ⟨g, hg⟩ := Option.isSome_iff_exists.1 hgateway
  obtain ⟨v, hv⟩ := hcomplete.gateway g hg
  obtain ⟨hroute, hmethod⟩ := mem_gatewayParts hg hv name runtime
  have houtput : endpointOutput name ∈ r.outputsOf name := by simp [outputsOf, hgateway]
  have hpath : t.routePath? (Key.route name) = some (Text.lowercase name) := by
    rw [Template.routePath?, h.resources _ hroute, Option.bind_some, routePath?_routeOf]
  constructor
  · exact hpath
  · rw [Template.methodPath?, h.resources _ hmethod, Option.bind_some, methodRoute?_methodOf,
      Option.bind_some, hpath]
  · have hvalue : t.outputs.get? (Key.endpoint name) = some (endpointOutput name).2 :=
      h.outputs _ houtput
    rw [Template.endpointPath?, hvalue, Option.bind_some, endpointPath?_endpointOutput]

end Rule

namespace Compiler

variable {c : Compiler} {base t : Template} {definitions : List Definition}

def endpointNames (c : Compiler) (definitions : List Definition) : List String :=
  c.namesWith (fun r => r.gateway.isSome) definitions

theorem has_of_run (h : c.run base (.ok definitions) = .ok t) {d : Definition}
    (hd : d ∈ definitions) : ∃ b, c.bundle d = .ok b ∧ t.Has b := by
  obtain ⟨bundles, deploymentKey, a, hbundles, hcollected, hfree, rfl⟩ := collected_of_run h
  obtain ⟨b, hb, hbundle⟩ := exists_bundle_of_mem hbundles hd
  exact ⟨b, hbundle, hcollected.has hfree hb⟩

theorem reaches_of_run (h : c.run base (.ok definitions) = .ok t) {name : String}
    (hname : name ∈ c.endpointNames definitions) : t.Reaches name (Text.lowercase name) := by
  obtain ⟨d, hd, hgateway, hprepared⟩ := (c.mem_namesWith_iff _ _ _).1 hname
  obtain ⟨b, hbundle, hhas⟩ := has_of_run h hd
  obtain ⟨full, husable, hcomplete, rfl⟩ := (c.bundle_eq_ok_iff d b).1 hbundle
  have hfull : (c.prepare d).name = some full := (Option.filter_eq_some_iff.1 husable).1
  cases hprepared.symm.trans hfull
  exact Rule.reaches_of_has (r := c.prepare d) hgateway hcomplete hhas

/-- In a run that succeeds the rules with an HTTP trigger have different full names, and each is
reached right below the root of the shared API, at its full name in lowercase. So the address of one
leads to the method of another just if the names differ in case alone, and each leads to one rule
just if the lowercase forms of all the names differ. -/
theorem endpoints_of_run (c : Compiler) (base : Template) (definitions : List Definition)
    (t : Template) (h : c.run base (.ok definitions) = .ok t) :
    (c.endpointNames definitions).Nodup ∧
    (∀ name ∈ c.endpointNames definitions, t.Reaches name (Text.lowercase name)) ∧
    (∀ name ∈ c.endpointNames definitions, ∀ other ∈ c.endpointNames definitions,
      t.Leads (Key.endpoint name) (Key.method other) ↔
        Text.lowercase name = Text.lowercase other) ∧
    ((∀ name ∈ c.endpointNames definitions, ∀ other ∈ c.endpointNames definitions,
      t.Leads (Key.endpoint name) (Key.method other) → name = other) ↔
        ((c.endpointNames definitions).map Text.lowercase).Nodup) := by
  have hnodup : (c.endpointNames definitions).Nodup := nodup_namesWith h _
  have hleads : ∀ name ∈ c.endpointNames definitions, ∀ other ∈ c.endpointNames definitions,
      (t.Leads (Key.endpoint name) (Key.method other) ↔
        Text.lowercase name = Text.lowercase other) :=
    fun name hname other hother =>
      Template.leads_iff (reaches_of_run h hname) (reaches_of_run h hother)
  refine ⟨hnodup, fun name hname => reaches_of_run h hname, hleads, ?_⟩
  rw [List.nodup_map_iff_inj_on hnodup]
  refine forall₂_congr fun name hname => forall₂_congr fun other hother => ?_
  rw [hleads name hname other hother]

theorem endpoints_of_run_sample :
    ∃ t, sample.run sampleBase (.ok sampleDefinitions) = .ok t ∧ t.Reaches "hook" "hook" := by
  obtain ⟨t, ht⟩ := sampleDefinitions_compile
  obtain ⟨-, hreaches, -⟩ := endpoints_of_run sample sampleBase sampleDefinitions t ht
  exact ⟨t, ht, hreaches "hook" (by decide)⟩

def hookOf (modulePath name method : String) : Definition :=
  ⟨modulePath, { Rule.empty with
    name := some name
    gateway := some ⟨some method, false, none, none⟩ }⟩

/-- Two rules compile whose names differ in case alone, and they have one address. -/
theorem endpoint_shared :
    ∃ t, sample.run .empty
        (.ok [hookOf "rules/hook.js" "hook" "GET", hookOf "rules/Hook.js" "Hook" "POST"]) = .ok t ∧
      t.routePath? (Key.route "hook") = some "hook" ∧
      t.routePath? (Key.route "Hook") = some "hook" ∧
      t.endpointPath? (Key.endpoint "hook") = some "hook" ∧
      t.methodPath? (Key.method "hook") = some "hook" ∧
      t.methodPath? (Key.method "Hook") = some "hook" :=
  Outcome.exists_ok_of_decide (by decide)

end Compiler
end RuleStack
