import RuleStack.Proofs.Bundle.Keys
import RuleStack.Proofs.Compiler.Run
import RuleStack.Proofs.Template.Sections
set_option autoImplicit false

namespace RuleStack

namespace Json

def pairsAt? (v : Json) (name : String) (keys : List String) : Option Json :=
  (keys.mapM fun key => (v.at? [name, key]).map fun entry => .arr [.str key, entry]).map .arr

/-- What follows the policy of all functions in the role, if that is at most one policy, with null
for none. -/
def ownPolicy? (v : Json) : Option Json :=
  match v.at? ["Resources", Key.role, "Properties", "Policies"] with
  | some (.arr [first]) => if first = basePolicy.toJson.printed then some .null else none
  | some (.arr [first, .obj members]) =>
    if first = basePolicy.toJson.printed then some (.obj members) else none
  | _ => none

theorem printed_pairs {α : Type} (write : α → Json) (es : List (String × α)) :
    (Bundle.pairs write es).printed =
      .arr (es.map fun e => .arr [.str e.1, (write e.2).printed]) := by
  rw [Bundle.pairs, printed_arr, List.map_map]
  exact congrArg arr (List.map_congr_left fun e _ => printed_arr [.str e.1, write e.2])

section Pairs

variable {α : Type} {write : α → Json} {v : Json} {name : String} {es : List (String × α)}
  (h : ∀ e ∈ es, v.at? [name, e.1] = some (write e.2).printed)
include h

theorem pairsAt?_eq : v.pairsAt? name (es.map (·.1)) = some (Bundle.pairs write es).printed := by
  have hentries : (es.map (·.1)).mapM
        (fun key => (v.at? [name, key]).map fun entry => Json.arr [.str key, entry]) =
      some (es.map fun e => .arr [.str e.1, (write e.2).printed]) := by
    induction es with
    | nil => rfl
    | cons e rest ih =>
      rw [List.map_cons, List.mapM_cons, h e List.mem_cons_self,
        ih fun f hf => h f (List.mem_cons_of_mem e hf)]
      rfl
  rw [pairsAt?, hentries, printed_pairs]
  rfl

theorem depth_pairs_le : (Bundle.pairs write es).printed.depth ≤ max 1 v.depth := by
  have hitems :
      depthItems (es.map fun e => .arr [.str e.1, (write e.2).printed]) ≤ v.depth - 1 := by
    rw [depthItems_le_iff, List.forall_mem_map]
    intro e he
    have hentry := depth_of_at? (h e he)
    simp only [List.length_cons, List.length_nil] at hentry
    simp only [depth, depthItems]
    omega
  rw [printed_pairs, depth]
  omega

end Pairs

end Json

namespace FragmentKind

def key? (name : String) : FragmentKind → Option String
  | .function => some name
  | .permission => some (Key.permission name)
  | .environment => some (Key.environment name)
  | .event .pattern => some (Key.eventRule name)
  | .event .schedule => some (Key.scheduledRule name)
  | .gateway .route => some (Key.route name)
  | .gateway .method => some (Key.method name)
  | .topic => some (Key.topic name)
  | .topicUser => some (Key.topicUser name)
  | .topicAccessKey => some (Key.topicAccessKey name)
  | .alarms | .parameters | .policy | .outputs => none

/-- The part of a printed template that belongs to a fragment of the rule called `name`. -/
def part? (r : Rule) (name : String) (v : Json) : FragmentKind → Option Json
  | .alarms => v.pairsAt? "Resources" [Key.alarm name "Errors", Key.alarm name "NoInvocations"]
  | .parameters => v.pairsAt? "Parameters" (r.parameterKeys name)
  | .policy => v.ownPolicy?
  | .outputs => v.pairsAt? "Outputs" (r.outputKeys name)
  | kind => (kind.key? name).bind fun key => v.at? ["Resources", key]

theorem part?_of_key? {kind : FragmentKind} {name key : String} (h : kind.key? name = some key)
    (r : Rule) (v : Json) : kind.part? r name v = v.at? ["Resources", key] := by
  cases kind with
  | alarms => cases h
  | parameters => cases h
  | policy => cases h
  | outputs => cases h
  | _ => simp only [part?, h, Option.bind_some]

end FragmentKind

namespace Rule

/-- The rule has the trigger that fragments of this kind are for, if they are for one. -/
def Uses (r : Rule) : FragmentKind → Prop
  | .event .pattern => r.event.isSome = true
  | .event .schedule => r.schedule.isSome = true
  | .gateway _ => r.gateway.isSome = true
  | .topic | .topicUser | .topicAccessKey => r.topic = true
  | .function | .permission | .environment | .alarms | .parameters | .policy | .outputs => True

section Named

variable {r : Rule} {name : String} (h : r.usableName? = some name) (hcomplete : r.Complete)
  (runtime : String)
include h hcomplete

theorem fragment_eq_resource {kind : FragmentKind} {key : String}
    (hkey : kind.key? name = some key) (huses : r.Uses kind) :
    ∃ resource, r.fragment runtime kind = .ok (.resource resource) ∧
      (key, resource) ∈ r.resourcesOf name runtime := by
  cases kind with
  | function =>
    cases hkey
    refine ⟨r.functionOf name runtime, ?_, by simp [resourcesOf, coreOf]⟩
    rw [fragment, function, requireName_of_usable h]
    rfl
  | permission =>
    cases hkey
    refine ⟨r.permissionOf name, ?_, by simp [resourcesOf, coreOf]⟩
    rw [fragment, permission, requireName_of_usable h]
    rfl
  | environment =>
    cases hkey
    have hbuilt := (environment_eq_ok_iff h _).2 ⟨hcomplete.parameters, rfl⟩
    refine ⟨r.environmentOf name, ?_, by simp [resourcesOf, coreOf]⟩
    rw [fragment, hbuilt]
    rfl
  | event kind =>
    cases kind with
    | pattern =>
      cases hkey
      obtain ⟨v, hv⟩ := hcomplete.event huses
      refine ⟨eventRuleOf name "EventPattern" v, ?_,
        by simp [resourcesOf, patternPartsOf, hv, Except.toOption]⟩
      rw [fragment, eventTrigger, requireName_of_usable h]
      simp only [hv]
      rfl
    | schedule =>
      cases hkey
      obtain ⟨v, hv⟩ := hcomplete.schedule huses
      refine ⟨eventRuleOf name "ScheduleExpression" v, ?_,
        by simp [resourcesOf, schedulePartsOf, hv, Except.toOption]⟩
      rw [fragment, eventTrigger, requireName_of_usable h]
      simp only [hv]
      rfl
  | gateway part =>
    obtain ⟨g, hg⟩ := Option.isSome_iff_exists.1 huses
    obtain ⟨v, hv⟩ := hcomplete.gateway g hg
    obtain ⟨hroute, hmethod⟩ := mem_gatewayParts hg hv name runtime
    cases part with
    | route =>
      cases hkey
      refine ⟨routeOf name, ?_, hroute⟩
      rw [fragment, gatewayTrigger, requireName_of_usable h]
      simp only [hg, hv]
      rfl
    | method =>
      cases hkey
      refine ⟨methodOf name g v, ?_, hmethod⟩
      rw [fragment, gatewayTrigger, requireName_of_usable h]
      simp only [hg, hv]
      rfl
  | topic =>
    cases hkey
    refine ⟨topicOf name, ?_, (mem_topicParts huses name runtime).1⟩
    rw [fragment, topicResource, requireName_of_usable h]
    rfl
  | topicUser =>
    cases hkey
    refine ⟨topicUserOf name, ?_, (mem_topicParts huses name runtime).2.1⟩
    rw [fragment, topicUser, requireName_of_usable h]
    rfl
  | topicAccessKey =>
    cases hkey
    refine ⟨topicAccessKeyOf name, ?_, (mem_topicParts huses name runtime).2.2⟩
    rw [fragment, topicAccessKey, requireName_of_usable h]
    rfl
  | alarms => cases hkey
  | parameters => cases hkey
  | policy => cases hkey
  | outputs => cases hkey

end Named

end Rule

/-- The template is that of one rule, over a base template that was read. -/
structure Template.OfOne (t : Template) (r : Rule) (name runtime : String) : Prop where
  apart : t.Apart
  has : t.Has (r.bundleOf name runtime)
  role : t.resources.get? Key.role = some (executionRole (r.policyOf name).toList)

/-- The rule has a fragment of this kind, and it is printed as the part of the template that belongs
to it, and no deeper. -/
def Template.Shows (t : Template) (r : Rule) (name runtime : String) (kind : FragmentKind) : Prop :=
  ∃ part, r.fragment runtime kind = .ok part ∧
    kind.part? r name t.toJson.printed = some part.toJson.printed ∧
    part.toJson.printed.depth ≤ max 1 t.toJson.printed.depth

namespace Template.OfOne

variable {t : Template} {r : Rule} {name runtime : String} (h : t.OfOne r name runtime)
include h

theorem at?_resource {key : String} {resource : Resource}
    (hmem : (key, resource) ∈ r.resourcesOf name runtime) :
    t.toJson.printed.at? ["Resources", key] = some resource.toJson.printed := by
  have hvalue : t.resources.get? key = some resource := h.has.resources _ hmem
  rw [at?_section h.apart Resource.toJson rfl, hvalue]
  rfl

theorem at?_policies :
    t.toJson.printed.at? ["Resources", Key.role, "Properties", "Policies"] =
      some (.arr ((basePolicy :: (r.policyOf name).toList).map (·.toJson.printed))) := by
  have hrole : t.toJson.printed.at? ["Resources", Key.role] =
      some (executionRole (r.policyOf name).toList).toJson.printed := by
    rw [at?_section h.apart Resource.toJson rfl, h.role]
    rfl
  have hpath : ["Resources", Key.role, "Properties", "Policies"] =
      ["Resources", Key.role] ++ ["Properties", "Policies"] := rfl
  rw [hpath, Json.at?_append, hrole, Option.bind_some, at?_executionRole]

theorem shows_of_key? (hname : r.usableName? = some name) (hcomplete : r.Complete)
    {kind : FragmentKind} {key : String} (hkey : kind.key? name = some key) (huses : r.Uses kind) :
    t.Shows r name runtime kind := by
  obtain ⟨resource, hfragment, hmem⟩ :=
    Rule.fragment_eq_resource hname hcomplete runtime hkey huses
  have hentry := h.at?_resource hmem
  have hdepth := Json.depth_of_at? hentry
  rw [← Json.printed_normalize resource.toJson] at hentry hdepth
  refine ⟨.resource resource, hfragment, ?_, ?_⟩
  · rw [FragmentKind.part?_of_key? hkey]
    exact hentry
  · exact Nat.le_trans (Nat.le_trans (Nat.le_add_right _ _) hdepth) (Nat.le_max_right _ _)

omit h in
theorem shows_pairs {α : Type} (heading : String) (write : α → Json) (es : List (String × α))
    {kind : FragmentKind} {part : Fragment} (hfragment : r.fragment runtime kind = .ok part)
    (hpart : kind.part? r name t.toJson.printed =
      t.toJson.printed.pairsAt? heading (es.map (·.1)))
    (hjson : part.toJson = (Bundle.pairs write es).normalize)
    (hentries : ∀ e ∈ es, t.toJson.printed.at? [heading, e.1] = some (write e.2).printed) :
    t.Shows r name runtime kind := by
  refine ⟨part, hfragment, ?_, ?_⟩
  · rw [hpart, hjson, Json.printed_normalize, Json.pairsAt?_eq hentries]
  · rw [hjson, Json.printed_normalize]
    exact Json.depth_pairs_le hentries

theorem shows_policy (hname : r.usableName? = some name) (hcomplete : r.Complete) :
    t.Shows r name runtime .policy := by
  have hpolicies := h.at?_policies
  have hpolicy : r.policy = .ok (r.policyOf name) :=
    (Rule.policy_eq_ok_iff hname _).2 ⟨hcomplete.statements, rfl⟩
  have hfragment : r.fragment runtime .policy = .ok (.policy (r.policyOf name)) := by
    rw [Rule.fragment, hpolicy]
    rfl
  refine ⟨.policy (r.policyOf name), hfragment, ?_⟩
  rw [FragmentKind.part?, Json.ownPolicy?, hpolicies]
  cases hown : r.policyOf name with
  | none => exact ⟨if_pos rfl, Nat.zero_le _⟩
  | some p =>
    rw [hown] at hpolicies
    have hprinted : (Fragment.policy (some p)).toJson.printed = p.toJson.printed :=
      Json.printed_normalize p.toJson
    have hobject : ∃ members, p.toJson.printed = .obj members := ⟨_, Json.printed_obj _⟩
    obtain ⟨members, hmembers⟩ := hobject
    have hdepth := Json.depth_of_at? hpolicies
    have hitem : p.toJson.printed.depth ≤
        Json.depthItems ((basePolicy :: [p]).map (·.toJson.printed)) :=
      (Json.depthItems_le_iff _ _).1 (Nat.le_refl _) _ (by simp)
    constructor
    · rw [hprinted]
      simp only [Option.toList_some, List.map_cons, List.map_nil, hmembers, if_true]
    · rw [hprinted]
      simp only [Json.depth, Option.toList_some] at hdepth
      omega

/-- In the template of a rule every fragment that the rule uses is found again. -/
theorem shows (hname : r.usableName? = some name) (hcomplete : r.Complete) {kind : FragmentKind}
    (huses : r.Uses kind) : t.Shows r name runtime kind := by
  cases hkey : kind.key? name with
  | some key => exact h.shows_of_key? hname hcomplete hkey huses
  | none =>
    cases kind with
    | alarms =>
      have halarms : r.fragment runtime .alarms = .ok (.resources (Rule.alarmsOf name)) := by
        rw [Rule.fragment, Rule.alarms, Rule.requireName_of_usable hname]
        rfl
      exact shows_pairs "Resources" Resource.toJson (Rule.alarmsOf name) halarms rfl rfl
        fun e he => h.at?_resource (List.mem_append_right _ he)
    | parameters =>
      have hbuilt := (Rule.namespacedParameters_eq_ok_iff hname _).2 ⟨hcomplete.parameters, rfl⟩
      have hparameters :
          r.fragment runtime .parameters = .ok (.parameters (r.parametersOf name)) := by
        rw [Rule.fragment, hbuilt]
        rfl
      refine shows_pairs "Parameters" Parameter.toJson (r.parametersOf name) hparameters ?_ rfl
        fun e he => ?_
      · rw [r.map_fst_parametersOf]
        rfl
      · rw [at?_section h.apart Parameter.toJson rfl, h.has.parameters e he]
        rfl
    | policy => exact h.shows_policy hname hcomplete
    | outputs =>
      have houtputs : r.fragment runtime .outputs = .ok (.outputs (r.outputsOf name)) := by
        rw [Rule.fragment, Rule.outputs, Rule.requireName_of_usable hname]
        rfl
      refine shows_pairs "Outputs" Output.toJson (r.outputsOf name) houtputs ?_ rfl
        fun e he => ?_
      · rw [r.map_fst_outputsOf]
        rfl
      · rw [at?_section h.apart Output.toJson rfl, h.has.outputs e he]
        rfl
    | event kind => cases kind <;> cases hkey
    | gateway part => cases part <;> cases hkey
    | _ => cases hkey

end Template.OfOne

theorem Collected.role_finished {start : Template} {deploymentKey : String} {bundles : List Bundle}
    {a : Assembly} (h : Collected start deploymentKey bundles a)
    (hfree : a.hasGateway = true → a.taken a.deploymentKey = false) (hbundles : bundles ≠ []) :
    a.finished.resources.get? Key.role = some (executionRole (Bundle.allPolicies bundles)) := by
  have hdeployment := Assembly.not_deployment_of_reserved hfree Key.role rfl
  have htopic : Key.role ≠ Key.alarmTopic := by decide
  have hcount : 0 < a.bundleCount := by
    rw [h.bundleCount]
    exact List.length_pos_iff.2 hbundles
  rw [a.get?_resources_finished, if_neg hdeployment, if_neg htopic, if_pos ⟨rfl, hcount⟩,
    h.policies]

theorem Compiler.uses_prepare_iff (c : Compiler) (d : Definition) (kind : FragmentKind) :
    (c.prepare d).Uses kind ↔ d.rule.Uses kind := by
  cases kind with
  | event kind => cases kind <;> exact Iff.rfl
  | _ => exact Iff.rfl

/-- A run over one definition gives the template of its rule. -/
theorem Compiler.ofOne_of_run {c : Compiler} {base t : Template} {d : Definition}
    (hbase : base.Apart) (h : c.run base (.ok [d]) = .ok t) :
    ∃ name, (c.prepare d).usableName? = some name ∧ (c.prepare d).Complete ∧
      t.OfOne (c.prepare d) name c.runtime := by
  obtain ⟨bundles, deploymentKey, a, hbundles, hcollected, hfree, rfl⟩ := collected_of_run h
  obtain ⟨b, rfl, hb⟩ : ∃ b, bundles = [b] ∧ c.bundle d = .ok b := by
    have hsame := (c.bundles_eq_ok_iff _ _).1 hbundles
    obtain ⟨b, hbs, hb⟩ := List.map_eq_singleton_iff.1 hsame.symm
    exact ⟨b, hbs, hb.symm⟩
  obtain ⟨name, husable, hcomplete, rfl⟩ := (c.bundle_eq_ok_iff d b).1 hb
  refine ⟨name, husable, hcomplete, ?_, hcollected.has hfree List.mem_cons_self, ?_⟩
  · have hextra : a.finished.extra = base.extra := hcollected.holds.extra
    rw [Template.Apart, hextra]
    exact hbase
  · rw [hcollected.role_finished hfree (List.cons_ne_nil _ _), Bundle.allPolicies_singleton]
    rfl

end RuleStack
