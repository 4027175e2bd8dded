import RuleStack.Proofs.Assembly.Content
import RuleStack.Proofs.Assembly.Gateway
import RuleStack.Proofs.Outcome
/-!
The methods among the parts that a run of actions put in are the recorded ones, in order, and
finishing sets a deployment of these (`methods_recorded`).
-/
set_option autoImplicit false

namespace RuleStack

namespace Assembly

/-- Of these parts, those that are put in: the ones before the first that does not fit. -/
def placed (a : Assembly) : List Part → List Part
  | [] => []
  | part :: rest =>
    match a.put part with
    | .ok b => part :: b.placed rest
    | .error _ => []

def Action.parts : Action → List Part
  | .put part => [part]
  | .addPolicy _ => []
  | .putBundle bundle => bundle.parts

def placedAll (a : Assembly) : List Action → List Part
  | [] => []
  | action :: rest => a.placed action.parts ++ (a.act action).1.placedAll rest

namespace Step

variable {a a' : Assembly} {part : Part}

theorem methodKeys_eq (h : Step a part a') :
    a'.methodKeys = a.methodKeys ++ methodKeysOf (Part.resources [part]) := by
  cases h with
  | parameter => exact (List.append_nil _).symm
  | resource _ hmethod => simp [setResource, methodKeysOf_singleton, hmethod]
  | method _ hmethod => simp [setResource, methodKeysOf_singleton, hmethod]
  | firstMethod _ hmethod => simp [setResource, setGateway, methodKeysOf_singleton, hmethod]
  | output => exact (List.append_nil _).symm

theorem not_mem_keys (h : Step a part a') :
    ∀ e ∈ Part.resources [part], e.1 ∉ a.template.resources.keys := by
  cases h with
  | parameter => simp
  | resource htaken => simpa using ((a.taken_eq_false_iff _).1 htaken).1
  | method htaken => simpa using ((a.taken_eq_false_iff _).1 htaken).1
  | firstMethod htaken => simpa using ((a.taken_eq_false_iff _).1 htaken).1
  | output => simp

theorem get?_placed (h : Step a part a') :
    ∀ e ∈ Part.resources [part], a'.template.resources.get? e.1 = some e.2 := by
  cases h with
  | parameter => simp
  | resource => simp [setResource]
  | method => simp [setResource]
  | firstMethod => simp [setResource]
  | output => simp

end Step

/-- The assembly has all resources of these parts, and has recorded the methods among them. -/
structure Records (parts : List Part) (a : Assembly) : Prop where
  methodKeys : a.methodKeys = methodKeysOf (Part.resources parts)
  nodup : ((Part.resources parts).map (·.1)).Nodup
  entries : ∀ e ∈ Part.resources parts, a.template.resources.get? e.1 = some e.2

namespace Records

variable {parts : List Part} {a a' : Assembly}

theorem of_start (template : Template) (deploymentKey : String) :
    Records [] (.start template deploymentKey) where
  methodKeys := rfl
  nodup := List.nodup_nil
  entries := nofun

theorem of_step (h : Records parts a) {part : Part} (hstep : Step a part a') :
    Records (parts ++ [part]) a' := by
  constructor
  case methodKeys =>
    rw [hstep.methodKeys_eq, h.methodKeys, Part.resources_append, methodKeysOf_append]
  case nodup =>
    have hnew : ((Part.resources [part]).map (·.1)).Nodup := by cases part <;> simp
    rw [Part.resources_append, List.map_append, List.nodup_append]
    refine ⟨h.nodup, hnew, ?_⟩
    -- all that went in before still stands at its key, so the key was not free for the new part
    simp only [List.forall_mem_map]
    intro e he f hf hkey
    have hmem := KeyMap.mem_keys_of_get? (h.entries e he)
    rw [hkey] at hmem
    exact hstep.not_mem_keys f hf hmem
  case entries =>
    rw [Part.resources_append]
    intro e he
    rcases List.mem_append.1 he with he | he
    · exact hstep.get?_resource (h.entries e he)
    · exact hstep.get?_placed e he

theorem of_addPolicy (h : Records parts a) (policy : Policy) :
    Records parts (a.addPolicy policy) :=
  ⟨h.methodKeys, h.nodup, h.entries⟩

theorem of_close (h : Records parts a) (policy : Option Policy) :
    Records parts (a.close policy) :=
  ⟨h.methodKeys, h.nodup, h.entries⟩

theorem of_putAll (more : List Part) {parts : List Part} {a : Assembly}
    (h : Records parts a) :
    Records (parts ++ a.placed more) (a.putAll more).1 := by
  induction more generalizing parts a with
  | nil =>
    rw [placed, List.append_nil]
    exact h
  | cons part rest ih =>
    rw [placed, putAll]
    cases hput : a.put part with
    | error e =>
      rw [List.append_nil]
      exact h
    | ok b =>
      have hrest := ih (h.of_step ((a.put_eq_ok_iff b part).1 hput))
      rwa [List.append_assoc] at hrest

theorem of_act (h : Records parts a) (action : Action) :
    Records (parts ++ a.placed action.parts) (a.act action).1 := by
  cases action with
  | put part =>
    have hparts := h.of_putAll [part]
    rw [putAll] at hparts
    rw [act, Action.parts]
    cases hput : a.put part <;> simpa [hput, putAll] using hparts
  | addPolicy policy =>
    rw [Action.parts, placed, List.append_nil]
    exact h.of_addPolicy policy
  | putBundle bundle =>
    have hparts := h.of_putAll bundle.parts
    rw [act, putBundle, Action.parts]
    split
    · rename_i b hb
      rw [hb] at hparts
      exact hparts.of_close bundle.policy
    · rename_i b e hb
      rw [hb] at hparts
      exact hparts

theorem of_actAll (actions : List Action) {parts : List Part} {a : Assembly}
    (h : Records parts a) :
    Records (parts ++ a.placedAll actions) (a.actAll actions) := by
  induction actions generalizing parts a with
  | nil =>
    rw [placedAll, List.append_nil]
    exact h
  | cons action rest ih =>
    have hrest := ih (h.of_act action)
    rwa [List.append_assoc] at hrest

theorem nodup_methodKeys (h : Records parts a) : a.methodKeys.Nodup := by
  rw [h.methodKeys]
  exact h.nodup.sublist (List.filter_sublist.map _)

theorem exists_method (h : Records parts a) {key : String}
    (hkey : key ∈ a.methodKeys) :
    ∃ r, a.template.resources.get? key = some r ∧ r.isMethod = true := by
  rw [h.methodKeys] at hkey
  obtain ⟨e, he, rfl⟩ := List.mem_map.1 hkey
  obtain ⟨he, hmethod⟩ := List.mem_filter.1 he
  exact ⟨e.2, h.entries e he, hmethod⟩

end Records

theorem reserved_eq_true_iff (key : String) :
    reserved key = true ↔ key = Key.role ∨ key = Key.alarmTopic := by
  simp [reserved]

/-- Without the shared API finishing uses no key but those that the stack keeps for itself. -/
theorem mem_keys_finished {a : Assembly} (hgateway : a.hasGateway = false) {key : String}
    (hkey : key ∈ a.finished.resources.keys) :
    key ∈ a.template.resources.keys ∨ key = Key.role ∨ key = Key.alarmTopic := by
  rw [resources_finished, KeyMap.mem_keys_insertAll] at hkey
  refine hkey.imp_right fun hm => ?_
  obtain ⟨e, he, rfl⟩ := List.mem_map.1 hm
  rcases key_of_mem_finalResources he with hreserved | ⟨hother, -⟩
  · exact (reserved_eq_true_iff e.1).1 hreserved
  · rw [hgateway] at hother
    cases hother

/-- After any actions the recorded methods are the methods that were put in, in order, each once and
each in the template, and the shared API is there just if there are any. Finishing puts a deployment
of them at a free key, and where there are none it adds at most the role and the alarm topic. -/
theorem methods_recorded (template : Template) (deploymentKey : String) (actions : List Action) :
    ((reached template deploymentKey actions).hasGateway = true ↔
      (reached template deploymentKey actions).methodKeys ≠ []) ∧
    (reached template deploymentKey actions).methodKeys =
      ((Part.resources ((start template deploymentKey).placedAll actions)).filter
        (·.2.isMethod)).map (·.1) ∧
    (reached template deploymentKey actions).methodKeys.Nodup ∧
    (∀ key ∈ (reached template deploymentKey actions).methodKeys, ∃ r,
      (reached template deploymentKey actions).template.resources.get? key = some r ∧
        r.isMethod = true) ∧
    ∀ t, (reached template deploymentKey actions).finish = .ok t →
      t.parameters = (reached template deploymentKey actions).template.parameters ∧
      t.outputs = (reached template deploymentKey actions).template.outputs ∧
      ((reached template deploymentKey actions).methodKeys ≠ [] →
        deploymentKey ∉ (reached template deploymentKey actions).template.resources.keys ∧
        t.resources.get? deploymentKey =
          some (apiDeployment (reached template deploymentKey actions).methodKeys)) ∧
      ((reached template deploymentKey actions).methodKeys = [] → ∀ key ∈ t.resources.keys,
        key ∈ (reached template deploymentKey actions).template.resources.keys ∨
          key = Key.role ∨ key = Key.alarmTopic) := by
  have h : Records ((start template deploymentKey).placedAll actions)
      (reached template deploymentKey actions) :=
    (Records.of_start template deploymentKey).of_actAll actions
  have hkept : GatewayKept deploymentKey (reached template deploymentKey actions) :=
    .of_actAll template deploymentKey actions
  refine ⟨hkept.methodKeys, h.methodKeys, h.nodup_methodKeys, fun _ => h.exists_method,
    fun t ht => ?_⟩
  obtain ⟨hfree, rfl⟩ := (finish_eq_ok_iff _ t).1 ht
  refine ⟨rfl, rfl, fun hmethods => ?_, fun hnone key hkey => ?_⟩
  · have hgateway := hkept.methodKeys.2 hmethods
    have htaken := hfree hgateway
    rw [hkept.deployment] at htaken
    refine ⟨((taken_eq_false_iff _ _).1 htaken).1, ?_⟩
    rw [get?_resources_finished, if_pos ⟨hgateway, hkept.deployment.symm⟩]
  · have hgateway : (reached template deploymentKey actions).hasGateway = false := by
      rw [← Bool.not_eq_true, hkept.methodKeys]
      exact not_not_intro hnone
    exact mem_keys_finished hgateway hkey

def halfActions : List Action := [
  .put (.resource "hook" (.make Resource.functionKind [])),
  .putBundle ⟨"late", [],
    [("lateGatewayRuleMethod", .make Resource.methodKind []),
      ("hook", .make Resource.functionKind [])], none, []⟩]

theorem methods_recorded_sample :
    (reached .empty "ApiDeployment" halfActions).bundleCount = 0 ∧
      ∃ t, (reached .empty "ApiDeployment" halfActions).finish = .ok t ∧
        t.resources.get? "ApiDeployment" = some (apiDeployment ["lateGatewayRuleMethod"]) := by
  obtain ⟨t, ht⟩ : ∃ t, (reached .empty "ApiDeployment" halfActions).finish = .ok t :=
    Outcome.exists_of_isOk rfl
  have hmethods : (reached .empty "ApiDeployment" halfActions).methodKeys =
      ["lateGatewayRuleMethod"] := by rfl
  obtain ⟨-, -, -, -, hfinish⟩ := methods_recorded .empty "ApiDeployment" halfActions
  obtain ⟨-, -, hdeployment, -⟩ := hfinish t ht
  rw [hmethods] at hdeployment
  exact ⟨by rfl, t, ht, (hdeployment (List.cons_ne_nil _ _)).2⟩

end Assembly
end RuleStack
