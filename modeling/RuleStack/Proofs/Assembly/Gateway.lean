import RuleStack.Proofs.Assembly.Step
/-!
A key is looked at before the shared API is put in, and its resource is set after that. So the first
method can take the place of one of the shared resources, and nothing else can
(`gateway_entry_iff`).
-/
set_option autoImplicit false

namespace RuleStack

namespace Assembly

def ownedResources (a : Assembly) : KeyMap Resource :=
  (if 0 < a.bundleCount then a.template.resources.insert Key.role (executionRole a.policies)
    else a.template.resources).insert Key.alarmTopic alarmTopic

def finished (a : Assembly) : Template :=
  { a.template with
    resources :=
      if a.hasGateway then
        a.ownedResources.insert a.deploymentKey (apiDeployment a.methodKeys)
      else a.ownedResources }

theorem taken_withOwned (a : Assembly) (key : String) : a.withOwned.taken key = a.taken key := by
  simp only [taken, withOwned, KeyMap.contains_insert]
  split
  · rw [KeyMap.contains_insert]
    grind [reserved]
  · grind [reserved]

theorem finish_eq (a : Assembly) :
    a.finish =
      if a.hasGateway && a.taken a.deploymentKey then .error (.duplicateResource a.deploymentKey)
      else .ok a.finished := by
  rw [finish, finished, ← a.taken_withOwned a.deploymentKey]
  show (if a.hasGateway then _ else _) = _
  cases a.hasGateway
  · rfl
  · cases htaken : a.withOwned.taken a.deploymentKey
    · exact if_neg (Bool.eq_false_iff.1 htaken)
    · exact if_pos htaken

theorem finish_eq_ok_iff (a : Assembly) (t : Template) :
    a.finish = .ok t ↔
      (a.hasGateway = true → a.taken a.deploymentKey = false) ∧ t = a.finished := by
  rw [finish_eq]
  split
  · rename_i h
    simp_all
  · rename_i h
    simp only [Bool.and_eq_true, not_and, Bool.not_eq_true] at h
    simp only [Except.ok.injEq, eq_comm (a := a.finished)]
    exact ⟨fun ht => ⟨h, ht⟩, fun ht => ht.2⟩

theorem get?_resources_finished (a : Assembly) (key : String) :
    a.finished.resources.get? key =
      if a.hasGateway = true ∧ key = a.deploymentKey then some (apiDeployment a.methodKeys)
      else if key = Key.alarmTopic then some alarmTopic
      else if key = Key.role ∧ 0 < a.bundleCount then some (executionRole a.policies)
      else a.template.resources.get? key := by
  have howned : a.ownedResources.get? key =
      if key = Key.alarmTopic then some alarmTopic
      else if key = Key.role ∧ 0 < a.bundleCount then some (executionRole a.policies)
      else a.template.resources.get? key := by
    rw [ownedResources, KeyMap.get?_insert]
    by_cases hcount : 0 < a.bundleCount <;> simp [hcount, KeyMap.get?_insert]
  rw [finished, ← howned]
  by_cases hgateway : a.hasGateway = true <;> simp [hgateway, KeyMap.get?_insert]

def finalResources (a : Assembly) : List (String × Resource) :=
  (if 0 < a.bundleCount then [(Key.role, executionRole a.policies)] else []) ++
    [(Key.alarmTopic, alarmTopic)] ++
    if a.hasGateway then [(a.deploymentKey, apiDeployment a.methodKeys)] else []

theorem resources_finished (a : Assembly) :
    a.finished.resources = a.template.resources.insertAll a.finalResources := by
  rw [finished, ownedResources, finalResources]
  by_cases hcount : 0 < a.bundleCount <;> cases a.hasGateway <;>
    simp [hcount, KeyMap.insertAll]

/-- A deployment that finds its key free is at none of the keys that the stack keeps for itself. -/
theorem not_deployment_of_reserved {a : Assembly}
    (hfree : a.hasGateway = true → a.taken a.deploymentKey = false) (key : String)
    (hkey : reserved key = true) : ¬ (a.hasGateway = true ∧ key = a.deploymentKey) := by
  rintro ⟨hgateway, rfl⟩
  have hreserved := ((a.taken_eq_false_iff _).1 (hfree hgateway)).2
  rw [hkey] at hreserved
  cases hreserved

theorem nodup_finalResources {a : Assembly}
    (hfree : a.hasGateway = true → a.taken a.deploymentKey = false) :
    (a.finalResources.map (·.1)).Nodup := by
  have hne : Key.role ≠ Key.alarmTopic := by decide
  have hrole := not_deployment_of_reserved hfree Key.role rfl
  have htopic := not_deployment_of_reserved hfree Key.alarmTopic rfl
  rw [finalResources]
  split <;> split <;> simp_all

theorem key_of_mem_finalResources {a : Assembly} {e : String × Resource}
    (he : e ∈ a.finalResources) :
    reserved e.1 = true ∨ (a.hasGateway = true ∧ e.1 = a.deploymentKey) := by
  simp only [finalResources, List.mem_append] at he
  rcases he with (he | he) | he
  · split at he
    · cases List.mem_singleton.1 he
      exact .inl rfl
    · cases he
  · cases List.mem_singleton.1 he
    exact .inl rfl
  · split at he
    · rename_i hgateway
      cases List.mem_singleton.1 he
      exact .inr ⟨hgateway, rfl⟩
    · cases he

theorem not_mem_finalResources {a : Assembly}
    (hfree : a.hasGateway = true → a.taken a.deploymentKey = false) {key : String}
    (hkey : key ∈ a.template.resources.keys) (hreserved : reserved key = false) :
    key ∉ a.finalResources.map (·.1) := by
  intro hm
  obtain ⟨e, he, rfl⟩ := List.mem_map.1 hm
  rcases key_of_mem_finalResources he with hkept | ⟨hgateway, hdeployment⟩
  · rw [hkept] at hreserved
    cases hreserved
  · rw [hdeployment] at hkey
    exact ((a.taken_eq_false_iff _).1 (hfree hgateway)).1 hkey

theorem finalResources_free {a : Assembly}
    (hfree : a.hasGateway = true → a.taken a.deploymentKey = false)
    (hkept : ∀ key, reserved key = true → key ∉ a.template.resources.keys) :
    ∀ e ∈ a.finalResources, e.1 ∉ a.template.resources.keys := by
  intro e he
  rcases key_of_mem_finalResources he with hreserved | ⟨hgateway, hdeployment⟩
  · exact hkept e.1 hreserved
  · rw [hdeployment]
    exact ((a.taken_eq_false_iff _).1 (hfree hgateway)).1

end Assembly

namespace Assembly

/-- What stands at the key of a shared resource: the resource, or the first method if that has the
same key. -/
def EntryKept (a : Assembly) (e : String × Resource) : Prop :=
  if a.methodKeys.head? = some e.1 then
    ∃ r, a.template.resources.get? e.1 = some r ∧ r.isMethod = true
  else a.template.resources.get? e.1 = some e.2

structure GatewayKept (deploymentKey : String) (a : Assembly) : Prop where
  deployment : a.deploymentKey = deploymentKey
  methodKeys : a.hasGateway = true ↔ a.methodKeys ≠ []
  output : a.hasGateway = true →
    a.template.outputs.get? Key.apiKeyOutput = some apiKeyOutput
  entries : a.hasGateway = true → ∀ e ∈ gatewayResources deploymentKey, a.EntryKept e

theorem EntryKept.of_setResource {a : Assembly} {e : String × Resource} (h : a.EntryKept e)
    {key : String} (hkey : key ∉ a.template.resources.keys) (value : Resource)
    (hmethods : value.isMethod = true → a.methodKeys ≠ []) :
    (a.setResource key value).EntryKept e := by
  have hhead : (a.setResource key value).methodKeys.head? = a.methodKeys.head? := by
    cases hmethod : value.isMethod
    · simp [setResource, hmethod]
    · obtain ⟨k, rest, hk⟩ := List.exists_cons_of_ne_nil (hmethods hmethod)
      simp [setResource, hmethod, hk]
  rw [EntryKept] at h ⊢
  rw [hhead]
  split at h
  · rename_i hfirst
    obtain ⟨r, hr, hmethod⟩ := h
    rw [if_pos hfirst]
    exact ⟨r, KeyMap.get?_insert_of_get? hr hkey value, hmethod⟩
  · rename_i hfirst
    rw [if_neg hfirst]
    exact KeyMap.get?_insert_of_get? h hkey value

/-- The one step that can lose a shared resource. -/
theorem EntryKept.of_firstMethod {a : Assembly} (hmethods : a.methodKeys = [])
    {e : String × Resource} (he : e ∈ gatewayResources a.deploymentKey) (key : String)
    {value : Resource} (hmethod : value.isMethod = true) :
    (a.setGateway.setResource key value).EntryKept e := by
  have hkeys : (a.setGateway.setResource key value).methodKeys = [key] := by
    simp [setResource, setGateway, hmethod, hmethods]
  have hnodup : ((gatewayResources a.deploymentKey).map (·.1)).Nodup := nodup_gatewayKeys
  have hset := a.template.resources.get?_insertAll_of_mem hnodup he
  rw [EntryKept, hkeys]
  split
  · rename_i hfirst
    cases hfirst
    exact ⟨value, KeyMap.get?_insert_self _ _ _, hmethod⟩
  · rename_i hfirst
    have hne : e.1 ≠ key := fun h => hfirst (by rw [h]; rfl)
    exact (KeyMap.get?_insert_of_ne _ hne value).trans hset

namespace GatewayKept

variable {deploymentKey : String} {a a' : Assembly}

theorem of_start (template : Template) (deploymentKey : String) :
    GatewayKept deploymentKey (.start template deploymentKey) where
  deployment := rfl
  methodKeys := by simp [start]
  output h := by cases h
  entries h := by cases h

theorem of_setResource (h : GatewayKept deploymentKey a) {key : String}
    (htaken : a.taken key = false) {value : Resource}
    (hgateway : value.isMethod = true → a.hasGateway = true) :
    GatewayKept deploymentKey (a.setResource key value) := by
  have hkey := ((a.taken_eq_false_iff key).1 htaken).1
  constructor
  case deployment => exact h.deployment
  case methodKeys =>
    have hm := h.methodKeys
    cases hmethod : value.isMethod
    · simpa [setResource, hmethod] using hm
    · simpa [setResource, hmethod] using hgateway hmethod
  case output => exact h.output
  case entries =>
    intro hg e he
    exact (h.entries hg e he).of_setResource hkey value
      fun hmethod => h.methodKeys.1 (hgateway hmethod)

theorem of_step (h : GatewayKept deploymentKey a) {part : Part} (hstep : a.Step part a') :
    GatewayKept deploymentKey a' := by
  cases hstep with
  | parameter hkey => exact ⟨h.deployment, h.methodKeys, h.output, h.entries⟩
  | resource htaken hmethod =>
    exact h.of_setResource htaken fun hm => absurd (hmethod.symm.trans hm) Bool.false_ne_true
  | method htaken hmethod hgateway => exact h.of_setResource htaken fun _ => hgateway
  | @firstMethod key value htaken hmethod hgateway hroom =>
    have hnone : a.methodKeys = [] := by
      have hm := h.methodKeys
      rw [hgateway] at hm
      simpa using hm
    constructor
    case deployment => exact h.deployment
    case methodKeys => simp [setResource, setGateway, hmethod]
    case output => exact fun _ => KeyMap.get?_insert_self _ _ _
    case entries =>
      intro _ e he
      exact EntryKept.of_firstMethod hnone (h.deployment.symm ▸ he) key hmethod
  | output hkey =>
    exact ⟨h.deployment, h.methodKeys,
      fun hg => KeyMap.get?_insert_of_get? (h.output hg) hkey _, h.entries⟩

theorem of_actAll (template : Template) (deploymentKey : String) (actions : List Action) :
    GatewayKept deploymentKey ((start template deploymentKey).actAll actions) :=
  actAll_induction (P := GatewayKept deploymentKey) (fun _ _ _ h hstep => h.of_step hstep)
    (fun _ _ h => ⟨h.deployment, h.methodKeys, h.output, h.entries⟩)
    (fun _ _ h => ⟨h.deployment, h.methodKeys, h.output, h.entries⟩)
    actions (of_start template deploymentKey)

theorem mem_keys (h : GatewayKept deploymentKey a) (hgateway : a.hasGateway = true)
    {e : String × Resource} (he : e ∈ gatewayResources deploymentKey) :
    e.1 ∈ a.template.resources.keys := by
  have hentry := h.entries hgateway e he
  rw [EntryKept] at hentry
  split at hentry
  · obtain ⟨r, hr, -⟩ := hentry
    exact KeyMap.mem_keys_of_get? hr
  · exact KeyMap.mem_keys_of_get? hentry

theorem entry_iff (h : GatewayKept deploymentKey a) (hgateway : a.hasGateway = true)
    {e : String × Resource} (he : e ∈ gatewayResources deploymentKey) :
    a.template.resources.get? e.1 = some e.2 ↔ a.methodKeys.head? ≠ some e.1 := by
  have hentry := h.entries hgateway e he
  rw [EntryKept] at hentry
  split at hentry
  · rename_i hfirst
    obtain ⟨r, hr, hmethod⟩ := hentry
    -- what stands there is a method, and no shared resource is one
    have hne : r ≠ e.2 := by
      rintro rfl
      rw [isMethod_of_mem_gatewayResources he] at hmethod
      cases hmethod
    simp [hr, hne, hfirst]
  · rename_i hfirst
    simp [hentry, hfirst]

end GatewayKept

theorem get?_finished {a : Assembly} {key : String} (hmem : key ∈ a.template.resources.keys)
    (hreserved : reserved key = false)
    (hfree : a.hasGateway = true → a.taken a.deploymentKey = false) :
    a.finished.resources.get? key = a.template.resources.get? key := by
  have hrole : key ≠ Key.role := by
    rintro rfl
    cases hreserved
  have htopic : key ≠ Key.alarmTopic := by
    rintro rfl
    cases hreserved
  have hdeployment : ¬ (a.hasGateway = true ∧ key = a.deploymentKey) := by
    rintro ⟨hgateway, rfl⟩
    exact ((a.taken_eq_false_iff _).1 (hfree hgateway)).1 hmem
  rw [get?_resources_finished, if_neg hdeployment, if_neg htopic, if_neg fun h => hrole h.1]

def reached (template : Template) (deploymentKey : String) (actions : List Action) : Assembly :=
  (start template deploymentKey).actAll actions

/-- Once the shared API is part of an assembly, its output stays, and of its resources just the one
whose key the first method took is lost. Finishing changes none of them. -/
theorem gateway_entry_iff (template : Template) (deploymentKey : String) (actions : List Action)
    (hgateway : (reached template deploymentKey actions).hasGateway = true) :
    (reached template deploymentKey actions).template.outputs.get? Key.apiKeyOutput =
        some (.make (.ref Key.apiKey)) ∧
      (∀ e ∈ gatewayResources deploymentKey,
        (reached template deploymentKey actions).template.resources.get? e.1 = some e.2 ↔
          (reached template deploymentKey actions).methodKeys.head? ≠ some e.1) ∧
      ∀ t, (reached template deploymentKey actions).finish = .ok t →
        t.outputs.get? Key.apiKeyOutput = some (.make (.ref Key.apiKey)) ∧
          ∀ e ∈ gatewayResources deploymentKey, t.resources.get? e.1 =
            (reached template deploymentKey actions).template.resources.get? e.1 := by
  have h := GatewayKept.of_actAll template deploymentKey actions
  refine ⟨h.output hgateway, fun e he => h.entry_iff hgateway he, fun t ht => ?_⟩
  obtain ⟨hfree, rfl⟩ := (finish_eq_ok_iff _ t).1 ht
  refine ⟨h.output hgateway, fun e he => get?_finished (h.mem_keys hgateway he) ?_ hfree⟩
  exact reserved_of_mem_gatewayKeys e.1 (List.mem_map_of_mem (f := (·.1)) he)

def sampleActions : List Action := [
  .put (.resource "hook" (.make Resource.functionKind [])),
  .put (.resource "hookGatewayRuleMethod" (.make Resource.methodKind [])),
  .put (.resource Key.restApi (.make Resource.functionKind [])),
  .putBundle ⟨"late", [], [(Key.apiKey, .make Resource.methodKind [])], none, []⟩]

theorem gateway_entry_iff_sample :
    (reached .empty "ApiDeployment" sampleActions).hasGateway = true ∧
      ∀ e ∈ gatewayResources "ApiDeployment",
        (reached .empty "ApiDeployment" sampleActions).template.resources.get? e.1 = some e.2 := by
  have hgateway : (reached .empty "ApiDeployment" sampleActions).hasGateway = true := by
    rfl
  have hfirst : (reached .empty "ApiDeployment" sampleActions).methodKeys.head? =
      some "hookGatewayRuleMethod" := by rfl
  have hapart : "hookGatewayRuleMethod" ∉ gatewayKeys := by decide
  refine ⟨hgateway, fun e he => ?_⟩
  refine ((gateway_entry_iff .empty "ApiDeployment" sampleActions hgateway).2.1 e he).2 ?_
  rw [hfirst]
  intro hkey
  have hmethod : "hookGatewayRuleMethod" = e.1 := Option.some.inj hkey
  rw [hmethod] at hapart
  exact hapart (List.mem_map_of_mem (f := (·.1)) he)

/-- A first method at the key of the shared API itself takes its place. -/
theorem restApi_lost_to_first_method :
    (reached .empty "ApiDeployment"
        [.put (.resource Key.restApi (.make Resource.methodKind []))]).hasGateway = true ∧
      (reached .empty "ApiDeployment"
        [.put (.resource Key.restApi (.make Resource.methodKind []))]).template.resources.get?
          Key.restApi ≠ some restApi := by
  decide

end Assembly
end RuleStack
