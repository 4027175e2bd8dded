import RuleStack.Proofs.KeyMap
import RuleStack.Stack
set_option autoImplicit false

namespace RuleStack

def gatewayKeys : List String :=
  [Key.restApi, Key.apiKey, Key.latencyAlarm, Key.clientErrorAlarm, Key.countAlarm]

theorem map_fst_gatewayResources (deploymentKey : String) :
    (gatewayResources deploymentKey).map (·.1) = gatewayKeys := rfl

theorem nodup_gatewayKeys : gatewayKeys.Nodup := by decide

theorem isMethod_of_mem_gatewayResources {deploymentKey : String} {e : String × Resource}
    (h : e ∈ gatewayResources deploymentKey) : e.2.isMethod = false := by
  simp only [gatewayResources, gatewayAlarms, List.cons_append, List.nil_append, List.mem_cons,
    List.not_mem_nil, or_false] at h
  rcases h with rfl | rfl | rfl | rfl | rfl <;> rfl

namespace Assembly

theorem reserved_of_mem_gatewayKeys : ∀ key ∈ gatewayKeys, reserved key = false := by decide

theorem taken_eq_false_iff (a : Assembly) (key : String) :
    a.taken key = false ↔ key ∉ a.template.resources.keys ∧ reserved key = false := by
  rw [taken, Bool.or_eq_false_iff, KeyMap.contains_eq_false_iff]

def setParameter (a : Assembly) (key : String) (value : Parameter) : Assembly :=
  { a with template := { a.template with parameters := a.template.parameters.insert key value } }

def setOutput (a : Assembly) (key : String) (value : Output) : Assembly :=
  { a with template := { a.template with outputs := a.template.outputs.insert key value } }

def setGateway (a : Assembly) : Assembly :=
  { a with
    hasGateway := true
    template := { a.template with
      resources := a.template.resources.insertAll (gatewayResources a.deploymentKey)
      outputs := a.template.outputs.insert Key.apiKeyOutput apiKeyOutput } }

structure RoomForGateway (a : Assembly) : Prop where
  resources : ∀ key ∈ gatewayKeys, key ∉ a.template.resources.keys
  output : Key.apiKeyOutput ∉ a.template.outputs.keys

/-- The ways in which a part is put in. -/
inductive Step (a : Assembly) : Part → Assembly → Prop where
  | parameter {key : String} {value : Parameter} :
      key ∉ a.template.parameters.keys → Step a (.parameter key value) (a.setParameter key value)
  | resource {key : String} {value : Resource} :
      a.taken key = false → value.isMethod = false →
      Step a (.resource key value) (a.setResource key value)
  | method {key : String} {value : Resource} :
      a.taken key = false → value.isMethod = true → a.hasGateway = true →
      Step a (.resource key value) (a.setResource key value)
  | firstMethod {key : String} {value : Resource} :
      a.taken key = false → value.isMethod = true → a.hasGateway = false → a.RoomForGateway →
      Step a (.resource key value) (a.setGateway.setResource key value)
  | output {key : String} {value : Output} :
      key ∉ a.template.outputs.keys → Step a (.output key value) (a.setOutput key value)

theorem firstTaken?_gateway_eq_none_iff (a : Assembly) :
    a.firstTaken? ((gatewayResources a.deploymentKey).map (·.1)) = none ↔
      ∀ key ∈ gatewayKeys, key ∉ a.template.resources.keys := by
  rw [map_fst_gatewayResources, firstTaken?, List.find?_eq_none]
  simp only [Bool.not_eq_true, taken_eq_false_iff]
  exact ⟨fun h key hk => (h key hk).1,
    fun h key hk => ⟨h key hk, reserved_of_mem_gatewayKeys key hk⟩⟩

theorem putGateway_eq_ok_iff (a a' : Assembly) :
    a.putGateway = .ok a' ↔ a.RoomForGateway ∧ a' = a.setGateway := by
  rw [putGateway]
  split
  · rename_i key hkey
    constructor
    · intro h
      cases h
    · rintro ⟨hroom, -⟩
      rw [(a.firstTaken?_gateway_eq_none_iff).2 hroom.resources] at hkey
      cases hkey
  · rename_i hnone
    have hres := (a.firstTaken?_gateway_eq_none_iff).1 hnone
    split
    · rename_i hout
      constructor
      · intro h
        cases h
      · rintro ⟨hroom, -⟩
        exact absurd ((KeyMap.contains_iff _ _).1 hout) hroom.output
    · rename_i hout
      have hout := (KeyMap.contains_eq_false_iff _ _).1 (Bool.eq_false_iff.2 hout)
      constructor
      · intro h
        cases h
        exact ⟨⟨hres, hout⟩, rfl⟩
      · rintro ⟨-, rfl⟩
        rfl

theorem putParameter_eq_ok_iff (a a' : Assembly) (key : String) (value : Parameter) :
    a.putParameter key value = .ok a' ↔
      key ∉ a.template.parameters.keys ∧ a' = a.setParameter key value := by
  rw [putParameter, ← KeyMap.contains_eq_false_iff]
  split
  · simp_all
  · rename_i h
    simp only [Bool.eq_false_iff.2 h, Except.ok.injEq, true_and]
    exact eq_comm

theorem putOutput_eq_ok_iff (a a' : Assembly) (key : String) (value : Output) :
    a.putOutput key value = .ok a' ↔
      key ∉ a.template.outputs.keys ∧ a' = a.setOutput key value := by
  rw [putOutput, ← KeyMap.contains_eq_false_iff]
  split
  · simp_all
  · rename_i h
    simp only [Bool.eq_false_iff.2 h, Except.ok.injEq, true_and]
    exact eq_comm

theorem putResource_eq_ok_iff (a a' : Assembly) (key : String) (value : Resource) :
    a.putResource key value = .ok a' ↔ Step a (.resource key value) a' := by
  constructor
  · intro h
    rw [putResource] at h
    split at h
    · cases h
    rename_i htaken
    have htaken : a.taken key = false := Bool.eq_false_iff.2 htaken
    split at h
    · rename_i hmethod
      rw [withGateway] at h
      split at h
      · rename_i hgateway
        cases h
        exact .method htaken hmethod hgateway
      · rename_i hgateway
        cases hput : a.putGateway with
        | error e => rw [hput] at h; cases h
        | ok b =>
          rw [hput] at h
          cases h
          obtain ⟨hroom, rfl⟩ := (a.putGateway_eq_ok_iff b).1 hput
          exact .firstMethod htaken hmethod (Bool.eq_false_iff.2 hgateway) hroom
    · rename_i hmethod
      cases h
      exact .resource htaken (Bool.eq_false_iff.2 hmethod)
  · intro h
    cases h with
    | resource htaken hmethod => simp [putResource, htaken, hmethod]
    | method htaken hmethod hgateway =>
      simp [putResource, withGateway, htaken, hmethod, hgateway, Except.map]
    | firstMethod htaken hmethod hgateway hroom =>
      have hput := (a.putGateway_eq_ok_iff a.setGateway).2 ⟨hroom, rfl⟩
      simp [putResource, withGateway, htaken, hmethod, hgateway, hput, Except.map]

theorem put_eq_ok_iff (a a' : Assembly) (part : Part) : a.put part = .ok a' ↔ Step a part a' := by
  cases part with
  | parameter key value =>
    rw [put, putParameter_eq_ok_iff]
    constructor
    · rintro ⟨hkey, rfl⟩
      exact .parameter hkey
    · intro h
      cases h with
      | parameter hkey => exact ⟨hkey, rfl⟩
  | resource key value => exact a.putResource_eq_ok_iff a' key value
  | output key value =>
    rw [put, putOutput_eq_ok_iff]
    constructor
    · rintro ⟨hkey, rfl⟩
      exact .output hkey
    · intro h
      cases h with
      | output hkey => exact ⟨hkey, rfl⟩

theorem putBundle_eq_ok_iff (a a' : Assembly) (b : Bundle) :
    a.putBundle b = (a', .ok ()) ↔ ∃ c, a.putAll b.parts = (c, .ok ()) ∧ c.close b.policy = a' := by
  rw [putBundle]
  split
  · rename_i c hc
    simp [hc]
  · rename_i c e hc
    simp [hc]

namespace Step

variable {a a' : Assembly} {part : Part}

theorem policies_eq (h : Step a part a') : a'.policies = a.policies := by cases h <;> rfl

theorem bundleCount_eq (h : Step a part a') : a'.bundleCount = a.bundleCount := by cases h <;> rfl

end Step

section Induction

variable {P : Assembly → Prop} (hstep : ∀ a part a', P a → Step a part a' → P a')
include hstep

/-- What steps keep is kept also by parts of which one does not fit. -/
theorem putAll_induction (parts : List Part) {a : Assembly} (h : P a) : P (a.putAll parts).1 := by
  induction parts generalizing a with
  | nil => exact h
  | cons part rest ih =>
    rw [putAll]
    split
    · rename_i a' hput
      exact ih (hstep a part a' h ((a.put_eq_ok_iff a' part).1 hput))
    · exact h

theorem act_induction (hpolicy : ∀ a policy, P a → P (a.addPolicy policy))
    (hclose : ∀ a policy, P a → P (a.close policy)) (action : Action) {a : Assembly} (h : P a) :
    P (a.act action).1 := by
  cases action with
  | put part =>
    rw [act]
    split
    · rename_i a' hput
      exact hstep a part a' h ((a.put_eq_ok_iff a' part).1 hput)
    · exact h
  | addPolicy policy => exact hpolicy a policy h
  | putBundle bundle =>
    have hparts := putAll_induction hstep bundle.parts h
    rw [act, putBundle]
    split
    · rename_i b hb
      rw [hb] at hparts
      exact hclose b bundle.policy hparts
    · rename_i b e hb
      rw [hb] at hparts
      exact hparts

/-- What steps, policies and closed bundles keep is kept by every run of actions, successful or
not. -/
theorem actAll_induction (hpolicy : ∀ a policy, P a → P (a.addPolicy policy))
    (hclose : ∀ a policy, P a → P (a.close policy)) (actions : List Action) {a : Assembly}
    (h : P a) : P (a.actAll actions) := by
  induction actions generalizing a with
  | nil => exact h
  | cons action rest ih => exact ih (act_induction hstep hpolicy hclose action h)

end Induction
end Assembly

/-- What stands at a key of the one template stands there in the other, in each of the three
sections. -/
structure Template.Keeps (t u : Template) : Prop where
  parameters : ∀ key value, t.parameters.get? key = some value →
    u.parameters.get? key = some value
  resources : ∀ key value, t.resources.get? key = some value → u.resources.get? key = some value
  outputs : ∀ key value, t.outputs.get? key = some value → u.outputs.get? key = some value

namespace Template.Keeps

variable {t u v : Template}

theorem refl (t : Template) : t.Keeps t :=
  ⟨fun _ _ h => h, fun _ _ h => h, fun _ _ h => h⟩

theorem trans (htu : t.Keeps u) (huv : u.Keeps v) : t.Keeps v :=
  ⟨fun key value h => huv.parameters key value (htu.parameters key value h),
    fun key value h => huv.resources key value (htu.resources key value h),
    fun key value h => huv.outputs key value (htu.outputs key value h)⟩

end Template.Keeps

namespace Assembly

section Steps

variable {a a' : Assembly} {part : Part}

theorem get?_setGateway {key : String} {value : Resource}
    (h : a.template.resources.get? key = some value) (hroom : a.RoomForGateway) :
    a.setGateway.template.resources.get? key = some value := by
  have hkey : key ∉ (gatewayResources a.deploymentKey).map (·.1) :=
    fun hm => hroom.resources key hm (KeyMap.mem_keys_of_get? h)
  exact (a.template.resources.get?_insertAll_of_not_mem hkey).trans h

theorem Step.get?_parameter (h : Step a part a') {key : String} {value : Parameter}
    (hvalue : a.template.parameters.get? key = some value) :
    a'.template.parameters.get? key = some value := by
  cases h with
  | parameter hkey => exact KeyMap.get?_insert_of_get? hvalue hkey _
  | resource => exact hvalue
  | method => exact hvalue
  | firstMethod => exact hvalue
  | output => exact hvalue

theorem Step.get?_resource (h : Step a part a') {key : String} {value : Resource}
    (hvalue : a.template.resources.get? key = some value) :
    a'.template.resources.get? key = some value := by
  cases h with
  | parameter => exact hvalue
  | output => exact hvalue
  | resource htaken =>
    exact KeyMap.get?_insert_of_get? hvalue ((a.taken_eq_false_iff _).1 htaken).1 _
  | method htaken =>
    exact KeyMap.get?_insert_of_get? hvalue ((a.taken_eq_false_iff _).1 htaken).1 _
  | @firstMethod own _ htaken _ _ hroom =>
    -- the key was looked at before the shared API came in, which may have it too
    have hne : key ≠ own := by
      rintro rfl
      exact ((a.taken_eq_false_iff key).1 htaken).1 (KeyMap.mem_keys_of_get? hvalue)
    exact (KeyMap.get?_insert_of_ne _ hne _).trans (get?_setGateway hvalue hroom)

theorem Step.get?_output (h : Step a part a') {key : String} {value : Output}
    (hvalue : a.template.outputs.get? key = some value) :
    a'.template.outputs.get? key = some value := by
  cases h with
  | parameter => exact hvalue
  | resource => exact hvalue
  | method => exact hvalue
  | firstMethod _ _ _ hroom => exact KeyMap.get?_insert_of_get? hvalue hroom.output _
  | output hkey => exact KeyMap.get?_insert_of_get? hvalue hkey _

theorem Step.keeps (h : Step a part a') : a.template.Keeps a'.template :=
  ⟨fun _ _ => h.get?_parameter, fun _ _ => h.get?_resource, fun _ _ => h.get?_output⟩

end Steps

theorem keeps_act (a : Assembly) (action : Action) :
    a.template.Keeps (a.act action).1.template :=
  act_induction (P := fun b => a.template.Keeps b.template)
    (fun _ _ _ h hstep => h.trans hstep.keeps) (fun _ _ h => h) (fun _ _ h => h) action (.refl _)

end Assembly
end RuleStack
