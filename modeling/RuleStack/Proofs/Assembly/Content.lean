import RuleStack.Proofs.Assembly.Step
/-!
What an assembly holds after parts were put in (`Holds`), and when parts find room, without an order
among them (`Fits`): `holds_putAll`, `putAll_of_fits`.
-/
set_option autoImplicit false

namespace RuleStack

namespace Part

def parameter? : Part → Option (String × Parameter)
  | .parameter key value => some (key, value)
  | _ => none

def resource? : Part → Option (String × Resource)
  | .resource key value => some (key, value)
  | _ => none

def output? : Part → Option (String × Output)
  | .output key value => some (key, value)
  | _ => none

def parameters (parts : List Part) : List (String × Parameter) := parts.filterMap parameter?

def resources (parts : List Part) : List (String × Resource) := parts.filterMap resource?

def outputs (parts : List Part) : List (String × Output) := parts.filterMap output?

@[simp] theorem parameters_append (ps qs : List Part) :
    parameters (ps ++ qs) = parameters ps ++ parameters qs := List.filterMap_append

@[simp] theorem resources_append (ps qs : List Part) :
    resources (ps ++ qs) = resources ps ++ resources qs := List.filterMap_append

@[simp] theorem outputs_append (ps qs : List Part) :
    outputs (ps ++ qs) = outputs ps ++ outputs qs := List.filterMap_append

@[simp] theorem sections_parameter (key : String) (value : Parameter) :
    parameters [.parameter key value] = [(key, value)] ∧ resources [.parameter key value] = [] ∧
      outputs [.parameter key value] = [] := ⟨rfl, rfl, rfl⟩

@[simp] theorem sections_resource (key : String) (value : Resource) :
    parameters [.resource key value] = [] ∧ resources [.resource key value] = [(key, value)] ∧
      outputs [.resource key value] = [] := ⟨rfl, rfl, rfl⟩

@[simp] theorem sections_output (key : String) (value : Output) :
    parameters [.output key value] = [] ∧ resources [.output key value] = [] ∧
      outputs [.output key value] = [(key, value)] := ⟨rfl, rfl, rfl⟩

end Part

def hasMethod (rs : List (String × Resource)) : Bool := rs.any (·.2.isMethod)

def methodKeysOf (rs : List (String × Resource)) : List String :=
  (rs.filter (·.2.isMethod)).map (·.1)

def gatewayFor (deploymentKey : String) (rs : List (String × Resource)) :
    List (String × Resource) :=
  if hasMethod rs then gatewayResources deploymentKey else []

def gatewayOutputFor (rs : List (String × Resource)) : List (String × Output) :=
  if hasMethod rs then [(Key.apiKeyOutput, apiKeyOutput)] else []

@[simp] theorem hasMethod_append (rs qs : List (String × Resource)) :
    hasMethod (rs ++ qs) = (hasMethod rs || hasMethod qs) := List.any_append

@[simp] theorem hasMethod_nil : hasMethod [] = false := rfl

@[simp] theorem hasMethod_singleton (e : String × Resource) : hasMethod [e] = e.2.isMethod := by
  simp [hasMethod]

@[simp] theorem methodKeysOf_append (rs qs : List (String × Resource)) :
    methodKeysOf (rs ++ qs) = methodKeysOf rs ++ methodKeysOf qs := by
  simp [methodKeysOf]

theorem methodKeysOf_singleton (e : String × Resource) :
    methodKeysOf [e] = if e.2.isMethod then [e.1] else [] := by
  cases h : e.2.isMethod <;> simp [methodKeysOf, h]

theorem map_fst_gatewayFor (deploymentKey : String) (rs : List (String × Resource)) :
    (gatewayFor deploymentKey rs).map (·.1) = if hasMethod rs then gatewayKeys else [] := by
  cases h : hasMethod rs <;> simp [gatewayFor, h, map_fst_gatewayResources]

theorem map_fst_gatewayOutputFor (rs : List (String × Resource)) :
    (gatewayOutputFor rs).map (·.1) = if hasMethod rs then [Key.apiKeyOutput] else [] := by
  cases h : hasMethod rs <;> simp [gatewayOutputFor, h]

theorem sublist_with_more (keys : List String) (rs qs : List (String × Resource)) :
    (if hasMethod rs then keys else []).Sublist (if hasMethod (rs ++ qs) then keys else []) := by
  rw [hasMethod_append]
  cases hasMethod rs with
  | true => exact .refl _
  | false => exact List.nil_sublist _

/-- No method stands at a key of the shared API. -/
def Apart (rs : List (String × Resource)) : Prop :=
  ∀ e ∈ rs, e.2.isMethod = true → e.1 ∉ gatewayKeys

/-- The parts have keys of their own beside those of the template and of the shared API that a
method brings. -/
structure Fits (start : Template) (parts : List Part) : Prop where
  parameters : (start.parameters.keys ++ (Part.parameters parts).map (·.1)).Nodup
  resources :
    (start.resources.keys ++ (if hasMethod (Part.resources parts) then gatewayKeys else []) ++
      (Part.resources parts).map (·.1)).Nodup
  unreserved : ∀ e ∈ Part.resources parts, Assembly.reserved e.1 = false
  outputs :
    (start.outputs.keys ++
      (if hasMethod (Part.resources parts) then [Key.apiKeyOutput] else []) ++
      (Part.outputs parts).map (·.1)).Nodup

/-- The assembly holds the template it started with, these parts, and the shared API if one of them
is a method; each section is given without its order. -/
structure Holds (start : Template) (deploymentKey : String) (parts : List Part) (a : Assembly) :
    Prop where
  parameters : a.template.parameters.entries.Perm
    (start.parameters.entries ++ Part.parameters parts)
  resources : a.template.resources.entries.Perm
    (start.resources.entries ++ gatewayFor deploymentKey (Part.resources parts) ++
      Part.resources parts)
  unreserved : ∀ e ∈ Part.resources parts, Assembly.reserved e.1 = false
  outputs : a.template.outputs.entries.Perm
    (start.outputs.entries ++ gatewayOutputFor (Part.resources parts) ++ Part.outputs parts)
  hasGateway : a.hasGateway = hasMethod (Part.resources parts)
  methodKeys : a.methodKeys = methodKeysOf (Part.resources parts)
  deploymentKey : a.deploymentKey = deploymentKey
  formatVersion : a.template.formatVersion = start.formatVersion
  description : a.template.description = start.description
  extra : a.template.extra = start.extra

theorem not_mem_of_nodup_append_singleton {α : Type} {xs : List α} {x : α}
    (h : (xs ++ [x]).Nodup) : x ∉ xs :=
  fun hx => (List.nodup_append.1 h).2.2 x hx x (List.mem_singleton_self x) rfl

theorem not_mem_of_nodup_middle {α : Type} {xs ys zs : List α} (h : (xs ++ ys ++ zs).Nodup) :
    ∀ y ∈ ys, y ∉ xs ++ zs := by
  rw [List.nodup_append, List.nodup_append] at h
  intro y hy hm
  rcases List.mem_append.1 hm with hx | hz
  · exact h.1.2.2 y hx y hy rfl
  · exact h.2.2 y (List.mem_append_right _ hy) y hz rfl

namespace Fits

variable {start : Template} {parts more : List Part}

theorem of_append (h : Fits start (parts ++ more)) : Fits start parts where
  parameters := by
    have hp := h.parameters
    rw [Part.parameters_append, List.map_append, ← List.append_assoc] at hp
    exact (List.nodup_append.1 hp).1
  resources := by
    have hr := h.resources
    rw [Part.resources_append, List.map_append, ← List.append_assoc] at hr
    exact (List.nodup_append.1 hr).1.sublist
      ((List.Sublist.append_left (sublist_with_more ..) _).append_right _)
  unreserved e he := h.unreserved e (by simp [he])
  outputs := by
    have ho := h.outputs
    rw [Part.outputs_append, Part.resources_append, List.map_append, ← List.append_assoc] at ho
    exact (List.nodup_append.1 ho).1.sublist
      ((List.Sublist.append_left (sublist_with_more ..) _).append_right _)

theorem apart (h : Fits start parts) : Apart (Part.resources parts) := by
  intro e he hmethod hkey
  have hany : hasMethod (Part.resources parts) = true := List.any_eq_true.2 ⟨e, he, hmethod⟩
  have hr := h.resources
  rw [hany, if_pos rfl, List.nodup_append] at hr
  exact hr.2.2 e.1 (List.mem_append_right _ hkey) e.1 (List.mem_map_of_mem he) rfl

end Fits

namespace Holds

variable {start : Template} {deploymentKey : String} {parts : List Part} {a a' : Assembly}

theorem of_start (start : Template) (deploymentKey : String) :
    Holds start deploymentKey [] (.start start deploymentKey) where
  parameters := by simp [Assembly.start, Part.parameters]
  resources := by simp [Assembly.start, Part.resources, gatewayFor]
  unreserved := by simp [Part.resources]
  outputs := by simp [Assembly.start, Part.outputs, Part.resources, gatewayOutputFor]
  hasGateway := rfl
  methodKeys := rfl
  deploymentKey := rfl
  formatVersion := rfl
  description := rfl
  extra := rfl

theorem fits (h : Holds start deploymentKey parts a) : Fits start parts where
  parameters := by simpa [KeyMap.keys] using KeyMap.nodup_of_perm h.parameters
  resources := by
    have hn := KeyMap.nodup_of_perm h.resources
    rw [List.map_append, List.map_append, map_fst_gatewayFor] at hn
    exact hn
  unreserved := h.unreserved
  outputs := by
    have hn := KeyMap.nodup_of_perm h.outputs
    rw [List.map_append, List.map_append, map_fst_gatewayOutputFor] at hn
    exact hn

theorem mem_resource_keys_iff (h : Holds start deploymentKey parts a) (key : String) :
    key ∈ a.template.resources.keys ↔
      key ∈ start.resources.keys ++
        (if hasMethod (Part.resources parts) then gatewayKeys else []) ++
        (Part.resources parts).map (·.1) := by
  rw [KeyMap.mem_keys_iff_of_perm h.resources, List.map_append, List.map_append,
    map_fst_gatewayFor, KeyMap.keys]

theorem mem_output_keys_iff (h : Holds start deploymentKey parts a) (key : String) :
    key ∈ a.template.outputs.keys ↔
      key ∈ start.outputs.keys ++
        (if hasMethod (Part.resources parts) then [Key.apiKeyOutput] else []) ++
        (Part.outputs parts).map (·.1) := by
  rw [KeyMap.mem_keys_iff_of_perm h.outputs, List.map_append, List.map_append,
    map_fst_gatewayOutputFor, KeyMap.keys]

theorem mem_parameter_keys_iff (h : Holds start deploymentKey parts a) (key : String) :
    key ∈ a.template.parameters.keys ↔
      key ∈ start.parameters.keys ++ (Part.parameters parts).map (·.1) := by
  rw [KeyMap.mem_keys_iff_of_perm h.parameters, List.map_append, KeyMap.keys]

theorem reserved_of_mem (h : Holds start deploymentKey parts a) {e : String × Resource}
    (he : e ∈ gatewayFor deploymentKey (Part.resources parts) ++ Part.resources parts) :
    Assembly.reserved e.1 = false := by
  rcases List.mem_append.1 he with he | he
  · have hkey : e.1 ∈ (gatewayFor deploymentKey (Part.resources parts)).map (·.1) :=
      List.mem_map_of_mem he
    rw [map_fst_gatewayFor] at hkey
    split at hkey
    · exact Assembly.reserved_of_mem_gatewayKeys _ hkey
    · cases hkey
  · exact h.unreserved e he

theorem of_close (h : Holds start deploymentKey parts a) (policy : Option Policy) :
    Holds start deploymentKey parts (a.close policy) :=
  ⟨h.parameters, h.resources, h.unreserved, h.outputs, h.hasGateway, h.methodKeys,
    h.deploymentKey, h.formatVersion, h.description, h.extra⟩

theorem perm_insert_gateway {resources : KeyMap Resource} {xs ys : List (String × Resource)}
    (h : resources.entries.Perm (xs ++ ys)) (deploymentKey : String)
    (hroom : ∀ key ∈ gatewayKeys, key ∉ resources.keys) {key : String} (hkey : key ∉ resources.keys)
    (hapart : key ∉ gatewayKeys) (value : Resource) :
    ((resources.insertAll (gatewayResources deploymentKey)).insert key value).entries.Perm
      (xs ++ gatewayResources deploymentKey ++ (ys ++ [(key, value)])) := by
  have hset : (resources.insertAll (gatewayResources deploymentKey)).entries.Perm
      (xs ++ ys ++ gatewayResources deploymentKey) :=
    KeyMap.entries_insertAll_perm_of_perm h nodup_gatewayKeys
      fun e he => hroom e.1 (List.mem_map_of_mem (f := (·.1)) he)
  have hfree : key ∉ (resources.insertAll (gatewayResources deploymentKey)).keys := by
    rw [KeyMap.mem_keys_iff_of_perm hset, List.map_append, List.mem_append, not_or,
      ← KeyMap.mem_keys_iff_of_perm h]
    exact ⟨hkey, hapart⟩
  refine (KeyMap.entries_insert_perm_of_perm hset hfree value).trans ?_
  simp only [List.append_assoc]
  exact (List.perm_append_comm_assoc _ _ _).append_left xs

theorem of_setParameter (h : Holds start deploymentKey parts a) {key : String}
    (hkey : key ∉ a.template.parameters.keys) (value : Parameter) :
    Holds start deploymentKey (parts ++ [.parameter key value]) (a.setParameter key value) where
  parameters := by
    simpa [Assembly.setParameter] using
      KeyMap.entries_insert_perm_of_perm h.parameters hkey value
  resources := by simpa [Assembly.setParameter] using h.resources
  unreserved := by simpa [Assembly.setParameter] using h.unreserved
  outputs := by simpa [Assembly.setParameter] using h.outputs
  hasGateway := by simpa [Assembly.setParameter] using h.hasGateway
  methodKeys := by simpa [Assembly.setParameter] using h.methodKeys
  deploymentKey := h.deploymentKey
  formatVersion := h.formatVersion
  description := h.description
  extra := h.extra

theorem of_setOutput (h : Holds start deploymentKey parts a) {key : String}
    (hkey : key ∉ a.template.outputs.keys) (value : Output) :
    Holds start deploymentKey (parts ++ [.output key value]) (a.setOutput key value) where
  parameters := by simpa [Assembly.setOutput] using h.parameters
  resources := by simpa [Assembly.setOutput] using h.resources
  unreserved := by simpa [Assembly.setOutput] using h.unreserved
  outputs := by
    simpa [Assembly.setOutput] using KeyMap.entries_insert_perm_of_perm h.outputs hkey value
  hasGateway := by simpa [Assembly.setOutput] using h.hasGateway
  methodKeys := by simpa [Assembly.setOutput] using h.methodKeys
  deploymentKey := h.deploymentKey
  formatVersion := h.formatVersion
  description := h.description
  extra := h.extra

/-- A resource that brings no shared API: it is no method, or the API is there. -/
theorem of_setResource (h : Holds start deploymentKey parts a) {key : String}
    (htaken : a.taken key = false) {value : Resource}
    (hgateway : value.isMethod = true → a.hasGateway = true) :
    Holds start deploymentKey (parts ++ [.resource key value]) (a.setResource key value) := by
  obtain ⟨hkey, hreserved⟩ := (a.taken_eq_false_iff key).1 htaken
  have hany : hasMethod (Part.resources (parts ++ [.resource key value])) =
      hasMethod (Part.resources parts) := by
    have hg := h.hasGateway
    cases hmethod : value.isMethod
    · simp [hmethod]
    · simp [← hg, hgateway hmethod]
  constructor
  case parameters => simpa [Assembly.setResource] using h.parameters
  case resources =>
    rw [gatewayFor, hany, ← gatewayFor, Part.resources_append, ← List.append_assoc]
    exact KeyMap.entries_insert_perm_of_perm h.resources hkey value
  case unreserved =>
    intro e he
    simp only [Part.resources_append, Part.sections_resource, List.mem_append,
      List.mem_singleton] at he
    rcases he with he | rfl
    · exact h.unreserved e he
    · exact hreserved
  case outputs =>
    rw [gatewayOutputFor, hany, ← gatewayOutputFor, Part.outputs_append]
    simpa [Assembly.setResource] using h.outputs
  case hasGateway => exact h.hasGateway.trans hany.symm
  case methodKeys =>
    have hm := h.methodKeys
    cases hmethod : value.isMethod <;>
      simp [Assembly.setResource, hmethod, hm, methodKeysOf_singleton]
  case deploymentKey => exact h.deploymentKey
  case formatVersion => exact h.formatVersion
  case description => exact h.description
  case extra => exact h.extra

/-- The first method, which brings the shared API. -/
theorem of_setGateway (h : Holds start deploymentKey parts a) {key : String}
    (htaken : a.taken key = false) {value : Resource} (hmethod : value.isMethod = true)
    (hgateway : a.hasGateway = false) (hroom : a.RoomForGateway) (hapart : key ∉ gatewayKeys) :
    Holds start deploymentKey (parts ++ [.resource key value])
      (a.setGateway.setResource key value) := by
  obtain ⟨hkey, hreserved⟩ := (a.taken_eq_false_iff key).1 htaken
  have hnone : hasMethod (Part.resources parts) = false := h.hasGateway.symm.trans hgateway
  have hany : hasMethod (Part.resources (parts ++ [.resource key value])) = true := by
    simp [hmethod]
  constructor
  case parameters => simpa [Assembly.setGateway, Assembly.setResource] using h.parameters
  case resources =>
    have hresources := h.resources
    rw [gatewayFor, hnone, if_neg Bool.false_ne_true, List.append_nil] at hresources
    rw [gatewayFor, hany, if_pos rfl, Part.resources_append, ← h.deploymentKey]
    exact perm_insert_gateway hresources a.deploymentKey hroom.resources hkey hapart value
  case unreserved =>
    intro e he
    simp only [Part.resources_append, Part.sections_resource, List.mem_append,
      List.mem_singleton] at he
    rcases he with he | rfl
    · exact h.unreserved e he
    · exact hreserved
  case outputs =>
    have houtputs := h.outputs
    rw [gatewayOutputFor, hnone, if_neg Bool.false_ne_true, List.append_nil] at houtputs
    rw [gatewayOutputFor, hany, if_pos rfl, Part.outputs_append]
    have hset := KeyMap.entries_insert_perm_of_perm houtputs hroom.output apiKeyOutput
    refine hset.trans ?_
    simp only [Part.sections_resource, List.append_nil, List.append_assoc]
    exact List.perm_append_comm.append_left _
  case hasGateway => exact hany.symm
  case methodKeys =>
    have hm := h.methodKeys
    simp [Assembly.setResource, Assembly.setGateway, hmethod, hm, methodKeysOf_singleton]
  case deploymentKey => exact h.deploymentKey
  case formatVersion => exact h.formatVersion
  case description => exact h.description
  case extra => exact h.extra

theorem of_step (h : Holds start deploymentKey parts a) {part : Part} (hstep : a.Step part a')
    (hapart : Apart (Part.resources [part])) : Holds start deploymentKey (parts ++ [part]) a' := by
  cases hstep with
  | parameter hkey => exact h.of_setParameter hkey _
  | resource htaken hmethod =>
    exact h.of_setResource htaken fun hm => absurd (hmethod.symm.trans hm) Bool.false_ne_true
  | method htaken hmethod hgateway => exact h.of_setResource htaken fun _ => hgateway
  | @firstMethod key value htaken hmethod hgateway hroom =>
    exact h.of_setGateway htaken hmethod hgateway hroom
      (hapart (key, value) (by simp) hmethod)
  | output hkey => exact h.of_setOutput hkey _

theorem taken_of_fits (h : Holds start deploymentKey parts a) {key : String} {value : Resource}
    (hfits : Fits start (parts ++ [.resource key value])) : a.taken key = false := by
  refine (a.taken_eq_false_iff key).2 ⟨?_, hfits.unreserved (key, value) (by simp)⟩
  have hr := hfits.resources
  simp only [Part.resources_append, Part.sections_resource, List.map_append, List.map_cons,
    List.map_nil, ← List.append_assoc] at hr
  rw [h.mem_resource_keys_iff]
  refine not_mem_of_nodup_append_singleton (hr.sublist (.append_right (.append_right ?_ _) _))
  exact .append_left (sublist_with_more ..) _

theorem room_of_fits (h : Holds start deploymentKey parts a) {key : String} {value : Resource}
    (hmethod : value.isMethod = true) (hgateway : a.hasGateway = false)
    (hfits : Fits start (parts ++ [.resource key value])) : a.RoomForGateway := by
  have hnone : hasMethod (Part.resources parts) = false := h.hasGateway.symm.trans hgateway
  have hany : hasMethod (Part.resources (parts ++ [.resource key value])) = true := by
    simp [hmethod]
  constructor
  · intro k hk
    have hr := hfits.resources
    rw [hany, if_pos rfl] at hr
    have hnot := not_mem_of_nodup_middle hr k hk
    rw [h.mem_resource_keys_iff, hnone, if_neg Bool.false_ne_true, List.append_nil]
    intro hm
    apply hnot
    rcases List.mem_append.1 hm with hm | hm
    · exact List.mem_append_left _ hm
    · exact List.mem_append_right _ (by simp [hm])
  · have ho := hfits.outputs
    rw [hany, if_pos rfl] at ho
    have hnot := not_mem_of_nodup_middle ho _ (List.mem_singleton_self _)
    rw [h.mem_output_keys_iff, hnone, if_neg Bool.false_ne_true, List.append_nil]
    simpa using hnot

theorem exists_step (h : Holds start deploymentKey parts a) {part : Part}
    (hfits : Fits start (parts ++ [part])) : ∃ a', a.Step part a' := by
  cases part with
  | parameter key value =>
    have hp := hfits.parameters
    simp only [Part.parameters_append, Part.sections_parameter, List.map_append, List.map_cons,
      List.map_nil, ← List.append_assoc] at hp
    refine ⟨_, .parameter ?_⟩
    rw [h.mem_parameter_keys_iff]
    exact not_mem_of_nodup_append_singleton hp
  | resource key value =>
    have htaken := h.taken_of_fits hfits
    cases hmethod : value.isMethod
    · exact ⟨_, .resource htaken hmethod⟩
    · cases hgateway : a.hasGateway
      · exact ⟨_, .firstMethod htaken hmethod hgateway (h.room_of_fits hmethod hgateway hfits)⟩
      · exact ⟨_, .method htaken hmethod hgateway⟩
  | output key value =>
    have ho := hfits.outputs
    simp only [Part.outputs_append, Part.sections_output, Part.resources_append, List.append_nil,
      List.map_append, List.map_cons, List.map_nil, ← List.append_assoc] at ho
    refine ⟨_, .output ?_⟩
    rw [h.mem_output_keys_iff]
    exact not_mem_of_nodup_append_singleton ho

end Holds

namespace Assembly

variable {start : Template} {deploymentKey : String}

theorem holds_putAll (more : List Part) {parts : List Part} {a a' : Assembly}
    (h : Holds start deploymentKey parts a) (hapart : Apart (Part.resources more))
    (hput : a.putAll more = (a', .ok ())) : Holds start deploymentKey (parts ++ more) a' := by
  induction more generalizing parts a with
  | nil =>
    cases hput
    simpa using h
  | cons part rest ih =>
    rw [putAll] at hput
    split at hput
    · rename_i b hb
      have hsplit := Part.resources_append [part] rest
      rw [List.singleton_append] at hsplit
      rw [hsplit] at hapart
      have hstep := h.of_step ((a.put_eq_ok_iff b part).1 hb)
        fun e he => hapart e (List.mem_append_left _ he)
      have hrest := ih hstep (fun e he => hapart e (List.mem_append_right _ he)) hput
      rwa [List.append_assoc] at hrest
    · cases hput

theorem putAll_of_fits (more : List Part) {parts : List Part} {a : Assembly}
    (h : Holds start deploymentKey parts a) (hfits : Fits start (parts ++ more)) :
    ∃ a', a.putAll more = (a', .ok ()) := by
  induction more generalizing parts a with
  | nil => exact ⟨a, rfl⟩
  | cons part rest ih =>
    have hcons : parts ++ part :: rest = parts ++ [part] ++ rest := by simp
    rw [hcons] at hfits
    have hfirst := hfits.of_append
    obtain ⟨b, hstep⟩ := h.exists_step hfirst
    have hapart : Apart (Part.resources [part]) :=
      fun e he => hfirst.apart e (by rw [Part.resources_append]; exact List.mem_append_right _ he)
    obtain ⟨a', ha'⟩ := ih (h.of_step hstep hapart) hfits
    exact ⟨a', by rw [putAll, (a.put_eq_ok_iff b part).2 hstep]; exact ha'⟩

theorem policies_putAll (parts : List Part) (a : Assembly) :
    (a.putAll parts).1.policies = a.policies ∧ (a.putAll parts).1.bundleCount = a.bundleCount :=
  putAll_induction (P := fun b => b.policies = a.policies ∧ b.bundleCount = a.bundleCount)
    (fun _ _ _ h hstep => ⟨hstep.policies_eq.trans h.1, hstep.bundleCount_eq.trans h.2⟩)
    parts ⟨rfl, rfl⟩

end Assembly
end RuleStack
