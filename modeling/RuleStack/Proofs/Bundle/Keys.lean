import RuleStack.Proofs.Bundle.Build
import RuleStack.Proofs.Text.Blank
set_option autoImplicit false

namespace RuleStack

namespace Key

/-- The key starts with the text, or with the prefix of an environment and then the text. -/
def Starts (text key : String) : Prop :=
  ∃ rest, key = text ++ rest ∨ key = environment text ++ rest

theorem Starts.of_append {text name key : String} (h : Starts (text ++ name) key) :
    Starts text key := by
  obtain ⟨rest, rfl | rfl⟩ := h
  · exact ⟨name ++ rest, .inl String.append_assoc⟩
  · exact ⟨name ++ rest, .inr (by simp only [environment, String.append_assoc])⟩

/-- Neither of the texts starts the other, also with the prefix of an environment before one. -/
def Separate (p q : String) : Prop :=
  ∀ x ∈ [p, environment p], ∀ y ∈ [q, environment q],
    ¬ x.toList <+: y.toList ∧ ¬ y.toList <+: x.toList

instance (p q : String) : Decidable (Separate p q) :=
  inferInstanceAs (Decidable (∀ x ∈ [p, environment p], ∀ y ∈ [q, environment q],
    ¬ x.toList <+: y.toList ∧ ¬ y.toList <+: x.toList))

theorem Starts.exists_prefix {text key : String} (h : Starts text key) :
    ∃ x ∈ [text, environment text], x.toList <+: key.toList := by
  obtain ⟨rest, rfl | rfl⟩ := h
  · exact ⟨text, by simp, by simp⟩
  · exact ⟨environment text, by simp, by simp⟩

/-- Two prefixes of one key are prefixes one of the other. -/
theorem Separate.ne {p q key other : String} (h : Separate p q) (hkey : Starts p key)
    (hother : Starts q other) : key ≠ other := by
  rintro rfl
  obtain ⟨x, hx, hxkey⟩ := hkey.exists_prefix
  obtain ⟨y, hy, hykey⟩ := hother.exists_prefix
  rcases List.prefix_or_prefix_of_prefix hxkey hykey with hxy | hyx
  · exact (h x hx y hy).1 hxy
  · exact (h x hx y hy).2 hyx

end Key

/-- No key of the one bundle is a key of the other in the same section. -/
structure Bundle.Disjoint (b c : Bundle) : Prop where
  parameters : ∀ e ∈ b.parameters, ∀ f ∈ c.parameters, e.1 ≠ f.1
  resources : ∀ e ∈ b.resources, ∀ f ∈ c.resources, e.1 ≠ f.1
  outputs : ∀ e ∈ b.outputs, ∀ f ∈ c.outputs, e.1 ≠ f.1

namespace Rule

def parameterKeys (r : Rule) (name : String) : List String :=
  r.parameters.keys.map (parameterKey name)

def resourceKeys (r : Rule) (name : String) : List String :=
  [name, Key.permission name, Key.environment name] ++
    (if r.topic then [Key.topic name, Key.topicUser name, Key.topicAccessKey name] else []) ++
    (if r.event.isSome then [Key.eventRule name] else []) ++
    (if r.schedule.isSome then [Key.scheduledRule name] else []) ++
    (if r.gateway.isSome then [Key.route name, Key.method name] else []) ++
    [Key.alarm name "Errors", Key.alarm name "NoInvocations"]

def outputKeys (r : Rule) (name : String) : List String :=
  (if r.topic then [Key.topic name, Key.topicAccessKey name, Key.topicSecret name] else []) ++
    if r.gateway.isSome then [Key.endpoint name] else []

theorem map_fst_parametersOf (r : Rule) (name : String) :
    (r.parametersOf name).map (·.1) = r.parameterKeys name := by
  rw [parametersOf, parameterKeys, KeyMap.keys, List.map_map, List.map_map]
  rfl

theorem map_fst_outputsOf (r : Rule) (name : String) :
    (r.outputsOf name).map (·.1) = r.outputKeys name := by
  rw [outputsOf, outputKeys, List.map_append]
  split <;> split <;> rfl

section Complete

variable {r : Rule} (h : r.Complete) (name runtime : String)
include h

theorem map_fst_patternPartsOf :
    (r.patternPartsOf name).map (·.1) = if r.event.isSome then [Key.eventRule name] else [] := by
  rw [patternPartsOf]
  cases hevent : r.event with
  | none => simp [eventPattern, hevent, Except.toOption]
  | some e =>
    obtain ⟨v, hv⟩ := h.event (by rw [hevent]; rfl)
    simp [hv, Except.toOption]

theorem map_fst_schedulePartsOf :
    (r.schedulePartsOf name).map (·.1) =
      if r.schedule.isSome then [Key.scheduledRule name] else [] := by
  rw [schedulePartsOf]
  cases hschedule : r.schedule with
  | none => simp [scheduleExpression, hschedule, Except.toOption]
  | some e =>
    obtain ⟨v, hv⟩ := h.schedule (by rw [hschedule]; rfl)
    simp [hv, Except.toOption]

theorem map_fst_gatewayPartsOf :
    (r.gatewayPartsOf name).map (·.1) =
      if r.gateway.isSome then [Key.route name, Key.method name] else [] := by
  rw [gatewayPartsOf]
  cases hgateway : r.gateway with
  | none => rfl
  | some g =>
    obtain ⟨v, hv⟩ := h.gateway g hgateway
    simp [hv, Except.toOption]

theorem map_fst_resourcesOf : (r.resourcesOf name runtime).map (·.1) = r.resourceKeys name := by
  have htopic : (r.topicPartsOf name).map (·.1) =
      if r.topic then [Key.topic name, Key.topicUser name, Key.topicAccessKey name] else [] := by
    rw [topicPartsOf]
    split <;> rfl
  simp only [resourcesOf, resourceKeys, List.map_append, htopic, map_fst_patternPartsOf h,
    map_fst_schedulePartsOf h, map_fst_gatewayPartsOf h]
  rfl

end Complete

theorem starts_resource {r : Rule} {name runtime : String} {e : String × Resource}
    (he : e ∈ r.resourcesOf name runtime) : Key.Starts name e.1 := by
  simp only [resourcesOf, List.mem_append] at he
  rcases he with ((((he | he) | he) | he) | he) | he
  · simp only [coreOf, List.mem_cons, List.not_mem_nil, or_false] at he
    rcases he with rfl | rfl | rfl
    · exact ⟨"", .inl (String.append_empty).symm⟩
    · exact ⟨_, .inl rfl⟩
    · exact ⟨"", .inr (String.append_empty).symm⟩
  · rw [topicPartsOf] at he
    split at he
    · simp only [List.mem_cons, List.not_mem_nil, or_false] at he
      rcases he with rfl | rfl | rfl <;> exact ⟨_, .inl rfl⟩
    · cases he
  · obtain ⟨v, -, rfl⟩ := List.mem_map.1 he
    exact ⟨_, .inl rfl⟩
  · obtain ⟨v, -, rfl⟩ := List.mem_map.1 he
    exact ⟨_, .inl rfl⟩
  · obtain ⟨g, -, he⟩ := List.mem_flatMap.1 he
    obtain ⟨v, -, he⟩ := List.mem_flatMap.1 he
    simp only [List.mem_cons, List.not_mem_nil, or_false] at he
    rcases he with rfl | rfl <;> exact ⟨_, .inl rfl⟩
  · simp only [alarmsOf, List.mem_cons, List.not_mem_nil, or_false] at he
    rcases he with rfl | rfl
    · exact ⟨"AlarmErrors", .inl String.append_assoc⟩
    · exact ⟨"AlarmNoInvocations", .inl String.append_assoc⟩

theorem starts_output {r : Rule} {name : String} {e : String × Output}
    (he : e ∈ r.outputsOf name) : Key.Starts name e.1 := by
  rw [outputsOf, List.mem_append] at he
  rcases he with he | he
  · split at he
    · simp only [topicOutputs, List.mem_cons, List.not_mem_nil, or_false] at he
      rcases he with rfl | rfl | rfl <;> exact ⟨_, .inl rfl⟩
    · cases he
  · split at he
    · cases List.mem_singleton.1 he
      exact ⟨_, .inl rfl⟩
    · cases he

theorem starts_parameter {r : Rule} {name : String} {e : String × Parameter}
    (he : e ∈ r.parametersOf name) : Key.Starts (alphanumericOnly name) e.1 := by
  obtain ⟨e, -, rfl⟩ := List.mem_map.1 he
  exact ⟨_, .inl rfl⟩

/-- Rules have no keys in common whose names start with texts of letters and digits that are kept
apart. -/
theorem disjoint_bundleOf {p q : String} (h : Key.Separate (alphanumericOnly p) (alphanumericOnly q))
    (r s : Rule) (name other runtime : String) :
    (r.bundleOf (alphanumericOnly p ++ name) runtime).Disjoint
      (s.bundleOf (alphanumericOnly q ++ other) runtime) where
  parameters e he f hf := by
    have hstart := starts_parameter he
    have hother := starts_parameter hf
    rw [alphanumericOnly_append, alphanumericOnly_alphanumericOnly] at hstart hother
    exact h.ne hstart.of_append hother.of_append
  resources _ he _ hf := h.ne (starts_resource he).of_append (starts_resource hf).of_append
  outputs _ he _ hf := h.ne (starts_output he).of_append (starts_output hf).of_append

end Rule

end RuleStack
