import RuleStack.Notification
import RuleStack.Proofs.Bundle.Build
import RuleStack.Proofs.KeyMap
/-!
The bindings of an environment are put into one map, one after another, so a parameter can take the
key of a binding that came before (`environment_bindings`). A function finds its own parameter by
the name that it knows unless one before it fits too (`valueOf_parameter`).
-/
set_option autoImplicit false

namespace RuleStack

namespace KeyMap

variable {α : Type}

theorem get?_insertAll_map (m : KeyMap α) (value : String → α) (keys : List String) (key : String) :
    (m.insertAll (keys.map fun k => (k, value k))).get? key =
      if key ∈ keys then some (value key) else m.get? key := by
  induction keys generalizing m with
  | nil => simp [insertAll]
  | cons k rest ih =>
    rw [List.map_cons, insertAll, ih, get?_insert]
    by_cases hrest : key ∈ rest
    · simp [hrest]
    · by_cases hk : key = k
      · simp [hk]
      · simp [hrest, hk]

end KeyMap

namespace Rule

/-- The bindings that a function called `name` is to have, given the keys of its parameters. -/
def promisedBindings (name : String) (parameterKeys : List String) : List (String × Json) :=
  [("ServiceToken", .ref Key.serviceToken), ("FunctionName", .ref name),
    (Key.alarmTopic, .ref Key.alarmTopic)] ++ parameterKeys.map fun key => (key, .ref key)

/-- The topic of alarms comes last, and after the fixed keys come the parameters. -/
theorem get?_bindings (name : String) (parameterKeys : List String) (key : String) :
    (bindings name parameterKeys).get? key =
      if key = Key.alarmTopic ∨ key ∈ parameterKeys then some (.ref key)
      else if key = "FunctionName" then some (.ref name)
      else if key = "ServiceToken" then some (.ref Key.serviceToken)
      else none := by
  rw [bindings, KeyMap.get?_insert, KeyMap.get?_insertAll_map]
  by_cases htopic : key = Key.alarmTopic
  · simp [htopic]
  · by_cases hkey : key ∈ parameterKeys
    · simp [htopic, hkey]
    · rw [if_neg htopic, if_neg hkey, if_neg (by simp [htopic, hkey]), KeyMap.get?_ofList_cons,
        KeyMap.get?_ofList_cons, KeyMap.get?_ofList_nil]
      by_cases hname : key = "FunctionName" <;> simp [hname]

theorem mem_promisedBindings_of_get? {name : String} {parameterKeys : List String} {key : String}
    {value : Json} (h : (bindings name parameterKeys).get? key = some value) :
    (key, value) ∈ promisedBindings name parameterKeys := by
  rw [get?_bindings] at h
  split at h
  · rename_i hkey
    cases h
    rcases hkey with rfl | hkey
    · simp [promisedBindings]
    · exact List.mem_append_right _ (List.mem_map_of_mem hkey)
  · split at h
    · rename_i hname
      cases h
      simp [promisedBindings, hname]
    · split at h
      · rename_i htoken
        cases h
        simp [promisedBindings, htoken]
      · cases h

/-- An environment binds each parameter and the topic of alarms, and nothing that is not promised.
It binds the token of the service just if no parameter has that key, and the name of the function
just if no parameter has that key, or the function itself is called so. -/
theorem environment_bindings (r : Rule) (e : Resource) (h : r.environment = .ok e) :
    ∃ name parameters, r.name = some name ∧ r.namespacedParameters = .ok parameters ∧
      (∀ key ∈ parameters.map (·.1), e.properties.get? key = some (.ref key)) ∧
      e.properties.get? Key.alarmTopic = some (.ref Key.alarmTopic) ∧
      (∀ key value, e.properties.get? key = some value →
        (key, value) ∈ promisedBindings name (parameters.map (·.1))) ∧
      (e.properties.get? "ServiceToken" = some (.ref Key.serviceToken) ↔
        "ServiceToken" ∉ parameters.map (·.1)) ∧
      (e.properties.get? "FunctionName" = some (.ref name) ↔
        ("FunctionName" ∈ parameters.map (·.1) → name = "FunctionName")) := by
  simp only [environment, Outcome.bind_eq_ok_iff, requireName_eq_ok_iff, Except.ok.injEq] at h
  obtain ⟨name, husable, parameters, hparameters, rfl⟩ := h
  refine ⟨name, parameters, (Option.filter_eq_some_iff.1 husable).1, hparameters,
    fun key hkey => ?_, ?_, fun key value => mem_promisedBindings_of_get?, ?_, ?_⟩
  · rw [get?_bindings, if_pos (.inr hkey)]
  · rw [get?_bindings, if_pos (.inl rfl)]
  · rw [get?_bindings]
    by_cases htoken : "ServiceToken" ∈ parameters.map (·.1)
    · rw [if_pos (.inr htoken)]
      exact iff_of_false (by decide) (not_not_intro htoken)
    · rw [if_neg (by simp [htoken, Key.alarmTopic]), if_neg (by decide), if_pos rfl]
      exact iff_of_true rfl htoken
  · rw [get?_bindings]
    by_cases hname : "FunctionName" ∈ parameters.map (·.1)
    · rw [if_pos (.inr hname)]
      simp [hname, Json.ref, eq_comm]
    · rw [if_neg (by simp [hname, Key.alarmTopic]), if_pos rfl]
      exact iff_of_true rfl fun hmem => absurd hmem hname

def withParameter (name key : String) : Rule :=
  { empty with name := some name, parameters := .ofList [(key, .text "String" "api token")] }

theorem environment_bindings_sample :
    ∃ e, (withParameter "login" "token").environment = .ok e ∧
      e.properties.get? "logintoken" = some (.ref "logintoken") ∧
      e.properties.get? "ServiceToken" = some (.ref "StreambotEnv") ∧
      e.properties.get? "FunctionName" = some (.ref "login") := by
  obtain ⟨e, he⟩ := Outcome.exists_of_isOk (x := (withParameter "login" "token").environment)
    (by rfl)
  obtain ⟨name, parameters, hname, hparameters, hkeys, -, -, htoken, hfunction⟩ :=
    environment_bindings _ e he
  have hbuilt : (withParameter "login" "token").namespacedParameters =
      .ok [("logintoken", .text "String" "api token")] := rfl
  cases hname
  cases hparameters.symm.trans hbuilt
  exact ⟨e, he, hkeys _ (by decide), htoken.2 (by decide), hfunction.2 fun h => absurd h (by decide)⟩

/-- A parameter takes the place of the token of the service. -/
theorem serviceToken_lost :
    ∃ e, (withParameter "Service" "Token").environment = .ok e ∧
      e.properties.get? "ServiceToken" = some (.ref "ServiceToken") ∧
      e.properties.get? "FunctionName" = some (.ref "Service") :=
  Outcome.exists_ok_of_decide rfl

end Rule

theorem KeyMap.find?_fits {α : Type} {m : KeyMap α} (fits : String → Bool) {e : String × α}
    (h : m.entries.find? (fun e => fits e.1) = some e) :
    e ∈ m.entries ∧ fits e.1 = true ∧ ∀ key ∈ m.keys, key < e.1 → fits key = false := by
  obtain ⟨hfits, front, back, hentries, hfront⟩ := List.find?_eq_some_iff_append.1 h
  refine ⟨List.mem_of_find?_eq_some h, hfits, fun key hkey hlt => ?_⟩
  obtain ⟨f, hf, rfl⟩ := List.mem_map.1 hkey
  have hordered := m.ordered
  rw [hentries] at hf hordered
  rcases List.mem_append.1 hf with hf | hf
  · simpa using hfront f hf
  · -- an entry at or after the one found has no smaller key
    rcases List.mem_cons.1 hf with rfl | hf
    · exact absurd hlt (String.lt_irrefl _)
    · have hback := List.rel_of_pairwise_cons (List.pairwise_append.1 hordered).2.1 hf
      exact absurd hback (String.lt_asymm hlt)

namespace Variables

def ofParameters (parameters : List (String × Parameter)) (value : String → String) : Variables :=
  parameters.map fun e => (e.1, value e.1)

end Variables

namespace Rule

/-- The rule declares `q`, whose key in a template contains `part`, and no parameter before `q` has
a key that does. -/
structure FirstWith (r : Rule) (name part q : String) : Prop where
  declared : q ∈ r.parameters.keys
  fits : Text.contains (parameterKey name q) part = true
  first : ∀ other ∈ r.parameters.keys, other < q →
    Text.contains (parameterKey name other) part = false

theorem contains_parameterKey (name key : String) :
    Text.contains (parameterKey name key) key = true := by
  rw [Text.contains_iff, parameterKey, String.toList_append]
  exact (List.suffix_append _ _).isInfix

theorem parameterKey_inj {name p q : String} (h : parameterKey name p = parameterKey name q) :
    p = q :=
  (String.append_right_inj _).1 h

theorem exists_firstWith (r : Rule) (name : String) {part p : String}
    (hp : p ∈ r.parameters.keys) (hfits : Text.contains (parameterKey name p) part = true) :
    ∃ q, r.FirstWith name part q ∧ ∀ value,
      (Variables.ofParameters (r.parametersOf name) value).valueOf part =
        value (parameterKey name q) := by
  have hfound : (r.parameters.entries.find?
      fun e => Text.contains (parameterKey name e.1) part).isSome = true := by
    obtain ⟨e, he, rfl⟩ := List.mem_map.1 hp
    exact List.find?_isSome.2 ⟨e, he, hfits⟩
  obtain ⟨e, he⟩ := Option.isSome_iff_exists.1 hfound
  obtain ⟨hmem, hcontains, hfirst⟩ :=
    KeyMap.find?_fits (fun key => Text.contains (parameterKey name key) part) he
  refine ⟨e.1, ⟨KeyMap.mem_keys_of_mem hmem, hcontains, hfirst⟩, fun value => ?_⟩
  have hvariables : (Variables.ofParameters (r.parametersOf name) value).find?
      (fun v => Text.contains v.1 part) =
        some (parameterKey name e.1, value (parameterKey name e.1)) := by
    rw [Variables.ofParameters, parametersOf, List.map_map, List.find?_map]
    exact congrArg (Option.map _) he
  rw [Variables.valueOf, hvariables]

theorem FirstWith.eq_self_iff {r : Rule} {name p q : String} (h : r.FirstWith name p q)
    (hp : p ∈ r.parameters.keys) :
    q = p ↔ ∀ other ∈ r.parameters.keys, other < p →
      Text.contains (parameterKey name other) p = false := by
  constructor
  · rintro rfl
    exact h.first
  · intro hfirst
    have hbefore : ¬ q < p := by
      intro hlt
      have hfits := h.fits
      rw [hfirst q h.declared hlt] at hfits
      cases hfits
    have hafter : ¬ p < q := by
      intro hlt
      have hfits := contains_parameterKey name p
      rw [h.first p hp hlt] at hfits
      cases hfits
    exact String.le_antisymm (String.not_lt.1 hafter) (String.not_lt.1 hbefore)

/-- A function that looks for a parameter of its rule gets the value of the first parameter whose
key contains the name of the one it looks for, and there always is such a parameter. It gets the
value of its own, whatever the values are, just if no parameter before that one fits too. -/
theorem valueOf_parameter (r : Rule) (parameters : List (String × Parameter))
    (h : r.namespacedParameters = .ok parameters) (p : String) (hp : p ∈ r.parameters.keys) :
    ∃ name, r.name = some name ∧
      (∃ q, r.FirstWith name p q ∧
        ∀ value, (Variables.ofParameters parameters value).valueOf p =
          value (parameterKey name q)) ∧
      ((∀ value, (Variables.ofParameters parameters value).valueOf p =
          value (parameterKey name p)) ↔
        ∀ q ∈ r.parameters.keys, q < p → Text.contains (parameterKey name q) p = false) := by
  obtain ⟨name, hname⟩ : ∃ name, r.usableName? = some name := by
    simp only [namespacedParameters, Outcome.bind_eq_ok_iff, requireName_eq_ok_iff] at h
    obtain ⟨name, hname, -⟩ := h
    exact ⟨name, hname⟩
  obtain ⟨-, rfl⟩ := (namespacedParameters_eq_ok_iff hname parameters).1 h
  obtain ⟨q, hq, hvalue⟩ := r.exists_firstWith name hp (contains_parameterKey name p)
  refine ⟨name, (Option.filter_eq_some_iff.1 hname).1, ⟨q, hq, hvalue⟩, ?_⟩
  rw [← hq.eq_self_iff hp]
  constructor
  · intro hown
    -- values that tell the keys apart
    exact parameterKey_inj ((hvalue id).symm.trans (hown id))
  · rintro rfl
    exact hvalue

def tokenRule : Rule := { empty with
  name := some "login"
  parameters := .ofList [
    ("token", .text "String" "token of the session"),
    ("apitoken", .text "String" "token of the api")] }

theorem valueOf_parameter_sample :
    ∃ parameters, tokenRule.namespacedParameters = .ok parameters ∧
      "apitoken" ∈ tokenRule.parameters.keys ∧
      ∀ value, (Variables.ofParameters parameters value).valueOf "apitoken" =
        value "loginapitoken" := by
  obtain ⟨parameters, hparameters⟩ :=
    Outcome.exists_of_isOk (x := tokenRule.namespacedParameters) (by rfl)
  have hmem : "apitoken" ∈ tokenRule.parameters.keys := by decide
  obtain ⟨name, hname, -, hown⟩ := valueOf_parameter tokenRule parameters hparameters _ hmem
  cases hname
  exact ⟨parameters, hparameters, hmem, hown.2 (by decide)⟩

/-- With each variable holding its own name, the function finds the wrong one. -/
theorem other_token_found :
    ∃ parameters, tokenRule.namespacedParameters = .ok parameters ∧
      "token" ∈ tokenRule.parameters.keys ∧
      (Variables.ofParameters parameters id).valueOf "token" = "loginapitoken" ∧
      parameterKey "login" "token" = "logintoken" :=
  Outcome.exists_ok_of_decide rfl

end Rule
end RuleStack
