import RuleStack.Proofs.Assembly.Content
/-!
An `Edit` changes an assembly bit by bit, and an error stops it where it is. Each part looks at all
keys that it needs before it changes anything, so a part that does not fit leaves the assembly
alone (`failed_edits`).
-/
set_option autoImplicit false

namespace RuleStack

namespace Assembly

/-- A program that changes an assembly. It has no way back. -/
abbrev Edit := EStateM StackError Assembly Unit

namespace Edit

def refuseIf (bad : Assembly → Bool) (e : StackError) : Edit := do
  if bad (← get) then throw e

def parameter (key : String) (value : Parameter) : Edit := do
  refuseIf (·.template.parameters.contains key) (.duplicateParameter key)
  modify (·.setParameter key value)

def output (key : String) (value : Output) : Edit := do
  refuseIf (·.template.outputs.contains key) (.duplicateOutput key)
  modify (·.setOutput key value)

def vacant (key : String) : Edit := refuseIf (·.taken key) (.duplicateResource key)

def setResources (es : List (String × Resource)) : Edit :=
  modify fun a =>
    { a with template := { a.template with resources := a.template.resources.insertAll es } }

def gateway : Edit := do
  let shared := gatewayResources (← get).deploymentKey
  forM (shared.map (·.1)) vacant
  refuseIf (·.template.outputs.contains Key.apiKeyOutput) (.duplicateOutput Key.apiKeyOutput)
  setResources shared
  modify (·.setOutput Key.apiKeyOutput apiKeyOutput)
  modify fun a => { a with hasGateway := true }

def recordMethod (key : String) : Edit := do
  unless (← get).hasGateway do gateway
  modify fun a => { a with methodKeys := a.methodKeys ++ [key] }

def resource (key : String) (value : Resource) : Edit := do
  vacant key
  if value.isMethod then recordMethod key
  setResources [(key, value)]

def part : Part → Edit
  | .parameter key value => parameter key value
  | .resource key value => resource key value
  | .output key value => output key value

def bundle (b : Bundle) : Edit := do
  forM b.parameters fun e => parameter e.1 e.2
  forM b.resources fun e => resource e.1 e.2
  forM b.outputs fun e => output e.1 e.2
  forM b.policy.toList fun policy => modify (·.addPolicy policy)
  modify fun a => { a with bundleCount := a.bundleCount + 1 }

def action : Action → Edit
  | .put p => part p
  | .addPolicy policy => modify (·.addPolicy policy)
  | .putBundle b => bundle b

def ended : Assembly × Except StackError Unit → EStateM.Result StackError Assembly Unit
  | (a, .ok ()) => .ok () a
  | (a, .error e) => .error e a

/-- All of a change, or none of it. -/
def atOnce (a : Assembly) : Except StackError Assembly → EStateM.Result StackError Assembly Unit
  | .ok b => .ok () b
  | .error e => .error e a

theorem ended_eq_error_iff (x : Assembly × Except StackError Unit) (e : StackError)
    (b : Assembly) : ended x = .error e b ↔ x = (b, .error e) := by
  rcases x with ⟨c, e' | ⟨⟩⟩
  · simp [ended, and_comm]
  · simp [ended]

theorem eq_of_atOnce {a b : Assembly} {x : Except StackError Assembly} {e : StackError}
    (h : atOnce a x = .error e b) : b = a ∧ x = .error e := by
  cases x with
  | ok c => cases h
  | error e' =>
    cases h
    exact ⟨rfl, rfl⟩

theorem run_refuseIf (bad : Assembly → Bool) (e : StackError) (a : Assembly) :
    (refuseIf bad e).run a = if bad a then .error e a else .ok () a := by
  change (if bad a then throw e else pure () : Edit).run a = _
  cases bad a <;> rfl

theorem run_parameter (key : String) (value : Parameter) (a : Assembly) :
    (parameter key value).run a = atOnce a (a.putParameter key value) := by
  rw [parameter, EStateM.run_bind, run_refuseIf, putParameter]
  cases a.template.parameters.contains key <;> rfl

theorem run_output (key : String) (value : Output) (a : Assembly) :
    (output key value).run a = atOnce a (a.putOutput key value) := by
  rw [output, EStateM.run_bind, run_refuseIf, putOutput]
  cases a.template.outputs.contains key <;> rfl

theorem run_vacant (key : String) (a : Assembly) :
    (vacant key).run a = if a.taken key then .error (.duplicateResource key) a else .ok () a :=
  run_refuseIf _ _ a

theorem run_vacants (keys : List String) (a : Assembly) :
    (forM keys vacant).run a =
      match a.firstTaken? keys with
      | some key => .error (.duplicateResource key) a
      | none => .ok () a := by
  induction keys with
  | nil => rfl
  | cons key rest ih =>
    rw [List.forM_cons, EStateM.run_bind, run_vacant, firstTaken?, List.find?_cons]
    cases a.taken key with
    | true => rfl
    | false => exact ih

theorem run_gateway (a : Assembly) : gateway.run a = atOnce a a.putGateway := by
  rw [gateway, EStateM.run_bind, EStateM.run_get, putGateway]
  simp only [EStateM.run_bind, run_vacants, run_refuseIf]
  cases a.firstTaken? ((gatewayResources a.deploymentKey).map (·.1)) with
  | some key => rfl
  | none =>
    dsimp only
    cases a.template.outputs.contains Key.apiKeyOutput <;> rfl

theorem run_recordMethod (key : String) (a : Assembly) :
    (recordMethod key).run a =
      atOnce a (a.withGateway.map fun b => { b with methodKeys := b.methodKeys ++ [key] }) := by
  rw [recordMethod, EStateM.run_bind, EStateM.run_get, withGateway]
  cases hgateway : a.hasGateway with
  | true => simp [hgateway, atOnce, Except.map]
  | false =>
    simp only [EStateM.run_bind, hgateway, run_gateway, Bool.false_eq_true, if_false]
    cases a.putGateway <;> rfl

theorem run_resource (key : String) (value : Resource) (a : Assembly) :
    (resource key value).run a = atOnce a (a.putResource key value) := by
  rw [resource, EStateM.run_bind, run_vacant, putResource]
  cases a.taken key with
  | true => rfl
  | false =>
    cases hmethod : value.isMethod with
    | false => simp [hmethod, setResource, setResources, atOnce, KeyMap.insertAll]
    | true =>
      simp only [EStateM.run_bind, run_recordMethod, Bool.false_eq_true, if_false, if_true]
      cases a.withGateway <;>
        simp [hmethod, setResource, setResources, atOnce, KeyMap.insertAll, Except.map]

theorem run_part (p : Part) (a : Assembly) : (part p).run a = atOnce a (a.put p) := by
  cases p with
  | parameter key value => exact run_parameter key value a
  | resource key value => exact run_resource key value a
  | output key value => exact run_output key value a

theorem run_parts (parts : List Part) (a : Assembly) :
    (forM parts part).run a = ended (a.putAll parts) := by
  induction parts generalizing a with
  | nil => rfl
  | cons p rest ih =>
    rw [List.forM_cons, EStateM.run_bind, run_part, putAll]
    cases a.put p with
    | error e => rfl
    | ok b => exact ih b

theorem run_bundle (b : Bundle) (a : Assembly) : (bundle b).run a = ended (a.putBundle b) := by
  have hsections : bundle b = (do
      forM b.parts part
      forM b.policy.toList fun policy => modify (·.addPolicy policy)
      modify fun a => { a with bundleCount := a.bundleCount + 1 }) := by
    simp only [bundle, Bundle.parts, List.forM_append, List.forM_map, bind_assoc]
    rfl
  rw [hsections, EStateM.run_bind, run_parts, putBundle]
  rcases a.putAll b.parts with ⟨c, e | ⟨⟩⟩
  · rfl
  · cases b.policy with
    | none => simp [ended, close]
    | some policy => rfl

/-- Changed in place, an assembly ends as the actions say. -/
theorem run_action (x : Action) (a : Assembly) : (action x).run a = ended (a.act x) := by
  cases x with
  | put p =>
    rw [action, run_part, act]
    cases a.put p <;> rfl
  | addPolicy policy => rfl
  | putBundle b => exact run_bundle b a

end Edit

theorem putBundle_eq_error_iff (a b : Assembly) (bundle : Bundle) (e : StackError) :
    a.putBundle bundle = (b, .error e) ↔ a.putAll bundle.parts = (b, .error e) := by
  rw [putBundle]
  split
  · rename_i c hc
    simp [hc]
  · rename_i c e' hc
    simp [hc]

theorem exists_of_putAll_error {parts : List Part} {a b : Assembly} {e : StackError}
    (h : a.putAll parts = (b, .error e)) :
    ∃ before part after, parts = before ++ part :: after ∧ a.putAll before = (b, .ok ()) ∧
      b.put part = .error e := by
  induction parts generalizing a with
  | nil => cases h
  | cons part rest ih =>
    rw [putAll] at h
    cases hput : a.put part with
    | error e' =>
      rw [hput] at h
      cases h
      exact ⟨[], part, rest, rfl, rfl, hput⟩
    | ok c =>
      rw [hput] at h
      obtain ⟨before, p, after, hparts, hbefore, hp⟩ := ih h
      refine ⟨part :: before, p, after, congrArg (part :: ·) hparts, ?_, hp⟩
      rw [putAll, hput]
      exact hbefore

/-- Changed in place, an assembly ends as the actions say, and no action changes what stands at a
key. A part that does not fit changes nothing. A bundle that does not fit puts in the parts before
the first that does not fit, and neither its policy nor the count. -/
theorem failed_edits (a : Assembly) :
    (∀ x, (Edit.action x).run a = Edit.ended (a.act x)) ∧
    (∀ x, a.template.Keeps (a.act x).1.template) ∧
    (∀ p b e, (Edit.part p).run a = .error e b → b = a) ∧
    ∀ bundle b e, (Edit.bundle bundle).run a = .error e b →
      ∃ before p after, bundle.parts = before ++ p :: after ∧
        (forM before Edit.part).run a = .ok () b ∧ (Edit.part p).run b = .error e b ∧
        b.policies = a.policies ∧ b.bundleCount = a.bundleCount := by
  refine ⟨fun x => Edit.run_action x a, keeps_act a, fun p b e h => ?_, fun bundle b e h => ?_⟩
  · rw [Edit.run_part] at h
    exact (Edit.eq_of_atOnce h).1
  · rw [Edit.run_bundle, Edit.ended_eq_error_iff, putBundle_eq_error_iff] at h
    obtain ⟨before, p, after, hparts, hbefore, hp⟩ := exists_of_putAll_error h
    obtain ⟨hpolicies, hcount⟩ := policies_putAll before a
    rw [hbefore] at hpolicies hcount
    refine ⟨before, p, after, hparts, ?_, ?_, hpolicies, hcount⟩
    · rw [Edit.run_parts, hbefore, Edit.ended]
    · rw [Edit.run_part, hp, Edit.atOnce]

def sampleTemplate : Template :=
  { Template.empty with outputs := .ofList [(Key.apiKeyOutput, .make (.str "none"))] }

def sampleBundle : Bundle :=
  ⟨"hook", [("hookLimit", .text "Number" "how many")],
    [("hook", .make Resource.functionKind []),
      ("hookGatewayRuleMethod", .make Resource.methodKind [])],
    some ⟨"hook", ⟨none, []⟩⟩, []⟩

theorem failed_edits_sample :
    ∃ b, (Edit.bundle sampleBundle).run (start sampleTemplate "ApiDeployment") =
        .error (.duplicateOutput Key.apiKeyOutput) b ∧
      b.template.resources.keys = ["hook"] ∧ b.template.outputs = sampleTemplate.outputs ∧
      b.hasGateway = false ∧ b.policies = [] ∧
      ∃ before p after, sampleBundle.parts = before ++ p :: after ∧
        (forM before Edit.part).run (start sampleTemplate "ApiDeployment") = .ok () b ∧
        (Edit.part p).run b = .error (.duplicateOutput Key.apiKeyOutput) b := by
  have herror : ((start sampleTemplate "ApiDeployment").putBundle sampleBundle).2 =
      .error (.duplicateOutput Key.apiKeyOutput) := rfl
  have hrun : (Edit.bundle sampleBundle).run (start sampleTemplate "ApiDeployment") =
      .error (.duplicateOutput Key.apiKeyOutput)
        ((start sampleTemplate "ApiDeployment").putBundle sampleBundle).1 := by
    rw [Edit.run_bundle, Edit.ended_eq_error_iff, ← herror]
  obtain ⟨-, -, -, hbundle⟩ := failed_edits (start sampleTemplate "ApiDeployment")
  obtain ⟨before, p, after, hparts, hbefore, hp, -, -⟩ := hbundle _ _ _ hrun
  exact ⟨_, hrun, by rfl, by rfl, by rfl, by rfl,
    before, p, after, hparts, hbefore, hp⟩

end Assembly
end RuleStack
