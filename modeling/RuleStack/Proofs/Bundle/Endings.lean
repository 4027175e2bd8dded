import Mathlib.Data.List.Infix
import Mathlib.Data.List.Nodup
import RuleStack.Proofs.Bundle.Keys
import RuleStack.Proofs.KeyMap
/-!
A key of a rule is its name with one of a few endings, or, for its environment, with a text before
it. No ending ends another, so rules of different names have keys in common only where the name of
one ends like a key, or starts like the key of an environment (`bundle_keys_apart`).
-/
set_option autoImplicit false

namespace RuleStack

namespace Key

def ofResources (name : String) : List String := [
  name, permission name, environment name, topic name, topicUser name, topicAccessKey name,
  eventRule name, scheduledRule name, route name, method name,
  alarm name "Errors", alarm name "NoInvocations"]

def resourceEndings : List String := [
  "Permission", "SNSTopic", "SNSUser", "SNSUserAccessKey", "EventRule", "ScheduledRule",
  "GatewayRuleResource", "GatewayRuleMethod", "AlarmErrors", "AlarmNoInvocations"]

def ofOutputs (name : String) : List String := [
  topic name, topicAccessKey name, topicSecret name, endpoint name]

def outputEndings : List String := [
  "SNSTopic", "SNSUserAccessKey", "SNSUserSecretAccessKey", "APIEndpoint"]

theorem ofOutputs_eq (name : String) : ofOutputs name = outputEndings.map (name ++ ·) := rfl

theorem mem_ofResources {name key : String} (h : key ∈ ofResources name) :
    key = environment name ∨ ∃ e ∈ "" :: resourceEndings, key = name ++ e := by
  have hkeys : ∀ key ∈ ofResources name,
      key = environment name ∨ key ∈ ("" :: resourceEndings).map (name ++ ·) := by
    simp [ofResources, resourceEndings, permission, topic, topicUser, topicAccessKey, eventRule,
      scheduledRule, route, method, alarm, String.append_assoc]
  refine (hkeys key h).imp_right fun hmem => ?_
  obtain ⟨e, he, rfl⟩ := List.mem_map.1 hmem
  exact ⟨e, he, rfl⟩

theorem length_ofResources (name : String) :
    (ofResources name).map String.length =
      [0, 10, 12, 8, 7, 16, 9, 13, 19, 17, 11, 18].map (name.length + ·) := by
  simp only [ofResources, permission, environment, topic, topicUser, topicAccessKey, eventRule,
    scheduledRule, route, method, alarm, List.map_cons, List.map_nil, String.length_append,
    Nat.add_comm "StreambotEnv".length]
  rfl

theorem length_ofOutputs (name : String) :
    (ofOutputs name).map String.length = [8, 16, 22, 11].map (name.length + ·) := by
  simp only [ofOutputs, topic, topicAccessKey, topicSecret, endpoint, List.map_cons, List.map_nil,
    String.length_append]
  rfl

theorem nodup_of_lengths {keys : List String} {n : Nat} {lengths : List Nat}
    (h : keys.map String.length = lengths.map (n + ·)) (hlengths : lengths.Nodup) :
    keys.Nodup := by
  refine List.Nodup.of_map String.length ?_
  rw [h]
  exact hlengths.map fun _ _ => Nat.add_left_cancel

theorem nodup_ofResources (name : String) : (ofResources name).Nodup :=
  nodup_of_lengths (length_ofResources name) (by decide)

theorem nodup_ofOutputs (name : String) : (ofOutputs name).Nodup :=
  nodup_of_lengths (length_ofOutputs name) (by decide)

/-- No text of the list is the end of another. -/
def EndApart (endings : List String) : Prop :=
  ∀ e ∈ endings, ∀ f ∈ endings, e.toList <:+ f.toList → e = f

theorem endApart_resourceEndings : EndApart resourceEndings := by
  unfold EndApart
  decide

theorem endApart_outputEndings : EndApart outputEndings := by
  unfold EndApart
  decide

/-- Two ends of one key are ends one of the other. -/
theorem EndApart.inj {endings : List String} (h : EndApart endings) {n m e f : String}
    (he : e ∈ endings) (hf : f ∈ endings) (hkey : n ++ e = m ++ f) : n = m := by
  have hlists : m.toList ++ f.toList = n.toList ++ e.toList := by
    rw [← String.toList_append, ← String.toList_append, hkey]
  have hsame : e = f := by
    rcases List.suffix_or_suffix_of_suffix (List.suffix_append n.toList e.toList) ⟨_, hlists⟩ with
      hef | hfe
    · exact h e he f hf hef
    · exact (h f hf e he hfe).symm
  rw [hsame] at hkey
  exact (String.append_left_inj f).1 hkey

/-- The name does not start like the key of an environment, nor end like another key. -/
structure Plain (name : String) : Prop where
  start : ¬ "StreambotEnv".toList <+: name.toList
  ending : ∀ e ∈ resourceEndings, ¬ e.toList <:+ name.toList

theorem Plain.ne_append {name : String} (h : Plain name) {e : String} (he : e ∈ resourceEndings)
    (other : String) : name ≠ other ++ e := by
  rintro rfl
  exact h.ending e he (by simp)

/-- No ending starts with an end of the text before the name of an environment. -/
theorem eq_nil_of_ends_environment {rest : List Char} (h : rest <:+ "StreambotEnv".toList)
    {e : String} (he : e ∈ "" :: resourceEndings) (hstart : rest <+: e.toList) : rest = [] := by
  have hall : ∀ rest ∈ "StreambotEnv".toList.tails, ∀ e ∈ "" :: resourceEndings,
      rest <+: e.toList → rest = [] := by decide
  exact hall rest ((List.mem_tails _ _).2 h) e he hstart

theorem Plain.environment_ne {name : String} (h : Plain name) {e : String}
    (he : e ∈ "" :: resourceEndings) (other : String) : environment other ≠ name ++ e := by
  intro hkey
  have hlists : name.toList ++ e.toList = "StreambotEnv".toList ++ other.toList := by
    rw [← String.toList_append, ← hkey, environment, String.toList_append]
  rcases List.prefix_or_prefix_of_prefix ⟨_, hlists⟩
      (List.prefix_append "StreambotEnv".toList other.toList) with hshort | hlong
  · obtain ⟨rest, hrest⟩ := hshort
    -- what the name leaves of the text before it starts the ending
    rw [← hrest, List.append_assoc] at hlists
    have hstart : rest <+: e.toList := ⟨_, (List.append_cancel_left hlists).symm⟩
    have hnil := eq_nil_of_ends_environment ⟨_, hrest⟩ he hstart
    rw [hnil, List.append_nil] at hrest
    exact h.start (hrest ▸ List.prefix_rfl)
  · exact h.start hlong

theorem Plain.disjoint {n m key : String} (hn : Plain n) (hm : Plain m) (hne : n ≠ m)
    (hkey : key ∈ ofResources n) : key ∉ ofResources m := by
  intro hother
  rcases mem_ofResources hkey with rfl | ⟨e, he, rfl⟩
  · rcases mem_ofResources hother with hsame | ⟨f, hf, hsame⟩
    · exact hne ((String.append_right_inj _).1 hsame)
    · exact hm.environment_ne hf n hsame
  · rcases mem_ofResources hother with hsame | ⟨f, hf, hsame⟩
    · exact hn.environment_ne he m hsame.symm
    · rcases List.mem_cons.1 he with rfl | he
      · rw [String.append_empty] at hsame
        rcases List.mem_cons.1 hf with rfl | hf
        · exact hne (hsame.trans String.append_empty)
        · exact hn.ne_append hf m hsame
      · rcases List.mem_cons.1 hf with rfl | hf
        · rw [String.append_empty] at hsame
          exact hm.ne_append he n hsame.symm
        · exact hne (endApart_resourceEndings.inj he hf hsame)

theorem disjoint_ofOutputs {n m key : String} (hne : n ≠ m) (hkey : key ∈ ofOutputs n) :
    key ∉ ofOutputs m := by
  intro hother
  rw [ofOutputs_eq] at hkey hother
  obtain ⟨e, he, rfl⟩ := List.mem_map.1 hkey
  obtain ⟨f, hf, hsame⟩ := List.mem_map.1 hother
  exact hne (endApart_outputEndings.inj hf he hsame).symm

end Key

namespace Rule

theorem sublist_of_declared (declared : Bool) (keys : List String) :
    (if declared then keys else []).Sublist keys := by
  cases declared with
  | true => exact .refl _
  | false => exact List.nil_sublist _

theorem resourceKeys_sublist (r : Rule) (name : String) :
    (r.resourceKeys name).Sublist (Key.ofResources name) :=
  (((((List.Sublist.refl [name, Key.permission name, Key.environment name]).append
    (sublist_of_declared r.topic _)).append (sublist_of_declared r.event.isSome _)).append
    (sublist_of_declared r.schedule.isSome _)).append
    (sublist_of_declared r.gateway.isSome _)).append (.refl _)

theorem outputKeys_sublist (r : Rule) (name : String) :
    (r.outputKeys name).Sublist (Key.ofOutputs name) :=
  (sublist_of_declared r.topic _).append (sublist_of_declared r.gateway.isSome _)

theorem nodup_parameterKeys (r : Rule) (name : String) : (r.parameterKeys name).Nodup :=
  r.parameters.nodup_keys.map fun _ _ => (String.append_right_inj _).1

theorem keys_of_bundle {r : Rule} {runtime : String} {b : Bundle}
    (h : r.bundle runtime = .ok b) :
    r.name = some b.name ∧ b.parameters.map (·.1) = r.parameterKeys b.name ∧
      b.resources.map (·.1) = r.resourceKeys b.name ∧
      b.outputs.map (·.1) = r.outputKeys b.name := by
  obtain ⟨name, husable, hcomplete, rfl⟩ := (bundle_eq_ok_iff r runtime b).1 h
  exact ⟨(Option.filter_eq_some_iff.1 husable).1, r.map_fst_parametersOf name,
    map_fst_resourcesOf hcomplete name runtime, r.map_fst_outputsOf name⟩

theorem nodup_of_bundle {r : Rule} {runtime : String} {b : Bundle}
    (h : r.bundle runtime = .ok b) :
    (b.parameters.map (·.1)).Nodup ∧ (b.resources.map (·.1)).Nodup ∧
      (b.outputs.map (·.1)).Nodup := by
  obtain ⟨-, hparameters, hresources, houtputs⟩ := keys_of_bundle h
  rw [hparameters, hresources, houtputs]
  exact ⟨r.nodup_parameterKeys _, (Key.nodup_ofResources _).sublist (r.resourceKeys_sublist _),
    (Key.nodup_ofOutputs _).sublist (r.outputKeys_sublist _)⟩

/-- A bundle has no key twice in a section. Rules of different names have no output key in common,
and if both names are plain, no resource key. -/
theorem bundle_keys_apart (r s : Rule) (runtime other : String) (b c : Bundle)
    (hb : r.bundle runtime = .ok b) (hc : s.bundle other = .ok c) :
    ((b.parameters.map (·.1)).Nodup ∧ (b.resources.map (·.1)).Nodup ∧
      (b.outputs.map (·.1)).Nodup) ∧
    (r.name ≠ s.name →
      (∀ key ∈ b.outputs.map (·.1), key ∉ c.outputs.map (·.1)) ∧
      ((∀ n ∈ r.name, Key.Plain n) → (∀ m ∈ s.name, Key.Plain m) →
        ∀ key ∈ b.resources.map (·.1), key ∉ c.resources.map (·.1))) := by
  refine ⟨nodup_of_bundle hb, fun hne => ?_⟩
  obtain ⟨hname, -, hresources, houtputs⟩ := keys_of_bundle hb
  obtain ⟨hname', -, hresources', houtputs'⟩ := keys_of_bundle hc
  have hnames : b.name ≠ c.name := by
    intro hsame
    exact hne (by rw [hname, hname', hsame])
  rw [houtputs, houtputs', hresources, hresources']
  refine ⟨fun key hkey hother => ?_, fun hplain hplain' key hkey hother => ?_⟩
  · exact Key.disjoint_ofOutputs hnames ((r.outputKeys_sublist _).subset hkey)
      ((s.outputKeys_sublist _).subset hother)
  · exact (hplain _ hname).disjoint (hplain' _ hname') hnames
      ((r.resourceKeys_sublist _).subset hkey) ((s.resourceKeys_sublist _).subset hother)

def everyTrigger (name : String) : Rule := { empty with
  name := some name
  parameters := .ofList [("token", .text "String" "api token")]
  event := some ⟨some (.obj [("source", .str "aws.iam")])⟩
  schedule := some "rate(5 minutes)"
  topic := true
  gateway := some ⟨some "POST", true, none, none⟩ }

theorem bundle_keys_apart_sample :
    ∃ b c, (everyTrigger "login").bundle "nodejs" = .ok b ∧
      (everyTrigger "loginSNS").bundle "nodejs" = .ok c ∧
      (b.resources.map (·.1)).Nodup ∧ b.resources.length = 12 ∧
      (∀ key ∈ b.outputs.map (·.1), key ∉ c.outputs.map (·.1)) ∧
      ∀ key ∈ b.resources.map (·.1), key ∉ c.resources.map (·.1) := by
  obtain ⟨b, hb, hlength⟩ : ∃ b, (everyTrigger "login").bundle "nodejs" = .ok b ∧
      b.resources.length = 12 := Outcome.exists_ok_of_decide rfl
  obtain ⟨c, hc⟩ := Outcome.exists_of_isOk (x := (everyTrigger "loginSNS").bundle "nodejs")
    (by rfl)
  obtain ⟨hnodup, hapart⟩ := bundle_keys_apart _ _ "nodejs" "nodejs" b c hb hc
  obtain ⟨houtputs, hresources⟩ := hapart (by decide)
  refine ⟨b, c, hb, hc, hnodup.2.1, hlength, houtputs, hresources ?_ ?_⟩
  · rintro n ⟨⟩
    exact ⟨by decide, by decide⟩
  · rintro n ⟨⟩
    exact ⟨by decide, by decide⟩

end Rule

end RuleStack
