import RuleStack.Proofs.Bundle.RoundTrip
import RuleStack.Proofs.Stack.Rules
import RuleStack.Proofs.Stack.Settled
/-!
What the bundles of rules add, and what the stack adds, is tidy, so a compiled template is read back
from what it is written as (`compile_roundTrip`). A content hash sees every difference between
templates and bundles whose numbers are integers (`content_injective`).
-/
set_option autoImplicit false

namespace RuleStack

namespace Template

/-- What a printed template comes back as: the same template just if no double in it reads as an
integer, but always one with the same handlers, over which every stack has the same error or the
same print. -/
structure ComesBackAs (t back : Template) : Prop where
  eq_iff : back = t ↔ ∀ n ∈ t.toJson.numbers, ¬ n.ReadsAsInteger
  handlers : back.handlers = t.handlers
  compile : ∀ (o : StackOptions) (bundles : List Bundle),
    (o.compile back bundles).map (·.toJson.render) = (o.compile t bundles).map (·.toJson.render)

theorem comesBackAs_settle {t : Template} (h : t.Tidy) : t.ComesBackAs t.settle where
  eq_iff := settle_eq_self_iff h
  handlers := handlers_mapNumbers _ t
  compile := StackOptions.compile_render_congr t.settle_settle

end Template

namespace StackOptions

section Tidy

variable {o : StackOptions} {base t : Template} {bundles : List Bundle}

theorem tidy_finalResources (deploymentKey : String) (bundles : List Bundle) :
    ∀ e ∈ Bundle.finalResources deploymentKey bundles, e.2.Tidy := by
  rw [Bundle.finalResources, List.forall_mem_append, List.forall_mem_append]
  refine ⟨⟨?_, List.forall_mem_singleton.2 tidy_alarmTopic⟩, ?_⟩
  · split
    · exact List.forall_mem_nil _
    · exact List.forall_mem_singleton.2 (tidy_executionRole _)
  · split
    · exact List.forall_mem_singleton.2 (tidy_apiDeployment _)
    · exact List.forall_mem_nil _

theorem tidy_compile (hbase : base.Tidy) (hbundles : ∀ b ∈ bundles, b.Tidy)
    (hapart : Apart (Bundle.allResources bundles)) (h : o.compile base bundles = .ok t) :
    t.Tidy := by
  obtain ⟨deploymentKey, a, -, hcollected, hfree, rfl⟩ := exists_collected hapart h
  have hholds := hcollected.holds
  refine ⟨?parameters, ?resources, ?outputs, ?extra⟩
  case parameters =>
    intro e he
    have he : e ∈ (o.seed base).parameters.entries ∨ e ∈ Bundle.allParameters bundles := by
      rw [← List.mem_append, ← Bundle.parameters_allParts, ← hholds.parameters.mem_iff]
      exact he
    rcases he with he | he
    · rcases KeyMap.mem_of_mem_insertAll he with he | he
      · exact hbase.parameters e he
      · exact tidy_globalParameters e he
    · obtain ⟨b, hb, he⟩ := List.mem_flatMap.1 he
      exact (hbundles b hb).parameters e he
  case resources =>
    have hover := stackOver_of_collected hcollected hfree
    intro e he
    rcases hover.resources.resources e he with he | he
    · rw [Bundle.stackResources, List.mem_append, List.mem_append] at he
      rcases he with (he | he) | he
      · rw [gatewayFor] at he
        split at he
        · exact tidy_gatewayResources deploymentKey e he
        · cases he
      · obtain ⟨b, hb, he⟩ := List.mem_flatMap.1 he
        exact (hbundles b hb).resources e he
      · exact tidy_finalResources deploymentKey bundles e he
    · exact hbase.resources e he
  case outputs =>
    have hover := stackOver_of_collected hcollected hfree
    intro e he
    rcases hover.outputs e he with he | he
    · exact hbase.outputs e he
    · rcases List.mem_append.1 he with he | he
      · rw [gatewayOutputFor] at he
        split at he
        · cases List.mem_singleton.1 he
          exact tidy_apiKeyOutput
        · cases he
      · obtain ⟨b, hb, he⟩ := List.mem_flatMap.1 he
        exact (hbundles b hb).outputs e he
  case extra =>
    have hextra : a.finished.extra = base.extra := hholds.extra
    rw [hextra]
    exact hbase.extra

theorem tidy_compile_of_rules (hbase : base.Tidy) {rules : List Rule} {runtime : String}
    (hrules : ∀ r ∈ rules, r.Tidy) (hbundles : rules.mapM (·.bundle runtime) = .ok bundles)
    (h : o.compile base bundles = .ok t) : t.Tidy := by
  refine tidy_compile hbase (fun b hb => ?_) (Bundle.apart_allResources fun b hb => ?_) h
  · obtain ⟨r, hr, hbuilt⟩ := Outcome.exists_of_mem_mapM hbundles hb
    exact Rule.tidy_bundle (hrules r hr) hbuilt
  · obtain ⟨r, -, hbuilt⟩ := Outcome.exists_of_mem_mapM hbundles hb
    obtain ⟨name, -, -, rfl⟩ := (r.bundle_eq_ok_iff runtime b).1 hbuilt
    exact r.apart_resourcesOf name runtime

end Tidy

/-- A template that was read is read back from what it is written as, and so is one that is compiled
over it from rules that were read. From its printed text the latter comes back with settled
numbers. -/
theorem compile_roundTrip {v : Json} (hv : v.Normal) {base : Template}
    (hbase : Template.ofJson v = .ok base) :
    Template.ofJson base.toJson.normalize = .ok base ∧
      ∀ (o : StackOptions) (runtime : String) (rules : List Rule) (bundles : List Bundle)
        (t : Template), (∀ r ∈ rules, Json.Decoded Rule.ofJson r) →
        rules.mapM (·.bundle runtime) = .ok bundles → o.compile base bundles = .ok t →
        Template.ofJson t.toJson.normalize = .ok t ∧
          ∀ text, t.toJson.render = .ok text → ∃ w, Json.parse text = .ok w ∧
            Template.ofJson w = .ok t.settle ∧ t.ComesBackAs t.settle := by
  have htidy := Template.tidy_of_ofJson hv hbase
  refine ⟨Template.ofJson_toJson htidy, fun o runtime rules bundles t hrules hbundles h => ?_⟩
  have ht : t.Tidy :=
    tidy_compile_of_rules htidy (fun r hr => (Rule.decoded_iff_tidy r).1 (hrules r hr)) hbundles h
  refine ⟨Template.ofJson_toJson ht, fun text htext => ⟨_, Json.parse_of_render htext, ?_⟩⟩
  exact ⟨Template.ofJson_printed ht, Template.comesBackAs_settle ht⟩

namespace Kept

theorem delay_le : 5 ≤ Number.maxWhole := by decide

/-- A base template with a section, a member of a resource and a property that it does not know. -/
def value : Json := .obj [
  ("Mappings", .obj [("Zone", .null)]),
  ("Resources", .obj [("Queue", .obj [
    ("Condition", .null),
    ("Properties", .obj [("DelaySeconds", .ofNat 5 delay_le), ("Tags", .null)]),
    ("Type", .str "AWS::SQS::Queue")])])]

def base : Template :=
  { Template.empty with
    resources := .ofList [("Queue",
      ⟨"AWS::SQS::Queue", none, .ofList [("DelaySeconds", .ofNat 5 delay_le), ("Tags", .null)],
        none, .ofList [("Condition", .null)]⟩)]
    extra := .ofList [("Mappings", .obj [("Zone", .null)])] }

def bundles : List Bundle := [Rule.Positional.rule.bundleOf "audit" defaultRuntime]

theorem normal_value : value.Normal := by decide

theorem ofJson_value : Template.ofJson value = .ok base := rfl

theorem decoded_rules : ∀ r ∈ [Rule.Positional.rule], Json.Decoded Rule.ofJson r :=
  Rule.decoded_of_listOfJson Rule.Positional.normal_value Rule.Positional.listOfJson_value

theorem bundles_eq : [Rule.Positional.rule].mapM (·.bundle defaultRuntime) = .ok bundles := rfl

end Kept
end StackOptions

namespace Bundle

structure Parsed (b : Bundle) : Prop where
  parameters : ∀ e ∈ b.parameters, Json.Decoded Parameter.record.read e.2
  resources : ∀ e ∈ b.resources, Json.Decoded Resource.record.read e.2
  policy : ∀ p ∈ b.policy, Json.Decoded Policy.record.read p
  outputs : ∀ e ∈ b.outputs, Json.Decoded Output.record.read e.2

/-- The bundle was read from JSON, or built from a rule that was. -/
def Given (b : Bundle) : Prop :=
  b.Parsed ∨ ∃ r runtime, Json.Decoded Rule.ofJson r ∧ r.bundle runtime = .ok b

theorem Given.tidy {b : Bundle} (h : b.Given) : b.Tidy := by
  rcases h with h | ⟨r, runtime, hr, hb⟩
  · exact ⟨fun e he => Parameter.tidy_of_decoded (h.parameters e he),
      fun e he => Resource.tidy_of_decoded (h.resources e he),
      fun p hp => Policy.tidy_of_decoded (h.policy p hp),
      fun e he => Output.tidy_of_decoded (h.outputs e he)⟩
  · exact Rule.tidy_bundle ((Rule.decoded_iff_tidy r).1 hr) hb

end Bundle

namespace Revision

theorem eq_of_normalize_content {base base' : Template} {bundles bundles' : List Bundle}
    (hbase : base.Tidy) (hbase' : base'.Tidy) (hbundles : ∀ b ∈ bundles, b.Tidy)
    (hbundles' : ∀ b ∈ bundles', b.Tidy)
    (h : (content base bundles).normalize = (content base' bundles').normalize) :
    base = base' ∧ bundles = bundles' := by
  have hparts : base.toJson.normalize = base'.toJson.normalize ∧
      (Json.arr (bundles.map Bundle.toJson)).normalize =
        (Json.arr (bundles'.map Bundle.toJson)).normalize := by
    simpa [content, Json.normalize, Json.normalizeItems] using h
  -- both are read back from one normal form
  have hread := Template.ofJson_toJson hbase
  rw [hparts.1, Template.ofJson_toJson hbase'] at hread
  have hlist := Json.readList_normalize fun b hb => Bundle.read_toJson (hbundles b hb)
  rw [hparts.2, Json.readList_normalize fun b hb => Bundle.read_toJson (hbundles' b hb)] at hlist
  exact ⟨(Except.ok.inj hread).symm, (Except.ok.inj hlist).symm⟩

/-- Whatever two inputs are hashed from the same bytes, they are the same. -/
theorem content_injective (base base' : Template) (bundles bundles' : List Bundle)
    (hbase : Json.Decoded Template.ofJson base) (hbase' : Json.Decoded Template.ofJson base')
    (hbundles : ∀ b ∈ bundles, b.Given) (hbundles' : ∀ b ∈ bundles', b.Given)
    (hwhole : (content base bundles).Whole) (hwhole' : (content base' bundles').Whole)
    (h : (contentText base bundles).toUTF8 = (contentText base' bundles').toUTF8) :
    base = base' ∧ bundles = bundles' := by
  obtain ⟨v, hv, hread⟩ := hbase
  obtain ⟨v', hv', hread'⟩ := hbase'
  have htext : contentText base bundles = contentText base' bundles' := String.toByteArray_inj.1 h
  exact eq_of_normalize_content (Template.tidy_of_ofJson hv hread)
    (Template.tidy_of_ofJson hv' hread') (fun b hb => (hbundles b hb).tidy)
    (fun b hb => (hbundles' b hb).tidy) (Json.normalize_eq_of_canonical_eq hwhole hwhole' htext)

def respelled : Json := .obj [
  ("Description", .null),
  ("Mappings", .obj [("Zone", .null)]),
  ("Outputs", .obj []),
  ("Resources", .obj [("Queue", .obj [
    ("Condition", .null),
    ("DependsOn", .null),
    ("Properties", .obj [("DelaySeconds", .ofNat 5 StackOptions.Kept.delay_le), ("Tags", .null)]),
    ("Type", .str "AWS::SQS::Queue")])])]

theorem content_injective_sample :
    Json.Decoded Template.ofJson StackOptions.Kept.base ∧
      (∀ b ∈ StackOptions.Kept.bundles, b.Given) ∧
      (content StackOptions.Kept.base StackOptions.Kept.bundles).Whole ∧
      ∃ other, Template.ofJson respelled = .ok other ∧
        (contentText StackOptions.Kept.base StackOptions.Kept.bundles).toUTF8 =
          (contentText other StackOptions.Kept.bundles).toUTF8 ∧
        StackOptions.Kept.base = other := by
  have hbase : Json.Decoded Template.ofJson StackOptions.Kept.base :=
    ⟨_, StackOptions.Kept.normal_value, StackOptions.Kept.ofJson_value⟩
  have hother : Template.ofJson respelled = .ok StackOptions.Kept.base := rfl
  have hnormal : respelled.Normal := by decide
  have hbundles : ∀ b ∈ StackOptions.Kept.bundles, b.Given := by
    intro b hb
    obtain ⟨r, hr, hbuilt⟩ := Outcome.exists_of_mem_mapM StackOptions.Kept.bundles_eq hb
    exact .inr ⟨r, _, StackOptions.Kept.decoded_rules r hr, hbuilt⟩
  have hwhole : (content StackOptions.Kept.base StackOptions.Kept.bundles).Whole := by
    decide
  obtain ⟨heq, -⟩ := content_injective _ _ _ _ hbase ⟨_, hnormal, hother⟩ hbundles hbundles hwhole
    hwhole rfl
  exact ⟨hbase, hbundles, hwhole, _, hother, rfl, heq⟩

end Revision
end RuleStack
