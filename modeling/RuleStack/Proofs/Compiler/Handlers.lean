import RuleStack.Handler
import RuleStack.Proofs.Compiler.Run
set_option autoImplicit false

namespace RuleStack.Text

def bytes (s : String) : List UInt8 := s.toUTF8.data.toList

theorem bytes_eq (s : String) : bytes s = s.toList.flatMap String.utf8EncodeChar := by
  rw [bytes, String.toUTF8, ← String.utf8Encode_toList, List.utf8Encode, List.data_toByteArray]

/-- Of two characters the one with the smaller code has the smaller bytes, whatever follows them. -/
theorem encodeChar_append_lt {a b : Char} (h : a < b) (xs ys : List UInt8) :
    String.utf8EncodeChar a ++ xs < String.utf8EncodeChar b ++ ys := by
  have hcodes : a.val.toNat < b.val.toNat := h
  have hbound : b.val.toNat < 1114112 := by
    rcases b.valid with hb | ⟨-, hb⟩
    · exact Nat.lt_trans hb (by decide)
    · exact hb
  rw [String.utf8EncodeChar, String.utf8EncodeChar]
  generalize a.val.toNat = m at hcodes
  generalize b.val.toNat = n at hcodes hbound
  -- one to four bytes on either side; more bytes begin with a greater one
  have hdigits (k : Nat) : k / 4096 = k / 64 / 64 ∧ k / 262144 = k / 64 / 64 / 64 := by omega
  repeat' split
  all_goals
    simp only [List.cons_append, List.cons_lt_cons_iff, UInt8.lt_iff_toNat_lt, ← UInt8.toNat_inj,
      UInt8.toNat_ofNat']
    simp (disch := omega) only [Nat.mod_eq_of_lt]
    have hm := hdigits m
    have hn := hdigits n
    omega

theorem encode_lt {xs ys : List Char} (h : xs < ys) :
    xs.flatMap String.utf8EncodeChar < ys.flatMap String.utf8EncodeChar := by
  induction xs generalizing ys with
  | nil =>
    cases ys with
    | nil => exact absurd h (List.lt_irrefl [])
    | cons d ds =>
      obtain ⟨byte, more, hbytes⟩ :=
        List.exists_cons_of_ne_nil (String.utf8EncodeChar_ne_nil (c := d))
      rw [List.flatMap_cons, hbytes]
      exact List.nil_lt_cons _ _
  | cons c cs ih =>
    cases ys with
    | nil => exact absurd h (List.not_lt_nil _)
    | cons d ds =>
      rw [List.flatMap_cons, List.flatMap_cons]
      rcases List.cons_lt_cons_iff.1 h with hlt | ⟨rfl, hrest⟩
      · exact encodeChar_append_lt hlt _ _
      · exact List.append_left_lt (ih hrest)

theorem bytes_lt {s t : String} (h : s < t) : bytes s < bytes t := by
  rw [bytes_eq, bytes_eq]
  exact encode_lt (String.lt_iff.1 h)

end RuleStack.Text

namespace RuleStack

def handlersOf (es : List (String × Resource)) : List Handler :=
  es.filterMap fun e => e.2.handler? e.1

theorem handlersOf_append (es more : List (String × Resource)) :
    handlersOf (es ++ more) = handlersOf es ++ handlersOf more := List.filterMap_append

theorem handlersOf_perm {es more : List (String × Resource)} (h : es.Perm more) :
    (handlersOf es).Perm (handlersOf more) := h.filterMap _

theorem handlersOf_eq_nil {es : List (String × Resource)}
    (h : ∀ e ∈ es, e.2.isFunction = false) : handlersOf es = [] := by
  rw [handlersOf, List.filterMap_eq_nil_iff]
  intro e he
  rw [Resource.handler?, h e he]
  rfl

theorem Resource.name_of_handler? {key : String} {r : Resource} {handler : Handler}
    (h : r.handler? key = some handler) : handler.name = key := by
  rw [handler?] at h
  split at h
  · obtain ⟨path, -, rfl⟩ := Option.map_eq_some_iff.1 h
    rfl
  · cases h

theorem Template.pairwise_handlers (t : Template) :
    t.handlers.Pairwise fun a b => a.name < b.name := by
  refine List.Pairwise.filterMap _ (fun e f hlt a ha b hb => ?_) t.resources.ordered
  rw [Resource.name_of_handler? ha, Resource.name_of_handler? hb]
  exact hlt

namespace Rule

theorem handler?_functionOf {r : Rule} {path : String} (h : r.sourcePath = some path)
    (name runtime : String) :
    (r.functionOf name runtime).handler? name = some ⟨name, some (handlerName name), path⟩ := by
  have hsource : (r.functionOf name runtime).sourcePath? = some path := by
    rw [Resource.sourcePath?, functionOf, h]
    simp [Json.member?, Json.asText?]
  have hentry : (r.functionOf name runtime).entryPoint? = some (handlerName name) := rfl
  have hfunction : (r.functionOf name runtime).isFunction = true := rfl
  rw [Resource.handler?, if_pos hfunction, hsource, hentry]
  rfl

theorem handlersOf_resourcesOf {r : Rule} {path : String} (h : r.sourcePath = some path)
    (name runtime : String) :
    handlersOf (r.resourcesOf name runtime) = [⟨name, some (handlerName name), path⟩] := by
  have hcore : handlersOf (r.coreOf name runtime) =
      [⟨name, some (handlerName name), path⟩] := by
    simp only [handlersOf, coreOf, List.filterMap_cons, handler?_functionOf h]
    rfl
  have htopic : handlersOf (r.topicPartsOf name) = [] := by
    rw [topicPartsOf]
    split <;> rfl
  have hpattern : handlersOf (r.patternPartsOf name) = [] :=
    handlersOf_eq_nil fun e he => by
      obtain ⟨v, -, rfl⟩ := List.mem_map.1 he
      rfl
  have hschedule : handlersOf (r.schedulePartsOf name) = [] :=
    handlersOf_eq_nil fun e he => by
      obtain ⟨v, -, rfl⟩ := List.mem_map.1 he
      rfl
  have hgateway : handlersOf (r.gatewayPartsOf name) = [] :=
    handlersOf_eq_nil fun e he => by
      obtain ⟨g, -, he⟩ := List.mem_flatMap.1 he
      obtain ⟨v, -, he⟩ := List.mem_flatMap.1 he
      simp only [List.mem_cons, List.not_mem_nil, or_false] at he
      rcases he with rfl | rfl <;> rfl
  have halarms : handlersOf (alarmsOf name) = [] := rfl
  simp only [resourcesOf, handlersOf_append, hcore, htopic, hpattern, hschedule, hgateway, halarms,
    List.append_nil]

end Rule

theorem StackOptions.Document.handlers {o : StackOptions} {base t : Template}
    {bundles : List Bundle} {deploymentKey : String} (h : o.Document base bundles deploymentKey t) :
    t.handlers.Perm (base.handlers ++ handlersOf (Bundle.allResources bundles)) := by
  have hgateway : handlersOf (if hasMethod (Bundle.allResources bundles) then
      gatewayResources deploymentKey else []) = [] := by
    split <;> rfl
  have hrole : handlersOf (if bundles = [] then []
      else [(Key.role, executionRole (Bundle.allPolicies bundles))]) = [] := by
    split <;> rfl
  have hdeployment : handlersOf (if hasMethod (Bundle.allResources bundles) then
      [(deploymentKey, apiDeployment (methodKeysOf (Bundle.allResources bundles)))]
      else []) = [] := by
    split <;> rfl
  have htopic : handlersOf [(Key.alarmTopic, alarmTopic)] = [] := rfl
  have hall := handlersOf_perm h.resources
  simp only [handlersOf_append, hgateway, hrole, hdeployment, htopic, List.append_nil] at hall
  exact hall

namespace Compiler

/-- The handler of a rule: it is called as the rule is in the stack, and its code lies in the module
of the rule. -/
def handler? (c : Compiler) (d : Definition) : Option Handler :=
  d.rule.name.map fun name =>
    ⟨c.namer.namespaced name d.modulePath,
      some ("index." ++ c.namer.namespaced name d.modulePath), d.modulePath⟩

theorem handler?_of_usable {c : Compiler} {d : Definition} {name : String}
    (h : (c.prepare d).usableName? = some name) :
    c.handler? d = some ⟨name, some (Rule.handlerName name), d.modulePath⟩ := by
  have hname : d.rule.name.map (c.namer.namespaced · d.modulePath) = some name :=
    (Option.filter_eq_some_iff.1 h).1
  obtain ⟨own, hown, rfl⟩ := Option.map_eq_some_iff.1 hname
  rw [handler?, hown]
  rfl

theorem handlers_of_bundles {c : Compiler} {definitions : List Definition} {bundles : List Bundle}
    (h : c.bundles definitions = .ok bundles) :
    definitions.mapM c.handler? = some (handlersOf (Bundle.allResources bundles)) := by
  rw [bundles_eq_ok_iff] at h
  induction definitions generalizing bundles with
  | nil =>
    cases List.map_eq_nil_iff.1 h.symm
    rfl
  | cons d rest ih =>
    cases bundles with
    | nil => cases h
    | cons b bs =>
      rw [List.map_cons, List.map_cons, List.cons.injEq] at h
      obtain ⟨name, husable, -, rfl⟩ := (c.bundle_eq_ok_iff d b).1 h.1
      have hown : handlersOf ((c.prepare d).resourcesOf name c.runtime) =
          [⟨name, some (Rule.handlerName name), d.modulePath⟩] :=
        Rule.handlersOf_resourcesOf rfl name c.runtime
      have hall : Bundle.allResources ((c.prepare d).bundleOf name c.runtime :: bs) =
          (c.prepare d).resourcesOf name c.runtime ++ Bundle.allResources bs := rfl
      rw [hall, handlersOf_append, hown, List.mapM_cons, handler?_of_usable husable, ih h.2]
      rfl

/-- A compiled template has the handlers of the base template and one for each definition, under the
full name of its rule, and none beside these. They are listed in the order of their names. -/
theorem run_handlers (c : Compiler) (base : Template) (definitions : List Definition)
    (hrole : Key.role ∉ base.resources.keys) (htopic : Key.alarmTopic ∉ base.resources.keys)
    (t : Template) (h : c.run base (.ok definitions) = .ok t) :
    t.handlers.Pairwise (fun a b => Text.bytes a.name < Text.bytes b.name) ∧
      ∃ own, definitions.mapM c.handler? = some own ∧ t.handlers.Perm (base.handlers ++ own) := by
  obtain ⟨ds, bundles, hds, hbundles, hcompile⟩ := (c.run_eq_ok_iff base _ t).1 h
  cases hds
  obtain ⟨deploymentKey, a, -, hcollected, hfree, rfl⟩ :=
    StackOptions.exists_collected (apart_of_bundles hbundles) hcompile
  have hdocument := StackOptions.document_of_collected hcollected hrole htopic hfree
  exact ⟨a.finished.pairwise_handlers.imp Text.bytes_lt, _, handlers_of_bundles hbundles,
    hdocument.handlers⟩

theorem run_handlers_sample :
    Key.role ∉ sampleBase.resources.keys ∧ Key.alarmTopic ∉ sampleBase.resources.keys ∧
      ∃ t, sample.run sampleBase (.ok sampleDefinitions) = .ok t ∧
        t.handlers.Perm [
          ⟨"patrolruleslogin", some "index.patrolruleslogin", "node_modules/patrol-rules/login.js"⟩,
          ⟨"hook", some "index.hook", "lib/hook.js"⟩] := by
  have hrole : Key.role ∉ sampleBase.resources.keys := by decide
  have htopic : Key.alarmTopic ∉ sampleBase.resources.keys := by decide
  have hown : sampleDefinitions.mapM sample.handler? = some [
      ⟨"patrolruleslogin", some "index.patrolruleslogin", "node_modules/patrol-rules/login.js"⟩,
      ⟨"hook", some "index.hook", "lib/hook.js"⟩] := by decide +kernel
  have hbase : sampleBase.handlers = [] := by decide
  obtain ⟨t, ht⟩ := sampleDefinitions_compile
  obtain ⟨-, own, hown', hperm⟩ :=
    run_handlers sample sampleBase sampleDefinitions hrole htopic t ht
  cases hown.symm.trans hown'
  rw [hbase] at hperm
  exact ⟨hrole, htopic, t, ht, hperm⟩

end Compiler
end RuleStack
