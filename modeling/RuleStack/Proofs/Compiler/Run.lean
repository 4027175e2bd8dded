import RuleStack.Proofs.Stack.Rules
/-!
A run succeeds when every rule builds under its full name and the bundles compile. It gives a closed
template over a closed base template (`run_closed`), an acyclic one over an acyclic base template
(`run_acyclic`), and the order of the definitions shows only in the role and the deployment
(`run_order`).
-/
set_option autoImplicit false

namespace RuleStack.Compiler

open Outcome

theorem run_eq_ok_iff (c : Compiler) (base : Template)
    (source : Except DefinitionError (List Definition)) (t : Template) :
    c.run base source = .ok t ↔
      ∃ definitions bundles, source = .ok definitions ∧ c.bundles definitions = .ok bundles ∧
        c.options.compile base bundles = .ok t := by
  simp only [run, compile, bind_eq_ok_iff, mapError_eq_ok_iff, ← exists_and_left]

theorem bundle_eq_ok_iff (c : Compiler) (d : Definition) (b : Bundle) :
    c.bundle d = .ok b ↔
      ∃ name, (c.prepare d).usableName? = some name ∧ (c.prepare d).Complete ∧
        (c.prepare d).bundleOf name c.runtime = b := by
  rw [bundle, mapError_eq_ok_iff, Rule.bundle_eq_ok_iff]

theorem bundles_eq_ok_iff (c : Compiler) (definitions : List Definition) (bundles : List Bundle) :
    c.bundles definitions = .ok bundles ↔ definitions.map c.bundle = bundles.map .ok :=
  mapM_eq_ok_iff c.bundle definitions bundles

section Bundles

variable {c : Compiler} {definitions : List Definition} {bundles : List Bundle}
  (h : c.bundles definitions = .ok bundles)
include h

theorem exists_bundle_of_mem {d : Definition} (hd : d ∈ definitions) :
    ∃ b ∈ bundles, c.bundle d = .ok b := by
  rw [bundles_eq_ok_iff] at h
  have hmem := List.mem_map_of_mem (f := c.bundle) hd
  rw [h] at hmem
  obtain ⟨b, hb, hdb⟩ := List.mem_map.1 hmem
  exact ⟨b, hb, hdb.symm⟩

theorem exists_definition_of_mem {b : Bundle} (hb : b ∈ bundles) :
    ∃ d ∈ definitions, c.bundle d = .ok b := by
  rw [bundles_eq_ok_iff] at h
  have hmem := List.mem_map_of_mem (f := (Except.ok : Bundle → Except CompilerError Bundle)) hb
  rw [← h] at hmem
  exact List.mem_map.1 hmem

theorem map_of_bundles {α : Type} {f : Bundle → α} {g : Definition → α}
    (hfg : ∀ d b, c.bundle d = .ok b → f b = g d) : bundles.map f = definitions.map g := by
  rw [bundles_eq_ok_iff] at h
  induction definitions generalizing bundles with
  | nil =>
    cases List.map_eq_nil_iff.1 h.symm
    rfl
  | cons d rest ih =>
    cases bundles with
    | nil => cases h
    | cons b bs =>
      rw [List.map_cons, List.map_cons, List.cons.injEq] at h
      rw [List.map_cons, List.map_cons, hfg d b h.1, ih h.2]

end Bundles

def sample : Compiler := ⟨⟨["patrol-rules"]⟩, defaultRuntime, .sample⟩

end RuleStack.Compiler

namespace RuleStack.Compiler

variable {c : Compiler} {definitions : List Definition} {bundles : List Bundle}

theorem inert_prepare {d : Definition} (h : d.rule.Inert) : (c.prepare d).Inert :=
  ⟨h.pattern, h.statements, h.methodResponses, h.integrationResponses⟩

theorem ofRule_of_bundles (hinert : ∀ d ∈ definitions, d.rule.Inert)
    (h : c.bundles definitions = .ok bundles) : ∀ b ∈ bundles, b.OfRule := by
  intro b hb
  obtain ⟨d, hd, hbundle⟩ := exists_definition_of_mem h hb
  obtain ⟨name, -, hcomplete, hb⟩ := (c.bundle_eq_ok_iff d b).1 hbundle
  exact ⟨c.prepare d, name, c.runtime, hcomplete, inert_prepare (hinert d hd), hb⟩

/-- A run gives a stack of rules over the base template. -/
theorem exists_stackOver (hinert : ∀ d ∈ definitions, d.rule.Inert) {base t : Template}
    (h : c.run base (.ok definitions) = .ok t) :
    ∃ bundles deploymentKey,
      (∀ b ∈ bundles, b.OfRule) ∧ StackOver base bundles deploymentKey t := by
  obtain ⟨ds, bundles, hds, hbundles, hcompile⟩ := (c.run_eq_ok_iff base _ t).1 h
  cases hds
  have hrules := ofRule_of_bundles hinert hbundles
  obtain ⟨deploymentKey, hstack⟩ :=
    c.options.exists_stackOver base bundles (apart_of_rules hrules) hcompile
  exact ⟨bundles, deploymentKey, hrules, hstack⟩

def sampleBase : Template :=
  { Template.empty with
    parameters := .ofList [("Stage", .text "String" "where the stack runs")]
    resources := .ofList [
      ("Table", .make "AWS::DynamoDB::Table" [("TableName", .ref "Stage")]),
      ("Backup", { Resource.make "AWS::Backup::BackupPlan" [("Plan", .getAtt "Table" "Arn")] with
        dependsOn := some (.str "Table") })]
    outputs := .ofList [("TableArn", .make (.getAtt "Table" "Arn"))] }

def sampleDefinitions : List Definition := [
  ⟨"node_modules/patrol-rules/login.js",
    { Rule.empty with
      name := some "login"
      parameters := .ofList [("limit", .text "Number" "how many")]
      statements := some [.allow (.strings ["sns:Publish"]) (.str "*")]
      event := some ⟨some (.obj [("source", .strings ["aws.signin"])])⟩
      topic := true }⟩,
  ⟨"lib/hook.js",
    { Rule.empty with
      name := some "hook"
      schedule := some "rate(5 minutes)"
      gateway := some ⟨some "post", true, none, some [.obj [("StatusCode", .str "200")]]⟩ }⟩]

theorem inert_sampleDefinitions : ∀ d ∈ sampleDefinitions, d.rule.Inert := by
  intro d hd
  simp only [sampleDefinitions, List.mem_cons, List.not_mem_nil, or_false] at hd
  rcases hd with rfl | rfl
  · constructor <;> decide
  · constructor <;> decide

theorem sampleDefinitions_compile : ∃ t, sample.run sampleBase (.ok sampleDefinitions) = .ok t :=
  Outcome.exists_of_isOk (by decide +kernel)

/-- Over a closed base template, rules without references of their own compile to a closed
template. -/
theorem run_closed (c : Compiler) (base : Template) (definitions : List Definition)
    (hbase : base.Closed) (hinert : ∀ d ∈ definitions, d.rule.Inert) (t : Template)
    (h : c.run base (.ok definitions) = .ok t) : t.Closed := by
  obtain ⟨bundles, deploymentKey, hrules, hstack⟩ := exists_stackOver hinert h
  refine hstack.resources.closed (hstack.layered hrules) hbase fun e he => ?_
  refine (hstack.outputs e he).imp_right fun he => ⟨6, fun x hx => ?_⟩
  exact hstack.answers_outputs hrules he hx

theorem run_closed_sample :
    sampleBase.Closed ∧ (∀ d ∈ sampleDefinitions, d.rule.Inert) ∧
      ∃ t, sample.run sampleBase (.ok sampleDefinitions) = .ok t ∧ t.Closed := by
  have hbase : sampleBase.Closed := by decide
  obtain ⟨t, ht⟩ := sampleDefinitions_compile
  exact ⟨hbase, inert_sampleDefinitions, t, ht,
    run_closed sample sampleBase sampleDefinitions hbase inert_sampleDefinitions t ht⟩

/-- Over an acyclic base template, rules without references of their own compile to an acyclic
template. It does not matter whether the references of the base template find something, and whether
it has resources at the keys of the stack. -/
theorem run_acyclic (c : Compiler) (base : Template) (definitions : List Definition)
    (hbase : base.Acyclic) (hinert : ∀ d ∈ definitions, d.rule.Inert) (t : Template)
    (h : c.run base (.ok definitions) = .ok t) : t.Acyclic := by
  obtain ⟨bundles, deploymentKey, hrules, hstack⟩ := exists_stackOver hinert h
  exact hstack.resources.acyclic (hstack.layered hrules) hbase

theorem acyclic_sampleBase : sampleBase.Acyclic := by
  refine Template.acyclic_of_rank (fun key => if key = "Backup" then 1 else 0) fun a b hedge => ?_
  obtain ⟨r, hr, x, hx, rfl, hkey, -⟩ := hedge
  have hedges : ∀ e ∈ sampleBase.resources.entries, ∀ x ∈ e.2.references,
      x.target ∈ sampleBase.resources.keys → e.1 = "Backup" ∧ x.target = "Table" := by
    decide
  obtain ⟨rfl, htarget⟩ : a = "Backup" ∧ x.target = "Table" := hedges _ hr x hx hkey
  rw [htarget]
  decide

theorem run_acyclic_sample :
    sampleBase.Acyclic ∧ (∀ d ∈ sampleDefinitions, d.rule.Inert) ∧
      ∃ t, sample.run sampleBase (.ok sampleDefinitions) = .ok t ∧ t.Acyclic := by
  obtain ⟨t, ht⟩ := sampleDefinitions_compile
  exact ⟨acyclic_sampleBase, inert_sampleDefinitions, t, ht,
    run_acyclic sample sampleBase sampleDefinitions acyclic_sampleBase inert_sampleDefinitions t ht⟩

end RuleStack.Compiler

namespace RuleStack.Compiler

variable {c : Compiler} {base t : Template} {definitions kept dropped : List Definition}
  {bundles : List Bundle}

theorem bundles_of_perm {others : List Definition} (h : c.bundles definitions = .ok bundles)
    (hperm : definitions.Perm others) : ∃ bs, c.bundles others = .ok bs ∧ bundles.Perm bs := by
  obtain ⟨hall, rfl⟩ := (Outcome.mapM_eq_ok_iff_filterMap c.bundle definitions bundles).1 h
  have hothers : ∀ d ∈ others, ∃ b, c.bundle d = .ok b := fun d hd => hall d (hperm.mem_iff.2 hd)
  exact ⟨_, (Outcome.mapM_eq_ok_iff_filterMap c.bundle others _).2 ⟨hothers, rfl⟩,
    hperm.filterMap _⟩

theorem bundles_of_append (h : c.bundles (kept ++ dropped) = .ok bundles) :
    ∃ bs ds, c.bundles kept = .ok bs ∧ bundles = bs ++ ds := by
  obtain ⟨hall, rfl⟩ := (Outcome.mapM_eq_ok_iff_filterMap c.bundle _ bundles).1 h
  have hkept : ∀ d ∈ kept, ∃ b, c.bundle d = .ok b :=
    fun d hd => hall d (List.mem_append_left _ hd)
  exact ⟨_, _, (Outcome.mapM_eq_ok_iff_filterMap c.bundle kept _).2 ⟨hkept, rfl⟩,
    List.filterMap_append⟩

theorem apart_of_bundles (h : c.bundles definitions = .ok bundles) :
    Apart (Bundle.allResources bundles) := by
  refine Bundle.apart_allResources fun b hb => ?_
  obtain ⟨d, -, hbundle⟩ := exists_definition_of_mem h hb
  obtain ⟨name, -, -, rfl⟩ := (c.bundle_eq_ok_iff d b).1 hbundle
  exact (c.prepare d).apart_resourcesOf name c.runtime

/-- What a run gives is finished from an assembly that holds all bundles. -/
theorem collected_of_run (h : c.run base (.ok definitions) = .ok t) :
    ∃ bundles deploymentKey a, c.bundles definitions = .ok bundles ∧
      Collected (c.options.seed base) deploymentKey bundles a ∧
      (a.hasGateway = true → a.taken a.deploymentKey = false) ∧ t = a.finished := by
  obtain ⟨ds, bundles, hds, hbundles, hcompile⟩ := (c.run_eq_ok_iff base _ t).1 h
  cases hds
  obtain ⟨deploymentKey, a, -, hcollected, hfree, rfl⟩ :=
    StackOptions.exists_collected (apart_of_bundles hbundles) hcompile
  exact ⟨bundles, deploymentKey, a, hbundles, hcollected, hfree, rfl⟩

theorem fits_of_run (h : c.run base (.ok definitions) = .ok t)
    (hperm : definitions.Perm (kept ++ dropped)) :
    ∃ bs, c.bundles kept = .ok bs ∧ Fits (c.options.seed base) (Bundle.allParts bs) := by
  obtain ⟨bundles, deploymentKey, a, hbundles, hcollected, -, -⟩ := collected_of_run h
  obtain ⟨_, hall, hbundlesPerm⟩ := bundles_of_perm hbundles hperm
  obtain ⟨bs, others, hbs, rfl⟩ := bundles_of_append hall
  exact ⟨bs, hbs, hcollected.fits_of_perm hbundlesPerm⟩

theorem run_of_perm (hrevision : c.options.revision ≠ .contentHash)
    (h : c.run base (.ok definitions) = .ok t) {others : List Definition}
    (hperm : definitions.Perm others) :
    ∃ deploymentKey u,
      (∀ bundles, c.options.revision.deploymentKey base bundles = .ok deploymentKey) ∧
      c.run base (.ok others) = .ok u ∧ t.SameButOrder deploymentKey u := by
  obtain ⟨ds, bundles, hds, hbundles, hcompile⟩ := (c.run_eq_ok_iff base _ t).1 h
  cases hds
  obtain ⟨bs, hbs, hbundlesPerm⟩ := bundles_of_perm hbundles hperm
  obtain ⟨deploymentKey, u, hkeys, hu, hsame⟩ :=
    StackOptions.compile_of_perm hrevision (apart_of_bundles hbundles) hcompile hbundlesPerm
  exact ⟨deploymentKey, u, hkeys, (c.run_eq_ok_iff base _ u).2 ⟨others, bs, rfl, hbs, hu⟩, hsame⟩

theorem run_of_fewer (hrevision : c.options.revision ≠ .contentHash)
    (h : c.run base (.ok definitions) = .ok t) (hperm : definitions.Perm (kept ++ dropped)) :
    ∃ deploymentKey u,
      (∀ bundles, c.options.revision.deploymentKey base bundles = .ok deploymentKey) ∧
      c.run base (.ok kept) = .ok u ∧ u.WithinBut deploymentKey t ∧
      ∀ d ∈ kept, ∃ b, c.bundle d = .ok b ∧ t.Has b ∧ u.Has b := by
  obtain ⟨ds, bundles, hds, hbundles, hcompile⟩ := (c.run_eq_ok_iff base _ t).1 h
  cases hds
  obtain ⟨_, hall, hbundlesPerm⟩ := bundles_of_perm hbundles hperm
  obtain ⟨bs, others, hbs, rfl⟩ := bundles_of_append hall
  obtain ⟨deploymentKey, u, hkeys, hu, hwithin, hhas⟩ :=
    StackOptions.compile_of_fewer hrevision (apart_of_bundles hbundles) hcompile hbundlesPerm
  refine ⟨deploymentKey, u, hkeys, (c.run_eq_ok_iff base _ u).2 ⟨kept, bs, rfl, hbs, hu⟩, hwithin,
    fun d hd => ?_⟩
  obtain ⟨b, hb, hbundle⟩ := exists_bundle_of_mem hbs hd
  exact ⟨b, hbundle, hhas b hb⟩

/-- With a revision that does not look at the content, the order of the definitions shows nowhere
but in the order of the role's policies and of the methods that the deployment waits for. Where a
run succeeds, it does with fewer definitions, and what these bring is the same in both templates. -/
theorem run_order (c : Compiler) (base : Template) (definitions : List Definition)
    (hrevision : c.options.revision ≠ .contentHash) :
    (∀ others, definitions.Perm others →
      ((∃ t, c.run base (.ok definitions) = .ok t) ↔ ∃ u, c.run base (.ok others) = .ok u) ∧
      ∀ t u, c.run base (.ok definitions) = .ok t → c.run base (.ok others) = .ok u →
        ∃ deploymentKey,
          (∀ bundles, c.options.revision.deploymentKey base bundles = .ok deploymentKey) ∧
          t.SameButOrder deploymentKey u) ∧
    ∀ rest t, rest.Sublist definitions → c.run base (.ok definitions) = .ok t →
      ∃ deploymentKey u,
        (∀ bundles, c.options.revision.deploymentKey base bundles = .ok deploymentKey) ∧
        c.run base (.ok rest) = .ok u ∧ u.WithinBut deploymentKey t ∧
        ∀ d ∈ rest, ∃ b, c.bundle d = .ok b ∧ t.Has b ∧ u.Has b := by
  constructor
  · intro others hperm
    refine ⟨⟨fun ⟨t, ht⟩ => ?_, fun ⟨u, hu⟩ => ?_⟩, fun t u ht hu => ?_⟩
    · obtain ⟨-, u, -, hu, -⟩ := run_of_perm hrevision ht hperm
      exact ⟨u, hu⟩
    · obtain ⟨-, t, -, ht, -⟩ := run_of_perm hrevision hu hperm.symm
      exact ⟨t, ht⟩
    · obtain ⟨deploymentKey, u', hkeys, hu', hsame⟩ := run_of_perm hrevision ht hperm
      cases hu.symm.trans hu'
      exact ⟨deploymentKey, hkeys, hsame⟩
  · intro rest t hrest ht
    obtain ⟨dropped, hperm⟩ := hrest.exists_perm_append
    exact run_of_fewer hrevision ht hperm

theorem run_order_sample :
    sample.options.revision ≠ .contentHash ∧
      ∃ t u v, sample.run sampleBase (.ok sampleDefinitions) = .ok t ∧
        sample.run sampleBase (.ok sampleDefinitions.reverse) = .ok u ∧
        t.SameButOrder "ApiDeploymentr1" u ∧
        sample.run sampleBase (.ok sampleDefinitions.tail) = .ok v ∧
        v.WithinBut "ApiDeploymentr1" t := by
  have hrevision : sample.options.revision ≠ .contentHash := by decide
  have hkey : sample.options.revision.deploymentKey sampleBase [] = .ok "ApiDeploymentr1" := rfl
  obtain ⟨t, ht⟩ := sampleDefinitions_compile
  obtain ⟨hperm, hfewer⟩ := run_order sample sampleBase sampleDefinitions hrevision
  obtain ⟨hiff, hsame⟩ := hperm _ (List.reverse_perm sampleDefinitions).symm
  obtain ⟨u, hu⟩ := hiff.1 ⟨t, ht⟩
  obtain ⟨deploymentKey, hkeys, hsame⟩ := hsame t u ht hu
  cases (hkeys []).symm.trans hkey
  obtain ⟨deploymentKey, v, hkeys, hv, hwithin, -⟩ := hfewer _ t (List.tail_sublist _) ht
  cases (hkeys []).symm.trans hkey
  exact ⟨hrevision, t, u, v, ht, hu, hsame, hv, hwithin⟩

end RuleStack.Compiler
