import RuleStack.Config.Basic
import RuleStack.Proofs.Bundle.Keys
import RuleStack.Proofs.Compiler.Run
/-!
The full names of rules: those that stand in for a missing name (`run_unnamed`), those of rules from
different packages (`packages_apart`), and that no two rules of a run have the same (`nodup_names`).
-/
set_option autoImplicit false

namespace RuleStack

/-- What is put before the names of the rules in a module. -/
def Namer.lead (n : Namer) (modulePath : String) : String :=
  match n.package? modulePath with
  | some package => alphanumericOnly package
  | none => ""

theorem Namer.namespaced_eq (n : Namer) (name modulePath : String) :
    n.namespaced name modulePath = n.lead modulePath ++ name := by
  rw [namespaced, lead]
  cases n.package? modulePath <;> simp

theorem Namer.lead_of_package? {n : Namer} {modulePath package : String}
    (h : n.package? modulePath = some package) : n.lead modulePath = alphanumericOnly package := by
  rw [lead, h]

theorem Namer.blank_lead_iff (n : Namer) (modulePath : String) :
    Text.blank (n.lead modulePath) = true ↔ n.lead modulePath = "" := by
  rw [lead]
  split
  · exact Text.blank_alphanumericOnly_iff _
  · exact ⟨fun _ => rfl, fun _ => rfl⟩

/-- The author gave no name, or one of which trimming leaves nothing. -/
def Rule.Unnamed (r : Rule) : Prop := ∀ name ∈ r.name, Text.trim name = ""

namespace Compiler

theorem name_prepare (c : Compiler) (d : Definition) :
    (c.prepare d).name = d.rule.name.map (c.namer.lead d.modulePath ++ ·) := by
  simp only [← Namer.namespaced_eq]
  rfl

/-- Under its full name a nameless rule is named just if something was put before the name. -/
theorem usableName?_prepare_of_unnamed (c : Compiler) (d : Definition) (h : d.rule.Unnamed) :
    (c.prepare d).usableName? =
      if c.namer.lead d.modulePath = "" then none
      else d.rule.name.map (c.namer.lead d.modulePath ++ ·) := by
  rw [Rule.usableName?, name_prepare]
  cases hname : d.rule.name with
  | none => simp
  | some name =>
    have hblank : Text.blank name = true := (Text.trim_eq_empty_iff name).1 (h name hname)
    rw [Option.map_some, Option.filter_some, Text.blank_append, hblank, Bool.and_true]
    simp only [← Namer.blank_lead_iff]
    cases Text.blank (c.namer.lead d.modulePath) <;> rfl

/-- A definition without a usable name stops every run, unless a package puts letters or digits
before a name of white space. Then nothing but the rest of the rule decides whether it builds, and it
is called by what was put there. -/
theorem run_unnamed (c : Compiler) (d : Definition) (h : d.rule.Unnamed) :
    (d.rule.name = none ∨ c.namer.lead d.modulePath = "" →
      c.bundle d = .error (.rule d.modulePath (.unnamed "rule bundle")) ∧
      ∀ base definitions, d ∈ definitions → ∃ e, c.run base (.ok definitions) = .error e) ∧
    ∀ name, d.rule.name = some name → c.namer.lead d.modulePath ≠ "" →
      ∀ b, c.bundle d = .ok b ↔ (c.prepare d).Complete ∧
        (c.prepare d).bundleOf (c.namer.lead d.modulePath ++ name) c.runtime = b := by
  have husable := c.usableName?_prepare_of_unnamed d h
  constructor
  · intro hnone
    have husable : (c.prepare d).usableName? = none := by
      rcases hnone with hname | hlead
      · rw [husable, hname]
        simp
      · rw [husable, if_pos hlead]
    have hbundle : c.bundle d = .error (.rule d.modulePath (.unnamed "rule bundle")) := by
      rw [bundle, Rule.bundle, Rule.requireName, husable]
      rfl
    refine ⟨hbundle, fun base definitions hd => (Outcome.exists_eq_error_iff _).2 fun t ht => ?_⟩
    obtain ⟨ds, bundles, hds, hbundles, -⟩ := (c.run_eq_ok_iff base _ t).1 ht
    cases hds
    obtain ⟨b, -, hb⟩ := exists_bundle_of_mem hbundles hd
    rw [hbundle] at hb
    cases hb
  · intro name hname hlead b
    rw [bundle_eq_ok_iff, husable, if_neg hlead, hname]
    simp

def sampleUnnamed (modulePath : String) : Definition :=
  ⟨modulePath, { Rule.empty with name := some " " }⟩

theorem unnamed_sampleUnnamed (modulePath : String) : (sampleUnnamed modulePath).rule.Unnamed := by
  intro name hname
  cases hname
  decide

theorem run_unnamed_sample :
    (∀ modulePath, (sampleUnnamed modulePath).rule.Unnamed) ∧
      (∃ e, sample.run .empty (.ok [sampleUnnamed "lib/login.js"]) = .error e) ∧
      ∃ b, sample.bundle (sampleUnnamed "patrol-rules/login.js") = .ok b := by
  have houtside : sample.namer.lead "lib/login.js" = "" := by rfl
  have hinside : sample.namer.lead "patrol-rules/login.js" ≠ "" := by decide
  have hcomplete : (sample.prepare (sampleUnnamed "patrol-rules/login.js")).Complete :=
    ⟨nofun, nofun, nofun, nofun, nofun⟩
  have hfails := (run_unnamed sample _ (unnamed_sampleUnnamed "lib/login.js")).1 (.inr houtside)
  have hbuilds :=
    (run_unnamed sample _ (unnamed_sampleUnnamed "patrol-rules/login.js")).2 " " rfl hinside
  exact ⟨unnamed_sampleUnnamed, hfails.2 .empty _ (List.mem_singleton_self _),
    _, (hbuilds _).2 ⟨hcomplete, rfl⟩⟩

/-- Behind a package the same rule compiles. -/
theorem unnamed_compiles_in_package :
    (sampleUnnamed "patrol-rules/login.js").rule.Unnamed ∧
      ∃ t, sample.run .empty (.ok [sampleUnnamed "patrol-rules/login.js"]) = .ok t :=
  ⟨unnamed_sampleUnnamed _, Outcome.exists_of_isOk rfl⟩

end Compiler

theorem not_fits_pair {start : Template} {b c : Bundle} {e f : String × Resource}
    (he : e ∈ b.resources) (hf : f ∈ c.resources) (hkey : e.1 = f.1) :
    ¬ Fits start (Bundle.allParts [b, c]) := by
  intro h
  have hresources := (List.nodup_append.1 h.resources).2.1
  rw [Bundle.resources_allParts] at hresources
  simp only [Bundle.allResources, List.flatMap_cons, List.flatMap_nil, List.append_nil,
    List.map_append, List.nodup_append] at hresources
  exact hresources.2.2 e.1 (List.mem_map_of_mem he) f.1 (List.mem_map_of_mem hf) hkey

namespace Compiler

/-- No run succeeds over two definitions that have the same full name. -/
theorem run_of_same_name (c : Compiler) {d d' : Definition} (hne : d ≠ d')
    (hname : (c.prepare d).name = (c.prepare d').name) (base : Template)
    {definitions : List Definition} (hd : d ∈ definitions) (hd' : d' ∈ definitions) :
    ∃ e, c.run base (.ok definitions) = .error e := by
  refine (Outcome.exists_eq_error_iff _).2 fun t ht => ?_
  have hperm : definitions.Perm ([d, d'] ++ (definitions.erase d).erase d') :=
    (List.perm_cons_erase hd).trans
      ((List.perm_cons_erase ((List.mem_erase_of_ne hne.symm).2 hd')).cons d)
  obtain ⟨bs, hbs, hfits⟩ := fits_of_run ht hperm
  simp only [bundles, List.mapM_cons, List.mapM_nil, Outcome.bind_eq_ok_iff, pure, Except.pure,
    Except.ok.injEq] at hbs
  obtain ⟨b, hb, _, ⟨b', hb', _, rfl, rfl⟩, rfl⟩ := hbs
  obtain ⟨name, husable, -, rfl⟩ := (c.bundle_eq_ok_iff d b).1 hb
  obtain ⟨name', husable', -, rfl⟩ := (c.bundle_eq_ok_iff d' b').1 hb'
  have hsame : name = name' := by
    rw [Rule.usableName?, hname] at husable
    exact Option.some.inj (husable.symm.trans husable')
  subst hsame
  exact not_fits_pair (e := (name, (c.prepare d).functionOf name c.runtime))
    (f := (name, (c.prepare d').functionOf name c.runtime))
    List.mem_cons_self List.mem_cons_self rfl hfits

theorem exists_of_bundle {c : Compiler} {d : Definition} {b : Bundle} (h : c.bundle d = .ok b) :
    ∃ name, (c.prepare d).bundleOf (c.namer.lead d.modulePath ++ name) c.runtime = b := by
  obtain ⟨full, husable, -, rfl⟩ := (c.bundle_eq_ok_iff d b).1 h
  rw [Rule.usableName?, name_prepare, Option.filter_eq_some_iff, Option.map_eq_some_iff] at husable
  obtain ⟨⟨name, -, rfl⟩, -⟩ := husable
  exact ⟨name, rfl⟩

/-- Rules of the same short name from two packages have the same full name just if the packages have
the same letters and digits. Then the packages differ in other characters, and no run over both
rules succeeds. Packages whose letters and digits do not start one another, also behind the prefix
of an environment, keep all their rules apart, whatever these are called. -/
theorem packages_apart (c : Compiler) (d d' : Definition) (p q name : String)
    (hp : c.namer.package? d.modulePath = some p) (hq : c.namer.package? d'.modulePath = some q)
    (hne : p ≠ q) (hname : d.rule.name = some name) (hname' : d'.rule.name = some name) :
    (c.namer.namespaced name d.modulePath = c.namer.namespaced name d'.modulePath ↔
      alphanumericOnly p = alphanumericOnly q) ∧
    (alphanumericOnly p = alphanumericOnly q →
      (∃ ch ∈ p.toList ++ q.toList, ch.isAlphanum = false) ∧
      ∀ base definitions, d ∈ definitions → d' ∈ definitions →
        ∃ e, c.run base (.ok definitions) = .error e) ∧
    (Key.Separate (alphanumericOnly p) (alphanumericOnly q) →
      ∀ b b', c.bundle d = .ok b → c.bundle d' = .ok b' → b.Disjoint b') := by
  have hlead := Namer.lead_of_package? hp
  have hlead' := Namer.lead_of_package? hq
  refine ⟨?_, fun hsame => ⟨?_, fun base definitions hd hd' => ?_⟩, fun hseparate b b' hb hb' => ?_⟩
  · rw [Namer.namespaced_eq, Namer.namespaced_eq, hlead, hlead', String.append_left_inj]
  · apply Classical.byContradiction
    intro hall
    simp only [not_exists, not_and, Bool.not_eq_false, List.forall_mem_append] at hall
    rw [alphanumericOnly_eq_self hall.1, alphanumericOnly_eq_self hall.2] at hsame
    exact hne hsame
  · have hdistinct : d ≠ d' := by
      rintro rfl
      exact hne (Option.some.inj (hp.symm.trans hq))
    refine c.run_of_same_name hdistinct ?_ base hd hd'
    rw [name_prepare, name_prepare, hname, hname', hlead, hlead', hsame]
  · obtain ⟨full, rfl⟩ := exists_of_bundle hb
    obtain ⟨full', rfl⟩ := exists_of_bundle hb'
    rw [hlead, hlead']
    exact Rule.disjoint_bundleOf hseparate _ _ _ _ _

/-- Settings with two packages that differ in a hyphen alone, and with a third. -/
def alikeConfig : Config :=
  { Config.standard with packages := ["patrol-rules", "patrolrules", "@acme/audit"], mode := .fixed }

def loginOf (modulePath : String) : Definition :=
  ⟨modulePath, { Rule.empty with name := some "login" }⟩

theorem packages_apart_sample :
    (∀ base, ∃ e, alikeConfig.compiler.run base
      (.ok [loginOf "patrol-rules/login.js", loginOf "patrolrules/login.js"]) = .error e) ∧
    ∀ b b', alikeConfig.compiler.bundle (loginOf "patrol-rules/login.js") = .ok b →
      alikeConfig.compiler.bundle (loginOf "@acme/audit/login.js") = .ok b' → b.Disjoint b' := by
  have hfirst : alikeConfig.compiler.namer.package? "patrol-rules/login.js" =
      some "patrol-rules" := by rfl
  have hsecond : alikeConfig.compiler.namer.package? "patrolrules/login.js" =
      some "patrolrules" := by decide +kernel
  have hthird : alikeConfig.compiler.namer.package? "@acme/audit/login.js" =
      some "@acme/audit" := by decide
  obtain ⟨-, halike, -⟩ := packages_apart alikeConfig.compiler (loginOf "patrol-rules/login.js")
    (loginOf "patrolrules/login.js") _ _ "login" hfirst hsecond (by decide) rfl rfl
  obtain ⟨-, -, hseparate⟩ := packages_apart alikeConfig.compiler (loginOf "patrol-rules/login.js")
    (loginOf "@acme/audit/login.js") _ _ "login" hfirst hthird (by decide) rfl rfl
  exact ⟨fun base => (halike (by decide)).2 base _ (by simp) (by simp), hseparate (by decide)⟩

/-- Settings are valid that list two packages of the same letters and digits. -/
theorem packages_alike :
    alikeConfig.validate = .ok () ∧
      alikeConfig.compiler.namer.package? "patrol-rules/login.js" = some "patrol-rules" ∧
      alikeConfig.compiler.namer.package? "patrolrules/login.js" = some "patrolrules" ∧
      alikeConfig.compiler.namer.namespaced "login" "patrol-rules/login.js" =
        alikeConfig.compiler.namer.namespaced "login" "patrolrules/login.js" := by
  refine ⟨?_, by rfl, by rfl, by rfl⟩
  exact (Outcome.exists_unit_eq_ok_iff _).1 (Outcome.exists_of_isOk rfl)

end Compiler
end RuleStack

namespace RuleStack.Compiler

def names (c : Compiler) (definitions : List Definition) : List String :=
  definitions.filterMap fun d => (c.prepare d).name

def namesWith (c : Compiler) (p : Rule → Bool) (definitions : List Definition) : List String :=
  c.names (definitions.filter fun d => p d.rule)

variable {c : Compiler} {base t : Template} {definitions : List Definition} {bundles : List Bundle}

theorem mem_namesWith_iff (c : Compiler) (p : Rule → Bool) (definitions : List Definition)
    (name : String) :
    name ∈ c.namesWith p definitions ↔
      ∃ d ∈ definitions, p d.rule = true ∧ (c.prepare d).name = some name := by
  simp only [namesWith, names, List.mem_filterMap, List.mem_filter, and_assoc]

theorem name_of_bundle {d : Definition} {b : Bundle} (h : c.bundle d = .ok b) :
    (c.prepare d).name = some b.name := by
  obtain ⟨name, husable, -, rfl⟩ := (c.bundle_eq_ok_iff d b).1 h
  exact (Option.filter_eq_some_iff.1 husable).1

theorem filterMap_of_bundles {α : Type} {f : Bundle → Option α} {g : Definition → Option α}
    (h : c.bundles definitions = .ok bundles) (hfg : ∀ d b, c.bundle d = .ok b → f b = g d) :
    bundles.filterMap f = definitions.filterMap g := by
  have hmap := congrArg (List.filterMap id) (map_of_bundles h hfg)
  simpa only [List.filterMap_map, Function.id_comp] using hmap

theorem names_of_bundles (h : c.bundles definitions = .ok bundles) :
    bundles.map (·.name) = c.names definitions := by
  rw [← List.filterMap_eq_map]
  exact filterMap_of_bundles h fun d b hb => (name_of_bundle hb).symm

theorem names_sublist_of_bundles (h : c.bundles definitions = .ok bundles) :
    (bundles.map (·.name)).Sublist ((Bundle.allResources bundles).map (·.1)) := by
  have hown : ∀ b ∈ bundles, [b.name].Sublist (b.resources.map (·.1)) := by
    intro b hb
    obtain ⟨d, -, hbundle⟩ := exists_definition_of_mem h hb
    obtain ⟨name, -, -, rfl⟩ := (c.bundle_eq_ok_iff d b).1 hbundle
    exact List.singleton_sublist.2 List.mem_cons_self
  clear h
  induction bundles with
  | nil => exact .slnil
  | cons b rest ih =>
    rw [List.forall_mem_cons] at hown
    simp only [Bundle.allResources, List.flatMap_cons, List.map_append]
    exact hown.1.append (ih hown.2)

theorem nodup_names (h : c.run base (.ok definitions) = .ok t) : (c.names definitions).Nodup := by
  have hperm : definitions.Perm (definitions ++ []) := by rw [List.append_nil]
  obtain ⟨bundles, hbundles, hfits⟩ := fits_of_run h hperm
  have hkeys := (List.nodup_append.1 hfits.resources).2.1
  rw [Bundle.resources_allParts] at hkeys
  rw [← names_of_bundles hbundles]
  exact (names_sublist_of_bundles hbundles).nodup hkeys

theorem nodup_namesWith (h : c.run base (.ok definitions) = .ok t) (p : Rule → Bool) :
    (c.namesWith p definitions).Nodup :=
  (List.filter_sublist.filterMap _).nodup (nodup_names h)

end RuleStack.Compiler
