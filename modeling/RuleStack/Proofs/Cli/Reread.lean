import RuleStack.Proofs.Cli.Check
import RuleStack.Proofs.Compiler.Run
import RuleStack.Proofs.Stack.RoundTrip
/-!
Rules and base templates that are read from files are tidy, and so is what they compile to. So what
a compile wrote is a template again (`Command.template_roundTrip`).
-/
set_option autoImplicit false

namespace RuleStack

namespace Compiler

variable {c : Compiler} {base t : Template}
  {source : Except DefinitionError (List Definition)}

theorem tidy_prepare {d : Definition} (h : d.rule.Tidy) : (c.prepare d).Tidy :=
  ⟨h.parameters, h.statements, h.event, h.gateway⟩

theorem tidy_run (hbase : base.Tidy)
    (hrules : ∀ definitions, source = .ok definitions → ∀ d ∈ definitions, d.rule.Tidy)
    (h : c.run base source = .ok t) : t.Tidy := by
  obtain ⟨definitions, bundles, hsource, hbundles, hcompile⟩ := (c.run_eq_ok_iff ..).1 h
  refine StackOptions.tidy_compile hbase (fun b hb => ?_) (apart_of_bundles hbundles) hcompile
  obtain ⟨d, hd, hbundle⟩ := exists_definition_of_mem hbundles hb
  have hbuilt := (Outcome.mapError_eq_ok_iff _ _ _).1 hbundle
  exact Rule.tidy_bundle (tidy_prepare (hrules definitions hsource d hd)) hbuilt

/-- Over a template that was printed and came back, a run has the same error or the same print. -/
theorem run_render_of_comesBackAs {back : Template} (h : t.ComesBackAs back) (c : Compiler)
    (source : Except DefinitionError (List Definition)) :
    (c.run back source).map (·.toJson.render) = (c.run t source).map (·.toJson.render) := by
  rw [run, run]
  refine Outcome.map_bind_congr_right _ fun definitions => ?_
  rw [compile, compile]
  refine Outcome.map_bind_congr_right _ fun bundles => ?_
  rw [Outcome.map_mapError, Outcome.map_mapError, h.compile]

end Compiler

namespace Handler

theorem depth_toJson (h : Handler) : h.toJson.depth = 1 := by
  obtain ⟨name, entryPoint, sourcePath⟩ := h
  cases entryPoint <;> rfl

theorem exists_render_list (handlers : List Handler) :
    ∃ text, (listToJson handlers).render = .ok text := by
  refine Json.exists_render_of_depth_le (Nat.le_trans ?_ (by decide : 2 ≤ Json.maxDepth))
  rw [listToJson, Json.depth, Nat.add_le_add_iff_right, Json.depthItems_le_iff, List.forall_mem_map]
  exact fun h _ => Nat.le_of_eq h.depth_toJson

end Handler

namespace Command

variable {fs : FileSystem} {environment : Option String} {inputs : CompileInputs} {t : Template}

theorem tidy_of_readTemplate {path : String} (h : readTemplate fs path = .ok t) : t.Tidy := by
  obtain ⟨value, hvalue, hread⟩ := (Outcome.bind_eq_ok_iff _ _ _).1 h
  obtain ⟨bytes, -, hparse⟩ := (Outcome.bind_eq_ok_iff _ _ _).1 hvalue
  rw [Outcome.mapError_eq_ok_iff] at hread hparse
  exact Template.tidy_of_ofJson (Json.normal_of_parseBytes hparse) hread

theorem tidy_of_readBase {path : Option String} (h : readBase fs path = .ok t) : t.Tidy := by
  cases path with
  | none =>
    cases h
    exact Template.tidy_empty
  | some path => exact tidy_of_readTemplate h

theorem tidy_compiled (h : compiled fs environment inputs = .ok t) : t.Tidy := by
  obtain ⟨c, -, hcompile⟩ := (Outcome.bind_eq_ok_iff _ _ _).1 h
  obtain ⟨base, hbase, hrun⟩ := (Outcome.bind_eq_ok_iff _ _ _).1 hcompile
  refine Compiler.tidy_run (tidy_of_readBase hbase) (fun definitions hread d hd => ?_)
    ((Outcome.mapError_eq_ok_iff _ _ _).1 hrun)
  exact (Rule.decoded_iff_tidy d.rule).1 (RuleFile.decoded_of_readAll hread d hd)

/-- A file that a compile wrote is a template again: the compiled one with settled numbers. It lists
the handlers of the compiled template, and over it every run has the same error or the same print as
over the compiled template. -/
theorem reread_after_compile (path : String) (done : Outcome)
    (hdone : (Command.compile inputs (some path)).run fs environment = done)
    (hcode : done.code = 0)
    (hsize : ∀ bytes, done.files.read path = .ok bytes → bytes.size ≤ maxTemplateBytes) :
    ∃ template listed, compiled fs environment inputs = .ok template ∧
      readTemplate done.files path = .ok template.settle ∧
      template.ComesBackAs template.settle ∧
      (Handler.listToJson template.handlers).render = .ok listed ∧
      (∀ given, (Command.handlers path).run done.files given = ⟨0, listed, "", done.files⟩) ∧
      ∀ (c : Compiler) (source : Except DefinitionError (List Definition)),
        (c.run template.settle source).map (·.toJson.render) =
          (c.run template source).map (·.toJson.render) := by
  obtain ⟨printed, hperform⟩ := perform_of_code_zero hdone hcode
  obtain ⟨template, text, before, hcompiled, hrender, hwrite⟩ := write_of_compile hperform
  obtain ⟨listed, hlisted⟩ := Handler.exists_render_list template.handlers
  have hback := Template.comesBackAs_settle (tidy_compiled hcompiled)
  have hfound := readTemplateJson_of_write hwrite (hsize _ (FileSystem.read_of_write hwrite))
    (Json.parse_of_render hrender)
  have hreread : readTemplate done.files path = .ok template.settle :=
    (Outcome.bind_eq_ok_iff _ _ _).2 ⟨_, hfound,
      (Outcome.mapError_eq_ok_iff _ _ _).2 (Template.ofJson_printed (tidy_compiled hcompiled))⟩
  refine ⟨template, listed, hcompiled, hreread, hback, hlisted, fun given => ?_,
    Compiler.run_render_of_comesBackAs hback⟩
  have hhandlers : handlersText done.files path = .ok listed := by
    refine (Outcome.bind_eq_ok_iff _ _ _).2 ⟨_, hreread, (Outcome.mapError_eq_ok_iff _ _ _).2 ?_⟩
    rw [hback.handlers]
    exact hlisted
  exact run_eq_of_ok (congrArg (Prod.mk done.files) hhandlers)

/-- A template that was read is read back from what it is written as, and so is one that is compiled
over it. A compiled template comes back from its printed text, and from a file that a compile wrote,
as the same template just if no double in it reads as an integer. -/
theorem template_roundTrip {v : Json} (hv : v.Normal) {base : Template}
    (hbase : Template.ofJson v = .ok base) :
    (Template.ofJson base.toJson.normalize = .ok base ∧
      ∀ (o : StackOptions) (runtime : String) (rules : List Rule) (bundles : List Bundle)
        (t : Template), (∀ r ∈ rules, Json.Decoded Rule.ofJson r) →
        rules.mapM (·.bundle runtime) = .ok bundles → o.compile base bundles = .ok t →
        Template.ofJson t.toJson.normalize = .ok t ∧
          ∀ text, t.toJson.render = .ok text → ∃ w, Json.parse text = .ok w ∧
            Template.ofJson w = .ok t.settle ∧ t.ComesBackAs t.settle) ∧
    ∀ (fs : FileSystem) (environment : Option String) (inputs : CompileInputs) (path : String)
      (done : Outcome), (Command.compile inputs (some path)).run fs environment = done →
      done.code = 0 →
      (∀ bytes, done.files.read path = .ok bytes → bytes.size ≤ maxTemplateBytes) →
      ∃ t listed, compiled fs environment inputs = .ok t ∧
        readTemplate done.files path = .ok t.settle ∧ t.ComesBackAs t.settle ∧
        (Handler.listToJson t.handlers).render = .ok listed ∧
        (∀ given, (Command.handlers path).run done.files given = ⟨0, listed, "", done.files⟩) ∧
        ∀ (c : Compiler) (source : Except DefinitionError (List Definition)),
          (c.run t.settle source).map (·.toJson.render) = (c.run t source).map (·.toJson.render) :=
  ⟨StackOptions.compile_roundTrip hv hbase, fun _ _ _ path done => reread_after_compile path done⟩

theorem template_roundTrip_sample :
    StackOptions.Kept.value.Normal ∧
      Template.ofJson StackOptions.Kept.value = .ok StackOptions.Kept.base ∧
    (∃ t text w, StackOptions.sample.compile StackOptions.Kept.base StackOptions.Kept.bundles =
        .ok t ∧ Template.ofJson t.toJson.normalize = .ok t ∧ t.toJson.render = .ok text ∧
        Json.parse text = .ok w ∧ Template.ofJson w = .ok t.settle) ∧
    compiled Sample.files none Sample.inputs = .ok Sample.template ∧
      readTemplate (Sample.filesWith Sample.text) "out.json" = .ok Sample.template.settle ∧
      Sample.template.settle ≠ Sample.template := by
  obtain ⟨⟨-, hcompiled⟩, hwritten⟩ :=
    template_roundTrip StackOptions.Kept.normal_value StackOptions.Kept.ofJson_value
  refine ⟨StackOptions.Kept.normal_value, StackOptions.Kept.ofJson_value, ?_,
    Sample.compiled_files, ?_⟩
  · obtain ⟨t, ht, hdepth⟩ : ∃ t,
        StackOptions.sample.compile StackOptions.Kept.base StackOptions.Kept.bundles = .ok t ∧
          t.toJson.depth ≤ Json.maxDepth := Outcome.exists_ok_of_decide (by decide +kernel)
    obtain ⟨text, htext⟩ := Json.exists_render_of_depth_le hdepth
    obtain ⟨hsame, hprinted⟩ := hcompiled _ defaultRuntime _ _ t StackOptions.Kept.decoded_rules
      StackOptions.Kept.bundles_eq ht
    obtain ⟨w, hparse, hw, -⟩ := hprinted text htext
    exact ⟨t, text, w, ht, hsame, htext, hparse, hw⟩
  · obtain ⟨t, -, hcompiled, hreread, hback, -⟩ := hwritten Sample.files none Sample.inputs
      "out.json" _ Sample.run_compile rfl Sample.size_written
    rw [Sample.compiled_files, Except.ok.injEq] at hcompiled
    subst hcompiled
    refine ⟨hreread, fun hsame => ?_⟩
    exact hback.eq_iff.1 hsame (.float (.zero false)) (by decide) ⟨0, rfl, by decide⟩

namespace Zone

def one : Number := .float ⟨false, 0x3FF0000000000000, by decide⟩

def mapping : Json := .obj [("Zone", .obj [("a", .obj [("b", .num one)])])]

def value : Json := .obj [("Mappings", mapping)]

def base : Template := { Template.empty with extra := .ofList [("Mappings", mapping)] }

theorem normal_value : value.Normal := by decide

theorem ofJson_value : Template.ofJson value = .ok base := rfl

theorem readsAsInteger_one : one.ReadsAsInteger := ⟨1, by decide +kernel, by decide⟩

end Zone

/-- Over a base template that holds the double 1, what is printed is read back as another template
than the compiled one. -/
theorem compiled_one_not_read_back :
    Template.ofJson Zone.value = .ok Zone.base ∧
      ∃ t text w, StackOptions.sample.compile Zone.base [] = .ok t ∧
        t.toJson.render = .ok text ∧ Json.parse text = .ok w ∧ Template.ofJson w ≠ .ok t := by
  obtain ⟨t, ht, hdepth, hone⟩ : ∃ t, StackOptions.sample.compile Zone.base [] = .ok t ∧
      t.toJson.depth ≤ Json.maxDepth ∧ Zone.one ∈ t.toJson.numbers :=
    Outcome.exists_ok_of_decide rfl
  obtain ⟨text, htext⟩ := Json.exists_render_of_depth_le hdepth
  obtain ⟨-, hcompiled⟩ := StackOptions.compile_roundTrip Zone.normal_value Zone.ofJson_value
  obtain ⟨-, hprinted⟩ := hcompiled _ defaultRuntime [] [] t (List.forall_mem_nil _) rfl ht
  obtain ⟨w, hparse, hw, hback⟩ := hprinted text htext
  refine ⟨Zone.ofJson_value, t, text, w, ht, htext, hparse, fun hsame => ?_⟩
  have heq : t.settle = t := Except.ok.inj (hw.symm.trans hsame)
  exact hback.eq_iff.1 heq Zone.one hone Zone.readsAsInteger_one

end Command
end RuleStack
