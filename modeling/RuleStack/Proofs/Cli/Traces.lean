import RuleStack.Proofs.Cli.Check
import RuleStack.Proofs.Files.Directories
/-!
A compile writes after all else went well, and no other command writes. So a run that fails before
the writing leaves no trace, and a compile that goes well changes one file and the directories that
it makes for it, or prints (`Cli.run_traces`).
-/
set_option autoImplicit false

namespace RuleStack

inductive Stage where
  | settings
  | reading
  | building
  | comparing
  | rendering
  | writing
  deriving DecidableEq, Repr

def CommandError.stage : CommandError → Stage
  | .config _ => .settings
  | .unreadableTemplate _ _ | .unparsableTemplate _ _ | .invalidTemplate _ _ | .definition _
  | .notSingle _ => .reading
  | .unknownKind _ | .compile _ | .fragment _ _ => .building
  | .outOfDate _ => .comparing
  | .tooDeep _ => .rendering
  | .noDirectory _ _ | .unwritten _ _ => .writing

/-- A failure of these steps is none of the writing. -/
def Early {α : Type} (x : Except CommandError α) : Prop :=
  ∀ e, x = .error e → e.stage ≠ .writing

namespace Early

variable {ε α β : Type}

theorem ok (a : α) : Early (.ok a) := fun _ h => nomatch h

theorem mapError {f : ε → CommandError} (x : Except ε α) (hf : ∀ e, (f e).stage ≠ .writing) :
    Early (x.mapError f) := by
  intro e h
  cases x with
  | ok a => cases h
  | error cause =>
    cases h
    exact hf cause

theorem bind {x : Except CommandError α} {f : α → Except CommandError β} (hx : Early x)
    (hf : ∀ a, Early (f a)) : Early (x >>= f) := by
  intro e h
  cases x with
  | ok a => exact hf a e h
  | error e' =>
    cases h
    exact hx e rfl

end Early

namespace Command

theorem early_loadConfig (fs : FileSystem) (given environment : Option String) :
    Early (loadConfig fs given environment) := .mapError _ nofun

theorem early_readTemplateJson (fs : FileSystem) (path : String) :
    Early (readTemplateJson fs path) :=
  .bind (.mapError _ nofun) fun _ => .mapError _ nofun

theorem early_readTemplate (fs : FileSystem) (path : String) : Early (readTemplate fs path) :=
  .bind (early_readTemplateJson fs path) fun _ => .mapError _ nofun

theorem early_compileTemplate (fs : FileSystem) (c : Config) (inputs : CompileInputs) :
    Early (compileTemplate fs c inputs) := by
  have hbase : Early (readBase fs inputs.base) := by
    cases inputs.base with
    | none => exact .ok _
    | some path => exact early_readTemplate fs path
  exact .bind hbase fun _ => .mapError _ nofun

theorem early_render (v : Json) : Early (render v) := .mapError _ nofun

theorem early_compileText (fs : FileSystem) (environment : Option String)
    (inputs : CompileInputs) (out : Option String) :
    Early (compileText fs environment inputs out) :=
  .bind (early_loadConfig fs _ _) fun c => .bind (early_compileTemplate fs c inputs) fun _ =>
    .bind (early_render _) fun _ => .ok _

theorem early_checkText (fs : FileSystem) (environment : Option String) (inputs : CompileInputs)
    (path : String) : Early (checkText fs environment inputs path) := by
  refine .bind (early_loadConfig fs _ _) fun c => .bind (early_compileTemplate fs c inputs)
    fun template => .bind (early_readTemplateJson fs path) fun found => ?_
  split
  · exact .ok _
  · exact nofun

theorem early_handlersText (fs : FileSystem) (path : String) : Early (handlersText fs path) :=
  .bind (early_readTemplate fs path) fun _ => early_render _

theorem early_single (definitions : List Definition) : Early (single definitions) := by
  unfold single
  split
  · exact .ok _
  · exact nofun

theorem early_fragmentText (fs : FileSystem) (environment config : Option String)
    (rule label : String) : Early (fragmentText fs environment config rule label) :=
  .bind (.mapError _ nofun) fun _ => .bind (early_loadConfig fs _ _) fun _ =>
    .bind (.mapError _ nofun) fun ds => .bind (early_single ds) fun _ =>
      .bind (.mapError _ nofun) fun _ => early_render _

theorem early_validationText (fs : FileSystem) (environment config : Option String) :
    Early (validationText fs environment config) := .bind (.mapError _ nofun) fun _ => .ok _

theorem grown_of_makeParent (fs : FileSystem) (path : String) :
    fs.Grown (makeParent fs path).1 (Path.above path) := by
  unfold makeParent
  split
  · exact .refl fs _
  · rename_i parent hparent
    have hsub := FileSystem.chain_subset (Option.filter_eq_some_iff.1 hparent).1
    have hgrown := (FileSystem.grown_of_makeDirectories (FileSystem.chain parent) fs).mono hsub
    split
    · rename_i after hmake
      rwa [hmake] at hgrown
    · rename_i after e hmake
      rwa [hmake] at hgrown

theorem stage_of_makeParent {fs after : FileSystem} {path : String} {e : CommandError}
    (h : makeParent fs path = (after, .error e)) : e.stage = .writing := by
  unfold makeParent at h
  split at h
  · cases h
  · split at h
    · cases h
    · cases h
      rfl

theorem writeFile_traces {fs after : FileSystem} {path text : String}
    {result : Except CommandError Unit} (h : writeFile fs path text = (after, result)) :
    (result = .ok () ∧ fs.Written after path text.toUTF8) ∨
      ∃ e, result = .error e ∧ e.stage = .writing ∧ fs.Grown after (Path.above path) := by
  have hgrown := grown_of_makeParent fs path
  unfold writeFile at h
  split at h
  · rename_i mid e hmake
    rw [hmake] at hgrown
    cases h
    exact .inr ⟨e, rfl, stage_of_makeParent hmake, hgrown⟩
  · rename_i mid hmake
    rw [hmake] at hgrown
    split at h
    · rename_i files hwrite
      cases h
      exact .inl ⟨rfl, FileSystem.written_of_write hgrown hwrite⟩
    · rename_i e hwrite
      cases h
      exact .inr ⟨.unwritten path e, rfl, rfl, hgrown⟩

structure Traces (fs : FileSystem) (environment : Option String) (command : Command)
    (done : Outcome) : Prop where
  /-- Failing prints nothing. -/
  quiet : done.code ≠ 0 → done.printed = ""
  /-- Failing before the writing changes nothing. -/
  failed : ∀ e, (command.perform fs environment).2 = .error e → e.stage ≠ .writing →
    done = ⟨1, "", e.message ++ "\n", fs⟩
  /-- Only a compile that has its text fails at the writing, and then it may have made
  directories. -/
  unwritten : ∀ e, (command.perform fs environment).2 = .error e → e.stage = .writing →
    ∃ inputs out text path, command = .compile inputs out ∧
      compileText fs environment inputs out = .ok (text, some path) ∧
      fs.Grown done.files (Path.above path)
  /-- Only a compile changes something. -/
  others : (∀ inputs out, command ≠ .compile inputs out) → done.files = fs
  /-- A compile that goes well writes the text of its template to a file, or prints it. -/
  compiled : ∀ inputs out, command = .compile inputs out → done.code = 0 →
    ∃ c template text, loadConfig fs inputs.config environment = .ok c ∧
      compileTemplate fs c inputs = .ok template ∧ template.toJson.render = .ok text ∧
      match out.or c.output? with
      | some path => done.printed = "" ∧ fs.Written done.files path text.toUTF8
      | none => done.printed = text ∧ done.files = fs

section Traces

variable {fs after : FileSystem} {environment : Option String} {command : Command}

theorem traces_of_failure {e : CommandError} (hstage : e.stage ≠ .writing)
    (h : command.perform fs environment = (fs, .error e)) :
    command.Traces fs environment (command.run fs environment) := by
  rw [run_eq_of_error h]
  refine ⟨fun _ => rfl, fun e' he _ => ?_, fun e' he hwriting => ?_, fun _ => rfl, nofun⟩
  · rw [h] at he
    cases he
    rfl
  · rw [h] at he
    cases he
    exact absurd hwriting hstage

theorem traces_of_unwritten {inputs : CompileInputs} {out : Option String} {text path : String}
    {e : CommandError} (hstage : e.stage = .writing)
    (htext : compileText fs environment inputs out = .ok (text, some path))
    (hgrown : fs.Grown after (Path.above path))
    (h : (Command.compile inputs out).perform fs environment = (after, .error e)) :
    (Command.compile inputs out).Traces fs environment
      ((Command.compile inputs out).run fs environment) := by
  rw [run_eq_of_error h]
  refine ⟨fun _ => rfl, fun e' he hwriting => ?_, fun _ _ _ => ?_, fun hothers => ?_, nofun⟩
  · rw [h] at he
    cases he
    exact absurd hstage hwriting
  · exact ⟨inputs, out, text, path, rfl, htext, hgrown⟩
  · exact absurd rfl (hothers inputs out)

theorem traces_of_success {printed : String}
    (h : command.perform fs environment = (after, .ok printed))
    (hothers : (∀ inputs out, command ≠ .compile inputs out) → after = fs)
    (hcompiled : ∀ inputs out, command = .compile inputs out →
      ∃ c template text, loadConfig fs inputs.config environment = .ok c ∧
        compileTemplate fs c inputs = .ok template ∧ template.toJson.render = .ok text ∧
        match out.or c.output? with
        | some path => printed = "" ∧ fs.Written after path text.toUTF8
        | none => printed = text ∧ after = fs) :
    command.Traces fs environment (command.run fs environment) := by
  have hnone : ∀ e, (command.perform fs environment).2 ≠ .error e := by
    intro e he
    rw [h] at he
    cases he
  rw [run_eq_of_ok h]
  exact ⟨fun hcode => absurd rfl hcode, fun e he => absurd he (hnone e),
    fun e he => absurd he (hnone e), hothers, fun inputs out hcompile _ =>
      hcompiled inputs out hcompile⟩

theorem traces_of_reading {result : Except CommandError String} (hearly : Early result)
    (hothers : ∀ inputs out, command ≠ .compile inputs out)
    (h : command.perform fs environment = (fs, result)) :
    command.Traces fs environment (command.run fs environment) := by
  cases result with
  | ok printed =>
    exact traces_of_success h (fun _ => rfl) fun inputs out hcompile =>
      absurd hcompile (hothers inputs out)
  | error e => exact traces_of_failure (hearly e rfl) h

theorem traces_of_compile (fs : FileSystem) (environment : Option String) (inputs : CompileInputs)
    (out : Option String) :
    (Command.compile inputs out).Traces fs environment
      ((Command.compile inputs out).run fs environment) := by
  cases htext : compileText fs environment inputs out with
  | error e =>
    have hperform : (Command.compile inputs out).perform fs environment = (fs, .error e) := by
      simp only [perform, htext]
    exact traces_of_failure (early_compileText fs environment inputs out e htext) hperform
  | ok result =>
    obtain ⟨text, target⟩ := result
    have hperform := perform_compile htext
    obtain ⟨c, template, hload, hcompile, hrender, rfl⟩ := (compileText_eq_ok_iff ..).1 htext
    cases htarget : out.or c.output? with
    | none =>
      rw [htarget] at hperform
      refine traces_of_success hperform (fun _ => rfl) fun inputs' out' hsame => ?_
      cases hsame
      refine ⟨c, template, text, hload, hcompile, hrender, ?_⟩
      rw [htarget]
      exact ⟨rfl, rfl⟩
    | some path =>
      rw [htarget] at hperform htext
      cases hwrite : writeFile fs path text with
      | mk after result =>
        rw [deliver, hwrite] at hperform
        rcases writeFile_traces hwrite with ⟨rfl, hwritten⟩ | ⟨e, rfl, hstage, hgrown⟩
        · refine traces_of_success hperform (fun hothers => absurd rfl (hothers inputs out))
            fun inputs' out' hsame => ?_
          cases hsame
          refine ⟨c, template, text, hload, hcompile, hrender, ?_⟩
          rw [htarget]
          exact ⟨rfl, hwritten⟩
        · exact traces_of_unwritten hstage htext hgrown hperform

end Traces

theorem run_traces (fs : FileSystem) (environment : Option String) (command : Command) :
    command.Traces fs environment (command.run fs environment) := by
  cases command with
  | compile inputs out => exact traces_of_compile fs environment inputs out
  | check inputs path =>
    exact traces_of_reading (early_checkText fs environment inputs path) nofun rfl
  | handlers path => exact traces_of_reading (early_handlersText fs path) nofun rfl
  | fragment config rule kind =>
    exact traces_of_reading (early_fragmentText fs environment config rule kind) nofun rfl
  | validateConfig config =>
    exact traces_of_reading (early_validationText fs environment config) nofun rfl
  | exampleConfig => exact traces_of_reading (.ok Config.exampleText) nofun rfl

end Command

/-- Whatever the command line and the files: a run that fails prints nothing, and changes nothing
unless it fails at the writing of a compile. No other command changes anything, and a compile that
goes well changes its output file and the directories that were missing above it, or prints. -/
theorem Cli.run_leaves (fs : FileSystem) (environment : Option String) (args : List String) :
    match Arguments.read args with
    | .ok command => command.Traces fs environment (Cli.run fs environment args)
    | .error _ => (Cli.run fs environment args).files = fs ∧
        ((Cli.run fs environment args).code ≠ 0 → (Cli.run fs environment args).printed = "") := by
  rw [Cli.run]
  cases Arguments.read args with
  | ok command => exact command.run_traces fs environment
  | error stop =>
    cases stop with
    | usage => exact ⟨rfl, fun _ => rfl⟩
    | help => exact ⟨rfl, fun hcode => absurd rfl hcode⟩
    | version => exact ⟨rfl, fun hcode => absurd rfl hcode⟩

namespace Command.Sample

def nestedLine : List String :=
  ["compile", "--base", "base.json", "--revision-token", "a1", "--out", "dist/out.json"]

theorem read_nestedLine :
    Arguments.read nestedLine = .ok (.compile inputs (some "dist/out.json")) := rfl

def nestedWith (text : String) : FileSystem :=
  (files.set ["home", "dist"] .directory).set ["home", "dist", "out.json"]
    (.file (.ofBytes text.toUTF8))

theorem run_nestedLine : Cli.run files none nestedLine = ⟨0, "", "", nestedWith text⟩ := by
  have htext : compileText files none inputs (some "dist/out.json") =
      .ok (text, some "dist/out.json") :=
    (compileText_into_eq_ok_iff ..).2 ⟨rfl, template, compiled_files, render_template⟩
  have hparent : parentDirectory? "dist/out.json" = some "dist" := by decide +kernel
  have hchain : FileSystem.chain "dist" = ["dist"] := by decide +kernel
  have hwrite : writeFile files "dist/out.json" text = (nestedWith text, .ok ()) := by
    unfold writeFile makeParent
    rw [hparent]
    simp only [hchain]
    rfl
  rw [Cli.run, read_nestedLine]
  exact run_eq_of_ok ((perform_compile htext).trans (deliver_of_writeFile hwrite))

end Command.Sample

theorem Cli.run_leaves_sample :
    (Cli.run Command.Sample.files none Command.Sample.nestedLine).printed = "" ∧
      Command.Sample.files.Written (Command.Sample.nestedWith Command.Sample.text) "dist/out.json"
        Command.Sample.text.toUTF8 := by
  have hleaves := Cli.run_leaves Command.Sample.files none Command.Sample.nestedLine
  rw [Command.Sample.read_nestedLine, Command.Sample.run_nestedLine] at hleaves
  obtain ⟨c, template, text, hload, hcompile, hrender, hprinted, hwritten⟩ :=
    hleaves.compiled Command.Sample.inputs (some "dist/out.json") rfl rfl
  have hcompiled : Command.compiled Command.Sample.files none Command.Sample.inputs =
      .ok template := by
    unfold Command.compiled
    rw [hload]
    exact hcompile
  obtain rfl := Except.ok.inj (Command.Sample.compiled_files.symm.trans hcompiled)
  obtain rfl := Except.ok.inj (Command.Sample.render_template.symm.trans hrender)
  rw [Command.Sample.run_nestedLine]
  exact ⟨rfl, hwritten⟩

end RuleStack
