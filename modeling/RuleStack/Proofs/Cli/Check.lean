import RuleStack.Cli.Run
import RuleStack.Proofs.Definition.Read
import RuleStack.Proofs.Json.Printed
/-!
A check compares a template in normal form with the same form read back from a file, so it finds
them different exactly where a double was written like an integer of one word
(`check_after_compile`).
-/
set_option autoImplicit false

namespace RuleStack.Command

/-- The files that a compile reads: settings, rules and base. -/
def sourcePaths (fs : FileSystem) (environment : Option String) (inputs : CompileInputs) :
    List String :=
  configPaths inputs.config environment ++ inputs.base.toList ++
    match loadConfig fs inputs.config environment with
    | .ok c => (ruleFiles c inputs.rules).map (·.path)
    | .error _ => []

def compiled (fs : FileSystem) (environment : Option String) (inputs : CompileInputs) :
    Except CommandError Template := do
  let c ← loadConfig fs inputs.config environment
  compileTemplate fs c inputs

section Agree

variable {fs other : FileSystem}

theorem loadFrom_congr {path : String} (h : other.nodeAt path = fs.nodeAt path) :
    Config.loadFrom other path = Config.loadFrom fs path := by
  unfold Config.loadFrom
  rw [FileSystem.read_congr h]

theorem loadConfig_congr {given environment : Option String}
    (h : ∀ path ∈ configPaths given environment, other.nodeAt path = fs.nodeAt path) :
    loadConfig other given environment = loadConfig fs given environment := by
  unfold loadConfig Config.loadOrStandard
  cases hpath : Config.choosePath given environment with
  | error e => rfl
  | ok path =>
    have hnode := h path (by simp [configPaths, hpath])
    simp only [bind, Except.bind, FileSystem.doesExist_congr hnode, loadFrom_congr hnode]

theorem readTemplateJson_congr {path : String} (h : other.nodeAt path = fs.nodeAt path) :
    readTemplateJson other path = readTemplateJson fs path := by
  unfold readTemplateJson
  rw [FileSystem.readBounded_congr h]

theorem readBase_congr {base : Option String}
    (h : ∀ path ∈ base.toList, other.nodeAt path = fs.nodeAt path) :
    readBase other base = readBase fs base := by
  cases base with
  | none => rfl
  | some path =>
    have hnode := h path (by simp)
    simp only [readBase, readTemplate, readTemplateJson_congr hnode]

theorem readFile_congr {f : RuleFile} (h : other.nodeAt f.path = fs.nodeAt f.path) :
    f.read other = f.read fs :=
  RuleFile.read_congr rfl (FileSystem.readBounded_congr h _)

theorem readAll_congr {files : List RuleFile}
    (h : ∀ f ∈ files, other.nodeAt f.path = fs.nodeAt f.path) :
    RuleFile.readAll other files = RuleFile.readAll fs files :=
  RuleFile.readAll_congr rfl
    (List.map_congr_left fun f hf => FileSystem.readBounded_congr (h f hf) _)

theorem compiled_congr {environment : Option String} {inputs : CompileInputs}
    (h : ∀ path ∈ sourcePaths fs environment inputs, other.nodeAt path = fs.nodeAt path) :
    compiled other environment inputs = compiled fs environment inputs := by
  unfold sourcePaths at h
  have hconfig : loadConfig other inputs.config environment =
      loadConfig fs inputs.config environment :=
    loadConfig_congr fun path hpath =>
      h path (List.mem_append_left _ (List.mem_append_left _ hpath))
  unfold compiled
  rw [hconfig]
  cases hload : loadConfig fs inputs.config environment with
  | error e => rfl
  | ok c =>
    have hbase : readBase other inputs.base = readBase fs inputs.base :=
      readBase_congr fun path hpath =>
        h path (List.mem_append_left _ (List.mem_append_right _ hpath))
    have hrules : RuleFile.readAll other (ruleFiles c inputs.rules) =
        RuleFile.readAll fs (ruleFiles c inputs.rules) := by
      apply readAll_congr
      intro f hf
      apply h
      rw [hload]
      exact List.mem_append_right _ (List.mem_map_of_mem hf)
    simp only [bind, Except.bind, compileTemplate, hbase, hrules]

end Agree

theorem compileText_eq_ok_iff (fs : FileSystem) (environment : Option String)
    (inputs : CompileInputs) (out target : Option String) (text : String) :
    compileText fs environment inputs out = .ok (text, target) ↔
      ∃ c template, loadConfig fs inputs.config environment = .ok c ∧
        compileTemplate fs c inputs = .ok template ∧ template.toJson.render = .ok text ∧
        out.or c.output? = target := by
  simp only [compileText, render, Outcome.bind_eq_ok_iff, Outcome.mapError_eq_ok_iff,
    Except.ok.injEq, Prod.mk.injEq]
  constructor
  · rintro ⟨c, hload, template, hcompile, _, hrender, rfl, htarget⟩
    exact ⟨c, template, hload, hcompile, hrender, htarget⟩
  · rintro ⟨c, template, hload, hcompile, hrender, htarget⟩
    exact ⟨c, hload, template, hcompile, _, hrender, rfl, htarget⟩

theorem compileText_into_eq_ok_iff (fs : FileSystem) (environment : Option String)
    (inputs : CompileInputs) (path text : String) (target : Option String) :
    compileText fs environment inputs (some path) = .ok (text, target) ↔
      target = some path ∧ ∃ template, compiled fs environment inputs = .ok template ∧
        template.toJson.render = .ok text := by
  simp only [compileText_eq_ok_iff, compiled, Outcome.bind_eq_ok_iff, Option.some_or]
  constructor
  · rintro ⟨c, template, hload, hcompile, hrender, rfl⟩
    exact ⟨rfl, template, ⟨c, hload, hcompile⟩, hrender⟩
  · rintro ⟨rfl, template, ⟨c, hload, hcompile⟩, hrender⟩
    exact ⟨c, template, hload, hcompile, hrender, rfl⟩

theorem writeFile_eq_ok {fs after : FileSystem} {path text : String}
    (h : writeFile fs path text = (after, .ok ())) :
    ∃ before : FileSystem, before.write path text.toUTF8 = .ok after := by
  unfold writeFile at h
  split at h
  · cases h
  · rename_i before _
    split at h
    · rename_i hwrite
      cases h
      exact ⟨before, hwrite⟩
    · cases h

theorem parseBytes_toUTF8 (text : String) : Json.parseBytes text.toUTF8 = Json.parse text := by
  have htext : String.fromUTF8? text.toUTF8 = some text := dif_pos text.isValidUTF8
  rw [Json.parseBytes, htext]

theorem readTemplateJson_of_write {fs after : FileSystem} {path text : String} {v : Json}
    (h : fs.write path text.toUTF8 = .ok after) (hsize : text.utf8ByteSize ≤ maxTemplateBytes)
    (hparse : Json.parse text = .ok v) : readTemplateJson after path = .ok v := by
  have hread := FileSystem.readBounded_of_write h hsize (by decide)
  unfold readTemplateJson
  rw [hread]
  simp only [bind, Except.bind, Outcome.mapError_ok, parseBytes_toUTF8, hparse]

theorem checkText_of_read {fs : FileSystem} {environment : Option String} {inputs : CompileInputs}
    {path : String} {template : Template} {found : Json}
    (hcompiled : compiled fs environment inputs = .ok template)
    (hfound : readTemplateJson fs path = .ok found) :
    checkText fs environment inputs path =
      if found.same template.toJson.normalize then .ok ("template " ++ path ++ " is up to date\n")
      else .error (.outOfDate path) := by
  unfold compiled at hcompiled
  unfold checkText
  cases hload : loadConfig fs inputs.config environment with
  | error e =>
    rw [hload] at hcompiled
    cases hcompiled
  | ok c =>
    rw [hload] at hcompiled
    simp only [bind, Except.bind] at hcompiled ⊢
    rw [hcompiled, hfound]

section Run

variable {fs after : FileSystem} {environment : Option String} {command : Command}

theorem run_eq_of_ok {printed : String}
    (h : command.perform fs environment = (after, .ok printed)) :
    command.run fs environment = ⟨0, printed, "", after⟩ := by
  unfold run
  rw [h]

theorem run_eq_of_error {e : CommandError}
    (h : command.perform fs environment = (after, .error e)) :
    command.run fs environment = ⟨1, "", e.message ++ "\n", after⟩ := by
  unfold run
  rw [h]

theorem perform_of_code_zero {done : Outcome} (hdone : command.run fs environment = done)
    (hcode : done.code = 0) :
    ∃ printed, command.perform fs environment = (done.files, .ok printed) := by
  cases hperform : command.perform fs environment with
  | mk after result =>
    cases result with
    | ok printed =>
      rw [← hdone, run_eq_of_ok hperform]
      exact ⟨printed, rfl⟩
    | error e =>
      rw [← hdone, run_eq_of_error hperform] at hcode
      cases hcode

end Run

theorem perform_compile {fs : FileSystem} {environment : Option String} {inputs : CompileInputs}
    {out target : Option String} {text : String}
    (h : compileText fs environment inputs out = .ok (text, target)) :
    (Command.compile inputs out).perform fs environment = deliver fs text target := by
  unfold perform
  simp only [h]

theorem deliver_of_writeFile {fs after : FileSystem} {path text : String}
    (h : writeFile fs path text = (after, .ok ())) :
    deliver fs text (some path) = (after, .ok "") := by
  unfold deliver
  simp only [h]
  rfl

theorem write_of_deliver {fs after : FileSystem} {text path printed : String}
    (h : deliver fs text (some path) = (after, .ok printed)) :
    ∃ before : FileSystem, before.write path text.toUTF8 = .ok after := by
  rw [deliver] at h
  cases hwrite : writeFile fs path text with
  | mk files done =>
    rw [hwrite] at h
    cases done with
    | error e => cases h
    | ok u =>
      cases h
      exact writeFile_eq_ok hwrite

theorem deliver_of_compile {fs after : FileSystem} {environment : Option String}
    {inputs : CompileInputs} {out : Option String} {printed : String}
    (h : (Command.compile inputs out).perform fs environment = (after, .ok printed)) :
    ∃ text target, compileText fs environment inputs out = .ok (text, target) ∧
      deliver fs text target = (after, .ok printed) := by
  cases htext : compileText fs environment inputs out with
  | error e =>
    unfold perform at h
    simp only [htext] at h
    cases h
  | ok result =>
    rw [perform_compile htext] at h
    exact ⟨result.1, result.2, rfl, h⟩

theorem write_of_compile {fs after : FileSystem} {environment : Option String}
    {inputs : CompileInputs} {path printed : String}
    (h : (Command.compile inputs (some path)).perform fs environment = (after, .ok printed)) :
    ∃ (template : Template) (text : String) (before : FileSystem),
      compiled fs environment inputs = .ok template ∧ template.toJson.render = .ok text ∧
        before.write path text.toUTF8 = .ok after := by
  obtain ⟨text, target, htext, hdeliver⟩ := deliver_of_compile h
  obtain ⟨rfl, template, hcompiled, hrender⟩ := (compileText_into_eq_ok_iff ..).1 htext
  obtain ⟨before, hbefore⟩ := write_of_deliver hdeliver
  exact ⟨template, text, before, hcompiled, hrender, hbefore⟩

theorem outOfDate_line (path : String) :
    (CommandError.outOfDate path).message ++ "\n" = "template " ++ path ++ " is out of date\n" := by
  have hend : " is out of date\n" = " is out of date" ++ "\n" := by decide
  rw [hend, ← String.append_assoc]
  rfl

/-- After a compile into a file, with the files that it read as they were, a check of that file
finds it up to date unless the template holds a double that is written like an integer of one
word. -/
theorem check_after_compile (fs : FileSystem) (environment : Option String)
    (inputs : CompileInputs) (path : String) (done : Outcome)
    (hdone : (Command.compile inputs (some path)).run fs environment = done)
    (hcode : done.code = 0)
    (hkept : ∀ source ∈ sourcePaths fs environment inputs,
      done.files.nodeAt source = fs.nodeAt source)
    (hsize : ∀ bytes, done.files.read path = .ok bytes → bytes.size ≤ maxTemplateBytes) :
    ∃ template text, compiled fs environment inputs = .ok template ∧
      template.toJson.render = .ok text ∧ done.files.read path = .ok text.toUTF8 ∧
      Json.parse text = .ok template.toJson.normalize.settle ∧
      ((∀ n ∈ template.toJson.normalize.numbers, ¬ n.ReadsAsInteger) →
        (Command.check inputs path).run done.files environment =
          ⟨0, "template " ++ path ++ " is up to date\n", "", done.files⟩) ∧
      ((∃ n ∈ template.toJson.normalize.numbers, n.ReadsAsInteger) →
        (Command.check inputs path).run done.files environment =
          ⟨1, "", "template " ++ path ++ " is out of date\n", done.files⟩) := by
  obtain ⟨printed, hperform⟩ := perform_of_code_zero hdone hcode
  obtain ⟨template, text, before, hcompiled, hrender, hwrite⟩ := write_of_compile hperform
  have hread := FileSystem.read_of_write hwrite
  have hparse := Json.parse_of_render hrender
  have hfound := readTemplateJson_of_write hwrite (hsize _ hread) hparse
  have hagain := (compiled_congr hkept).trans hcompiled
  have hcheck := checkText_of_read hagain hfound
  have hsame := Json.settle_same_iff template.toJson.normalize
  refine ⟨template, text, hcompiled, hrender, hread, hparse, fun hnone => ?_, fun hsome => ?_⟩
  · rw [if_pos (hsame.2 hnone)] at hcheck
    exact run_eq_of_ok (congrArg (Prod.mk done.files) hcheck)
  · have hdiffers : ¬ template.toJson.normalize.settle.same template.toJson.normalize = true := by
      intro h
      obtain ⟨n, hn, hreads⟩ := hsome
      exact hsame.1 h n hn hreads
    rw [if_neg hdiffers] at hcheck
    have hfails : (Command.check inputs path).perform done.files environment =
        (done.files, .error (.outOfDate path)) := congrArg (Prod.mk done.files) hcheck
    rw [run_eq_of_error hfails, outOfDate_line]

namespace Sample

def baseValue : Json := .obj [("Mappings", .num (.float (.zero false)))]

def baseText : String := baseValue.pretty ++ "\n"

def files : FileSystem :=
  (FileSystem.blank ["home"]).set ["home", "base.json"] (.file (.ofBytes baseText.toUTF8))

def inputs : CompileInputs := ⟨none, [], some "base.json", some "a1"⟩

def base : Template :=
  { Template.empty with extra := .ofList [("Mappings", .num (.float (.zero false)))] }

def template : Template :=
  { base with
    formatVersion := some StackOptions.defaultFormatVersion
    description := some StackOptions.defaultDescription
    parameters := KeyMap.empty.insertAll StackOptions.globalParameters
    resources := KeyMap.empty.insert Key.alarmTopic alarmTopic }

def filesWith (text : String) : FileSystem :=
  files.set ["home", "out.json"] (.file (.ofBytes text.toUTF8))

def text : String := template.toJson.normalize.settle.pretty ++ "\n"

theorem readBase_files : readBase files inputs.base = .ok base := by
  have hwrite : (FileSystem.blank ["home"]).write "base.json" baseText.toUTF8 = .ok files := rfl
  have hsize : baseText.utf8ByteSize ≤ maxTemplateBytes := by decide
  have hparse : Json.parse baseText = .ok baseValue := Json.parse_pretty (by decide)
  have hread := readTemplateJson_of_write hwrite hsize hparse
  have hbase : Template.ofJson baseValue = .ok base := rfl
  simp only [readBase, inputs, readTemplate, hread, bind, Except.bind, hbase]
  rfl

theorem compiled_files : compiled files none inputs = .ok template := by
  have hload : loadConfig files inputs.config none = .ok Config.standard := rfl
  have hrun : (compilerFor Config.standard inputs.revisionToken).run base (.ok []) =
      .ok template := rfl
  unfold compiled
  rw [hload]
  simp only [bind, Except.bind, compileTemplate, readBase_files]
  exact congrArg (Except.mapError CommandError.compile) hrun

theorem render_template : template.toJson.render = .ok text :=
  (Json.render_eq_ok_iff _ _).2 ⟨by decide, rfl⟩

theorem write_files (text : String) :
    files.write "out.json" text.toUTF8 = .ok (filesWith text) := rfl

theorem writeFile_files (text : String) :
    writeFile files "out.json" text = (filesWith text, .ok ()) := by
  have hparent : parentDirectory? "out.json" = none := by decide +kernel
  unfold writeFile makeParent
  rw [hparent]
  rfl

theorem nodeAt_filesWith (text : String) :
    ∀ source ∈ sourcePaths files none inputs,
      (filesWith text).nodeAt source = files.nodeAt source := by
  have hsources : sourcePaths files none inputs = ["rulecfn.toml", "base.json"] := rfl
  rw [hsources]
  simp only [List.forall_mem_cons]
  exact ⟨rfl, rfl, by simp⟩

theorem run_compile :
    (Command.compile inputs (some "out.json")).run files none = ⟨0, "", "", filesWith text⟩ := by
  have htext : compileText files none inputs (some "out.json") = .ok (text, some "out.json") :=
    (compileText_into_eq_ok_iff ..).2 ⟨rfl, template, compiled_files, render_template⟩
  exact run_eq_of_ok ((perform_compile htext).trans (deliver_of_writeFile (writeFile_files text)))

theorem size_toUTF8_ofList_le (cs : List Char) :
    (String.ofList cs).toUTF8.size ≤ 4 * cs.length := by
  have hsize : (String.ofList cs).toUTF8.size = (String.ofList cs).utf8ByteSize := rfl
  rw [hsize]
  induction cs with
  | nil => exact Nat.le_refl _
  | cons c rest ih =>
    have hc := c.utf8Size_le_four
    rw [String.ofList_cons, String.utf8ByteSize_append, String.utf8ByteSize_singleton,
      List.length_cons]
    have hrest := ih rfl
    omega

theorem size_text : text.toUTF8.size ≤ maxTemplateBytes := by
  have htext : text = String.ofList (template.toJson.normalize.settle.prettyChars 0 ++ ['\n']) := by
    rw [String.ofList_append]
    rfl
  have hlength : 4 * (template.toJson.normalize.settle.prettyChars 0 ++ ['\n']).length ≤
      maxTemplateBytes := by decide +kernel
  rw [htext]
  exact Nat.le_trans (size_toUTF8_ofList_le _) hlength

theorem size_written : ∀ bytes, (filesWith text).read "out.json" = .ok bytes →
    bytes.size ≤ maxTemplateBytes := by
  intro bytes hbytes
  rw [FileSystem.read_of_write (write_files text), Except.ok.injEq] at hbytes
  rw [← hbytes]
  exact size_text

end Sample

theorem check_after_compile_sample :
    (Command.compile Sample.inputs (some "out.json")).run Sample.files none =
        ⟨0, "", "", Sample.filesWith Sample.text⟩ ∧
      (Command.check Sample.inputs "out.json").run (Sample.filesWith Sample.text) none =
        ⟨1, "", "template out.json is out of date\n", Sample.filesWith Sample.text⟩ := by
  obtain ⟨template, text, hcompiled, -, -, -, -, hstale⟩ := check_after_compile Sample.files none
    Sample.inputs "out.json" _ Sample.run_compile rfl (Sample.nodeAt_filesWith _) Sample.size_written
  rw [Sample.compiled_files, Except.ok.injEq] at hcompiled
  subst hcompiled
  refine ⟨Sample.run_compile, hstale ⟨.float (.zero false), ?_, 0, rfl, by decide⟩⟩
  decide

end RuleStack.Command
