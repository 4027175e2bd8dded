import RuleStack.Proofs.Cli.Check
import RuleStack.Proofs.Compiler.Fragment
set_option autoImplicit false

namespace RuleStack

/-- The text that a command left at its target, or printed if it has none. -/
def Outcome.Leaves (done : Outcome) (text : String) : Option String → Prop
  | some path => done.files.read path = .ok text.toUTF8
  | none => done.printed = text

theorem FragmentKind.parse_label (kind : FragmentKind) : parse kind.label = .ok kind := by
  cases kind with
  | event kind => cases kind <;> rfl
  | gateway part => cases part <;> rfl
  | _ => rfl

namespace Command

theorem apart_of_readBase {fs : FileSystem} {path : Option String} {base : Template}
    (h : readBase fs path = .ok base) : base.Apart := by
  cases path with
  | none =>
    cases h
    exact fun _ hkey => (List.not_mem_nil hkey).elim
  | some path =>
    obtain ⟨value, -, hvalue⟩ := (Outcome.bind_eq_ok_iff _ _ _).1 h
    exact Template.apart_of_ofJson ((Outcome.mapError_eq_ok_iff _ _ _).1 hvalue)

theorem prepare_compilerFor (c : Config) (token : Option String) (d : Definition) :
    (compilerFor c token).prepare d = c.compiler.prepare d ∧
      (compilerFor c token).runtime = c.runtime := by
  cases token <;> exact ⟨rfl, rfl⟩

/-- A compile of a file with one rule gives the template of that rule. -/
theorem ofOne_of_compileTemplate {fs : FileSystem} {c : Config} {inputs : CompileInputs}
    {rule : String} {d : Definition} {t : Template} (hrules : inputs.rules = [rule])
    (hrule : (RuleFile.asGiven rule).read fs = .ok [d])
    (h : compileTemplate fs c inputs = .ok t) :
    ∃ name, (c.compiler.prepare d).usableName? = some name ∧ (c.compiler.prepare d).Complete ∧
      t.OfOne (c.compiler.prepare d) name c.runtime := by
  obtain ⟨base, hbase, hrun⟩ := (Outcome.bind_eq_ok_iff _ _ _).1 h
  have hsource : RuleFile.readAll fs (ruleFiles c inputs.rules) = .ok [d] := by
    rw [hrules]
    show RuleFile.readAll fs [RuleFile.asGiven rule] = .ok [d]
    rw [RuleFile.readAll, hrule]
    rfl
  rw [Outcome.mapError_eq_ok_iff, hsource] at hrun
  obtain ⟨hprepare, hruntime⟩ := prepare_compilerFor c inputs.revisionToken d
  have hone := Compiler.ofOne_of_run (apart_of_readBase hbase) hrun
  rwa [hprepare, hruntime] at hone

theorem fragmentText_of_shows {fs : FileSystem} {environment config : Option String} {rule : String}
    {c : Config} {d : Definition} {t : Template} {name : String} {kind : FragmentKind}
    (hload : loadConfig fs config environment = .ok c)
    (hrule : (RuleFile.asGiven rule).read fs = .ok [d])
    (hprints : t.toJson.printed.depth ≤ Json.maxDepth)
    (h : t.Shows (c.compiler.prepare d) name c.runtime kind) :
    ∃ shown w, fragmentText fs environment config rule kind.label = .ok shown ∧
      Json.parse shown = .ok w ∧
      kind.part? (c.compiler.prepare d) name t.toJson.printed = some w := by
  obtain ⟨part, hfragment, hpart, hdepth⟩ := h
  have hshallow : part.toJson.printed.depth ≤ Json.maxDepth :=
    Nat.le_trans hdepth (Nat.max_le.2 ⟨by decide, hprints⟩)
  obtain ⟨shown, hshown⟩ := (Json.exists_render_iff _).2 hshallow
  refine ⟨shown, part.toJson.printed, ?_, Json.parse_of_render hshown, hpart⟩
  simp only [fragmentText, FragmentKind.parse_label, hload, hrule, single, hfragment, render,
    hshown, bind, Except.bind, Outcome.mapError_ok]

theorem readRules_of_write {fs after : FileSystem} {path text : String} {v : Json}
    {rules : List Rule} (h : fs.write path text.toUTF8 = .ok after)
    (hsize : text.utf8ByteSize ≤ RuleFile.maxBytes) (hparse : Json.parse text = .ok v)
    (hrules : Rule.listOfJson v = .ok rules) :
    (RuleFile.asGiven path).read after = .ok (rules.map (⟨path, ·⟩)) := by
  have hread : after.readBounded path RuleFile.maxBytes = .ok text.toUTF8 :=
    FileSystem.readBounded_of_write h hsize (by decide)
  simp only [RuleFile.read, RuleFile.asGiven, hread, RuleFile.definitions, RuleFile.rulesOfBytes,
    parseBytes_toUTF8, hparse, hrules]

theorem leaves_of_deliver {fs after : FileSystem} {text printed : String} {target : Option String}
    (h : deliver fs text target = (after, .ok printed)) (code : Nat) (complaint : String) :
    (Outcome.mk code printed complaint after).Leaves text target := by
  cases target with
  | none =>
    cases h
    rfl
  | some path =>
    obtain ⟨before, hbefore⟩ := write_of_deliver h
    exact FileSystem.read_of_write hbefore

/-- Where a compile of a file with one rule goes well, a look at the same file, under the same
settings, succeeds for every kind of fragment that the rule uses. What it prints is, read back, the
part of the template that belongs to the fragment. -/
theorem fragment_after_compile (fs : FileSystem) (environment : Option String)
    (inputs : CompileInputs) (out : Option String) (rule : String) (d : Definition)
    (hrules : inputs.rules = [rule]) (hrule : (RuleFile.asGiven rule).read fs = .ok [d])
    (done : Outcome) (hdone : (Command.compile inputs out).run fs environment = done)
    (hcode : done.code = 0) :
    ∃ c name text v, loadConfig fs inputs.config environment = .ok c ∧
      (c.compiler.prepare d).usableName? = some name ∧
      done.Leaves text (out.or c.output?) ∧ Json.parse text = .ok v ∧
      ∀ kind, d.rule.Uses kind → ∀ other : FileSystem,
        (∀ path ∈ rule :: configPaths inputs.config environment,
          other.nodeAt path = fs.nodeAt path) →
        ∃ shown w, (Command.fragment inputs.config rule kind.label).run other environment =
            ⟨0, shown, "", other⟩ ∧
          Json.parse shown = .ok w ∧ kind.part? (c.compiler.prepare d) name v = some w := by
  obtain ⟨printed, hperform⟩ := perform_of_code_zero hdone hcode
  obtain ⟨text, target, htext, hdeliver⟩ := deliver_of_compile hperform
  obtain ⟨c, t, hload, hcompile, hrender, rfl⟩ := (compileText_eq_ok_iff ..).1 htext
  obtain ⟨name, hname, hcomplete, hone⟩ := ofOne_of_compileTemplate hrules hrule hcompile
  have hprints := (Json.exists_render_iff _).1 ⟨text, hrender⟩
  have hleaves : done.Leaves text (out.or c.output?) := by
    rw [← hdone, run_eq_of_ok hperform]
    exact leaves_of_deliver hdeliver 0 ""
  have hparse : Json.parse text = .ok t.toJson.printed := Json.parse_of_render hrender
  refine ⟨c, name, text, t.toJson.printed, hload, hname, hleaves, hparse,
    fun kind huses other hsame => ?_⟩
  have hloads : loadConfig other inputs.config environment = .ok c :=
    (loadConfig_congr fun path hpath => hsame path (List.mem_cons_of_mem _ hpath)).trans hload
  have hnode : other.nodeAt (RuleFile.asGiven rule).path = fs.nodeAt (RuleFile.asGiven rule).path :=
    hsame rule List.mem_cons_self
  have hreads : (RuleFile.asGiven rule).read other = .ok [d] := by rw [readFile_congr hnode, hrule]
  have hshows := hone.shows hname hcomplete ((c.compiler.uses_prepare_iff d kind).2 huses)
  obtain ⟨shown, w, hfragment, hshown, hpart⟩ :=
    fragmentText_of_shows hloads hreads hprints hshows
  exact ⟨shown, w, run_eq_of_ok (congrArg (Prod.mk other) hfragment), hshown, hpart⟩

namespace OneRule

def value : Json := .obj [
  ("name", .str "audit"),
  ("statements", .arr [.obj [
    ("Action", .str "sns:Publish"), ("Effect", .str "Allow"), ("Resource", .str "*")]])]

def text : String := value.pretty ++ "\n"

def files : FileSystem :=
  (FileSystem.blank ["home"]).set ["home", "rule.json"] (.file (.ofBytes text.toUTF8))

def inputs : CompileInputs := ⟨none, ["rule.json"], none, some "a1"⟩

def definition : Definition :=
  ⟨"rule.json",
    { Rule.empty with
      name := some "audit"
      statements := some [.allow (.str "sns:Publish") (.str "*")] }⟩

def compiler : Compiler := compilerFor Config.standard inputs.revisionToken

theorem read_files : (RuleFile.asGiven "rule.json").read files = .ok [definition] := by
  have hwrite : (FileSystem.blank ["home"]).write "rule.json" text.toUTF8 = .ok files := rfl
  have hsize : text.utf8ByteSize ≤ RuleFile.maxBytes := by decide +kernel
  have hparse : Json.parse text = .ok value := Json.parse_pretty (by decide)
  have hrules : Rule.listOfJson value = .ok [definition.rule] := rfl
  exact readRules_of_write hwrite hsize hparse hrules

theorem exists_compiled : ∃ t text, compiler.run .empty (.ok [definition]) = .ok t ∧
    t.toJson.render = .ok text := by
  obtain ⟨t, ht, hdepth⟩ : ∃ t, compiler.run .empty (.ok [definition]) = .ok t ∧
      t.toJson.depth ≤ Json.maxDepth := Outcome.exists_ok_of_decide (by decide)
  obtain ⟨text, htext⟩ := Json.exists_render_of_depth_le hdepth
  exact ⟨t, text, ht, htext⟩

theorem run_compile :
    ∃ text, (Command.compile inputs none).run files none = ⟨0, text, "", files⟩ := by
  obtain ⟨t, text, hrun, hrender⟩ := exists_compiled
  have hload : loadConfig files inputs.config none = .ok Config.standard := rfl
  have hsource : RuleFile.readAll files (ruleFiles Config.standard inputs.rules) =
      .ok [definition] := by
    show RuleFile.readAll files [RuleFile.asGiven "rule.json"] = .ok [definition]
    rw [RuleFile.readAll, read_files]
    rfl
  have hcompile : compileTemplate files Config.standard inputs = .ok t := by
    rw [compileTemplate, hsource]
    exact congrArg (Except.mapError CommandError.compile) hrun
  have htext : compileText files none inputs none = .ok (text, none) :=
    (compileText_eq_ok_iff ..).2 ⟨_, t, hload, hcompile, hrender, rfl⟩
  exact ⟨text, run_eq_of_ok (perform_compile htext)⟩

end OneRule

theorem fragment_after_compile_sample :
    (RuleFile.asGiven "rule.json").read OneRule.files = .ok [OneRule.definition] ∧
      ∃ text v shown w,
        (Command.compile OneRule.inputs none).run OneRule.files none =
          ⟨0, text, "", OneRule.files⟩ ∧ Json.parse text = .ok v ∧
        (Command.fragment none "rule.json" "policy").run OneRule.files none =
          ⟨0, shown, "", OneRule.files⟩ ∧ Json.parse shown = .ok w ∧ v.ownPolicy? = some w := by
  obtain ⟨text, hrun⟩ := OneRule.run_compile
  obtain ⟨c, name, printed, v, hload, -, hleaves, hparse, hshows⟩ :=
    fragment_after_compile OneRule.files none OneRule.inputs none "rule.json" OneRule.definition rfl
      OneRule.read_files _ hrun rfl
  have hstandard : loadConfig OneRule.files OneRule.inputs.config none = .ok Config.standard := rfl
  cases hload.symm.trans hstandard
  have hprinted : text = printed := hleaves
  obtain ⟨shown, w, hshown, hread, hpart⟩ := hshows .policy trivial OneRule.files fun _ _ => rfl
  exact ⟨OneRule.read_files, text, v, shown, w, hrun, hprinted ▸ hparse, hshown, hread, hpart⟩

end Command
end RuleStack
