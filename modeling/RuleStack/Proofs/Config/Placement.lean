import RuleStack.Proofs.Cli.Fragment
set_option autoImplicit false

namespace RuleStack

namespace Config

/-- The settings without their directory, and without white space around the paths of rules. -/
def unplaced (c : Config) : Config :=
  { c with rulePaths := c.rulePaths.map Text.trim, sourceDir := none }

theorem modulePaths_ruleFiles (c : Config) :
    c.ruleFiles.map (·.modulePath) = c.unplaced.rulePaths := by
  simp [ruleFiles, unplaced]

theorem paths_ruleFiles (c : Config) : c.ruleFiles.map (·.path) = c.resolvedPaths := by
  simp [ruleFiles, resolvedPaths]

theorem compiler_unplaced (c : Config) : c.unplaced.compiler = c.compiler := rfl

/-- Settings that differ in their directory, and in white space around the paths of rules, compile
to the same wherever the same is read under each path. Definitions and errors know the paths only as
they are written. -/
theorem run_of_moved (c d : Config) (fs gs : FileSystem) (h : c.unplaced = d.unplaced)
    (hreads : c.resolvedPaths.map (fs.readBounded · RuleFile.maxBytes) =
      d.resolvedPaths.map (gs.readBounded · RuleFile.maxBytes)) :
    (∀ base, c.compiler.run base (RuleFile.readAll fs c.ruleFiles) =
      d.compiler.run base (RuleFile.readAll gs d.ruleFiles)) ∧
    (∀ definitions, RuleFile.readAll fs c.ruleFiles = .ok definitions →
      RuleFile.readAll gs d.ruleFiles = .ok definitions ∧
      (∀ x ∈ definitions, ∃ path ∈ c.rulePaths.map Text.trim, x.modulePath = path ∧
        (c.compiler.prepare x).sourcePath = some path ∧
        (c.compiler.prepare x).name = x.rule.name.map (c.compiler.namer.namespaced · path)) ∧
      ∀ base bundles, c.compiler.bundles definitions = .ok bundles →
        d.compiler.bundles definitions = .ok bundles ∧
        d.revision.deploymentKey base bundles = c.revision.deploymentKey base bundles) ∧
    ∀ e, RuleFile.readAll fs c.ruleFiles = .error e →
      RuleFile.readAll gs d.ruleFiles = .error e ∧ e.modulePath ∈ c.rulePaths.map Text.trim := by
  -- the compiler does not see the directory, and a rule file is seen as it is written
  have hcompiler : c.compiler = d.compiler := by
    rw [← compiler_unplaced, h, compiler_unplaced]
  have hsource : RuleFile.readAll fs c.ruleFiles = RuleFile.readAll gs d.ruleFiles := by
    refine RuleFile.readAll_congr ?_ ?_
    · rw [modulePaths_ruleFiles, h, ← modulePaths_ruleFiles]
    · rw [← paths_ruleFiles, ← paths_ruleFiles, List.map_map, List.map_map] at hreads
      exact hreads
  have hrevision : c.revision = d.revision := congrArg (·.options.revision) hcompiler
  refine ⟨fun base => by rw [hcompiler, hsource], fun definitions hread => ?_, fun e hread => ?_⟩
  · refine ⟨hsource ▸ hread, fun x hx => ?_, fun base bundles hbundles => ?_⟩
    · have hpath := RuleFile.modulePath_of_readAll hread x hx
      rw [modulePaths_ruleFiles] at hpath
      exact ⟨x.modulePath, hpath, rfl, rfl, rfl⟩
    · rw [← hcompiler, ← hrevision]
      exact ⟨hbundles, rfl⟩
  · have hpath := RuleFile.modulePath_of_readAll_error hread
    rw [modulePaths_ruleFiles] at hpath
    exact ⟨hsource ▸ hread, hpath⟩

namespace Moved

def here : Config :=
  { standard with rulePaths := ["rule.json"], mode := .token, token := some "a1" }

def inside : Config :=
  { here with rulePaths := [" rule.json\n"], sourceDir := some "conf" }

def files : FileSystem :=
  ((FileSystem.blank ["home"]).set ["home", "conf"] .directory).set ["home", "conf", "rule.json"]
    (.file (.ofBytes Command.OneRule.text.toUTF8))

theorem read_files :
    Command.OneRule.files.readBounded "rule.json" RuleFile.maxBytes =
      files.readBounded "conf/rule.json" RuleFile.maxBytes := rfl

theorem readAll_here :
    RuleFile.readAll Command.OneRule.files here.ruleFiles = .ok [Command.OneRule.definition] :=
  RuleFile.readAll_cons_eq_ok_iff.2 ⟨_, [], Command.OneRule.read_files, rfl, rfl⟩

end Moved

theorem run_of_moved_sample :
    Moved.here.unplaced = Moved.inside.unplaced ∧
      Moved.here.resolvedPaths.map
          (Command.OneRule.files.readBounded · RuleFile.maxBytes) =
        Moved.inside.resolvedPaths.map (Moved.files.readBounded · RuleFile.maxBytes) ∧
      ∃ t, Moved.here.compiler.run .empty
          (RuleFile.readAll Command.OneRule.files Moved.here.ruleFiles) = .ok t ∧
        Moved.inside.compiler.run .empty
          (RuleFile.readAll Moved.files Moved.inside.ruleFiles) = .ok t := by
  have hsame : Moved.here.unplaced = Moved.inside.unplaced := rfl
  have hreads : Moved.here.resolvedPaths.map
        (Command.OneRule.files.readBounded · RuleFile.maxBytes) =
      Moved.inside.resolvedPaths.map (Moved.files.readBounded · RuleFile.maxBytes) :=
    congrArg (fun result => [result]) Moved.read_files
  obtain ⟨t, -, ht, -⟩ := Command.OneRule.exists_compiled
  have hrun : Moved.here.compiler.run .empty
      (RuleFile.readAll Command.OneRule.files Moved.here.ruleFiles) = .ok t := by
    rw [Moved.readAll_here]
    exact ht
  exact ⟨hsame, hreads, t, hrun, (run_of_moved _ _ _ _ hsame hreads).1 .empty ▸ hrun⟩

end Config
end RuleStack
