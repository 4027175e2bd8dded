import RuleStack.Proofs.Files.Write
set_option autoImplicit false

namespace RuleStack

/-- The paths above a path: without its last name, without its last two names, and so on. -/
def Path.above (path : String) : List String :=
  ((Path.ancestors path.toList).drop 1).map String.ofList

theorem Path.ancestors_of_parent {cs parent : List Char} (h : parentChars? cs = some parent) :
    ancestors cs = cs :: ancestors parent := by
  rw [ancestors]
  split
  · rename_i hnone
    rw [h] at hnone
    cases hnone
  · rename_i p hp
    cases h.symm.trans hp
    rfl

namespace FileSystem

theorem chain_subset {path parent : String} (h : Path.parent? path = some parent) :
    chain parent ⊆ Path.above path := by
  obtain ⟨cs, hcs, rfl⟩ := Option.map_eq_some_iff.1 h
  rw [chain, Path.above, Path.ancestors_of_parent hcs, List.drop_one, List.tail_cons,
    String.toList_ofList]
  exact List.map_subset _ List.filter_sublist.subset

/-- There are more directories than before, where one of these paths leads, and nothing else is
different. -/
structure Grown (fs after : FileSystem) (paths : List String) : Prop where
  workDir : after.workDir = fs.workDir
  nodes : ∀ place, after.node? place = fs.node? place ∨
    (fs.node? place = none ∧ after.node? place = some .directory ∧
      ∃ path ∈ paths, after.resolve path = .ok place)

namespace Grown

variable {fs mid after : FileSystem} {paths : List String}

theorem refl (fs : FileSystem) (paths : List String) : fs.Grown fs paths :=
  ⟨rfl, fun _ => .inl rfl⟩

theorem keepsDirectories (h : fs.Grown after paths) : fs.KeepsDirectories after := by
  refine ⟨h.workDir, fun place hplace => ?_⟩
  rcases h.nodes place with hsame | ⟨hnone, -⟩
  · rw [hsame, hplace]
  · rw [hnone] at hplace
    cases hplace

theorem mono {more : List String} (h : fs.Grown after paths) (hsub : paths ⊆ more) :
    fs.Grown after more := by
  refine ⟨h.workDir, fun place => (h.nodes place).imp_right ?_⟩
  rintro ⟨hnone, hmade, path, hpath, hresolve⟩
  exact ⟨hnone, hmade, path, hsub hpath, hresolve⟩

theorem trans (h : fs.Grown mid paths) (h' : mid.Grown after paths) : fs.Grown after paths := by
  refine ⟨h'.workDir.trans h.workDir, fun place => ?_⟩
  rcases h.nodes place with hsame | ⟨hnone, hmade, path, hpath, hresolve⟩
  · rw [← hsame]
    exact h'.nodes place
  · exact .inr ⟨hnone, h'.keepsDirectories.directories place hmade, path, hpath,
      h'.keepsDirectories.resolve hresolve⟩

end Grown

theorem grown_of_makeDirectory {fs after : FileSystem} {path : String}
    (h : fs.makeDirectory path = .ok after) : fs.Grown after [path] := by
  unfold makeDirectory at h
  cases hresolve : fs.resolve path with
  | error e =>
    rw [hresolve] at h
    cases h
  | ok place =>
    rw [hresolve] at h
    simp only [bind, Except.bind] at h
    split at h
    · cases h
    · rename_i hnone
      cases h
      have hkeeps : fs.KeepsDirectories (fs.set place .directory) :=
        .set (by simp [hnone]) .directory
      refine ⟨rfl, fun other => ?_⟩
      by_cases hother : other = place
      · subst hother
        exact .inr ⟨hnone, node?_set_self .., path, List.mem_singleton_self path,
          hkeeps.resolve hresolve⟩
      · exact .inl (node?_set_of_ne fs hother _)

/-- However far it gets, making directories changes nothing but what it makes. -/
theorem grown_of_makeDirectories (paths : List String) (fs : FileSystem) :
    fs.Grown (fs.makeDirectories paths).1 paths := by
  induction paths generalizing fs with
  | nil => exact .refl fs []
  | cons path outer ih =>
    have hfirst : [path] ⊆ path :: outer := List.cons_subset_cons path (List.nil_subset outer)
    have houter : outer ⊆ path :: outer := List.subset_cons_self path outer
    rw [makeDirectories]
    split
    · rename_i after hmake
      exact (grown_of_makeDirectory hmake).mono hfirst
    · have hmade := (ih fs).mono houter
      split
      · rename_i after e hmakes
        rwa [hmakes] at hmade
      · rename_i mid hmakes
        rw [hmakes] at hmade
        split
        · rename_i after hmake
          exact hmade.trans ((grown_of_makeDirectory hmake).mono hfirst)
        · exact hmade
    · exact .refl fs _

/-- The file at this path holds these bytes. Nothing else is different, but for directories that
were missing above it. -/
structure Written (fs after : FileSystem) (path : String) (bytes : ByteArray) : Prop where
  workDir : after.workDir = fs.workDir
  nodes : ∃ place, after.resolve path = .ok place ∧
    after.node? place = some (.file (.ofBytes bytes)) ∧ fs.node? place ≠ some .directory ∧
    ∀ other, other ≠ place → after.node? other = fs.node? other ∨
      (fs.node? other = none ∧ after.node? other = some .directory ∧
        ∃ dir ∈ Path.above path, after.resolve dir = .ok other)

theorem written_of_write {fs mid after : FileSystem} {path : String} {bytes : ByteArray}
    (hgrown : fs.Grown mid (Path.above path)) (h : mid.write path bytes = .ok after) :
    fs.Written after path bytes := by
  obtain ⟨place, hresolve, hnode, rfl⟩ := write_eq_ok h
  have hkeeps := KeepsDirectories.set hnode (.file (.ofBytes bytes))
  refine ⟨hgrown.workDir, place, hkeeps.resolve hresolve, node?_set_self .., ?_, ?_⟩
  · exact fun hdirectory => hnode (hgrown.keepsDirectories.directories place hdirectory)
  · intro other hother
    rw [node?_set_of_ne mid hother]
    refine (hgrown.nodes other).imp_right ?_
    rintro ⟨hnone, hmade, dir, hdir, hleads⟩
    exact ⟨hnone, hmade, dir, hdir, hkeeps.resolve hleads⟩

end FileSystem
end RuleStack
