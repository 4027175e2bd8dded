import RuleStack.Files
/-!
At most one byte above a limit is read, which is enough to tell whether a file is too large
(`readBounded_outcome`). After a write a path leads to the place it led to, and what is read there
is what was written (`readBounded_of_write`).
-/
set_option autoImplicit false

namespace RuleStack

namespace File

theorem extract_of_size_le {bytes : ByteArray} {count : Nat} (h : bytes.size ≤ count) :
    bytes.extract 0 count = bytes := by
  rw [← Nat.max_eq_left h, ByteArray.extract_zero_max_size]

/-- The largest number of bytes that can be asked for is no bound of its own, unless both the
content and the limit reach it. -/
theorem readBounded_eq (f : File) {limit : Nat}
    (h : f.bytes.size ≤ maxWord ∨ limit < maxWord) :
    f.readBounded limit =
      if limit < f.reportedSize then .error (.tooLarge f.reportedSize limit)
      else if limit < f.bytes.size then .error (.tooLarge (limit + 1) limit)
      else .ok f.bytes := by
  have hread : f.bytes.extract 0 (min (limit + 1) maxWord) = f.bytes.extract 0 (limit + 1) := by
    by_cases hlimit : limit < maxWord
    · rw [Nat.min_eq_left hlimit]
    · have hsize : f.bytes.size ≤ maxWord := h.resolve_right hlimit
      rw [extract_of_size_le (by omega), extract_of_size_le (by omega)]
  have hcount : (f.bytes.extract 0 (limit + 1)).size = min (limit + 1) f.bytes.size := by
    rw [ByteArray.size_extract, Nat.sub_zero]
  simp only [readBounded, hread, hcount]
  by_cases hsize : limit < f.bytes.size
  · rw [Nat.min_eq_left hsize, if_pos (Nat.lt_succ_self limit), if_pos hsize]
  · have hall : f.bytes.extract 0 (limit + 1) = f.bytes := extract_of_size_le (by omega)
    rw [if_neg (by omega : ¬ limit < min (limit + 1) f.bytes.size), if_neg hsize, hall]

theorem readBounded_ofBytes {bytes : ByteArray} {limit : Nat} (hsize : bytes.size ≤ limit)
    (hlimit : limit ≤ maxWord) : (ofBytes bytes).readBounded limit = .ok bytes := by
  rw [readBounded_eq _ (.inl (Nat.le_trans hsize hlimit)), ofBytes, if_neg (Nat.not_lt.2 hsize),
    if_neg (Nat.not_lt.2 hsize)]

theorem readBounded_eq_ok_iff (f : File) {limit : Nat}
    (h : f.bytes.size ≤ maxWord ∨ limit < maxWord) (bytes : ByteArray) :
    f.readBounded limit = .ok bytes ↔
      f.reportedSize ≤ limit ∧ f.bytes.size ≤ limit ∧ f.bytes = bytes := by
  rw [readBounded_eq f h, ← Nat.not_lt, ← Nat.not_lt]
  by_cases hreported : limit < f.reportedSize
  · simp [hreported]
  · by_cases hsize : limit < f.bytes.size <;> simp [hreported, hsize]

theorem readBounded_eq_error_iff (f : File) {limit : Nat}
    (h : f.bytes.size ≤ maxWord ∨ limit < maxWord) (e : ReadError) :
    f.readBounded limit = .error e ↔
      limit < f.reportedSize ∧ e = .tooLarge f.reportedSize limit ∨
        f.reportedSize ≤ limit ∧ limit < f.bytes.size ∧ e = .tooLarge (limit + 1) limit := by
  rw [readBounded_eq f h, ← Nat.not_lt]
  by_cases hreported : limit < f.reportedSize
  · simp [hreported, eq_comm]
  · by_cases hsize : limit < f.bytes.size <;> simp [hreported, hsize, eq_comm]

end File

namespace FileSystem

theorem readBounded_of_nodeAt {fs : FileSystem} {path : String} {f : File}
    (h : fs.nodeAt path = .ok (.file f)) (limit : Nat) :
    fs.readBounded path limit = f.readBounded limit := by
  rw [readBounded, h]

theorem readBounded_eq_ok_iff (fs : FileSystem) (path : String) {limit : Nat}
    (hlimit : limit < maxWord) (bytes : ByteArray) :
    fs.readBounded path limit = .ok bytes ↔
      ∃ size, fs.nodeAt path = .ok (.file ⟨size, bytes⟩) ∧ size ≤ limit ∧ bytes.size ≤ limit := by
  rw [readBounded]
  split
  · rename_i e hnode
    simp [hnode]
  · rename_i file hnode
    rw [File.readBounded_eq_ok_iff file (.inr hlimit), hnode]
    constructor
    · rintro ⟨hreported, hsize, rfl⟩
      exact ⟨file.reportedSize, rfl, hreported, hsize⟩
    · rintro ⟨size, hfile, hreported, hsize⟩
      cases hfile
      exact ⟨hreported, hsize, rfl⟩
  · rename_i hnode
    split <;> simp [hnode]

/-- A file gives its whole content where neither the size that it reports nor its content is above
the limit. It is refused as too large where one of them is, and for no other reason. -/
theorem readBounded_outcome {fs : FileSystem} {path : String} {f : File}
    (hfile : fs.nodeAt path = .ok (.file f)) (hsize : f.bytes.size < UInt64.size) (limit : Nat) :
    (∀ bytes, fs.readBounded path limit = .ok bytes ↔
      bytes = f.bytes ∧ f.reportedSize ≤ limit ∧ f.bytes.size ≤ limit) ∧
    ((∃ size, fs.readBounded path limit = .error (.tooLarge size limit)) ↔
      limit < f.reportedSize ∨ limit < f.bytes.size) ∧
    ∀ e, fs.readBounded path limit = .error e →
      ∃ size, limit < size ∧ e = .tooLarge size limit := by
  have hword : f.bytes.size ≤ maxWord ∨ limit < maxWord := .inl (Nat.le_of_lt_succ hsize)
  simp only [readBounded_of_nodeAt hfile, f.readBounded_eq_ok_iff hword,
    f.readBounded_eq_error_iff hword]
  refine ⟨fun bytes => ?_, ?_, fun e => ?_⟩
  · constructor
    · rintro ⟨hreported, hbytes, rfl⟩
      exact ⟨rfl, hreported, hbytes⟩
    · rintro ⟨rfl, hreported, hbytes⟩
      exact ⟨hreported, hbytes, rfl⟩
  · constructor
    · rintro ⟨size, ⟨hreported, -⟩ | ⟨-, hbytes, -⟩⟩
      · exact .inl hreported
      · exact .inr hbytes
    · intro h
      by_cases hreported : limit < f.reportedSize
      · exact ⟨_, .inl ⟨hreported, rfl⟩⟩
      · exact ⟨_, .inr ⟨Nat.not_lt.1 hreported, h.resolve_left hreported, rfl⟩⟩
  · rintro (⟨hreported, rfl⟩ | ⟨-, -, rfl⟩)
    · exact ⟨_, hreported, rfl⟩
    · exact ⟨_, Nat.lt_succ_self limit, rfl⟩

/-- A file that grew to three bytes after it reported two. -/
def grown : FileSystem :=
  (blank ["home"]).set ["home", "rule.json"] (.file ⟨2, "123".toUTF8⟩)

theorem readBounded_outcome_sample :
    grown.nodeAt "rule.json" = .ok (.file ⟨2, "123".toUTF8⟩) ∧ "123".toUTF8.size < UInt64.size ∧
      (∃ size, grown.readBounded "rule.json" 2 = .error (.tooLarge size 2)) ∧
      grown.readBounded "rule.json" 3 = .ok "123".toUTF8 ∧
      grown.readBounded "rule.json" maxWord = .ok "123".toUTF8 := by
  have hfile : grown.nodeAt "rule.json" = .ok (.file ⟨2, "123".toUTF8⟩) := rfl
  have hsize : "123".toUTF8.size < UInt64.size := by decide
  exact ⟨hfile, hsize, (readBounded_outcome hfile hsize 2).2.1.2 (.inr (by decide)),
    ((readBounded_outcome hfile hsize 3).1 _).2 ⟨rfl, by decide, by decide⟩,
    ((readBounded_outcome hfile hsize maxWord).1 _).2 ⟨rfl, by decide, by decide⟩⟩

end FileSystem

namespace FileSystem

@[simp] theorem node?_set_self (fs : FileSystem) (place : Place) (node : Node) :
    (fs.set place node).node? place = some node := by
  simp [set]

theorem node?_set_of_ne (fs : FileSystem) {place other : Place} (h : other ≠ place) (node : Node) :
    (fs.set place node).node? other = fs.node? other := by
  simp [set, h]

structure KeepsDirectories (fs after : FileSystem) : Prop where
  workDir : after.workDir = fs.workDir
  directories : ∀ place, fs.node? place = some .directory → after.node? place = some .directory

namespace KeepsDirectories

variable {fs after : FileSystem}

theorem set {place : Place} (h : fs.node? place ≠ some .directory) (node : Node) :
    fs.KeepsDirectories (fs.set place node) := by
  refine ⟨rfl, fun other hother => ?_⟩
  have hne : other ≠ place := by
    rintro rfl
    exact h hother
  rwa [node?_set_of_ne fs hne]

theorem walk (h : fs.KeepsDirectories after) {names : List String} {start place : Place}
    (hwalk : fs.walk start names = .ok place) : after.walk start names = .ok place := by
  induction names generalizing start with
  | nil => exact hwalk
  | cons name rest ih =>
    rw [FileSystem.walk] at hwalk ⊢
    cases hnode : fs.node? start with
    | none =>
      rw [hnode] at hwalk
      cases hwalk
    | some found =>
      cases found with
      | file file =>
        rw [hnode] at hwalk
        cases hwalk
      | directory =>
        rw [h.directories start hnode]
        rw [hnode] at hwalk
        cases henter : enter start name with
        | error e =>
          rw [henter] at hwalk
          cases hwalk
        | ok next =>
          rw [henter] at hwalk
          exact ih hwalk

theorem resolve (h : fs.KeepsDirectories after) {path : String} {place : Place}
    (hresolve : fs.resolve path = .ok place) : after.resolve path = .ok place := by
  have horigin : after.origin path = fs.origin path := by rw [origin, h.workDir, origin]
  unfold FileSystem.resolve at hresolve ⊢
  rw [horigin]
  cases htext : checkText path with
  | error e =>
    rw [htext] at hresolve
    cases hresolve
  | ok u =>
    rw [htext] at hresolve
    exact h.walk hresolve

end KeepsDirectories

theorem resolve_of_target {fs : FileSystem} {path : String} {place : Place}
    (h : fs.target path = .ok place) : fs.resolve path = .ok place := by
  unfold target at h
  cases htext : checkText path with
  | error e =>
    rw [htext] at h
    cases h
  | ok u =>
    rw [htext] at h
    simp only [bind, Except.bind] at h
    split at h
    · split at h
      · split at h <;> cases h
      · exact h
    · exact h

theorem write_eq_ok {fs after : FileSystem} {path : String} {bytes : ByteArray}
    (h : fs.write path bytes = .ok after) :
    ∃ place, fs.resolve path = .ok place ∧ fs.node? place ≠ some .directory ∧
      after = fs.set place (.file (.ofBytes bytes)) := by
  unfold write at h
  cases htarget : fs.target path with
  | error e =>
    rw [htarget] at h
    cases h
  | ok place =>
    rw [htarget] at h
    refine ⟨place, resolve_of_target htarget, ?_⟩
    simp only [bind, Except.bind] at h
    split at h
    · cases h
    · rename_i hnode
      cases h
      exact ⟨hnode, rfl⟩

theorem nodeAt_of_write {fs after : FileSystem} {path : String} {bytes : ByteArray}
    (h : fs.write path bytes = .ok after) :
    after.nodeAt path = .ok (.file (.ofBytes bytes)) := by
  obtain ⟨place, hresolve, hnode, rfl⟩ := write_eq_ok h
  have hkeeps := KeepsDirectories.set hnode (.file (.ofBytes bytes))
  unfold nodeAt
  rw [hkeeps.resolve hresolve]
  simp [bind, Except.bind]

theorem readBounded_of_write {fs after : FileSystem} {path : String} {bytes : ByteArray}
    (h : fs.write path bytes = .ok after) {limit : Nat} (hsize : bytes.size ≤ limit)
    (hlimit : limit ≤ maxWord) : after.readBounded path limit = .ok bytes := by
  unfold readBounded
  rw [nodeAt_of_write h]
  exact File.readBounded_ofBytes hsize hlimit

theorem read_of_write {fs after : FileSystem} {path : String} {bytes : ByteArray}
    (h : fs.write path bytes = .ok after) : after.read path = .ok bytes := by
  unfold read
  rw [nodeAt_of_write h]
  rfl

section Agree

variable {fs other : FileSystem} {path : String} (h : other.nodeAt path = fs.nodeAt path)
include h

theorem doesExist_congr : other.doesExist path = fs.doesExist path := by
  unfold doesExist
  rw [h]

theorem read_congr : other.read path = fs.read path := by
  unfold read
  rw [h]

theorem readBounded_congr (limit : Nat) :
    other.readBounded path limit = fs.readBounded path limit := by
  unfold readBounded
  rw [h]

end Agree

end FileSystem
end RuleStack
