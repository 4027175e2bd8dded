import RuleStack.Definition.RuleFile
import RuleStack.Proofs.Files.Write
import RuleStack.Proofs.Rule.RoundTrip
/-!
`RuleFile.Holds` says which rules a file holds, and `RuleFile.Fails` what is wrong with a file that
holds none. A list of files gives the definitions of all of them, or the failure of the first that
fails (`RuleFile.readAll_outcome`).
-/
set_option autoImplicit false

namespace RuleStack

def DefinitionError.modulePath : DefinitionError → String
  | .unreadable path _ => path
  | .invalid path _ => path

namespace RuleFile

theorem read_congr {fs gs : FileSystem} {f g : RuleFile} (hmodule : f.modulePath = g.modulePath)
    (hread : fs.readBounded f.path maxBytes = gs.readBounded g.path maxBytes) :
    f.read fs = g.read gs := by
  rw [read, read, ← hread]
  cases fs.readBounded f.path maxBytes with
  | error e => rw [definitions, definitions, hmodule]
  | ok bytes => rw [definitions, definitions, hmodule]

theorem modulePath_of_read {fs : FileSystem} {f : RuleFile} {ds : List Definition}
    (h : f.read fs = .ok ds) : ∀ d ∈ ds, d.modulePath = f.modulePath := by
  rw [read] at h
  cases hread : fs.readBounded f.path maxBytes with
  | error e =>
    rw [hread] at h
    cases h
  | ok bytes =>
    rw [hread, definitions] at h
    split at h
    · cases h
    · cases h
      exact List.forall_mem_map.2 fun _ _ => rfl

theorem modulePath_of_read_error {fs : FileSystem} {f : RuleFile} {e : DefinitionError}
    (h : f.read fs = .error e) : e.modulePath = f.modulePath := by
  rw [read] at h
  cases hread : fs.readBounded f.path maxBytes with
  | error e =>
    rw [hread] at h
    cases h
    rfl
  | ok bytes =>
    rw [hread, definitions] at h
    split at h
    · cases h
      rfl
    · cases h

theorem decoded_of_read {fs : FileSystem} {f : RuleFile} {ds : List Definition}
    (h : f.read fs = .ok ds) : ∀ d ∈ ds, Json.Decoded Rule.ofJson d.rule := by
  rw [read] at h
  cases hread : fs.readBounded f.path maxBytes with
  | error e =>
    rw [hread] at h
    cases h
  | ok bytes =>
    rw [hread, definitions] at h
    split at h
    · cases h
    · rename_i rules hrules
      cases h
      rw [List.forall_mem_map]
      rw [rulesOfBytes] at hrules
      split at hrules
      · cases hrules
      · rename_i value hvalue
        exact Rule.decoded_of_listOfJson (Json.normal_of_parseBytes hvalue) hrules

theorem readAll_congr {fs gs : FileSystem} {files others : List RuleFile}
    (hmodules : files.map (·.modulePath) = others.map (·.modulePath))
    (hreads : files.map (fun f => fs.readBounded f.path maxBytes) =
      others.map (fun f => gs.readBounded f.path maxBytes)) :
    readAll fs files = readAll gs others := by
  induction files generalizing others with
  | nil =>
    cases others with
    | nil => rfl
    | cons => cases hmodules
  | cons f files ih =>
    cases others with
    | nil => cases hmodules
    | cons g others =>
      rw [List.map_cons, List.map_cons, List.cons.injEq] at hmodules hreads
      rw [readAll, readAll, read_congr hmodules.1 hreads.1, ih hmodules.2 hreads.2]

theorem readAll_cons_eq_ok_iff {fs : FileSystem} {f : RuleFile} {files : List RuleFile}
    {ds : List Definition} :
    readAll fs (f :: files) = .ok ds ↔
      ∃ found rest, f.read fs = .ok found ∧ readAll fs files = .ok rest ∧ found ++ rest = ds := by
  rw [readAll]
  cases f.read fs with
  | error e => simp
  | ok found => simp [Outcome.map_eq_ok_iff]

theorem modulePath_of_readAll {fs : FileSystem} {files : List RuleFile} {ds : List Definition}
    (h : readAll fs files = .ok ds) : ∀ d ∈ ds, d.modulePath ∈ files.map (·.modulePath) := by
  induction files generalizing ds with
  | nil =>
    cases h
    simp
  | cons f files ih =>
    obtain ⟨found, rest, hfound, hrest, rfl⟩ := readAll_cons_eq_ok_iff.1 h
    intro d hd
    rcases List.mem_append.1 hd with hd | hd
    · rw [modulePath_of_read hfound d hd]
      exact List.mem_cons_self
    · exact List.mem_cons_of_mem _ (ih hrest d hd)

theorem modulePath_of_readAll_error {fs : FileSystem} {files : List RuleFile} {e : DefinitionError}
    (h : readAll fs files = .error e) : e.modulePath ∈ files.map (·.modulePath) := by
  induction files with
  | nil => cases h
  | cons f files ih =>
    rw [readAll] at h
    split at h
    · rename_i hread
      cases h
      rw [modulePath_of_read_error hread]
      exact List.mem_cons_self
    · cases hrest : readAll fs files with
      | ok rest =>
        rw [hrest] at h
        cases h
      | error e' =>
        rw [hrest] at h
        cases h
        exact List.mem_cons_of_mem _ (ih hrest)

theorem decoded_of_readAll {fs : FileSystem} {files : List RuleFile} {ds : List Definition}
    (h : readAll fs files = .ok ds) : ∀ d ∈ ds, Json.Decoded Rule.ofJson d.rule := by
  induction files generalizing ds with
  | nil =>
    cases h
    simp
  | cons f files ih =>
    obtain ⟨found, rest, hfound, hrest, rfl⟩ := readAll_cons_eq_ok_iff.1 h
    exact List.forall_mem_append.2 ⟨decoded_of_read hfound, ih hrest⟩

end RuleFile

namespace Rule

/-- The rules of a document: one for an object, and one for each item of a list. -/
inductive Lists : Json → List Rule → Prop
  | object {members : List (String × Json)} {rule : Rule}
      (h : ofJson (.obj members) = .ok rule) : Lists (.obj members) [rule]
  | list {items : List Json} {rules : List Rule}
      (h : items.map ofJson = rules.map .ok) : Lists (.arr items) rules

/-- What is wrong with a document. Of a list it is what is wrong with the first item that is no
rule. -/
inductive Refused : Json → RuleError → Prop
  | neither {value : Json} (hobject : ∀ members, value ≠ .obj members)
      (hlist : ∀ items, value ≠ .arr items) : Refused value (.malformed .noRuleSet)
  | object {members : List (String × Json)} {e : RuleError}
      (h : ofJson (.obj members) = .error e) : Refused (.obj members) e
  | item {before : List Json} {item : Json} {after : List Json} {e : RuleError}
      (hbefore : ∀ earlier ∈ before, ∃ rule, ofJson earlier = .ok rule)
      (h : ofJson item = .error e) : Refused (.arr (before ++ item :: after)) e

theorem listOfJson_eq_ok_iff (value : Json) (rules : List Rule) :
    listOfJson value = .ok rules ↔ Lists value rules := by
  constructor
  · intro h
    cases value with
    | arr items => exact .list ((Outcome.mapM_eq_ok_iff ofJson items rules).1 h)
    | obj members =>
      obtain ⟨rule, hrule, rfl⟩ := (Outcome.map_eq_ok_iff ..).1 h
      exact .object hrule
    | _ => cases h
  · rintro (h | h)
    · exact (Outcome.map_eq_ok_iff ..).2 ⟨_, h, rfl⟩
    · exact (Outcome.mapM_eq_ok_iff ofJson _ rules).2 h

theorem listOfJson_eq_error_iff (value : Json) (e : RuleError) :
    listOfJson value = .error e ↔ Refused value e := by
  constructor
  · intro h
    cases value with
    | arr items =>
      obtain ⟨before, item, after, rfl, hbefore, hitem⟩ :=
        (Outcome.mapM_eq_error_iff ofJson items e).1 h
      exact .item hbefore hitem
    | obj members => exact .object ((Outcome.map_eq_error_iff ..).1 h)
    | _ =>
      cases h
      exact .neither nofun nofun
  · intro h
    cases h with
    | neither hobject hlist =>
      cases value with
      | obj members => exact absurd rfl (hobject members)
      | arr items => exact absurd rfl (hlist items)
      | _ => rfl
    | object h => exact (Outcome.map_eq_error_iff ..).2 h
    | item hbefore h =>
      exact (Outcome.mapM_eq_error_iff ofJson _ e).2 ⟨_, _, _, rfl, hbefore, h⟩

end Rule

namespace RuleFile

/-- The file is there and not too large, and its text is a document of these rules. -/
inductive Holds (fs : FileSystem) (f : RuleFile) : List Rule → Prop
  | intro {size : Nat} {bytes : ByteArray} {value : Json} {rules : List Rule}
      (hfile : fs.nodeAt f.path = .ok (.file ⟨size, bytes⟩)) (hreported : size ≤ 1048576)
      (hsize : bytes.size ≤ 1048576) (hvalue : Json.parseBytes bytes = .ok value)
      (hrules : Rule.Lists value rules) : Holds fs f rules

/-- What is wrong with the file, told under its module path. -/
inductive Fails (fs : FileSystem) (f : RuleFile) : DefinitionError → Prop
  | unreadable {cause : ReadError} (h : fs.readBounded f.path 1048576 = .error cause) :
      Fails fs f (.unreadable f.modulePath cause)
  | noJson {bytes : ByteArray} {e : Json.ParseError}
      (hbytes : fs.readBounded f.path 1048576 = .ok bytes) (h : Json.parseBytes bytes = .error e) :
      Fails fs f (.invalid f.modulePath (.malformed (.unreadable e)))
  | refused {bytes : ByteArray} {value : Json} {e : RuleError}
      (hbytes : fs.readBounded f.path 1048576 = .ok bytes)
      (hvalue : Json.parseBytes bytes = .ok value) (h : Rule.Refused value e) :
      Fails fs f (.invalid f.modulePath e)

variable {fs : FileSystem} {f : RuleFile}

theorem holds_iff {rules : List Rule} :
    f.Holds fs rules ↔
      ∃ bytes, fs.readBounded f.path maxBytes = .ok bytes ∧ rulesOfBytes bytes = .ok rules := by
  have hlimit : maxBytes < maxWord := by decide
  constructor
  · rintro ⟨hfile, hreported, hsize, hvalue, hrules⟩
    refine ⟨_, (fs.readBounded_eq_ok_iff f.path hlimit _).2 ⟨_, hfile, hreported, hsize⟩, ?_⟩
    rw [rulesOfBytes, hvalue]
    exact (Rule.listOfJson_eq_ok_iff ..).2 hrules
  · rintro ⟨bytes, hbytes, hrules⟩
    obtain ⟨size, hfile, hreported, hsize⟩ := (fs.readBounded_eq_ok_iff f.path hlimit _).1 hbytes
    rw [rulesOfBytes] at hrules
    split at hrules
    · cases hrules
    · rename_i value hvalue
      exact ⟨hfile, hreported, hsize, hvalue, (Rule.listOfJson_eq_ok_iff ..).1 hrules⟩

theorem read_eq_ok_iff {ds : List Definition} :
    f.read fs = .ok ds ↔ ∃ rules, f.Holds fs rules ∧ rules.map (⟨f.modulePath, ·⟩) = ds := by
  simp only [holds_iff, read]
  cases fs.readBounded f.path maxBytes with
  | error e => simp [definitions]
  | ok bytes =>
    cases hrules : rulesOfBytes bytes <;> simp [definitions, hrules]

theorem rulesOfBytes_eq_error_iff (bytes : ByteArray) (e : RuleError) :
    rulesOfBytes bytes = .error e ↔
      (∃ fault, Json.parseBytes bytes = .error fault ∧ .malformed (.unreadable fault) = e) ∨
        ∃ value, Json.parseBytes bytes = .ok value ∧ Rule.Refused value e := by
  rw [rulesOfBytes]
  cases Json.parseBytes bytes <;> simp [Rule.listOfJson_eq_error_iff]

theorem read_eq_error_iff {e : DefinitionError} : f.read fs = .error e ↔ f.Fails fs e := by
  rw [read]
  constructor
  · intro h
    cases hbytes : fs.readBounded f.path maxBytes with
    | error cause =>
      rw [hbytes] at h
      cases h
      exact .unreadable hbytes
    | ok bytes =>
      rw [hbytes, definitions] at h
      split at h
      · rename_i fault hfault
        cases h
        rcases (rulesOfBytes_eq_error_iff bytes fault).1 hfault with
          ⟨error, herror, rfl⟩ | ⟨value, hvalue, hrefused⟩
        · exact .noJson hbytes herror
        · exact .refused hbytes hvalue hrefused
      · cases h
  · have hfault {bytes : ByteArray} {fault : RuleError}
        (hbytes : fs.readBounded f.path maxBytes = .ok bytes)
        (h : rulesOfBytes bytes = .error fault) :
        f.definitions (fs.readBounded f.path maxBytes) = .error (.invalid f.modulePath fault) := by
      rw [hbytes, definitions, h]
    intro h
    cases h with
    | unreadable h => exact congrArg f.definitions h
    | noJson hbytes h =>
      exact hfault hbytes ((rulesOfBytes_eq_error_iff ..).2 (.inl ⟨_, h, rfl⟩))
    | refused hbytes hvalue h =>
      exact hfault hbytes ((rulesOfBytes_eq_error_iff ..).2 (.inr ⟨_, hvalue, h⟩))

theorem exists_read_iff : (∃ ds, f.read fs = .ok ds) ↔ ∃ rules, f.Holds fs rules := by
  simp only [read_eq_ok_iff]
  exact ⟨fun ⟨_, rules, h, _⟩ => ⟨rules, h⟩, fun ⟨rules, h⟩ => ⟨_, rules, h, rfl⟩⟩

theorem readAll_eq (fs : FileSystem) (files : List RuleFile) :
    readAll fs files = (files.mapM (RuleFile.read · fs)).map List.flatten := by
  induction files with
  | nil => rfl
  | cons f files ih =>
    rw [readAll, List.mapM_cons]
    cases f.read fs with
    | error e => rfl
    | ok found =>
      rw [ih]
      cases files.mapM (RuleFile.read · fs) <;> rfl

theorem readAll_eq_error_iff {files : List RuleFile} {e : DefinitionError} :
    readAll fs files = .error e ↔
      ∃ before f after, files = before ++ f :: after ∧
        (∀ earlier ∈ before, ∃ rules, earlier.Holds fs rules) ∧ f.Fails fs e := by
  simp only [readAll_eq, Outcome.map_eq_error_iff, Outcome.mapM_eq_error_iff, exists_read_iff,
    read_eq_error_iff]

theorem exists_readAll_iff {files : List RuleFile} :
    (∃ ds, readAll fs files = .ok ds) ↔ ∀ f ∈ files, ∃ rules, f.Holds fs rules := by
  induction files with
  | nil => simp [readAll]
  | cons f files ih =>
    rw [List.forall_mem_cons, ← ih, ← exists_read_iff]
    simp only [readAll_cons_eq_ok_iff]
    constructor
    · rintro ⟨ds, found, rest, hfound, hrest, -⟩
      exact ⟨⟨found, hfound⟩, rest, hrest⟩
    · rintro ⟨⟨found, hfound⟩, rest, hrest⟩
      exact ⟨_, found, rest, hfound, hrest, rfl⟩

def definitionsOf (contents : List (RuleFile × List Rule)) : List Definition :=
  contents.flatMap fun e => e.2.map (⟨e.1.modulePath, ·⟩)

theorem readAll_eq_ok_iff {files : List RuleFile} {ds : List Definition} :
    readAll fs files = .ok ds ↔
      ∃ contents : List (RuleFile × List Rule), contents.map (·.1) = files ∧
        (∀ e ∈ contents, e.1.Holds fs e.2) ∧ definitionsOf contents = ds := by
  induction files generalizing ds with
  | nil =>
    constructor
    · intro h
      cases h
      exact ⟨[], rfl, List.forall_mem_nil _, rfl⟩
    · rintro ⟨contents, hfiles, -, rfl⟩
      rw [List.map_eq_nil_iff.1 hfiles]
      rfl
  | cons f files ih =>
    rw [readAll_cons_eq_ok_iff]
    constructor
    · rintro ⟨found, rest, hfound, hrest, rfl⟩
      obtain ⟨rules, hrules, rfl⟩ := read_eq_ok_iff.1 hfound
      obtain ⟨contents, rfl, hcontents, rfl⟩ := ih.1 hrest
      exact ⟨(f, rules) :: contents, rfl, List.forall_mem_cons.2 ⟨hrules, hcontents⟩, rfl⟩
    · rintro ⟨contents, hfiles, hcontents, rfl⟩
      cases contents with
      | nil => cases hfiles
      | cons e contents =>
        cases hfiles
        rw [List.forall_mem_cons] at hcontents
        exact ⟨_, _, read_eq_ok_iff.2 ⟨e.2, hcontents.1, rfl⟩,
          ih.2 ⟨contents, rfl, hcontents.2, rfl⟩, rfl⟩

theorem modulePath_of_fails {e : DefinitionError} (h : f.Fails fs e) :
    e.modulePath = f.modulePath := modulePath_of_read_error (read_eq_error_iff.2 h)

/-- Files give definitions just if each of them holds rules: those of all files in order, under the
module paths of their files. Otherwise the first file that holds none gives the error, which names
the module path of that file. -/
theorem readAll_outcome (fs : FileSystem) (files : List RuleFile) :
    ((∃ ds, readAll fs files = .ok ds) ↔ ∀ f ∈ files, ∃ rules, f.Holds fs rules) ∧
      (∀ ds, readAll fs files = .ok ds ↔
        ∃ contents : List (RuleFile × List Rule), contents.map (·.1) = files ∧
          (∀ e ∈ contents, e.1.Holds fs e.2) ∧ definitionsOf contents = ds) ∧
      ∀ e, readAll fs files = .error e ↔
        ∃ before f after, files = before ++ f :: after ∧
          (∀ earlier ∈ before, ∃ rules, earlier.Holds fs rules) ∧ f.Fails fs e ∧
          e.modulePath = f.modulePath := by
  refine ⟨exists_readAll_iff, fun ds => readAll_eq_ok_iff, fun e => readAll_eq_error_iff.trans ?_⟩
  have hnamed (f : RuleFile) : f.Fails fs e ↔ f.Fails fs e ∧ e.modulePath = f.modulePath :=
    (and_iff_left_of_imp modulePath_of_fails).symm
  exact exists_congr fun _ => exists_congr fun f => exists_congr fun _ => by rw [← hnamed f]

/-- The file with a rule whose name is a number comes before the one that is not there. -/
example : readAll
    ((FileSystem.blank ["home"]).set ["home", "named.json"]
      (.file (.ofBytes "[\x7b\x7d, \x7b\"name\": 5\x7d]".toUTF8)))
    [⟨"rules/named.json", "named.json"⟩, ⟨"rules/gone.json", "gone.json"⟩] =
      .error (.invalid "rules/named.json"
        (.malformed (.mismatch (.wrongType (.num (.integer 5 (by decide))) "a string")))) := by
  decide +kernel

end RuleFile

end RuleStack
