import Mathlib.Control.Monad.Basic
import RuleStack.Config.Basic
import RuleStack.Proofs.Outcome
import RuleStack.Proofs.Stack.Revision
/-!
`Config.Valid` says what settings have to be, and `Config.faults` lists what is wrong with them.
Checking them reports the first fault of the list (`Config.validate_outcome`), and valid settings
name a revision that gives every stack a deployment key (`Config.validate_revision`).
-/
set_option autoImplicit false

namespace RuleStack.Config

open Outcome

def TextFits (value : String) : Prop := Text.trim value ≠ "" ∧ value.utf8ByteSize ≤ 1024

structure PathFits (value : String) : Prop where
  given : Text.trim value ≠ ""
  size : (Text.trim value).utf8ByteSize ≤ 4096
  components : ∀ name ∈ Path.components (Text.trim value), name.utf8ByteSize ≤ 255

def TokenFits (token : String) : Prop :=
  1 ≤ token.length ∧ token.length ≤ 64 ∧ ∀ c ∈ token.toList, c.isAlphanum = true

instance (token : String) : Decidable (TokenFits token) := inferInstanceAs (Decidable (_ ∧ _ ∧ _))

structure Valid (c : Config) : Prop where
  description : TextFits c.description
  formatVersion : TextFits c.formatVersion
  packageCount : c.packages.length ≤ 256
  packages : ∀ package ∈ c.packages, TextFits package
  packagesApart : c.packages.Pairwise fun p q => Text.lowercase p ≠ Text.lowercase q
  pathCount : c.rulePaths.length ≤ 1024
  paths : ∀ path ∈ c.rulePaths, PathFits path
  runtime : TextFits c.runtime
  tokenGiven : c.token ≠ none ↔ c.mode = .token
  token : ∀ token ∈ c.token, TokenFits token
  output : ∀ path ∈ c.outputPath, PathFits path

def textFaults (field value : String) : List ConfigFault :=
  faultUnless (Text.trim value ≠ "") (.blank field) ++
    faultUnless (value.utf8ByteSize ≤ 1024) (.tooLong field)

def pathFaults (field value : String) : List ConfigFault :=
  faultUnless (Text.trim value ≠ "") (.blank field) ++
    (faultUnless ((Text.trim value).utf8ByteSize ≤ 4096) (.tooLong field) ++
      faultUnless (∀ name ∈ Path.components (Text.trim value), name.utf8ByteSize ≤ 255)
        (.componentTooLong field))

def packageFaults (packages : List String) (package : String) (place : Nat) : List ConfigFault :=
  textFaults "namespace.packages entry" package ++
    faultUnless (∀ earlier ∈ packages.take place, Text.lowercase earlier ≠ Text.lowercase package)
      (.repeatedPackage package)

def templateFaults (c : Config) : List ConfigFault :=
  textFaults "template.description" c.description ++
    textFaults "template.format_version" c.formatVersion

def namespaceFaults (c : Config) : List ConfigFault :=
  faultUnless (c.packages.length ≤ 256) .tooManyPackages ++
    c.packages.zipIdx.flatMap fun e => packageFaults c.packages e.1 e.2

def rulesFaults (c : Config) : List ConfigFault :=
  faultUnless (c.rulePaths.length ≤ 1024) .tooManyPaths ++
    c.rulePaths.flatMap (pathFaults "rules.paths entry")

def deploymentFaults (c : Config) : List ConfigFault :=
  faultUnless (c.mode = .token → c.token ≠ none) .tokenMissing ++
    (faultUnless (c.token ≠ none → c.mode = .token) .tokenUnused ++
      c.token.toList.flatMap fun token =>
        faultUnless (TokenFits token) (.tokenUnfit (.invalidToken token)))

def outputFaults (c : Config) : List ConfigFault :=
  c.outputPath.toList.flatMap (pathFaults "output.path")

def faults (c : Config) : List ConfigFault :=
  c.templateFaults ++ (c.namespaceFaults ++ (c.rulesFaults ++
    (textFaults "build.runtime" c.runtime ++ (c.deploymentFaults ++ c.outputFaults))))

theorem textFaults_eq_nil_iff (field value : String) :
    textFaults field value = [] ↔ TextFits value := by
  rw [textFaults, List.append_eq_nil_iff, faultUnless_eq_nil_iff, faultUnless_eq_nil_iff, TextFits]

theorem pathFaults_eq_nil_iff (field value : String) :
    pathFaults field value = [] ↔ PathFits value := by
  simp only [pathFaults, List.append_eq_nil_iff, faultUnless_eq_nil_iff]
  constructor
  · rintro ⟨given, size, components⟩
    exact ⟨given, size, components⟩
  · rintro ⟨given, size, components⟩
    exact ⟨given, size, components⟩

/-- To differ from all packages before it is to differ from all packages. -/
theorem packagesApart_iff (packages : List String) :
    (∀ e ∈ packages.zipIdx, ∀ earlier ∈ packages.take e.2,
        Text.lowercase earlier ≠ Text.lowercase e.1) ↔
      packages.Pairwise fun p q => Text.lowercase p ≠ Text.lowercase q := by
  rw [List.pairwise_iff_getElem]
  constructor
  · intro h i j hi hj hlt
    exact h (packages[j], j) (List.mk_mem_zipIdx_iff_getElem?.2 (List.getElem?_eq_getElem hj)) _
      (List.mem_take_iff_getElem.2 ⟨i, by omega, rfl⟩)
  · rintro h ⟨package, j⟩ hpackage earlier hearlier
    obtain ⟨hj, rfl⟩ := List.getElem?_eq_some_iff.1 (List.mk_mem_zipIdx_iff_getElem?.1 hpackage)
    obtain ⟨i, hi, rfl⟩ := List.mem_take_iff_getElem.1 hearlier
    exact h i j (by omega) hj (by omega)

theorem namespaceFaults_eq_nil_iff (c : Config) :
    c.namespaceFaults = [] ↔ c.packages.length ≤ 256 ∧ (∀ package ∈ c.packages, TextFits package) ∧
      c.packages.Pairwise fun p q => Text.lowercase p ≠ Text.lowercase q := by
  have htexts : (∀ e ∈ c.packages.zipIdx, TextFits e.1) ↔
      ∀ package ∈ c.packages, TextFits package := by
    rw [← List.forall_mem_map (f := Prod.fst), List.zipIdx_map_fst]
  simp only [namespaceFaults, packageFaults, List.append_eq_nil_iff, faultUnless_eq_nil_iff,
    List.flatMap_eq_nil_iff, textFaults_eq_nil_iff, forall_and, htexts,
    packagesApart_iff]

theorem deploymentFaults_eq_nil_iff (c : Config) :
    c.deploymentFaults = [] ↔
      (c.token ≠ none ↔ c.mode = .token) ∧ ∀ token ∈ c.token, TokenFits token := by
  simp only [deploymentFaults, List.append_eq_nil_iff, faultUnless_eq_nil_iff,
    List.flatMap_eq_nil_iff, Option.mem_toList]
  constructor
  · rintro ⟨hgiven, hused, hfits⟩
    exact ⟨⟨hused, hgiven⟩, hfits⟩
  · rintro ⟨⟨hused, hgiven⟩, hfits⟩
    exact ⟨hgiven, hused, hfits⟩

theorem faults_eq_nil_iff (c : Config) : c.faults = [] ↔ c.Valid := by
  simp only [faults, templateFaults, rulesFaults, outputFaults, List.append_eq_nil_iff,
    faultUnless_eq_nil_iff, List.flatMap_eq_nil_iff, Option.mem_toList, textFaults_eq_nil_iff,
    pathFaults_eq_nil_iff, namespaceFaults_eq_nil_iff, deploymentFaults_eq_nil_iff]
  constructor
  · rintro ⟨⟨description, formatVersion⟩, ⟨packageCount, packages, packagesApart⟩,
      ⟨pathCount, paths⟩, runtime, ⟨tokenGiven, token⟩, output⟩
    exact ⟨description, formatVersion, packageCount, packages, packagesApart, pathCount, paths,
      runtime, tokenGiven, token, output⟩
  · rintro ⟨description, formatVersion, packageCount, packages, packagesApart, pathCount, paths,
      runtime, tokenGiven, token, output⟩
    exact ⟨⟨description, formatVersion⟩, ⟨packageCount, packages, packagesApart⟩,
      ⟨pathCount, paths⟩, runtime, ⟨tokenGiven, token⟩, output⟩

theorem checkText_eq (field value : String) :
    checkText field value = ofFaults (textFaults field value) := by
  have hgiven : Text.trim value ≠ "" ↔ ¬ Text.blank value = true :=
    not_congr (Text.trim_eq_empty_iff value)
  simp only [textFaults, ofFaults_unless_append, ofFaults_unless, hgiven, ← Nat.not_lt, ite_not]
  rfl

theorem checkPath_eq (field value : String) :
    checkPath field value = ofFaults (pathFaults field value) := by
  have hgiven : Text.trim value ≠ "" ↔ ¬ (Text.trim value).isEmpty = true :=
    not_congr String.isEmpty_iff.symm
  have hcomponents : (∀ name ∈ Path.components (Text.trim value), name.utf8ByteSize ≤ 255) ↔
      componentsFit (Text.trim value) = true := by
    simp only [componentsFit, List.all_eq_true, decide_eq_true_eq]
    exact Iff.rfl
  have hsize : (Text.trim value).utf8ByteSize ≤ 4096 ↔
      ¬ maxPathLength < (Text.trim value).utf8ByteSize := Nat.not_lt.symm
  simp only [pathFaults, ofFaults_unless_append, ofFaults_unless, hgiven, hsize, hcomponents,
    ite_not, checkPath]

theorem checkPackages_eq {packages before rest seen : List String}
    (h : packages = before ++ rest) (hseen : ∀ s, s ∈ seen ↔ s ∈ before.map Text.lowercase) :
    checkPackages seen rest =
      ofFaults ((rest.zipIdx before.length).flatMap fun e => packageFaults packages e.1 e.2) := by
  induction rest generalizing before seen with
  | nil => rfl
  | cons package rest ih =>
    have hbefore : packages.take before.length = before := by rw [h, List.take_left]
    have hnew : (∀ earlier ∈ before, Text.lowercase earlier ≠ Text.lowercase package) ↔
        Text.lowercase package ∉ seen := by
      rw [hseen, List.mem_map]
      exact ⟨fun hall ⟨earlier, hmem, he⟩ => hall earlier hmem he,
        fun hnone earlier hmem he => hnone ⟨earlier, hmem, he⟩⟩
    have hseen' : ∀ s, s ∈ Text.lowercase package :: seen ↔
        s ∈ (before ++ [package]).map Text.lowercase := by
      simp [hseen, or_comm]
    have hrest := ih (h.trans (List.append_cons before package rest)) hseen'
    rw [List.length_append, List.length_singleton] at hrest
    rw [checkPackages, List.zipIdx_cons, List.flatMap_cons, ofFaults_append, packageFaults,
      ofFaults_append, ← checkText_eq, ofFaults_unless, hbefore, ← hrest]
    simp only [hnew, ite_not]
    cases checkText "namespace.packages entry" package with
    | error e => rfl
    | ok u =>
      by_cases hpackage : Text.lowercase package ∈ seen
      · rw [if_pos hpackage, if_pos hpackage]
        rfl
      · rw [if_neg hpackage, if_neg hpackage]
        rfl

theorem checkNamespace_eq (c : Config) : c.checkNamespace = ofFaults c.namespaceFaults := by
  have hpackages := checkPackages_eq (List.nil_append c.packages).symm fun s => Iff.refl (s ∈ [])
  simp only [namespaceFaults, ofFaults_unless_append, ← Nat.not_lt, ite_not]
  rw [checkNamespace, hpackages]
  rfl

theorem checkRules_eq (c : Config) : c.checkRules = ofFaults c.rulesFaults := by
  simp only [rulesFaults, ofFaults_unless_append, ← Nat.not_lt, ite_not,
    ← forM_eq_ofFaults (checkPath_eq "rules.paths entry")]
  rfl

theorem checkToken_eq (token : String) :
    (Revision.checkToken token).mapError ConfigFault.tokenUnfit =
      ofFaults (faultUnless (TokenFits token) (.tokenUnfit (.invalidToken token))) := by
  have hfits : TokenFits token ↔ Revision.tokenFits token = true :=
    (Revision.tokenFits_iff token).symm
  simp only [ofFaults_unless, hfits, Revision.checkToken]
  split <;> rfl

theorem checkDeployment_eq (c : Config) : c.checkDeployment = ofFaults c.deploymentFaults := by
  rw [deploymentFaults, ofFaults_unless_append, ofFaults_unless_append, checkDeployment]
  cases c.mode <;> cases c.token <;> simp [checkToken_eq]

theorem checkOutput_eq (c : Config) : c.checkOutput = ofFaults c.outputFaults := by
  rw [checkOutput, outputFaults]
  cases c.outputPath with
  | none => rfl
  | some path => simp [checkPath_eq]

theorem validate_eq (c : Config) : c.validate = ofFaults c.faults := by
  simp only [validate, checkTemplate, checkText_eq, checkNamespace_eq, checkRules_eq,
    checkDeployment_eq, checkOutput_eq, faults, templateFaults, ofFaults_append]

theorem valid_of_validate {c : Config} (h : c.validate = .ok ()) : c.Valid := by
  rw [validate_eq, ofFaults_eq_ok_iff] at h
  exact c.faults_eq_nil_iff.1 h

/-- Settings pass just if they are valid, and the error of those that do not pass is the first of
their faults. -/
theorem validate_outcome (c : Config) :
    (c.validate = .ok () ↔ c.Valid) ∧
      ∀ fault, c.validate = .error fault ↔ c.faults.head? = some fault := by
  rw [validate_eq]
  exact ⟨(ofFaults_eq_ok_iff _).trans c.faults_eq_nil_iff, ofFaults_eq_error_iff _⟩

/-- Empty components and dots in a path do no harm, and what is wrong is the missing token. -/
example : ({ standard with
      rulePaths := [".//rules/./audit.json/"]
      mode := .token } : Config).validate = .error .tokenMissing := by
  rfl

end RuleStack.Config

namespace RuleStack.Config

variable {c : Config}

/-- A content hash does not stand in for a token. -/
theorem revision_of_valid (h : c.Valid) :
    (c.mode = .fixed → c.options.revision = .fixed) ∧
      (c.mode = .contentHash → c.options.revision = .contentHash) ∧
      (c.mode = .token → ∃ token, c.token = some token ∧ c.options.revision = .token token) := by
  refine ⟨fun hmode => ?_, fun hmode => ?_, fun hmode => ?_⟩
  · rw [options, revision, hmode]
  · rw [options, revision, hmode]
  · obtain ⟨token, htoken⟩ := Option.ne_none_iff_exists'.1 (h.tokenGiven.2 hmode)
    exact ⟨token, htoken, by rw [options, revision, hmode, htoken]⟩

theorem key_of_valid (h : c.Valid) (base : Template) (bundles : List Bundle) :
    ∃ suffix, c.options.revision.deploymentKey base bundles = .ok ("ApiDeployment" ++ suffix) ∧
      suffix.length ≤ 64 ∧ ∀ x ∈ suffix.toList, x.isAlphanum = true := by
  obtain ⟨hfixed, hhash, htoken⟩ := revision_of_valid h
  refine Revision.suffix_of_fits (fun token hrevision => ?_) base bundles
  cases hmode : c.mode with
  | fixed =>
    rw [hfixed hmode] at hrevision
    cases hrevision
  | contentHash =>
    rw [hhash hmode] at hrevision
    cases hrevision
  | token =>
    obtain ⟨given, hgiven, hnamed⟩ := htoken hmode
    cases hnamed.symm.trans hrevision
    exact (Revision.tokenFits_iff token).2 (h.token token hgiven)

theorem not_fits_of_rejected {token : String} {base : Template} {bundles : List Bundle}
    {e : StackError} (h : (Revision.token token).deploymentKey base bundles = .error e) :
    ¬ TokenFits token := by
  intro hfits
  have hkey := Revision.suffix_of_fits (r := .token token) (fun other hother => by
    cases hother
    exact (Revision.tokenFits_iff token).2 hfits) base bundles
  obtain ⟨suffix, hok, -⟩ := hkey
  cases h.symm.trans hok

theorem error_of_not_valid (h : ¬ c.Valid) : ∃ fault, c.validate = .error fault :=
  (Outcome.exists_eq_error_iff _).2 fun _ hok => h (valid_of_validate hok)

/-- Settings that pass carry just the revision that they name, and a deployment key is made with it,
whatever is compiled. Settings do not pass with a token that is missing, unfit for a key, or not
asked for. -/
theorem validate_revision (c : Config) :
    (c.validate = .ok () →
      ((c.mode = .fixed → c.options.revision = .fixed) ∧
        (c.mode = .contentHash → c.options.revision = .contentHash) ∧
        (c.mode = .token → ∃ token, c.token = some token ∧ c.options.revision = .token token)) ∧
      ∀ base bundles, ∃ suffix,
        c.options.revision.deploymentKey base bundles = .ok ("ApiDeployment" ++ suffix) ∧
          suffix.length ≤ 64 ∧ ∀ x ∈ suffix.toList, x.isAlphanum = true) ∧
    (c.mode = .token →
      (∀ token, c.token = some token → ∃ base bundles e,
        (Revision.token token).deploymentKey base bundles = .error e) →
      ∃ fault, c.validate = .error fault) ∧
    (c.mode ≠ .token → c.token ≠ none → ∃ fault, c.validate = .error fault) := by
  refine ⟨fun hok => ?_, fun hmode hrejected => ?_, fun hmode hgiven => ?_⟩
  · have hvalid := valid_of_validate hok
    exact ⟨revision_of_valid hvalid, key_of_valid hvalid⟩
  · refine error_of_not_valid fun hvalid => ?_
    obtain ⟨token, htoken⟩ := Option.ne_none_iff_exists'.1 (hvalid.tokenGiven.2 hmode)
    obtain ⟨base, bundles, e, he⟩ := hrejected token htoken
    exact not_fits_of_rejected he (hvalid.token token htoken)
  · exact error_of_not_valid fun hvalid => hmode (hvalid.tokenGiven.1 hgiven)

def named (token : String) : Config := { standard with mode := .token, token := some token }

theorem validate_revision_sample :
    ((named "build7").validate = .ok () ∧ (named "build7").options.revision = .token "build7" ∧
        ∃ suffix, (named "build7").options.revision.deploymentKey .empty [] =
          .ok ("ApiDeployment" ++ suffix)) ∧
      (∃ fault, (named "build-7").validate = .error fault) ∧
      ∃ fault, ({ named "build7" with mode := .fixed }).validate = .error fault := by
  have hok : (named "build7").validate = .ok () := by rfl
  obtain ⟨⟨-, -, hrevision⟩, hkey⟩ := (validate_revision (named "build7")).1 hok
  obtain ⟨token, htoken, hrevision⟩ := hrevision rfl
  cases htoken
  obtain ⟨suffix, hsuffix, -⟩ := hkey .empty []
  have hrejected : ∀ token, (named "build-7").token = some token → ∃ base bundles e,
      (Revision.token token).deploymentKey base bundles = .error e := by
    intro token htoken
    cases htoken
    exact ⟨.empty, [], .invalidToken "build-7", rfl⟩
  exact ⟨⟨hok, hrevision, suffix, hsuffix⟩, (validate_revision _).2.1 rfl hrejected,
    (validate_revision _).2.2 (by decide) (by decide)⟩

end RuleStack.Config
