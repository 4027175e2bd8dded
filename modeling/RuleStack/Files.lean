import RuleStack.Text.Basic
/-!
File systems as values: directories and files at places below one root. A path is walked name by
name, and every name on the way has to be a directory.
-/
set_option autoImplicit false

namespace RuleStack.Path

def isAbsolute (path : String) : Bool := path.toList.head? == some '/'

/-- `path` as seen from `dir`: an absolute path stands for itself. -/
def join (dir path : String) : String :=
  if isAbsolute path then path
  else if dir.isEmpty || dir.toList.getLast? == some '/' then dir ++ path
  else dir ++ "/" ++ path

def split : List Char → List Char × List Char
  | '/' :: rest => (['/'], rest)
  | ['.'] => (['.'], [])
  | '.' :: '/' :: rest => (['.'], '/' :: rest)
  | cs => ([], cs)

def parts (cs : List Char) : List (List Char) := Text.slices '/' cs

def isFiller (name : List Char) : Bool := name == [] || name == ['.']

def components (path : String) : List String :=
  let (lead, body) := split path.toList
  ((if lead.isEmpty then [] else [lead]) ++ (parts body).filter (!isFiller ·)).map String.ofList

/-- Takes fillers off the end of a body; the body is given and returned from its end. -/
def dropFillers (reversed : List Char) : List Char :=
  if isFiller (reversed.takeWhile (· != '/')) then
    match h : reversed.dropWhile (· != '/') with
    | [] => []
    | _ :: rest =>
      have : rest.length < reversed.length := by
        have := (List.dropWhile_suffix (l := reversed) (· != '/')).length_le
        rw [h] at this
        exact this
      dropFillers rest
  else reversed
termination_by reversed.length

theorem length_dropFillers_le (reversed : List Char) :
    (dropFillers reversed).length ≤ reversed.length := by
  fun_induction dropFillers reversed with
  | case1 => exact Nat.zero_le _
  | case2 _ _ _ _ _ hlt ih => exact Nat.le_of_lt (Nat.lt_of_le_of_lt ih hlt)
  | case3 => exact Nat.le_refl _

/-- The path without its last name; a root has no parent, and neither has the empty path. -/
def parentChars? (cs : List Char) : Option (List Char) :=
  match dropFillers (split cs).2.reverse with
  | [] => if (split cs).1 == ['.'] then some [] else none
  | reversed =>
    some ((split cs).1 ++ (dropFillers ((reversed.dropWhile (· != '/')).drop 1)).reverse)

theorem length_split (cs : List Char) :
    (split cs).1.length + (split cs).2.length = cs.length := by
  unfold split
  split <;> simp [Nat.add_comm]

theorem length_of_parentChars? {cs parent : List Char} (h : parentChars? cs = some parent) :
    parent.length < cs.length := by
  have hs := length_split cs
  unfold parentChars? at h
  split at h
  · split at h
    · rename_i hd
      cases h
      rw [beq_iff_eq] at hd
      rw [hd] at hs
      simp only [List.length_cons, List.length_nil] at hs ⊢
      omega
    · simp at h
  · rename_i hne
    cases h
    have h₁ := length_dropFillers_le (split cs).2.reverse
    rw [List.length_reverse] at h₁
    have hpos := List.length_pos_iff.2 hne
    have h₂ := length_dropFillers_le
      (((dropFillers (split cs).2.reverse).dropWhile (· != '/')).drop 1)
    rw [List.length_drop] at h₂
    have h₃ := (List.dropWhile_suffix (l := dropFillers (split cs).2.reverse) (· != '/')).length_le
    rw [List.length_append, List.length_reverse]
    omega

def parent? (path : String) : Option String := (parentChars? path.toList).map String.ofList

def ancestors (cs : List Char) : List (List Char) :=
  match h : parentChars? cs with
  | none => [cs]
  | some parent =>
    have := length_of_parentChars? h
    cs :: ancestors parent
termination_by cs.length

end RuleStack.Path

namespace RuleStack

inductive FileError where
  | noEntry
  | alreadyThere
  | notDirectory
  | isDirectory
  | nameTooLong
  | nulInName
  deriving DecidableEq, Repr

def FileError.message : FileError → String
  | .noEntry => "No such file or directory (os error 2)"
  | .alreadyThere => "File exists (os error 17)"
  | .notDirectory => "Not a directory (os error 20)"
  | .isDirectory => "Is a directory (os error 21)"
  | .nameTooLong => "File name too long (os error 36)"
  | .nulInName => "file name contained an unexpected NUL byte"

structure File where
  reportedSize : Nat
  bytes : ByteArray

inductive ReadError where
  | file (error : FileError)
  | tooLarge (size limit : Nat)
  deriving DecidableEq, Repr

def ReadError.message : ReadError → String
  | .file e => e.message
  | .tooLarge size limit =>
    "file size " ++ String.ofList (Nat.toDigits 10 size) ++ " exceeds limit " ++
      String.ofList (Nat.toDigits 10 limit)

def maxWord : Nat := 18446744073709551615

namespace File

def ofBytes (bytes : ByteArray) : File := ⟨bytes.size, bytes⟩

/-- Reads the whole content, or refuses: one byte more than the limit is enough to tell. -/
def readBounded (f : File) (limit : Nat) : Except ReadError ByteArray :=
  if limit < f.reportedSize then .error (.tooLarge f.reportedSize limit)
  else
    let bytes := f.bytes.extract 0 (min (limit + 1) maxWord)
    if limit < bytes.size then .error (.tooLarge bytes.size limit) else .ok bytes

end File

inductive Node where
  | file (file : File)
  | directory

abbrev Place := List String

structure FileSystem where
  node? : Place → Option Node
  workDir : Place

namespace FileSystem

def directorySize : Nat := 4096

def maxNameBytes : Nat := 255

/-- Paths have to be shorter than this. -/
def pathLimit : Nat := 4096

def blank (workDir : Place) : FileSystem :=
  ⟨fun place => if place.isPrefixOf workDir then some .directory else none, workDir⟩

def set (fs : FileSystem) (place : Place) (node : Node) : FileSystem :=
  { fs with node? := fun p => if p = place then some node else fs.node? p }

def enter (place : Place) (name : String) : Except FileError Place :=
  if name == "" || name == "." then .ok place
  else if name == ".." then .ok place.dropLast
  else if maxNameBytes < name.utf8ByteSize then .error .nameTooLong
  else .ok (place ++ [name])

/-- Follows names from a place. The place reached need not exist, those on the way have to. -/
def walk (fs : FileSystem) (place : Place) : List String → Except FileError Place
  | [] => .ok place
  | name :: rest =>
    match fs.node? place with
    | none => .error .noEntry
    | some (.file _) => .error .notDirectory
    | some .directory => do
      let place ← enter place name
      fs.walk place rest

def names (path : String) : List String := (Path.parts path.toList).map String.ofList

def checkText (path : String) : Except FileError Unit :=
  if path.toList.any (·.toNat == 0) then .error .nulInName
  else if path.isEmpty then .error .noEntry
  else if pathLimit ≤ path.utf8ByteSize then .error .nameTooLong
  else .ok ()

def origin (fs : FileSystem) (path : String) : Place :=
  if Path.isAbsolute path then [] else fs.workDir

def resolve (fs : FileSystem) (path : String) : Except FileError Place := do
  checkText path
  fs.walk (fs.origin path) (names path)

def nodeAt (fs : FileSystem) (path : String) : Except FileError Node := do
  match fs.node? (← fs.resolve path) with
  | some node => .ok node
  | none => .error .noEntry

def doesExist (fs : FileSystem) (path : String) : Bool := (fs.nodeAt path).isOk

def isDirectory (fs : FileSystem) (path : String) : Bool :=
  match fs.nodeAt path with
  | .ok .directory => true
  | _ => false

def read (fs : FileSystem) (path : String) : Except FileError ByteArray := do
  match ← fs.nodeAt path with
  | .file file => .ok file.bytes
  | .directory => .error .isDirectory

/-- A directory opens and reports a size, and fails to be read. -/
def readBounded (fs : FileSystem) (path : String) (limit : Nat) : Except ReadError ByteArray :=
  match fs.nodeAt path with
  | .error e => .error (.file e)
  | .ok (.file file) => file.readBounded limit
  | .ok .directory =>
    if limit < directorySize then .error (.tooLarge directorySize limit)
    else .error (.file .isDirectory)

def makeDirectory (fs : FileSystem) (path : String) : Except FileError FileSystem := do
  let place ← fs.resolve path
  match fs.node? place with
  | some _ => .error .alreadyThere
  | none => .ok (fs.set place .directory)

/-- Makes these directories, given from the innermost one on. Only as many are made as are
missing. -/
def makeDirectories (fs : FileSystem) : List String → FileSystem × Except FileError Unit
  | [] => (fs, .ok ())
  | path :: outer =>
    match fs.makeDirectory path with
    | .ok fs => (fs, .ok ())
    | .error .noEntry =>
      match fs.makeDirectories outer with
      | (fs, .error e) => (fs, .error e)
      | (fs, .ok ()) =>
        match fs.makeDirectory path with
        | .ok fs => (fs, .ok ())
        | .error e => (fs, if fs.isDirectory path && e == .alreadyThere then .ok () else .error e)
    | .error e => (fs, if fs.isDirectory path && e == .alreadyThere then .ok () else .error e)

/-- The directories that a path stands for, from itself outwards, down to the root or the working
directory. -/
def chain (path : String) : List String :=
  ((Path.ancestors path.toList).filter
    (fun cs => !cs.isEmpty && (Path.parentChars? cs).isSome)).map String.ofList

/-- The place of a file that is to be written. A path that ends in a slash names a directory, and
what is there does not matter then. -/
def target (fs : FileSystem) (path : String) : Except FileError Place := do
  checkText path
  match (names path).reverse.dropWhile (· == "") with
  | last :: before =>
    if path.toList.getLast? == some '/' && last != "." && last != ".." then
      let _ ← fs.walk (fs.origin path) (before.reverse ++ ["."])
      .error .isDirectory
    else fs.resolve path
  | [] => fs.resolve path

def write (fs : FileSystem) (path : String) (bytes : ByteArray) : Except FileError FileSystem := do
  let place ← fs.target path
  match fs.node? place with
  | some .directory => .error .isDirectory
  | _ => .ok (fs.set place (.file (.ofBytes bytes)))

end FileSystem
end RuleStack
