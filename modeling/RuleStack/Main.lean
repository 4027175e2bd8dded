import RuleStack.Cli.Run
/-!
The program takes a picture of the files that a command may look at, runs the command on it, and
carries out what changed.
-/
set_option autoImplicit false

namespace RuleStack

def lookAt (path : String) : IO (Option Node) := do
  try
    let bytes ← IO.FS.readBinFile path
    return some (.file (.ofBytes bytes))
  catch
    | .inappropriateType .. => return some .directory
    | _ => return none

def addToPicture (fs : FileSystem) (paths : List String) : IO FileSystem :=
  (Command.trails paths).foldlM (fun fs path => do
    match fs.resolve path, ← lookAt path with
    | .ok place, some node => return fs.set place node
    | _, _ => return fs) fs

def takePicture (environment : Option String) (command : Command) : IO FileSystem := do
  let here ← IO.currentDir
  let fs := FileSystem.blank (Path.components here.toString |>.filter (· != "/"))
  let fs ← addToPicture fs (command.paths fs environment)
  addToPicture fs (command.paths fs environment)

/-- Makes the directories and writes the files that are in one picture and not in the other. -/
def carryOut (before after : FileSystem) (paths : List String) : IO Unit :=
  for path in Command.trails paths do
    match before.nodeAt path, after.nodeAt path with
    | .ok .directory, .ok .directory => pure ()
    | _, .ok .directory => IO.FS.createDir path
    | .ok (.file old), .ok (.file new) =>
      if old.bytes.data != new.bytes.data then IO.FS.writeBinFile path new.bytes
    | _, .ok (.file new) => IO.FS.writeBinFile path new.bytes
    | _, .error _ => pure ()

def runProgram (args : List String) : IO UInt32 := do
  let environment ← IO.getEnv Config.environmentVariable
  let fs ←
    match Arguments.read args with
    | .ok command => takePicture environment command
    | .error _ => pure (.blank [])
  let outcome := Cli.run fs environment args
  match Arguments.read args with
  | .ok command => carryOut fs outcome.files (command.paths fs environment)
  | .error _ => pure ()
  IO.print outcome.printed
  IO.eprint outcome.complaint
  return outcome.code.toUInt32

end RuleStack

def main (args : List String) : IO UInt32 := RuleStack.runProgram args
