import PipelineDepot.CommandLine.Program

/-! # The program

The outermost layer: the machine's own file system as a disk, its variables as an environment, and a
run of the program with its arguments.
-/

namespace PipelineDepot.Main

/-- The machine's code for a cause, which some calls give with a minus sign. -/
def isCode (code : UInt32) (number : UInt32) : Bool := code == number || code == 0 - number

/-- The cause behind an error of the machine. -/
def fileError : IO.Error → FileError
  | .noFileOrDirectory _ _ _ => .notFound
  | .alreadyExists _ _ _ => .alreadyExists
  | .inappropriateType _ code details =>
    if isCode code 20 then .notADirectory
    else if isCode code 21 then .isADirectory
    else .other details
  | .invalidArgument _ code details =>
    if isCode code 36 then .nameTooLong else .other details
  | error => .other (toString error)

/-- Makes a call on the machine. -/
def call {α : Type} (action : IO α) : IO (Except FileError α) := do
  try
    return .ok (← action)
  catch error => return .error (fileError error)

/-- Opens what stands at a path. -/
def openPath (path : String) : IO (Except FileError Files.Opened) := do
  match ← call (IO.FS.readBinFile path) with
  | .ok content => return .ok (.file content.toList)
  | .error .isADirectory => return .ok .directory
  | .error cause => return .error cause

/-- The file system of the machine. -/
def disk : Files.Disk IO where
  makeDirs path := call (IO.FS.createDirAll path)
  openPath path := openPath path
  write path content := call (IO.FS.writeBinFile path ⟨content.toArray⟩)
  remove path := call (IO.FS.removeFile path)

/-- The variables of the machine with the given names. -/
def environment (names : List String) : IO Environment := do
  let pairs ← names.filterMapM fun name => do
    return (← IO.getEnv name).map (name, ·)
  return .ofPairs pairs

/-- The names of the variables that a run looks at. -/
def names (arguments : List String) : IO (List String) := do
  match CommandLine.parse arguments with
  | .error _ => return []
  | .ok line =>
    match line.flags.config with
    | none => return Environment.configNames
    | some path =>
      match ← disk.readText path with
      | .error _ => return []
      | .ok text => return (Config.references text).filter fun name => !name.toList.contains '\x00'

/-- The line that reminds of the commands. -/
def usage : String :=
  "Usage: pipeline-store [OPTIONS] <" ++
    "|".intercalate (CommandLine.topGrammar.commands) ++ "> [ARGUMENTS]"

end PipelineDepot.Main

open PipelineDepot in
/-- Runs the program. -/
def main (arguments : List String) : IO UInt32 := do
  let environment ← Main.environment (← Main.names arguments)
  let outcome ← Program.run Main.disk environment arguments
  if (CommandLine.parse arguments) matches .error _ then IO.eprintln Main.usage
  (← IO.getStdout).write ⟨outcome.output.toArray⟩
  match outcome.complaint with
  | none => pure ()
  | some complaint => IO.eprintln complaint
  return UInt32.ofNat outcome.exitCode
