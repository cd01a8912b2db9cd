import PipelineDepot.Bytes
import PipelineDepot.Files.Error

/-! # Disks

`Disk m` is what the rest of the library asks of a file system, as calls in a monad `m`. A tree
of directories kept as a value answers them (`Files.Tree`), and so does the machine's own file
system in the outermost layer.
-/

namespace PipelineDepot.Files

/-- What opening a path for reading finds. -/
inductive Opened
  | file (content : Bytes)
  | directory
  deriving DecidableEq, Repr

/-- The calls on a file system. -/
structure Disk (m : Type → Type) where
  makeDirs : String → m (Except FileError Unit)
  openPath : String → m (Except FileError Opened)
  /-- Gives a file new content and makes the file where there is none. -/
  write : String → Bytes → m (Except FileError Unit)
  remove : String → m (Except FileError Unit)

namespace Disk

variable {m : Type → Type} [Monad m] (disk : Disk m)

/-- The content of the file at a path. -/
def read (path : String) : m (Except FileError Bytes) := do
  match ← disk.openPath path with
  | .error cause => return .error cause
  | .ok .directory => return .error .isADirectory
  | .ok (.file content) => return .ok content

/-- The content of the file at a path, as a text. -/
def readText (path : String) : m (Except FileError String) := do
  match ← disk.read path with
  | .error cause => return .error cause
  | .ok content =>
    match content.toText? with
    | none => return .error .notUtf8
    | some text => return .ok text

end Disk

end PipelineDepot.Files
