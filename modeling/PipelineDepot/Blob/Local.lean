import PipelineDepot.Blob.Client
import PipelineDepot.Files.Disk
import PipelineDepot.Files.Path

/-! # Objects in a directory

A client over a disk: each bucket is a directory below a root, and each key a relative path in
it. A bucket or key that could lead out of its directory is refused before the disk is touched.
-/

namespace PipelineDepot.Blob

open Files

/-- The fault a component has as a part of a key. -/
def componentFault? : Path.Component → Option KeyFault
  | .current => none
  | .name _ => none
  | .parent => some .parentReference
  | .root => some .absolute

/-- What is wrong with a bucket or key as a relative path, if anything. -/
def keyFault? (key : String) : Option KeyFault :=
  if key = "" then some .empty
  else (Path.components key).findSome? componentFault?

/-- A directory that holds buckets. -/
structure Local where
  root : String
  deriving DecidableEq, Repr

namespace Local

variable (depot : Local)

/-- The path of an object. -/
def objectPath (bucket key : String) : Except BlobError String :=
  match keyFault? bucket with
  | some fault => .error (.invalidKey bucket fault)
  | none =>
    match keyFault? key with
    | some fault => .error (.invalidKey key fault)
    | none => .ok (Path.join (Path.join depot.root bucket) key)

variable {m : Type → Type} [Monad m] (disk : Disk m)

/-- Makes the directories above a path and writes the file. -/
def store (path : String) (content : Bytes) : m (Except FileError Unit) := do
  match ← disk.makeDirs ((Path.parent? path).getD "") with
  | .error cause => return .error cause
  | .ok () => disk.write path content

/-- Puts an object. -/
def put (request : PutRequest) : m (Except BlobError Unit) := do
  match depot.objectPath request.bucket request.key with
  | .error cause => return .error cause
  | .ok path =>
    match ← store disk path request.body with
    | .error cause => return .error (.io cause)
    | .ok () => return .ok ()

/-- Gets an object; a directory is none. -/
def get (bucket key : String) : m (Except BlobError Reader) := do
  match depot.objectPath bucket key with
  | .error cause => return .error cause
  | .ok path =>
    match ← disk.openPath path with
    | .error .notFound => return .error (.notFound bucket key)
    | .error cause => return .error (.io cause)
    | .ok .directory => return .error (.notFound bucket key)
    | .ok (.file content) => return .ok (.ofBytes content)

/-- Deletes an object; deleting a missing one succeeds. -/
def delete (bucket key : String) : m (Except BlobError Unit) := do
  match depot.objectPath bucket key with
  | .error cause => return .error cause
  | .ok path =>
    match ← disk.remove path with
    | .ok () => return .ok ()
    | .error .notFound => return .ok ()
    | .error cause => return .error (.io cause)

/-- The client over objects in a directory. -/
def client : Client m where
  put := depot.put disk
  get := depot.get disk
  delete := depot.delete disk

end Local

end PipelineDepot.Blob
