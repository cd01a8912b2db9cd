import PipelineDepot.Bytes
import PipelineDepot.Blob.Error

/-! # Clients of an object store

A client puts, gets and deletes objects, each of them named by a bucket and a key. It is a
record of three calls in a monad, so that one and the same store runs over objects kept in a
value, over a tree of files, and over any other behaviour.
-/

namespace PipelineDepot.Blob

/-- The size an upload declares. -/
inductive UploadSize
  /-- A single part of exactly this many bytes. -/
  | exact (size : UInt64)
  /-- No declared size; the client splits the upload as it sees fit. -/
  | unknown
  deriving DecidableEq, Repr

namespace UploadSize

/-- The size as a signed word, the unknown one being `-1`. -/
def toInt64 : UploadSize → Int64
  | exact size => size.toInt64
  | unknown => -1

/-- The declared size. -/
def declared? : UploadSize → Option UInt64
  | exact size => some size
  | unknown => none

end UploadSize

/-- The content type of every upload. -/
def octetStream : String := "application/octet-stream"

/-- An upload. -/
structure PutRequest where
  bucket : String
  key : String
  body : Bytes
  size : UploadSize
  contentType : String
  deriving DecidableEq, Repr

/-- The stream an object is read from: pieces of content, and then the end or a failure. -/
structure Reader where
  pieces : List Bytes
  failure : Option FileError := none
  deriving DecidableEq, Repr

namespace Reader

/-- The stream of a whole content. -/
def ofBytes (content : Bytes) : Reader := ⟨[content], none⟩

/-- Reads to the end. -/
def drain (reader : Reader) : Except FileError Bytes :=
  match reader.failure with
  | some cause => .error cause
  | none => .ok reader.pieces.flatten

end Reader

/-- The operations of a client. -/
structure Client (m : Type → Type) where
  put : PutRequest → m (Except BlobError Unit)
  get : String → String → m (Except BlobError Reader)
  delete : String → String → m (Except BlobError Unit)

namespace Client

variable {m : Type → Type} [Monad m] (client : Client m)

/-- Gets an object and reads it to the end. -/
def read (bucket key : String) : m (Except BlobError Bytes) := do
  match ← client.get bucket key with
  | .error cause => return .error cause
  | .ok reader =>
    match reader.drain with
    | .error cause => return .error (.io cause)
    | .ok content => return .ok content

end Client

end PipelineDepot.Blob
