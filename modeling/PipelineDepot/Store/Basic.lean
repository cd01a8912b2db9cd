import PipelineDepot.Blob.Client
import PipelineDepot.ChunkSignature
import PipelineDepot.KeyPath
import PipelineDepot.Store.Error
import PipelineDepot.Text.Quoted

/-! # The store

A store is a bucket, a base folder and the choice between single-part and multi-part transfers;
its operations run over any client. Each of them makes at most one call on the client, with the
bucket of the store and the path as it was given. The base folder only goes into the keys of
pipelines.
-/

namespace PipelineDepot

open Blob

/-- The settings of a store. -/
structure Store where
  bucket : String
  baseFolder : String
  /-- Uploads declare their length, and downloads are freed of chunk headers. -/
  singlePart : Bool
  deriving DecidableEq, Repr

namespace Store

variable (store : Store)

/-- The key of a pipeline: its identifier below the base folder. -/
def pipelineKey (id : String) : String :=
  KeyPath.join [store.baseFolder, id]

/-- The size an upload of `content` declares. -/
def uploadSize (content : Bytes) : UploadSize :=
  if store.singlePart then .exact (UInt64.ofNat content.length) else .unknown

/-- The upload of `content` to `path`. -/
def request (content : Bytes) (path : String) : PutRequest where
  bucket := store.bucket
  key := path
  body := content
  size := store.uploadSize content
  contentType := octetStream

/-- What a download gives out of the stored content. -/
def received (content : Bytes) : Bytes :=
  if store.singlePart then ChunkSignature.strip content else content

variable {m : Type → Type} [Monad m] (client : Client m)

/-- Stores `content` under `path`. -/
def add (content : Bytes) (path : String) : m (Except StoreError Unit) := do
  match ← client.put (store.request content path) with
  | .error cause => return .error (.write path cause)
  | .ok () => return .ok ()

/-- Fetches what is stored under `path`. -/
def get (path : String) : m (Except StoreError Bytes) := do
  match ← client.read store.bucket path with
  | .error cause => return .error (.read path cause)
  | .ok content => return .ok (store.received content)

/-- Deletes what is stored under `path`. -/
def delete (path : String) : m (Except StoreError Unit) := do
  match ← client.delete store.bucket path with
  | .error cause => return .error (.delete path cause)
  | .ok () => return .ok ()

variable {α : Type} (codec : Codec α)

/-- Stores the text of a document under `path`; a value without a text makes no call. -/
def addDocument (value : α) (path : String) : m (Except StoreError Unit) := do
  match codec.encode value with
  | .error cause => return .error (.encode path cause)
  | .ok text => store.add client (.ofText text) path

/-- Fetches the document stored under `path`. -/
def getDocument (path : String) : m (Except StoreError α) := do
  match ← store.get client path with
  | .error error => return .error error
  | .ok content =>
    match codec.decode content with
    | .error cause => return .error (.decode path cause)
    | .ok value => return .ok value

/-- Fetches the document stored under `path` into a variable, which keeps its value `held`
when that fails. -/
def getDocumentInto (held : α) (path : String) : m (Except StoreError Unit × α) := do
  match ← store.getDocument client codec path with
  | .error error => return (.error error, held)
  | .ok value => return (.ok (), value)

end Store

/-- The description of a store. -/
def Store.describe (store : Store) : String :=
  "MinioObjectStore \x7b bucket_name: " ++ Text.quote store.bucket ++
    ", base_folder: " ++ Text.quote store.baseFolder ++
    ", disable_multipart: " ++ (if store.singlePart then "true" else "false") ++ ", .. \x7d"

/-- The description of the size an upload declares. -/
def Blob.UploadSize.describe : UploadSize → String
  | .exact size => s!"Exact({size.toNat})"
  | .unknown => "Unknown"

/-- The description of an upload, which gives the length of the body in place of the body. -/
def Blob.PutRequest.describe (request : PutRequest) : String :=
  "PutObjectRequest \x7b bucket: " ++ Text.quote request.bucket ++
    ", key: " ++ Text.quote request.key ++
    ", body_len: " ++ toString request.body.length ++
    ", size: " ++ request.size.describe ++
    ", content_type: " ++ Text.quote request.contentType ++ " \x7d"

end PipelineDepot
