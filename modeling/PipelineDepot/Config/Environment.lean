import PipelineDepot.Bytes
import PipelineDepot.Config.Basic
import PipelineDepot.Store.Error
import PipelineDepot.Text.Blank

/-! # Configuration from the environment

An environment answers a name with a text, or not at all. The configuration read from it looks up
the names with the prefix `OBJECT_STORE_` and no others.
-/

namespace PipelineDepot

/-- The texts under the names of variables. A variable whose value is no text counts as unset. -/
abbrev Environment := String → Option String

/-- The text without its ASCII capitals. -/
def lowerAscii (text : List Char) : List Char := text.map Char.toLower

/-- Reads a truth value; blanks around it and its case do not count. -/
def readFlag (field value : String) : Except StoreError Bool :=
  let word := String.ofList (lowerAscii (Text.trim value.toList))
  if word ∈ ["true", "1", "yes"] then .ok true
  else if word ∈ ["false", "0", "no"] then .ok false
  else .error (.invalid field value "Expected a boolean")

namespace Environment

/-- The environment with the given variables. -/
def ofPairs (pairs : List (String × String)) : Environment := fun name => pairs.lookup name

/-- The names that a configuration is read from. -/
def configNames : List String :=
  ["OBJECT_STORE_BUCKET", "OBJECT_STORE_BASE_FOLDER", "OBJECT_STORE_DISABLE_MULTIPART",
    "OBJECT_STORE_BACKEND", "OBJECT_STORE_LOCAL_ROOT", "OBJECT_STORE_ENDPOINT",
    "OBJECT_STORE_REGION", "OBJECT_STORE_ACCESS_KEY", "OBJECT_STORE_SECRET_KEY"]

variable (environment : Environment)

/-- The transfers that the environment asks for. -/
def disableMultipart : Except StoreError Bool :=
  match environment "OBJECT_STORE_DISABLE_MULTIPART" with
  | some value => readFlag "OBJECT_STORE_DISABLE_MULTIPART" value
  | none => .ok true

/-- The backend that the environment asks for. -/
def backend : Except StoreError Backend :=
  let name := (environment "OBJECT_STORE_BACKEND").getD BackendKind.directory.name
  match BackendKind.ofName? name with
  | some .memory => .ok .memory
  | some .directory =>
    .ok (.directory ((environment "OBJECT_STORE_LOCAL_ROOT").getD defaultRoot))
  | some .s3 =>
    .ok (.s3 {
      endpoint := environment "OBJECT_STORE_ENDPOINT"
      region := (environment "OBJECT_STORE_REGION").getD defaultRegion
      accessKey := environment "OBJECT_STORE_ACCESS_KEY"
      secretKey := environment "OBJECT_STORE_SECRET_KEY" })
  | none =>
    .error (.invalid "OBJECT_STORE_BACKEND" name "Expected one of: memory, local, s3")

/-- The configuration that the environment asks for. -/
def config : Except StoreError StoreConfig := do
  let bucketName ←
    match environment "OBJECT_STORE_BUCKET" with
    | some name => .ok name
    | none => .error (.missing "OBJECT_STORE_BUCKET")
  let disableMultipart ← environment.disableMultipart
  let backend ← environment.backend
  return {
    bucketName
    baseFolder := (environment "OBJECT_STORE_BASE_FOLDER").getD defaultBaseFolder
    disableMultipart
    backend }

end Environment

end PipelineDepot
