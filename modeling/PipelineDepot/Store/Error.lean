import PipelineDepot.Blob.Error
import PipelineDepot.Codec

/-! # Store errors

Why an operation of the store, or the setting up of it, failed: the cause, its category, the
full message and the message for the person at the keyboard.
-/

namespace PipelineDepot

/-- Why an operation of the store failed. -/
inductive StoreError
  | write (path : String) (cause : BlobError)
  | read (path : String) (cause : BlobError)
  | delete (path : String) (cause : BlobError)
  | encode (path : String) (cause : CodecError)
  | decode (path : String) (cause : CodecError)
  /-- The configuration as a whole is no good. -/
  | config (message : String)
  | missing (field : String)
  | invalid (field value reason : String)
  | io (cause : FileError)
  deriving DecidableEq, Repr

/-- What kind of fault an error is. -/
inductive ErrorCategory
  | storage
  | codec
  | configuration
  | system
  deriving DecidableEq, Repr

namespace StoreError

/-- The wording of a store error. -/
def message : StoreError → String
  | write path cause => s!"Failed to store file {path}: {cause.message}"
  | read path cause => s!"Failed to get file {path}: {cause.message}"
  | delete path cause => s!"Failed to delete file {path}: {cause.message}"
  | encode path cause => s!"Failed to marshal file {path}: {cause.message}"
  | decode path cause => s!"Failed to unmarshal file {path}: {cause.message}"
  | config message => "Configuration error: " ++ message
  | missing field => "Missing required configuration: " ++ field
  | invalid field value reason => "Invalid value '" ++ value ++ "' for " ++ field ++ ": " ++ reason
  | io cause => "IO error: " ++ cause.message

/-- The wording for the person at the keyboard, which names the object and leaves the cause
out where it does not help. -/
def userMessage : StoreError → String
  | read path (.notFound _ _) => "No object stored at '" ++ path ++ "'"
  | write path _ => "Could not write '" ++ path ++ "' to the object store"
  | read path _ => "Could not read '" ++ path ++ "' from the object store"
  | delete path _ => "Could not delete '" ++ path ++ "' from the object store"
  | encode path _ => "Value for '" ++ path ++ "' cannot be encoded as YAML"
  | decode path _ => "Content of '" ++ path ++ "' is not valid YAML for the requested type"
  | missing field => "Please provide a value for '" ++ field ++ "'"
  | error => error.message

/-- The category of an error. -/
def category : StoreError → ErrorCategory
  | write _ _ | read _ _ | delete _ _ => .storage
  | encode _ _ | decode _ _ => .codec
  | config _ | missing _ | invalid _ _ _ => .configuration
  | io _ => .system

/-- The path that the failed operation was about. -/
def path? : StoreError → Option String
  | write path _ | read path _ | delete path _ | encode path _ | decode path _ => some path
  | _ => none

/-- The client's error behind the error. -/
def blob? : StoreError → Option BlobError
  | write _ cause | read _ cause | delete _ cause => some cause
  | _ => none

end StoreError

end PipelineDepot
