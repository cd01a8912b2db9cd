import PipelineDepot.Files.Error

/-! # Blob errors

What a client of an object store answers when an operation fails, and the wording of it.
-/

namespace PipelineDepot

/-- What is wrong with an object key. -/
inductive KeyFault
  | empty
  | parentReference
  | absolute
  /-- Any other fault, in its own words. -/
  | other (reason : String)
  deriving DecidableEq, Repr

/-- The wording of a key fault. -/
def KeyFault.message : KeyFault → String
  | empty => "key cannot be empty"
  | parentReference => "parent directory references are not allowed"
  | absolute => "absolute keys are not allowed"
  | other reason => reason

/-- Why an operation of a client failed. -/
inductive BlobError
  | notFound (bucket key : String)
  | invalidKey (key : String) (fault : KeyFault)
  | io (cause : FileError)
  | backend (message : String)
  deriving DecidableEq, Repr

namespace BlobError

/-- The wording of a blob error. -/
def message : BlobError → String
  | notFound bucket key => s!"Object not found: {bucket}/{key}"
  | invalidKey key fault => "Invalid object key '" ++ key ++ "': " ++ fault.message
  | io cause => "IO error: " ++ cause.message
  | backend message => "Object store backend error: " ++ message

/-- The object is missing. -/
def isNotFound : BlobError → Bool
  | notFound _ _ => true
  | _ => false

/-- The file error inside a blob error. -/
def cause? : BlobError → Option FileError
  | io cause => some cause
  | _ => none

end BlobError

end PipelineDepot
