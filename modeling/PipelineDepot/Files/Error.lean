/-! # File errors

The causes for which a call on the file system fails, and their wording.
-/

namespace PipelineDepot

/-- Why a call on the file system failed. -/
inductive FileError
  | notFound
  /-- Something stands where a directory was to be made. -/
  | alreadyExists
  | notADirectory
  | isADirectory
  /-- A name or the whole path is too long. -/
  | nameTooLong
  | nulInPath
  /-- A text was wanted and the content is not valid UTF-8. -/
  | notUtf8
  /-- Any other cause, in its own words. -/
  | other (message : String)
  deriving DecidableEq, Repr

/-- The wording of a file error. -/
def FileError.message : FileError → String
  | notFound => "No such file or directory (os error 2)"
  | alreadyExists => "File exists (os error 17)"
  | notADirectory => "Not a directory (os error 20)"
  | isADirectory => "Is a directory (os error 21)"
  | nameTooLong => "File name too long (os error 36)"
  | nulInPath => "file name contained an unexpected NUL byte"
  | notUtf8 => "stream did not contain valid UTF-8"
  | other message => message

end PipelineDepot
