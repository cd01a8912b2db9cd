import PipelineDepot.Bytes

/-! # Codecs

A codec writes values of a type as texts and reads them from bytes. What can go wrong is the
same for every format: the text cannot be read at all, or it can be read and does not have the
shape that the type asks for.
-/

namespace PipelineDepot

/-- Why a text does not give a value, or a value no text. -/
inductive CodecError
  | malformed
  /-- Something of another type stands in the place of what is expected. -/
  | wrongType (found expected : String)
  /-- What stands there is of the right type and not an expected value. -/
  | wrongValue (found expected : String)
  /-- A list has another length than expected. -/
  | wrongLength (length : Nat) (expected : String)
  | missingField (name : String)
  | duplicateField (name : String)
  | unknownVariant (name : String) (known : List String)
  /-- Any other cause, in its own words. -/
  | other (message : String)
  deriving DecidableEq, Repr

namespace CodecError

/-- A name as the messages show it. -/
def quoted (name : String) : String := "`" ++ name ++ "`"

/-- The wording of a codec error. -/
def message : CodecError → String
  | malformed => "<syntax>"
  | wrongType found expected => s!"invalid type: {found}, expected {expected}"
  | wrongValue found expected => s!"invalid value: {found}, expected {expected}"
  | wrongLength length expected => s!"invalid length {length}, expected {expected}"
  | missingField name => "missing field " ++ quoted name
  | duplicateField name => "duplicate field " ++ quoted name
  | unknownVariant name known =>
    "unknown variant " ++ quoted name ++ ", expected one of " ++
      ", ".intercalate (known.map quoted)
  | other message => message

end CodecError

/-- How values of a type are written and read. -/
structure Codec (α : Type) where
  encode : α → Except CodecError String
  decode : Bytes → Except CodecError α

end PipelineDepot
