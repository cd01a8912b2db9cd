/-! # Tokens of YAML texts

The marks and scalars that a text is cut into before its structure is read. The starts and ends of
block collections, which the text shows by indentation alone, are tokens too.
-/

namespace PipelineDepot.Yaml

/-- The way a scalar is written. -/
inductive ScalarStyle
  | plain
  | singleQuoted
  | doubleQuoted
  | literal
  | folded
  deriving DecidableEq, Repr

/-- A token of a YAML text. -/
inductive Token
  | versionDirective (major minor : Nat)
  | tagDirective (handle lead : List Char)
  | documentStart
  | documentEnd
  | blockSequenceStart
  | blockMappingStart
  | blockEnd
  | flowSequenceStart
  | flowSequenceEnd
  | flowMappingStart
  | flowMappingEnd
  | blockEntry
  | flowEntry
  | key
  | value
  | alias (name : List Char)
  | anchor (name : List Char)
  | tag (handle suffix : List Char)
  | scalar (text : List Char) (style : ScalarStyle)
  | streamEnd
  deriving DecidableEq, Repr

/-- The tokens of a text, as far as it can be cut into tokens. -/
structure Tokens where
  list : List Token
  /-- The text could be cut to its end. -/
  complete : Bool
  deriving Repr

end PipelineDepot.Yaml
