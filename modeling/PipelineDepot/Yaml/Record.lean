import PipelineDepot.Yaml.Printer
import PipelineDepot.Yaml.Reader

/-! # Records in documents

What typed documents share: maps whose keys are the names of fields, read in any order and each at
most once, and data written as a value.
-/

namespace PipelineDepot.Yaml

namespace Reader

/-- Reads a field that must not have been read before. -/
def field {α : Type} (name : String) (held : Option α) (node : Reader α) :
    Reader (Option α) := do
  if held.isSome then throw (.duplicateField name)
  return some (← node)

/-- The value of a field that must not be missing. -/
def require {α : Type} (name : String) (held : Option α) : Reader α :=
  match held with
  | none => throw (.missingField name)
  | some value => return value

end Reader

namespace Value

mutual

/-- The value that data is written as. -/
def ofDatum : Datum → Value
  | .unit => .null
  | .bool value => .bool value
  | .int value => .int value
  | .float value => .float value
  | .text value => .text value
  | .list items => .list (ofItems items)
  | .map entries => .map (ofEntries entries)

/-- The values that a list of data is written as. -/
def ofItems : List Datum → List Value
  | [] => []
  | item :: rest => ofDatum item :: ofItems rest

/-- The entries that the entries of a map are written as. -/
def ofEntries : List (Datum × Datum) → List (Value × Value)
  | [] => []
  | (key, value) :: rest => (ofDatum key, ofDatum value) :: ofEntries rest

end

/-- The codec of values of any kind. -/
def codec : Codec Value where
  encode := render
  decode := Reader.value.decode

end Value

/-- The codec of documents that consist of a text. -/
def textCodec : Codec String where
  encode text := (Value.text text).render
  decode := Reader.text.decode

end PipelineDepot.Yaml
