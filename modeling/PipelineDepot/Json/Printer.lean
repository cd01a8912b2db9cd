import PipelineDepot.Decimal.Render
import PipelineDepot.Text.Quoted
import PipelineDepot.Yaml.Value

/-! # Documents as JSON

A YAML value as a JSON text, each item and entry on a line of its own. JSON has texts only for keys,
so that a key of another kind is written as a text if it has a short one, and refused otherwise. A
tagged value is an object with the tag as its only key.
-/

namespace PipelineDepot.Json

open Yaml (Value)

/-- Why a value has no JSON text. -/
inductive JsonError
  /-- A key is a null, a list, a map or a tagged value. -/
  | keyNoText
  /-- A key is an infinite number or none. -/
  | keyNotFinite
  deriving DecidableEq, Repr

/-- The wording of a JSON error. -/
def JsonError.message : JsonError → String
  | keyNoText => "key must be a string"
  | keyNotFinite => "float key must be finite (got NaN or +/-inf)"

/-- The escapes of two characters. -/
def escapes : List (Char × Char) :=
  [('"', '"'), ('\\', '\\'), ('\x08', 'b'), ('\x0c', 'f'), ('\n', 'n'), ('\r', 'r'), ('\t', 't')]

/-- The spelling of a character. -/
def quoteChar (c : Char) : List Char :=
  match escapes.lookup c with
  | some letter => ['\\', letter]
  | none =>
    if c.toNat < 0x20 then
      let digits := Text.hex c.toNat
      '\\' :: 'u' :: (List.replicate (4 - digits.length) '0' ++ digits)
    else [c]

/-- The spelling of a text. -/
def quote (text : String) : String :=
  String.ofList ('"' :: (text.toList.flatMap quoteChar ++ ['"']))

/-- The text that a key is written as. -/
def key : Value → Except JsonError String
  | .text value => .ok (quote value)
  | .bool value => .ok (quote (if value then "true" else "false"))
  | .int value => .ok (quote (toString value))
  | .float value => if value.isFinite then .ok (quote value.documentText) else .error .keyNotFinite
  | _ => .error .keyNoText

/-- A new line with its indentation. -/
def newLine (depth : Nat) : String :=
  "\n" ++ String.ofList (List.replicate (2 * depth) ' ')

/-- Puts parts between two marks, each on a line of its own. -/
def enclose (opening closing : String) (depth : Nat) (parts : List String) : String :=
  if parts.isEmpty then opening ++ closing
  else
    opening ++ newLine (depth + 1) ++ ("," ++ newLine (depth + 1)).intercalate parts ++
      newLine depth ++ closing

mutual

/-- The text of a value inside `depth` others. -/
def valueAt (depth : Nat) : Value → Except JsonError String
  | .null => .ok "null"
  | .bool value => .ok (if value then "true" else "false")
  | .int value => .ok (toString value)
  | .float value => .ok (if value.isFinite then value.documentText else "null")
  | .text value => .ok (quote value)
  | .list items => (itemsAt (depth + 1) items).map (enclose "[" "]" depth)
  | .map entries => (entriesAt (depth + 1) entries).map (enclose "\x7b" "\x7d" depth)
  | .tagged tag value => do
    let content ← valueAt (depth + 1) value
    return enclose "\x7b" "\x7d" depth [quote (Yaml.shownTag tag) ++ ": " ++ content]

/-- The texts of items. -/
def itemsAt (depth : Nat) : List Value → Except JsonError (List String)
  | [] => .ok []
  | item :: rest => do
    let text ← valueAt depth item
    let later ← itemsAt depth rest
    return text :: later

/-- The texts of entries. -/
def entriesAt (depth : Nat) : List (Value × Value) → Except JsonError (List String)
  | [] => .ok []
  | (name, value) :: rest => do
    let name ← key name
    let text ← valueAt depth value
    let later ← entriesAt depth rest
    return (name ++ ": " ++ text) :: later

end

/-- The text of a value. -/
def render (value : Value) : Except JsonError String := valueAt 0 value

end PipelineDepot.Json
