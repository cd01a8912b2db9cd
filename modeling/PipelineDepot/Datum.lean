import PipelineDepot.Codec
import PipelineDepot.Decimal.Render
import PipelineDepot.Text.Quoted

/-! # Data without a format

`Datum` is what a value of any of the formats is once its spelling no longer matters: a unit, a
truth value, a number, a text, a list, or a map whose entries keep their order. The formats name
some data differently in their messages; a `Dialect` holds these names.
-/

namespace PipelineDepot

/-- A piece of structured data. -/
inductive Datum
  | unit
  | bool (value : Bool)
  | int (value : Int)
  | float (value : Binary64)
  | text (value : String)
  | list (items : List Datum)
  | map (entries : List (Datum × Datum))
  deriving Inhabited

/-- How the messages of a format name data. -/
structure Dialect where
  unitName : String
  /-- The spelling of a number that is no integer. -/
  floatText : Binary64 → String
  /-- A list read as a record may be longer than the record. -/
  longLists : Bool
  /-- Integers beyond 64 bits are named signed ones as far as they fit. -/
  wideSigned : Bool

namespace Dialect

/-- How a truth value is named. -/
def ofBool (value : Bool) : String :=
  "boolean " ++ CodecError.quoted (if value then "true" else "false")

/-- How an integer is named; one beyond 64 bits goes with the width it takes. -/
def ofInt (dialect : Dialect) (value : Int) : String :=
  let width :=
    if -Int.pow 2 63 ≤ value ∧ value < Int.pow 2 64 then ""
    else if value < (if dialect.wideSigned then Int.pow 2 127 else 0) then " as i128"
    else " as u128"
  "integer " ++ CodecError.quoted (toString value) ++ width

/-- How a text is named. -/
def ofText (value : String) : String := "string " ++ Text.quote value

/-- How a number that is no integer is named. -/
def ofFloat (dialect : Dialect) (value : Binary64) : String :=
  "floating point " ++ CodecError.quoted (dialect.floatText value)

end Dialect

/-- How a datum is named in the messages of a format. -/
def Datum.describe (dialect : Dialect) : Datum → String
  | unit => dialect.unitName
  | bool value => Dialect.ofBool value
  | int value => dialect.ofInt value
  | float value => dialect.ofFloat value
  | text value => Dialect.ofText value
  | list _ => "sequence"
  | map _ => "map"

end PipelineDepot
