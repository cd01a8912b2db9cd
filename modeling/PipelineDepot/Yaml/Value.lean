import PipelineDepot.Decimal.Binary64

/-! # Values of YAML documents

A document is a tree of scalars, lists, maps with keys of any kind, and tagged values. Two values
are the same (`Value.same`) when the order of entries does not count, which is what decides
whether a key stands in a map twice.
-/

namespace PipelineDepot.Yaml

/-- A value of a YAML document. -/
inductive Value
  | null
  | bool (value : Bool)
  | int (value : Int)
  | float (value : Binary64)
  | text (value : String)
  | list (items : List Value)
  | map (entries : List (Value × Value))
  /-- A value with a tag of its own. -/
  | tagged (tag : String) (value : Value)
  deriving Inhabited

/-- The name of a tag without its leading mark; the mark alone keeps it. -/
def bareTag (tag : String) : String :=
  match tag.toList with
  | '!' :: c :: rest => String.ofList (c :: rest)
  | _ => tag

/-- A tag as it is written. -/
def shownTag (tag : String) : String := "!" ++ bareTag tag

mutual

/-- The two values are the same; the order of the entries of maps does not count. -/
def Value.same : Value → Value → Bool
  | .null, .null => true
  | .bool a, .bool b => a == b
  | .int a, .int b => a == b
  | .float a, .float b => a.same b
  | .text a, .text b => a == b
  | .list xs, .list ys => sameItems xs ys
  | .map xs, .map ys => xs.length == ys.length && sameEntries xs ys
  | .tagged s x, .tagged t y => bareTag s == bareTag t && x.same y
  | _, _ => false

/-- The lists hold the same values. -/
def sameItems : List Value → List Value → Bool
  | [], [] => true
  | x :: xs, y :: ys => x.same y && sameItems xs ys
  | _, _ => false

/-- Every entry of the first list has its like in the second. -/
def sameEntries : List (Value × Value) → List (Value × Value) → Bool
  | [], _ => true
  | entry :: rest, others =>
    sameEntry entry others && sameEntries rest others

/-- The entry has its like in the list. -/
def sameEntry : Value × Value → List (Value × Value) → Bool
  | (key, value), others => others.any fun other => key.same other.1 && value.same other.2

end

end PipelineDepot.Yaml
