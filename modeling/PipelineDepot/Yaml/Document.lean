import PipelineDepot.Bytes
import PipelineDepot.Yaml.Event
import PipelineDepot.Yaml.Token.Scanner

/-! # The first document of a text

A YAML text is read for its first document. `Document.ofBytes` decodes the bytes, cuts the text into
tokens, reads their structure, and keeps the nodes of the first document with every alias resolved
to the place of the node it repeats. Whether the text is sound and ends behind that document is kept
beside it, because what is wrong with a node counts before what is wrong behind it.
-/

namespace PipelineDepot.Yaml

/-- One element of a document. -/
inductive Element
  /-- In place of a document that the text does not have. -/
  | void
  /-- A repetition of the node at a place of the document. -/
  | alias (target : Nat)
  | scalar (text : List Char) (style : ScalarStyle) (tag? : Option (List Char))
  | listStart (tag? : Option (List Char))
  | listEnd
  | mapStart (tag? : Option (List Char))
  | mapEnd
  deriving DecidableEq, Repr

/-- The first document of a text. -/
structure Document where
  elements : Array Element
  /-- The text has no fault up to the end of the document. -/
  intact : Bool
  /-- Nothing follows the document. -/
  alone : Bool

namespace Document

/-- The state of a reading of marks: the elements so far, the last one first, the number that each
anchor name has, and the place that each number has. -/
structure Draft where
  elements : List Element := []
  numbers : List (List Char × Nat) := []
  places : List (Nat × Nat) := []

namespace Draft

variable (draft : Draft)

/-- Notes the anchor in front of the next element. A name used again gets another number, the
count of the names. -/
def anchor (name? : Option (List Char)) : Draft :=
  match name? with
  | none => draft
  | some name =>
    let number := draft.numbers.length
    { draft with
      numbers := (name, number) :: draft.numbers.filter (·.1 ≠ name)
      places := (number, draft.elements.length) :: draft.places }

/-- Puts an element behind the others. -/
def add (element : Element) : Draft :=
  { draft with elements := element :: draft.elements }

/-- The document of a draft, with the places that the numbers have in the end. -/
def finish (intact alone : Bool) : Document where
  elements := (draft.elements.reverse.map fun
    | .alias number => .alias ((draft.places.lookup number).getD 0)
    | element => element).toArray
  intact := intact
  alone := alone

/-- Reads the marks of the first document. -/
def read (draft : Draft) : List Mark → Document
  | [] => draft.finish false false
  | .streamEnd :: _ =>
    (if draft.elements = [] then draft.add .void else draft).finish true true
  | .documentStart :: rest => read draft rest
  | .documentEnd :: rest => draft.finish true (rest == [.streamEnd])
  | .alias name :: rest =>
    match draft.numbers.lookup name with
    | none => draft.finish false false
    | some number => read (draft.add (.alias number)) rest
  | .scalar text style marks :: rest =>
    read ((draft.anchor marks.anchor?).add (.scalar text style marks.tag?)) rest
  | .listStart marks :: rest =>
    read ((draft.anchor marks.anchor?).add (.listStart marks.tag?)) rest
  | .listEnd :: rest => read (draft.add .listEnd) rest
  | .mapStart marks :: rest =>
    read ((draft.anchor marks.anchor?).add (.mapStart marks.tag?)) rest
  | .mapEnd :: rest => read (draft.add .mapEnd) rest

end Draft

/-- The first document of a text. -/
def ofChars (text : List Char) : Document :=
  Draft.read {} (Structure.ofTokens (Tokens.ofText text).list)

/-- The first document of a text in UTF-8. -/
def ofBytes (bytes : Bytes) : Document :=
  match bytes.toText? with
  | none => Draft.finish {} false false
  | some text => ofChars text.toList

end Document

end PipelineDepot.Yaml
