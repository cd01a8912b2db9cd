import PipelineDepot.Datum
import PipelineDepot.Yaml.Document
import PipelineDepot.Yaml.Scalar
import PipelineDepot.Yaml.Value

/-! # Reading documents

A `Reader` reads nodes of a document in their order. An alias is read at the place of the node it
repeats. There are readers for values of any kind (`Reader.value`), for data inside a value whose
kind is known by then (`Reader.datum`), and for the parts of typed documents: texts, truth values,
numbers, optional values, lists and maps.

`Reader.run` reads a whole document: the first fault among the nodes counts, then a fault of the
text behind them, then a second document.
-/

namespace PipelineDepot.Yaml

/-- How far a document has been read. -/
structure Place where
  next : Nat
  /-- The number of aliases followed so far. -/
  jumps : Nat

/-- A reading of some nodes of a document. -/
abbrev Reader := ReaderT Document (StateT Place (Except CodecError))

/-- The dialect of the messages about YAML documents. -/
def dialect : Dialect where
  unitName := "unit value"
  floatText := Binary64.plainText
  longLists := false
  wideSigned := false

namespace Element

/-- The tag on a node. -/
def tag? : Element → Option (List Char)
  | scalar _ _ tag? | listStart tag? | mapStart tag? => tag?
  | _ => none

/-- The name in a tag that makes a tagged value: one that starts with an exclamation mark. -/
def ownTag? (element : Element) : Option String :=
  match element.tag? with
  | some ['!'] => some "!"
  | some ('!' :: name) => some (String.ofList name)
  | _ => none

/-- A plain scalar without a character stands for a missing node. -/
def isBlank : Element → Bool
  | void => true
  | scalar text style _ => text.isEmpty && style == .plain
  | _ => false

end Element

/-- A tag of the core schema. -/
def coreTag (name : String) : List Char := "tag:yaml.org,2002:".toList ++ name.toList

/-- What a scalar stands for, by its tag or by the way it is written. -/
def scalarMeaning (text : List Char) (style : ScalarStyle) (tag? : Option (List Char)) :
    Except CodecError Scalar.Meaning :=
  let plain := if style = .plain then Scalar.meaning text else .text
  let wanted (meaning? : Option Scalar.Meaning) (expected : String) :
      Except CodecError Scalar.Meaning :=
    match meaning? with
    | some meaning => .ok meaning
    | none => .error (.wrongValue (Dialect.ofText (String.ofList text)) expected)
  match tag? with
  | none => .ok plain
  | some tag =>
    if tag = coreTag "bool" then wanted ((Scalar.bool? text).map .bool) "a boolean"
    else if tag = coreTag "int" then wanted (Scalar.integer? text) "an integer"
    else if tag = coreTag "float" then wanted ((Scalar.float? text).map .float) "a float"
    else if tag = coreTag "null" then
      wanted (if Scalar.isNull text then some .null else none) "null"
    else if tag.head? = some '!' then .ok plain
    else .ok .text

/-- How a scalar with a meaning is named. -/
def describeScalar (text : List Char) : Scalar.Meaning → String
  | .null => dialect.unitName
  | .bool value => Dialect.ofBool value
  | .int value | .wide value => dialect.ofInt value
  | .float value => dialect.ofFloat value
  | .text => Dialect.ofText (String.ofList text)

/-- The error about a node that stands in the place of something else. -/
def mismatch (element : Element) (expected : String) : CodecError :=
  match element with
  | .scalar text style tag? =>
    match scalarMeaning text style tag? with
    | .error error => error
    | .ok meaning => .wrongType (describeScalar text meaning) expected
  | .listStart _ => .wrongType "sequence" expected
  | .mapStart _ => .wrongType "map" expected
  | _ => .malformed

namespace Reader

/-- The next element. -/
def peek : Reader Element := do
  match (← read).elements[(← get).next]? with
  | some element => return element
  | none => throw .malformed

/-- Goes over the next element. -/
def drop : Reader Unit :=
  modify fun place => { place with next := place.next + 1 }

/-- The next element, and goes over it. -/
def take : Reader Element := do
  let element ← peek
  drop
  return element

/-- More rounds than a loop over the nodes of a document takes. -/
def limit : Reader Nat := return (← read).elements.size + 1

/-- The number of aliases that may be followed for each element of a document. -/
def jumpsPerElement : Nat := 100

/-- Reads a node behind an alias, if one comes next, and the next node otherwise. -/
def resolved {α : Type} (node : Reader α) : Reader α := do
  match ← peek with
  | .alias target =>
    drop
    let place ← get
    if (← read).elements.size * jumpsPerElement < place.jumps + 1 then throw .malformed
    set ({ next := target, jumps := place.jumps + 1 } : Place)
    let value ← node
    modify fun inner => { inner with next := place.next }
    return value
  | _ => node

/-- Goes over elements until all of `depth` collections have ended, at most `limit` of them. -/
def skipUpTo : Nat → Nat → Reader Unit
  | 0, _ => throw .malformed
  | limit + 1, depth => do
    match ← take with
    | .listStart _ | .mapStart _ => skipUpTo limit (depth + 1)
    | .listEnd | .mapEnd => if depth ≤ 1 then return () else skipUpTo limit (depth - 1)
    | _ => if depth = 0 then return () else skipUpTo limit depth

/-- Goes over a node, whatever it is. -/
def skip : Reader Unit := do skipUpTo (← limit) 0

/-- Reads up to the end of a collection, at most `limit` steps. -/
def stepsUpTo {σ : Type} (step : σ → Reader σ) : Nat → σ → Reader σ
  | 0, _ => throw .malformed
  | limit + 1, state => do
    match ← peek with
    | .listEnd | .mapEnd | .void =>
      drop
      return state
    | _ => stepsUpTo step limit (← step state)

/-- Reads up to the end of a collection. -/
def steps {σ : Type} (step : σ → Reader σ) (start : σ) : Reader σ := do
  stepsUpTo step (← limit) start

/-- Reads the items up to the end of a list. -/
def items {α : Type} (item : Reader α) : Reader (List α) := do
  let done ← steps (fun done => return (← item) :: done) []
  return done.reverse

/-- Reads the entries up to the end of a map. -/
def entries {κ ν : Type} (key : Reader κ) (value : Reader ν) : Reader (List (κ × ν)) :=
  items do return (← key, ← value)

/-- Reads a node that consists of a text, whatever it could stand for otherwise. -/
def textAs (expected : String) : Reader String := resolved do
  match ← take with
  | .scalar text _ _ => return String.ofList text
  | element => throw (mismatch element expected)

/-- Reads a text. -/
def text : Reader String := textAs "a string"

/-- Reads a scalar that is plain, or a literal block with a tag of the core schema. -/
def scalarAs {α : Type} (tag expected : String) (parse : List Char → Option α) : Reader α :=
  resolved do
    let element ← take
    match element with
    | .scalar text style tag? =>
      let eligible := style = .plain ∨ (style = .literal ∧ tag? = some (coreTag tag))
      match parse text with
      | some value => if eligible then return value else throw (mismatch element expected)
      | none => throw (mismatch element expected)
    | _ => throw (mismatch element expected)

/-- Reads a truth value. -/
def bool : Reader Bool := scalarAs "bool" "a boolean" Scalar.bool?

/-- Reads a number. -/
def float : Reader Binary64 := scalarAs "float" "f64" Scalar.float?

/-- Reads an unsigned word of 32 bits. -/
def word32 : Reader UInt32 := do
  let number ← scalarAs "int" "u32" fun text =>
    (Scalar.unsigned? text).filter (· < Nat.pow 2 64)
  if number < Nat.pow 2 32 then return UInt32.ofNat number
  else throw (.wrongValue (dialect.ofInt number) "u32")

/-- Reads a node that may be missing or null. -/
def optional {α : Type} (node : Reader α) : Reader (Option α) := resolved do
  let present : Bool ←
    match ← peek with
    | .void => pure false
    | .scalar text .plain tag? =>
      if tag? = some (coreTag "null") then
        if Scalar.isNull text then pure false
        else throw (.wrongValue (Dialect.ofText (String.ofList text)) "null")
      else pure (tag?.isSome || (!text.isEmpty && !Scalar.isNull text))
    | _ => pure true
  if present then return some (← node)
  else
    drop
    return none

/-- Reads a list; a missing node is an empty one. -/
def list {α : Type} (item : Reader α) : Reader (List α) := resolved do
  let element ← take
  match element with
  | .listStart _ => items item
  | _ => if element.isBlank then return [] else throw (mismatch element "a sequence")

/-- Reads a map step by step; a missing node is an empty one. -/
def mapBy {σ : Type} (expected : String) (step : σ → Reader σ) (start : σ) : Reader σ :=
  resolved do
    let element ← take
    match element with
    | .mapStart _ => steps step start
    | _ => if element.isBlank then return start else throw (mismatch element expected)

/-- Reads the name of a field. -/
def fieldName : Reader String := textAs "field identifier"

/-- The greatest depth of collections inside each other. -/
def maxDepth : Nat := 128

/-- Reads a value without looking at a tag of its own; collections inside are read by `inner?`,
and without it there may be none. -/
def valueBody (inner? : Option (Reader Value)) (tagged : Bool) : Reader Value := do
  match ← take with
  | .void => return .null
  | .scalar text style tag? =>
    match scalarMeaning text style (if tagged then none else tag?) with
    | .error error => throw error
    | .ok meaning =>
      match meaning with
      | .null => return .null
      | .bool value => return .bool value
      | .int value => return .int value
      | .wide _ => throw (.wrongType (describeScalar text meaning) "any YAML value")
      | .float value => return .float value
      | .text => return .text (String.ofList text)
  | .listStart _ =>
    match inner? with
    | none => throw .malformed
    | some inner => return .list (← items inner)
  | .mapStart _ =>
    match inner? with
    | none => throw .malformed
    | some inner =>
      let step (done : List (Value × Value)) : Reader (List (Value × Value)) := do
        let key ← inner
        if done.any fun entry => entry.1.same key then throw .malformed
        return (key, ← inner) :: done
      return .map (← steps step []).reverse
  | _ => throw .malformed

/-- Reads a value whose collections stand in each other at most `depth` deep. -/
def valueUpTo (depth : Nat) : Reader Value :=
  let inner? : Option (Reader Value) :=
    match depth with
    | 0 => none
    | depth + 1 => some (valueUpTo depth)
  resolved do
    match (← peek).ownTag? with
    | some tag => return .tagged tag (← valueBody inner? true)
    | none => valueBody inner? false

/-- Reads a value of any kind. -/
def value : Reader Value := valueUpTo maxDepth

/-- Reads data whose collections stand in each other at most `depth` deep. Tagged values are no
data. -/
def datumUpTo (depth : Nat) : Reader Datum :=
  let inner : Reader Datum :=
    match depth with
    | 0 => throw .malformed
    | depth + 1 => datumUpTo depth
  resolved do
    let element ← take
    if element.ownTag?.isSome then throw .malformed
    match element with
    | .void => return .unit
    | .scalar text style tag? =>
      match scalarMeaning text style tag? with
      | .error error => throw error
      | .ok meaning =>
        match meaning with
        | .null => return .unit
        | .bool value => return .bool value
        | .int value => return .int value
        | .wide _ => throw (.wrongType (describeScalar text meaning) "any value")
        | .float value => return .float value
        | .text => return .text (String.ofList text)
    | .listStart _ => if depth = 0 then throw .malformed else return .list (← items inner)
    | .mapStart _ => if depth = 0 then throw .malformed else return .map (← entries inner inner)
    | _ => throw .malformed

/-- Reads a whole document. -/
def run {α : Type} (reader : Reader α) (document : Document) : Except CodecError α :=
  match ((reader document).run ⟨0, 0⟩) with
  | .error error => .error error
  | .ok (value, _) => if document.intact && document.alone then .ok value else .error .malformed

/-- Reads an encoded document. -/
def decode {α : Type} (reader : Reader α) (bytes : Bytes) : Except CodecError α :=
  reader.run (Document.ofBytes bytes)

end Reader

end PipelineDepot.Yaml
