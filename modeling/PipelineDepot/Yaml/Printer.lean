import PipelineDepot.Codec
import PipelineDepot.Decimal.Render
import PipelineDepot.Yaml.Layout
import PipelineDepot.Yaml.Scalar
import PipelineDepot.Yaml.Value

/-! # Writing documents

`Value.render` writes a value as a YAML document: maps and lists in block form, an item or an entry
on each line, and scalars plain wherever they read back as what they are. A tag goes in front of its
value. Some nestings have no text (`Value.isWritable`): a tag on a tagged value, and a map with a
single entry as the key of a map with a single entry.
-/

namespace PipelineDepot.Yaml

namespace Value

/-- The text of a scalar and the way it should be written; none for lists, maps and tagged
values. -/
def scalar? : Value → Option (List Char × ScalarStyle)
  | null => some ("null".toList, .plain)
  | bool value => some ((if value then "true" else "false").toList, .plain)
  | int value => some ((toString value).toList, .plain)
  | float value =>
    let text :=
      if value.isNaN then ".nan"
      else if value.isFinite then value.documentText
      else if value.isNegative then "-.inf"
      else ".inf"
    some (text.toList, .plain)
  | text value =>
    let chars := value.toList
    if chars.contains '\n' then some (chars, .literal)
    else if Scalar.meaning chars = .text && !Scalar.hasLeadingZero chars then some (chars, .plain)
    else some (chars, .singleQuoted)
  | _ => none

/-- The value is a tagged one. -/
def isTagged : Value → Bool
  | tagged _ _ => true
  | _ => false

/-- The value is a map with a single entry. -/
def isSingleton : Value → Bool
  | map [_] => true
  | _ => false

mutual

/-- The value has a text. -/
def isWritable (underTag : Bool) : Value → Bool
  | .tagged _ value => !underTag && value.isWritable true
  | .list items => itemsWritable items
  | .map entries =>
    (underTag || !(entries.length == 1 && startsUnmarked entries)) && entriesWritable entries
  | _ => true

/-- The first key is a value whose own start could not be told from that of the map. -/
def startsUnmarked : List (Value × Value) → Bool
  | [] => false
  | entry :: _ => entry.1.isTagged || entry.1.isSingleton

/-- All items have a text. -/
def itemsWritable : List Value → Bool
  | [] => true
  | item :: rest => item.isWritable false && itemsWritable rest

/-- All keys and values have a text. -/
def entriesWritable : List (Value × Value) → Bool
  | [] => true
  | (key, value) :: rest =>
    key.isWritable false && value.isWritable false && entriesWritable rest

end

end Value

/-- The handle and the suffix that a tag is written with; the mark alone has no handle. -/
def tagParts (tag : String) : String × List Char :=
  match (bareTag tag).toList with
  | ['!'] => ("", ['!'])
  | '!' :: rest => ("!", rest)
  | rest => ("!", rest)

/-- The characters of a tag that need no escape. -/
def isPlainTagChar (c : Char) : Bool :=
  isNameChar c || ";/?:@&=+$,_.~*'()[]".toList.contains c

/-- The spelling of a character of a tag. -/
def tagChar (c : Char) : List Char :=
  if isPlainTagChar c then [c]
  else (Bytes.ofText c.toString).flatMap fun byte => '%' :: Layout.hexDigits 2 byte.toNat

/-- The longest key, tag included and in bytes, that stands in front of a colon without a mark of
its own. -/
def maxSimpleKey : Nat := 128

/-- The number of bytes that a tag counts for. -/
def tagSize (tag : String) : Nat :=
  let (handle, suffix) := tagParts tag
  handle.utf8ByteSize + (String.ofList suffix).utf8ByteSize

/-- The key stands in front of a colon without a mark of its own. -/
def isSimpleKey (size : Nat) : Value → Bool
  | .tagged tag value => isSimpleKey (size + tagSize tag) value
  | .list items => items.isEmpty && size ≤ maxSimpleKey
  | .map entries => entries.isEmpty && size ≤ maxSimpleKey
  | value =>
    match value.scalar? with
    | none => false
    | some (text, _) =>
      !text.any isBreak && size + (String.ofList text).utf8ByteSize ≤ maxSimpleKey

namespace Layout

/-- Puts a tag. -/
def tag (layout : Layout) (tag : String) : Layout :=
  match tagParts tag with
  | ("", suffix) => ((layout.mark "!<" true).putAll (suffix.flatMap tagChar)).mark ">"
  | (handle, suffix) =>
    let layout := (if layout.spaced then layout else layout.put ' ').putAll handle.toList
    { layout.putAll (suffix.flatMap tagChar) with spaced := false, indented := false }

/-- Where a node stands. -/
inductive Position
  | top
  | item
  /-- A key with a mark of its own, or the value of an entry. -/
  | entry
  /-- A key in front of a colon. -/
  | simpleKey
  deriving DecidableEq, Repr

/-- The indentation inside a collection; the topmost one has none. -/
def deeper (indent : Int) : Int := if indent < 0 then 0 else indent + 2

/-- The indentation of the later lines of a scalar. -/
def scalarIndent (indent : Int) : Int := if indent < 0 then 2 else indent + 2

mutual

/-- Puts a value into a collection indented by `indent`. -/
def value (indent : Int) (position : Position) : Value → Layout → Layout
  | .tagged name value, layout => layout.tag name |> Layout.value indent position value
  | .list [], layout => layout.mark "[]" true
  | .list (item :: rest), layout =>
    let inMap := position == .entry || position == .simpleKey
    let inner := if inMap && !layout.indented && 0 ≤ indent then indent else deeper indent
    layout |> items inner (item :: rest)
  | .map [], layout => layout.mark "\x7b\x7d" true
  | .map (entry :: rest), layout => layout |> entries (deeper indent) (entry :: rest)
  | value, layout =>
    match value.scalar? with
    | none => layout
    | some (text, wanted) =>
      let style := (ScalarForm.of text).choose wanted (position == .simpleKey)
      layout.scalar text style (scalarIndent indent)

/-- Puts the items of a list. -/
def items (indent : Int) : List Value → Layout → Layout
  | [], layout => layout
  | item :: rest, layout =>
    (layout.startLine indent).mark "-" true true
      |> Layout.value indent .item item
      |> items indent rest

/-- Puts the entries of a map. -/
def entries (indent : Int) : List (Value × Value) → Layout → Layout
  | [], layout => layout
  | (key, value) :: rest, layout =>
    let layout := layout.startLine indent
    let behindKey :=
      if isSimpleKey 0 key then
        (layout |> Layout.value indent .simpleKey key).mark ":"
      else
        let marked := layout.mark "?" true true |> Layout.value indent .entry key
        (marked.startLine indent).mark ":" true true
    behindKey |> Layout.value indent .entry value |> entries indent rest

end

end Layout

/-- The text of a document that consists of a value. -/
def Value.render (value : Value) : Except CodecError String :=
  if value.isWritable false then
    let layout := ({} : Layout) |> Layout.value (-1) .top value
    .ok (String.ofList (layout.startLine (-1)).done.reverse)
  else .error .malformed

end PipelineDepot.Yaml
