import PipelineDepot.Yaml.Token
import PipelineDepot.Yaml.Token.Cursor

/-! # Laying out scalars

A `Layout` is a YAML text under construction, with what the next mark has to know about the end of
it. The functions here put marks, line starts and scalars behind it. `ScalarForm` says in which of
the four ways a scalar can be written; a scalar that cannot be written the wanted way is put between
quotes, and one with characters that do not show is put between double quotes with escapes.
-/

namespace PipelineDepot.Yaml

/-- A text under construction. -/
structure Layout where
  /-- The characters so far, the last one first. -/
  done : List Char := []
  column : Nat := 0
  /-- The text ends in a space or at the start of a line. -/
  spaced : Bool := true
  /-- The line holds nothing but indentation and marks that count as such. -/
  indented : Bool := true

namespace Layout

variable (layout : Layout)

/-- Puts a character of the line. -/
def put (c : Char) : Layout :=
  { layout with done := c :: layout.done, column := layout.column + 1 }

/-- Puts characters of the line. -/
def putAll (text : List Char) : Layout := text.foldl put layout

/-- Ends the line with a given line end. -/
def endLine (c : Char := '\n') : Layout :=
  { layout with done := c :: layout.done, column := 0 }

/-- Goes to a column at the start of a line, on a new line unless this one holds only indentation
up to there. -/
def startLine (indent : Int) : Layout :=
  let column := indent.toNat
  let layout :=
    if !layout.indented || column < layout.column || (layout.column == column && !layout.spaced)
    then layout.endLine else layout
  let padded := layout.putAll (List.replicate (column - layout.column) ' ')
  { padded with spaced := true, indented := true }

/-- Puts a mark, behind a space if one is wanted. -/
def mark (text : String) (wantsSpace indents : Bool := false) : Layout :=
  let layout := if wantsSpace && !layout.spaced then layout.put ' ' else layout
  let layout := layout.putAll text.toList
  { layout with spaced := false, indented := layout.indented && indents }

end Layout

/-- The ways a scalar can be written. -/
structure ScalarForm where
  /-- The scalar has more than one line. -/
  multiline : Bool
  plain : Bool
  singleQuoted : Bool
  block : Bool
  deriving DecidableEq, Repr

namespace ScalarForm

/-- The character shows as itself between quotes. -/
def isPrintable (c : Char) : Bool :=
  let code := c.toNat
  code == 0x0A || (0x20 ≤ code && code ≤ 0x7E) ||
    (0xA0 ≤ code && code ≤ 0xFFFD && code != 0xFEFF) ||
    0x10000 ≤ code

/-- A character that ends a word; the end of the text does too. -/
def endsWord : Option Char → Bool
  | none => true
  | some c => isGap c || isBreak c || c == '\x00'

/-- The characters that start something else than a plain scalar. -/
def startMarks : List Char := "#,[]\x7b\x7d&*!|>'\"%@`".toList

/-- The text starts as something else than a plain scalar. -/
def startsAsMark (text : List Char) : Bool :=
  match text with
  | [] => false
  | first :: rest =>
    ['-', '-', '-'].isPrefixOf text || ['.', '.', '.'].isPrefixOf text ||
      startMarks.contains first ||
      (['?', ':', '-'].contains first && endsWord rest.head?)

/-- A colon that ends a word stands behind the first character, or a number sign that starts
one. -/
def holdsMark : List Char → Bool
  | first :: c :: rest =>
    (c == ':' && endsWord rest.head?) || (c == '#' && endsWord (some first)) ||
      holdsMark (c :: rest)
  | _ => false

/-- A character with the first property stands right before one with the second. -/
def holdsPair (first second : Char → Bool) (text : List Char) : Bool :=
  (text.zip (text.drop 1)).any fun (a, b) => first a && second b

/-- The ways a text can be written outside of flow collections. -/
def of (text : List Char) : ScalarForm :=
  if text = [] then { multiline := false, plain := true, singleQuoted := true, block := false }
  else
    let isSpace (c : Char) : Bool := c == ' '
    let ends (property : Char → Bool) : Bool :=
      text.head?.any property || text.getLast?.any property
    let multiline := text.any isBreak
    let breakSpace := holdsPair isBreak isSpace text
    let hidden := holdsPair isSpace isBreak text || text.any (!isPrintable ·)
    { multiline
      plain := !(ends isSpace || ends isBreak || multiline || hidden || startsAsMark text ||
        holdsMark text)
      singleQuoted := !(breakSpace || hidden)
      block := !(text.getLast? == some ' ' || hidden) }

/-- The way a text is written when `wanted` is the preferred way. The key of a simple entry has to
stand on one line. -/
def choose (form : ScalarForm) (wanted : ScalarStyle) (simpleKey : Bool) : ScalarStyle :=
  if simpleKey && form.multiline then .doubleQuoted
  else match wanted with
    | .plain =>
      if form.plain then .plain else if form.singleQuoted then .singleQuoted else .doubleQuoted
    | .singleQuoted => if form.singleQuoted then .singleQuoted else .doubleQuoted
    | .doubleQuoted => .doubleQuoted
    | .literal | .folded => if form.block && !simpleKey then .literal else .doubleQuoted

end ScalarForm

namespace Layout

/-- A number in uppercase hexadecimal digits, filled up to a width. -/
def hexDigits (width n : Nat) : List Char :=
  let digits := (Nat.toDigits 16 n).map Char.toUpper
  List.replicate (width - digits.length) '0' ++ digits

/-- The letters behind a backslash for some characters. -/
def escapes : List (Char × Char) :=
  [('\x00', '0'), ('\x07', 'a'), ('\x08', 'b'), ('\t', 't'), ('\n', 'n'), ('\x0b', 'v'),
    ('\x0c', 'f'), ('\r', 'r'), ('\x1b', 'e'), ('"', '"'), ('\\', '\\'), ('\u0085', 'N'),
    ('\u2028', 'L'), ('\u2029', 'P')]

/-- The spelling of a character between double quotes. -/
def doubleQuotedChar (c : Char) : List Char :=
  if ScalarForm.isPrintable c && !isBreak c && c != '"' && c != '\\' then [c]
  else match escapes.lookup c with
    | some letter => ['\\', letter]
    | none =>
      let code := c.toNat
      if code ≤ 0xFF then '\\' :: 'x' :: hexDigits 2 code
      else if code ≤ 0xFFFF then '\\' :: 'u' :: hexDigits 4 code
      else '\\' :: 'U' :: hexDigits 8 code

/-- Puts a line end of a scalar and notes that the next line needs its indentation. -/
def putBreak (layout : Layout) (c : Char) : Layout :=
  { layout.endLine c with indented := true }

/-- Puts the lines of a scalar; `onLine` spells the characters of a line. -/
def putLines (onLine : Char → List Char) (indent : Int) :
    List Char → Bool → Layout → Bool × Layout
  | [], broken, layout => (broken, layout)
  | c :: rest, broken, layout =>
    if isBreak c then putLines onLine indent rest true (layout.putBreak c)
    else
      let layout := if broken then layout.startLine indent else layout
      putLines onLine indent rest false { layout.putAll (onLine c) with indented := false }

/-- The marks on the head of a block: its indentation where the first line hides it, and what
becomes of the line ends behind its last line. -/
def blockHints (text : List Char) : String :=
  let indentation := if text.head?.any fun c => c == ' ' || isBreak c then "2" else ""
  let chomping :=
    match text.reverse with
    | [] => "-"
    | last :: before =>
      if !isBreak last then "-" else if before.head?.all isBreak then "+" else ""
  indentation ++ chomping

/-- Puts a scalar; its later lines stand at the column `indent`. -/
def scalar (layout : Layout) (text : List Char) (style : ScalarStyle) (indent : Int) : Layout :=
  match style with
  | .plain =>
    let layout := if layout.spaced || text.isEmpty then layout else layout.put ' '
    { layout.putAll text with spaced := false, indented := false }
  | .singleQuoted =>
    let spell (c : Char) : List Char := if c = '\'' then ['\'', '\''] else [c]
    let (broken, layout) := putLines spell indent text false (layout.mark "'" true)
    let layout := if broken then layout.startLine indent else layout
    layout.mark "'"
  | .doubleQuoted =>
    ((layout.mark "\"" true).putAll (text.flatMap doubleQuotedChar)).mark "\""
  | .literal | .folded =>
    let head := (layout.mark ("|" ++ blockHints text) true).endLine
    let head := { head with spaced := true, indented := true }
    (putLines (fun c => [c]) indent text true head).2

end Layout

end PipelineDepot.Yaml
