import PipelineDepot.Text.Digits
import PipelineDepot.Yaml.Token.Cursor

/-! # Reading scalars

The three ways a scalar is written in a YAML text: plain, between quotes, and as an indented
block. In the first two, the line ends between two words are folded: a single one is a space, and
of several the first is left out.
-/

namespace PipelineDepot.Yaml

/-- The blanks and line ends between two words. -/
structure Gap where
  spaces : List Char := []
  /-- The first line end. -/
  first : List Char := []
  /-- The line ends behind the first one. -/
  later : List Char := []
  /-- A line has ended; blanks no longer count. -/
  broken : Bool := false

namespace Gap

/-- What folding leaves of a gap. -/
def folded (gap : Gap) : List Char :=
  if !gap.broken then gap.spaces
  else if gap.first = ['\n'] then (if gap.later = [] then [' '] else gap.later)
  else gap.first ++ gap.later

/-- Reads a gap, at most `limit` characters of it. A tab that stands in the indentation, left of
`indent`, is no part of any gap. -/
def read (indent : Nat) : Nat → Gap → Cursor → Option (Gap × Cursor)
  | 0, gap, here => some (gap, here)
  | limit + 1, gap, here =>
    if here.atGap then
      if gap.broken then
        if here.column < indent ∧ here.sees '\t' then none
        else read indent limit gap here.skip
      else read indent limit { gap with spaces := gap.spaces ++ here.rest.take 1 } here.skip
    else if here.atBreak then
      let (text, next) := here.readBreak
      if gap.broken then read indent limit { gap with later := gap.later ++ text } next
      else read indent limit { spaces := [], first := text, later := [], broken := true } next
    else some (gap, here)

end Gap

namespace Plain

/-- The marks that end a plain scalar inside a flow collection. -/
def isFlowMark (c : Char) : Bool :=
  c == ',' || c == '[' || c == ']' || c == '\x7b' || c == '\x7d'

/-- The word at the head of a text. Inside a flow collection a colon may not stand before a mark
of the collection. -/
def word (inFlow : Bool) : List Char → Option (List Char)
  | [] => some []
  | c :: rest =>
    if isGap c || isBreak c then some []
    else if inFlow && c == ':' && rest.head?.any (fun d => isFlowMark d || d == '?') then none
    else if c == ':' && rest.head?.all (fun d => isGap d || isBreak d) then some []
    else if inFlow && isFlowMark c then some []
    else (word inFlow rest).map (c :: ·)

/-- A plain scalar as it was read. -/
structure Read where
  text : List Char
  /-- The scalar ended in a gap with a line end. -/
  broken : Bool
  behind : Cursor

/-- The scalar whose words and gaps have been read, the last one first. -/
def finish (done : List (List Char)) (broken : Bool) (behind : Cursor) : Read :=
  ⟨done.reverse.flatten, broken, behind⟩

/-- Reads words and the gaps between them, at most `limit` words. Outside flow collections the
words of later lines stand at least at the column `indent`. -/
def words (inFlow : Bool) (indent : Nat) :
    Nat → List (List Char) → Gap → Cursor → Option Read
  | 0, done, gap, here => some (finish done gap.broken here)
  | limit + 1, done, gap, here =>
    if here.atDocumentMark || here.sees '#' then some (finish done gap.broken here)
    else match word inFlow here.rest with
      | none => none
      | some [] => some (finish done gap.broken here)
      | some run =>
        let behind := here.skipMany run.length
        let done := run :: gap.folded :: done
        match Gap.read indent limit {} behind with
        | none => none
        | some (next, after) =>
          if !inFlow && after.column < indent then some (finish done next.broken after)
          else words inFlow indent limit done next after

/-- Reads a plain scalar of fewer than `limit` characters. -/
def read (limit : Nat) (inFlow : Bool) (indent : Nat) (here : Cursor) : Option Read :=
  words inFlow indent limit [] {} here

end Plain

namespace Quoted

/-- The character that a letter behind a backslash stands for. -/
def escape? (c : Char) : Option Char :=
  [('0', '\x00'), ('a', '\x07'), ('b', '\x08'), ('t', '\t'), ('\t', '\t'), ('n', '\n'),
    ('v', '\x0b'), ('f', '\x0c'), ('r', '\r'), ('e', '\x1b'), (' ', ' '), ('"', '"'),
    ('/', '/'), ('\\', '\\'), ('N', '\u0085'), ('_', '\u00a0'), ('L', '\u2028'),
    ('P', '\u2029')].lookup c

/-- The number of hexadecimal digits behind a letter behind a backslash. -/
def digitCount? (c : Char) : Option Nat :=
  [('x', 2), ('u', 4), ('U', 8)].lookup c

/-- A run of characters up to a gap, the closing quote or an escaped line end. -/
structure Run where
  text : List Char
  /-- The run ended in an escaped line end. -/
  continued : Bool
  behind : Cursor

/-- Reads a run, at most `limit` characters of it. -/
def run (quote : Char) : Nat → List Char → Cursor → Option Run
  | 0, _, _ => none
  | limit + 1, done, here =>
    if here.atWordEnd then some ⟨done.reverse, false, here⟩
    else if quote = '\'' then
      match here.rest with
      | '\'' :: '\'' :: _ => run quote limit ('\'' :: done) (here.skipMany 2)
      | '\'' :: _ => some ⟨done.reverse, false, here⟩
      | c :: _ => run quote limit (c :: done) here.skip
      | [] => none
    else
      match here.rest with
      | '"' :: _ => some ⟨done.reverse, false, here⟩
      | '\\' :: c :: rest =>
        if isBreak c then some ⟨done.reverse, true, here.skip.readBreak.2⟩
        else match escape? c, digitCount? c with
          | some meant, _ => run quote limit (meant :: done) (here.skipMany 2)
          | none, some count =>
            match (Text.firstDigits? 16 count rest).bind Text.charOfCode? with
            | none => none
            | some meant => run quote limit (meant :: done) (here.skipMany (2 + count))
          | none, none => none
      | ['\\'] => none
      | c :: _ => run quote limit (c :: done) here.skip
      | [] => none

/-- Reads runs and the gaps between them up to the closing quote, at most `limit` runs. -/
def runs (quote : Char) : Nat → List (List Char) → Cursor → Option (List Char × Cursor)
  | 0, _, _ => none
  | limit + 1, done, here =>
    if here.atDocumentMark || here.atEnd then none
    else match run quote (limit + 1) [] here with
      | none => none
      | some found =>
        let done := found.text :: done
        if found.behind.sees quote then some (done.reverse.flatten, found.behind.skip)
        else
          let gap : Gap := { broken := found.continued }
          match Gap.read 0 limit gap found.behind with
          | none => none
          | some (gap, next) => runs quote limit (gap.folded :: done) next

/-- Reads a quoted scalar of fewer than `limit` characters behind its opening quote. -/
def read (limit : Nat) (quote : Char) (here : Cursor) : Option (List Char × Cursor) :=
  runs quote limit [] here

end Quoted

namespace Block

/-- What becomes of the line ends behind the last line of a block. -/
inductive Chomping
  /-- None is kept. -/
  | strip
  /-- The first one is kept. -/
  | clip
  /-- All are kept. -/
  | keep
  deriving DecidableEq, Repr

/-- The chomping that a mark asks for. -/
def Chomping.of? (c : Char) : Option Chomping :=
  if c = '+' then some .keep else if c = '-' then some .strip else none

/-- Reads the chomping mark, if one stands here. -/
def chomping? (here : Cursor) : Option Chomping × Cursor :=
  match here.next?.bind Chomping.of? with
  | some chomping => (some chomping, here.skip)
  | none => (none, here)

/-- Reads the indentation digit, if one stands here; it is not zero. -/
def increment? (here : Cursor) : Option (Option Nat × Cursor) :=
  match here.next? with
  | some c =>
    if c = '0' then none
    else if c.isDigit then some (some (c.toNat - '0'.toNat), here.skip)
    else some (none, here)
  | none => some (none, here)

/-- The marks at the head of a block, in either order: its chomping and the number of columns
that its lines are indented beyond their parent. -/
def header (here : Cursor) : Option (Chomping × Option Nat × Cursor) :=
  match chomping? here with
  | (some chomping, next) =>
    (increment? next).map fun (increment, next) => (chomping, increment, next)
  | (none, _) =>
    match increment? here with
    | none => none
    | some (none, next) => some (.clip, none, next)
    | some (some increment, next) =>
      match chomping? next with
      | (some chomping, next) => some (chomping, some increment, next)
      | (none, next) => some (.clip, some increment, next)

/-- The column of the lines of a block; without one, the first line that is not empty sets it. -/
abbrev Column := Option Nat

/-- The indentation goes on here. -/
def inIndent (column : Column) (here : Cursor) : Bool :=
  column.all fun column => here.column < column

/-- Goes over indentation. -/
def skipIndent (column : Column) (here : Cursor) : Cursor :=
  let spaces := (here.rest.takeWhile (· == ' ')).length
  match column with
  | none => here.skipMany spaces
  | some column => here.skipMany (min spaces (column - here.column))

/-- The line ends of empty lines, the widest indentation seen, and the cursor at the next line
that is not empty. -/
structure Blanks where
  breaks : List Char
  widest : Nat
  behind : Cursor

/-- Goes over empty lines and the indentation of the next line, at most `limit` lines. No tab
stands in the indentation. -/
def blanks (column : Column) : Nat → List Char → Nat → Cursor → Option Blanks
  | 0, breaks, widest, here => some ⟨breaks, widest, here⟩
  | limit + 1, breaks, widest, here =>
    let here := skipIndent column here
    let widest := max widest here.column
    if inIndent column here && here.sees '\t' then none
    else if here.atBreak then
      let (text, next) := here.readBreak
      blanks column limit (breaks ++ text) widest next
    else some ⟨breaks, widest, here⟩

/-- What has been read of a block. -/
structure Lines where
  done : List (List Char)
  /-- The line end behind the last line. -/
  last : List Char
  /-- The line ends of the empty lines behind it. -/
  breaks : List Char
  /-- The last line starts with a blank. -/
  indented : Bool
  behind : Cursor

/-- Reads the lines that stand at a column, at most `limit` of them. A folded block joins two
lines by a space where neither starts with a blank. -/
def lines (isLiteral : Bool) (column : Nat) : Nat → Lines → Option Lines
  | 0, read => some read
  | limit + 1, read =>
    let here := read.behind
    if here.column ≠ column ∨ here.atEnd then some read
    else
      let indented := here.atGap
      let join :=
        if !isLiteral && read.last = ['\n'] && !read.indented && !indented then
          if read.breaks = [] then [' '] else []
        else read.last
      let text := here.rest.takeWhile fun c => !isBreak c
      let (last, next) := here.skipLine.readBreak
      match blanks (some column) limit [] 0 next with
      | none => none
      | some found =>
        lines isLiteral column limit
          ⟨text :: read.breaks :: join :: read.done, last, found.breaks, indented, found.behind⟩

/-- Reads a block of fewer than `limit` characters behind its mark; the lines of its parent stand
at the column `parent`. -/
def read (limit : Nat) (isLiteral : Bool) (parent : Int) (here : Cursor) :
    Option (List Char × Cursor) :=
  match header here with
  | none => none
  | some (chomping, increment, here) =>
    let gap := here.skipWhile isGap
    let here := if gap.sees '#' then gap.skipLine else gap
    if !here.atLineEnd then none
    else
      let here := here.readBreak.2
      let column : Column := increment.map fun increment => (max parent 0).toNat + increment
      match blanks column limit [] 0 here with
      | none => none
      | some found =>
        let column := column.getD (max found.widest (max (parent + 1) 1).toNat)
        let start : Lines := ⟨[], [], found.breaks, false, found.behind⟩
        match lines isLiteral column limit start with
        | none => none
        | some block =>
          let tail :=
            match chomping with
            | .strip => []
            | .clip => block.last
            | .keep => block.last ++ block.breaks
          some (block.done.reverse.flatten ++ tail, block.behind)

end Block

end PipelineDepot.Yaml
