/-! # Cursors

A cursor stands in a text and knows its line and column. Lines end in a line feed, a carriage
return, both, or one of three further line ends of Unicode; what is read over a line end is a line
feed, or the line or paragraph separator itself.
-/

namespace PipelineDepot.Yaml

/-- A line end. -/
def isBreak (c : Char) : Bool :=
  c == '\n' || c == '\r' || c == '\u0085' || c == '\u2028' || c == '\u2029'

/-- A space or a tab. -/
def isGap (c : Char) : Bool := c == ' ' || c == '\t'

/-- The characters of anchors and of the names of tags. -/
def isNameChar (c : Char) : Bool :=
  c.isAlphanum || c == '_' || c == '-'

/-- A place in a text, with what comes behind it. -/
structure Cursor where
  rest : List Char
  index : Nat
  line : Nat
  column : Nat
  deriving Repr

namespace Cursor

/-- The start of a text. -/
def start (text : List Char) : Cursor := ⟨text, 0, 0, 0⟩

/-- The next character. -/
def next? (here : Cursor) : Option Char := here.rest.head?

/-- The next character is `c`. -/
def sees (here : Cursor) (c : Char) : Bool := here.rest.head? == some c

/-- The text ends here. -/
def atEnd (here : Cursor) : Bool := here.rest.isEmpty

/-- A line end comes next. -/
def atBreak (here : Cursor) : Bool := here.rest.head?.any isBreak

/-- A space or a tab comes next. -/
def atGap (here : Cursor) : Bool := here.rest.head?.any isGap

/-- The line is over. -/
def atLineEnd (here : Cursor) : Bool := here.atEnd || here.atBreak

/-- The word is over. -/
def atWordEnd (here : Cursor) : Bool := here.atLineEnd || here.atGap

/-- Goes over one character of the line. -/
def skip (here : Cursor) : Cursor :=
  match here.rest with
  | [] => here
  | _ :: rest => ⟨rest, here.index + 1, here.line, here.column + 1⟩

/-- Goes over a number of characters of the line. -/
def skipMany (here : Cursor) : Nat → Cursor
  | 0 => here
  | count + 1 => here.skip.skipMany count

/-- Goes over a line end and gives what it reads as. -/
def readBreak (here : Cursor) : List Char × Cursor :=
  match here.rest with
  | '\r' :: '\n' :: rest => (['\n'], ⟨rest, here.index + 2, here.line + 1, 0⟩)
  | c :: rest =>
    if c = '\u2028' ∨ c = '\u2029' then ([c], ⟨rest, here.index + 1, here.line + 1, 0⟩)
    else if isBreak c then (['\n'], ⟨rest, here.index + 1, here.line + 1, 0⟩)
    else ([], here)
  | [] => ([], here)

/-- The cursor behind the longest run of characters of the line with a property, and the run. -/
def takeWhile (here : Cursor) (property : Char → Bool) : List Char × Cursor :=
  let run := here.rest.takeWhile property
  (run,
    ⟨here.rest.dropWhile property, here.index + run.length, here.line, here.column + run.length⟩)

/-- The cursor behind the longest run of characters of the line with a property. -/
def skipWhile (here : Cursor) (property : Char → Bool) : Cursor :=
  (here.takeWhile property).2

/-- The cursor at the end of the line. -/
def skipLine (here : Cursor) : Cursor := here.skipWhile fun c => !isBreak c

/-- Three of `c` come next, and behind them the word is over. -/
def seesMark (here : Cursor) (c : Char) : Bool :=
  match here.rest with
  | x :: y :: z :: rest =>
    x == c && y == c && z == c && (rest.head?.all fun d => isGap d || isBreak d)
  | _ => false

/-- The mark between documents stands here, at the start of a line. -/
def atDocumentMark (here : Cursor) : Bool :=
  here.column == 0 && (here.seesMark '-' || here.seesMark '.')

end Cursor

end PipelineDepot.Yaml
