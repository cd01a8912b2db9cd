import PipelineDepot.Text.Mark

/-! # The direction of text

Which way characters run (the property Bidi_Class, as far as texts without controls tell its values
apart), and the texts of which every reader sees the characters in the same order: they start with a
letter, their letters run one way, and they end in a letter or a number.
-/

namespace PipelineDepot.Text

/-- The way a character runs. -/
inductive Direction
  | leftToRight
  | rightToLeft
  /-- A digit that runs like the letters around it. -/
  | number
  /-- A digit of numbers between letters that run from right to left. -/
  | arabicNumber
  /-- The way of the character before it. -/
  | mark
  /-- The way of the letters around it. -/
  | neutral
  deriving DecidableEq, Repr

/-- The characters that run from right to left, among them some marks. -/
def rightToLeftRanges : List (Nat × Nat) :=
  [(0x5BE, 0x5F4), (0x608, 0x608), (0x60B, 0x60B), (0x60D, 0x60D), (0x61B, 0x64A), (0x66D, 0x6D5),
    (0x6E5, 0x6E6), (0x6EE, 0x6EF), (0x6FA, 0x7F5), (0x7FA, 0x88E), (0x8A0, 0x8C9),
    (0x200F, 0x200F), (0xFB1D, 0xFB28), (0xFB2A, 0xFBC2), (0xFBD3, 0xFD3D), (0xFD50, 0xFD8F),
    (0xFD92, 0xFDC7), (0xFDF0, 0xFDFC), (0xFE70, 0xFEFC), (0x10800, 0x1091B), (0x10920, 0x1093F),
    (0x10980, 0x10B35), (0x10B40, 0x10D23), (0x10D40, 0x10D65), (0x10D6F, 0x10D8F),
    (0x10E80, 0x10EC4), (0x10F00, 0x10FF6), (0x1E800, 0x1EEBB)]

/-- The digits of Arabic numbers. -/
def arabicNumberRanges : List (Nat × Nat) :=
  [(0x600, 0x605), (0x660, 0x669), (0x66B, 0x66C), (0x6DD, 0x6DD), (0x890, 0x891), (0x8E2, 0x8E2),
    (0x10D30, 0x10D39), (0x10E60, 0x10E7E)]

/-- The digits of other numbers behind the ASCII ones. -/
def numberRanges : List (Nat × Nat) :=
  [(0xB2, 0xB3), (0xB9, 0xB9), (0x6F0, 0x6F9), (0x2070, 0x2070), (0x2074, 0x2079),
    (0x2080, 0x2089), (0x2488, 0x249B), (0x102E1, 0x102FB)]

/-- The way a character runs. -/
def direction (c : Char) : Direction :=
  let code := c.toNat
  if code < 0x80 then
    if c.isAlpha then .leftToRight else if c.isDigit then .number else .neutral
  else if isMark c then .mark
  else if inRanges rightToLeftRanges code then .rightToLeft
  else if inRanges arabicNumberRanges code then .arabicNumber
  else if inRanges numberRanges code then .number
  else .leftToRight

/-- A part of the text runs from right to left. -/
def runsLeft (text : List Char) : Bool :=
  text.any fun c => direction c == .rightToLeft || direction c == .arabicNumber

/-- The directions in a text, the last one first, without the marks at its end. -/
def directionsFromEnd (text : List Char) : List Direction :=
  (text.reverse.map direction).dropWhile (· == .mark)

/-- Every reader sees the characters of the text in the same order. -/
def isOrdered (text : List Char) : Bool :=
  let directions := directionsFromEnd text
  match directions.getLast?, directions.head? with
  | some .rightToLeft, some last =>
    !directions.contains .leftToRight &&
      !(directions.contains .number && directions.contains .arabicNumber) &&
      [.rightToLeft, .number, .arabicNumber].contains last
  | some .leftToRight, some last =>
    !directions.contains .rightToLeft && !directions.contains .arabicNumber &&
      [.leftToRight, .number].contains last
  | none, none => true
  | _, _ => false

end PipelineDepot.Text
