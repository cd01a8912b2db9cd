import PipelineDepot.Bytes
import PipelineDepot.Text.Direction
import PipelineDepot.Text.Hidden
import PipelineDepot.Url.Address
import PipelineDepot.Url.Punycode

/-! # Domain names

A domain name consists of labels with dots between them. Before it is looked up, its percent signs
are decoded, its characters are brought to lower case and to their usual forms, and characters that
do not show are dropped. ASCII characters with a meaning of their own in a URL are refused, and so
are characters that no label may hold.
-/

namespace PipelineDepot.Url.Domain

/-- Puts in the bytes that percent signs with two digits behind them stand for. -/
def percentDecode : Bytes → Bytes
  | [] => []
  | [a] => [a]
  | [a, b] => [a, b]
  | a :: b :: c :: rest =>
    match Text.digits? 16 [Char.ofNat b.toNat, Char.ofNat c.toNat] with
    | some byte =>
      if a = 0x25 then UInt8.ofNat byte :: percentDecode rest
      else a :: percentDecode (b :: c :: rest)
    | none => a :: percentDecode (b :: c :: rest)

/-- An ASCII character that no domain name holds. -/
def isRefused (c : Char) : Bool :=
  c.toNat ≤ 0x20 || c.toNat == 0x7F || "%#/:<>?@[\\]^|".toList.contains c

/-- The characters that are dropped. -/
def droppedRanges : List (Nat × Nat) :=
  [(0xAD, 0xAD), (0x34F, 0x34F), (0x115F, 0x1160), (0x17B4, 0x17B5), (0x180B, 0x180F),
    (0x200B, 0x200B), (0x2060, 0x2064), (0x206A, 0x206F), (0x3164, 0x3164), (0xFE00, 0xFE0F),
    (0xFEFF, 0xFEFF), (0xFFA0, 0xFFA0), (0x1BCA0, 0x1BCA3), (0x1D173, 0x1D17A),
    (0xE0100, 0xE01EF)]

/-- The characters with something to show that no domain name holds, because their usual form has a
space or a mark in it, or because they have none. -/
def refusedRanges : List (Nat × Nat) :=
  [(0xA8, 0xA8), (0xAF, 0xAF), (0xB4, 0xB4), (0xB8, 0xB8), (0x2D8, 0x2DD), (0x37A, 0x37A),
    (0x384, 0x385), (0x1FBD, 0x1FBD), (0x1FBF, 0x1FC1), (0x1FCD, 0x1FCF), (0x1FDD, 0x1FDF),
    (0x1FED, 0x1FEE), (0x1FFD, 0x1FFE), (0x2017, 0x2017), (0x2024, 0x2026), (0x203E, 0x203E),
    (0x2047, 0x2049), (0x2100, 0x2101), (0x2105, 0x2106), (0x2488, 0x249B), (0x2A74, 0x2A74),
    (0x2FF0, 0x2FFF), (0x309B, 0x309C), (0x31EF, 0x31EF), (0x33C2, 0x33C2), (0x33C7, 0x33C7),
    (0x33D8, 0x33D8), (0xFC5E, 0xFC63), (0xFDFA, 0xFDFB), (0xFE12, 0xFE13), (0xFE16, 0xFE16),
    (0xFE19, 0xFE19), (0xFE30, 0xFE30), (0xFE47, 0xFE4C), (0xFE52, 0xFE52), (0xFE55, 0xFE56),
    (0xFE5F, 0xFE5F), (0xFE64, 0xFE65), (0xFE68, 0xFE68), (0xFE6A, 0xFE6B), (0xFE70, 0xFE70),
    (0xFE72, 0xFE72), (0xFE74, 0xFE74), (0xFE76, 0xFE76), (0xFE78, 0xFE78), (0xFE7A, 0xFE7A),
    (0xFE7C, 0xFE7C), (0xFE7E, 0xFE7E), (0xFFE3, 0xFFE3), (0xFFFC, 0xFFFD), (0x1F100, 0x1F100)]

/-- Runs of characters that stand for numbers in sequence: the first code point, the last one, and
the number that the first one stands for. -/
def numberRuns : List (Nat × Nat × Nat) :=
  [(0xB2, 0xB3, 2), (0xB9, 0xB9, 1), (0x2070, 0x2070, 0), (0x2074, 0x2079, 4),
    (0x2080, 0x2089, 0), (0x2460, 0x2473, 1), (0x24EA, 0x24EA, 0), (0x3251, 0x325F, 21),
    (0x32B1, 0x32BF, 36), (0x1D7CE, 0x1D7D7, 0), (0x1D7D8, 0x1D7E1, 0), (0x1D7E2, 0x1D7EB, 0),
    (0x1D7EC, 0x1D7F5, 0), (0x1D7F6, 0x1D7FF, 0), (0x1FBF0, 0x1FBF9, 0)]

/-- The number that a character stands for. -/
def number? (code : Nat) : Option Nat :=
  (numberRuns.find? fun (first, last, _) => first ≤ code && code ≤ last).map
    fun (first, _, start) => start + (code - first)

/-- The usual form of some other characters. -/
def usualForms : List (Nat × Char) :=
  [(0x3002, '.'), (0xFF61, '.'), (0xFF9E, '\u3099'), (0xFF9F, '\u309A'), (0x212A, 'k'),
    (0x17F, 's'), (0xAA, 'a'), (0xBA, 'o')]

/-- The usual form of a character. -/
def usualForm (c : Char) : List Char :=
  let code := c.toNat
  if code < 0x80 then [c.toLower]
  else if Text.inRanges droppedRanges code then []
  else if 0xFF01 ≤ code ∧ code ≤ 0xFF5E then [(Char.ofNat (code - 0xFF01 + 0x21)).toLower]
  else match number? code with
    | some number => (toString number).toList
    | none => [(usualForms.lookup code).getD c]

/-- A character that a label may hold. -/
def isAllowed (c : Char) : Bool :=
  if c.toNat < 0x80 then !isRefused c
  else !Text.inRanges refusedRanges c.toNat && (Text.isMark c || !Text.isHidden c)

/-- The label holds only what a label may hold, and starts with no combining mark. -/
def isLabel (label : List Char) : Bool :=
  label.all isAllowed && !label.head?.any Text.isMark

/-- What a label means; one that is spelled in ASCII characters means another one. -/
def meaning? : List Char → Option (List Char)
  | 'x' :: 'n' :: '-' :: '-' :: spelled =>
    (Punycode.decode? spelled).filter fun meant => meant.any fun c => 0x80 ≤ c.toNat
  | label => some label

/-- The labels can be looked up together: if one of them runs from right to left, all have to show
in one order. -/
def areLabels (labels : List (List Char)) : Bool :=
  labels.all isLabel && (!labels.any Text.runsLeft || labels.all Text.isOrdered)

/-- The usual form of a domain name, given with percent signs. -/
def ofText? (text : List Char) : Option (List Char) := do
  let decoded ← Bytes.toText? (percentDecode (Bytes.ofText (String.ofList text)))
  let usual := decoded.toList.flatMap usualForm
  let labels ← (usual.splitOn '.').mapM meaning?
  if areLabels labels then some usual else none

end PipelineDepot.Url.Domain
