import PipelineDepot.Datum
import PipelineDepot.Decimal.Reading

/-! # Scalars in TOML documents

The words that stand for a truth value, a number, or a date with or without a time. Digits may be
grouped by underscores between them.
-/

namespace PipelineDepot.Toml.Scalar

open Text (digits? isDigitOf)

/-- The digits of a group without the underscores, each of which stands between two digits. -/
def ungroup? (isDigit : Char → Bool) : List Char → Option (List Char)
  | [] => none
  | [c] => if isDigit c then some [c] else none
  | c :: '_' :: rest =>
    if isDigit c then (ungroup? isDigit rest).map (c :: ·) else none
  | c :: rest => if isDigit c then (ungroup? isDigit rest).map (c :: ·) else none

/-- The number that grouped digits of a radix spell. -/
def grouped? (radix : Nat) (word : List Char) : Option Nat :=
  (ungroup? (isDigitOf radix) word).bind (digits? radix)

/-- The digits of a decimal number without a needless zero in front. -/
def whole? (word : List Char) : Option (List Char) := do
  let digits ← ungroup? Char.isDigit word
  match digits with
  | '0' :: _ :: _ => none
  | _ => some digits

/-- The sign of a word, and what is behind it. -/
def splitSign : List Char → List Char × List Char
  | '-' :: rest => (['-'], rest)
  | '+' :: rest => ([], rest)
  | word => ([], word)

/-- The least and the greatest integer that a document holds. -/
def fits (value : Int) : Bool := -Int.pow 2 127 ≤ value && value < Int.pow 2 128

/-- The integer that a word spells. -/
def integer? (word : List Char) : Option Int := do
  let value : Int ←
    match word with
    | '0' :: 'x' :: digits => (grouped? 16 digits).map Int.ofNat
    | '0' :: 'o' :: digits => (grouped? 8 digits).map Int.ofNat
    | '0' :: 'b' :: digits => (grouped? 2 digits).map Int.ofNat
    | _ =>
      let (sign, body) := splitSign word
      let value ← digits? 10 (← whole? body)
      some (if sign = [] then Int.ofNat value else -Int.ofNat value)
  if fits value then some value else none

/-- The number with a point or an exponent that a word spells. -/
def decimal? (word : List Char) : Option Binary64 := do
  let (sign, body) := splitSign word
  let isExponent (c : Char) : Bool := c == 'e' || c == 'E'
  let mantissa := body.takeWhile (!isExponent ·)
  let whole := mantissa.takeWhile (· != '.')
  let wholeDigits ← whole? whole
  let fraction : List Char ←
    match mantissa.drop whole.length with
    | [] => some []
    | _ :: digits => (ungroup? Char.isDigit digits).map ('.' :: ·)
  let exponent : List Char ←
    match body.drop mantissa.length with
    | [] => some []
    | _ :: power =>
      let (sign, digits) := splitSign power
      (ungroup? Char.isDigit digits).map fun digits => 'e' :: (sign ++ digits)
  if fraction = [] ∧ exponent = [] then none
  else (Decimal.decimal? (sign ++ wholeDigits ++ fraction ++ exponent)).filter Binary64.isFinite

/-- The number that a word spells. -/
def float? (word : List Char) : Option Binary64 :=
  let (sign, body) := splitSign word
  if body = "inf".toList then some (.infinity (sign != []))
  else if body = "nan".toList then
    some (if sign = [] then .nan else .ofMagnitude true Binary64.nan.bits.toNat)
  else decimal? word

/-- Takes a number of `count` digits between two bounds. -/
def field? (count low high : Nat) (word : List Char) : Option (List Char) := do
  let digits := word.take count
  if digits.length < count then none
  else
    let value ← digits? 10 digits
    if digits.all Char.isDigit && low ≤ value && value ≤ high then some (word.drop count) else none

/-- Takes a character. -/
def mark? (isMark : Char → Bool) : List Char → Option (List Char)
  | c :: rest => if isMark c then some rest else none
  | [] => none

/-- The number of days of a month. -/
def daysOf (year month : Nat) : Nat :=
  if month = 2 then
    if (year % 4 = 0 ∧ year % 100 ≠ 0) ∨ year % 400 = 0 then 29 else 28
  else if month ∈ [4, 6, 9, 11] then 30
  else 31

/-- Takes a date. -/
def date? (word : List Char) : Option (List Char) := do
  let rest ← field? 4 0 9999 word
  let rest ← mark? (· == '-') rest
  let month := (digits? 10 (rest.take 2)).getD 0
  let rest ← field? 2 1 12 rest
  let rest ← mark? (· == '-') rest
  field? 2 1 (daysOf ((digits? 10 (word.take 4)).getD 0) month) rest

/-- Takes the seconds of a time, with or without a fraction. -/
def seconds? (word : List Char) : Option (List Char) := do
  let rest ← field? 2 0 60 word
  match rest with
  | '.' :: digits =>
    if digits.head?.any Char.isDigit then some (digits.dropWhile Char.isDigit) else none
  | _ => some rest

/-- Takes a time of the day; the seconds may be missing. -/
def time? (word : List Char) : Option (List Char) := do
  let rest ← field? 2 0 23 word
  let rest ← mark? (· == ':') rest
  let rest ← field? 2 0 59 rest
  match rest with
  | ':' :: rest => seconds? rest
  | _ => some rest

/-- The word is the distance of a time from universal time, or nothing. -/
def isOffset (word : List Char) : Bool :=
  match word with
  | [] => true
  | [c] => c == 'Z' || c == 'z'
  | _ =>
    let found := do
      let rest ← mark? (fun c => c == '+' || c == '-') word
      let rest ← field? 2 0 23 rest
      let rest ← mark? (· == ':') rest
      field? 2 0 59 rest
    found == some []

/-- The word is a date, a time, or both. -/
def isDateTime (word : List Char) : Bool :=
  match date? word with
  | none => time? word == some []
  | some [] => true
  | some (c :: rest) => (c == 'T' || c == 't' || c == ' ') && (time? rest).any isOffset

/-- The characters of the words that stand for scalars. -/
def isWordChar (c : Char) : Bool :=
  c.isAlphanum || c == '_' || c == '-' || c == '+' || c == '.' || c == ':'

/-- The length of the word at the head of a text. A space may part a date from a time. -/
def wordLength (text : List Char) : Nat :=
  let word := text.takeWhile isWordChar
  match text.drop word.length with
  | ' ' :: c :: rest =>
    if date? word == some [] && c.isDigit then
      word.length + 1 + ((c :: rest).takeWhile isWordChar).length
    else word.length
  | _ => word.length

/-- The entry that marks a map as a date or a time. -/
def dateTimeKey : String := "$date-time"

/-- What a word stands for. -/
def ofWord? (word : List Char) : Option Datum :=
  if word = "true".toList then some (.bool true)
  else if word = "false".toList then some (.bool false)
  else if isDateTime word then
    some (.map [(.text dateTimeKey, .text (String.ofList word))])
  else match integer? word with
    | some value => some (.int value)
    | none => (float? word).map .float

end PipelineDepot.Toml.Scalar
