import PipelineDepot.Decimal.Reading

/-! # Plain scalars

What a text without quotes stands for in a YAML document: a null, a truth value, an integer, a
number, or itself. Integers come in decimal, hexadecimal, octal and binary digits; a decimal with
a leading zero is a text.
-/

namespace PipelineDepot.Yaml.Scalar

open Decimal
open Text (digits?)

/-- What a plain scalar stands for. -/
inductive Meaning
  | null
  | bool (value : Bool)
  /-- An integer that fits a signed or an unsigned word of 64 bits. -/
  | int (value : Int)
  /-- A larger integer that still fits 128 bits. -/
  | wide (value : Int)
  | float (value : Binary64)
  | text
  deriving DecidableEq, Repr

/-- The spellings of null. -/
def isNull (text : List Char) : Bool :=
  text == "null".toList || text == "Null".toList || text == "NULL".toList || text == ['~']

/-- The truth value a text spells. -/
def bool? (text : List Char) : Option Bool :=
  if text = "true".toList ∨ text = "True".toList ∨ text = "TRUE".toList then some true
  else if text = "false".toList ∨ text = "False".toList ∨ text = "FALSE".toList then some false
  else none

/-- The text is a number with a leading zero, behind an optional sign. -/
def hasLeadingZero (text : List Char) : Bool :=
  let unsigned :=
    match text with
    | '-' :: rest => rest
    | '+' :: rest => rest
    | _ => text
  match unsigned with
  | '0' :: c :: rest => (c :: rest).all Char.isDigit
  | _ => false

/-- The number behind the mark of a radix. -/
def marked? : List Char → Option Nat
  | '0' :: 'x' :: rest => digits? 16 rest
  | '0' :: 'o' :: rest => digits? 8 rest
  | '0' :: 'b' :: rest => digits? 2 rest
  | _ => none

/-- The number that a text without a minus sign spells. -/
def unsigned? (text : List Char) : Option Nat :=
  let body :=
    match text with
    | '+' :: rest => rest
    | _ => text
  match marked? body with
  | some n => some n
  | none => if hasLeadingZero text then none else digits? 10 body

/-- The integer that a text with a minus sign spells. -/
def negative? : List Char → Option Int
  | '-' :: rest =>
    match marked? rest with
    | some n => some (-n)
    | none => if hasLeadingZero ('-' :: rest) then none else (digits? 10 rest).map fun n => -n
  | _ => none

/-- The number that a text spells, a number too large for the format being none. -/
def float? (text : List Char) : Option Binary64 :=
  if text = ".nan".toList ∨ text = ".NaN".toList ∨ text = ".NAN".toList then some .nan
  else
    let infinite (body : List Char) : Bool :=
      body == ".inf".toList || body == ".Inf".toList || body == ".INF".toList
    match text with
    | '+' :: '+' :: _ => none
    | '+' :: '-' :: _ => none
    | '+' :: body => if infinite body then some (.infinity false) else finite? (decimal? body)
    | '-' :: body => if infinite body then some (.infinity true) else finite? (decimal? text)
    | _ => if infinite text then some (.infinity false) else finite? (decimal? text)
where
  /-- Keeps a finite number. -/
  finite? (number : Option Binary64) : Option Binary64 := number.filter Binary64.isFinite

/-- The integer that a text spells, as far as it fits 128 bits. -/
def integer? (text : List Char) : Option Meaning :=
  match unsigned? text, negative? text with
  | some n, _ =>
    if n < Nat.pow 2 64 then some (.int n)
    else if n < Nat.pow 2 128 then some (.wide n) else none
  | none, some n =>
    if -Int.pow 2 63 ≤ n then some (.int n)
    else if -Int.pow 2 127 ≤ n then some (.wide n) else none
  | none, none => none

/-- What a plain text stands for. -/
def meaning (text : List Char) : Meaning :=
  if text = [] ∨ isNull text then .null
  else match bool? text with
    | some value => .bool value
    | none =>
      match integer? text with
      | some integer => integer
      | none =>
        if hasLeadingZero text then .text
        else match float? text with
          | some number => .float number
          | none => .text

end PipelineDepot.Yaml.Scalar
