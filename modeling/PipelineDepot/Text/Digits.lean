/-! # Digits

Digits of any radix up to thirty-six, and the numbers that they spell.
-/

namespace PipelineDepot.Text

/-- The value of a digit, letters counting from ten on. -/
def digit? (c : Char) : Option Nat :=
  if '0' ≤ c ∧ c ≤ '9' then some (c.toNat - '0'.toNat)
  else if 'a' ≤ c ∧ c ≤ 'z' then some (c.toNat - 'a'.toNat + 10)
  else if 'A' ≤ c ∧ c ≤ 'Z' then some (c.toNat - 'A'.toNat + 10)
  else none

/-- A digit of a radix. -/
def isDigitOf (radix : Nat) (c : Char) : Bool := (digit? c).any (· < radix)

/-- Reads digits behind the number read so far. -/
def digitsFrom? (radix : Nat) (before : Nat) : List Char → Option Nat
  | [] => some before
  | c :: rest =>
    match digit? c with
    | none => none
    | some digit =>
      if digit < radix then digitsFrom? radix (before * radix + digit) rest else none

/-- The number that one or more digits spell. -/
def digits? (radix : Nat) (text : List Char) : Option Nat :=
  if text = [] then none else digitsFrom? radix 0 text

/-- The number that the first `count` characters of a text spell. -/
def firstDigits? (radix count : Nat) (text : List Char) : Option Nat :=
  let digits := text.take count
  if digits.length < count then none else digits? radix digits

/-- The character with a code point, if there is one. -/
def charOfCode? (code : Nat) : Option Char :=
  if code.isValidChar then some (Char.ofNat code) else none

end PipelineDepot.Text
