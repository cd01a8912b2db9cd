/-! # Punycode

The spelling of a label of any characters in ASCII letters, digits and hyphens. What stands before
the last hyphen are the ASCII characters of the label; behind it, numbers in a system of variable
length say which other character goes where.
-/

namespace PipelineDepot.Url.Punycode

/-- The value of a digit. -/
def digit? (c : Char) : Option Nat :=
  if 'a' ≤ c ∧ c ≤ 'z' then some (c.toNat - 'a'.toNat)
  else if 'A' ≤ c ∧ c ≤ 'Z' then some (c.toNat - 'A'.toNat)
  else if c.isDigit then some (c.toNat - '0'.toNat + 26)
  else none

/-- The digit from which on a number goes on, at a position and for a bias. -/
def threshold (position bias : Nat) : Nat :=
  if position ≤ bias then 1 else min 26 (position - bias)

/-- Shrinks a difference, counting the rounds. -/
def shrink (delta rounds : Nat) : Nat × Nat :=
  if 455 < delta then shrink (delta / 35) (rounds + 36) else (delta, rounds)
termination_by delta
decreasing_by omega

/-- The bias behind a difference, for a label of `count` characters. -/
def adapt (delta count : Nat) (first : Bool) : Nat :=
  let delta := if first then delta / 700 else delta / 2
  let (delta, rounds) := shrink (delta + delta / count) 0
  rounds + 36 * delta / (delta + 38)

/-- What the numbers have said so far. -/
structure State where
  /-- The characters of the label, by their code points. -/
  label : List Nat
  /-- The code point to go on from. -/
  code : Nat := 128
  /-- The place to go on from. -/
  place : Nat := 0
  bias : Nat := 72
  /-- The place from which the number under way started. -/
  start : Nat := 0
  weight : Nat := 1
  position : Nat := 36
  first : Bool := true

/-- The largest number in a computation. -/
def maxNumber : Nat := Nat.pow 2 32 - 1

/-- Reads one digit; the last digit of a number puts a character into the label. -/
def State.read (s : State) (c : Char) : Option State := do
  let digit ← digit? c
  let place := s.place + digit * s.weight
  if maxNumber < place then none
  else
    let limit := threshold s.position s.bias
    if limit ≤ digit then
      let weight := s.weight * (36 - limit)
      if maxNumber < weight then none
      else some { s with place, weight, position := s.position + 36 }
    else
      let count := s.label.length + 1
      let code := s.code + place / count
      if !code.isValidChar then none
      else
        let at_ := place % count
        some {
          label := s.label.take at_ ++ code :: s.label.drop at_
          code
          place := at_ + 1
          bias := adapt (place - s.start) count s.first
          start := at_ + 1
          first := false }

/-- The label that a text spells. -/
def decode? (text : List Char) : Option (List Char) := do
  let tail := (text.reverse.takeWhile (· != '-')).reverse
  let (ascii, digits) :=
    if tail.length = text.length then ([], text)
    else if tail.length + 1 = text.length then ([], text)
    else (text.take (text.length - tail.length - 1), tail)
  let state ← digits.foldlM State.read { label := ascii.map Char.toNat }
  if state.position = 36 ∧ state.weight = 1 then some (state.label.map Char.ofNat) else none

end PipelineDepot.Url.Punycode
