import PipelineDepot.Decimal.Binary64
import PipelineDepot.Text.Digits

/-! # Reading numbers

Decimals with a point and an exponent as the numbers that they spell.
-/

namespace PipelineDepot.Decimal

open Text (digits? digitsFrom?)

/-- The decimal number that a text spells: digits with at most one point among or around them,
and an optional exponent. -/
def decimal? (text : List Char) : Option Binary64 :=
  let (negative, body) : Bool × List Char :=
    match text with
    | '-' :: rest => (true, rest)
    | '+' :: rest => (false, rest)
    | _ => (false, text)
  let (whole, rest) := body.span Char.isDigit
  let (fraction, rest) : List Char × List Char :=
    match rest with
    | '.' :: rest => rest.span Char.isDigit
    | _ => ([], rest)
  if whole = [] ∧ fraction = [] then none
  else
    let exponent? : Option Int :=
      match rest with
      | [] => some 0
      | c :: power =>
        if c = 'e' ∨ c = 'E' then
          match power with
          | '-' :: digits => (digits? 10 digits).map fun n => -n
          | '+' :: digits => (digits? 10 digits).map fun n => n
          | digits => (digits? 10 digits).map fun n => n
        else none
    match exponent?, digitsFrom? 10 0 (whole ++ fraction) with
    | some exponent, some significand =>
      some (Binary64.ofDecimal negative significand (exponent - fraction.length))
    | _, _ => none

end PipelineDepot.Decimal
