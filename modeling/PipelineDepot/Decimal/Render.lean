import PipelineDepot.Decimal.Shortest

/-! # Numbers as text

The spellings of double-precision numbers. Documents use digits around a point while the point
falls near the digits, and an exponent beyond; descriptions never use an exponent. Both keep
`.0` behind a whole number.
-/

namespace PipelineDepot.Decimal

/-- The digits of a decimal around its point, `.0` behind a whole number. -/
def positional (decimal : Decimal) : List Char :=
  let digits := Nat.toDigits 10 decimal.significand
  let point : Int := digits.length + decimal.exponent
  if 0 ≤ decimal.exponent then
    digits ++ List.replicate decimal.exponent.toNat '0' ++ ['.', '0']
  else if 0 < point then digits.take point.toNat ++ '.' :: digits.drop point.toNat
  else '0' :: '.' :: (List.replicate (-point).toNat '0' ++ digits)

/-- One digit, the others behind a point, and the exponent. -/
def scientific (decimal : Decimal) : List Char :=
  let digits := Nat.toDigits 10 decimal.significand
  let exponent : Int := decimal.exponent + digits.length - 1
  let mantissa :=
    match digits with
    | [] => []
    | [digit] => [digit]
    | digit :: rest => digit :: '.' :: rest
  mantissa ++ 'e' :: (toString exponent).toList

/-- The least and the greatest place of the point, counted from the first digit, for which a
document shows digits around a point. -/
def documentPoints : Int × Int := (-4, 16)

/-- The spelling of a decimal in a document. -/
def document (decimal : Decimal) : List Char :=
  let point : Int := (Nat.toDigits 10 decimal.significand).length + decimal.exponent
  if documentPoints.1 ≤ point ∧ point ≤ documentPoints.2 then decimal.positional
  else decimal.scientific

end PipelineDepot.Decimal

namespace PipelineDepot.Binary64

/-- A spelling of the magnitude, with the sign in front. -/
def signed (x : Binary64) (magnitude : List Char) : String :=
  String.ofList (if x.isNegative then '-' :: magnitude else magnitude)

/-- The spelling of a finite number in a document. -/
def documentText (x : Binary64) : String :=
  x.signed (Decimal.shortest x).document

/-- The spelling of a number in a description. -/
def plainText (x : Binary64) : String :=
  if x.isNaN then "NaN"
  else if x.isFinite then x.signed (Decimal.shortest x).positional
  else x.signed ['i', 'n', 'f']

end PipelineDepot.Binary64
