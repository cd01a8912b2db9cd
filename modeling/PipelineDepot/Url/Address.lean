import PipelineDepot.Text.Digits

/-! # Addresses as hosts

The spellings of IPv4 and IPv6 addresses in the host of a URL. An IPv4 address has up to four parts
in decimal, octal or hexadecimal digits, and the last one fills the bytes that the others leave. An
IPv6 address has eight pieces, one run of which may be left out, and may end in an IPv4 address.
-/

namespace PipelineDepot.Url

open Text (digits? digitsFrom? isDigitOf)

namespace Ipv4

/-- The number of addresses. -/
def count : Nat := Nat.pow 2 32

/-- The number that a part of an address spells; a mark without digits spells zero. -/
def part? : List Char → Option Nat
  | [] => none
  | '0' :: 'x' :: rest => digitsFrom? 16 0 rest
  | '0' :: 'X' :: rest => digitsFrom? 16 0 rest
  | '0' :: c :: rest => digits? 8 (c :: rest)
  | text => digits? 10 text

/-- The parts of a host without the empty one behind a final dot. -/
def parts (host : List Char) : List (List Char) :=
  let all := host.splitOn '.'
  if all.getLast? = some [] then all.dropLast else all

/-- The host is an IPv4 address or nothing: its last part is a number. -/
def isMeant (host : List Char) : Bool :=
  match (parts host).getLast? with
  | none => false
  | some last => (!last.isEmpty && last.all Char.isDigit) || (part? last).isSome

/-- The host is an IPv4 address. -/
def isValid (host : List Char) : Bool :=
  let parts := parts host
  match parts.mapM part? with
  | none => false
  | some numbers =>
    match numbers.reverse with
    | [] => false
    | last :: others =>
      parts.length ≤ 4 && others.all (· ≤ 255) && last < count / Nat.pow 256 others.length

end Ipv4

namespace Ipv6

/-- The number of 16-bit pieces. -/
def pieceCount : Nat := 8

/-- A byte in decimal digits, without a leading zero. -/
def isByte (text : List Char) : Bool :=
  !text.isEmpty && text.all Char.isDigit && (text.length = 1 || text.head? != some '0') &&
    text.length ≤ 3 && (digits? 10 text).any (· ≤ 255)

/-- The four bytes that an address may end in. -/
def isTail (text : List Char) : Bool :=
  let parts := text.splitOn '.'
  parts.length = 4 && parts.all isByte

/-- The pieces behind `pieces` others make an address; `compressed` tells whether a run of pieces
was left out. -/
def isValidFrom (compressed : Bool) (pieces : Nat) (text : List Char) : Bool :=
  match text with
  | [] => compressed || pieces = pieceCount
  | ':' :: rest =>
    !compressed && pieces < pieceCount && isValidFrom true (pieces + 1) rest
  | c :: rest =>
    let digits := (c :: rest).take 4 |>.takeWhile (isDigitOf 16)
    let behind := (c :: rest).drop digits.length
    if pieces = pieceCount then false
    else match _same : behind with
      | [] => compressed || pieces + 1 = pieceCount
      | '.' :: _ =>
        !digits.isEmpty && pieces ≤ 6 && isTail (c :: rest) &&
          (compressed || pieces + 2 = pieceCount)
      | ':' :: more => !more.isEmpty && isValidFrom compressed (pieces + 1) more
      | _ => false
termination_by text.length
decreasing_by
  · simp
  · have shorter := congrArg List.length _same
    simp only [behind, List.length_drop, List.length_cons] at shorter
    simp only [List.length_cons]
    omega

/-- The text between the brackets is an IPv6 address. -/
def isValid (text : List Char) : Bool :=
  match text with
  | ':' :: ':' :: rest => isValidFrom true 1 rest
  | ':' :: _ => false
  | [] | [_] => false
  | _ => isValidFrom false 0 text

end Ipv6

end PipelineDepot.Url
