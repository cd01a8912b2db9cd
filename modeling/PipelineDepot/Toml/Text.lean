import PipelineDepot.Text.Digits

/-! # Texts in TOML documents

What lies between the parts of a TOML document, and the four spellings of a text: between quotes
with escapes or between apostrophes as it is, on one line or, with three marks on each side, on
several. Each function takes something off the head of a text and gives the rest.
-/

namespace PipelineDepot.Toml

/-- A space or a tab. -/
def isGap (c : Char) : Bool := c == ' ' || c == '\t'

/-- A control that stands in no comment and in no text. -/
def isRefused (c : Char) : Bool := (c.toNat < 0x20 && c != '\t') || c.toNat == 0x7F

/-- Goes over spaces and tabs. -/
def skipGap (text : List Char) : List Char := text.dropWhile isGap

/-- Goes over a line end, if one comes next. -/
def lineEnd? : List Char → Option (List Char)
  | '\n' :: rest => some rest
  | '\r' :: '\n' :: rest => some rest
  | _ => none

/-- Goes over a comment up to the end of its line, if one comes next. -/
def skipComment (text : List Char) : List Char :=
  match text with
  | '#' :: rest => rest.dropWhile (!isRefused ·)
  | _ => text

/-- Goes over spaces, tabs, line ends and comments, at most `limit` lines. -/
def skipLines : Nat → List Char → List Char
  | 0, text => text
  | limit + 1, text =>
    let text := skipComment (skipGap text)
    match lineEnd? text with
    | none => text
    | some rest => skipLines limit rest

/-- The character whose code point `count` hexadecimal digits spell, and the rest. -/
def codePoint? (count : Nat) (text : List Char) : Option (Char × List Char) := do
  let c ← Text.charOfCode? (← Text.firstDigits? 16 count text)
  return (c, text.drop count)

/-- The character that a letter behind a backslash stands for. -/
def escape? (c : Char) : Option Char :=
  [('b', '\x08'), ('t', '\t'), ('n', '\n'), ('f', '\x0c'), ('r', '\r'), ('e', '\x1b'),
    ('"', '"'), ('\\', '\\')].lookup c

/-- The number of digits behind a letter behind a backslash. -/
def digitCount? (c : Char) : Option Nat := [('x', 2), ('u', 4), ('U', 8)].lookup c

/-- The character that an escape stands for, behind its backslash, and the rest. -/
def escaped? : List Char → Option (Char × List Char)
  | [] => none
  | c :: rest =>
    match escape? c, digitCount? c with
    | some meant, _ => some (meant, rest)
    | none, some count => codePoint? count rest
    | none, none => none

/-- The rest of a text on one line between quotes, at most `limit` characters of it. -/
def basicBody : Nat → List Char → Option (List Char × List Char)
  | 0, _ => none
  | _ + 1, [] => none
  | _ + 1, '"' :: rest => some ([], rest)
  | limit + 1, '\\' :: rest => do
    let (c, rest) ← escaped? rest
    let (body, rest) ← basicBody limit rest
    return (c :: body, rest)
  | limit + 1, c :: rest =>
    if isRefused c then none
    else (basicBody limit rest).map fun (body, rest) => (c :: body, rest)

/-- The rest of a text on one line between apostrophes. -/
def literalBody (text : List Char) : Option (List Char × List Char) :=
  let body := text.takeWhile fun c => c != '\'' && !isRefused c
  match text.drop body.length with
  | '\'' :: rest => some (body, rest)
  | _ => none

/-- The marks that close a text on several lines, of which up to two more may stand in front. -/
def closing? (mark : Char) (text : List Char) : Option (List Char × List Char) :=
  let marks := text.takeWhile (· == mark)
  if 3 ≤ marks.length then
    let kept := min (marks.length - 3) 2
    some (List.replicate kept mark, text.drop (kept + 3))
  else none

/-- Goes over a backslash at the end of a line and all blanks and line ends behind it. -/
def continued? (text : List Char) : Option (List Char) :=
  (lineEnd? (skipGap text)).map fun rest =>
    rest.dropWhile fun c => isGap c || c == '\n' || c == '\r'

/-- The rest of a text on several lines between quotes, at most `limit` characters of it. -/
def basicLines : Nat → List Char → Option (List Char × List Char)
  | 0, _ => none
  | _ + 1, [] => none
  | limit + 1, c :: rest =>
    match closing? '"' (c :: rest) with
    | some found => some found
    | none =>
      let goOn (lead : List Char) (rest : List Char) : Option (List Char × List Char) :=
        (basicLines limit rest).map fun (body, rest) => (lead ++ body, rest)
      if c = '\\' then
        match continued? rest with
        | some rest => goOn [] rest
        | none =>
          match escaped? rest with
          | none => none
          | some (meant, rest) => goOn [meant] rest
      else match lineEnd? (c :: rest) with
        | some rest => goOn ['\n'] rest
        | none => if isRefused c then none else goOn [c] rest

/-- The rest of a text on several lines between apostrophes, at most `limit` characters of it. -/
def literalLines : Nat → List Char → Option (List Char × List Char)
  | 0, _ => none
  | _ + 1, [] => none
  | limit + 1, c :: rest =>
    match closing? '\'' (c :: rest) with
    | some found => some found
    | none =>
      let goOn (lead : Char) (rest : List Char) : Option (List Char × List Char) :=
        (literalLines limit rest).map fun (body, rest) => (lead :: body, rest)
      match lineEnd? (c :: rest) with
      | some rest => goOn '\n' rest
      | none => if isRefused c then none else goOn c rest

/-- Reads a text on one line. -/
def shortText? : List Char → Option (List Char × List Char)
  | '"' :: rest => basicBody (rest.length + 1) rest
  | '\'' :: rest => literalBody rest
  | _ => none

/-- Reads a text. A line end right behind three marks is no part of it. -/
def text? : List Char → Option (List Char × List Char)
  | '"' :: '"' :: '"' :: rest =>
    let rest := (lineEnd? rest).getD rest
    basicLines (rest.length + 1) rest
  | '\'' :: '\'' :: '\'' :: rest =>
    let rest := (lineEnd? rest).getD rest
    literalLines (rest.length + 1) rest
  | text => shortText? text

end PipelineDepot.Toml
