import PipelineDepot.Toml.Scalar
import PipelineDepot.Toml.Text

/-! # Statements of TOML documents

A document is a list of statements, a line for each: an entry with its key path and value, the
header of a table, or the header of one more table in a list of tables. `Statement.readAll?` cuts a
text into them; what tables they make is not decided here. Values inside braces are tables of their
own, given as the entries they hold.
-/

namespace PipelineDepot.Toml

/-- A key with dots: the names that lead to an entry. -/
abbrev KeyPath := List String

/-- A value as it is written. -/
inductive Written
  | scalar (datum : Datum)
  | list (items : List Written)
  /-- The entries between braces. -/
  | table (entries : List (KeyPath × Written))

/-- A statement of a document. -/
inductive Statement
  | entry (path : KeyPath) (value : Written)
  | header (path : KeyPath)
  /-- The header of one more table of a list. -/
  | listHeader (path : KeyPath)

/-- The characters of a key without quotes. -/
def isKeyChar (c : Char) : Bool := c.isAlphanum || c == '_' || c == '-'

/-- Reads one name of a key. -/
def name? (text : List Char) : Option (String × List Char) :=
  match text.takeWhile isKeyChar with
  | [] => (shortText? text).map fun (name, rest) => (String.ofList name, rest)
  | name => some (String.ofList name, text.drop name.length)

/-- Reads a key, at most `limit` names of it. -/
def keyPath? : Nat → List Char → Option (KeyPath × List Char)
  | 0, _ => none
  | limit + 1, text => do
    let (name, rest) ← name? (skipGap text)
    match skipGap rest with
    | '.' :: rest =>
      let (path, rest) ← keyPath? limit rest
      return (name :: path, rest)
    | rest => return ([name], rest)

/-- How deep values may stand in each other. -/
def maxDepth : Nat := 80

/-- Goes over blanks, line ends and comments inside brackets. -/
def skipInside (text : List Char) : List Char := skipLines (text.length + 1) text

mutual

/-- Reads a value, in at most `limit` steps and `depth` levels. -/
def value? : Nat → Nat → List Char → Option (Written × List Char)
  | 0, _, _ => none
  | limit + 1, depth, text =>
    match text with
    | '[' :: rest =>
      if depth = 0 then none
      else (items? limit (depth - 1) rest).map fun (items, rest) => (.list items, rest)
    | '\x7b' :: rest =>
      if depth = 0 then none
      else (entries? limit (depth - 1) rest).map fun (entries, rest) => (.table entries, rest)
    | '"' :: _ | '\'' :: _ =>
      (text? text).map fun (body, rest) => (.scalar (.text (String.ofList body)), rest)
    | _ =>
      let length := Scalar.wordLength text
      (Scalar.ofWord? (text.take length)).map fun datum => (.scalar datum, text.drop length)

/-- Reads the items of a list up to its bracket. -/
def items? : Nat → Nat → List Char → Option (List Written × List Char)
  | 0, _, _ => none
  | limit + 1, depth, text =>
    match skipInside text with
    | ']' :: rest => some ([], rest)
    | text => do
      let (item, rest) ← value? limit depth text
      match skipInside rest with
      | ',' :: rest =>
        let (items, rest) ← items? limit depth rest
        return (item :: items, rest)
      | ']' :: rest => return ([item], rest)
      | _ => none

/-- Reads the entries of a table up to its brace. -/
def entries? : Nat → Nat → List Char → Option (List (KeyPath × Written) × List Char)
  | 0, _, _ => none
  | limit + 1, depth, text =>
    match skipInside text with
    | '\x7d' :: rest => some ([], rest)
    | text => do
      let (entry, rest) ← entry? limit depth text
      match skipInside rest with
      | ',' :: rest =>
        let (entries, rest) ← entries? limit depth rest
        return (entry :: entries, rest)
      | '\x7d' :: rest => return ([entry], rest)
      | _ => none

/-- Reads a key, an equals sign and a value. -/
def entry? : Nat → Nat → List Char → Option ((KeyPath × Written) × List Char)
  | 0, _, _ => none
  | limit + 1, depth, text => do
    let (path, rest) ← keyPath? (text.length + 1) text
    match rest with
    | '=' :: rest =>
      let (value, rest) ← value? limit depth (skipGap rest)
      return ((path, value), rest)
    | _ => none

end

namespace Statement

/-- Goes over what may stand behind a statement up to the end of its line. -/
def lineRest? (text : List Char) : Option (List Char) :=
  match skipComment (skipGap text) with
  | [] => some []
  | text => lineEnd? text

/-- Reads a statement. -/
def read? (text : List Char) : Option (Statement × List Char) :=
  match text with
  | '[' :: '[' :: rest => do
    let (path, rest) ← keyPath? (rest.length + 1) rest
    match rest with
    | ']' :: ']' :: rest => return (listHeader path, rest)
    | _ => none
  | '[' :: rest => do
    let (path, rest) ← keyPath? (rest.length + 1) rest
    match rest with
    | ']' :: rest => return (header path, rest)
    | _ => none
  | _ => do
    let ((path, value), rest) ← entry? (2 * text.length + 2) maxDepth text
    return (entry path value, rest)

/-- The statements of a text of fewer than `limit` lines. -/
def readUpTo? : Nat → List Char → Option (List Statement)
  | 0, _ => none
  | limit + 1, text =>
    match skipInside text with
    | [] => some []
    | text => do
      let (statement, rest) ← read? text
      let rest ← lineRest? rest
      let later ← readUpTo? limit rest
      return statement :: later

/-- The statements of a document. A mark of the encoding at its head does not count. -/
def readAll? (text : List Char) : Option (List Statement) :=
  let text :=
    match text with
    | '\ufeff' :: rest => rest
    | _ => text
  readUpTo? (text.length + 1) text

end Statement

end PipelineDepot.Toml
