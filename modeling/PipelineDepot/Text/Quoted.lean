import PipelineDepot.Text.Hidden

/-! # Quoted text

The spelling of a text between double quotes that the descriptions of stores and requests use.
A quote, a backslash and the common controls are spelled with a backslash, hidden characters by
their code point.
-/

namespace PipelineDepot.Text

/-- A number in lowercase hexadecimal digits. -/
def hex (n : Nat) : List Char := Nat.toDigits 16 n

/-- The spelling of one character. -/
def quoteChar (c : Char) : List Char :=
  if c = '\x00' then ['\\', '0']
  else if c = '\t' then ['\\', 't']
  else if c = '\n' then ['\\', 'n']
  else if c = '\r' then ['\\', 'r']
  else if c = '"' then ['\\', '"']
  else if c = '\\' then ['\\', '\\']
  else if isHidden c then ['\\', 'u', '\x7b'] ++ hex c.toNat ++ ['\x7d']
  else [c]

/-- The quoted spelling of a text. -/
def quote (text : String) : String :=
  String.ofList ('"' :: (text.toList.flatMap quoteChar ++ ['"']))

end PipelineDepot.Text
