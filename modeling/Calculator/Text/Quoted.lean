import Calculator.Text.Hidden

/-!
# Quoted text

Text shown inside double quotes so that every character of it can be told. A quote and a
backslash get a backslash, tab, carriage return, line feed and NUL have a letter, and every
other hidden character is written by its number in lower-case hexadecimal.
-/

namespace Calculator.Text

/-- A character written by its number. -/
def numbered (c : Char) : List Char :=
  ['\\', 'u', '\x7b'] ++ Nat.toDigits 16 c.toNat ++ ['\x7d']

/-- How one character is written inside quotes. -/
def quoteChar (c : Char) : List Char :=
  if c = '\x00' then ['\\', '0']
  else if c = '\t' then ['\\', 't']
  else if c = '\n' then ['\\', 'n']
  else if c = '\r' then ['\\', 'r']
  else if c = '"' || c = '\\' then ['\\', c]
  else if isHidden c then numbered c
  else [c]

/-- The text inside double quotes. -/
def quote (text : String) : String :=
  .ofList ('"' :: text.toList.flatMap quoteChar ++ ['"'])

end Calculator.Text
