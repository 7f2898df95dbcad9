import Calculator.Json

/-!
# Printing JSON

JSON text with every item and member on a line of its own, indented by two spaces for each
enclosing container. Strings escape quotes, backslashes and control characters, the latter by a
letter where JSON has one, and are otherwise written as they are. A value that is not kept has no
text.
-/

namespace Calculator.Json

/-- A hexadecimal digit in lower case. -/
def hexDigit (n : Nat) : Char := Nat.digitChar (n % 16)

/-- How one character is written in a JSON string. -/
def escapeChar (c : Char) : List Char :=
  if c = '"' then ['\\', '"']
  else if c = '\\' then ['\\', '\\']
  else if c = '\x08' then ['\\', 'b']
  else if c = '\x0c' then ['\\', 'f']
  else if c = '\n' then ['\\', 'n']
  else if c = '\r' then ['\\', 'r']
  else if c = '\t' then ['\\', 't']
  else if c.toNat < 0x20 then
    ['\\', 'u', '0', '0', hexDigit (c.toNat / 16), hexDigit c.toNat]
  else [c]

/-- A JSON string, and the text after it. -/
def renderString (text : String) (rest : List Char) : List Char :=
  '"' :: text.toList.flatMap escapeChar ++ '"' :: rest

/-- The start of a line, so many containers deep, and the text after it. -/
def newLine (depth : Nat) (rest : List Char) : List Char :=
  '\n' :: List.replicate (2 * depth) ' ' ++ rest

mutual

/-- A value whose lines are so many containers deep, and the text after it. -/
def renderOnto (depth : Nat) (rest : List Char) : Json → List Char
  | .null => 'n' :: 'u' :: 'l' :: 'l' :: rest
  | .bool true => 't' :: 'r' :: 'u' :: 'e' :: rest
  | .bool false => 'f' :: 'a' :: 'l' :: 's' :: 'e' :: rest
  | .number text => text.toList ++ rest
  | .string text => renderString text rest
  | .unkept => rest
  | .array [] => '[' :: ']' :: rest
  | .array (item :: items) =>
    '[' :: newLine (depth + 1) (renderOnto (depth + 1) (renderItems depth (']' :: rest) items) item)
  | .object [] => '\x7b' :: '\x7d' :: rest
  | .object ((key, value) :: members) =>
    '\x7b' :: newLine (depth + 1) (renderString key (':' :: ' ' ::
      renderOnto (depth + 1) (renderMembers depth ('\x7d' :: rest) members) value))

/-- The items of an array after one of them, and the text after them. -/
def renderItems (depth : Nat) (rest : List Char) : List Json → List Char
  | [] => newLine depth rest
  | item :: items =>
    ',' :: newLine (depth + 1) (renderOnto (depth + 1) (renderItems depth rest items) item)

/-- The members of an object after one of them, and the text after them. -/
def renderMembers (depth : Nat) (rest : List Char) : List (String × Json) → List Char
  | [] => newLine depth rest
  | (key, value) :: members =>
    ',' :: newLine (depth + 1) (renderString key (':' :: ' ' ::
      renderOnto (depth + 1) (renderMembers depth rest members) value))

end

/-- The text of a value. -/
def render (j : Json) : String := .ofList (renderOnto 0 [] j)

end Calculator.Json
