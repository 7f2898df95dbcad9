/-!
# Lines

Text cut into lines. A line ends at a line feed, which does not belong to it, and neither does
a carriage return right before that line feed; a carriage return elsewhere is an ordinary
character. Text after the last line feed is a line too, if there is any.
-/

namespace Calculator.Text

/-- A finished line, from its characters in reverse. -/
def finishLine : List Char → List Char
  | '\r' :: line => line.reverse
  | line => line.reverse

/-- The lines of a text, the first of them continuing `line`, which is in reverse. -/
def linesOnto (line : List Char) : List Char → List (List Char)
  | [] => if line.isEmpty then [] else [line.reverse]
  | c :: cs => if c = '\n' then finishLine line :: linesOnto [] cs else linesOnto (c :: line) cs

/-- The lines of a text. -/
def lines (text : String) : List String := (linesOnto [] text.toList).map .ofList

end Calculator.Text
