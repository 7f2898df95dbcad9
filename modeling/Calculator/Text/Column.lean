/-!
# Columns

How many characters lie before a byte of a text. There is no answer for an offset inside a
character or past the end.
-/

namespace Calculator.Text

/-- The number of characters in the first `offset` bytes. -/
def columnIn? : (offset : Nat) → List Char → Option Nat
  | 0, _ => some 0
  | _ + 1, [] => none
  | offset, c :: cs =>
    if c.utf8Size ≤ offset then (columnIn? (offset - c.utf8Size) cs).map (· + 1) else none

/-- The number of characters before byte `offset` of a text. -/
def column? (text : String) (offset : Nat) : Option Nat := columnIn? offset text.toList

end Calculator.Text
