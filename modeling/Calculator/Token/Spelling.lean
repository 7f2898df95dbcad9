import Calculator.Token

/-!
# Spellings

The table of ways to type a token. Each **spelling** gives the characters typed and the token
they stand for; several spellings may stand for one token, so that every symbol of the keypad
can be typed on a plain keyboard.

No spelling is a proper beginning of another, so at most one of them begins a text and the
longest match is the only match.
-/

namespace Calculator

/-- Characters to type, and the token they stand for. -/
structure Spelling where
  written : List Char
  token : Token

namespace Spelling

private def digits : List Spelling :=
  ['0', '1', '2', '3', '4', '5', '6', '7', '8', '9'].map fun c => ⟨[c], .number c.toString⟩

/-- All ways to type a token. -/
def all : List Spelling := digits ++ [
  ⟨['.'], .number "."⟩,
  ⟨['e'], .number "e"⟩,
  ⟨['π'], .number "π"⟩,
  ⟨['p', 'i'], .number "π"⟩,
  ⟨['X'], .freeVariable⟩,
  ⟨['x'], .freeVariable⟩,
  ⟨['+'], .operator "+"⟩,
  ⟨['-'], .operator "-"⟩,
  ⟨['×'], .operator "×"⟩,
  ⟨['*'], .operator "×"⟩,
  ⟨['÷'], .operator "÷"⟩,
  ⟨['/'], .operator "÷"⟩,
  ⟨['^'], .operator "^"⟩,
  ⟨['s', 'i', 'n'], .function "sin"⟩,
  ⟨['c', 'o', 's'], .function "cos"⟩,
  ⟨['t', 'a', 'n'], .function "tan"⟩,
  ⟨['l', 'o', 'g'], .function "log"⟩,
  ⟨['l', 'n'], .function "ln"⟩,
  ⟨['√'], .function "√"⟩,
  ⟨['s', 'q', 'r', 't'], .function "√"⟩,
  ⟨['('], .openParen⟩,
  ⟨[')'], .closeParen⟩]

/-- The spelling that the text begins with. -/
def at? (cs : List Char) : Option Spelling := all.find? (·.written.isPrefixOf cs)

/-- The length of the typed characters in UTF-8 bytes. -/
def width (s : Spelling) : Nat := s.written.foldr (fun c n => c.utf8Size + n) 0

/-- No spelling begins another, so the one found is the longest. -/
theorem eq_of_isPrefixOf : ∀ s ∈ all, ∀ t ∈ all,
    s.written.isPrefixOf t.written → s.written = t.written := by decide

/-- Every spelling has at least one character. -/
theorem written_ne_nil : ∀ s ∈ all, s.written ≠ [] := by decide

end Spelling

end Calculator
