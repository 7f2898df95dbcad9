/-!
# Tokens

An expression is entered and read as a sequence of **tokens**. A token has a lexical **kind**
and the **text** the display shows for it; the text is arbitrary, so that whoever reads a
token decides what it means.

**Numbers.** A token of kind `number` is either one of the two reserved constants `e` and `π`
or a piece of a decimal literal: a digit, a point, or digits already joined.

**Display.** The text of a sequence is the texts of its tokens side by side (`displayText`),
so display text splits where sequences split (`displayText_append`).
-/

namespace Calculator

/-- The lexical category of a token. -/
inductive Token.Kind
  /-- A digit, a point, a joined literal, or a reserved constant. -/
  | number
  /-- One of `+ - × ÷ ^`. -/
  | operator
  /-- One of `sin cos tan log ln √`. -/
  | function
  /-- `(` or `)`. -/
  | parenthesis
  /-- The free variable `X`. -/
  | variable
  deriving DecidableEq, Repr

/-- The word for a kind. -/
def Token.Kind.name : Token.Kind → String
  | .number => "number"
  | .operator => "operator"
  | .function => "function"
  | .parenthesis => "parenthesis"
  | .variable => "variable"

/-- One lexical unit of an expression. -/
structure Token where
  kind : Token.Kind
  text : String
  deriving DecidableEq, Repr

namespace Token

/-! ## Building tokens -/

def number (text : String) : Token := ⟨.number, text⟩

def operator (text : String) : Token := ⟨.operator, text⟩

def function (text : String) : Token := ⟨.function, text⟩

/-- The opening parenthesis. -/
def openParen : Token := ⟨.parenthesis, "("⟩

/-- The closing parenthesis. -/
def closeParen : Token := ⟨.parenthesis, ")"⟩

/-- The free variable. -/
def freeVariable : Token := ⟨.variable, "X"⟩

/-! ## Telling tokens apart -/

/-- One of the reserved constants `e` and `π`. -/
def isReserved (t : Token) : Bool := t.kind = .number && (t.text = "e" || t.text = "π")

/-- A piece of a decimal literal: a number that is no reserved constant. -/
def isLiteral (t : Token) : Bool := t.kind = .number && !t.isReserved

/-- The parenthesis written `c`. -/
def isParen (t : Token) (c : Char) : Bool := t.kind = .parenthesis && t.text = c.toString

/-! ## Display -/

/-- The texts of the tokens, side by side. -/
def displayText (ts : List Token) : String := .ofList (ts.flatMap (·.text.toList))

@[simp] theorem toList_displayText (ts : List Token) :
    (displayText ts).toList = ts.flatMap (·.text.toList) := by
  simp [displayText]

@[simp] theorem displayText_nil : displayText [] = "" := rfl

theorem displayText_append (ts us : List Token) :
    displayText (ts ++ us) = displayText ts ++ displayText us := by
  apply String.toList_injective
  simp

theorem displayText_cons (t : Token) (ts : List Token) :
    displayText (t :: ts) = t.text ++ displayText ts := by
  apply String.toList_injective
  simp

end Token

end Calculator
