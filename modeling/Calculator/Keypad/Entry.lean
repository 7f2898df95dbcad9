import Calculator.Keypad

/-!
# The entry

What has been entered and not yet submitted: tokens in the order of entry. Keys append to the
**entry**, take its last token back or empty it; `=` leaves it alone and asks for submission.
-/

namespace Calculator

/-- The tokens entered so far. -/
structure Entry where
  tokens : List Token
  deriving DecidableEq, Repr

namespace Entry

/-- Nothing entered. -/
def empty : Entry := ⟨[]⟩

/-- What a key press asks for. -/
inductive Outcome
  /-- The entry was edited; there is nothing more to do. -/
  | edited
  /-- The entry is to be evaluated. -/
  | submit
  deriving DecidableEq, Repr

def push (e : Entry) (t : Token) : Entry := ⟨e.tokens ++ [t]⟩

def extend (e : Entry) (ts : List Token) : Entry := ⟨e.tokens ++ ts⟩

/-- The last token and the entry without it; an empty entry stays empty. -/
def removeLast (e : Entry) : Option Token × Entry := (e.tokens.getLast?, ⟨e.tokens.dropLast⟩)

def size (e : Entry) : Nat := e.tokens.length

def isEmpty (e : Entry) : Bool := e.tokens.isEmpty

/-- The text the display shows. -/
def displayText (e : Entry) : String := Token.displayText e.tokens

/-- Press a key. -/
def press (e : Entry) : Key → Outcome × Entry
  | .clear => (.edited, empty)
  | .backspace => (.edited, e.removeLast.2)
  | .equals => (.submit, e)
  | k => (.edited, e.extend k.tokens)

end Entry

end Calculator
