import Calculator.Token

/-!
# Keypad

The **keys** of the calculator, the **labels** they are found by, and the tokens each of them
enters. A function key enters the function and the parenthesis that opens its argument. Three
keys are **commands**: they edit or submit what was entered and enter nothing themselves.
-/

namespace Calculator

/-- A key of the keypad. -/
inductive Key
  /-- A decimal digit. Values above 9 are on no keypad and enter nothing. -/
  | digit (value : Nat)
  | point
  | euler
  | pi
  | variable
  | plus
  | minus
  | times
  | divide
  | power
  | sin
  | cos
  | tan
  | log
  | ln
  | sqrt
  | openParen
  | closeParen
  /-- Forget everything entered. -/
  | clear
  /-- Take back the last token. -/
  | backspace
  /-- Submit what was entered. -/
  | equals
  deriving DecidableEq, Repr

namespace Key

/-- The digit key for a value up to 9. -/
def digit? (value : Nat) : Option Key := if value ≤ 9 then some (.digit value) else none

/-- The key with a label of one digit. -/
def ofDigit? (label : String) : Option Key :=
  match label.toList with
  | [c] => if c.isDigit then digit? (c.toNat - '0'.toNat) else none
  | _ => none

/-- The key a label names. Symbols that a plain keyboard lacks have a second label. -/
def ofLabel? (label : String) : Option Key :=
  match label with
  | "." => some .point
  | "e" => some .euler
  | "π" => some .pi
  | "pi" => some .pi
  | "X" => some .variable
  | "x" => some .variable
  | "+" => some .plus
  | "-" => some .minus
  | "×" => some .times
  | "*" => some .times
  | "÷" => some .divide
  | "/" => some .divide
  | "^" => some .power
  | "sin" => some .sin
  | "cos" => some .cos
  | "tan" => some .tan
  | "log" => some .log
  | "ln" => some .ln
  | "√" => some .sqrt
  | "sqrt" => some .sqrt
  | "(" => some .openParen
  | ")" => some .closeParen
  | "✖" => some .clear
  | "C" => some .clear
  | "⌫" => some .backspace
  | "=" => some .equals
  | _ => ofDigit? label

/-- A key that edits or submits instead of entering tokens. -/
def isCommand : Key → Bool
  | .clear | .backspace | .equals => true
  | _ => false

/-- A function and the parenthesis that opens its argument. -/
def opening (name : String) : List Token := [.function name, .openParen]

/-- The tokens a key enters. -/
def tokens : Key → List Token
  | .digit value => if value ≤ 9 then [.number value.digitChar.toString] else []
  | .point => [.number "."]
  | .euler => [.number "e"]
  | .pi => [.number "π"]
  | .variable => [.freeVariable]
  | .plus => [.operator "+"]
  | .minus => [.operator "-"]
  | .times => [.operator "×"]
  | .divide => [.operator "÷"]
  | .power => [.operator "^"]
  | .sin => opening "sin"
  | .cos => opening "cos"
  | .tan => opening "tan"
  | .log => opening "log"
  | .ln => opening "ln"
  | .sqrt => opening "√"
  | .openParen => [.openParen]
  | .closeParen => [.closeParen]
  | .clear | .backspace | .equals => []

end Key

end Calculator
