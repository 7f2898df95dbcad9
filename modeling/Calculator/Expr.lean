/-!
# Expressions

The tree of an expression: decimal **literals**, kept as text until they are evaluated, the
reserved **constants**, the one free **variable**, **binary operations** and **calls** of a
function with one argument.

Operators, functions and constants are found by the symbol the keypad shows for them. Operators
carry the two facts that reading and printing share: how tightly they bind and to which side
they associate.
-/

namespace Calculator

/-! ## Operators -/

/-- A binary operator. -/
inductive Operator
  | add
  | sub
  | mul
  | div
  | pow
  deriving DecidableEq, Repr

namespace Operator

def symbol : Operator → String
  | .add => "+"
  | .sub => "-"
  | .mul => "×"
  | .div => "÷"
  | .pow => "^"

def ofSymbol? : String → Option Operator
  | "+" => some .add
  | "-" => some .sub
  | "×" => some .mul
  | "÷" => some .div
  | "^" => some .pow
  | _ => none

/-- How tightly the operator binds its operands. -/
def precedence : Operator → Nat
  | .add | .sub => 1
  | .mul | .div => 2
  | .pow => 3

/-- Whether a chain of the operator groups from the right. -/
def isRightAssociative : Operator → Bool
  | .pow => true
  | _ => false

@[simp] theorem ofSymbol?_symbol (o : Operator) : ofSymbol? o.symbol = some o := by
  cases o <;> rfl

end Operator

/-! ## Functions -/

/-- A function of one argument. -/
inductive Func
  | sin
  | cos
  | tan
  /-- The logarithm to base 10. -/
  | log
  /-- The natural logarithm. -/
  | ln
  | sqrt
  deriving DecidableEq, Repr

namespace Func

def name : Func → String
  | .sin => "sin"
  | .cos => "cos"
  | .tan => "tan"
  | .log => "log"
  | .ln => "ln"
  | .sqrt => "√"

def ofName? : String → Option Func
  | "sin" => some .sin
  | "cos" => some .cos
  | "tan" => some .tan
  | "log" => some .log
  | "ln" => some .ln
  | "√" => some .sqrt
  | _ => none

/-- Whether the argument is an angle. -/
def isTrigonometric : Func → Bool
  | .sin | .cos | .tan => true
  | _ => false

@[simp] theorem ofName?_name (f : Func) : ofName? f.name = some f := by
  cases f <;> rfl

end Func

/-! ## Constants -/

/-- A reserved constant. -/
inductive Constant
  | e
  | pi
  deriving DecidableEq, Repr

namespace Constant

def symbol : Constant → String
  | .e => "e"
  | .pi => "π"

def ofSymbol? : String → Option Constant
  | "e" => some .e
  | "π" => some .pi
  | _ => none

/-- The double nearest to the constant. -/
def value : Constant → Float
  | .e => 2.718281828459045
  | .pi => 3.141592653589793

@[simp] theorem ofSymbol?_symbol (c : Constant) : ofSymbol? c.symbol = some c := by
  cases c <;> rfl

end Constant

/-! ## Trees -/

/-- The tree of an expression. -/
inductive Expr
  /-- A decimal literal, whatever its text. -/
  | literal (text : String)
  | constant (c : Constant)
  | variable
  | binary (left : Expr) (op : Operator) (right : Expr)
  | call (f : Func) (argument : Expr)
  deriving DecidableEq, Repr

end Calculator
