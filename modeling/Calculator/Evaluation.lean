import Calculator.Angle
import Calculator.Decimal.Reader
import Calculator.Expr
import Calculator.Text.Quoted

/-!
# Evaluation

The value of an expression for a value of the variable. Arithmetic is that of doubles and never
fails: a division by zero or the logarithm of a negative number has the value that IEEE 754
gives it. Only a literal that is no decimal number fails, and the leftmost of these is
reported.

**Literals** are digits with at most one point. Those nearer to zero than `10⁻¹⁰` count as zero.
-/

namespace Calculator

/-- Why an expression has no value. -/
inductive EvalError
  /-- A literal whose text is no decimal number. -/
  | invalidNumber (text : String)
  deriving DecidableEq, Repr

/-- The text of an evaluation error. -/
def EvalError.message : EvalError → String
  | .invalidNumber text => "invalid numeric literal: " ++ Text.quote text

/-- Literals below this count as zero. -/
def zeroThreshold : Float := 1e-10

/-- The value of a literal. -/
def literalValue (text : String) : Except EvalError Float :=
  match Decimal.fixed? text with
  | none => .error (.invalidNumber text)
  | some x => .ok (if x.abs < zeroThreshold then 0.0 else x)

/-- The operation an operator stands for. -/
def Operator.apply : Operator → Float → Float → Float
  | .add, x, y => x + y
  | .sub, x, y => x - y
  | .mul, x, y => x * y
  | .div, x, y => x / y
  | .pow, x, y => Float.pow x y

/-- The function a name stands for, on radians. -/
def Func.apply : Func → Float → Float
  | .sin, x => x.sin
  | .cos, x => x.cos
  | .tan, x => x.tan
  | .log, x => x.log10
  | .ln, x => x.log
  | .sqrt, x => x.sqrt

/-- The function a name stands for; only angles depend on the mode. -/
def Func.applyIn (mode : AngleMode) (f : Func) (x : Float) : Float :=
  f.apply (if f.isTrigonometric then mode.toRadians x else x)

namespace Expr

/-- The value of the expression where the variable is `x`. -/
def evalAt (mode : AngleMode) (x : Float) : Expr → Except EvalError Float
  | .literal text => literalValue text
  | .constant c => .ok c.value
  | .variable => .ok x
  | .binary left op right => do
    let l ← left.evalAt mode x
    let r ← right.evalAt mode x
    return op.apply l r
  | .call f argument => do
    let a ← argument.evalAt mode x
    return f.applyIn mode a

/-- The value of the expression with zero for the variable. -/
def eval (mode : AngleMode) (e : Expr) : Except EvalError Float := e.evalAt mode 0.0

end Expr

end Calculator
