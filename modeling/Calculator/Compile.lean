import Calculator.Decimal.Layout
import Calculator.Graph.Sweep
import Calculator.Lexeme
import Calculator.Parser
import Calculator.Token.Literal

/-!
# From text to values

The way of typed text: it is cut into tokens, its literals are joined, the tokens are read as an
expression (`compile`), and that is evaluated once or along a sweep. Each stage can fail in its
own way, and the first stage that does decides the **failure**.
-/

namespace Calculator

/-- Why text has no value. -/
inductive Failure
  | lexical (error : LexError)
  | syntactic (error : SyntaxError)
  | numeric (error : EvalError)
  deriving DecidableEq, Repr

/-- The text of a failure. -/
def Failure.message : Failure → String
  | .lexical e => "lexical error: " ++ e.message
  | .syntactic e => "syntax error: " ++ e.message
  | .numeric e => "evaluation error: " ++ e.message

/-- The expression that tokens stand for, literals not yet joined. -/
def compileTokens (ts : List Token) : Except Failure Expr :=
  (parse (Token.joinLiterals ts)).mapError .syntactic

/-- The expression that text stands for. -/
def compile (text : String) : Except Failure Expr :=
  match tokenize text with
  | .error e => .error (.lexical e)
  | .ok ts => compileTokens ts

/-- The value of text, with zero for the variable. -/
def evaluateText (text : String) (mode : AngleMode) : Except Failure Float := do
  let e ← compile text
  (e.eval mode).mapError .numeric

/-- Sample text along a sweep. -/
def sweepText (text : String) (mode : AngleMode) (sweep : Sweep) : Except Failure Plot := do
  let e ← compile text
  return sweep.run mode e

/-- What the display shows where there is no finite value. -/
def errorText : String := "Error"

/-- What the display shows for a value. -/
def formatResult (x : Float) : String :=
  if x.isFinite then Decimal.Layout.result.text x else errorText

end Calculator
