/-!
# Syntax errors

Why a sequence of tokens is no expression, and at which token. A position counts tokens; it is
the number of tokens where the sequence ends too early.
-/

namespace Calculator

/-- Why tokens are no expression. -/
inductive SyntaxError.Cause
  /-- The tokens ran out where an operand was expected. -/
  | unexpectedEnd
  /-- A token that cannot stand here. -/
  | unexpectedToken (text : String)
  /-- A group was not closed. -/
  | missingClose
  /-- A function's argument was not closed. -/
  | missingCloseAfterArgument
  /-- A function name without `(` after it. -/
  | functionWithoutParens (name : String)
  /-- Groups, arguments or operators nest past the limit. -/
  | nestingTooDeep
  deriving DecidableEq, Repr

/-- The text of a cause. -/
def SyntaxError.Cause.message : SyntaxError.Cause → String
  | .unexpectedEnd => "unexpected end of input"
  | .unexpectedToken text => "unexpected token: " ++ text
  | .missingClose => "missing closing parenthesis"
  | .missingCloseAfterArgument => "missing closing parenthesis after function argument"
  | .functionWithoutParens name => "function without parentheses: " ++ name
  | .nestingTooDeep => "expression nested too deeply"

/-- A cause and the index of the token it lies at. -/
structure SyntaxError where
  cause : SyntaxError.Cause
  position : Nat
  deriving DecidableEq, Repr

/-- The text of a syntax error. -/
def SyntaxError.message (e : SyntaxError) : String :=
  e.cause.message ++ " (at token " ++ toString e.position ++ ")"

end Calculator
