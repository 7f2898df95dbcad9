import Calculator.SyntaxError
import Calculator.Text.Column
import Calculator.Token

/-!
# Diagnostics

A syntax error as it is shown: the error, the expression on a line of its own, a caret under the
offending place, and a hint where one helps. The caret goes by characters: after those of the
tokens before the offending one, or after those before a byte of the typed text.
-/

namespace Calculator

/-- What to show about a syntax error. -/
structure Diagnostic where
  message : String
  /-- The index of the offending token. -/
  position : Nat
  help : Option String
  deriving DecidableEq, Repr

namespace Diagnostic

/-- A hint for a token that cannot stand where it does. -/
def tokenHelp? (text : String) : Option String :=
  if text = ")" then some "Did you forget a matching '(' earlier?"
  else if text = "(" then some "Put an operator between a value and '(', e.g. 2×(3+4)"
  else if text ∈ ["+", "-", "×", "÷", "^"] then
    some "An operator needs a value on both sides; negative numbers are written 0-n"
  else none

/-- A hint for a cause. -/
def help? : SyntaxError.Cause → Option String
  | .unexpectedEnd => some "The expression ends where a number, X, a function or '(' was expected"
  | .unexpectedToken text => tokenHelp? text
  | .missingClose => some "Add ')' to close the group"
  | .missingCloseAfterArgument => some "Function arguments end with ')'"
  | .functionWithoutParens _ => some "Write the argument in parentheses, e.g. sin(30)"
  | .nestingTooDeep => some "Split the expression into smaller parts"

def ofSyntaxError (e : SyntaxError) : Diagnostic := ⟨e.cause.message, e.position, help? e.cause⟩

/-- A message, the text it is about, and a caret under one of its columns. -/
def withCaret (message source : String) (column : Nat) : String :=
  "error: " ++ message ++ "\n  " ++ source ++ "\n  " ++ .ofList (List.replicate column ' ') ++ "^"

/-- The diagnostic with a caret in the given column. -/
def renderAt (d : Diagnostic) (source : String) (column : Nat) : String :=
  withCaret d.message source column ++
    match d.help with
    | none => ""
    | some help => "\n  help: " ++ help

/-- The diagnostic over tokens, the caret under the offending one. -/
def render (d : Diagnostic) (ts : List Token) : String :=
  d.renderAt (Token.displayText ts)
    ((ts.take d.position).foldr (fun t column => t.text.length + column) 0)

/-- The diagnostic over typed text, the caret under byte `offset`; behind the text if that is no
character's first byte. -/
def renderSource (d : Diagnostic) (source : String) (offset : Nat) : String :=
  d.renderAt source ((Text.column? source offset).getD source.length)

end Diagnostic

end Calculator
