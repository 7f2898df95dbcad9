import Calculator.Compile
import Calculator.Diagnostic

/-!
# Reporting failures

A failure shown against the text it came from. A syntax error counts tokens after joining; its
place in the text is where the first typed token of that one begins, or the end of the last
token where the input ended early.
-/

namespace Calculator

/-- The byte of a text whose tokens are `placed` that a syntax error at `position` points at. -/
def offsetIn (placed : List PlacedToken) (position : Nat) : Nat :=
  match placed[Token.rawIndex (placed.map PlacedToken.token) position]? with
  | some p => p.span.start
  | none => (placed.getLast?.map (·.span.stop)).getD 0

/-- The byte of a text that a syntax error points at, if the text has tokens at all. -/
def SyntaxError.offset? (e : SyntaxError) (source : String) : Option Nat :=
  match tokenizeSpanned source with
  | .ok placed => some (offsetIn placed e.position)
  | .error _ => none

/-- A failure against the text it came from, with a caret where its place is known. -/
def Failure.render (f : Failure) (source : String) : String :=
  match f with
  | .lexical e =>
    Diagnostic.withCaret e.message source ((Text.column? source e.offset).getD 0)
  | .syntactic e =>
    match e.offset? source with
    | some offset => (Diagnostic.ofSyntaxError e).renderSource source offset
    | none => "error: " ++ e.message
  | .numeric e => "error: " ++ e.message

end Calculator
