import Calculator.Token.Spelling
import Calculator.Text.Quoted

/-!
# Lexemes

Typed text is cut into **lexemes**: tokens with the bytes they cover, and **stray** characters
at which no spelling begins. Layout characters between them are skipped. Reading goes on after
a stray character, so every text has lexemes (`scan`); `tokenize` accepts a text only without
stray characters and otherwise reports the first of them.

All offsets count UTF-8 bytes from the start of the text.
-/

namespace Calculator

/-- The bytes from `start` up to, not including, `stop`. -/
structure Span where
  start : Nat
  stop : Nat
  deriving DecidableEq, Repr

/-- A token and the bytes of the typed text that stand for it. -/
structure PlacedToken where
  token : Token
  span : Span
  deriving DecidableEq, Repr

/-- A character at which no token begins. -/
structure LexError where
  offset : Nat
  fragment : Char
  deriving DecidableEq, Repr

/-- The text of a lexical error. -/
def LexError.message (e : LexError) : String :=
  "unrecognized input " ++ Text.quote e.fragment.toString ++ " at offset " ++ toString e.offset

/-- One piece of typed text. -/
inductive Lexeme
  | token (placed : PlacedToken)
  | stray (error : LexError)
  deriving DecidableEq, Repr

namespace Lexeme

/-- The characters that may stand between tokens: space, tab, carriage return, line feed and
form feed. -/
def isLayout (c : Char) : Bool :=
  c = ' ' || c = '\t' || c = '\r' || c = '\n' || c = '\x0c'

/-- The bytes a lexeme covers. -/
def span : Lexeme → Span
  | .token placed => placed.span
  | .stray error => ⟨error.offset, error.offset + error.fragment.utf8Size⟩

/-- The lexemes of a text that begins at byte `offset`. -/
def scanFrom (offset : Nat) : List Char → List Lexeme
  | [] => []
  | c :: cs =>
    if isLayout c then scanFrom (offset + c.utf8Size) cs
    else
      match Spelling.at? (c :: cs) with
      | some s =>
        .token ⟨s.token, offset, offset + s.width⟩ ::
          scanFrom (offset + s.width) (cs.drop (s.written.length - 1))
      | none => .stray ⟨offset, c⟩ :: scanFrom (offset + c.utf8Size) cs
termination_by cs => cs.length
decreasing_by all_goals simp only [List.length_drop, List.length_cons]; omega

/-- The lexemes of a text. -/
def scan (text : String) : List Lexeme := scanFrom 0 text.toList

/-- The placed tokens of a sequence of lexemes, unless one of them is stray. -/
def placedTokens : List Lexeme → Except LexError (List PlacedToken)
  | [] => .ok []
  | .token placed :: rest => (placedTokens rest).map (placed :: ·)
  | .stray error :: _ => .error error

/-- The token of a lexeme, unless it is stray. -/
def read : Lexeme → Except LexError Token
  | .token placed => .ok placed.token
  | .stray error => .error error

theorem mapM_read (ls : List Lexeme) :
    ls.mapM read = (placedTokens ls).map (·.map PlacedToken.token) := by
  induction ls with
  | nil => rfl
  | cons l ls ih =>
    rw [List.mapM_cons, ih]
    cases l with
    | stray error => rfl
    | token placed =>
      rw [placedTokens]
      cases placedTokens ls <;> rfl

end Lexeme

/-- The tokens of a text with the bytes they cover. -/
def tokenizeSpanned (text : String) : Except LexError (List PlacedToken) :=
  Lexeme.placedTokens (Lexeme.scan text)

/-- The tokens of a text. -/
def tokenize (text : String) : Except LexError (List Token) := (Lexeme.scan text).mapM Lexeme.read

/-- Read with their bytes or without, a text has the same tokens or the same stray character. -/
theorem tokenize_eq_map (text : String) :
    tokenize text = (tokenizeSpanned text).map (·.map PlacedToken.token) :=
  Lexeme.mapM_read _

end Calculator
