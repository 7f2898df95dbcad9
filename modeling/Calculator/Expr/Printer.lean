import Calculator.Expr
import Calculator.Token

/-!
# Printing expressions

An expression is printed as the tokens of keypad notation (`Expr.tokens`), and its text is the
display text of these tokens (`Expr.display`). An operand gets parentheses only where the
grammar would otherwise group differently: when it binds less tightly than the operator, or
just as tightly on the side away from which the operator associates.
-/

namespace Calculator.Expr

/-- Whether `e`, as left operand of `op`, needs parentheses. -/
def needsParensLeft (op : Operator) : Expr → Bool
  | .binary _ o _ =>
    o.precedence < op.precedence || (o.precedence = op.precedence && op.isRightAssociative)
  | _ => false

/-- Whether `e`, as right operand of `op`, needs parentheses. -/
def needsParensRight (op : Operator) : Expr → Bool
  | .binary _ o _ =>
    o.precedence < op.precedence || (o.precedence = op.precedence && !op.isRightAssociative)
  | _ => false

/-- Put parentheses around tokens if they are needed. The tokens are given by what they make of
the tokens after them. -/
def enclose (needed : Bool) (body : List Token → List Token) (rest : List Token) : List Token :=
  if needed then .openParen :: body (.closeParen :: rest) else body rest

/-- The expression in keypad notation, and the tokens after it. -/
def tokensOnto : Expr → List Token → List Token
  | .literal text, rest => .number text :: rest
  | .constant c, rest => .number c.symbol :: rest
  | .variable, rest => .freeVariable :: rest
  | .call f argument, rest => .function f.name :: enclose true argument.tokensOnto rest
  | .binary left op right, rest =>
    enclose (left.needsParensLeft op) left.tokensOnto
      (.operator op.symbol :: enclose (right.needsParensRight op) right.tokensOnto rest)

/-- The expression in keypad notation. -/
def tokens (e : Expr) : List Token := e.tokensOnto []

/-- Tokens in parentheses if these are needed. -/
def enclosed (needed : Bool) (ts : List Token) : List Token :=
  if needed then .openParen :: ts ++ [.closeParen] else ts

theorem tokensOnto_append (e : Expr) (rest more : List Token) :
    e.tokensOnto (rest ++ more) = e.tokensOnto rest ++ more := by
  induction e generalizing rest more with
  | literal text => rfl
  | constant c => rfl
  | «variable» => rfl
  | binary left op right ihl ihr =>
    simp only [tokensOnto, enclose]
    split <;> split <;> simp [← ihl, ← ihr]
  | call f argument ih => simp [tokensOnto, enclose, ← ih]

theorem tokensOnto_eq_append (e : Expr) (rest : List Token) :
    e.tokensOnto rest = e.tokens ++ rest :=
  e.tokensOnto_append [] rest

@[simp] theorem tokens_literal (text : String) : (literal text).tokens = [.number text] := rfl

@[simp] theorem tokens_constant (c : Constant) : (constant c).tokens = [.number c.symbol] := rfl

@[simp] theorem tokens_variable : Expr.variable.tokens = [.freeVariable] := rfl

theorem tokens_call (f : Func) (argument : Expr) :
    (call f argument).tokens = .function f.name :: enclosed true argument.tokens := by
  show tokensOnto _ [] = _
  simp [tokensOnto, enclose, enclosed, tokensOnto_eq_append]

theorem tokens_binary (left right : Expr) (op : Operator) :
    (binary left op right).tokens =
      enclosed (left.needsParensLeft op) left.tokens ++
        .operator op.symbol :: enclosed (right.needsParensRight op) right.tokens := by
  show tokensOnto _ [] = _
  simp only [tokensOnto, enclose, enclosed]
  split <;> split <;> simp [tokensOnto_eq_append]

/-- The text of the expression in keypad notation. -/
def display (e : Expr) : String := Token.displayText e.tokens

end Calculator.Expr
