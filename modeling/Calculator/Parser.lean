import Calculator.Expr
import Calculator.Progress
import Calculator.SyntaxError
import Calculator.Token

/-!
# Parsing

Tokens are read as an expression of this grammar, in which the chains of the first two lines
group from the left and powers from the right:

- expression: terms joined by `+` and `-`;
- term: factors joined by `×` and `÷`;
- factor: a primary, or a primary `^` a factor;
- primary: a number, the variable, a function with an expression in parentheses, or an
  expression in parentheses.

**Nesting.** Each parser is told at which **depth** it starts. The depth grows by one inside
parentheses, in an exponent, and with each operator of a chain for what follows in the same
chain; reading never goes past `maxNesting`.

**Refusals.** A parser that fails says why and leaves the tokens from the offending one on; the
position of a syntax error is the number of tokens before these.

The two kinds of chain are **tiers** of one parser. Every parser consumes a token, so the
recursion is bounded by the length of the input.
-/

namespace Calculator

/-- The greatest nesting depth. -/
def maxNesting : Nat := 256

/-- The left-associative levels of the grammar. -/
inductive Tier
  /-- Terms joined by `+` and `-`. -/
  | sum
  /-- Factors joined by `×` and `÷`. -/
  | product
  deriving DecidableEq, Repr

/-- The operators that join a tier. -/
def Tier.operators : Tier → List Operator
  | .sum => [.add, .sub]
  | .product => [.mul, .div]

/-- How many tiers lie below, counted from one. -/
def Tier.height : Tier → Nat
  | .sum => 2
  | .product => 1

/-- The operator at the head of the tokens, if it is one of `accepted`. -/
def operatorAt? (accepted : List Operator) : List Token → Option Operator
  | [] => none
  | t :: _ =>
    if t.kind = .operator then (Operator.ofSymbol? t.text).filter (· ∈ accepted) else none

/-- Whether the parenthesis `c` is at the head of the tokens. -/
def isParenAt (c : Char) : List Token → Bool
  | [] => false
  | t :: _ => t.isParen c

namespace Parser

/-- Why a parser failed, and the tokens from the offending one on. -/
structure Refusal where
  cause : SyntaxError.Cause
  rest : List Token
  deriving DecidableEq, Repr

/-- The outcome of a parser: an expression and fewer than `bound` tokens after it, or a
refusal. -/
abbrev Outcome (bound : Nat) := Except Refusal (Progress Token Expr bound)

/-- Go one level deeper, unless the limit is reached before the tokens `ts`. -/
def descend (depth : Nat) (ts : List Token) : Except Refusal Nat :=
  if depth < maxNesting then .ok (depth + 1) else .error ⟨.nestingTooDeep, ts⟩

/-- Take the closing parenthesis after `inner`. -/
def close {bound : Nat} (missing : SyntaxError.Cause) (inner : Progress Token Expr bound) :
    Outcome bound :=
  match inner with
  | ⟨e, [], _⟩ => .error ⟨missing, []⟩
  | ⟨e, t :: rest, h⟩ =>
    if t.isParen ')' then .ok ⟨e, rest, by simp only [List.length_cons] at h; omega⟩
    else .error ⟨missing, t :: rest⟩

/-- The expression a number token stands for. -/
def numberExpr (text : String) : Expr :=
  match Constant.ofSymbol? text with
  | some c => .constant c
  | none => .literal text

mutual

/-- A chain of one tier. -/
def chain (tier : Tier) (depth : Nat) (ts : List Token) : Outcome ts.length := do
  let first ← operand tier depth ts
  let whole ← links tier depth first.value first.rest
  return whole.relax first.shorter
termination_by (ts.length, 2 * tier.height + 1, 0)
decreasing_by
  · exact Prod.Lex.right _ (Prod.Lex.left _ _ (by omega))
  · exact Prod.Lex.left _ _ first.shorter

/-- An operand of a chain. -/
def operand (tier : Tier) (depth : Nat) (ts : List Token) : Outcome ts.length :=
  match tier with
  | .sum => chain .product depth ts
  | .product => factor depth ts
termination_by (ts.length, 2 * tier.height, 0)
decreasing_by
  · exact Prod.Lex.right _ (Prod.Lex.left _ _ (by decide))
  · exact Prod.Lex.right _ (Prod.Lex.left _ _ (by decide))

/-- The operators of a tier and their operands after the chain `left`. -/
def links (tier : Tier) (depth : Nat) (left : Expr) (ts : List Token) :
    Outcome (ts.length + 1) :=
  match operatorAt? tier.operators ts, ts with
  | some op, t :: rest => do
    let deeper ← descend depth (t :: rest)
    let right ← operand tier deeper rest
    let whole ← links tier deeper (.binary left op right.value) right.rest
    return whole.relax (Nat.le_add_right_of_le (by
      have := right.shorter
      simp only [List.length_cons]
      omega))
  | _, ts => .ok ⟨left, ts, Nat.lt_succ_self _⟩
termination_by (ts.length, 0, 0)
decreasing_by
  · exact Prod.Lex.left _ _ (by simp)
  · exact Prod.Lex.left _ _ (by have := right.shorter; simp only [List.length_cons]; omega)

/-- A primary, and the exponent it may carry. -/
def factor (depth : Nat) (ts : List Token) : Outcome ts.length := do
  let base ← primary depth ts
  match operatorAt? [.pow] base.rest, base with
  | some op, ⟨b, t :: rest, h⟩ => do
    let deeper ← descend depth (t :: rest)
    let exponent ← factor deeper rest
    return (exponent.map (.binary b op ·)).relax (by
      simp only [List.length_cons] at h
      omega)
  | _, base => return base
termination_by (ts.length, 1, 0)
decreasing_by
  · exact Prod.Lex.right _ (Prod.Lex.left _ _ (by decide))
  · exact Prod.Lex.left _ _ (by simp only [List.length_cons] at h; omega)

/-- A number, the variable, a call or a group. -/
def primary (depth : Nat) (ts : List Token) : Outcome ts.length :=
  match ts with
  | [] => .error ⟨.unexpectedEnd, []⟩
  | t :: rest =>
    match t.kind with
    | .number => .ok ⟨numberExpr t.text, rest, Nat.lt_succ_self _⟩
    | .variable => .ok ⟨.variable, rest, Nat.lt_succ_self _⟩
    | .function =>
      match Func.ofName? t.text with
      | none => .error ⟨.unexpectedToken t.text, t :: rest⟩
      | some f =>
        match rest with
        | [] => .error ⟨.functionWithoutParens t.text, []⟩
        | paren :: inner =>
          if paren.isParen '(' then do
            let argument ← group depth .missingCloseAfterArgument paren inner
            return (argument.map (.call f ·)).relax (by simp only [List.length_cons]; omega)
          else .error ⟨.functionWithoutParens t.text, paren :: inner⟩
    | .parenthesis =>
      if t.isParen '(' then do
        let inner ← group depth .missingClose t rest
        return inner.relax (Nat.le_succ _)
      else .error ⟨.unexpectedToken t.text, t :: rest⟩
    | .operator => .error ⟨.unexpectedToken t.text, t :: rest⟩
termination_by (ts.length, 0, 1)
decreasing_by
  · exact Prod.Lex.left _ _ (by simp only [List.length_cons]; omega)
  · exact Prod.Lex.left _ _ (by simp)

/-- What stands between the parenthesis `paren`, already seen, and the one that closes it. -/
def group (depth : Nat) (missing : SyntaxError.Cause) (paren : Token) (ts : List Token) :
    Outcome ts.length := do
  let deeper ← descend depth (paren :: ts)
  let inner ← chain .sum deeper ts
  close missing inner
termination_by (ts.length, 6, 0)
decreasing_by exact Prod.Lex.right _ (Prod.Lex.left _ _ (by decide))

end

/-- An expression at the head of the tokens, read at the given depth. -/
def expression (depth : Nat) (ts : List Token) : Except Refusal (Expr × List Token) :=
  (chain .sum depth ts).map Progress.toProd

/-- The syntax error that a refusal amounts to in a sequence of `length` tokens. -/
def Refusal.toSyntaxError (r : Refusal) (length : Nat) : SyntaxError :=
  ⟨r.cause, length - r.rest.length⟩

end Parser

/-- Read all tokens as one expression. -/
def parse (ts : List Token) : Except SyntaxError Expr :=
  match Parser.expression 0 ts with
  | .error refusal => .error (refusal.toSyntaxError ts.length)
  | .ok (e, []) => .ok e
  | .ok (_, t :: rest) =>
    .error ((Parser.Refusal.mk (.unexpectedToken t.text) (t :: rest)).toSyntaxError ts.length)

end Calculator
