import Calculator.Parser

/-!
# The grammar

Which sequences of tokens are expressions, said without a parser: each **line** of the grammar is
a set of rules, and `Derives line ts e c` holds when the rules of a line make the tokens `ts` an
`e`.

**Charge.** A derivation has a charge, the nesting it needs. A leaf is free. A group or a call
charges one level more than what it encloses, a power one level more for its exponent, and a
chain `i` levels more for its `i`-th operand, counted from zero.

**Chains.** A chain grows at its right end, one operator and operand at a time, so that it groups
from the left; `Line.links` counts the operators it has so far.

Main result: a derivation never charges more than the operators and opening parentheses of its text
(`Derives.charge_le`).
-/

namespace Calculator

/-- A line of the grammar. -/
inductive Line
  /-- Operands of a tier, joined by so many of its operators. -/
  | links (tier : Tier) (count : Nat)
  /-- Operands of a tier, joined by any number of its operators. -/
  | chain (tier : Tier)
  | factor
  | primary
  deriving DecidableEq, Repr

/-- The line for whole expressions. -/
abbrev Line.expression : Line := .chain .sum

/-- The line for the operands of a tier. -/
def Tier.operandLine : Tier → Line
  | .sum => .chain .product
  | .product => .factor

/-- The operators that join the operands of a tier. -/
inductive Tier.Joins : Tier → Operator → Prop
  | add : Tier.Joins .sum .add
  | sub : Tier.Joins .sum .sub
  | mul : Tier.Joins .product .mul
  | div : Tier.Joins .product .div

/-- The parser looks for the operators that the grammar names. -/
theorem Tier.joins_iff {tier : Tier} {op : Operator} : tier.Joins op ↔ op ∈ tier.operators := by
  constructor
  · rintro (_ | _ | _ | _) <;> decide
  · intro h
    cases tier <;> simp only [operators, List.mem_cons, List.not_mem_nil, or_false] at h <;>
      rcases h with rfl | rfl <;> constructor

/-- `Derives line ts e c`: the line makes the tokens `ts` the expression `e`, at charge `c`. -/
inductive Derives : Line → List Token → Expr → Nat → Prop
  | constant (k : Constant) : Derives .primary [.number k.symbol] (.constant k) 0
  | literal {text : String} (h : ∀ k : Constant, text ≠ k.symbol) :
      Derives .primary [.number text] (.literal text) 0
  | variable (text : String) : Derives .primary [⟨.variable, text⟩] .variable 0
  | call (f : Func) {ts : List Token} {e : Expr} {c : Nat} : Derives (.chain .sum) ts e c →
      Derives .primary (.function f.name :: .openParen :: (ts ++ [.closeParen])) (.call f e) (1 + c)
  | group {ts : List Token} {e : Expr} {c : Nat} : Derives (.chain .sum) ts e c →
      Derives .primary (.openParen :: (ts ++ [.closeParen])) e (1 + c)
  | base {ts : List Token} {e : Expr} {c : Nat} : Derives .primary ts e c → Derives .factor ts e c
  | power {ts us : List Token} {b e : Expr} {c d : Nat} :
      Derives .primary ts b c → Derives .factor us e d →
      Derives .factor (ts ++ .operator Operator.pow.symbol :: us) (.binary b .pow e)
        (max c (1 + d))
  | first {tier : Tier} {ts : List Token} {e : Expr} {c : Nat} :
      Derives tier.operandLine ts e c → Derives (.links tier 0) ts e c
  | next {tier : Tier} {n : Nat} {ts us : List Token} {l r : Expr} {op : Operator} {c d : Nat} :
      Derives (.links tier n) ts l c → tier.Joins op → Derives tier.operandLine us r d →
      Derives (.links tier (n + 1)) (ts ++ .operator op.symbol :: us) (.binary l op r)
        (max c (n + 1 + d))
  | chain {tier : Tier} {n : Nat} {ts : List Token} {e : Expr} {c : Nat} :
      Derives (.links tier n) ts e c → Derives (.chain tier) ts e c

namespace Derives

variable {line : Line} {ts : List Token} {e : Expr} {c : Nat}

/-! ## From line to line -/

theorem toTerm (h : Derives .factor ts e c) : Derives (.chain .product) ts e c := .chain (.first h)

theorem toExpression (h : Derives (.chain .product) ts e c) : Derives (.chain .sum) ts e c :=
  .chain (.first h)

end Derives

/-! ## Charge and text -/

/-- The characters that can open a level of nesting: operators and the opening parenthesis. -/
def isNesting (c : Char) : Bool := c ∈ ['+', '-', '×', '÷', '^', '(']

/-- How many operators and opening parentheses the tokens show. -/
def nestingCount (ts : List Token) : Nat := (Token.displayText ts).toList.countP isNesting

theorem nestingCount_append (ts us : List Token) :
    nestingCount (ts ++ us) = nestingCount ts + nestingCount us := by
  simp [nestingCount]

theorem nestingCount_cons (t : Token) (ts : List Token) :
    nestingCount (t :: ts) = t.text.toList.countP isNesting + nestingCount ts := by
  simp [nestingCount]

theorem countP_isNesting_symbol (op : Operator) : op.symbol.toList.countP isNesting = 1 := by
  cases op <;> decide

/-- An operator between tokens counts once. -/
theorem nestingCount_join (ts us : List Token) (op : Operator) :
    nestingCount (ts ++ .operator op.symbol :: us) = nestingCount ts + 1 + nestingCount us := by
  have h : (Token.operator op.symbol).text.toList.countP isNesting = 1 := countP_isNesting_symbol op
  rw [nestingCount_append, nestingCount_cons, h]
  omega

/-- Parentheses around tokens count once. -/
theorem nestingCount_enclose (ts : List Token) :
    nestingCount (.openParen :: (ts ++ [.closeParen])) = 1 + nestingCount ts := by
  have h : Token.openParen.text.toList.countP isNesting = 1 := by decide
  have h' : nestingCount [.closeParen] = 0 := by decide
  rw [nestingCount_cons, nestingCount_append, h, h', Nat.add_zero]

namespace Line

/-- The operators that a line says its tokens have outside parentheses. -/
def count : Line → Nat
  | .links _ n => n
  | _ => 0

end Line

namespace Derives

variable {line : Line} {ts : List Token} {e : Expr} {c : Nat}

/-- The operators of a chain and its charge both stay below what its text shows. -/
theorem count_le_and_charge_le (h : Derives line ts e c) :
    line.count ≤ nestingCount ts ∧ c ≤ nestingCount ts := by
  induction h with
  | constant k => exact ⟨Nat.zero_le _, Nat.zero_le _⟩
  | literal h => exact ⟨Nat.zero_le _, Nat.zero_le _⟩
  | «variable» text => exact ⟨Nat.zero_le _, Nat.zero_le _⟩
  | call f h ih =>
    rw [nestingCount_cons, nestingCount_enclose]
    exact ⟨Nat.zero_le _, by omega⟩
  | group h ih =>
    rw [nestingCount_enclose]
    exact ⟨Nat.zero_le _, by omega⟩
  | base h ih => exact ih
  | power hb he ihb ihe =>
    rw [nestingCount_join]
    exact ⟨Nat.zero_le _, by omega⟩
  | first h ih => exact ⟨Nat.zero_le _, ih.2⟩
  | next hl hop hr ihl ihr =>
    rw [nestingCount_join]
    simp only [Line.count] at ihl ⊢
    omega
  | chain h ih => exact ⟨Nat.zero_le _, ih.2⟩

/-- **No derivation charges more than the operators and opening parentheses of its text.** -/
theorem charge_le (h : Derives line ts e c) : c ≤ nestingCount ts := h.count_le_and_charge_le.2

end Derives

/-! ## Literals -/

/-- The texts of the literals of an expression, from left to right. -/
def Expr.literals : Expr → List String
  | .literal text => [text]
  | .binary left _ right => left.literals ++ right.literals
  | .call _ argument => argument.literals
  | _ => []

end Calculator
