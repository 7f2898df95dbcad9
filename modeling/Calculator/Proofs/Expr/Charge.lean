import Calculator.Expr.Printer
import Calculator.Proofs.Grammar

/-!
# The charge of a printed expression

Printed tokens are derived from the grammar, and make the expression they were printed from
again. Parentheses are printed by one rule: an operand has them when it binds less tightly than
its place asks for. So every operand, with its parentheses or without, is derived by the line of
its place.

**Charge.** The charge of that derivation is computed from the expression (`Expr.charge`). Where
an operand on the left goes on without parentheses, its operators are operators of the same chain
and are charged to the operand on the right; `Expr.links` counts them.

Main result: `Expr.derives_tokens`.
-/

namespace Calculator

/-! ## Binding -/

namespace Operator

/-- How tightly a left operand binds at least, to go without parentheses. -/
def leftBinding (op : Operator) : Nat :=
  if op.isRightAssociative then op.precedence + 1 else op.precedence

/-- How tightly a right operand binds at least, to go without parentheses. -/
def rightBinding (op : Operator) : Nat :=
  if op.isRightAssociative then op.precedence else op.precedence + 1

end Operator

namespace Expr

/-- How tightly an expression binds: like its outermost operator, and most tightly without one. -/
def binding : Expr → Nat
  | .binary _ op _ => op.precedence
  | _ => 4

theorem binding_bounds (e : Expr) : 1 ≤ e.binding ∧ e.binding ≤ 4 := by
  unfold binding
  split
  · next op _ => cases op <;> decide
  · decide

theorem needsParensLeft_eq (op : Operator) (e : Expr) :
    e.needsParensLeft op = decide (e.binding < op.leftBinding) := by
  cases e with
  | binary left o right => cases o <;> cases op <;> rfl
  | _ => cases op <;> rfl

theorem needsParensRight_eq (op : Operator) (e : Expr) :
    e.needsParensRight op = decide (e.binding < op.rightBinding) := by
  cases e with
  | binary left o right => cases o <;> cases op <;> rfl
  | _ => cases op <;> rfl

/-- The printed tokens at a place where binding at least as tightly as `b` goes without
parentheses. -/
def tokensAt (b : Nat) (e : Expr) : List Token := enclosed (e.binding < b) e.tokens

theorem tokensAt_of_le {b : Nat} {e : Expr} (h : b ≤ e.binding) : e.tokensAt b = e.tokens := by
  rw [tokensAt, decide_eq_false (Nat.not_lt.2 h)]
  rfl

theorem tokensAt_of_lt {b : Nat} {e : Expr} (h : e.binding < b) :
    e.tokensAt b = enclosed true e.tokens := by
  rw [tokensAt, decide_eq_true h]

theorem tokens_binary_eq (left right : Expr) (op : Operator) :
    (binary left op right).tokens =
      left.tokensAt op.leftBinding ++ .operator op.symbol :: right.tokensAt op.rightBinding := by
  rw [tokens_binary, needsParensLeft_eq, needsParensRight_eq, tokensAt, tokensAt]

/-- How many operators that bind as tightly as `b` lead to the left end of an expression. -/
def links (b : Nat) : Expr → Nat
  | .binary left op _ => if op.precedence = b then left.links b + 1 else 0
  | _ => 0

theorem links_of_ne {b : Nat} {e : Expr} (h : e.binding ≠ b) : e.links b = 0 := by
  cases e with
  | binary left op right => exact if_neg h
  | _ => rfl

/-- No operator binds as tightly as an operand without operators. -/
theorem links_four (e : Expr) : e.links 4 = 0 := by
  cases e with
  | binary left op right => cases op <;> rfl
  | _ => rfl

/-! ## Charge -/

/-- What tokens charge, in parentheses if these are needed. -/
def enclosedCharge (needed : Bool) (c : Nat) : Nat := if needed then 1 + c else c

/-- What the printed expression charges. -/
def charge : Expr → Nat
  | .binary left op right =>
    max (enclosedCharge (left.needsParensLeft op) left.charge)
      (left.links op.leftBinding + 1 + enclosedCharge (right.needsParensRight op) right.charge)
  | .call _ argument => 1 + argument.charge
  | _ => 0

end Expr

/-! ## Lines by how tightly they bind -/

/-- The line for what binds at least as tightly as `b`; a chain has `n` operators. -/
def Line.ofBinding (b n : Nat) : Line :=
  match b with
  | 1 => .links .sum n
  | 2 => .links .product n
  | 3 => .factor
  | _ => .primary

namespace Derives

variable {ts : List Token} {e : Expr} {b n c : Nat}

theorem loosen (hb : 1 ≤ b) (hb' : b ≤ 3) (h : Derives (.ofBinding (b + 1) n) ts e c) :
    Derives (.ofBinding b 0) ts e c := by
  obtain rfl | rfl | rfl : b = 1 ∨ b = 2 ∨ b = 3 := by omega
  · exact .first (.chain h)
  · exact .first h
  · exact .base h

/-- What binds more tightly than its place asks for is an operand there on its own. -/
theorem loosen_to {b' : Nat} (hb : 1 ≤ b) (hlt : b < b') (hb' : b' ≤ 4)
    (h : Derives (.ofBinding b' n) ts e c) : Derives (.ofBinding b 0) ts e c := by
  obtain ⟨k, rfl⟩ := Nat.exists_eq_add_of_lt hlt
  induction k generalizing n with
  | zero => exact loosen hb (by omega) h
  | succ k ih => exact ih (by omega) (by omega) (loosen (by omega) (by omega) h)

theorem toExpression_of_binding (hb : 1 ≤ b) (hb' : b ≤ 4) (h : Derives (.ofBinding b n) ts e c) :
    Derives .expression ts e c := by
  rcases Nat.eq_or_lt_of_le hb with rfl | hlt
  · exact .chain h
  · exact .chain (loosen_to (Nat.le_refl 1) hlt hb' h)

/-- An operator between operands that bind tightly enough for their places. -/
theorem binary {us : List Token} {left right : Expr} {op : Operator} {m d : Nat}
    (hl : Derives (.ofBinding op.leftBinding (left.links op.leftBinding)) ts left c)
    (hr : Derives (.ofBinding op.rightBinding m) us right d) :
    Derives (.ofBinding op.precedence ((Expr.binary left op right).links op.precedence))
      (ts ++ .operator op.symbol :: us) (.binary left op right)
      (max c (left.links op.leftBinding + 1 + d)) := by
  cases op with
  | add | sub => exact .next hl (by constructor) (.chain hr)
  | mul | div => exact .next hl (by constructor) hr
  | pow =>
    have hlinks : left.links Operator.pow.leftBinding = 0 := left.links_four
    rw [hlinks, Nat.zero_add]
    exact .power hl hr

end Derives

/-! ## Printed tokens -/

namespace Expr

/-- Printed as an operand, in parentheses if these are needed, an expression is derived by the
line of its place. -/
theorem derives_tokensAt {e : Expr} {b : Nat} (hb : 1 ≤ b) (hb' : b ≤ 4)
    (h : Derives (.ofBinding e.binding (e.links e.binding)) e.tokens e e.charge) :
    Derives (.ofBinding b (e.links b)) (e.tokensAt b) e
      (enclosedCharge (e.binding < b) e.charge) := by
  obtain ⟨hpos, hle⟩ := e.binding_bounds
  -- Too loose for its place it is a group, just tight enough it goes on with the chain there, and
  -- tighter it is an operand of its own.
  rcases Nat.lt_trichotomy e.binding b with hlt | heq | hgt
  · have hgroup : Derives (.ofBinding 4 0) (enclosed true e.tokens) e (1 + e.charge) :=
      .group (Derives.toExpression_of_binding hpos hle h)
    rw [tokensAt_of_lt hlt, decide_eq_true hlt, links_of_ne (Nat.ne_of_lt hlt)]
    rcases Nat.eq_or_lt_of_le hb' with rfl | hlt'
    · exact hgroup
    · exact Derives.loosen_to hb hlt' (Nat.le_refl 4) hgroup
  · have hle' := Nat.le_of_eq heq.symm
    rw [tokensAt_of_le hle', decide_eq_false (Nat.not_lt.2 hle'), ← heq]
    exact h
  · have hle' := Nat.le_of_lt hgt
    rw [tokensAt_of_le hle', decide_eq_false (Nat.not_lt.2 hle'), links_of_ne (Nat.ne_of_gt hgt)]
    exact Derives.loosen_to hb hgt hle h

/-- **Printed tokens make the expression again**, by the line for how tightly it binds. -/
theorem derives_tokens_of_binding {e : Expr}
    (h : ∀ text ∈ e.literals, ∀ k : Constant, text ≠ k.symbol) :
    Derives (.ofBinding e.binding (e.links e.binding)) e.tokens e e.charge := by
  induction e with
  | literal text => exact .literal (h text (List.mem_singleton_self text))
  | constant k => exact .constant k
  | «variable» => exact .variable "X"
  | binary left op right ihl ihr =>
    have hl := ihl fun text ht => h text (List.mem_append_left _ ht)
    have hr := ihr fun text ht => h text (List.mem_append_right _ ht)
    have hleft := derives_tokensAt (b := op.leftBinding) (by cases op <;> decide)
      (by cases op <;> decide) hl
    have hright := derives_tokensAt (b := op.rightBinding) (by cases op <;> decide)
      (by cases op <;> decide) hr
    rw [tokens_binary_eq, charge, needsParensLeft_eq, needsParensRight_eq]
    exact .binary hleft hright
  | call f argument ih =>
    obtain ⟨hpos, hle⟩ := argument.binding_bounds
    rw [tokens_call]
    exact .call f (Derives.toExpression_of_binding hpos hle (ih h))

/-- **Printed tokens make the expression again.** -/
theorem derives_tokens {e : Expr} (h : ∀ text ∈ e.literals, ∀ k : Constant, text ≠ k.symbol) :
    Derives .expression e.tokens e e.charge :=
  Derives.toExpression_of_binding e.binding_bounds.1 e.binding_bounds.2
    (derives_tokens_of_binding h)

end Expr

end Calculator
