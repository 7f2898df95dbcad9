import Calculator.Proofs.Parser.Cursor
import Calculator.Proofs.Parser.Depth
import Mathlib.Order.Bounds.Defs
import Mathlib.Tactic.Ring

/-!
# The deepest expressions

How deep an expression can be that is read with so many levels of nesting left.

**The bound** (`Line.reach`). A call or a group spends a level, and so does a power, but all the
operators of a chain stand above its first operand, which was read before any of them was charged.
So each tier adds as many nodes as there are levels left, and gives these levels back to the tier
around it: from one level to the next the two tiers together add twice the level, and the depth
grows with its square.

**Attaining it** (`Expr.deepest`). At each level a call, a power, a product and a sum stand above
each other, the two chains as long as the levels left allow, and the expression of the level below
is the leftmost leaf.

Main result: `isGreatest_depth`.
-/

namespace Calculator

open Calculator.Parser

/-! ## The bound -/

/-- The greatest height of an operand of a tier at a charge. -/
def Tier.reach : Tier → Nat → Nat
  | .product, c => c ^ 2 + c + 1
  | .sum, c => c ^ 2 + c + 1 + c

/-- The greatest height of what a line derives at a charge. -/
def Line.reach : Line → Nat → Nat
  | .links tier n, c => tier.reach c + n
  | .chain tier, c => tier.reach c + c
  | .factor, c => Tier.product.reach c
  | .primary, c => max 1 (c ^ 2 + c)

theorem Tier.reach_mono (tier : Tier) {c d : Nat} (h : c ≤ d) : tier.reach c ≤ tier.reach d := by
  have hsq := Nat.pow_le_pow_left h 2
  cases tier <;> simp only [reach] <;> omega

namespace Line

theorem reach_operandLine (tier : Tier) (c : Nat) : tier.operandLine.reach c = tier.reach c := by
  cases tier <;> rfl

theorem reach_expression (c : Nat) : expression.reach c = c ^ 2 + 3 * c + 1 := by
  simp only [reach, Tier.reach]
  omega

theorem reach_primary_le (c : Nat) : primary.reach c ≤ factor.reach c := by
  simp only [reach, Tier.reach]
  omega

/-- A call stands one step above a whole expression. -/
theorem reach_call (c : Nat) : primary.reach (1 + c) = expression.reach c + 1 := by
  have hsq : (1 + c) ^ 2 = c ^ 2 + 2 * c + 1 := by ring
  rw [reach_expression, reach, hsq]
  omega

/-- A power stands one step above its base and its exponent. -/
theorem reach_power (c d : Nat) :
    max (primary.reach c) (factor.reach d) + 1 ≤ factor.reach (max c (1 + d)) := by
  have hc := Nat.pow_le_pow_left (Nat.le_max_left c (1 + d)) 2
  have hd := Nat.pow_le_pow_left (Nat.le_max_right c (1 + d)) 2
  have hsq : (1 + d) ^ 2 = d ^ 2 + 2 * d + 1 := by ring
  simp only [reach, Tier.reach]
  omega

/-- One more operator puts one more step above the chain so far, and none above what the operand
reaches at the levels it has left. -/
theorem reach_next (tier : Tier) (n c d : Nat) :
    max ((links tier n).reach c) (tier.reach d) + 1 ≤
      (links tier (n + 1)).reach (max c (n + 1 + d)) := by
  have hc := tier.reach_mono (Nat.le_max_left c (n + 1 + d))
  have hd := tier.reach_mono (Nat.le_trans (Nat.le_add_left d (n + 1)) (Nat.le_max_right c _))
  simp only [reach]
  omega

end Line

/-- **No expression is higher than its line reaches at its charge.** A chain has no more operators
than its charge. -/
theorem Derives.height_le {line : Line} {ts : List Token} {e : Expr} {c : Nat}
    (h : Derives line ts e c) : line.count ≤ c ∧ e.height ≤ line.reach c := by
  induction h with
  | constant | literal | «variable» => exact ⟨Nat.zero_le _, Nat.le_max_left _ _⟩
  | call f _ ih =>
    rw [Line.reach_call]
    exact ⟨Nat.zero_le _, Nat.succ_le_succ ih.2⟩
  | group _ ih =>
    rw [Line.reach_call]
    exact ⟨Nat.zero_le _, Nat.le_succ_of_le ih.2⟩
  | base _ ih => exact ⟨Nat.zero_le _, Nat.le_trans ih.2 (Line.reach_primary_le _)⟩
  | @power _ _ _ _ c d _ _ ihb ihe =>
    have hpower := Line.reach_power c d
    rw [Expr.height]
    exact ⟨Nat.zero_le _, by omega⟩
  | first _ ih =>
    rw [Line.reach_operandLine] at ih
    exact ⟨Nat.zero_le _, ih.2⟩
  | @next tier n _ _ _ _ _ c d _ _ _ ihl ihr =>
    rw [Line.reach_operandLine] at ihr
    have hnext := Line.reach_next tier n c d
    rw [Expr.height]
    exact ⟨Nat.le_trans (Nat.le_add_right _ d) (Nat.le_max_right _ _), by omega⟩
  | chain _ ih => exact ⟨Nat.zero_le _, Nat.le_trans ih.2 (Nat.add_le_add_left ih.1 _)⟩

/-! ## Expressions that attain it -/

/-- The expression with so many variables joined to its right. -/
def Expr.joined (e : Expr) (op : Operator) : Nat → Expr
  | 0 => e
  | n + 1 => .binary (e.joined op n) op .variable

/-- The tokens with so many variables joined to their right. -/
def joinedTokens (ts : List Token) (op : Operator) : Nat → List Token
  | 0 => ts
  | n + 1 => joinedTokens ts op n ++ [.operator op.symbol, .freeVariable]

theorem Expr.height_joined (e : Expr) (op : Operator) (n : Nat) :
    (e.joined op n).height = e.height + n := by
  induction n with
  | zero => rfl
  | succ n ih =>
    have hpos := e.height_pos
    simp only [joined, height, ih]
    omega

theorem derives_variable : Derives .factor [.freeVariable] .variable 0 := .base (.variable "X")

/-- An operand can have as many operators after it as its charge, at no further charge. -/
theorem Derives.joined (tier : Tier) (op : Operator) {ts : List Token} {e : Expr} {c n : Nat}
    (h : Derives tier.operandLine ts e c) (hop : tier.Joins op) (hn : n ≤ c) :
    Derives (.chain tier) (joinedTokens ts op n) (e.joined op n) c := by
  have hvariable : Derives tier.operandLine [.freeVariable] .variable 0 := by
    cases tier with
    | sum => exact derives_variable.toTerm
    | product => exact derives_variable
  have hlinks : Derives (.links tier n) (joinedTokens ts op n) (e.joined op n) c := by
    induction n with
    | zero => exact .first h
    | succ n ih =>
      have hnext := Derives.next (ih (Nat.le_of_succ_le hn)) hop hvariable
      rwa [Nat.add_zero, Nat.max_eq_left hn] at hnext
  exact .chain hlinks

/-- A deepest expression that takes so many levels. -/
def Expr.deepest : Nat → Expr
  | 0 => .variable
  | n + 1 =>
    let power := Expr.binary (.call .sin (deepest n)) .pow .variable
    (power.joined .mul (n + 1)).joined .add (n + 1)

/-- The tokens of a deepest expression. -/
def deepestTokens : Nat → List Token
  | 0 => [.freeVariable]
  | n + 1 =>
    let call := .function Func.sin.name :: .openParen :: (deepestTokens n ++ [.closeParen])
    let power := call ++ [.operator Operator.pow.symbol, .freeVariable]
    joinedTokens (joinedTokens power .mul (n + 1)) .add (n + 1)

theorem Expr.height_deepest (n : Nat) : (deepest n).height = n ^ 2 + 3 * n + 1 := by
  induction n with
  | zero => rfl
  | succ n ih =>
    have hsq : (n + 1) ^ 2 = n ^ 2 + 2 * n + 1 := by ring
    rw [deepest, height_joined, height_joined]
    simp only [height, ih, hsq]
    omega

theorem derives_deepest (n : Nat) : Derives .expression (deepestTokens n) (.deepest n) n := by
  induction n with
  | zero => exact derives_variable.toTerm.toExpression
  | succ n ih =>
    have hpower := Derives.power (.call .sin ih) derives_variable
    rw [Nat.add_zero, Nat.max_eq_left (Nat.le_add_right 1 n), Nat.add_comm] at hpower
    have hproduct := Derives.joined .product .mul hpower .mul (Nat.le_refl _)
    exact Derives.joined .sum .add hproduct .add (Nat.le_refl _)

/-! ## The greatest depth -/

/-- With `b` levels left nothing deeper is derived. -/
theorem Derives.depth_le {ts : List Token} {e : Expr} {b c : Nat} (h : Derives .expression ts e c)
    (hc : c ≤ b) : (Shape.of e).depth ≤ b ^ 2 + 3 * b + 1 := by
  have hheight := h.height_le.2
  have hsq := Nat.pow_le_pow_left hc 2
  rw [Line.reach_expression] at hheight
  rw [Shape.depth_of]
  omega

theorem depth_deepest (b : Nat) : (Shape.of (.deepest b)).depth = b ^ 2 + 3 * b + 1 := by
  rw [Shape.depth_of, Expr.height_deepest]

/-- **With `b` levels left, the deepest expressions that can be read have depth
`b ^ 2 + 3 * b + 1`**, wherever the cursor stands. So the deepest that parse have depth 66305. -/
theorem isGreatest_depth :
    (∀ position depth, IsGreatest
      {n | ∃ ts e, (Cursor.mk position ts depth).parseExpression.1 = .ok e ∧
        (Shape.of e).depth = n}
      ((maxNesting - depth) ^ 2 + 3 * (maxNesting - depth) + 1)) ∧
    IsGreatest {n | ∃ ts e, parse ts = .ok e ∧ (Shape.of e).depth = n} 66305 := by
  refine ⟨fun position depth => ⟨?attained, ?bound⟩, ?parsed, ?parsedBound⟩
  case attained =>
    have hrun := (derives_deepest (maxNesting - depth)).reads (Nat.le_refl _) [] rfl
    rw [List.append_nil] at hrun
    exact ⟨_, _, Cursor.parseExpression_eq_ok_iff.2 ⟨[], hrun⟩, depth_deepest _⟩
  case bound =>
    rintro n ⟨ts, e, hread, rfl⟩
    obtain ⟨us, hrun⟩ := Cursor.parseExpression_eq_ok_iff.1 hread
    obtain ⟨taken, -, c, hc, hderives⟩ := hrun.sound
    exact hderives.depth_le hc
  case parsed =>
    exact ⟨_, _, (derives_deepest maxNesting).parse_eq_ok (Nat.le_refl _), depth_deepest _⟩
  case parsedBound =>
    rintro n ⟨ts, e, hparse, rfl⟩
    obtain ⟨c, hc, hderives⟩ := exists_derives_of_parse hparse
    exact hderives.depth_le hc

end Calculator
