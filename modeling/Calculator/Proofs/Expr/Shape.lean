import Calculator.Expr.Shape

/-!
# What the walk measures

The surveyor keeps one level counter for the whole walk: it is raised on the way into the operands
of a node and lowered on the way out, and the depth is the greatest level it ever reached.

Main result: `Shape.of_eq` — the shape of an expression is its size, its height and whether it
mentions the variable.
-/

namespace Calculator

theorem Expr.height_pos (e : Expr) : 0 < e.height := by
  cases e <;> exact Nat.succ_pos _

namespace Shape

/-- What a survey holds after a walk through an expression, begun at any level. -/
def Survey.past (s : Survey) (e : Expr) : Survey where
  shape := {
    nodes := s.shape.nodes + e.size
    depth := max s.shape.depth (s.level + e.height)
    usesVariable := s.shape.usesVariable || e.mentionsVariable }
  level := s.level

/-- Nothing has been counted yet. -/
def Survey.fresh : Survey := ⟨⟨0, 0, false⟩, 0⟩

/-- One level further down. -/
def Survey.down (s : Survey) : Survey := { s with level := s.level + 1 }

/-- One level further up. -/
def Survey.up (s : Survey) : Survey := { s with level := s.level - 1 }

theorem run_walk_binary_surveyor (left right : Expr) (op : Operator) (s : Survey) :
    ((Expr.binary left op right).walk surveyor).run s =
      ((), (((right.walk surveyor).run ((left.walk surveyor).run s.count.down).2).2).up) := rfl

theorem run_walk_call_surveyor (f : Func) (argument : Expr) (s : Survey) :
    ((Expr.call f argument).walk surveyor).run s =
      ((), ((argument.walk surveyor).run s.count.down).2.up) := rfl

/-- **A walk adds its measures to what the survey held**, and leaves the level as it was. -/
theorem run_walk_surveyor (e : Expr) (s : Survey) :
    (e.walk surveyor).run s = ((), s.past e) := by
  induction e generalizing s with
  | literal text | constant c =>
    show ((), s.count) = _
    simp [Survey.count, Survey.past, Expr.size, Expr.height, Expr.mentionsVariable]
  | «variable» =>
    show ((), Survey.count { s with shape := { s.shape with usesVariable := true } }) = _
    simp [Survey.count, Survey.past, Expr.size, Expr.height, Expr.mentionsVariable]
  | binary left op right ihl ihr =>
    rw [run_walk_binary_surveyor, ihl, ihr]
    simp only [Survey.past, Survey.count, Survey.down, Survey.up, Expr.size, Expr.height,
      Expr.mentionsVariable, Nat.add_sub_cancel, Bool.or_assoc]
    congr 3 <;> omega
  | call f argument ih =>
    rw [run_walk_call_surveyor, ih]
    simp only [Survey.past, Survey.count, Survey.down, Survey.up, Expr.size, Expr.height,
      Expr.mentionsVariable, Nat.add_sub_cancel]
    congr 3 <;> omega

/-- **The shape of an expression is its size, its height and whether it varies.** -/
theorem of_eq (e : Expr) : of e = ⟨e.size, e.height, e.mentionsVariable⟩ := by
  have h : of e = (Survey.fresh.past e).shape := congrArg (·.2.shape) (run_walk_surveyor e .fresh)
  rw [h]
  simp [Survey.past, Survey.fresh]

@[simp] theorem depth_of (e : Expr) : (of e).depth = e.height := by rw [of_eq]

end Shape

end Calculator
