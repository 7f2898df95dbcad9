import Calculator.Proofs.Graph.Samples
import Calculator.Proofs.Parser.Depth
import Mathlib.Order.Bounds.Basic

/-!
# Shapes, and flat graphs

What the three facts of a shape say about an expression: how many nodes it has, how many the longest
path from its root to a leaf passes, and whether the variable is one of them.

**Flat graphs.** Evaluation looks at the value of the variable only where the variable stands. So an
expression whose shape has none gets the same value, or the same error, for every value of the
variable, and all samples of a sweep have one height.

Main result: `shape_tells`.
-/

namespace Calculator

namespace Expr

variable {e : Expr}

/-! ## Nodes and paths -/

/-- The expression and all expressions below it, each as often as it stands there. -/
def nodes : Expr → List Expr
  | .binary left op right => .binary left op right :: (left.nodes ++ right.nodes)
  | .call f argument => .call f argument :: argument.nodes
  | leaf => [leaf]

/-- The nodes from the root down to each of the leaves. -/
def paths : Expr → List (List Expr)
  | .binary left op right => (left.paths ++ right.paths).map (.binary left op right :: ·)
  | .call f argument => argument.paths.map (.call f argument :: ·)
  | leaf => [[leaf]]

theorem length_nodes (e : Expr) : e.nodes.length = e.size := by
  induction e with
  | literal | constant | «variable» => rfl
  | binary left op right ihl ihr => simp [nodes, size, ihl, ihr]
  | call f argument ih => simp [nodes, size, ih]

theorem variable_mem_nodes_iff : .variable ∈ e.nodes ↔ e.mentionsVariable = true := by
  induction e with
  | literal | constant | «variable» => simp [nodes, mentionsVariable]
  | binary left op right ihl ihr => simp [nodes, mentionsVariable, ihl, ihr]
  | call f argument ih => simp [nodes, mentionsVariable, ih]

/-- A path has one node more than its way has steps. -/
theorem map_length_paths (e : Expr) : e.paths.map List.length = e.ways.map (·.length + 1) := by
  -- A step in front of all paths below is a node in front of all of them.
  have hstep {below : Expr} (root : Expr) {step : Way → Way}
      (hlen : ∀ w, (step w).length = w.length + 1)
      (ih : below.paths.map List.length = below.ways.map (·.length + 1)) :
      (below.paths.map (root :: ·)).map List.length =
        (below.ways.map step).map (·.length + 1) := by
    have hnext := congrArg (List.map (· + 1)) ih
    simpa [Function.comp_def, hlen] using hnext
  induction e with
  | literal | constant | «variable» => rfl
  | binary left op right ihl ihr =>
    rw [paths, ways, List.map_append, List.map_append, List.map_append,
      hstep _ Way.length_fromLeft ihl, hstep _ Way.length_fromInside ihr]
  | call f argument ih =>
    rw [paths, ways, hstep _ Way.length_fromInside ih]

/-- **The height is the length of the longest path.** -/
theorem isGreatest_height (e : Expr) :
    IsGreatest {n | ∃ path ∈ e.paths, path.length = n} e.height := by
  have hmem (n : Nat) : (∃ path ∈ e.paths, path.length = n) ↔ ∃ w ∈ e.ways, w.length + 1 = n := by
    rw [← List.mem_map, e.map_length_paths, List.mem_map]
  constructor
  · exact (hmem e.height).2 e.exists_length_add_one_eq
  · intro n hn
    obtain ⟨w, hw, rfl⟩ := (hmem n).1 hn
    exact length_lt_height w hw

/-! ## Values without the variable -/

/-- **Without the variable, evaluation does not look at its value.** -/
theorem evalAt_congr (h : e.mentionsVariable = false) (mode : AngleMode) (x y : Float) :
    e.evalAt mode x = e.evalAt mode y := by
  induction e with
  | literal text => rfl
  | constant c => rfl
  | «variable» => cases h
  | binary left op right ihl ihr =>
    obtain ⟨hl, hr⟩ := Bool.or_eq_false_iff.1 h
    simp only [evalAt, ihl hl, ihr hr]
  | call f argument ih => simp only [evalAt, ih h]

end Expr

namespace Sweep

/-- Without the variable, all samples have the height of any one point. -/
theorem y_of_mem_samples_run {e : Expr} (h : e.mentionsVariable = false) (s : Sweep)
    (mode : AngleMode) (x : Float) :
    ∀ p ∈ (s.run mode e).samples, p.y = (sampleAt mode e x).1.y := by
  intro p hp
  rw [samples_run] at hp
  obtain ⟨x', -, rfl⟩ := List.mem_map.1 hp
  unfold sampleAt
  rw [Expr.evalAt_congr h mode x' x]
  split <;> rfl

end Sweep

/-- **What a shape tells.** It counts the nodes, its depth is the number of nodes on the longest
path from the root to a leaf, and it tells whether the variable is a node. Where it tells that there
is none, an expression has one value or one error in each mode, whatever the variable is, and so all
samples of a sweep have one height. -/
theorem shape_tells (e : Expr) :
    (Shape.of e).nodes = e.nodes.length ∧
    IsGreatest {n | ∃ path ∈ e.paths, path.length = n} (Shape.of e).depth ∧
    ((Shape.of e).usesVariable = true ↔ .variable ∈ e.nodes) ∧
    ((Shape.of e).usesVariable = false →
      (∀ mode x y, e.evalAt mode x = e.evalAt mode y) ∧
      ∀ (s : Sweep) mode, ∃ y, ∀ p ∈ (s.run mode e).samples, p.y = y) := by
  rw [Shape.of_eq]
  exact ⟨e.length_nodes.symm, e.isGreatest_height, Expr.variable_mem_nodes_iff.symm, fun h =>
    ⟨Expr.evalAt_congr h, fun s mode => ⟨_, s.y_of_mem_samples_run h mode 0.0⟩⟩⟩

/-- The logarithm of a difference below zero is no number, but the same one everywhere. -/
theorem shape_tells_of_ln :
    let e : Expr := .call .ln (.binary (.constant .e) .sub (.constant .pi))
    (Shape.of e).usesVariable = false ∧ (Shape.of e).nodes = 4 ∧
      e.evalAt .degrees 0.0 = e.evalAt .degrees 1.5 := by
  intro e
  obtain ⟨hnodes, -, -, hflat⟩ := shape_tells e
  exact ⟨by decide, hnodes.trans (by decide), (hflat (by decide)).1 _ _ _⟩

end Calculator
