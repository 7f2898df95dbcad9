import Calculator.Proofs.Expr.Shape
import Calculator.Proofs.Parser.Acceptance

/-!
# What the nesting limit says about depth

A **way** leads from the root of an expression down to a leaf. Some of its steps go into a left
operand, and the others go **inward**: into a right operand or an argument.

The limit bounds the inward steps of every way (`Derives.inward_le`). It does not bound the steps
to the left: an operator of a chain is charged to the operands read after it, but in the
expression it stands above the operands read before it, and these were charged for their own
operators from the same level on. So an expression is as deep as the limit promises exactly if no
way makes more steps to the left than its inward steps leave (`depth_le_iff_of_parse`), and a long
product before a `+` is deeper (`not_forall_depth_le`).
-/

namespace Calculator

/-! ## Ways -/

/-- The steps from the root of an expression to one of its leaves. -/
structure Way where
  /-- Steps into a left operand. -/
  left : Nat
  /-- Steps into a right operand or an argument. -/
  inward : Nat
  deriving DecidableEq, Repr

namespace Way

/-- The way with a step into a left operand before it. -/
def fromLeft (w : Way) : Way := { w with left := w.left + 1 }

/-- The way with a step into a right operand or an argument before it. -/
def fromInside (w : Way) : Way := { w with inward := w.inward + 1 }

/-- The number of steps. -/
def length (w : Way) : Nat := w.left + w.inward

theorem length_fromLeft (w : Way) : w.fromLeft.length = w.length + 1 := by
  simp only [fromLeft, length]
  omega

theorem length_fromInside (w : Way) : w.fromInside.length = w.length + 1 := rfl

end Way

namespace Expr

/-- The ways to the leaves, from left to right. -/
def ways : Expr → List Way
  | .binary left _ right => left.ways.map .fromLeft ++ right.ways.map .fromInside
  | .call _ argument => argument.ways.map .fromInside
  | _ => [⟨0, 0⟩]

theorem length_lt_height {e : Expr} : ∀ w ∈ e.ways, w.length < e.height := by
  induction e with
  | literal | constant | «variable» =>
    intro w hw
    rw [List.mem_singleton.1 hw]
    exact Nat.zero_lt_one
  | binary left op right ihl ihr =>
    intro w hw
    rcases List.mem_append.1 hw with hw | hw
    · obtain ⟨v, hv, rfl⟩ := List.mem_map.1 hw
      have := ihl v hv
      rw [Way.length_fromLeft, height]
      omega
    · obtain ⟨v, hv, rfl⟩ := List.mem_map.1 hw
      have := ihr v hv
      rw [Way.length_fromInside, height]
      omega
  | call f argument ih =>
    intro w hw
    obtain ⟨v, hv, rfl⟩ := List.mem_map.1 hw
    rw [Way.length_fromInside, height]
    exact Nat.succ_lt_succ (ih v hv)

/-- Some way is as long as the expression is high. -/
theorem exists_length_add_one_eq (e : Expr) : ∃ w ∈ e.ways, w.length + 1 = e.height := by
  induction e with
  | literal | constant | «variable» => exact ⟨⟨0, 0⟩, List.mem_singleton_self _, rfl⟩
  | binary left op right ihl ihr =>
    obtain ⟨v, hv, hleft⟩ := ihl
    obtain ⟨w, hw, hright⟩ := ihr
    rcases Nat.le_total left.height right.height with hle | hle
    · refine ⟨w.fromInside, List.mem_append_right _ (List.mem_map_of_mem hw), ?_⟩
      rw [Way.length_fromInside, hright, height, Nat.max_eq_right hle]
    · refine ⟨v.fromLeft, List.mem_append_left _ (List.mem_map_of_mem hv), ?_⟩
      rw [Way.length_fromLeft, hleft, height, Nat.max_eq_left hle]
  | call f argument ih =>
    obtain ⟨w, hw, hlen⟩ := ih
    exact ⟨w.fromInside, List.mem_map_of_mem hw, by rw [Way.length_fromInside, hlen, height]⟩

theorem height_le_iff {e : Expr} {n : Nat} : e.height ≤ n + 1 ↔ ∀ w ∈ e.ways, w.length ≤ n := by
  constructor
  · intro h w hw
    have := length_lt_height w hw
    omega
  · intro h
    obtain ⟨w, hw, hlen⟩ := e.exists_length_add_one_eq
    have := h w hw
    omega

end Expr

/-! ## The limit and the ways -/

/-- **A derivation charges for every inward step.** -/
theorem Derives.inward_le {line : Line} {ts : List Token} {e : Expr} {c : Nat}
    (h : Derives line ts e c) : ∀ w ∈ e.ways, w.inward ≤ c := by
  induction h with
  | constant | literal | «variable» =>
    intro w hw
    obtain rfl := List.mem_singleton.1 hw
    exact Nat.zero_le _
  | call f _ ih =>
    intro w hw
    obtain ⟨v, hv, rfl⟩ := List.mem_map.1 hw
    have := ih v hv
    simp only [Way.fromInside]
    omega
  | group _ ih =>
    intro w hw
    have := ih w hw
    omega
  | power _ _ ihl ihr | next _ _ _ ihl ihr =>
    intro w hw
    rcases List.mem_append.1 hw with hw | hw
    · obtain ⟨v, hv, rfl⟩ := List.mem_map.1 hw
      have := ihl v hv
      simp only [Way.fromLeft]
      omega
    · obtain ⟨v, hv, rfl⟩ := List.mem_map.1 hw
      have := ihr v hv
      simp only [Way.fromInside]
      omega
  | base _ ih | first _ ih | chain _ ih => exact ih

/-- **How deep a parsed expression is.** No way makes more inward steps than the limit, and the
depth stays within the limit exactly if no way makes more steps to the left than its inward steps
leave. -/
theorem depth_le_iff_of_parse {ts : List Token} {e : Expr} (h : parse ts = .ok e) :
    (∀ w ∈ e.ways, w.inward ≤ maxNesting) ∧
      ((Shape.of e).depth ≤ maxNesting + 1 ↔
        ∀ w ∈ e.ways, w.left ≤ maxNesting - w.inward) := by
  obtain ⟨c, hc, hderives⟩ := exists_derives_of_parse h
  have hinward : ∀ w ∈ e.ways, w.inward ≤ maxNesting := fun w hw =>
    Nat.le_trans (hderives.inward_le w hw) hc
  refine ⟨hinward, ?_⟩
  rw [Shape.depth_of, Expr.height_le_iff]
  refine forall₂_congr fun w hw => ?_
  have := hinward w hw
  simp only [Way.length]
  omega

/-! ## A product before a sum -/

/-- A product of ones with so many operators. -/
def Expr.ones : Nat → Expr
  | 0 => .literal "1"
  | n + 1 => .binary (ones n) .mul (.literal "1")

/-- The tokens of a product of ones. -/
def onesTokens : Nat → List Token
  | 0 => [.number "1"]
  | n + 1 => onesTokens n ++ [.operator "×", .number "1"]

/-- One more than a product of ones. -/
def Expr.onesAddOne (n : Nat) : Expr := .binary (.ones n) .add (.literal "1")

theorem derives_one : Derives .factor [.number "1"] (.literal "1") 0 :=
  .base (.literal (by intro k; cases k <;> decide))

theorem derives_ones (n : Nat) : Derives (.links .product n) (onesTokens n) (.ones n) n := by
  induction n with
  | zero => exact .first derives_one
  | succ n ih =>
    have h := Derives.next ih .mul derives_one
    rwa [Nat.add_zero, Nat.max_eq_right (Nat.le_succ n)] at h

/-- The product and the sum are charged apart, each from the level of the whole. -/
theorem parse_ones_add_one {n : Nat} (h : n ≤ maxNesting) :
    parse (onesTokens n ++ [.operator "+", .number "1"]) = .ok (.onesAddOne n) := by
  have hproduct : Derives Tier.sum.operandLine (onesTokens n) (.ones n) n := .chain (derives_ones n)
  have hsum := Derives.chain (.next (.first hproduct) .add derives_one.toTerm)
  exact hsum.parse_eq_ok (Nat.max_le.2 ⟨h, by decide⟩)

theorem mem_ways_ones (n : Nat) : ⟨n, 0⟩ ∈ (Expr.ones n).ways := by
  induction n with
  | zero => exact List.mem_singleton_self _
  | succ n ih => exact List.mem_append_left _ (List.mem_map_of_mem (f := Way.fromLeft) ih)

theorem mem_ways_onesAddOne (n : Nat) : ⟨n + 1, 0⟩ ∈ (Expr.onesAddOne n).ways :=
  List.mem_append_left _ (List.mem_map_of_mem (f := Way.fromLeft) (mem_ways_ones n))

/-- At the limit, the way to the first factor is one step too long. -/
theorem parse_ones_add_one_at_limit :
    parse (onesTokens maxNesting ++ [.operator "+", .number "1"]) =
        .ok (.onesAddOne maxNesting) ∧
      ¬ (Shape.of (.onesAddOne maxNesting)).depth ≤ maxNesting + 1 := by
  have h := parse_ones_add_one (Nat.le_refl maxNesting)
  refine ⟨h, fun hdepth => ?_⟩
  have hleft := (depth_le_iff_of_parse h).2.1 hdepth _ (mem_ways_onesAddOne maxNesting)
  exact Nat.not_succ_le_self maxNesting hleft

/-- **The limit does not bound the depth.** -/
theorem not_forall_depth_le :
    ¬ ∀ ts e, parse ts = .ok e → (Shape.of e).depth ≤ maxNesting + 1 := by
  intro hall
  have h := hall _ _ (parse_ones_add_one (Nat.le_refl maxNesting))
  rw [Shape.depth_of, Expr.height_le_iff] at h
  exact Nat.not_succ_le_self maxNesting (h _ (mem_ways_onesAddOne maxNesting))

end Calculator
