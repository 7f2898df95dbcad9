import Calculator.Evaluation

/-!
# Degrees written out

To read angles in degrees is to read them in radians after each has been multiplied by `π ÷ 180`.
`Expr.inRadians` writes this product into an expression, around the argument of every `sin`, `cos`
and `tan` at every depth; arguments of `log`, `ln` and `√` stay as they are.

The argument is evaluated before it is multiplied, and the quotient is rounded before that, so the
two evaluations do the same operations on doubles in the same order.

Main result: `Expr.evalAt_degrees`.
-/

namespace Calculator.Expr

/-! ## Writing degrees out -/

/-- One degree in radians. -/
def degree : Expr := .binary (.constant .pi) .div (.literal "180")

/-- The expression with every angle multiplied by a degree. -/
def inRadians : Expr → Expr
  | .binary left op right => .binary left.inRadians op right.inRadians
  | .call f argument =>
    match f with
    | .sin | .cos | .tan => .call f (.binary argument.inRadians .mul degree)
    | .log | .ln | .sqrt => .call f argument.inRadians
  | leaf => leaf

/-- Whether a sine, a cosine or a tangent occurs. -/
def mentionsAngle : Expr → Bool
  | .binary left _ right => left.mentionsAngle || right.mentionsAngle
  | .call f argument =>
    match f with
    | .sin | .cos | .tan => true
    | .log | .ln | .sqrt => argument.mentionsAngle
  | _ => false

/-! ## Calls -/

theorem evalAt_degree (mode : AngleMode) (x : Float) :
    degree.evalAt mode x = .ok AngleMode.degree := rfl

/-- The value of a call, when its argument is evaluated already. -/
theorem evalAt_call (mode : AngleMode) (x : Float) (f : Func) (argument : Expr) :
    (call f argument).evalAt mode x = (argument.evalAt mode x).map (f.applyIn mode) := by
  rw [evalAt]
  cases argument.evalAt mode x <;> rfl

/-- A product with a degree, when the other factor is evaluated already. -/
theorem evalAt_mul_degree (mode : AngleMode) (x : Float) (e : Expr) :
    (binary e .mul degree).evalAt mode x = (e.evalAt mode x).map (· * AngleMode.degree) := by
  rw [evalAt]
  cases e.evalAt mode x with
  | error error => rfl
  | ok a =>
    rw [evalAt_degree]
    rfl

/-- On degrees a function of an angle is the function on radians of the angle multiplied. -/
theorem evalAt_call_inRadians {f : Func} (hf : f.isTrigonometric = true) {argument : Expr}
    {x : Float} (h : argument.inRadians.evalAt .radians x = argument.evalAt .degrees x) :
    (call f (.binary argument.inRadians .mul degree)).evalAt .radians x =
      (call f argument).evalAt .degrees x := by
  have hangle : f.applyIn .degrees = fun a => f.applyIn .radians (a * AngleMode.degree) := by
    funext a
    rw [Func.applyIn, Func.applyIn, if_pos hf, if_pos hf]
    rfl
  rw [evalAt_call, evalAt_mul_degree, h, evalAt_call, hangle]
  cases argument.evalAt .degrees x <;> rfl

/-- A function of anything else is the same in every mode. -/
theorem evalAt_call_congr {f : Func} (hf : f.isTrigonometric = false) {argument argument' : Expr}
    {mode mode' : AngleMode} {x : Float}
    (h : argument'.evalAt mode' x = argument.evalAt mode x) :
    (call f argument').evalAt mode' x = (call f argument).evalAt mode x := by
  have hmode (m : AngleMode) : f.applyIn m = f.apply := by
    funext a
    rw [Func.applyIn, hf]
    rfl
  rw [evalAt_call, evalAt_call, h, hmode, hmode]

/-! ## Both modes -/

/-- **Reading angles in degrees is reading them in radians after multiplying each by a degree.** -/
theorem evalAt_inRadians (e : Expr) (x : Float) :
    e.inRadians.evalAt .radians x = e.evalAt .degrees x := by
  induction e with
  | literal text => rfl
  | constant c => rfl
  | «variable» => rfl
  | binary left op right ihl ihr => rw [inRadians, evalAt, ihl, ihr, evalAt]
  | call f argument ih =>
    cases f with
    | sin | cos | tan => exact evalAt_call_inRadians rfl ih
    | log | ln | sqrt => exact evalAt_call_congr rfl ih

/-- Without angles there is nothing to multiply. -/
theorem inRadians_of_not_mentionsAngle {e : Expr} (h : e.mentionsAngle = false) :
    e.inRadians = e := by
  induction e with
  | literal text => rfl
  | constant c => rfl
  | «variable» => rfl
  | binary left op right ihl ihr =>
    obtain ⟨hl, hr⟩ := Bool.or_eq_false_iff.1 h
    rw [inRadians, ihl hl, ihr hr]
  | call f argument ih =>
    cases f with
    | sin | cos | tan => cases h
    | log | ln | sqrt => exact congrArg (call _) (ih h)

/-- **Degrees are a matter of writing**: evaluated in degrees, an expression has the value, or the
error, that it has in radians with each angle multiplied by a degree; and without angles the mode
does not matter. -/
theorem evalAt_degrees (e : Expr) (x : Float) :
    e.evalAt .degrees x = e.inRadians.evalAt .radians x ∧
      (e.mentionsAngle = false → e.evalAt .degrees x = e.evalAt .radians x) := by
  refine ⟨(e.evalAt_inRadians x).symm, fun h => ?_⟩
  rw [← e.evalAt_inRadians x, inRadians_of_not_mentionsAngle h]

/-- In degrees the angles of `sin(√(cos(X+ln(tan(X)))))` are multiplied at all three depths, and
nothing else is. In `√(ln(X))` there are none. -/
theorem evalAt_degrees_nested :
    (call .sin (call .sqrt (call .cos (.binary .variable .add
        (call .ln (call .tan .variable)))))).evalAt .degrees 60.0 =
      .ok (Float.sin (Float.sqrt (Float.cos ((60.0 +
        Float.log (Float.tan (60.0 * (3.141592653589793 / 180.0)))) *
          (3.141592653589793 / 180.0))) * (3.141592653589793 / 180.0))) ∧
    (call .sqrt (call .ln .variable)).mentionsAngle = false ∧
      (call .sqrt (call .ln .variable)).evalAt .degrees 2.0 =
        (call .sqrt (call .ln .variable)).evalAt .radians 2.0 :=
  ⟨(evalAt_degrees _ _).1, rfl, (evalAt_degrees _ _).2 rfl⟩

end Calculator.Expr
