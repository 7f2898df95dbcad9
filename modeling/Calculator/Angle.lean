import Calculator.Expr

/-!
# Angles

The two ways to read the argument of a trigonometric function. A degree is `π ÷ 180` radians,
a quotient rounded before anything is multiplied by it.
-/

namespace Calculator

/-- How angles are read. -/
inductive AngleMode
  | radians
  | degrees
  deriving DecidableEq, Repr, Inhabited

namespace AngleMode

/-- The mode a choice between radians and degrees stands for. -/
def ofRadians (inRadians : Bool) : AngleMode := if inRadians then .radians else .degrees

def isRadians (mode : AngleMode) : Bool := mode = .radians

/-- The other mode. -/
def toggle : AngleMode → AngleMode
  | .radians => .degrees
  | .degrees => .radians

def name : AngleMode → String
  | .radians => "Radians"
  | .degrees => "Degrees"

/-- One degree in radians. -/
def degree : Float := Constant.pi.value / 180.0

/-- An angle in radians. -/
def toRadians : AngleMode → Float → Float
  | .radians, angle => angle
  | .degrees, angle => angle * degree

@[simp] theorem toggle_toggle (mode : AngleMode) : mode.toggle.toggle = mode := by
  cases mode <;> rfl

end AngleMode

end Calculator
