/-!
# The graph window

The part of the plane that a graph shows. A **window** has finite bounds, each minimum below its
maximum; `Window.make?` is the way to get one and says which of the two rules fails. A point is
**plottable** when it has a finite height inside the window, edges included.
-/

namespace Calculator

/-- Why bounds or steps are refused. -/
inductive BoundsError
  /-- A bound is infinite or not a number. -/
  | notFinite
  /-- A minimum is not below its maximum. -/
  | inverted
  /-- There is not a single step. -/
  | noSteps
  deriving DecidableEq, Repr

/-- The text of a bounds error. -/
def BoundsError.message : BoundsError → String
  | .notFinite => "graph bounds must be finite numbers"
  | .inverted => "minimum values must be less than maximum values"
  | .noSteps => "a sweep needs at least one step"

/-- The interval between two finite doubles, the first below the second. -/
structure Range where
  min : Float
  max : Float
  min_finite : min.isFinite = true
  max_finite : max.isFinite = true
  min_lt_max : min < max

/-- A rectangle of the plane. -/
structure Window where
  horizontal : Range
  vertical : Range

namespace Window

/-- The window with the given bounds. -/
def make? (minX maxX minY maxY : Float) : Except BoundsError Window :=
  if hf : minX.isFinite ∧ maxX.isFinite ∧ minY.isFinite ∧ maxY.isFinite then
    if hl : minX < maxX ∧ minY < maxY then
      .ok ⟨⟨minX, maxX, hf.1, hf.2.1, hl.1⟩, ⟨minY, maxY, hf.2.2.1, hf.2.2.2, hl.2⟩⟩
    else .error .inverted
  else .error .notFinite

/-- From minus ten to ten in both directions. -/
def standard : Window :=
  ⟨⟨-10.0, 10.0, by decide, by decide, by decide⟩, ⟨-10.0, 10.0, by decide, by decide, by decide⟩⟩

/-- Whether a height lies in the window. -/
def containsHeight (w : Window) (y : Float) : Bool := w.vertical.min ≤ y && y ≤ w.vertical.max

end Window

/-- A point of a graph; its height is NaN where there is no value. -/
structure Sample where
  x : Float
  y : Float

namespace Sample

def isFinite (s : Sample) : Bool := s.y.isFinite

/-- Whether the point shows in the window. -/
def isPlottable (s : Sample) (w : Window) : Bool := s.isFinite && w.containsHeight s.y

end Sample

end Calculator
