import Calculator.Evaluation
import Calculator.Graph.Window

/-!
# Sweeps

Sampling an expression at evenly spaced values of the variable. A **sweep** goes from the minimum
of a range to its maximum in a number of steps, at least one, and visits both ends exactly.

**Abscissae.** The i-th abscissa is computed from the minimum and `i`, never by adding up, and
on halved values, so that a range wider than the greatest double still has finite abscissae. It
is cut off at the maximum.

**Samples.** A sweep never fails: a sample without a value has height NaN, and failures are only
counted.
-/

namespace Calculator

/-- A range and a number of steps to cross it in. -/
structure Sweep where
  range : Range
  steps : UInt64
  steps_pos : 0 < steps

namespace Sweep

/-- The sweep of given ends and steps. -/
def make? (minX maxX : Float) (steps : UInt64) : Except BoundsError Sweep :=
  if hf : minX.isFinite ∧ maxX.isFinite then
    if hl : minX < maxX then
      if hs : 0 < steps then .ok ⟨⟨minX, maxX, hf.1, hf.2, hl⟩, steps, hs⟩ else .error .noSteps
    else .error .inverted
  else .error .notFinite

/-- The product of two words, or the greatest word if it does not fit. -/
def saturatingMul (a b : UInt64) : UInt64 :=
  if a.toNat * b.toNat < UInt64.size then a * b else 0xffffffffffffffff

/-- The sweep across a window on a surface `width` pixels wide, with `samples` steps for every
pixel but at least one step in all. -/
def forWidth (w : Window) (width samples : UInt64) : Sweep :=
  let steps := saturatingMul width samples
  if h : 0 < steps then ⟨w.horizontal, steps, h⟩ else ⟨w.horizontal, 1, by decide⟩

/-- Half the distance of neighbouring abscissae. -/
def halfStep (s : Sweep) : Float := (s.range.max / 2.0 - s.range.min / 2.0) / s.steps.toFloat

/-- The distance of neighbouring abscissae; infinite only where one step is wider than the
greatest double. -/
def step (s : Sweep) : Float := s.halfStep * 2.0

/-- The number of samples, one more than steps, as a 64-bit word. -/
def size (s : Sweep) : UInt64 := s.steps + 1

/-- A sweep has samples. -/
def isEmpty (_ : Sweep) : Bool := false

/-- So many steps from the minimum. -/
def stepsFromMin (s : Sweep) (i : Nat) : Float :=
  (s.range.min / 2.0 + i.toUInt64.toFloat * s.halfStep) * 2.0

/-- The i-th abscissa. One that is not below the maximum is the maximum itself, also where the
two differ only in the sign of zero. -/
def abscissa (s : Sweep) (i : Nat) : Float :=
  if i = 0 then s.range.min
  else if i = s.steps.toNat then s.range.max
  else if s.stepsFromMin i < s.range.max then s.stepsFromMin i
  else s.range.max

/-- The first `count` abscissae, or all of them if there are fewer. -/
def firstAbscissae (s : Sweep) (count : Nat) : List Float :=
  (List.range (min count (s.steps.toNat + 1))).map s.abscissa

/-- All abscissae in increasing order. -/
def abscissae (s : Sweep) : List Float := (List.range (s.steps.toNat + 1)).map s.abscissa

end Sweep

/-- What a sweep of an expression gives: samples in order, and how many of them failed. -/
structure Plot where
  samples : List Sample
  failures : Nat

namespace Plot

/-- No samples yet. -/
def empty : Plot := ⟨[], 0⟩

/-- What to tell about failures, if there are any. -/
def warning? (p : Plot) : Option String :=
  if 0 < p.failures then
    some (toString p.failures ++ " of " ++ toString p.samples.length ++
      " samples failed to evaluate")
  else none

end Plot

namespace Sweep

/-- The height of an expression over `x`, and whether it failed. -/
def sampleAt (mode : AngleMode) (e : Expr) (x : Float) : Sample × Bool :=
  match e.evalAt mode x with
  | .ok y => (⟨x, y⟩, false)
  | .error _ => (⟨x, 0.0 / 0.0⟩, true)

/-- Sample an expression. -/
def run (s : Sweep) (mode : AngleMode) (e : Expr) : Plot :=
  let taken := s.abscissae.map (sampleAt mode e)
  ⟨taken.map Prod.fst, taken.countP Prod.snd⟩

end Sweep

end Calculator
