import Calculator.Decimal.Dyadic

/-!
# Shortest decimals

The decimal with the fewest digits among those that read back to a given double, and of those
the nearest to it; the greater of two equally near.

The decimals `n · 10 ^ k` with one `k` form a **grid**. If any point of a grid reads back, so does
one of the two neighbours of the double on that grid, so it is enough to test these on ever
finer grids and take the first grid that has a hit. Seventeen digits always suffice.
-/

namespace Calculator.Decimal

/-- The number `digits · 10 ^ exponent`. -/
structure Scaled where
  digits : Nat
  exponent : Int
  deriving DecidableEq, Repr

/-- A quarter of a dyadic number's unit, in steps of the grid `10 ^ k`, as a fraction. -/
def Dyadic.quarterOnGrid (d : Dyadic) (k : Int) : Nat × Nat :=
  let q := d.exponent - 2
  (Nat.pow 2 q.toNat * Nat.pow 10 (-k).toNat, Nat.pow 2 (-q).toNat * Nat.pow 10 k.toNat)

/-- The point of the grid `10 ^ k` that reads back to the number and is nearest to it, if there
is one. -/
def Dyadic.onGrid? (d : Dyadic) (k : Int) : Option Scaled :=
  let (num, den) := d.quarterOnGrid k
  let below := 4 * d.mantissa * num / den
  let belowReads := d.lower * num < below * den || d.closed && d.lower * num = below * den
  let aboveReads :=
    (below + 1) * den < d.upper * num || d.closed && (below + 1) * den = d.upper * num
  let aboveNearer := (2 * below + 1) * den ≤ 2 * (4 * d.mantissa * num)
  if aboveReads && (aboveNearer || !belowReads) then some ⟨below + 1, k⟩
  else if belowReads then some ⟨below, k⟩
  else none

/-- An exponent of ten above the number: `10 ^ k` with this `k` is greater than it. -/
def Dyadic.decimalBound (d : Dyadic) : Int :=
  ((d.mantissa.log2 : Int) + 1 + d.exponent) * 30103 / 100000 + 2

/-- The number of grids to try: seventeen digits below a bound that may be three too high. -/
def gridCount : Nat := 21

/-- The shortest decimal that reads back to the number. -/
def Dyadic.shortest (d : Dyadic) : Scaled :=
  let grids := (List.range gridCount).map fun (i : Nat) => d.decimalBound - i
  (grids.findSome? d.onGrid?).getD ⟨0, 0⟩

end Calculator.Decimal
