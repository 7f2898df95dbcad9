/-!
# Doubles as dyadic numbers

A finite double other than zero is, up to its sign, a **dyadic** number `mantissa · 2 ^ exponent`,
and the reals that round to it are the interval around it that reaches half way to its
neighbours. The gap below is half as wide as the gap above where the mantissa is the smallest
of its binade.
-/

namespace Calculator.Decimal

/-- The magnitude of a finite double, and whether its lower neighbour is nearer than its
upper. -/
structure Dyadic where
  mantissa : Nat
  exponent : Int
  narrowBelow : Bool
  deriving DecidableEq, Repr

namespace Dyadic

/-- The magnitude that the 64 bits of a finite double hold. -/
def ofBits (bits : Nat) : Dyadic :=
  let fraction : Nat := bits % Nat.pow 2 52
  let biased : Nat := bits / Nat.pow 2 52 % Nat.pow 2 11
  if biased = 0 then ⟨fraction, -1074, false⟩
  else ⟨Nat.pow 2 52 + fraction, (biased : Int) - 1075, fraction = 0 && 1 < biased⟩

/-- The magnitude of a finite double. -/
def ofFloat (x : Float) : Dyadic := ofBits x.toBits.toNat

/-- In quarters of the mantissa's unit: the lower end of the reals that round to the number. -/
def lower (d : Dyadic) : Nat := 4 * d.mantissa - if d.narrowBelow then 1 else 2

/-- In quarters of the mantissa's unit: the upper end of the reals that round to the number. -/
def upper (d : Dyadic) : Nat := 4 * d.mantissa + 2

/-- Whether the ends round to the number, too: halves go to the even mantissa. -/
def closed (d : Dyadic) : Bool := d.mantissa % 2 = 0

end Dyadic

end Calculator.Decimal
