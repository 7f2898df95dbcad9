import Calculator.Decimal.Shortest

/-!
# Laying out numbers

How the digits of a number become text. A **layout** says for which sizes the number is written
positionally, and whether a whole number then keeps a point and a zero. Outside these sizes it
is written with one digit before the point and the power of ten after an `e`.

The calculator has two layouts: `result`, for a value on the display, and `coordinate`, for the
points of a graph.
-/

namespace Calculator.Decimal

/-- How numbers are written. -/
structure Layout where
  /-- Whether a first digit standing for this power of ten is written positionally. -/
  positional : Int → Bool
  /-- Whether a whole number in positional notation ends in a point and a zero. -/
  keepsPoint : Bool

namespace Layout

/-- Values are written positionally from 0.0001 up to, not including, 10¹⁶, and with a digit
after the point. -/
def result : Layout := ⟨fun power => -4 ≤ power && power < 16, true⟩

/-- Coordinates are written positionally whatever their size, whole ones without a point. -/
def coordinate : Layout := ⟨fun _ => true, false⟩

/-- Decimal digits, most significant first. -/
def digitsOf (n : Nat) : List Char := Nat.toDigits 10 n

def zeros (n : Nat) : List Char := List.replicate n '0'

/-- The end of a whole number. -/
def wholeEnd (l : Layout) : List Char := if l.keepsPoint then ['.', '0'] else []

/-- Positional notation of the digits `ds` with a last digit that stands for `10 ^ exponent`. -/
def positionally (l : Layout) (ds : List Char) (exponent : Int) : List Char :=
  if 0 ≤ exponent then ds ++ zeros exponent.toNat ++ l.wholeEnd
  else
    let places := (-exponent).toNat
    if places < ds.length then
      ds.take (ds.length - places) ++ '.' :: ds.drop (ds.length - places)
    else '0' :: '.' :: zeros (places - ds.length) ++ ds

/-- Notation with a power of ten, the first digit standing for `10 ^ power`. -/
def scientifically (ds : List Char) (power : Int) : List Char :=
  let mantissa := match ds with
    | [] => []
    | [d] => [d]
    | d :: rest => d :: '.' :: rest
  mantissa ++ 'e' :: (if power < 0 then '-' :: digitsOf power.natAbs else digitsOf power.natAbs)

/-- A decimal other than zero. -/
def magnitude (l : Layout) (d : Scaled) : List Char :=
  let ds := digitsOf d.digits
  let power := d.exponent + ds.length - 1
  if l.positional power then l.positionally ds d.exponent else scientifically ds power

/-- A finite double. -/
def finite (l : Layout) (x : Float) : List Char :=
  let sign := if Nat.pow 2 63 ≤ x.toBits.toNat then ['-'] else []
  sign ++ if x == 0 then '0' :: l.wholeEnd else l.magnitude (Dyadic.ofFloat x).shortest

/-- The text of a double. -/
def text (l : Layout) (x : Float) : String :=
  if x.isNaN then "NaN"
  else if x.isInf then (if x < 0 then "-inf" else "inf")
  else .ofList (l.finite x)

end Layout

end Calculator.Decimal
