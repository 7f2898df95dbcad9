/-!
# Reading numbers

Decimal text as the nearest double. A **numeral** has digits before and after a point, at least
one of them, and a power of ten; reading rounds its exact value once, halves to even.

- `fixed?` reads a numeral without sign and power, as it stands in an expression;
- `float?` reads what a command-line option may be: a sign, a numeral with or without power, or
  a name for infinity or NaN in any case;
- `natural?` reads a whole number below `2 ^ 64`.
-/

namespace Calculator.Decimal

/-- Digits around a point, and a power of ten. -/
structure Numeral where
  whole : List Char
  fraction : List Char
  power : Int

/-- The number that decimal digits stand for. -/
def natOfDigits (ds : List Char) : Nat :=
  ds.foldl (fun n d => 10 * n + (d.toNat - '0'.toNat)) 0

/-- The digits of a numeral without its point. -/
def Numeral.digits (n : Numeral) : List Char := n.whole ++ n.fraction

/-- The power of ten that the last digit of a numeral stands for, cut to where it still matters:
at and above `10 ^ 400` all but zero is infinite, and so many digits at and below
`10 ^ -400` are nearer to zero than to any other double. -/
def Numeral.lastPower (n : Numeral) : Int :=
  max (-400 - n.digits.length) (min 400 (n.power - n.fraction.length))

/-- The double nearest to the numeral. -/
def Numeral.toFloat (n : Numeral) : Float :=
  Float.ofScientific (natOfDigits n.digits) (n.lastPower < 0) n.lastPower.natAbs

/-- Digits around an optional point, and the text after them; `none` without any digit. -/
def readMantissa? (cs : List Char) : Option (List Char × List Char × List Char) :=
  let whole := cs.takeWhile Char.isDigit
  let (fraction, rest) := match cs.dropWhile Char.isDigit with
    | '.' :: after => (after.takeWhile Char.isDigit, after.dropWhile Char.isDigit)
    | after => ([], after)
  if whole.isEmpty && fraction.isEmpty then none else some (whole, fraction, rest)

/-- A whole numeral without sign and power of ten. -/
def readFixed? (cs : List Char) : Option Numeral :=
  match readMantissa? cs with
  | some (whole, fraction, []) => some ⟨whole, fraction, 0⟩
  | _ => none

/-- Digits, at least one, and nothing else. -/
def readDigits? (cs : List Char) : Option Nat :=
  if !cs.isEmpty && cs.all Char.isDigit then some (natOfDigits cs) else none

/-- A power of ten with an optional sign. -/
def readPower? : List Char → Option Int
  | '-' :: cs => (readDigits? cs).map fun n => -(n : Int)
  | '+' :: cs => (readDigits? cs).map fun n => (n : Int)
  | cs => (readDigits? cs).map fun n => (n : Int)

/-- A numeral without sign. -/
def readNumeral? (cs : List Char) : Option Numeral :=
  match readMantissa? cs with
  | none => none
  | some (whole, fraction, rest) =>
    match rest with
    | [] => some ⟨whole, fraction, 0⟩
    | c :: power =>
      if c = 'e' || c = 'E' then (readPower? power).map fun p => ⟨whole, fraction, p⟩ else none

/-- The value of an unsigned numeral of digits and at most one point. -/
def fixed? (text : String) : Option Float := (readFixed? text.toList).map Numeral.toFloat

/-- A name of infinity or NaN, in any case. -/
def named? (cs : List Char) : Option Float :=
  match String.ofList (cs.map Char.toLower) with
  | "inf" => some (1.0 / 0.0)
  | "infinity" => some (1.0 / 0.0)
  | "nan" => some (0.0 / 0.0)
  | _ => none

/-- A number without sign. -/
def unsigned? (cs : List Char) : Option Float :=
  (named? cs).or ((readNumeral? cs).map Numeral.toFloat)

/-- A number with an optional sign. -/
def float? (text : String) : Option Float :=
  match text.toList with
  | '-' :: cs => (unsigned? cs).map fun x => -x
  | '+' :: cs => unsigned? cs
  | cs => unsigned? cs

/-- A whole number that fits 64 bits, with an optional plus sign. -/
def natural? (text : String) : Option UInt64 :=
  let digits := match text.toList with
    | '+' :: cs => cs
    | cs => cs
  match readDigits? digits with
  | some n => if n < UInt64.size then some n.toUInt64 else none
  | none => none

end Calculator.Decimal
