/-!
# Reading with progress

What a reading step leaves: a value, and the part of the input after it, which is shorter than
a **bound**. The bound is the length of the input where the step must have consumed something,
so that a reader that calls itself on the rest ends.
-/

namespace Calculator

/-- A value read from a list and the rest of the list, shorter than `bound`. -/
structure Progress (σ α : Type) (bound : Nat) where
  value : α
  rest : List σ
  shorter : rest.length < bound

namespace Progress

variable {σ α β : Type} {m n : Nat}

/-- The same step under a larger bound. -/
def relax (p : Progress σ α m) (h : m ≤ n) : Progress σ α n :=
  ⟨p.value, p.rest, Nat.lt_of_lt_of_le p.shorter h⟩

/-- The same step with another value. -/
def map (f : α → β) (p : Progress σ α n) : Progress σ β n := ⟨f p.value, p.rest, p.shorter⟩

/-- What was read, without the proof that it was something. -/
def toProd (p : Progress σ α n) : α × List σ := (p.value, p.rest)

end Progress

end Calculator
