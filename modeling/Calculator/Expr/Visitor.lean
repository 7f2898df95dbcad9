import Calculator.Expr

/-!
# Visiting expressions

A **visitor** has one action for each kind of leaf, and may wrap what happens at an operation
or a call: the wrapper is handed the descent into the operands and by default just performs it.
Walking an expression runs these actions from left to right in any monad, so a failure ends the
walk where it arises, and state is carried from leaf to leaf. Inner nodes descend to the
default outcome.

`leaves` lists what a walk meets.
-/

namespace Calculator

/-- A leaf of an expression. -/
inductive Leaf
  | literal (text : String)
  | constant (c : Constant)
  | variable
  deriving DecidableEq, Repr

/-- The text printed for a leaf. -/
def Leaf.text : Leaf → String
  | .literal text => text
  | .constant c => c.symbol
  | .variable => "X"

/-- What to do on a walk through an expression. -/
structure Visitor (m : Type → Type) (α : Type) where
  literal : String → m α
  constant : Constant → m α
  freeVariable : m α
  /-- Around the descent into the operands of an operation. -/
  binary : Expr → Operator → Expr → m α → m α := fun _ _ _ descend => descend
  /-- Around the descent into the argument of a call. -/
  call : Func → Expr → m α → m α := fun _ _ descend => descend

namespace Visitor

/-- The visitor that acts on leaves alone. -/
def onLeaves {m : Type → Type} {α : Type} (act : Leaf → m α) : Visitor m α where
  literal text := act (.literal text)
  constant c := act (.constant c)
  freeVariable := act .variable

/-- The visitor that does nothing. -/
def idle {m : Type → Type} [Monad m] {α : Type} [Inhabited α] : Visitor m α :=
  onLeaves fun _ => pure default

end Visitor

namespace Expr

/-- The leaves from left to right. -/
def leaves : Expr → List Leaf
  | .literal text => [.literal text]
  | .constant c => [.constant c]
  | .variable => [.variable]
  | .binary left _ right => left.leaves ++ right.leaves
  | .call _ argument => argument.leaves

section Walk

variable {m : Type → Type} [Monad m] {α : Type} [Inhabited α]

/-- Walk the expression. -/
def walk (v : Visitor m α) : Expr → m α
  | .literal text => v.literal text
  | .constant c => v.constant c
  | .variable => v.freeVariable
  | .binary left op right => v.binary left op right do
      let _ ← left.walk v
      let _ ← right.walk v
      return default
  | .call f argument => v.call f argument do
      let _ ← argument.walk v
      return default

/-- Walk what is below the root, and nothing at a leaf. -/
def walkOperands (v : Visitor m α) : Expr → m α
  | .binary left _ right => do
    let _ ← left.walk v
    let _ ← right.walk v
    return default
  | .call _ argument => do
    let _ ← argument.walk v
    return default
  | _ => return default

/-- Walk from the operation or call at the root. -/
def walkInside (v : Visitor m α) : Expr → m α
  | .binary left op right => v.binary left op right (walkOperands v (.binary left op right))
  | .call f argument => v.call f argument (walkOperands v (.call f argument))
  | leaf => leaf.walk v

end Walk

end Expr

end Calculator
