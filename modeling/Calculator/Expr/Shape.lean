import Calculator.Expr.Visitor

/-!
# The shape of an expression

A walk measures an expression: it counts the nodes, keeps the greatest level reached and notes
the variable (`Shape.of`). The three facts have definitions of their own by recursion on the
expression: `size`, `height` and `mentionsVariable`.
-/

namespace Calculator

/-- How large an expression is and whether it varies. -/
structure Shape where
  /-- How many nodes there are. -/
  nodes : Nat
  /-- How many nodes the longest path from the root to a leaf has. -/
  depth : Nat
  usesVariable : Bool
  deriving DecidableEq, Repr

namespace Shape

/-- What a walk has measured so far, and the level of the node it stands at. -/
structure Survey where
  shape : Shape
  level : Nat

/-- Count the node the walk stands at. -/
def Survey.count (s : Survey) : Survey :=
  { s with shape := { s.shape with
      nodes := s.shape.nodes + 1
      depth := max s.shape.depth (s.level + 1) } }

/-- Count a node and walk its operands one level below. -/
def enter (descend : StateM Survey Unit) : StateM Survey Unit := do
  modify Survey.count
  modify fun s => { s with level := s.level + 1 }
  descend
  modify fun s => { s with level := s.level - 1 }

/-- The visitor that measures. -/
def surveyor : Visitor (StateM Survey) Unit where
  literal _ := modify Survey.count
  constant _ := modify Survey.count
  freeVariable := do
    modify fun s => { s with shape := { s.shape with usesVariable := true } }
    modify Survey.count
  binary _ _ _ descend := enter descend
  call _ _ descend := enter descend

/-- The shape of an expression. -/
def of (e : Expr) : Shape := ((e.walk surveyor).run ⟨⟨0, 0, false⟩, 0⟩).2.shape

end Shape

namespace Expr

/-- The number of nodes. -/
def size : Expr → Nat
  | .binary left _ right => left.size + right.size + 1
  | .call _ argument => argument.size + 1
  | _ => 1

/-- The number of nodes on the longest path from the root to a leaf. -/
def height : Expr → Nat
  | .binary left _ right => max left.height right.height + 1
  | .call _ argument => argument.height + 1
  | _ => 1

/-- Whether the variable occurs. -/
def mentionsVariable : Expr → Bool
  | .variable => true
  | .binary left _ right => left.mentionsVariable || right.mentionsVariable
  | .call _ argument => argument.mentionsVariable
  | _ => false

end Expr

end Calculator
