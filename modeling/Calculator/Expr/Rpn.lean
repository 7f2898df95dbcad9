import Calculator.Expr.Visitor

/-!
# Reverse Polish order

An expression as the instructions of a stack machine: a leaf pushes itself, an operator replaces
the two topmost operands, the upper one being the right, and a function replaces the topmost.

This is the flat form in which whole trees are handed in and out where neither their text nor a
document will do: instructions build any tree, those that no text is read as included, and show it
as it is. Nothing is lost on the way, as running an expression's own instructions builds it again
(`ofRpn?_toRpn`). No other module depends on it.
-/

namespace Calculator

/-- One instruction of the stack machine. -/
inductive Instruction
  | push (leaf : Leaf)
  | combine (op : Operator)
  | apply (f : Func)
  deriving DecidableEq, Repr

namespace Expr

/-- The expression that is just a leaf. -/
def ofLeaf : Leaf → Expr
  | .literal text => .literal text
  | .constant c => .constant c
  | .variable => .variable

/-- The instructions that build the expression, noted down on a walk. -/
def rpnVisitor : Visitor (StateM (Array Instruction)) Unit :=
  { Visitor.onLeaves fun leaf => modify (·.push (.push leaf)) with
    binary := fun _ op _ descend => do
      descend
      modify (·.push (.combine op))
    call := fun f _ descend => do
      descend
      modify (·.push (.apply f)) }

/-- The instructions that build the expression. -/
def toRpn (e : Expr) : List Instruction := ((e.walk rpnVisitor).run #[]).2.toList

/-- Run instructions on a stack of expressions. -/
def runRpn : List Instruction → List Expr → Option (List Expr)
  | [], stack => some stack
  | .push leaf :: rest, stack => runRpn rest (ofLeaf leaf :: stack)
  | .combine op :: rest, right :: left :: stack => runRpn rest (.binary left op right :: stack)
  | .apply f :: rest, argument :: stack => runRpn rest (.call f argument :: stack)
  | _, _ => none

/-- The expression that instructions build, if they leave exactly one. -/
def ofRpn? (is : List Instruction) : Option Expr :=
  match runRpn is [] with
  | some [e] => some e
  | _ => none

theorem run_walk_binary (left right : Expr) (op : Operator) (done : Array Instruction) :
    ((Expr.binary left op right).walk rpnVisitor).run done =
      ((), ((right.walk rpnVisitor).run ((left.walk rpnVisitor).run done).2).2.push
        (.combine op)) := rfl

theorem run_walk_call (f : Func) (argument : Expr) (done : Array Instruction) :
    ((Expr.call f argument).walk rpnVisitor).run done =
      ((), ((argument.walk rpnVisitor).run done).2.push (.apply f)) := rfl

/-- A walk notes down instructions that push the expression. -/
theorem exists_rpn (e : Expr) (done : Array Instruction) :
    ∃ is, (e.walk rpnVisitor).run done = ((), done ++ is.toArray) ∧
      ∀ rest stack, runRpn (is ++ rest) stack = runRpn rest (e :: stack) := by
  induction e generalizing done with
  | literal text => exact ⟨[.push (.literal text)], rfl, fun _ _ => rfl⟩
  | constant c => exact ⟨[.push (.constant c)], rfl, fun _ _ => rfl⟩
  | «variable» => exact ⟨[.push .variable], rfl, fun _ _ => rfl⟩
  | binary left op right ihl ihr =>
    obtain ⟨ls, hl, hl'⟩ := ihl done
    obtain ⟨rs, hr, hr'⟩ := ihr (done ++ ls.toArray)
    refine ⟨ls ++ rs ++ [.combine op], ?_, fun rest stack => ?_⟩
    · rw [run_walk_binary, hl, hr]
      simp
    · simp [hl', hr', runRpn]
  | call f argument ih =>
    obtain ⟨is, h, h'⟩ := ih done
    refine ⟨is ++ [.apply f], ?_, fun rest stack => ?_⟩
    · rw [run_walk_call, h]
      simp
    · simp [h', runRpn]

/-- An expression's own instructions build it. -/
theorem ofRpn?_toRpn (e : Expr) : ofRpn? e.toRpn = some e := by
  obtain ⟨is, h, h'⟩ := exists_rpn e #[]
  have h'' := h' [] []
  simp only [List.append_nil, runRpn] at h''
  simp [ofRpn?, toRpn, h, h'']

end Expr

end Calculator
