import Calculator.Expr
import Calculator.Json.Loading
import Calculator.Json.Printer
import Calculator.Json.Reader

/-!
# Expressions as JSON documents

**Writing.** A node is an object with its kind under `type` and what it holds under `value`: the
text of a literal, the name of a constant, nothing for the variable, and for an operation or a
call an object of its parts.

**Reading** is freer. Members may come in any order, members with other names are ignored, and a
node or a **record** may be an array of its parts in order. A known name must not come twice. A
**name** may be given as an object with that one name and `null`. The variable may hold `null`.

**Manners.** A node is read as it comes where its kind stands first. Where it stands second, what
the node holds has to be loaded before it is known what it is; in a value that was loaded, the
object that gives a name may hold an empty object instead of `null`, and an array may give the
kind of a node by its number.
-/

namespace Calculator

/-! ## Names -/

namespace Operator

def documentName : Operator → String
  | .add => "Add"
  | .sub => "Sub"
  | .mul => "Mul"
  | .div => "Div"
  | .pow => "Pow"

def ofDocumentName? : String → Option Operator
  | "Add" => some .add
  | "Sub" => some .sub
  | "Mul" => some .mul
  | "Div" => some .div
  | "Pow" => some .pow
  | _ => none

@[simp] theorem ofDocumentName?_documentName (o : Operator) :
    ofDocumentName? o.documentName = some o := by
  cases o <;> rfl

end Operator

namespace Func

def documentName : Func → String
  | .sin => "Sin"
  | .cos => "Cos"
  | .tan => "Tan"
  | .log => "Log"
  | .ln => "Ln"
  | .sqrt => "Sqrt"

def ofDocumentName? : String → Option Func
  | "Sin" => some .sin
  | "Cos" => some .cos
  | "Tan" => some .tan
  | "Log" => some .log
  | "Ln" => some .ln
  | "Sqrt" => some .sqrt
  | _ => none

@[simp] theorem ofDocumentName?_documentName (f : Func) :
    ofDocumentName? f.documentName = some f := by
  cases f <;> rfl

end Func

namespace Constant

def documentName : Constant → String
  | .e => "E"
  | .pi => "Pi"

def ofDocumentName? : String → Option Constant
  | "E" => some .e
  | "Pi" => some .pi
  | _ => none

@[simp] theorem ofDocumentName?_documentName (c : Constant) :
    ofDocumentName? c.documentName = some c := by
  cases c <;> rfl

end Constant

namespace Json

/-! ## Parts of documents -/

/-- How a value is read. -/
inductive Manner
  /-- As it comes. -/
  | direct
  /-- After it was loaded as a whole. -/
  | loaded
  deriving DecidableEq, Repr

/-- Whether a value may stand where only a name matters. -/
def isFiller : Manner → Json → Bool
  | _, .null => true
  | .loaded, .object [] => true
  | _, _ => false

/-- The name that a value gives. -/
def name? (manner : Manner) : Json → Option String
  | .string text => some text
  | .object [(key, value)] => if value.isFiller manner then some key else none
  | _ => none

/-- The kinds of nodes by their numbers. -/
def numberedKind? : String → Option String
  | "0" => some "NumberLiteral"
  | "1" => some "Constant"
  | "2" => some "Variable"
  | "3" => some "BinaryOp"
  | "4" => some "Call"
  | _ => none

/-- The kind of a node that is an array. -/
def listedKind? : Manner → Json → Option String
  | _, .string text => some text
  | .loaded, .number text => numberedKind? text
  | _, _ => none

/-- A node: its kind, and what it holds with the manner to read that in. -/
structure Node where
  kind : String
  held : Option Json
  manner : Manner

/-- The node of an object without its other members. -/
def nodeOfMembers? (manner : Manner) : List (String × Json) → Option Node
  | [("type", kind)] => (kind.name? manner).map (⟨·, none, manner⟩)
  | [("type", kind), ("value", held)] => (kind.name? manner).map (⟨·, some held, manner⟩)
  | [("value", held), ("type", kind)] =>
    if held.isLoadable then (kind.name? manner).map (⟨·, some held, .loaded⟩) else none
  | _ => none

/-- Whether a member belongs to a node. -/
def isNodeMember (member : String × Json) : Bool := member.1 = "type" || member.1 = "value"

/-- The node that a value describes. -/
def node? (manner : Manner) : Json → Option Node
  | .object members => nodeOfMembers? manner (members.filter isNodeMember)
  | .array [kind, held] => (listedKind? manner kind).map (⟨·, some held, manner⟩)
  | _ => none

/-- The part of a record with a name, which must be there once. -/
def part? (name : String) (members : List (String × Json)) : Option Json :=
  match named name members with
  | [value] => some value
  | _ => none

/-- The parts of a record of two. -/
def pair? (first second : String) : Json → Option (Json × Json)
  | .object members => do
    let a ← part? first members
    let b ← part? second members
    return (a, b)
  | .array [a, b] => some (a, b)
  | _ => none

/-- The parts of a record of three. -/
def triple? (first second third : String) : Json → Option (Json × Json × Json)
  | .object members => do
    let a ← part? first members
    let b ← part? second members
    let c ← part? third members
    return (a, b, c)
  | .array [a, b, c] => some (a, b, c)
  | _ => none

/-! ## Parts are smaller -/

theorem sizeOf_lt_of_mem {member : String × Json} {members : List (String × Json)}
    (h : member ∈ members) : sizeOf member.2 < sizeOf (Json.object members) := by
  have := List.sizeOf_lt_of_mem h
  obtain ⟨key, value⟩ := member
  simp only [Prod.mk.sizeOf_spec] at this
  simp only [Json.object.sizeOf_spec]
  omega

theorem mem_of_mem_named {name : String} {members : List (String × Json)} {value : Json}
    (h : value ∈ named name members) : (name, value) ∈ members := by
  induction members with
  | nil => simp [named] at h
  | cons m members ih =>
    obtain ⟨key, v⟩ := m
    simp only [named] at h
    split at h
    · next hk =>
      rcases List.mem_cons.1 h with rfl | h
      · simp [hk]
      · exact List.mem_cons_of_mem _ (ih h)
    · exact List.mem_cons_of_mem _ (ih h)

theorem sizeOf_lt_of_part? {name : String} {members : List (String × Json)} {value : Json}
    (h : part? name members = some value) : sizeOf value < sizeOf (Json.object members) := by
  unfold part? at h
  split at h
  · next hn =>
    cases h
    exact sizeOf_lt_of_mem (mem_of_mem_named (hn ▸ List.mem_singleton_self _))
  · simp at h

theorem mem_of_nodeOfMembers? {manner : Manner} {members : List (String × Json)} {n : Node}
    {value : Json} (h : nodeOfMembers? manner members = some n) (hv : n.held = some value) :
    ("value", value) ∈ members := by
  unfold nodeOfMembers? at h
  split at h
  · obtain ⟨_, -, rfl⟩ := Option.map_eq_some_iff.1 h
    simp at hv
  · obtain ⟨_, -, rfl⟩ := Option.map_eq_some_iff.1 h
    cases hv
    simp
  · split at h
    · obtain ⟨_, -, rfl⟩ := Option.map_eq_some_iff.1 h
      cases hv
      simp
    · simp at h
  · simp at h

theorem sizeOf_lt_of_node? {manner : Manner} {j value : Json} {n : Node}
    (h : j.node? manner = some n) (hv : n.held = some value) : sizeOf value < sizeOf j := by
  unfold node? at h
  split at h
  · exact sizeOf_lt_of_mem ((List.mem_filter.1 (mem_of_nodeOfMembers? h hv)).1)
  · obtain ⟨_, -, rfl⟩ := Option.map_eq_some_iff.1 h
    cases hv
    simp only [Json.array.sizeOf_spec, List.cons.sizeOf_spec]
    omega
  · simp at h

theorem sizeOf_lt_of_pair? {first second : String} {j a b : Json}
    (h : j.pair? first second = some (a, b)) : sizeOf a < sizeOf j ∧ sizeOf b < sizeOf j := by
  unfold pair? at h
  split at h
  · simp only [Option.bind_eq_bind, Option.bind_eq_some_iff] at h
    obtain ⟨x, hx, y, hy, h⟩ := h
    cases h
    exact ⟨sizeOf_lt_of_part? hx, sizeOf_lt_of_part? hy⟩
  · cases h
    simp only [Json.array.sizeOf_spec, List.cons.sizeOf_spec]
    omega
  · simp at h

theorem sizeOf_lt_of_triple? {first second third : String} {j a b c : Json}
    (h : j.triple? first second third = some (a, b, c)) :
    sizeOf a < sizeOf j ∧ sizeOf b < sizeOf j ∧ sizeOf c < sizeOf j := by
  unfold triple? at h
  split at h
  · simp only [Option.bind_eq_bind, Option.bind_eq_some_iff] at h
    obtain ⟨x, hx, y, hy, z, hz, h⟩ := h
    cases h
    exact ⟨sizeOf_lt_of_part? hx, sizeOf_lt_of_part? hy, sizeOf_lt_of_part? hz⟩
  · cases h
    simp only [Json.array.sizeOf_spec, List.cons.sizeOf_spec]
    omega
  · simp at h

end Json

namespace Expr

/-! ## Writing -/

/-- A node of a kind that holds something. -/
def node (kind : String) (value : Json) : Json :=
  .object [("type", .string kind), ("value", value)]

/-- The document of an expression. -/
def toDocument : Expr → Json
  | .literal text => node "NumberLiteral" (.string text)
  | .constant c => node "Constant" (.string c.documentName)
  | .variable => .object [("type", .string "Variable")]
  | .binary left op right => node "BinaryOp" (.object [
      ("left", left.toDocument), ("operator", .string op.documentName),
      ("right", right.toDocument)])
  | .call f argument => node "Call" (.object [
      ("function", .string f.documentName), ("argument", argument.toDocument)])

/-- The expression as JSON text. -/
def toJson (e : Expr) : String := e.toDocument.render

/-! ## Reading -/

/-- A node that holds no other: a literal, a constant or the variable. -/
def leafOfNode? (n : Json.Node) : Option Expr :=
  match n.kind, n.held with
  | "NumberLiteral", some (.string text) => some (.literal text)
  | "Constant", some held => (held.name? n.manner >>= Constant.ofDocumentName?).map .constant
  | "Variable", none => some .variable
  | "Variable", some .null => some .variable
  | _, _ => none

/-- The expression of a document, read in a manner. -/
def ofDocument? (manner : Json.Manner) (j : Json) : Option Expr :=
  match hj : j.node? manner with
  | none => none
  | some n =>
    match hn : n.held with
    | none => leafOfNode? n
    | some held =>
      have := Json.sizeOf_lt_of_node? hj hn
      if n.kind = "BinaryOp" then
        match hp : held.triple? "left" "operator" "right" with
        | some (left, operator, right) =>
          have := Json.sizeOf_lt_of_triple? hp
          do
            let l ← ofDocument? n.manner left
            let op ← operator.name? n.manner >>= Operator.ofDocumentName?
            let r ← ofDocument? n.manner right
            return .binary l op r
        | none => none
      else if n.kind = "Call" then
        match hp : held.pair? "function" "argument" with
        | some (function, argument) =>
          have := Json.sizeOf_lt_of_pair? hp
          do
            let f ← function.name? n.manner >>= Func.ofDocumentName?
            let a ← ofDocument? n.manner argument
            return .call f a
        | none => none
      else leafOfNode? n
termination_by sizeOf j
decreasing_by all_goals omega

/-- The expression of a JSON text. -/
def ofJson? (text : String) : Option Expr := Json.read? text >>= ofDocument? .direct

end Expr

end Calculator
