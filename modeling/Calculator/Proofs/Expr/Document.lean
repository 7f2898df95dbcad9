import Calculator.Expr.Document
import Calculator.Proofs.Expr.Shape
import Calculator.Proofs.Json.Rereading

/-!
# Expressions through JSON

An expression survives being written as JSON and read back exactly if it is no deeper than 64
nodes (`ofJson?_toJson`), and nothing deeper comes out of any text. Both rest on one count: a leaf
is one container, and a node puts two around its operands, so an expression of height `h` takes
`2 * h - 1` of the 127 containers that a reader keeps.
-/

namespace Calculator.Expr

open Json (FitsIn ReadsBack PassesOver)

/-! ## What a document takes -/

theorem fitsIn_of_part? {allowance : Nat} {members : List (String × Json)} {name : String}
    {value : Json} (h : ∀ m ∈ members, FitsIn allowance m.2)
    (hvalue : Json.part? name members = some value) : FitsIn allowance value := by
  unfold Json.part? at hvalue
  split at hvalue
  · next hnamed =>
    cases hvalue
    exact h _ (Json.mem_of_mem_named (hnamed ▸ List.mem_singleton_self value))
  · cases hvalue

/-- A node is a container, and one around what it holds. -/
theorem fitsIn_of_node? {allowance : Nat} {manner : Json.Manner} {j : Json} {n : Json.Node}
    (h : FitsIn allowance j) (hn : j.node? manner = some n) :
    ∃ inner, allowance = inner + 1 ∧ ∀ held, n.held = some held → FitsIn inner held := by
  unfold Json.node? at hn
  split at hn
  · obtain ⟨inner, rfl, hmembers⟩ := h.object
    refine ⟨inner, rfl, fun held hheld => ?_⟩
    exact hmembers _ (List.mem_filter.1 (Json.mem_of_nodeOfMembers? hn hheld)).1
  · obtain ⟨inner, rfl, hitems⟩ := h.array
    obtain ⟨_, -, rfl⟩ := Option.map_eq_some_iff.1 hn
    refine ⟨inner, rfl, fun held hheld => ?_⟩
    cases hheld
    exact hitems _ (by simp)
  · cases hn

theorem fitsIn_of_pair? {allowance : Nat} {first second : String} {j a b : Json}
    (h : FitsIn allowance j) (hj : j.pair? first second = some (a, b)) :
    ∃ inner, allowance = inner + 1 ∧ FitsIn inner b := by
  unfold Json.pair? at hj
  split at hj
  · obtain ⟨inner, rfl, hmembers⟩ := h.object
    simp only [Option.bind_eq_bind, Option.bind_eq_some_iff] at hj
    obtain ⟨a, -, b, hb, hj⟩ := hj
    cases hj
    exact ⟨inner, rfl, fitsIn_of_part? hmembers hb⟩
  · obtain ⟨inner, rfl, hitems⟩ := h.array
    cases hj
    exact ⟨inner, rfl, hitems _ (by simp)⟩
  · cases hj

theorem fitsIn_of_triple? {allowance : Nat} {first second third : String} {j a b c : Json}
    (h : FitsIn allowance j) (hj : j.triple? first second third = some (a, b, c)) :
    ∃ inner, allowance = inner + 1 ∧ FitsIn inner a ∧ FitsIn inner c := by
  unfold Json.triple? at hj
  split at hj
  · obtain ⟨inner, rfl, hmembers⟩ := h.object
    simp only [Option.bind_eq_bind, Option.bind_eq_some_iff] at hj
    obtain ⟨a, ha, b, -, c, hc, hj⟩ := hj
    cases hj
    exact ⟨inner, rfl, fitsIn_of_part? hmembers ha, fitsIn_of_part? hmembers hc⟩
  · obtain ⟨inner, rfl, hitems⟩ := h.array
    cases hj
    exact ⟨inner, rfl, hitems _ (by simp), hitems _ (by simp)⟩
  · cases hj

theorem height_of_leafOfNode? {n : Json.Node} {e : Expr} (h : leafOfNode? n = some e) :
    e.height = 1 := by
  unfold leafOfNode? at h
  split at h
  · cases h
    rfl
  · obtain ⟨c, -, rfl⟩ := Option.map_eq_some_iff.1 h
    rfl
  · cases h
    rfl
  · cases h
    rfl
  · cases h

/-- **Every level of an expression takes two containers of its document**, the last one takes
one. -/
theorem two_mul_height_le {allowance : Nat} {manner : Json.Manner} {j : Json} {e : Expr}
    (h : FitsIn allowance j) (he : ofDocument? manner j = some e) :
    2 * e.height ≤ allowance + 1 := by
  -- Only operations and calls have operands; all else that is read is a leaf.
  fun_induction ofDocument? manner j generalizing allowance e with
  | case1 | case4 | case6 => cases he
  | case2 _ _ _ hn | case7 _ _ _ hn =>
    obtain ⟨inner, rfl, -⟩ := fitsIn_of_node? h hn
    rw [height_of_leafOfNode? he]
    omega
  | case3 manner j n hn held hheld _ hkind left operator right hp _ ihl ihr =>
    obtain ⟨a, rfl, hinner⟩ := fitsIn_of_node? h hn
    obtain ⟨b, rfl, hleft, hright⟩ := fitsIn_of_triple? (hinner held hheld) hp
    simp only [Option.bind_eq_bind, Option.bind_eq_some_iff] at he
    obtain ⟨l, hl, op, -, r, hr, he⟩ := he
    cases he
    have := ihl hleft hl
    have := ihr hright hr
    rw [height]
    omega
  | case5 manner j n hn held hheld _ _ hkind function argument hp _ ih =>
    obtain ⟨a, rfl, hinner⟩ := fitsIn_of_node? h hn
    obtain ⟨b, rfl, hargument⟩ := fitsIn_of_pair? (hinner held hheld) hp
    simp only [Option.bind_eq_bind, Option.bind_eq_some_iff] at he
    obtain ⟨f, -, x, hx, he⟩ := he
    cases he
    have := ih hargument hx
    rw [height]
    omega

/-! ## Reading documents -/

theorem node?_node (manner : Json.Manner) (kind : String) (held : Json) :
    (node kind held).node? manner = some ⟨kind, some held, manner⟩ := rfl

theorem ofDocument?_unkept (manner : Json.Manner) : ofDocument? manner .unkept = none := by
  rw [ofDocument?]
  split
  · rfl
  · next h => cases h

/-- What is made of a node, by its kind. -/
theorem ofDocument?_node (kind : String) (held : Json) :
    ofDocument? .direct (node kind held) =
      if kind = "BinaryOp" then
        (held.triple? "left" "operator" "right").bind fun (left, operator, right) => do
          let l ← ofDocument? .direct left
          let op ← operator.name? .direct >>= Operator.ofDocumentName?
          let r ← ofDocument? .direct right
          return .binary l op r
      else if kind = "Call" then
        (held.pair? "function" "argument").bind fun (function, argument) => do
          let f ← function.name? .direct >>= Func.ofDocumentName?
          let a ← ofDocument? .direct argument
          return .call f a
      else leafOfNode? ⟨kind, some held, .direct⟩ := by
  rw [ofDocument?]
  split
  · next h =>
    rw [node?_node] at h
    cases h
  · next n h =>
    rw [node?_node] at h
    cases h
    by_cases hbinary : kind = "BinaryOp"
    · simp only [if_pos hbinary]
      split
      · next hparts => rw [hparts, Option.bind_some]
      · next hparts => rw [hparts, Option.bind_none]
    · by_cases hcall : kind = "Call"
      · simp only [if_neg hbinary, if_pos hcall]
        split
        · next hparts => rw [hparts, Option.bind_some]
        · next hparts => rw [hparts, Option.bind_none]
      · simp only [if_neg hbinary, if_neg hcall]

theorem ofDocument?_variable :
    ofDocument? .direct (.object [("type", .string "Variable")]) = some .variable := by
  have hnode : Json.node? .direct (.object [("type", .string "Variable")]) =
      some ⟨"Variable", none, .direct⟩ := rfl
  rw [ofDocument?]
  split
  · next h =>
    rw [hnode] at h
    cases h
  · next n h =>
    rw [hnode] at h
    cases h
    rfl

/-- The record of an operation. -/
def operands (left : Json) (op : Operator) (right : Json) : Json :=
  .object [("left", left), ("operator", .string op.documentName), ("right", right)]

/-- The record of a call. -/
def application (f : Func) (argument : Json) : Json :=
  .object [("function", .string f.documentName), ("argument", argument)]

theorem ofDocument?_operands (left : Json) (op : Operator) (right : Json) :
    ofDocument? .direct (node "BinaryOp" (operands left op right)) =
      (ofDocument? .direct left).bind fun l => (ofDocument? .direct right).map (.binary l op) := by
  have hparts : (operands left op right).triple? "left" "operator" "right" =
      some (left, .string op.documentName, right) := rfl
  rw [ofDocument?_node, if_pos rfl, hparts]
  simp only [Option.bind_some]
  cases ofDocument? .direct left <;> cases ofDocument? .direct right <;> simp [Json.name?]

theorem ofDocument?_application (f : Func) (argument : Json) :
    ofDocument? .direct (node "Call" (application f argument)) =
      (ofDocument? .direct argument).map (.call f) := by
  have hparts : (application f argument).pair? "function" "argument" =
      some (.string f.documentName, argument) := rfl
  rw [ofDocument?_node, if_neg (by decide), if_pos rfl, hparts]
  simp only [Option.bind_some]
  cases ofDocument? .direct argument <;> simp [Json.name?]

/-- A node whose record was not kept. -/
theorem ofDocument?_node_unkept {kind : String} (h : kind = "BinaryOp" ∨ kind = "Call") :
    ofDocument? .direct (node kind .unkept) = none := by
  rcases h with rfl | rfl
  · rw [ofDocument?_node]
    rfl
  · rw [ofDocument?_node]
    rfl

/-! ## Writing and reading back

A document is made of strings and objects, so it is passed over and read back part by part. -/

theorem passesOver_node {value : Json} (kind : String) (h : PassesOver value) :
    PassesOver (node kind value) :=
  Json.passesOver_object (List.cons_ne_nil _ _) (by simp [Json.passesOver_string, h])

theorem passesOver_operands {left right : Json} (hleft : PassesOver left) (op : Operator)
    (hright : PassesOver right) : PassesOver (operands left op right) :=
  Json.passesOver_object (List.cons_ne_nil _ _) (by simp [Json.passesOver_string, hleft, hright])

theorem passesOver_application (f : Func) {argument : Json} (h : PassesOver argument) :
    PassesOver (application f argument) :=
  Json.passesOver_object (List.cons_ne_nil _ _) (by simp [Json.passesOver_string, h])

theorem passesOver_toDocument (e : Expr) : PassesOver e.toDocument := by
  induction e with
  | literal text => exact passesOver_node _ (Json.passesOver_string text)
  | constant c => exact passesOver_node _ (Json.passesOver_string c.documentName)
  | «variable» =>
    exact Json.passesOver_object (List.cons_ne_nil _ _) (by simp [Json.passesOver_string])
  | binary left op right ihl ihr => exact passesOver_node _ (passesOver_operands ihl op ihr)
  | call f argument ih => exact passesOver_node _ (passesOver_application f ih)

theorem readsBack_toDocument_zero (e : Expr) : ReadsBack 0 e.toDocument .unkept := by
  have h := passesOver_toDocument e
  cases e <;> exact Json.readsBack_deep (List.cons_ne_nil _ _) h

theorem readsBack_node {allowance : Nat} {value kept : Json} (kind : String)
    (h : ReadsBack allowance value kept) :
    ReadsBack (allowance + 1) (node kind value) (node kind kept) :=
  Json.readsBack_object (List.cons_ne_nil _ _)
    (.cons "type" (Json.readsBack_string allowance kind) (.cons "value" h .nil))

/-- **Of a printed expression a reader keeps what the expression can be made of again**, exactly
if the reader is allowed two containers for each level but the last. -/
theorem exists_readsBack_toDocument (e : Expr) (allowance : Nat) :
    ∃ kept, ReadsBack allowance e.toDocument kept ∧
      ofDocument? .direct kept = if 2 * e.height ≤ allowance + 1 then some e else none := by
  have hzero (e : Expr) : ∃ kept, ReadsBack 0 e.toDocument kept ∧
      ofDocument? .direct kept = if 2 * e.height ≤ 0 + 1 then some e else none := by
    have := e.height_pos
    refine ⟨.unkept, readsBack_toDocument_zero e, ?_⟩
    rw [ofDocument?_unkept, if_neg (by omega)]
  induction e generalizing allowance with
  | literal text =>
    cases allowance with
    | zero => exact hzero _
    | succ a =>
      refine ⟨_, readsBack_node "NumberLiteral" (Json.readsBack_string a text), ?_⟩
      rw [if_pos (by simp [height]), ofDocument?_node, if_neg (by decide), if_neg (by decide)]
      rfl
  | constant c =>
    cases allowance with
    | zero => exact hzero _
    | succ a =>
      refine ⟨_, readsBack_node "Constant" (Json.readsBack_string a c.documentName), ?_⟩
      rw [if_pos (by simp [height]), ofDocument?_node, if_neg (by decide), if_neg (by decide)]
      simp [leafOfNode?, Json.name?]
  | «variable» =>
    cases allowance with
    | zero => exact hzero _
    | succ a =>
      refine ⟨_, Json.readsBack_object (List.cons_ne_nil _ _)
        (.cons "type" (Json.readsBack_string a "Variable") .nil), ?_⟩
      rw [if_pos (by simp [height])]
      exact ofDocument?_variable
  | binary left op right ihl ihr =>
    rcases allowance with _ | _ | a
    · exact hzero _
    · -- The node is kept, but not the record in it.
      have hdeep := Json.readsBack_deep (List.cons_ne_nil _ _)
        (passesOver_operands (passesOver_toDocument left) op (passesOver_toDocument right))
      have := left.height_pos
      refine ⟨_, readsBack_node "BinaryOp" hdeep, ?_⟩
      rw [ofDocument?_node_unkept (.inl rfl), height, if_neg (by omega)]
    · obtain ⟨l, hl, hleft⟩ := ihl a
      obtain ⟨r, hr, hright⟩ := ihr a
      refine ⟨_, readsBack_node "BinaryOp" (Json.readsBack_object (List.cons_ne_nil _ _)
        (.cons "left" hl (.cons "operator" (Json.readsBack_string a op.documentName)
          (.cons "right" hr .nil)))), ?_⟩
      have hheight : 2 * (Expr.binary left op right).height ≤ a + 2 + 1 ↔
          2 * left.height ≤ a + 1 ∧ 2 * right.height ≤ a + 1 := by
        rw [height]
        omega
      refine (ofDocument?_operands l op r).trans ?_
      rw [hleft, hright]
      simp only [hheight]
      by_cases hl : 2 * left.height ≤ a + 1 <;> by_cases hr : 2 * right.height ≤ a + 1 <;>
        simp [hl, hr]
  | call f argument ih =>
    rcases allowance with _ | _ | a
    · exact hzero _
    · have hdeep := Json.readsBack_deep (List.cons_ne_nil _ _)
        (passesOver_application f (passesOver_toDocument argument))
      have := argument.height_pos
      refine ⟨_, readsBack_node "Call" hdeep, ?_⟩
      rw [ofDocument?_node_unkept (.inr rfl), height, if_neg (by omega)]
    · obtain ⟨x, hx, hargument⟩ := ih a
      refine ⟨_, readsBack_node "Call" (Json.readsBack_object (List.cons_ne_nil _ _)
        (.cons "function" (Json.readsBack_string a f.documentName) (.cons "argument" hx .nil))),
        ?_⟩
      have hheight : 2 * (Expr.call f argument).height ≤ a + 2 + 1 ↔
          2 * argument.height ≤ a + 1 := by
        rw [height]
        omega
      refine (ofDocument?_application f x).trans ?_
      rw [hargument]
      simp only [hheight]
      by_cases hx : 2 * argument.height ≤ a + 1 <;> simp [hx]

/-! ## JSON text -/

/-- **An expression comes back from its JSON exactly if it is not too deep.** -/
theorem ofJson?_toJson (e : Expr) : ofJson? e.toJson = if e.height ≤ 64 then some e else none := by
  obtain ⟨kept, hkept, hdocument⟩ := exists_readsBack_toDocument e Json.maxContainers
  have hheight : 2 * e.height ≤ Json.maxContainers + 1 ↔ e.height ≤ 64 := by
    rw [Json.maxContainers]
    omega
  simp only [hheight] at hdocument
  rw [← hdocument, ofJson?, toJson, Json.read?_render hkept]
  rfl

/-- **No text gives an expression that is too deep.** -/
theorem height_le_of_ofJson? {text : String} {e : Expr} (h : ofJson? text = some e) :
    e.height ≤ 64 := by
  obtain ⟨j, hread, hdocument⟩ := Option.bind_eq_some_iff.1 h
  have hfits := Json.fitsIn_of_read? hread
  have := two_mul_height_le hfits hdocument
  rw [Json.maxContainers] at this
  omega

/-- **JSON keeps expressions of up to 64 levels and gives no others**: writing and reading back
takes an expression to itself, or to nothing if it is deeper; and whatever is read from a text, in
any of the forms that are read, is no deeper and can be written and read back. -/
theorem json_round_trip :
    (∀ e, ofJson? e.toJson = if (Shape.of e).depth ≤ 64 then some e else none) ∧
      ∀ text e, ofJson? text = some e →
        (Shape.of e).depth ≤ 64 ∧ ofJson? e.toJson = some e := by
  refine ⟨fun e => ?_, fun text e h => ?_⟩
  · rw [Shape.depth_of, ofJson?_toJson]
  · have hheight := height_le_of_ofJson? h
    rw [Shape.depth_of, ofJson?_toJson, if_pos hheight]
    exact ⟨hheight, rfl⟩

/-- Of calls of the sine, 63 around the variable are as many as come back. -/
theorem json_round_trip_at_limit :
    let nest (n : Nat) : Expr := Nat.repeat (.call .sin) n .variable
    ofJson? (nest 63).toJson = some (nest 63) ∧ (Shape.of (nest 63)).depth ≤ 64 ∧
      ofJson? (nest 64).toJson = none := by
  intro nest
  have hinside : (nest 63).height ≤ 64 := by decide
  have houtside : ¬ (nest 64).height ≤ 64 := by decide
  have h : ofJson? (nest 63).toJson = some (nest 63) := by
    rw [json_round_trip.1, if_pos (by rwa [Shape.depth_of])]
  refine ⟨h, (json_round_trip.2 _ _ h).1, ?_⟩
  rw [json_round_trip.1, if_neg (by rwa [Shape.depth_of])]

end Calculator.Expr
