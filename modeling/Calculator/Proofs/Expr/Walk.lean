import Calculator.Expr.Visitor
import Calculator.Proofs.Expr.Charge
import Calculator.Proofs.Parser.Acceptance

/-!
# The order of a walk

A walk that acts on leaves alone is the list of its actions, from left to right: the operations and
calls between them add nothing, and where an action fails nothing after it is done.

**Stateful actions.** An action changes a state and may fail; the state it leaves outlives a failure
(`Ending`). `visitAll` says what a list of leaves comes to, without a tree.

**Leaves and tokens.** Reading tokens keeps the order of the numbers and variables among them, so
the leaves of a parsed expression are these tokens (`Derives.leaves_eq`).

Main result: `walk_visits_leaves`.
-/

namespace Calculator

section Stateful

variable {σ ε α β : Type}

/-! ## Endings -/

/-- Whether an action succeeds, and the state that it leaves either way. -/
abbrev Ending (σ ε : Type) := Except ε Unit × σ

/-- How an action ends that begins in state `s`. -/
def ending (x : ExceptT ε (StateM σ) α) (s : σ) : Ending σ ε :=
  ((x.run.run s).1.map fun _ => (), (x.run.run s).2)

/-- Go on in the state that was left, but not after a failure. -/
def Ending.andThen (p : Ending σ ε) (next : σ → Ending σ ε) : Ending σ ε :=
  match p with
  | (.ok (), s) => next s
  | (.error e, s) => (.error e, s)

theorem Ending.andThen_assoc (p : Ending σ ε) (f g : σ → Ending σ ε) :
    (p.andThen f).andThen g = p.andThen fun s => (f s).andThen g := by
  obtain ⟨_ | _, s⟩ := p <;> rfl

theorem Ending.andThen_ok (p : Ending σ ε) : p.andThen (fun s => (.ok (), s)) = p := by
  obtain ⟨_ | _, s⟩ := p <;> rfl

/-- Two actions after one another. -/
theorem ending_bind (x : ExceptT ε (StateM σ) α) (y : ExceptT ε (StateM σ) β) (s : σ) :
    ending (x >>= fun _ => y) s = (ending x s).andThen (ending y) := by
  unfold ending
  rw [ExceptT.run_bind, StateT.run_bind]
  rcases x.run.run s with ⟨_ | _, s'⟩ <;> rfl

/-! ## Walks -/

/-- The action on each of the leaves in turn, up to the first failure. -/
def visitAll (act : Leaf → ExceptT ε (StateM σ) α) : List Leaf → σ → Ending σ ε
  | [], s => (.ok (), s)
  | l :: ls, s => (ending (act l) s).andThen (visitAll act ls)

variable (act : Leaf → ExceptT ε (StateM σ) α)

theorem visitAll_singleton (l : Leaf) : visitAll act [l] = ending (act l) := by
  funext s
  exact (ending (act l) s).andThen_ok

theorem visitAll_append (ls ms : List Leaf) (s : σ) :
    visitAll act (ls ++ ms) s = (visitAll act ls s).andThen (visitAll act ms) := by
  induction ls generalizing s with
  | nil => rfl
  | cons l ls ih =>
    rw [List.cons_append, visitAll, visitAll, Ending.andThen_assoc]
    congr 1
    funext s'
    exact ih s'

namespace Expr

variable [Inhabited α]

/-- **A walk acts on the leaves from left to right**, up to the first failure. -/
theorem ending_walk (e : Expr) (s : σ) :
    ending (e.walk (.onLeaves act)) s = visitAll act e.leaves s := by
  induction e generalizing s with
  | literal | constant | «variable» => exact (congrFun (visitAll_singleton act _) s).symm
  | binary left op right ihl ihr =>
    have hwalk : (binary left op right).walk (.onLeaves act) = do
        let _ ← left.walk (.onLeaves act)
        let _ ← right.walk (.onLeaves act)
        return default := rfl
    rw [hwalk, ending_bind, ihl, leaves, visitAll_append]
    congr 1
    funext s'
    rw [ending_bind, ihr]
    exact Ending.andThen_ok _
  | call f argument ih =>
    have hwalk : (call f argument).walk (.onLeaves act) = do
        let _ ← argument.walk (.onLeaves act)
        return default := rfl
    rw [hwalk, ending_bind, ih, leaves]
    exact Ending.andThen_ok _

/-- It makes no difference to begin at the operation or call inside the root. -/
theorem walkInside_eq_walk (e : Expr) :
    e.walkInside (.onLeaves act) = e.walk (.onLeaves act) := by
  cases e <;> rfl

end Expr

end Stateful

/-! ## Leaves and tokens -/

/-- The leaf that the text of a number stands for. -/
def Leaf.ofNumber (text : String) : Leaf :=
  match Constant.ofSymbol? text with
  | some c => .constant c
  | none => .literal text

/-- The leaf that a token stands for, which is a number or the variable. -/
def Token.leaf? (t : Token) : Option Leaf :=
  match t.kind with
  | .number => some (.ofNumber t.text)
  | .variable => some .variable
  | _ => none

theorem Leaf.ofNumber_symbol (c : Constant) : ofNumber c.symbol = .constant c := by
  simp [ofNumber]

theorem Leaf.ofNumber_of_ne {text : String} (h : ∀ c : Constant, text ≠ c.symbol) :
    ofNumber text = .literal text := by
  unfold ofNumber
  cases hc : Constant.ofSymbol? text with
  | none => rfl
  | some c => exact absurd (Constant.ofSymbol?_eq_some.1 hc) (h c)

/-- A leaf is shown as the number that it was read from. -/
theorem Leaf.text_ofNumber (text : String) : (ofNumber text).text = text := by
  by_cases h : ∃ c : Constant, text = c.symbol
  · obtain ⟨c, rfl⟩ := h
    rw [ofNumber_symbol, Leaf.text]
  · rw [ofNumber_of_ne (not_exists.1 h), Leaf.text]

/-- A leaf comes from a number with its text or from a variable. -/
theorem Token.leaf?_eq_some {t : Token} {l : Leaf} (h : t.leaf? = some l) :
    t.kind = .number ∧ l.text = t.text ∨ t.kind = .variable ∧ l = .variable := by
  unfold leaf? at h
  cases hkind : t.kind with
  | number =>
    rw [hkind] at h
    obtain rfl := Option.some.inj h
    exact .inl ⟨rfl, Leaf.text_ofNumber t.text⟩
  | «variable» =>
    rw [hkind] at h
    exact .inr ⟨rfl, (Option.some.inj h).symm⟩
  | operator | function | parenthesis =>
    rw [hkind] at h
    cases h

/-- **The leaves of what is derived are the numbers and variables among the tokens**, in their
order. -/
theorem Derives.leaves_eq {line : Line} {ts : List Token} {e : Expr} {c : Nat}
    (h : Derives line ts e c) : e.leaves = ts.filterMap Token.leaf? := by
  have hopen : Token.openParen.leaf? = none := rfl
  have hclose : Token.closeParen.leaf? = none := rfl
  have hoperator (symbol : String) : (Token.operator symbol).leaf? = none := rfl
  have hname (name : String) : (Token.function name).leaf? = none := rfl
  induction h with
  | constant k =>
    have hnumber : (Token.number k.symbol).leaf? = some (.constant k) :=
      congrArg some (Leaf.ofNumber_symbol k)
    simp [Expr.leaves, hnumber]
  | @literal text h =>
    have hnumber : (Token.number text).leaf? = some (.literal text) :=
      congrArg some (Leaf.ofNumber_of_ne h)
    simp [Expr.leaves, hnumber]
  | «variable» text => rfl
  | call f _ ih => simp [Expr.leaves, hname, hopen, hclose, ih]
  | group _ ih => simp [hopen, hclose, ih]
  | power _ _ ihl ihr | next _ _ _ ihl ihr => simp [Expr.leaves, hoperator, ihl, ihr]
  | base _ ih | first _ ih | chain _ ih => exact ih

/-- **A visitor with actions for the leaves alone visits them from left to right and stops at the
first failure**, whether the walk begins at the root or at the operation or call inside it: it ends
as its actions on the list of leaves do. The leaves of a parsed expression are the numbers and
variables among the tokens, in their order and with their texts. -/
theorem walk_visits_leaves :
    (∀ (σ ε α : Type) [Inhabited α] (act : Leaf → ExceptT ε (StateM σ) α) (e : Expr) (s : σ),
      ending (e.walk (.onLeaves act)) s = visitAll act e.leaves s ∧
        ending (e.walkInside (.onLeaves act)) s = visitAll act e.leaves s) ∧
    (∀ ts e, parse ts = .ok e → e.leaves = ts.filterMap Token.leaf?) ∧
    ∀ (t : Token) l, t.leaf? = some l →
      t.kind = .number ∧ l.text = t.text ∨ t.kind = .variable ∧ l = .variable := by
  refine ⟨fun σ ε α _ act e s => ⟨e.ending_walk act s, ?_⟩, fun ts e h => ?_,
    fun t l => Token.leaf?_eq_some⟩
  · rw [e.walkInside_eq_walk]
    exact e.ending_walk act s
  · obtain ⟨c, -, hderives⟩ := exists_derives_of_parse h
    exact hderives.leaves_eq

/-- A visitor that notes each leaf and refuses constants has noted the `2` of `2×(π-X)` alone. -/
theorem walk_visits_leaves_up_to_constant :
    let refuse : Leaf → ExceptT String (StateM (List Leaf)) Unit := fun l =>
      match l with
      | .constant c => throw c.symbol
      | l => modify (· ++ [l])
    let ts : List Token := [.number "2", .operator "×", .openParen, .number "π", .operator "-",
      .freeVariable, .closeParen]
    let e : Expr := .binary (.literal "2") .mul (.binary (.constant .pi) .sub .variable)
    parse ts = .ok e ∧ e.leaves = [.literal "2", .constant .pi, .variable] ∧
      ending (e.walk (.onLeaves refuse)) [] = (.error "π", [.literal "2"]) := by
  intro refuse ts e
  have hlit : ∀ text ∈ e.literals, ∀ k : Constant, text ≠ k.symbol := by
    intro text htext k
    obtain rfl := List.mem_singleton.1 htext
    cases k <;> decide
  have hparse : parse ts = .ok e := (Expr.derives_tokens hlit).parse_eq_ok (by decide)
  refine ⟨hparse, (walk_visits_leaves.2.1 ts e hparse).trans (by decide), ?_⟩
  exact (walk_visits_leaves.1 _ _ _ refuse e []).1.trans rfl

end Calculator
