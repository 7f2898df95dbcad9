import Calculator.Proofs.Parser.Acceptance
import Calculator.Proofs.Parser.Reading

/-!
# The contract of a cursor

What holds of a cursor whatever was done with it: tokens taken, levels gone down, the depth set to
anything, expressions read, with success or not.

**The place** (`Reaches`). An action takes tokens from the front of those left and counts them, or
none at all, so a cursor stands within its tokens and never moves back.

**The end of a reading** (`Parser.Run.endsAt`). A chain ends only where none of its operators comes
next, and its last operand only where no tighter one does. So after a whole expression comes no
operator at all.

Main result: `start_after_contract`.
-/

namespace Calculator

open Calculator.Parser

/-! ## Where a parser stops -/

theorem operatorAt?_eq_none_iff {accepted : List Operator} {ts : List Token} :
    operatorAt? accepted ts = none ↔
      ∀ op ∈ accepted, ts.head? ≠ some (.operator op.symbol) := by
  constructor
  · intro h op hop hts
    obtain ⟨rest, rfl⟩ := List.head?_eq_some_iff.1 hts
    exact absurd (h.symm.trans (operatorAt?_cons_operator hop rest)) nofun
  · intro h
    cases hat : operatorAt? accepted ts with
    | none => rfl
    | some op =>
      obtain ⟨hop, rest, rfl⟩ := operatorAt?_eq_some.1 hat
      exact absurd rfl (h op hop)

theorem operatorAt?_append_eq_none {accepted more : List Operator} {ts : List Token}
    (h : operatorAt? accepted ts = none) (hmore : operatorAt? more ts = none) :
    operatorAt? (accepted ++ more) ts = none := by
  rw [operatorAt?_eq_none_iff] at h hmore ⊢
  exact List.forall_mem_append.2 ⟨h, hmore⟩

namespace Parser

/-- No operator that continues what a goal asks for is at the head of the tokens `us` it leaves of
`ts`. Links begin where an operand ended. -/
def Goal.EndsAt (ts us : List Token) : Goal → Prop
  | .chain tier => operatorAt? (Line.chain tier).absorbed us = none
  | .links tier _ => operatorAt? tier.tighter ts = none →
      operatorAt? (Line.chain tier).absorbed us = none
  | .factor => operatorAt? [.pow] us = none
  | .primary | .group _ => True

theorem Goal.endsAt_operand {tier : Tier} {ts us : List Token} :
    (Goal.operand tier).EndsAt ts us ↔ operatorAt? tier.tighter us = none := by
  cases tier <;> rfl

/-- **A parser stops only where no operator continues what it read.** -/
theorem Run.endsAt {goal : Goal} {d : Nat} {ts us : List Token} {e : Expr}
    (h : Run goal d ts (.ok (e, us))) : goal.EndsAt ts us := by
  generalize ha : Except.ok (e, us) = a at h
  induction h generalizing e us with
  | firstRefused | linkTooDeep | linkRefused | baseRefused | powerTooDeep | exponentRefused
  | ended | unexpected | bare | argumentRefused | groupTooDeep | innerRefused | unclosed =>
    cases ha
  | chain _ _ ihf ihl => exact ihl ha (Goal.endsAt_operand.1 (ihf rfl))
  | linksEnd hend =>
    cases ha
    exact operatorAt?_append_eq_none hend
  | link _ _ _ _ ihr ihl => exact fun _ => ihl ha (Goal.endsAt_operand.1 (ihr rfl))
  | base _ hus _ =>
    cases ha
    exact hus
  | power _ _ _ _ ihe =>
    cases ha
    exact ihe rfl
  | number | «variable» | call | group | closed => trivial

/-- After a whole expression comes no operator. -/
theorem Run.head?_ne_operator {d : Nat} {ts us : List Token} {e : Expr}
    (h : Run (.chain .sum) d ts (.ok (e, us))) (op : Operator) :
    us.head? ≠ some (.operator op.symbol) := by
  have hop : op ∈ Line.expression.absorbed := by cases op <;> decide
  exact operatorAt?_eq_none_iff.1 h.endsAt op hop

end Parser

namespace Cursor

variable {c c' c'' : Cursor}

/-! ## Moving a cursor -/

/-- What can be done with a cursor. -/
inductive Action
  | next
  | descend
  | restoreDepth (depth : Nat)
  | parseExpression

/-- The cursor after an action. -/
def perform (c : Cursor) : Action → Cursor
  | .next => c.next.2
  | .descend => c.descend.2
  | .restoreDepth depth => c.restoreDepth depth
  | .parseExpression => c.parseExpression.2

/-- The cursor after some actions. -/
def after (c : Cursor) (actions : List Action) : Cursor := actions.foldl perform c

/-- Taking tokens leads from the one cursor to the other, whatever their depths. -/
def Reaches (c c' : Cursor) : Prop :=
  ∃ taken, c.rest = taken ++ c'.rest ∧ c'.position = c.position + taken.length

theorem reaches_of_eq (hrest : c'.rest = c.rest) (hposition : c'.position = c.position) :
    c.Reaches c' := ⟨[], hrest.symm, hposition⟩

namespace Reaches

theorem trans (h : c.Reaches c') (h' : c'.Reaches c'') : c.Reaches c'' := by
  obtain ⟨taken, hrest, hposition⟩ := h
  obtain ⟨more, hrest', hposition'⟩ := h'
  refine ⟨taken ++ more, ?_, ?_⟩
  · rw [hrest, hrest', List.append_assoc]
  · rw [hposition', hposition, List.length_append, Nat.add_assoc]

theorem position_le (h : c.Reaches c') : c.position ≤ c'.position := by
  obtain ⟨taken, -, hposition⟩ := h
  exact hposition ▸ Nat.le_add_right _ _

/-- A cursor led to from the start stands within the tokens, and those from there on are left. -/
theorem rest_eq_drop {ts : List Token} (h : (start ts).Reaches c) :
    c.position ≤ ts.length ∧ c.rest = ts.drop c.position := by
  obtain ⟨taken, hts, hposition⟩ := h
  obtain rfl : ts = taken ++ c.rest := hts
  rw [hposition, start, Nat.zero_add, List.drop_left, List.length_append]
  exact ⟨Nat.le_add_right _ _, rfl⟩

end Reaches

theorem reaches_next (c : Cursor) : c.Reaches c.next.2 := by
  unfold next
  cases hrest : c.rest with
  | nil => exact reaches_of_eq rfl rfl
  | cons t rest => exact ⟨[t], hrest, rfl⟩

theorem reaches_descend (c : Cursor) : c.Reaches c.descend.2 := by
  refine reaches_of_eq c.rest_descend ?_
  unfold descend
  split <;> rfl

/-- Reading an expression gives what a parser answers. -/
theorem gives_parseExpression {a : Answer} (h : Run (.chain .sum) c.depth c.rest a) :
    Gives c.position c.rest a c.depth c.parseExpression := reads_of_run h c.position

theorem exists_gives_parseExpression (c : Cursor) :
    ∃ a, Run (.chain .sum) c.depth c.rest a ∧
      Gives c.position c.rest a c.depth c.parseExpression := by
  obtain ⟨a, h⟩ := exists_run (.chain .sum) c.depth c.rest
  exact ⟨a, h, gives_parseExpression h⟩

theorem reaches_parseExpression (c : Cursor) : c.Reaches c.parseExpression.2 := by
  obtain ⟨a, -, taken, hrest, ho⟩ := c.exists_gives_parseExpression
  rw [ho]
  exact ⟨taken, hrest, rfl⟩

/-- **No action moves a cursor back.** -/
theorem reaches_perform (c : Cursor) (action : Action) : c.Reaches (c.perform action) := by
  cases action with
  | next => exact c.reaches_next
  | descend => exact c.reaches_descend
  | restoreDepth depth => exact reaches_of_eq rfl rfl
  | parseExpression => exact c.reaches_parseExpression

theorem reaches_after (c : Cursor) (actions : List Action) : c.Reaches (c.after actions) := by
  induction actions generalizing c with
  | nil => exact reaches_of_eq rfl rfl
  | cons action actions ih => exact (c.reaches_perform action).trans (ih _)

/-! ## Reading an expression -/

/-- **Reading leaves the depth as it was**, whether it succeeds or not. -/
theorem depth_parseExpression (c : Cursor) : c.parseExpression.2.depth = c.depth := by
  obtain ⟨a, -, taken, -, ho⟩ := c.exists_gives_parseExpression
  rw [ho]

/-- An expression is read exactly where a parser answers with it. -/
theorem parseExpression_eq_ok_iff {e : Expr} :
    c.parseExpression.1 = .ok e ↔ ∃ us, Run (.chain .sum) c.depth c.rest (.ok (e, us)) := by
  constructor
  · intro h
    obtain ⟨a, hrun, taken, -, ho⟩ := c.exists_gives_parseExpression
    rw [ho] at h
    cases a with
    | error f => cases h
    | ok p =>
      cases h
      exact ⟨p.2, hrun⟩
  · rintro ⟨us, hrun⟩
    obtain ⟨taken, -, ho⟩ := gives_parseExpression hrun
    rw [ho]
    rfl

/-- **What is read makes the expression.** It is at least one token, and no operator comes next. -/
theorem of_parseExpression_eq_ok {e : Expr} (h : c.parseExpression.1 = .ok e) :
    ∃ taken, c.rest = taken ++ c.parseExpression.2.rest ∧
      c.parseExpression.2.position = c.position + taken.length ∧ 0 < taken.length ∧
      (∃ charge ≤ maxNesting - c.depth, Derives .expression taken e charge) ∧
      ∀ op : Operator, c.parseExpression.2.rest.head? ≠ some (.operator op.symbol) := by
  obtain ⟨us, hrun⟩ := parseExpression_eq_ok_iff.1 h
  have hshorter : c.parseExpression.2.rest.length < c.rest.length := (c.readChain .sum).shorter e h
  obtain ⟨taken, hrest, ho⟩ := gives_parseExpression hrun
  obtain ⟨taken', hrest', hderives⟩ := hrun.sound
  obtain rfl := List.append_cancel_right (hrest.symm.trans hrest')
  rw [ho] at hshorter ⊢
  rw [hrest, List.length_append, Nat.lt_add_left_iff_pos] at hshorter
  exact ⟨taken, hrest, rfl, hshorter, hderives, hrun.head?_ne_operator⟩

/-- **An error lies where the cursor stands.** -/
theorem position_of_parseExpression_eq_error {err : SyntaxError}
    (h : c.parseExpression.1 = .error err) : c.parseExpression.2.position = err.position := by
  obtain ⟨a, -, taken, -, ho⟩ := c.exists_gives_parseExpression
  rw [ho] at h ⊢
  cases a with
  | error f =>
    cases h
    rfl
  | ok p => cases h

/-! ## The contract -/

/-- **The contract of a cursor.** Whatever was done with it since the start, it stands within the
tokens, and it never moves back. Reading an expression leaves the depth as it was. Where it
succeeds, the tokens taken make the expression, there is at least one, and no operator comes next;
where it fails, the cursor stands at the error and has not passed it. -/
theorem start_after_contract (ts : List Token) (actions : List Action) :
    let c := (start ts).after actions
    let stopped := c.parseExpression.2
    (c.position ≤ ts.length ∧ c.rest = ts.drop c.position) ∧
    (∀ more, c.position ≤ (c.after more).position) ∧
    stopped.depth = c.depth ∧
    (∀ e, c.parseExpression.1 = .ok e →
      c.position < stopped.position ∧
      (∃ charge ≤ maxNesting - c.depth,
        Derives .expression ((ts.take stopped.position).drop c.position) e charge) ∧
      ∀ op : Operator, ts[stopped.position]? ≠ some (.operator op.symbol)) ∧
    ∀ err, c.parseExpression.1 = .error err →
      c.position ≤ err.position ∧ stopped.position = err.position := by
  intro c stopped
  have hc : (start ts).Reaches c := (start ts).reaches_after actions
  have hstopped : c.Reaches stopped := c.reaches_parseExpression
  refine ⟨hc.rest_eq_drop, fun more => (c.reaches_after more).position_le, c.depth_parseExpression,
    fun e he => ?_, fun err herr => ?_⟩
  · obtain ⟨taken, hrest, hposition, hpos, hderives, hop⟩ := of_parseExpression_eq_ok he
    obtain ⟨-, hdrop⟩ := hc.rest_eq_drop
    have hlt : c.position < stopped.position :=
      Nat.lt_of_lt_of_eq (Nat.lt_add_of_pos_right hpos) hposition.symm
    have hslice : (ts.take stopped.position).drop c.position = taken := by
      rw [hposition, List.drop_take, Nat.add_sub_cancel_left, ← hdrop, hrest, List.take_left]
    have hnext : ts[stopped.position]? = stopped.rest.head? := by
      rw [(hc.trans hstopped).rest_eq_drop.2, List.head?_drop]
    rw [hslice, hnext]
    exact ⟨hlt, hderives, hop⟩
  · have hat := position_of_parseExpression_eq_error herr
    exact ⟨hat ▸ hstopped.position_le, hat⟩

/-- In `(1))` at the last level left a group is read up to the second `)`; there nothing is. -/
theorem start_after_contract_last_level :
    let ts := [.openParen, .number "1", .closeParen, .closeParen]
    let c := (start ts).after [.restoreDepth (maxNesting - 1)]
    let c' := (start ts).after [.next, .next, .next]
    (c.parseExpression.1 = .ok (.literal "1") ∧ c.position < c.parseExpression.2.position ∧
      c.parseExpression.2.depth = maxNesting - 1) ∧
    c'.parseExpression.1 = .error ⟨.unexpectedToken ")", 3⟩ ∧ c'.parseExpression.2.position = 3 := by
  intro ts c c'
  have hone : Derives .primary [.number "1"] (.literal "1") 0 :=
    .literal (by intro k; cases k <;> decide)
  have hgroup := (Derives.group hone.base.toTerm.toExpression).base.toTerm.toExpression
  have hread : c.parseExpression.1 = .ok (.literal "1") :=
    parseExpression_eq_ok_iff.2
      ⟨[.closeParen], hgroup.reads (d := maxNesting - 1) (by decide) [.closeParen] rfl⟩
  have hclose : ¬ Token.closeParen.OpensOperand := by
    rintro (h | h | h | ⟨f, h⟩)
    · cases h
    · cases h
    · exact absurd h (by decide)
    · cases h
  have hrefused : Run (.chain .sum) c'.depth c'.rest
      (.error ⟨.unexpectedToken ")", [.closeParen]⟩) :=
    .firstRefused (.firstRefused (.baseRefused (.unexpected hclose)))
  have hfailed : c'.parseExpression.1 = .error ⟨.unexpectedToken ")", 3⟩ := by
    obtain ⟨taken, htaken, ho⟩ := gives_parseExpression hrefused
    obtain rfl : taken = [] := List.append_left_eq_self.1 htaken.symm
    rw [ho]
    rfl
  obtain ⟨-, -, hdepth, hok, -⟩ := start_after_contract ts [.restoreDepth (maxNesting - 1)]
  obtain ⟨-, -, -, -, herror⟩ := start_after_contract ts [.next, .next, .next]
  exact ⟨⟨hread, (hok _ hread).1, hdepth⟩, hfailed, (herror _ hfailed).2⟩

end Cursor

end Calculator
