import Calculator.Proofs.Parser.Acceptance
import Calculator.Proofs.Parser.Lookahead

/-!
# Where a syntax error points

A syntax error points at the first token that cannot be right, the nesting left aside. The tokens
before it can be completed to an expression (`Parser.Run.viable`), and with the token it points at
they cannot, whatever comes after (`parse_eq_error`).

The first half is an induction over runs: a parser that fails has taken tokens which its line
begins with. The second half needs none. By `Parser.Run.lookahead` the parser gives the same error
on every continuation, and what the grammar derives gets no error but one for its nesting.

**Causes.** A cause fits the place it is given at (`SyntaxError.Cause.Fits`). For a missing `)` that
is a statement about the parenthesis innermost among those open there: whether it belongs to a call
is told by the token before it, so the induction carries what a goal may follow
(`Parser.Goal.Follows`).
-/

namespace Calculator

open Calculator.Parser

/-! ## Parentheses -/

namespace Token

/-- Whether all parentheses are closed in the end, so many being open before. -/
def closesFrom : Nat → List Token → Bool
  | depth, [] => depth = 0
  | depth, t :: ts =>
    if t = .openParen then closesFrom (depth + 1) ts
    else if t = .closeParen then 0 < depth && closesFrom (depth - 1) ts
    else closesFrom depth ts

/-- Every parenthesis has its partner among the tokens. -/
def IsBalanced (ts : List Token) : Prop := closesFrom 0 ts = true

theorem closesFrom_open (depth : Nat) (ts : List Token) :
    closesFrom depth (.openParen :: ts) = closesFrom (depth + 1) ts := by
  rw [closesFrom, if_pos rfl]

theorem closesFrom_close (depth : Nat) (ts : List Token) :
    closesFrom (depth + 1) (.closeParen :: ts) = closesFrom depth ts := by
  rw [closesFrom, if_neg (by decide), if_pos rfl, Nat.add_sub_cancel]
  simp

theorem closesFrom_of_kind_ne {t : Token} (h : t.kind ≠ .parenthesis) (depth : Nat)
    (ts : List Token) : closesFrom depth (t :: ts) = closesFrom depth ts := by
  have hopen : t ≠ .openParen := by rintro rfl; exact h rfl
  have hclose : t ≠ .closeParen := by rintro rfl; exact h rfl
  rw [closesFrom, if_neg hopen, if_neg hclose]

/-- The last of the tokens is a function. -/
def EndInFunction (ts : List Token) : Prop := ∃ t, ts.getLast? = some t ∧ t.kind = .function

theorem not_endInFunction_nil : ¬ EndInFunction [] := by
  rintro ⟨t, ht, -⟩
  cases ht

theorem endInFunction_append_singleton {ts : List Token} {t : Token} :
    EndInFunction (ts ++ [t]) ↔ t.kind = .function := by
  simp [EndInFunction]

/-- The innermost parenthesis open after the tokens `before` is the one after `outer`. -/
def IsOpenAfter (outer before : List Token) : Prop :=
  ∃ inside, before = outer ++ .openParen :: inside ∧ IsBalanced inside

end Token

open Token

/-- What is derived opens and closes its own parentheses. -/
theorem Derives.closesFrom_append {line : Line} {ts : List Token} {e : Expr} {c : Nat}
    (h : Derives line ts e c) (depth : Nat) (us : List Token) :
    closesFrom depth (ts ++ us) = closesFrom depth us := by
  have hoperator (op : Operator) : (Token.operator op.symbol).kind ≠ .parenthesis := by
    simp [Token.operator]
  have hfunction (f : Func) : (Token.function f.name).kind ≠ .parenthesis := by
    simp [Token.function]
  induction h generalizing depth us with
  | constant | literal => exact closesFrom_of_kind_ne (by simp [Token.number]) _ _
  | «variable» text => exact closesFrom_of_kind_ne (by simp) _ _
  | call f _ ih =>
    rw [List.cons_append, List.cons_append, List.append_assoc, closesFrom_of_kind_ne (hfunction f),
      closesFrom_open, ih]
    exact closesFrom_close depth us
  | group _ ih =>
    rw [List.cons_append, List.append_assoc, closesFrom_open, ih]
    exact closesFrom_close depth us
  | power _ _ ihl ihr | next _ _ _ ihl ihr =>
    rw [List.append_assoc, ihl, List.cons_append, closesFrom_of_kind_ne (hoperator _), ihr]
  | base _ ih | first _ ih | chain _ ih => exact ih depth us

theorem Derives.isBalanced {line : Line} {ts : List Token} {e : Expr} {c : Nat}
    (h : Derives line ts e c) : IsBalanced ts := by
  have hempty := h.closesFrom_append 0 []
  rw [List.append_nil] at hempty
  exact hempty

/-! ## What can be completed -/

/-- Some tokens complete the tokens `ts` to the line. -/
def Line.Viable (line : Line) (ts : List Token) : Prop := ∃ more e c, Derives line (ts ++ more) e c

theorem Derives.viable {line : Line} {ts : List Token} {e : Expr} {c : Nat}
    (h : Derives line ts e c) : line.Viable ts := ⟨[], e, c, by rwa [List.append_nil]⟩

theorem Line.viable_primary_nil : Line.primary.Viable [] := ⟨_, _, _, .variable "X"⟩

namespace Parser

/-- The tokens `ts` can be completed to what a goal asks for. For links, that is the chain that
they go on with; for a group, the expression in it. -/
def Goal.Viable : Goal → List Token → Prop
  | .chain tier, ts => (Line.chain tier).Viable ts
  | .links tier left, ts => ∀ n before c, Derives (.links tier n) before left c →
      (Line.chain tier).Viable (before ++ ts)
  | .factor, ts => Line.factor.Viable ts
  | .primary, ts => Line.primary.Viable ts
  | .group _, ts => Line.expression.Viable ts

theorem Goal.viable_operand {tier : Tier} {ts : List Token} :
    (Goal.operand tier).Viable ts ↔ tier.operandLine.Viable ts := by
  cases tier <;> rfl

/-- An operator of a chain can be taken with what its operand can begin with. -/
theorem Goal.viable_link {tier : Tier} {left : Expr} {op : Operator} {ts : List Token}
    (hop : tier.Joins op) (h : (Goal.operand tier).Viable ts) :
    (Goal.links tier left).Viable (.operator op.symbol :: ts) := by
  intro n before c hbefore
  obtain ⟨more, e, c', hright⟩ := Goal.viable_operand.1 h
  have hchain := Derives.chain (.next hbefore hop hright)
  rw [← List.cons_append, ← List.append_assoc] at hchain
  exact ⟨more, _, _, hchain⟩

/-- A call is completed where its argument is. -/
theorem Goal.viable_call (f : Func) {ts : List Token} (h : Line.expression.Viable ts) :
    Goal.primary.Viable (.function f.name :: .openParen :: ts) := by
  obtain ⟨more, e, c, h⟩ := h
  have hcall := Derives.call f h
  rw [List.append_assoc, ← List.cons_append, ← List.cons_append] at hcall
  exact ⟨more ++ [.closeParen], _, _, hcall⟩

theorem Goal.viable_group {ts : List Token} (h : Line.expression.Viable ts) :
    Goal.primary.Viable (.openParen :: ts) := by
  obtain ⟨more, e, c, h⟩ := h
  have hgroup := Derives.group h
  rw [List.append_assoc, ← List.cons_append] at hgroup
  exact ⟨more ++ [.closeParen], _, _, hgroup⟩

/-- **What a parser took before it failed can be completed.** -/
theorem Run.viable {goal : Goal} {d : Nat} {ts : List Token} {f : Refusal}
    (h : Run goal d ts (.error f)) (hf : f.cause ≠ .nestingTooDeep) :
    ∃ taken, ts = taken ++ f.rest ∧ goal.Viable taken := by
  generalize ha : Except.error f = a at h
  induction h with
  | linksEnd | base | power | number | «variable» | call | closed => cases ha
  | linkTooDeep | powerTooDeep | groupTooDeep =>
    cases ha
    exact absurd rfl hf
  | firstRefused _ ih =>
    obtain ⟨taken, hts, hv⟩ := ih ha
    obtain ⟨more, e, c, hfirst⟩ := Goal.viable_operand.1 hv
    exact ⟨taken, hts, more, e, c, .chain (.first hfirst)⟩
  | chain hrun _ _ ihl =>
    obtain ⟨first, rfl, htakes⟩ := hrun.sound
    obtain ⟨taken, rfl, hv⟩ := ihl ha
    obtain ⟨c, -, hfirst⟩ := Goal.takes_operand.1 htakes
    exact ⟨first ++ taken, (List.append_assoc ..).symm, hv 0 first c (.first hfirst)⟩
  | linkRefused hop _ _ ih =>
    obtain ⟨taken, rfl, hv⟩ := ih ha
    exact ⟨_ :: taken, rfl, Goal.viable_link (Tier.joins_iff.2 hop) hv⟩
  | link hop _ hrun _ _ ihl =>
    obtain ⟨right, rfl, htakes⟩ := hrun.sound
    obtain ⟨taken, rfl, hv⟩ := ihl ha
    obtain ⟨c', -, hright⟩ := Goal.takes_operand.1 htakes
    refine ⟨_ :: (right ++ taken), by rw [List.cons_append, List.append_assoc],
      fun n before c hbefore => ?_⟩
    have hv := hv (n + 1) _ _ (.next hbefore (Tier.joins_iff.2 hop) hright)
    rwa [List.append_assoc, List.cons_append] at hv
  | baseRefused _ ih =>
    obtain ⟨taken, hts, more, e, c, hbase⟩ := ih ha
    exact ⟨taken, hts, more, e, c, .base hbase⟩
  | exponentRefused hrun _ _ _ ihe =>
    obtain ⟨base, rfl, c, -, hbase⟩ := hrun.sound
    obtain ⟨taken, rfl, more, e, c', hexp⟩ := ihe ha
    have hpower := Derives.power hbase hexp
    rw [← List.cons_append, ← List.append_assoc] at hpower
    exact ⟨base ++ _ :: taken, by rw [List.append_assoc, List.cons_append], more, _, _, hpower⟩
  | ended | unexpected =>
    cases ha
    exact ⟨[], rfl, Line.viable_primary_nil⟩
  | bare g _ =>
    cases ha
    obtain ⟨more, e, c, hargument⟩ := Goal.viable_call g
      (Derives.variable "X").base.toTerm.toExpression.viable
    exact ⟨[_], rfl, _ :: _ :: more, e, c, hargument⟩
  | argumentRefused g _ ih =>
    obtain ⟨taken, rfl, hv⟩ := ih ha
    exact ⟨_ :: _ :: taken, rfl, Goal.viable_call g hv⟩
  | group _ ih =>
    obtain ⟨taken, rfl, hv⟩ := ih ha
    exact ⟨_ :: taken, rfl, Goal.viable_group hv⟩
  | innerRefused _ _ ih => exact ih ha
  | unclosed _ hrun _ _ =>
    cases ha
    obtain ⟨inner, rfl, c, -, hinner⟩ := hrun.sound
    exact ⟨inner, rfl, hinner.viable⟩

end Parser

/-! ## Which cause is given -/

/-- The cause is right between the tokens `before` and `rest`. -/
def SyntaxError.Cause.Fits (before rest : List Token) : SyntaxError.Cause → Prop
  | .unexpectedEnd => rest = []
  | .unexpectedToken text => ∃ t, rest.head? = some t ∧ t.text = text
  | .functionWithoutParens name =>
      (∃ f : Func, f.name = name ∧ before.getLast? = some (.function f.name)) ∧
        rest.head? ≠ some .openParen
  | .missingClose => ∃ outer, IsOpenAfter outer before ∧ ¬ EndInFunction outer
  | .missingCloseAfterArgument => ∃ outer, IsOpenAfter outer before ∧ EndInFunction outer
  | .nestingTooDeep => True

/-- The cause to give for a group whose opening parenthesis comes after the tokens `outer`. -/
def SyntaxError.Cause.IsFor (outer : List Token) : SyntaxError.Cause → Prop
  | .missingClose => ¬ EndInFunction outer
  | .missingCloseAfterArgument => EndInFunction outer
  | _ => False

theorem SyntaxError.Cause.IsFor.fits {missing : SyntaxError.Cause} {outer inside : List Token}
    (h : missing.IsFor outer) (hinside : IsBalanced inside) (rest : List Token) :
    missing.Fits (outer ++ .openParen :: inside) rest := by
  cases missing with
  | missingClose | missingCloseAfterArgument => exact ⟨outer, ⟨inside, rfl, hinside⟩, h⟩
  | _ => exact h.elim

namespace Parser

/-- Which tokens may come before what a goal asks for. -/
def Goal.Follows : Goal → List Token → Prop
  | .links _ _, _ => True
  | .group missing, before => ∃ outer, before = outer ++ [.openParen] ∧ missing.IsFor outer
  | _, before => ¬ EndInFunction before

theorem Goal.follows_operand {tier : Tier} {before : List Token} :
    (Goal.operand tier).Follows before ↔ ¬ EndInFunction before := by
  cases tier <;> rfl

/-- Links may follow any tokens. -/
theorem Goal.follows_links {tier : Tier} {left : Expr} (before : List Token) :
    (Goal.links tier left).Follows before := trivial

theorem not_endInFunction_append {t : Token} (h : t.kind ≠ .function) (ts : List Token) :
    ¬ EndInFunction (ts ++ [t]) :=
  fun hts => h (endInFunction_append_singleton.1 hts)

/-- **The cause a parser gives fits the place it gives it at.** -/
theorem Run.fits {goal : Goal} {d : Nat} {ts : List Token} {f : Refusal}
    (h : Run goal d ts (.error f)) (hf : f.cause ≠ .nestingTooDeep) {before : List Token}
    (hbefore : goal.Follows before) :
    ∃ taken, ts = taken ++ f.rest ∧ f.cause.Fits (before ++ taken) f.rest := by
  have hoperator (op : Operator) : (Token.operator op.symbol).kind ≠ .function := by
    simp [Token.operator]
  generalize ha : Except.error f = a at h
  induction h generalizing before with
  | linksEnd | base | power | number | «variable» | call | closed => cases ha
  | linkTooDeep | powerTooDeep | groupTooDeep =>
    cases ha
    exact absurd rfl hf
  | firstRefused _ ih => exact ih (Goal.follows_operand.2 hbefore) ha
  | chain hrun _ _ ihl =>
    obtain ⟨first, rfl, -⟩ := hrun.sound
    obtain ⟨taken, rfl, hfits⟩ := ihl (Goal.follows_links (before ++ first)) ha
    rw [List.append_assoc] at hfits
    exact ⟨first ++ taken, (List.append_assoc ..).symm, hfits⟩
  | @linkRefused _ _ op _ _ _ _ _ _ ih =>
    have hoperand := not_endInFunction_append (hoperator op) before
    obtain ⟨taken, rfl, hfits⟩ := ih (Goal.follows_operand.2 hoperand) ha
    rw [List.append_assoc] at hfits
    exact ⟨_ :: taken, rfl, hfits⟩
  | @link _ _ _ op _ _ _ _ _ _ hrun _ _ ihl =>
    obtain ⟨right, rfl, -⟩ := hrun.sound
    obtain ⟨taken, rfl, hfits⟩ :=
      ihl (Goal.follows_links (before ++ .operator op.symbol :: right)) ha
    rw [List.append_assoc, List.cons_append] at hfits
    exact ⟨_ :: (right ++ taken), by rw [List.cons_append, List.append_assoc], hfits⟩
  | baseRefused _ ih => exact ih hbefore ha
  | exponentRefused hrun _ _ _ ihe =>
    obtain ⟨base, rfl, -⟩ := hrun.sound
    obtain ⟨taken, rfl, hfits⟩ :=
      ihe (not_endInFunction_append (hoperator .pow) (before ++ base)) ha
    rw [List.append_assoc, List.append_assoc] at hfits
    exact ⟨base ++ _ :: taken, by rw [List.append_assoc, List.cons_append], hfits⟩
  | ended =>
    cases ha
    exact ⟨[], rfl, rfl⟩
  | @unexpected _ t _ _ =>
    cases ha
    exact ⟨[], rfl, t, rfl, rfl⟩
  | bare g hopen =>
    cases ha
    exact ⟨[_], rfl, ⟨g, rfl, List.getLast?_concat⟩, hopen⟩
  | argumentRefused g _ ih =>
    have hname : EndInFunction (before ++ [.function g.name]) :=
      endInFunction_append_singleton.2 rfl
    obtain ⟨taken, rfl, hfits⟩ := ih ⟨_, rfl, hname⟩ ha
    rw [List.append_assoc, List.append_assoc] at hfits
    exact ⟨_ :: _ :: taken, rfl, hfits⟩
  | group _ ih =>
    obtain ⟨taken, rfl, hfits⟩ := ih ⟨before, rfl, hbefore⟩ ha
    rw [List.append_assoc] at hfits
    exact ⟨_ :: taken, rfl, hfits⟩
  | innerRefused _ _ ih =>
    obtain ⟨outer, rfl, -⟩ := hbefore
    have hopen : Token.openParen.kind ≠ .function := by decide
    exact ih (not_endInFunction_append hopen outer) ha
  | unclosed _ hrun _ _ =>
    cases ha
    obtain ⟨outer, rfl, houter⟩ := hbefore
    obtain ⟨inner, rfl, c, -, hinner⟩ := hrun.sound
    refine ⟨inner, rfl, ?_⟩
    rw [List.append_assoc]
    exact houter.fits hinner.isBalanced _

end Parser

/-! ## Errors of the parser -/

/-- The parser fails where a chain does, and at the first token after one. -/
theorem run_of_parse_eq_error {ts : List Token} {e : SyntaxError} (h : parse ts = .error e) :
    (∃ f, Run (.chain .sum) 0 ts (.error f) ∧ e = f.toSyntaxError ts.length) ∨
      ∃ x t rest, Run (.chain .sum) 0 ts (.ok (x, t :: rest)) ∧
        e = (Refusal.mk (.unexpectedToken t.text) (t :: rest)).toSyntaxError ts.length := by
  have hexp : Parser.expression 0 ts = (Goal.chain .sum).answer 0 ts := rfl
  rw [parse, hexp] at h
  simp only [run_iff]
  cases ha : (Goal.chain .sum).answer 0 ts with
  | error f =>
    rw [ha] at h
    cases h
    exact .inl ⟨f, rfl, rfl⟩
  | ok p =>
    obtain ⟨x, us⟩ := p
    cases us with
    | nil =>
      rw [ha] at h
      cases h
    | cons t rest =>
      rw [ha] at h
      cases h
      exact .inr ⟨x, t, rest, rfl, rfl⟩

theorem parse_of_run_ok_cons {ts : List Token} {x : Expr} {t : Token} {rest : List Token}
    (h : Run (.chain .sum) 0 ts (.ok (x, t :: rest))) :
    parse ts =
      .error ((Refusal.mk (.unexpectedToken t.text) (t :: rest)).toSyntaxError ts.length) := by
  have h' : Parser.expression 0 ts = .ok (x, t :: rest) := h.answer_eq
  rw [parse, h']

/-- What is derived gets no error but one for its nesting. -/
theorem Derives.cause_eq_tooDeep {ts : List Token} {x : Expr} {c : Nat} {e : SyntaxError}
    (h : Derives .expression ts x c) (he : parse ts = .error e) : e.cause = .nestingTooDeep := by
  by_cases hc : c ≤ maxNesting
  · rw [h.parse_eq_ok hc] at he
    cases he
  · obtain ⟨position, hdeep⟩ := h.parse_eq_tooDeep (Nat.lt_of_not_le hc)
    rw [hdeep] at he
    cases he
    rfl

theorem toSyntaxError_append (cause : SyntaxError.Cause) (taken rest : List Token) :
    (Refusal.mk cause rest).toSyntaxError (taken ++ rest).length = ⟨cause, taken.length⟩ := by
  simp [Refusal.toSyntaxError]

/-- An error lies between tokens that can be completed and tokens that it fits, and is the same
for all tokens with the same head as these. -/
theorem split_of_parse_eq_error {ts : List Token} {e : SyntaxError} (h : parse ts = .error e)
    (he : e.cause ≠ .nestingTooDeep) :
    ∃ taken rest, ts = taken ++ rest ∧ e.position = taken.length ∧
      Line.expression.Viable taken ∧ e.cause.Fits taken rest ∧
      ∀ us, us.head? = rest.head? → parse (taken ++ us) = .error e := by
  rcases run_of_parse_eq_error h with ⟨⟨cause, rest⟩, hrun, rfl⟩ | ⟨x, t, rest, hrun, rfl⟩
  · obtain ⟨taken, rfl, hsame⟩ := hrun.lookahead he
    obtain ⟨taken', hts', hviable⟩ := hrun.viable he
    have hbegin : (Goal.chain .sum).Follows [] := not_endInFunction_nil
    obtain ⟨taken'', hts'', hfits⟩ := hrun.fits he hbegin
    -- The three inductions cut off the same rest.
    obtain rfl := List.append_cancel_right hts'
    obtain rfl := List.append_cancel_right hts''
    refine ⟨_, rest, rfl, ?_, hviable, hfits, fun us hus => ?_⟩
    · exact congrArg _ (toSyntaxError_append cause _ rest)
    · rw [parse_of_run_error (hsame us hus)]
      exact congrArg _ ((toSyntaxError_append cause _ us).trans
        (toSyntaxError_append cause _ rest).symm)
  · obtain ⟨taken, rfl, c, -, hderives⟩ := hrun.sound
    obtain ⟨taken', hts', hsame⟩ := hrun.lookahead id
    obtain rfl := List.append_cancel_right hts'
    refine ⟨_, t :: rest, rfl, ?_, hderives.viable, ⟨t, rfl, rfl⟩, fun us hus => ?_⟩
    · exact congrArg _ (toSyntaxError_append _ _ (t :: rest))
    · obtain ⟨us, rfl⟩ := List.head?_eq_some_iff.1 hus
      rw [parse_of_run_ok_cons (hsame _ hus)]
      exact congrArg _ ((toSyntaxError_append _ _ (t :: us)).trans
        (toSyntaxError_append _ _ (t :: rest)).symm)

/-- **A syntax error points at the first token that cannot be right**, unless it is given for the
nesting: the tokens before it can be completed to an expression, with the next token they cannot,
and where there is no next token they are no expression themselves. Its cause fits the place. -/
theorem parse_eq_error {ts : List Token} {e : SyntaxError} (h : parse ts = .error e)
    (he : e.cause ≠ .nestingTooDeep) :
    e.position ≤ ts.length ∧
      Line.expression.Viable (ts.take e.position) ∧
      (e.position < ts.length → ¬ Line.expression.Viable (ts.take (e.position + 1))) ∧
      (e.position = ts.length → ∀ x c, ¬ Derives .expression ts x c) ∧
      e.cause.Fits (ts.take e.position) (ts.drop e.position) := by
  obtain ⟨taken, rest, rfl, hpos, hviable, hfits, hsame⟩ := split_of_parse_eq_error h he
  rw [hpos, List.take_left, List.drop_left]
  refine ⟨by simp, hviable, fun hlt => ?_, fun _ x c hderives => ?_, hfits⟩
  · cases rest with
    | nil => simp at hlt
    | cons t rest =>
      rintro ⟨more, x, c, hderives⟩
      rw [List.take_length_add_append, List.append_assoc] at hderives
      exact he (hderives.cause_eq_tooDeep (hsame _ rfl))
  · exact he (hderives.cause_eq_tooDeep h)

/-- In `sin(3 4` an argument is open before the `4`. -/
theorem parse_eq_error_open_argument :
    let before := [.function "sin", .openParen, .number "3"]
    Line.expression.Viable before ∧ ¬ Line.expression.Viable (before ++ [.number "4"]) ∧
      ∃ outer, IsOpenAfter outer before ∧ EndInFunction outer := by
  have hthree : Derives .primary [.number "3"] (.literal "3") 0 :=
    .literal (by intro k; cases k <;> decide)
  have hargument : Run (.chain .sum) 1 [.number "3", .number "4"]
      (.ok (.literal "3", [.number "4"])) :=
    hthree.base.toTerm.toExpression.reads (Nat.zero_le _) [.number "4"] rfl
  have hcall : Run .primary 0 [.function "sin", .openParen, .number "3", .number "4"]
      (.error ⟨.missingCloseAfterArgument, [.number "4"]⟩) :=
    .argumentRefused .sin (.unclosed (by decide) hargument (by decide))
  have h : parse [.function "sin", .openParen, .number "3", .number "4"] =
      .error ⟨.missingCloseAfterArgument, 3⟩ :=
    parse_of_run_error (.firstRefused (.firstRefused (.baseRefused hcall)))
  obtain ⟨-, hviable, hnot, -, outer, hopen, hfunction⟩ := parse_eq_error h nofun
  exact ⟨hviable, hnot (by decide), outer, hopen, hfunction⟩

end Calculator
