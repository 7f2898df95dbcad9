import Calculator.Parser

/-!
# Runs of the parsers

What the parsers do, said once: `Run goal depth ts a` holds when a parser asked for `goal` at
`depth` gives the answer `a` on the tokens `ts`. Every way through the parsers is one rule, with
the tests made on that way as its premises, so a property of all runs is an induction with one
case for each way.

**Agreement.** `run_iff`: the rules and the parsers give the same answers. Nothing after this
module opens a parser.
-/

namespace Calculator

/-! ## What the parsers look at -/

theorem Operator.ofSymbol?_eq_some {text : String} {op : Operator} :
    Operator.ofSymbol? text = some op ↔ text = op.symbol := by
  constructor
  · intro h
    unfold Operator.ofSymbol? at h
    split at h <;> simp only [Option.some.injEq, reduceCtorEq] at h <;> subst h <;> rfl
  · rintro rfl
    exact Operator.ofSymbol?_symbol op

theorem Func.ofName?_eq_some {text : String} {f : Func} :
    Func.ofName? text = some f ↔ text = f.name := by
  constructor
  · intro h
    unfold Func.ofName? at h
    split at h <;> simp only [Option.some.injEq, reduceCtorEq] at h <;> subst h <;> rfl
  · rintro rfl
    exact Func.ofName?_name f

theorem Constant.ofSymbol?_eq_some {text : String} {k : Constant} :
    Constant.ofSymbol? text = some k ↔ text = k.symbol := by
  constructor
  · intro h
    unfold Constant.ofSymbol? at h
    split at h <;> simp only [Option.some.injEq, reduceCtorEq] at h <;> subst h <;> rfl
  · rintro rfl
    exact Constant.ofSymbol?_symbol k

/-- An operator is seen exactly where its token stands. -/
theorem operatorAt?_eq_some {accepted : List Operator} {ts : List Token} {op : Operator} :
    operatorAt? accepted ts = some op ↔
      op ∈ accepted ∧ ∃ rest, ts = .operator op.symbol :: rest := by
  cases ts with
  | nil => simp [operatorAt?]
  | cons t rest =>
    obtain ⟨kind, text⟩ := t
    by_cases hk : kind = .operator
    · subst hk
      simp only [operatorAt?, if_true, Option.filter_eq_some_iff, Operator.ofSymbol?_eq_some,
        decide_eq_true_eq, Token.operator, List.cons.injEq, Token.mk.injEq, true_and,
        exists_and_left, exists_eq', and_true]
      exact and_comm
    · simp [operatorAt?, hk, Token.operator]

theorem operatorAt?_cons_operator {accepted : List Operator} {op : Operator}
    (h : op ∈ accepted) (ts : List Token) :
    operatorAt? accepted (.operator op.symbol :: ts) = some op :=
  operatorAt?_eq_some.2 ⟨h, ts, rfl⟩

theorem Token.isParen_open {t : Token} : t.isParen '(' = true ↔ t = .openParen := by
  obtain ⟨kind, text⟩ := t
  simp [Token.isParen, Token.openParen]

theorem Token.isParen_close {t : Token} : t.isParen ')' = true ↔ t = .closeParen := by
  obtain ⟨kind, text⟩ := t
  simp [Token.isParen, Token.closeParen]

/-- A token that an operand can begin with. -/
def Token.OpensOperand (t : Token) : Prop :=
  t.kind = .number ∨ t.kind = .variable ∨ t = .openParen ∨ ∃ f : Func, t = .function f.name

theorem Token.ofName?_eq_none {text : String} (h : ¬ OpensOperand ⟨.function, text⟩) :
    Func.ofName? text = none := by
  cases hf : Func.ofName? text with
  | none => rfl
  | some f =>
    rw [Func.ofName?_eq_some] at hf
    exact absurd (.inr (.inr (.inr ⟨f, by rw [hf]; rfl⟩))) h

theorem Token.not_isParen_open {text : String} (h : ¬ OpensOperand ⟨.parenthesis, text⟩) :
    ¬ isParen ⟨.parenthesis, text⟩ '(' = true :=
  fun hp => h (.inr (.inr (.inl (Token.isParen_open.1 hp))))

namespace Parser

/-! ## Goals and answers -/

/-- What a parser is asked for. -/
inductive Goal
  | chain (tier : Tier)
  /-- The rest of a chain whose expression so far is `left`. -/
  | links (tier : Tier) (left : Expr)
  | factor
  | primary
  /-- What is left of a group after its opening parenthesis. -/
  | group (missing : SyntaxError.Cause)

/-- An expression and the tokens after it, or a refusal. -/
abbrev Answer := Except Refusal (Expr × List Token)

namespace Goal

/-- The operands of a tier. -/
def operand : Tier → Goal
  | .sum => .chain .product
  | .product => .factor

/-- What the parser for a goal answers. -/
def answer : Goal → Nat → List Token → Answer
  | .chain tier, depth, ts => (Parser.chain tier depth ts).map Progress.toProd
  | .links tier left, depth, ts => (Parser.links tier depth left ts).map Progress.toProd
  | .factor, depth, ts => (Parser.factor depth ts).map Progress.toProd
  | .primary, depth, ts => (Parser.primary depth ts).map Progress.toProd
  | .group missing, depth, ts => (Parser.group depth missing .openParen ts).map Progress.toProd

end Goal

/-- `Run goal depth ts a`: asked for `goal` at `depth`, the answer on the tokens `ts` is `a`. -/
inductive Run : Goal → Nat → List Token → Answer → Prop
  -- A chain: its first operand, then its links.
  | firstRefused {tier : Tier} {d : Nat} {ts : List Token} {f : Refusal} :
      Run (.operand tier) d ts (.error f) → Run (.chain tier) d ts (.error f)
  | chain {tier : Tier} {d : Nat} {ts us : List Token} {e : Expr} {a : Answer} :
      Run (.operand tier) d ts (.ok (e, us)) → Run (.links tier e) d us a →
      Run (.chain tier) d ts a
  -- Links: none is left, or an operator goes one level down for the rest of the chain.
  | linksEnd {tier : Tier} {left : Expr} {d : Nat} {ts : List Token} :
      operatorAt? tier.operators ts = none → Run (.links tier left) d ts (.ok (left, ts))
  | linkTooDeep {tier : Tier} {left : Expr} {op : Operator} {d : Nat} {ts : List Token} :
      op ∈ tier.operators → maxNesting ≤ d →
      Run (.links tier left) d (.operator op.symbol :: ts)
        (.error ⟨.nestingTooDeep, .operator op.symbol :: ts⟩)
  | linkRefused {tier : Tier} {left : Expr} {op : Operator} {d : Nat} {ts : List Token}
      {f : Refusal} :
      op ∈ tier.operators → d < maxNesting → Run (.operand tier) (d + 1) ts (.error f) →
      Run (.links tier left) d (.operator op.symbol :: ts) (.error f)
  | link {tier : Tier} {left right : Expr} {op : Operator} {d : Nat} {ts us : List Token}
      {a : Answer} :
      op ∈ tier.operators → d < maxNesting → Run (.operand tier) (d + 1) ts (.ok (right, us)) →
      Run (.links tier (.binary left op right)) (d + 1) us a →
      Run (.links tier left) d (.operator op.symbol :: ts) a
  -- A factor: a primary, and one level down its exponent.
  | baseRefused {d : Nat} {ts : List Token} {f : Refusal} :
      Run .primary d ts (.error f) → Run .factor d ts (.error f)
  | base {d : Nat} {ts us : List Token} {e : Expr} :
      Run .primary d ts (.ok (e, us)) → operatorAt? [.pow] us = none →
      Run .factor d ts (.ok (e, us))
  | powerTooDeep {d : Nat} {ts us : List Token} {b : Expr} :
      Run .primary d ts (.ok (b, .operator Operator.pow.symbol :: us)) → maxNesting ≤ d →
      Run .factor d ts (.error ⟨.nestingTooDeep, .operator Operator.pow.symbol :: us⟩)
  | exponentRefused {d : Nat} {ts us : List Token} {b : Expr} {f : Refusal} :
      Run .primary d ts (.ok (b, .operator Operator.pow.symbol :: us)) → d < maxNesting →
      Run .factor (d + 1) us (.error f) → Run .factor d ts (.error f)
  | power {d : Nat} {ts us vs : List Token} {b e : Expr} :
      Run .primary d ts (.ok (b, .operator Operator.pow.symbol :: us)) → d < maxNesting →
      Run .factor (d + 1) us (.ok (e, vs)) → Run .factor d ts (.ok (.binary b .pow e, vs))
  -- A primary: by its first token.
  | ended {d : Nat} : Run .primary d [] (.error ⟨.unexpectedEnd, []⟩)
  | unexpected {d : Nat} {t : Token} {ts : List Token} :
      ¬ t.OpensOperand → Run .primary d (t :: ts) (.error ⟨.unexpectedToken t.text, t :: ts⟩)
  | number {d : Nat} {ts : List Token} (text : String) :
      Run .primary d (.number text :: ts) (.ok (numberExpr text, ts))
  | variable {d : Nat} {ts : List Token} (text : String) :
      Run .primary d (⟨.variable, text⟩ :: ts) (.ok (.variable, ts))
  | bare {d : Nat} {ts : List Token} (f : Func) :
      ts.head? ≠ some .openParen →
      Run .primary d (.function f.name :: ts) (.error ⟨.functionWithoutParens f.name, ts⟩)
  | argumentRefused {d : Nat} {ts : List Token} (f : Func) {r : Refusal} :
      Run (.group .missingCloseAfterArgument) d ts (.error r) →
      Run .primary d (.function f.name :: .openParen :: ts) (.error r)
  | call {d : Nat} {ts us : List Token} (f : Func) {e : Expr} :
      Run (.group .missingCloseAfterArgument) d ts (.ok (e, us)) →
      Run .primary d (.function f.name :: .openParen :: ts) (.ok (.call f e, us))
  | group {d : Nat} {ts : List Token} {a : Answer} :
      Run (.group .missingClose) d ts a → Run .primary d (.openParen :: ts) a
  -- A group: one level down, up to its closing parenthesis.
  | groupTooDeep {missing : SyntaxError.Cause} {d : Nat} {ts : List Token} :
      maxNesting ≤ d → Run (.group missing) d ts (.error ⟨.nestingTooDeep, .openParen :: ts⟩)
  | innerRefused {missing : SyntaxError.Cause} {d : Nat} {ts : List Token} {f : Refusal} :
      d < maxNesting → Run (.chain .sum) (d + 1) ts (.error f) →
      Run (.group missing) d ts (.error f)
  | unclosed {missing : SyntaxError.Cause} {d : Nat} {ts us : List Token} {e : Expr} :
      d < maxNesting → Run (.chain .sum) (d + 1) ts (.ok (e, us)) →
      us.head? ≠ some .closeParen → Run (.group missing) d ts (.error ⟨missing, us⟩)
  | closed {missing : SyntaxError.Cause} {d : Nat} {ts us : List Token} {e : Expr} :
      d < maxNesting → Run (.chain .sum) (d + 1) ts (.ok (e, .closeParen :: us)) →
      Run (.group missing) d ts (.ok (e, us))

/-! ## The answers, one step at a time -/

theorem descend_of_lt {depth : Nat} (h : depth < maxNesting) (ts : List Token) :
    descend depth ts = .ok (depth + 1) := if_pos h

theorem descend_of_le {depth : Nat} (h : maxNesting ≤ depth) (ts : List Token) :
    descend depth ts = .error ⟨.nestingTooDeep, ts⟩ := if_neg (Nat.not_lt.2 h)

namespace Goal

theorem answer_operand (tier : Tier) (depth : Nat) (ts : List Token) :
    (operand tier).answer depth ts = (Parser.operand tier depth ts).map Progress.toProd := by
  cases tier <;> rw [Parser.operand] <;> rfl

theorem answer_chain (tier : Tier) (depth : Nat) (ts : List Token) :
    (chain tier).answer depth ts = (do
      let (e, us) ← (operand tier).answer depth ts
      (links tier e).answer depth us) := by
  rw [answer_operand, answer, Parser.chain]
  cases Parser.operand tier depth ts with
  | error f => rfl
  | ok first =>
    show _ = (Parser.links tier depth first.value first.rest).map Progress.toProd
    simp only [bind, Except.bind]
    cases Parser.links tier depth first.value first.rest <;> rfl

theorem answer_links_of_none {tier : Tier} {ts : List Token}
    (h : operatorAt? tier.operators ts = none) (left : Expr) (depth : Nat) :
    (links tier left).answer depth ts = .ok (left, ts) := by
  rw [answer, Parser.links, h]
  rfl

theorem answer_links_cons {tier : Tier} {op : Operator} (h : op ∈ tier.operators) (left : Expr)
    (depth : Nat) (ts : List Token) :
    (links tier left).answer depth (.operator op.symbol :: ts) = (do
      let deeper ← descend depth (.operator op.symbol :: ts)
      let (right, us) ← (operand tier).answer deeper ts
      (links tier (.binary left op right)).answer deeper us) := by
  rw [answer, Parser.links, operatorAt?_cons_operator h]
  simp only [answer_operand, bind, Except.bind]
  cases descend depth (.operator op.symbol :: ts) with
  | error f => rfl
  | ok deeper =>
    dsimp only
    cases Parser.operand tier deeper ts with
    | error f => rfl
    | ok right =>
      show _ = (Parser.links tier deeper (.binary left op right.value) right.rest).map
        Progress.toProd
      simp only [Except.map]
      cases Parser.links tier deeper (.binary left op right.value) right.rest <;> rfl

theorem answer_factor (depth : Nat) (ts : List Token) :
    factor.answer depth ts = (do
      let (b, us) ← primary.answer depth ts
      match operatorAt? [.pow] us, us with
      | some op, t :: rest => do
        let deeper ← descend depth (t :: rest)
        let (e, vs) ← factor.answer deeper rest
        return (.binary b op e, vs)
      | _, us => return (b, us)) := by
  rw [answer, Parser.factor, answer]
  cases Parser.primary depth ts with
  | error f => rfl
  | ok base =>
    obtain ⟨b, us, hus⟩ := base
    simp only [bind, Except.bind, Except.map, Progress.toProd]
    cases us with
    | nil => rfl
    | cons t rest =>
      cases operatorAt? [.pow] (t :: rest) with
      | none => rfl
      | some op =>
        cases hd : descend depth (t :: rest) with
        | error f => simp [hd]
        | ok deeper =>
          simp only [hd, answer]
          cases Parser.factor deeper rest <;> rfl

theorem answer_group (missing : SyntaxError.Cause) (depth : Nat) (ts : List Token) :
    (group missing).answer depth ts = (do
      let deeper ← descend depth (.openParen :: ts)
      let (e, us) ← (chain .sum).answer deeper ts
      match us with
      | [] => .error ⟨missing, []⟩
      | t :: rest => if t.isParen ')' then .ok (e, rest) else .error ⟨missing, t :: rest⟩) := by
  rw [answer, Parser.group]
  simp only [bind, Except.bind]
  cases descend depth (.openParen :: ts) with
  | error f => rfl
  | ok deeper =>
    simp only [answer]
    cases Parser.chain .sum deeper ts with
    | error f => rfl
    | ok inner =>
      obtain ⟨e, us, hus⟩ := inner
      cases us with
      | nil => rfl
      | cons t rest =>
        simp only [Except.map, Progress.toProd, close]
        by_cases hp : t.isParen ')' = true
        · rw [if_pos hp, if_pos hp]
        · rw [if_neg hp, if_neg hp]

theorem answer_primary_number (depth : Nat) (text : String) (ts : List Token) :
    primary.answer depth (.number text :: ts) = .ok (numberExpr text, ts) := by
  rw [answer, Parser.primary]
  rfl

theorem answer_primary_variable (depth : Nat) (text : String) (ts : List Token) :
    primary.answer depth (⟨.variable, text⟩ :: ts) = .ok (.variable, ts) := by
  rw [answer, Parser.primary]
  rfl

theorem answer_primary_unexpected {t : Token} (h : ¬ t.OpensOperand) (depth : Nat)
    (ts : List Token) :
    primary.answer depth (t :: ts) = .error ⟨.unexpectedToken t.text, t :: ts⟩ := by
  obtain ⟨kind, text⟩ := t
  rw [answer, Parser.primary]
  cases kind with
  | number => exact absurd (.inl rfl) h
  | «variable» => exact absurd (.inr (.inl rfl)) h
  | operator => rfl
  | function =>
    simp only [Token.ofName?_eq_none h]
    rfl
  | parenthesis =>
    simp only [if_neg (Token.not_isParen_open h)]
    rfl

theorem answer_primary_bare {ts : List Token} (h : ts.head? ≠ some .openParen) (depth : Nat)
    (f : Func) :
    primary.answer depth (.function f.name :: ts) =
      .error ⟨.functionWithoutParens f.name, ts⟩ := by
  rw [answer, Parser.primary]
  cases ts with
  | nil =>
    simp only [Token.function, Func.ofName?_name]
    rfl
  | cons t rest =>
    have hp : ¬ t.isParen '(' = true := fun hp => h (by rw [Token.isParen_open.1 hp]; rfl)
    simp only [Token.function, Func.ofName?_name, if_neg hp]
    rfl

theorem answer_primary_call (depth : Nat) (f : Func) (ts : List Token) :
    primary.answer depth (.function f.name :: .openParen :: ts) =
      ((group .missingCloseAfterArgument).answer depth ts).map fun p => (.call f p.1, p.2) := by
  have hp : Token.openParen.isParen '(' = true := Token.isParen_open.2 rfl
  rw [answer, Parser.primary, answer]
  simp only [Token.function, Func.ofName?_name, if_pos hp, bind, Except.bind]
  cases Parser.group depth .missingCloseAfterArgument .openParen ts <;> rfl

theorem answer_primary_group (depth : Nat) (ts : List Token) :
    primary.answer depth (.openParen :: ts) = (group .missingClose).answer depth ts := by
  have hp : Token.openParen.isParen '(' = true := Token.isParen_open.2 rfl
  rw [answer, Parser.primary, answer]
  show Except.map _ (if Token.openParen.isParen '(' = true then _ else _) = _
  rw [if_pos hp]
  simp only [bind, Except.bind]
  cases Parser.group depth .missingClose .openParen ts <;> rfl

end Goal

/-! ## The rules describe the parsers -/

/-- What the rules allow is what the parsers answer. -/
theorem Run.answer_eq {goal : Goal} {d : Nat} {ts : List Token} {a : Answer}
    (h : Run goal d ts a) : goal.answer d ts = a := by
  have hpow : Operator.pow ∈ [Operator.pow] := List.mem_singleton_self _
  induction h with
  | firstRefused _ ih =>
    rw [Goal.answer_chain, ih]
    rfl
  | chain _ _ ihf ihl =>
    rw [Goal.answer_chain, ihf]
    exact ihl
  | linksEnd h => exact Goal.answer_links_of_none h _ _
  | linkTooDeep hop hd =>
    rw [Goal.answer_links_cons hop, descend_of_le hd]
    rfl
  | linkRefused hop hd _ ih =>
    rw [Goal.answer_links_cons hop, descend_of_lt hd]
    simp only [bind, Except.bind, ih]
  | link hop hd _ _ ihr ihl =>
    rw [Goal.answer_links_cons hop, descend_of_lt hd]
    simp only [bind, Except.bind, ihr, ihl]
  | baseRefused _ ih =>
    rw [Goal.answer_factor, ih]
    rfl
  | base _ hus ih =>
    rw [Goal.answer_factor, ih]
    simp only [bind, Except.bind, hus]
    rfl
  | powerTooDeep _ hd ih =>
    rw [Goal.answer_factor, ih]
    simp only [bind, Except.bind, operatorAt?_cons_operator hpow, descend_of_le hd]
  | exponentRefused _ hd _ ihb ihe =>
    rw [Goal.answer_factor, ihb]
    simp only [bind, Except.bind, operatorAt?_cons_operator hpow, descend_of_lt hd, ihe]
  | power _ hd _ ihb ihe =>
    rw [Goal.answer_factor, ihb]
    simp only [bind, Except.bind, operatorAt?_cons_operator hpow, descend_of_lt hd, ihe]
    rfl
  | ended =>
    rw [Goal.answer, Parser.primary]
    rfl
  | unexpected h => exact Goal.answer_primary_unexpected h _ _
  | number text => exact Goal.answer_primary_number _ text _
  | «variable» text => exact Goal.answer_primary_variable _ text _
  | bare f h => exact Goal.answer_primary_bare h _ f
  | argumentRefused f _ ih =>
    rw [Goal.answer_primary_call, ih]
    rfl
  | call f _ ih =>
    rw [Goal.answer_primary_call, ih]
    rfl
  | group _ ih =>
    rw [Goal.answer_primary_group]
    exact ih
  | groupTooDeep hd =>
    rw [Goal.answer_group, descend_of_le hd]
    rfl
  | innerRefused hd _ ih =>
    rw [Goal.answer_group, descend_of_lt hd]
    simp only [bind, Except.bind, ih]
  | @unclosed _ _ _ us _ hd _ hus ih =>
    rw [Goal.answer_group, descend_of_lt hd]
    simp only [bind, Except.bind, ih]
    cases us with
    | nil => rfl
    | cons t rest =>
      have hp : ¬ t.isParen ')' = true := fun hp => hus (by rw [Token.isParen_close.1 hp]; rfl)
      exact if_neg hp
  | closed hd _ ih =>
    have hp : Token.closeParen.isParen ')' = true := Token.isParen_close.2 rfl
    rw [Goal.answer_group, descend_of_lt hd]
    simp only [bind, Except.bind, ih, if_pos hp]

/-- An operand is at least one token long. -/
theorem length_lt_of_answer_operand {tier : Tier} {d : Nat} {ts us : List Token} {e : Expr}
    (h : (Goal.operand tier).answer d ts = .ok (e, us)) : us.length < ts.length := by
  rw [Goal.answer_operand] at h
  cases hp : Parser.operand tier d ts with
  | error f =>
    rw [hp] at h
    cases h
  | ok p =>
    rw [hp] at h
    cases h
    exact p.shorter

/-- A primary is at least one token long. -/
theorem length_lt_of_answer_primary {d : Nat} {ts us : List Token} {e : Expr}
    (h : Goal.primary.answer d ts = .ok (e, us)) : us.length < ts.length := by
  rw [Goal.answer] at h
  cases hp : Parser.primary d ts with
  | error f =>
    rw [hp] at h
    cases h
  | ok p =>
    rw [hp] at h
    cases h
    exact p.shorter

theorem exists_run_chain {tier : Tier} {d : Nat} {ts : List Token}
    (first : ∃ a, Run (.operand tier) d ts a)
    (more : ∀ e us, us.length < ts.length → ∃ a, Run (.links tier e) d us a) :
    ∃ a, Run (.chain tier) d ts a := by
  obtain ⟨a, hf⟩ := first
  match a with
  | .error f => exact ⟨_, .firstRefused hf⟩
  | .ok (e, us) =>
    obtain ⟨b, hl⟩ := more e us (length_lt_of_answer_operand hf.answer_eq)
    exact ⟨b, .chain hf hl⟩

theorem exists_run_links {tier : Tier} {left : Expr} {d : Nat} {ts : List Token}
    (operand : ∀ us, us.length < ts.length → ∃ a, Run (.operand tier) (d + 1) us a)
    (more : ∀ e us, us.length < ts.length → ∃ a, Run (.links tier e) (d + 1) us a) :
    ∃ a, Run (.links tier left) d ts a := by
  cases hat : operatorAt? tier.operators ts with
  | none => exact ⟨_, .linksEnd hat⟩
  | some op =>
    obtain ⟨hop, us, rfl⟩ := operatorAt?_eq_some.1 hat
    by_cases hd : d < maxNesting
    · obtain ⟨a, hr⟩ := operand us (by simp)
      match a with
      | .error f => exact ⟨_, .linkRefused hop hd hr⟩
      | .ok (right, vs) =>
        have hlt := length_lt_of_answer_operand hr.answer_eq
        obtain ⟨b, hl⟩ := more (.binary left op right) vs
          (by simp only [List.length_cons]; omega)
        exact ⟨b, .link hop hd hr hl⟩
    · exact ⟨_, .linkTooDeep hop (Nat.not_lt.1 hd)⟩

theorem exists_run_factor {d : Nat} {ts : List Token} (base : ∃ a, Run .primary d ts a)
    (exponent : ∀ us, us.length < ts.length → ∃ a, Run .factor (d + 1) us a) :
    ∃ a, Run .factor d ts a := by
  obtain ⟨a, hb⟩ := base
  match a with
  | .error f => exact ⟨_, .baseRefused hb⟩
  | .ok (b, us) =>
    have hlt := length_lt_of_answer_primary hb.answer_eq
    cases hat : operatorAt? [.pow] us with
    | none => exact ⟨_, .base hb hat⟩
    | some op =>
      obtain ⟨hop, vs, rfl⟩ := operatorAt?_eq_some.1 hat
      obtain rfl := List.mem_singleton.1 hop
      by_cases hd : d < maxNesting
      · obtain ⟨a, he⟩ := exponent vs (by simp only [List.length_cons] at hlt; omega)
        match a with
        | .error f => exact ⟨_, .exponentRefused hb hd he⟩
        | .ok (e, ws) => exact ⟨_, .power hb hd he⟩
      · exact ⟨_, .powerTooDeep hb (Nat.not_lt.1 hd)⟩

theorem exists_run_primary {d : Nat} {ts : List Token}
    (group : ∀ missing us, us.length < ts.length → ∃ a, Run (.group missing) d us a) :
    ∃ a, Run .primary d ts a := by
  match ts with
  | [] => exact ⟨_, .ended⟩
  | t :: ts =>
    by_cases ht : t.OpensOperand
    · obtain ⟨kind, text⟩ := t
      rcases ht with hk | hk | hk | ⟨f, hk⟩
      · obtain rfl : kind = .number := hk
        exact ⟨_, .number text⟩
      · obtain rfl : kind = .variable := hk
        exact ⟨_, .variable text⟩
      · rw [hk]
        obtain ⟨a, hg⟩ := group .missingClose ts (by simp)
        exact ⟨a, .group hg⟩
      · rw [hk]
        by_cases ho : ts.head? = some .openParen
        · obtain ⟨us, rfl⟩ := List.head?_eq_some_iff.1 ho
          obtain ⟨a, hg⟩ := group .missingCloseAfterArgument us
            (by simp only [List.length_cons]; omega)
          match a with
          | .error r => exact ⟨_, .argumentRefused f hg⟩
          | .ok (e, vs) => exact ⟨_, .call f hg⟩
        · exact ⟨_, .bare f ho⟩
    · exact ⟨_, .unexpected ht⟩

theorem exists_run_group {missing : SyntaxError.Cause} {d : Nat} {ts : List Token}
    (inner : ∃ a, Run (.chain .sum) (d + 1) ts a) : ∃ a, Run (.group missing) d ts a := by
  by_cases hd : d < maxNesting
  · obtain ⟨a, hi⟩ := inner
    match a with
    | .error f => exact ⟨_, .innerRefused hd hi⟩
    | .ok (e, us) =>
      by_cases hc : us.head? = some .closeParen
      · obtain ⟨vs, rfl⟩ := List.head?_eq_some_iff.1 hc
        exact ⟨_, .closed hd hi⟩
      · exact ⟨_, .unclosed hd hi hc⟩
  · exact ⟨_, .groupTooDeep (Nat.not_lt.1 hd)⟩

/-- How many goals a goal can lead to before a token is taken. -/
def Goal.rank : Goal → Nat
  | .links _ _ | .primary => 0
  | .factor => 1
  | .chain .product => 2
  | .chain .sum => 3
  | .group _ => 4

theorem Goal.rank_operand_lt (tier : Tier) : (operand tier).rank < (chain tier).rank := by
  cases tier <;> decide

/-- The parsers always answer, and some way leads to the answer. -/
theorem exists_run (goal : Goal) (d : Nat) (ts : List Token) : ∃ a, Run goal d ts a :=
  match goal with
  | .chain tier => exists_run_chain (exists_run (.operand tier) d ts)
      fun e us _ => exists_run (.links tier e) d us
  | .links tier _ => exists_run_links (fun us _ => exists_run (.operand tier) (d + 1) us)
      fun e us _ => exists_run (.links tier e) (d + 1) us
  | .factor => exists_run_factor (exists_run .primary d ts)
      fun us _ => exists_run .factor (d + 1) us
  | .primary => exists_run_primary fun missing us _ => exists_run (.group missing) d us
  | .group _ => exists_run_group (exists_run (.chain .sum) (d + 1) ts)
termination_by (ts.length, goal.rank)
decreasing_by
  · exact Prod.Lex.right _ (Goal.rank_operand_lt tier)
  · exact Prod.Lex.left _ _ ‹_›
  · exact Prod.Lex.left _ _ ‹_›
  · exact Prod.Lex.left _ _ ‹_›
  · exact Prod.Lex.right _ (by decide)
  · exact Prod.Lex.left _ _ ‹_›
  · exact Prod.Lex.left _ _ ‹_›
  · exact Prod.Lex.right _ (Nat.lt_succ_self 3)

/-- **The rules and the parsers give the same answers.** -/
theorem run_iff {goal : Goal} {d : Nat} {ts : List Token} {a : Answer} :
    Run goal d ts a ↔ goal.answer d ts = a := by
  refine ⟨Run.answer_eq, ?_⟩
  rintro rfl
  obtain ⟨a, h⟩ := exists_run goal d ts
  rw [h.answer_eq]
  exact h

end Parser

end Calculator
