import Calculator.Parser.Cursor
import Calculator.Proofs.Parser.Lookahead

/-!
# Reading at a cursor

Two programs read expressions. The parsers pass the depth down and hand back what is left of the
tokens; reading at a cursor changes the one cursor as it goes, and sets its depth back at the end of
each group, exponent and chain.

**Agreement** (`reads_of_run`). What a parser answers is what reading gives at every cursor with the
same tokens and depth: the same expression, or the same cause of an error, with the cursor moved to
what the answer leaves and the error where the cursor stands.

**The depth.** A reading ends at the depth it began at, and an error does as well, although it
leaves all the readings it lies in at once. The one exception is the links of a chain, which go a
level deeper with every operator; they end at some depth, and the chain around them sets it back.
-/

namespace Calculator.Cursor

open Calculator.Parser

/-! ## Readings one after another -/

namespace Reading

variable {m n : Nat} {r : Reading m}

theorem toProd_andThen_ok {next : Expr → (c : Cursor) → c.rest.length < m → Reading n} {e : Expr}
    {c : Cursor} (h : r.toProd = (.ok e, c)) :
    ∃ hc, (r.andThen next).toProd = (next e c hc).toProd := by
  obtain ⟨result, cursor, shorter⟩ := r
  cases h
  exact ⟨shorter e rfl, rfl⟩

theorem toProd_andThen_error {next : Expr → (c : Cursor) → c.rest.length < m → Reading n}
    {err : SyntaxError} {c : Cursor} (h : r.toProd = (.error err, c)) :
    (r.andThen next).toProd = (.error err, c) := by
  obtain ⟨result, cursor, shorter⟩ := r
  cases h
  rfl

end Reading

/-! ## What a reading gives -/

/-- The result that an answer amounts to at the position where it stops. -/
def resultAt (position : Nat) : Answer → Except SyntaxError Expr
  | .ok (e, _) => .ok e
  | .error f => .error ⟨f.cause, position⟩

/-- From position `p` and the tokens `ts`, the outcome is what the answer says: its result, and a
cursor moved to what the answer leaves, at depth `d`. -/
def Gives (p : Nat) (ts : List Token) (a : Answer) (d : Nat)
    (outcome : Except SyntaxError Expr × Cursor) : Prop :=
  ∃ taken, ts = taken ++ a.rest ∧
    outcome = (resultAt (p + taken.length) a, ⟨p + taken.length, a.rest, d⟩)

variable {m n p d k : Nat} {t : Token} {ts us : List Token} {a : Answer}
  {outcome : Except SyntaxError Expr × Cursor}

theorem gives_done {e : Expr} (h : ts.length < n) :
    Gives p ts (.ok (e, ts)) d (Reading.done e ⟨p, ts, d⟩ h).toProd := ⟨[], rfl, rfl⟩

theorem gives_fail {cause : SyntaxError.Cause} :
    Gives p ts (.error ⟨cause, ts⟩) d (Reading.fail ⟨p, ts, d⟩ cause : Reading n).toProd :=
  ⟨[], rfl, rfl⟩

namespace Gives

/-- What is given after some tokens is given from before them. -/
theorem after (first : List Token) (h : Gives (p + first.length) us a d outcome) :
    Gives p (first ++ us) a d outcome := by
  obtain ⟨taken, rfl, rfl⟩ := h
  exact ⟨first ++ taken, (List.append_assoc ..).symm, by rw [List.length_append, Nat.add_assoc]⟩

theorem afterToken (h : Gives (p + 1) us a d outcome) (t : Token) :
    Gives p (t :: us) a d outcome := h.after [t]

theorem restoreDepth {r : Reading n} (h : Gives p ts a d r.toProd) (k : Nat) :
    Gives p ts a k (r.restoreDepth k).toProd := by
  obtain ⟨taken, rfl, ho⟩ := h
  exact ⟨taken, rfl, congrArg (fun o => (o.1, o.2.restoreDepth k)) ho⟩

theorem andThen_ok {r : Reading m} {e : Expr}
    {next : Expr → (c : Cursor) → c.rest.length < m → Reading n}
    (h : Gives p ts (.ok (e, us)) d r.toProd)
    (hnext : ∀ q hq, Gives q us a k (next e ⟨q, us, d⟩ hq).toProd) :
    Gives p ts a k (r.andThen next).toProd := by
  obtain ⟨first, rfl, ho⟩ := h
  obtain ⟨hq, hr⟩ := Reading.toProd_andThen_ok ho
  rw [hr]
  exact (hnext _ hq).after first

theorem andThen_error {r : Reading m} {f : Refusal}
    {next : Expr → (c : Cursor) → c.rest.length < m → Reading n}
    (h : Gives p ts (.error f) d r.toProd) : Gives p ts (.error f) d (r.andThen next).toProd := by
  obtain ⟨taken, rfl, ho⟩ := h
  exact ⟨taken, rfl, Reading.toProd_andThen_error ho⟩

theorem map {r : Reading n} {e : Expr} (h : Gives p ts (.ok (e, us)) d r.toProd)
    (f : Expr → Expr) : Gives p ts (.ok (f e, us)) d (r.map f).toProd := by
  obtain ⟨taken, rfl, ho⟩ := h
  obtain ⟨hc, hr⟩ := Reading.toProd_andThen_ok ho
  exact ⟨taken, rfl, hr⟩

theorem map_error {r : Reading n} {g : Refusal} (h : Gives p ts (.error g) d r.toProd)
    (f : Expr → Expr) : Gives p ts (.error g) d (r.map f).toProd := h.andThen_error

end Gives

/-! ## One step of a reading -/

theorem enter_of_lt (hd : d < maxNesting) (h)
    (inside : (c : Cursor) → c.rest.length < (t :: ts).length → Reading n) :
    enter ⟨p, t :: ts, d⟩ h inside = inside ⟨p + 1, ts, d + 1⟩ (Nat.lt_succ_self _) := by
  have hdescend : descend ⟨p, t :: ts, d⟩ = (.ok (), ⟨p, t :: ts, d + 1⟩) := by
    simp only [descend, descend_of_lt hd]
  unfold enter
  simp only [hdescend]
  rfl

theorem enter_of_le (hd : maxNesting ≤ d) (h)
    (inside : (c : Cursor) → c.rest.length < ts.length → Reading n) :
    enter ⟨p, ts, d⟩ h inside = .fail ⟨p, ts, d⟩ .nestingTooDeep := by
  have hdescend : descend ⟨p, ts, d⟩ = (.error ⟨.nestingTooDeep, p⟩, ⟨p, ts, d⟩) := by
    simp only [descend, descend_of_le hd]
    rfl
  unfold enter
  simp only [hdescend]
  rfl

theorem enterOperator_of_none {accepted : List Operator} (h : operatorAt? accepted ts = none)
    (otherwise : Reading n) (inside) :
    enterOperator ⟨p, ts, d⟩ accepted otherwise inside = otherwise := by
  refine dif_neg ?_
  rw [peekOperator, h]
  exact Bool.false_ne_true

theorem enterOperator_cons {accepted : List Operator} {op : Operator} (h : op ∈ accepted)
    (otherwise : Reading n) (inside) :
    enterOperator ⟨p, .operator op.symbol :: ts, d⟩ accepted otherwise inside =
      enter ⟨p, .operator op.symbol :: ts, d⟩ (List.cons_ne_nil _ _) (inside op) := by
  have hat : peekOperator ⟨p, .operator op.symbol :: ts, d⟩ accepted = some op :=
    operatorAt?_cons_operator h ts
  have hsome := Option.isSome_of_eq_some hat
  rw [enterOperator, dif_pos hsome, Option.get_of_eq_some hsome hat]

theorem readPrimary_unexpected (h : ¬ t.OpensOperand) :
    readPrimary ⟨p, t :: ts, d⟩ = .fail ⟨p, t :: ts, d⟩ (.unexpectedToken t.text) := by
  obtain ⟨kind, text⟩ := t
  rw [readPrimary]
  cases kind with
  | number => exact absurd (.inl rfl) h
  | «variable» => exact absurd (.inr (.inl rfl)) h
  | operator => rfl
  | function => simp only [peek, List.head?_cons, Token.ofName?_eq_none h]
  | parenthesis => exact if_neg (Token.not_isParen_open h)

theorem peekParen_eq_false {c : Char} (h : ∀ t ∈ ts.head?, ¬ t.isParen c = true) :
    ¬ peekParen ⟨p, ts, d⟩ c = true := by
  cases ts with
  | nil => exact Bool.false_ne_true
  | cons t ts => exact h t rfl

theorem readPrimary_bare (h : ts.head? ≠ some .openParen) (f : Func) :
    readPrimary ⟨p, .function f.name :: ts, d⟩ =
      .fail ⟨p + 1, ts, d⟩ (.functionWithoutParens f.name) := by
  have hp : ¬ peekParen ⟨p + 1, ts, d⟩ '(' = true :=
    peekParen_eq_false fun t ht hopen => h (Token.isParen_open.1 hopen ▸ ht)
  rw [readPrimary]
  simp only [peek, List.head?_cons, Token.function, Func.ofName?_name]
  exact dif_neg hp

theorem readPrimary_call (f : Func) :
    (readPrimary ⟨p, .function f.name :: .openParen :: ts, d⟩).toProd =
      ((readGroup .missingCloseAfterArgument ⟨p + 1, .openParen :: ts, d⟩
        (List.cons_ne_nil _ _)).map (.call f ·)).toProd := by
  have hp : peekParen ⟨p + 1, .openParen :: ts, d⟩ '(' = true := Token.isParen_open.2 rfl
  rw [readPrimary]
  simp only [peek, List.head?_cons, Token.function, Func.ofName?_name]
  exact congrArg Reading.toProd (dif_pos hp)

theorem readPrimary_group :
    readPrimary ⟨p, .openParen :: ts, d⟩ =
      readGroup .missingClose ⟨p, .openParen :: ts, d⟩ (List.cons_ne_nil _ _) := by
  rw [readPrimary]
  exact if_pos (Token.isParen_open.2 rfl)

/-! ## Readings and parsers -/

/-- Reading what a goal asks for, at depth `d` from the tokens `ts`, gives what the answer says,
wherever the tokens begin. -/
def Reads (d : Nat) (ts : List Token) (a : Answer) : Goal → Prop
  | .chain tier => ∀ p, Gives p ts a d (readChain tier ⟨p, ts, d⟩).toProd
  | .links tier left => ∃ k, ∀ p, Gives p ts a k (readLinks tier left ⟨p, ts, d⟩).toProd
  | .factor => ∀ p, Gives p ts a d (readFactor ⟨p, ts, d⟩).toProd
  | .primary => ∀ p, Gives p ts a d (readPrimary ⟨p, ts, d⟩).toProd
  | .group missing => ∀ p, Gives p (.openParen :: ts) a d
      (readGroup missing ⟨p, .openParen :: ts, d⟩ (List.cons_ne_nil _ _)).toProd

theorem reads_operand {tier : Tier} :
    Reads d ts a (.operand tier) ↔ ∀ p, Gives p ts a d (readOperand tier ⟨p, ts, d⟩).toProd := by
  cases tier <;> simp only [readOperand] <;> rfl

/-- **What a parser answers is what reading at a cursor gives.** -/
theorem reads_of_run {goal : Goal} (h : Run goal d ts a) : Reads d ts a goal := by
  have hpow := List.mem_singleton_self Operator.pow
  induction h with
  | firstRefused _ ih =>
    intro p
    rw [readChain]
    exact ((reads_operand.1 ih p).andThen_error).restoreDepth _
  | chain _ _ ihf ihl =>
    obtain ⟨k, hlinks⟩ := ihl
    intro p
    rw [readChain]
    exact ((reads_operand.1 ihf p).andThen_ok fun q _ => hlinks q).restoreDepth _
  | @linksEnd _ _ d _ hend =>
    refine ⟨d, fun p => ?_⟩
    rw [readLinks, enterOperator_of_none hend]
    exact gives_done _
  | @linkTooDeep _ _ _ d _ hop hd =>
    refine ⟨d, fun p => ?_⟩
    rw [readLinks, enterOperator_cons hop, enter_of_le hd]
    exact gives_fail
  | @linkRefused _ _ _ d _ _ hop hd _ ih =>
    refine ⟨d + 1, fun p => ?_⟩
    rw [readLinks, enterOperator_cons hop, enter_of_lt hd]
    exact ((reads_operand.1 ih _).andThen_error).afterToken _
  | link hop hd _ _ ihr ihl =>
    obtain ⟨k, hlinks⟩ := ihl
    refine ⟨k, fun p => ?_⟩
    rw [readLinks, enterOperator_cons hop, enter_of_lt hd]
    exact ((reads_operand.1 ihr _).andThen_ok fun q _ => hlinks q).afterToken _
  | baseRefused _ ih =>
    intro p
    rw [readFactor]
    exact (ih p).andThen_error
  | base _ hus ih =>
    intro p
    rw [readFactor]
    refine (ih p).andThen_ok fun q hq => ?_
    rw [enterOperator_of_none hus]
    exact gives_done hq
  | powerTooDeep _ hd ih =>
    intro p
    rw [readFactor]
    refine (ih p).andThen_ok fun q hq => ?_
    rw [enterOperator_cons hpow, enter_of_le hd]
    exact gives_fail
  | exponentRefused _ hd _ ihb ihe =>
    intro p
    rw [readFactor]
    refine (ihb p).andThen_ok fun q hq => ?_
    rw [enterOperator_cons hpow, enter_of_lt hd]
    exact (((ihe _).restoreDepth _).map_error _).afterToken _
  | power _ hd _ ihb ihe =>
    intro p
    rw [readFactor]
    refine (ihb p).andThen_ok fun q hq => ?_
    rw [enterOperator_cons hpow, enter_of_lt hd]
    exact (((ihe _).restoreDepth _).map _).afterToken _
  | ended =>
    intro p
    rw [readPrimary]
    exact gives_fail
  | unexpected h =>
    intro p
    rw [readPrimary_unexpected h]
    exact gives_fail
  | number | «variable» =>
    intro p
    rw [readPrimary]
    exact (gives_done _).afterToken _
  | bare f h =>
    intro p
    rw [readPrimary_bare h]
    exact gives_fail.afterToken _
  | argumentRefused f _ ih =>
    intro p
    rw [readPrimary_call]
    exact ((ih _).map_error _).afterToken _
  | call f _ ih =>
    intro p
    rw [readPrimary_call]
    exact ((ih _).map _).afterToken _
  | group _ ih =>
    intro p
    rw [readPrimary_group]
    exact ih p
  | groupTooDeep hd =>
    intro p
    rw [readGroup, enter_of_le hd]
    exact gives_fail
  | innerRefused hd _ ih =>
    intro p
    rw [readGroup, enter_of_lt hd]
    exact (((ih _).andThen_error).restoreDepth _).afterToken _
  | @unclosed _ d _ us _ hd _ hus ih =>
    intro p
    rw [readGroup, enter_of_lt hd]
    refine (((ih _).andThen_ok (k := d + 1) fun q hq => ?_).restoreDepth _).afterToken _
    have hp : ¬ peekParen ⟨q, us, d + 1⟩ ')' = true :=
      peekParen_eq_false fun t ht hclose => hus (Token.isParen_close.1 hclose ▸ ht)
    rw [dif_neg hp]
    exact gives_fail
  | @closed _ d _ us _ hd _ ih =>
    intro p
    rw [readGroup, enter_of_lt hd]
    refine (((ih _).andThen_ok (k := d + 1) fun q hq => ?_).restoreDepth _).afterToken _
    have hp : peekParen ⟨q, .closeParen :: us, d + 1⟩ ')' = true := Token.isParen_close.2 rfl
    rw [dif_pos hp]
    exact (gives_done _).afterToken _

end Calculator.Cursor
