import Calculator.Proofs.Expr.Reprint
import Calculator.Proofs.Token.Runs

/-!
# Malformed numbers

Arithmetic never fails, so an expression has a value unless a literal in it is no decimal number.
Operands are evaluated from left to right, and so the literal reported is the leftmost such one,
whatever the mode and the value of the variable.

For typed text the same is said of what was typed: joining makes literals of the runs of digits and
points, and parsing keeps their order, so the report shows the leftmost malformed run.

Main result: `evaluation_fails_iff_malformed`.
-/

namespace Calculator

/-! ## Literals -/

theorem exists_literalValue_eq_ok {text : String} (h : Text.IsDecimal text) :
    ∃ y, literalValue text = .ok y := by
  cases hread : Decimal.fixed? text with
  | none => exact absurd h (Decimal.fixed?_eq_none_iff.1 hread)
  | some y => exact ⟨_, by rw [literalValue, hread]⟩

theorem literalValue_eq_error {text : String} (h : ¬ Text.IsDecimal text) :
    literalValue text = .error (.invalidNumber text) := by
  rw [literalValue, Decimal.fixed?_eq_none_iff.2 h]

/-! ## Expressions -/

namespace Expr

variable {e : Expr} {text : String}

/-- The leftmost literal that is no decimal number. -/
def malformed? (e : Expr) : Option String := e.literals.find? (¬ Text.IsDecimal ·)

theorem malformed?_binary (left right : Expr) (op : Operator) :
    (binary left op right).malformed? = left.malformed?.or right.malformed? :=
  List.find?_append

theorem malformed?_literal (text : String) :
    (literal text).malformed? = if Text.IsDecimal text then none else some text := by
  rw [malformed?, literals, List.find?_singleton]
  simp

/-- Without malformed literals there is a value. -/
theorem exists_evalAt_eq_ok (h : e.malformed? = none) (mode : AngleMode) (x : Float) :
    ∃ y, e.evalAt mode x = .ok y := by
  induction e with
  | literal text =>
    rw [malformed?_literal] at h
    refine exists_literalValue_eq_ok ?_
    by_contra hnot
    rw [if_neg hnot] at h
    cases h
  | constant c => exact ⟨_, rfl⟩
  | «variable» => exact ⟨_, rfl⟩
  | binary left op right ihl ihr =>
    rw [malformed?_binary, Option.or_eq_none_iff] at h
    obtain ⟨l, hl⟩ := ihl h.1
    obtain ⟨r, hr⟩ := ihr h.2
    exact ⟨op.apply l r, by rw [evalAt, hl, hr]; rfl⟩
  | call f argument ih =>
    obtain ⟨a, ha⟩ := ih h
    exact ⟨f.applyIn mode a, by rw [evalAt, ha]; rfl⟩

/-- The leftmost malformed literal is reported. -/
theorem evalAt_eq_error_of_malformed? (h : e.malformed? = some text) (mode : AngleMode)
    (x : Float) : e.evalAt mode x = .error (.invalidNumber text) := by
  induction e with
  | literal text' =>
    rw [malformed?_literal, Option.ite_none_left_eq_some] at h
    obtain ⟨hnot, hsome⟩ := h
    obtain rfl := Option.some.inj hsome
    exact literalValue_eq_error hnot
  | constant c => cases h
  | «variable» => cases h
  | binary left op right ihl ihr =>
    rw [malformed?_binary, Option.or_eq_some_iff] at h
    rcases h with hl | ⟨hl, hr⟩
    · rw [evalAt, ihl hl]
      rfl
    · -- The operand on the left has a value, and so the one on the right is reached.
      obtain ⟨l, hl⟩ := exists_evalAt_eq_ok hl mode x
      rw [evalAt, hl, ihr hr]
      rfl
  | call f argument ih =>
    rw [evalAt, ih h]
    rfl

/-- **Evaluation fails exactly if a literal is malformed, and reports the leftmost such one.** -/
theorem evalAt_eq_error_iff {mode : AngleMode} {x : Float} {error : EvalError} :
    e.evalAt mode x = .error error ↔ ∃ text, e.malformed? = some text ∧
      error = .invalidNumber text := by
  constructor
  · intro herror
    cases h : e.malformed? with
    | none =>
      obtain ⟨y, hok⟩ := exists_evalAt_eq_ok h mode x
      rw [hok] at herror
      cases herror
    | some text =>
      rw [evalAt_eq_error_of_malformed? h] at herror
      exact ⟨text, rfl, (Except.error.inj herror).symm⟩
  · rintro ⟨text, h, rfl⟩
    exact evalAt_eq_error_of_malformed? h mode x

end Expr

/-! ## Typed text -/

section Typed

variable {text : String} {e : Expr} {ts : List Token}

/-- **The leftmost malformed literal is the leftmost malformed run of what was typed.** -/
theorem malformed?_of_compile (h : compile text = .ok e) (hts : tokenize text = .ok ts) :
    e.malformed? = (Token.malformedRun? ts).map Token.displayText := by
  obtain ⟨us, hus, hparse⟩ := compile_eq_ok_iff.1 h
  obtain rfl : ts = us := Except.ok.inj (hts.symm.trans hus)
  obtain ⟨c, -, hderives⟩ := exists_derives_of_parse hparse
  rw [Expr.malformed?, hderives.literals_eq]
  exact Token.find?_literalTexts_joinLiterals (isTypable_of_tokenize hts)

theorem evalAt_eq_error_iff_of_compile (h : compile text = .ok e) (hts : tokenize text = .ok ts)
    {mode : AngleMode} {x : Float} {error : EvalError} :
    e.evalAt mode x = .error error ↔ ∃ run, Token.malformedRun? ts = some run ∧
      error = .invalidNumber (Token.displayText run) := by
  rw [Expr.evalAt_eq_error_iff, malformed?_of_compile h hts]
  simp

/-- Text that does not compile never gets as far as its numbers. -/
theorem compile_ne_numeric (text : String) (error : EvalError) :
    compile text ≠ .error (.numeric error) := by
  unfold compile
  cases tokenize text with
  | error f => exact nofun
  | ok ts =>
    show (parse (Token.joinLiterals ts)).mapError Failure.syntactic ≠ _
    cases parse (Token.joinLiterals ts) <;> exact nofun

theorem evaluateText_eq_numeric_iff {mode : AngleMode} {error : EvalError} :
    evaluateText text mode = .error (.numeric error) ↔
      ∃ e, compile text = .ok e ∧ e.eval mode = .error error := by
  unfold evaluateText
  cases h : compile text with
  | error f =>
    refine iff_of_false (fun hnum => ?_) (by simp)
    obtain rfl : f = .numeric error := Except.error.inj hnum
    exact compile_ne_numeric text error h
  | ok e =>
    simp only [Except.ok.injEq, exists_eq_left']
    show (e.eval mode).mapError Failure.numeric = _ ↔ _
    cases e.eval mode <;> simp [Except.mapError]

end Typed

/-- **Evaluation fails exactly on malformed numbers.** An expression is evaluated to an error
exactly if one of its literals is no decimal number, and typed text exactly if one of its runs of
digits and points is malformed; the error has the text of the leftmost one, in every mode and for
every value of the variable. -/
theorem evaluation_fails_iff_malformed :
    (∀ (e : Expr) mode x error, e.evalAt mode x = .error error ↔
      ∃ text, e.malformed? = some text ∧ error = .invalidNumber text) ∧
    (∀ text e, compile text = .ok e → ∃ ts, tokenize text = .ok ts ∧
      ∀ mode x error, e.evalAt mode x = .error error ↔
        ∃ run, Token.malformedRun? ts = some run ∧
          error = .invalidNumber (Token.displayText run)) ∧
    ∀ text mode error, evaluateText text mode = .error (.numeric error) ↔
      ∃ e ts run, compile text = .ok e ∧ tokenize text = .ok ts ∧
        Token.malformedRun? ts = some run ∧ error = .invalidNumber (Token.displayText run) := by
  refine ⟨fun e mode x error => Expr.evalAt_eq_error_iff, fun text e h => ?_,
    fun text mode error => ?_⟩
  · obtain ⟨ts, hts, -⟩ := compile_eq_ok_iff.1 h
    exact ⟨ts, hts, fun mode x error => evalAt_eq_error_iff_of_compile h hts⟩
  · rw [evaluateText_eq_numeric_iff]
    constructor
    · rintro ⟨e, h, herror⟩
      obtain ⟨ts, hts, -⟩ := compile_eq_ok_iff.1 h
      obtain ⟨run, hrun⟩ := (evalAt_eq_error_iff_of_compile h hts).1 herror
      exact ⟨e, ts, run, h, hts, hrun⟩
    · rintro ⟨e, ts, run, h, hts, hrun⟩
      exact ⟨e, h, (evalAt_eq_error_iff_of_compile h hts).2 ⟨run, hrun⟩⟩

/-- Blanks do not end a run, and the number that is reported stands left of the lone point. -/
theorem evalAt_second_operand_malformed :
    let e : Expr := .binary .variable .add (.binary (.literal "1.2.5") .pow (.literal "."))
    compile "X+1 . 2.5^." = .ok e ∧
      e.evalAt .degrees 1.0 = .error (.invalidNumber "1.2.5") := by
  intro e
  have htokens : tokenize "X+1 . 2.5^." = .ok [.freeVariable, .operator "+", .number "1",
      .number ".", .number "2", .number ".", .number "5", .operator "^", .number "."] := by
    decide +kernel
  have hnum : e.HasNumerals := by decide
  have hparse : parse e.tokens = .ok e := hnum.derives_tokens.parse_eq_ok (by decide)
  have hcompile : compile "X+1 . 2.5^." = .ok e := compile_eq_ok_iff.2 ⟨_, htokens, hparse⟩
  obtain ⟨ts, hts, h⟩ := evaluation_fails_iff_malformed.2.1 _ _ hcompile
  obtain rfl := Except.ok.inj (htokens.symm.trans hts)
  exact ⟨hcompile, (h .degrees 1.0 _).2 ⟨[.number "1", .number ".", .number "2", .number ".",
    .number "5"], by decide, by decide⟩⟩

end Calculator
