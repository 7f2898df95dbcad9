import Calculator.Proofs.Expr.Reprint
import Calculator.Proofs.Token.Grouping

/-!
# Compiling text put together from texts

What compiles on its own compiles to the same expression in parentheses, as a parenthesized operand
and as an argument.

**Tokens.** Reading a text with all its tokens does not look ahead, so the tokens of texts put side
by side are theirs side by side (`tokenize_append`). Digits of neighbouring texts may be joined, but
never across a token that is no literal (`Token.joinLiterals_append_cons`), and so never across a
parenthesis or an operator.

**The limit.** `TypedAs text e c` says that the grammar makes the text `e` at charge `c`.
Parentheses charge one level, and a second operand one more; past the limit the text is refused for
its nesting, and only then (`TypedAs.compilesTo`).

Main result: `compile_compose`.
-/

namespace Calculator

/-! ## Texts side by side -/

/-- A text with all its tokens is read alike wherever it begins and whatever follows it. -/
theorem tokensFrom_append {offset : Nat} {cs ds : List Char} {ts us : List Token}
    (hcs : tokensFrom offset cs = .ok ts) (hds : ∀ next, tokensFrom next ds = .ok us)
    (start : Nat) : tokensFrom start (cs ++ ds) = .ok (ts ++ us) := by
  induction cs using Lexeme.text_induction generalizing offset start ts with
  | nil =>
    rw [tokensFrom_nil] at hcs
    cases hcs
    exact hds start
  | layout c cs hc ih =>
    rw [tokensFrom_layout hc] at hcs
    rw [List.cons_append, tokensFrom_layout hc]
    exact ih hcs _
  | spelling s hs cs ih =>
    rw [tokensFrom_spelling hs] at hcs
    rw [List.append_assoc, tokensFrom_spelling hs]
    cases hrest : tokensFrom (offset + s.width) cs with
    | error e =>
      rw [hrest] at hcs
      cases hcs
    | ok rest =>
      rw [hrest] at hcs
      cases hcs
      rw [ih hrest]
      rfl
  | stray c cs hc hat _ =>
    rw [tokensFrom_stray hc hat] at hcs
    cases hcs

/-- **Texts side by side are read as their tokens side by side.** -/
theorem tokenize_append {a b : String} {ts us : List Token} (ha : tokenize a = .ok ts)
    (hb : tokenize b = .ok us) : tokenize (a ++ b) = .ok (ts ++ us) := by
  rw [tokenize_eq_tokensFrom] at ha hb ⊢
  rw [String.toList_append]
  refine tokensFrom_append ha (fun next => ?_) 0
  have h := tokensFrom_append hb tokensFrom_nil next
  rwa [List.append_nil, List.append_nil] at h

/-- The text is a spelling of the token. -/
def Token.IsSpelledBy (t : Token) (text : String) : Prop :=
  ∃ s ∈ Spelling.all, s.written = text.toList ∧ s.token = t

instance (t : Token) (text : String) : Decidable (t.IsSpelledBy text) := by
  unfold Token.IsSpelledBy
  infer_instance

theorem Token.IsSpelledBy.tokenize {t : Token} {text : String} (h : t.IsSpelledBy text) :
    tokenize text = .ok [t] := by
  obtain ⟨s, hs, hw, rfl⟩ := h
  have hread := tokensFrom_spelling hs 0 []
  rw [List.append_nil, hw, tokensFrom_nil] at hread
  exact hread

/-! ## Texts that the grammar makes expressions -/

/-- The tokens of the text, its literals joined, are `ts`. -/
def IsReadAs (text : String) (ts : List Token) : Prop :=
  ∃ us, tokenize text = .ok us ∧ Token.joinLiterals us = ts

theorem isReadAs_empty : IsReadAs "" [] := ⟨[], by decide +kernel, rfl⟩

/-- Text around a token that is no literal. -/
theorem IsReadAs.join {a o b : String} {t : Token} {ts us : List Token} (ha : IsReadAs a ts)
    (ho : t.IsSpelledBy o) (ht : ¬ t.isLiteral = true) (hb : IsReadAs b us) :
    IsReadAs (a ++ o ++ b) (ts ++ t :: us) := by
  obtain ⟨ts, hts, rfl⟩ := ha
  obtain ⟨us, hus, rfl⟩ := hb
  refine ⟨ts ++ t :: us, ?_, Token.joinLiterals_append_cons ht ts us⟩
  have h := tokenize_append (tokenize_append hts ho.tokenize) hus
  rwa [List.append_assoc, List.singleton_append] at h

theorem IsReadAs.enclose {a : String} {ts : List Token} (ha : IsReadAs a ts) :
    IsReadAs ("(" ++ a ++ ")") (.openParen :: (ts ++ [.closeParen])) := by
  have hopen : Token.openParen.IsSpelledBy "(" := by decide
  have hclose : Token.closeParen.IsSpelledBy ")" := by decide
  have h := (isReadAs_empty.join hopen (by decide) ha).join hclose (by decide) isReadAs_empty
  rwa [String.empty_append, String.append_empty] at h

/-- The grammar makes the text the expression, at charge `c`. -/
def TypedAs (text : String) (e : Expr) (c : Nat) : Prop :=
  ∃ ts, IsReadAs text ts ∧ Derives .expression ts e c

theorem exists_typedAs_of_compile {text : String} {e : Expr} (h : compile text = .ok e) :
    ∃ c, TypedAs text e c := by
  obtain ⟨ts, htok, hparse⟩ := compile_eq_ok_iff.1 h
  obtain ⟨c, -, hderives⟩ := exists_derives_of_parse hparse
  exact ⟨c, _, ⟨ts, htok, rfl⟩, hderives⟩

/-- The text compiles to the expression, or it is refused for its nesting and does show more
operators and opening parentheses than the limit allows levels. -/
def CompilesTo (text : String) (e : Expr) : Prop :=
  compile text = .ok e ∨
    (∃ position, compile text = .error (.syntactic ⟨.nestingTooDeep, position⟩)) ∧
      ∃ ts, tokenize text = .ok ts ∧ maxNesting < nestingCount ts

theorem IsReadAs.compile_eq {text : String} {ts : List Token} (h : IsReadAs text ts) :
    compile text = (parse ts).mapError .syntactic := by
  obtain ⟨us, hus, rfl⟩ := h
  rw [compile, hus]
  rfl

theorem TypedAs.compile_eq_ok {text : String} {e : Expr} {c : Nat} (h : TypedAs text e c)
    (hc : c ≤ maxNesting) : compile text = .ok e := by
  obtain ⟨ts, hread, hderives⟩ := h
  rw [hread.compile_eq, hderives.parse_eq_ok hc]
  rfl

/-- **What the grammar makes of a text is what it compiles to**, up to the nesting limit. -/
theorem TypedAs.compilesTo {text : String} {e : Expr} {c : Nat} (h : TypedAs text e c) :
    CompilesTo text e := by
  by_cases hc : c ≤ maxNesting
  · exact .inl (h.compile_eq_ok hc)
  · obtain ⟨_, hread, hderives⟩ := h
    obtain ⟨position, hparse⟩ := hderives.parse_eq_tooDeep (Nat.lt_of_not_le hc)
    refine .inr ⟨⟨position, by rw [hread.compile_eq, hparse]; rfl⟩, ?_⟩
    obtain ⟨us, hus, rfl⟩ := hread
    have hcount := hderives.charge_le
    rw [nestingCount, Token.displayText_joinLiterals] at hcount
    exact ⟨us, hus, Nat.lt_of_lt_of_le (Nat.lt_of_not_le hc) hcount⟩

theorem CompilesTo.compile_eq_ok {text : String} {e : Expr} {ts : List Token}
    (h : CompilesTo text e) (hts : tokenize text = .ok ts) (hcount : nestingCount ts ≤ maxNesting) :
    compile text = .ok e := by
  rcases h with hok | ⟨-, us, hus, hlt⟩
  · exact hok
  · rw [hts] at hus
    cases hus
    exact absurd hlt (Nat.not_lt.2 hcount)

/-! ## Putting together -/

/-- Two primaries joined by an operator; the second is charged one level more. -/
theorem Derives.binary_primary {ts us : List Token} {l r : Expr} {c d : Nat}
    (hl : Derives .primary ts l c) (hr : Derives .primary us r d) (op : Operator) :
    Derives .expression (ts ++ .operator op.symbol :: us) (.binary l op r) (max c (1 + d)) := by
  cases op with
  | add => exact .chain (.next (.first hl.base.toTerm) .add hr.base.toTerm)
  | sub => exact .chain (.next (.first hl.base.toTerm) .sub hr.base.toTerm)
  | mul => exact toExpression (.chain (.next (.first hl.base) .mul hr.base))
  | div => exact toExpression (.chain (.next (.first hl.base) .div hr.base))
  | pow => exact (Derives.power hl hr.base).toTerm.toExpression

namespace TypedAs

variable {a b : String} {l r : Expr} {c d : Nat}

theorem enclose (h : TypedAs a l c) : TypedAs ("(" ++ a ++ ")") l (1 + c) := by
  obtain ⟨ts, hread, hderives⟩ := h
  exact ⟨_, hread.enclose, (Derives.group hderives).base.toTerm.toExpression⟩

theorem binary (ha : TypedAs a l c) (hb : TypedAs b r d) {op : Operator} {o : String}
    (ho : (Token.operator op.symbol).IsSpelledBy o) :
    TypedAs ("(" ++ a ++ ")" ++ o ++ ("(" ++ b ++ ")")) (.binary l op r)
      (max (1 + c) (1 + (1 + d))) := by
  obtain ⟨ts, hts, hl⟩ := ha
  obtain ⟨us, hus, hr⟩ := hb
  have hop : ¬ (Token.operator op.symbol).isLiteral = true := Token.not_isLiteral nofun
  exact ⟨_, hts.enclose.join ho hop hus.enclose, (Derives.group hl).binary_primary (.group hr) op⟩

theorem call (h : TypedAs a l c) {f : Func} {name : String}
    (hname : (Token.function f.name).IsSpelledBy name) :
    TypedAs (name ++ ("(" ++ a ++ ")")) (.call f l) (1 + c) := by
  obtain ⟨ts, hread, hderives⟩ := h
  have hf : ¬ (Token.function f.name).isLiteral = true := Token.not_isLiteral nofun
  have hjoin := isReadAs_empty.join hname hf hread.enclose
  rw [String.empty_append, List.nil_append] at hjoin
  exact ⟨_, hjoin, (Derives.call f hderives).base.toTerm.toExpression⟩

end TypedAs

theorem evaluateText_eq_error {text : String} {f : Failure} (h : compile text = .error f)
    (mode : AngleMode) : evaluateText text mode = .error f := by
  rw [evaluateText, h]
  rfl

/-- **Texts that compile can be put together**: in parentheses, as operands in parentheses with any
spelling of an operator between them, and as the argument of any spelling of a function. The parts
mean there what they mean on their own, and in particular parentheses leave a value alone. -/
theorem compile_compose {a b : String} {l r : Expr} (ha : compile a = .ok l)
    (hb : compile b = .ok r) :
    CompilesTo ("(" ++ a ++ ")") l ∧
    (∀ op o, (Token.operator op.symbol).IsSpelledBy o →
      CompilesTo ("(" ++ a ++ ")" ++ o ++ ("(" ++ b ++ ")")) (.binary l op r)) ∧
    (∀ f name, (Token.function f.name).IsSpelledBy name →
      CompilesTo (name ++ ("(" ++ a ++ ")")) (.call f l)) ∧
    ∀ mode, evaluateText ("(" ++ a ++ ")") mode = evaluateText a mode ∨
      ∃ position, evaluateText ("(" ++ a ++ ")") mode =
        .error (.syntactic ⟨.nestingTooDeep, position⟩) := by
  obtain ⟨c, hl⟩ := exists_typedAs_of_compile ha
  obtain ⟨d, hr⟩ := exists_typedAs_of_compile hb
  refine ⟨hl.enclose.compilesTo, fun op o ho => (hl.binary hr ho).compilesTo,
    fun f name hname => (hl.call hname).compilesTo, fun mode => ?_⟩
  rcases hl.enclose.compilesTo with hok | ⟨⟨position, hdeep⟩, -⟩
  · left
    rw [evaluateText, hok, evaluateText, ha]
  · exact .inr ⟨position, evaluateText_eq_error hdeep mode⟩

/-- Blanks, a sum inside the parentheses, and spellings that are not those on the keypad. -/
theorem compile_compose_spaced :
    compile "( 1 +2)*(x)" =
        .ok (.binary (.binary (.literal "1") .add (.literal "2")) .mul .variable) ∧
      compile "sqrt( 1 +2)" = .ok (.call .sqrt (.binary (.literal "1") .add (.literal "2"))) := by
  have hone : Derives .primary [.number "1"] (.literal "1") 0 :=
    .literal (Text.IsNumeral.ne_symbol (by decide))
  have htwo : Derives .primary [.number "2"] (.literal "2") 0 :=
    .literal (Text.IsNumeral.ne_symbol (by decide))
  have hsum : TypedAs " 1 +2" (.binary (.literal "1") .add (.literal "2")) 1 :=
    ⟨_, ⟨[.number "1", .operator "+", .number "2"], by decide +kernel, rfl⟩,
      hone.binary_primary htwo .add⟩
  have hx : TypedAs "x" .variable 0 :=
    ⟨_, ⟨[.freeVariable], by decide +kernel, rfl⟩,
      (Derives.variable "X").base.toTerm.toExpression⟩
  obtain ⟨-, hbinary, hcall, -⟩ :=
    compile_compose (hsum.compile_eq_ok (by decide)) (hx.compile_eq_ok (by decide))
  have hbinaryTokens : tokenize "( 1 +2)*(x)" =
      .ok [.openParen, .number "1", .operator "+", .number "2", .closeParen, .operator "×",
        .openParen, .freeVariable, .closeParen] := by decide +kernel
  have hcallTokens : tokenize "sqrt( 1 +2)" =
      .ok [.function "√", .openParen, .number "1", .operator "+", .number "2", .closeParen] := by
    decide +kernel
  exact ⟨(hbinary .mul "*" (by decide)).compile_eq_ok hbinaryTokens (by decide),
    (hcall .sqrt "sqrt" (by decide)).compile_eq_ok hcallTokens (by decide)⟩

end Calculator
