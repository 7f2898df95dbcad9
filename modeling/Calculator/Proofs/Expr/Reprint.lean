import Calculator.Compile
import Calculator.Proofs.Expr.Charge
import Calculator.Proofs.Parser.Acceptance
import Calculator.Proofs.Token.Joining

/-!
# Compiling what was printed

An expression printed and compiled again is the same expression, as long as its printed form
stays within the nesting limit; past the limit it is refused for its nesting, and there is no
third case.

**Numerals.** The literals of the expression have to be numerals, so that their characters can be
typed and no literal is empty. Every expression that was itself compiled is such
(`hasNumerals_of_compile`).

**The limit.** Printing drops parentheses, and a group that was on the left of a chain becomes a
part of the chain, which charges every operand after it more. So an expression at the limit may
print as one past it, and then what compiles does not compile once printed. `Expr.charge` decides
when (`compile_display_iff_of_compile`).
-/

namespace Calculator

/-! ## From printed text to printed tokens -/

/-- Every literal of the expression is a numeral. -/
def Expr.HasNumerals (e : Expr) : Prop := ∀ text ∈ e.literals, Text.IsNumeral text

instance (e : Expr) : Decidable e.HasNumerals := by unfold Expr.HasNumerals; infer_instance

namespace Derives

variable {line : Line} {ts : List Token} {e : Expr} {c : Nat}

/-- No two literals stand side by side in what is derived. -/
theorem areSeparate (h : Derives line ts e c) : Token.AreSeparate ts := by
  have hclose : ¬ Token.closeParen.isLiteral = true := Token.not_isLiteral nofun
  have henclose {ts : List Token} (hts : Token.AreSeparate ts) :
      Token.AreSeparate (.openParen :: (ts ++ [.closeParen])) :=
    (hts.join hclose Token.areSeparate_nil).cons (Token.not_isLiteral nofun)
  induction h with
  | constant | literal | «variable» => exact List.isChain_singleton _
  | call f _ ih => exact (henclose ih).cons (Token.not_isLiteral nofun)
  | group _ ih => exact henclose ih
  | power _ _ ihl ihr => exact ihl.join (Token.not_isLiteral nofun) ihr
  | next _ _ _ ihl ihr => exact ihl.join (Token.not_isLiteral nofun) ihr
  | base _ ih | first _ ih | chain _ ih => exact ih

/-- The literals of an expression are those among its tokens, in their order. -/
theorem literals_eq (h : Derives line ts e c) : e.literals = Token.literalTexts ts := by
  have hopen : ¬ Token.openParen.isLiteral = true := Token.not_isLiteral nofun
  have hclose : ¬ Token.closeParen.isLiteral = true := Token.not_isLiteral nofun
  have henclose (ts : List Token) : Token.literalTexts (.openParen :: (ts ++ [.closeParen])) =
      Token.literalTexts ts := by
    rw [Token.literalTexts_cons hopen, Token.literalTexts_append, Token.literalTexts_cons hclose]
    exact List.append_nil _
  have hjoin (ts us : List Token) (symbol : String) :
      Token.literalTexts (ts ++ .operator symbol :: us) =
        Token.literalTexts ts ++ Token.literalTexts us := by
    have hsymbol : ¬ (Token.operator symbol).isLiteral = true := Token.not_isLiteral nofun
    rw [Token.literalTexts_append, Token.literalTexts_cons hsymbol]
  induction h with
  | constant k => cases k <;> rfl
  | @literal text h =>
    have hlit : (Token.number text).isLiteral = true := Token.isLiteral_iff.2 ⟨rfl, h⟩
    exact (Token.literalTexts_singleton hlit).symm
  | «variable» => rfl
  | call f _ ih =>
    have hname : ¬ (Token.function f.name).isLiteral = true := Token.not_isLiteral nofun
    rw [Token.literalTexts_cons hname, henclose, ← ih]
    rfl
  | group _ ih => rw [henclose, ← ih]
  | power _ _ ihl ihr | next _ _ _ ihl ihr =>
    rw [hjoin, ← ihl, ← ihr]
    rfl
  | base _ ih | first _ ih | chain _ ih => exact ih

end Derives

theorem compile_eq_ok_iff {text : String} {e : Expr} :
    compile text = .ok e ↔
      ∃ ts, tokenize text = .ok ts ∧ parse (Token.joinLiterals ts) = .ok e := by
  unfold compile
  cases tokenize text with
  | error f => simp
  | ok ts =>
    simp only [compileTokens, Except.ok.injEq, exists_eq_left']
    cases parse (Token.joinLiterals ts) <;> simp [Except.mapError]

/-- Tokens whose display text is typed are read as these tokens, if joining left them. -/
theorem compile_displayText {ts : List Token} (hnum : Token.HaveNumerals ts)
    (hsep : Token.AreSeparate ts) (h : ∀ t ∈ ts, ¬ t.isLiteral = true → t.IsTypable) :
    compile (Token.displayText ts) = (parse ts).mapError .syntactic := by
  have htyped : tokenize (Token.displayText ts) = .ok (Token.spread ts) := by
    rw [← Token.displayText_spread]
    exact tokenize_displayText (Token.isTypable_of_mem_spread hnum h)
  rw [compile, htyped]
  show compileTokens (Token.spread ts) = _
  rw [compileTokens, Token.joinLiterals_spread hnum hsep]

namespace Expr

/-- A token that is typable, or the number of one of the texts. -/
def Prints (texts : List String) (t : Token) : Prop :=
  t.IsTypable ∨ ∃ text ∈ texts, t = .number text

theorem Prints.mono {texts more : List String} (h : texts ⊆ more) {t : Token}
    (ht : Prints texts t) : Prints more t := by
  obtain ht | ⟨text, htext, rfl⟩ := ht
  · exact .inl ht
  · exact .inr ⟨text, h htext, rfl⟩

theorem prints_of_mem_enclosed {texts : List String} {ts : List Token}
    (h : ∀ t ∈ ts, Prints texts t) (needed : Bool) : ∀ t ∈ enclosed needed ts, Prints texts t := by
  have hopen : Prints texts .openParen := .inl (by decide)
  have hclose : Prints texts .closeParen := .inl (by decide)
  unfold enclosed
  split
  · exact List.forall_mem_cons.2
      ⟨hopen, List.forall_mem_append.2 ⟨h, List.forall_mem_singleton.2 hclose⟩⟩
  · exact h

/-- The printed tokens are typable, except for the literals. -/
theorem prints_of_mem_tokens (e : Expr) : ∀ t ∈ e.tokens, Prints e.literals t := by
  induction e with
  | literal text => exact List.forall_mem_singleton.2 (.inr ⟨text, List.mem_singleton_self _, rfl⟩)
  | constant k => exact List.forall_mem_singleton.2 (.inl (by cases k <;> decide))
  | «variable» => exact List.forall_mem_singleton.2 (.inl (by decide))
  | binary left op right ihl ihr =>
    have hsymbol : (Token.operator op.symbol).IsTypable := by cases op <;> decide
    have hl : ∀ t ∈ left.tokens, Prints (binary left op right).literals t := fun t ht =>
      (ihl t ht).mono (List.subset_append_left _ _)
    have hr : ∀ t ∈ right.tokens, Prints (binary left op right).literals t := fun t ht =>
      (ihr t ht).mono (List.subset_append_right _ _)
    rw [tokens_binary]
    exact List.forall_mem_append.2 ⟨prints_of_mem_enclosed hl _,
      List.forall_mem_cons.2 ⟨.inl hsymbol, prints_of_mem_enclosed hr _⟩⟩
  | call f argument ih =>
    have hname : (Token.function f.name).IsTypable := by cases f <;> decide
    rw [tokens_call]
    exact List.forall_mem_cons.2 ⟨.inl hname, prints_of_mem_enclosed ih _⟩

variable {e : Expr}

/-- Printed numerals make the expression again, at its charge. -/
theorem HasNumerals.derives_tokens (h : e.HasNumerals) :
    Derives .expression e.tokens e e.charge :=
  Expr.derives_tokens fun text htext => (h text htext).ne_symbol

theorem HasNumerals.compile_display_eq_parse (h : e.HasNumerals) :
    compile e.display = (parse e.tokens).mapError .syntactic := by
  refine compile_displayText ?_ h.derives_tokens.areSeparate ?_
  · intro t ht hlit
    obtain ht | ⟨text, htext, rfl⟩ := e.prints_of_mem_tokens t ht
    · exact ht.isNumeral hlit
    · exact h text htext
  · intro t ht hlit
    obtain ht | ⟨text, htext, rfl⟩ := e.prints_of_mem_tokens t ht
    · exact ht
    · exact absurd (Token.isLiteral_number (h text htext)) hlit

/-! ## Within the limit and past it -/

theorem HasNumerals.compile_display_of_le (h : e.HasNumerals) (hc : e.charge ≤ maxNesting) :
    compile e.display = .ok e := by
  rw [h.compile_display_eq_parse, h.derives_tokens.parse_eq_ok hc]
  rfl

theorem HasNumerals.compile_display_of_lt (h : e.HasNumerals) (hc : maxNesting < e.charge) :
    ∃ position, compile e.display = .error (.syntactic ⟨.nestingTooDeep, position⟩) := by
  obtain ⟨position, hparse⟩ := h.derives_tokens.parse_eq_tooDeep hc
  refine ⟨position, ?_⟩
  rw [h.compile_display_eq_parse, hparse]
  rfl

/-- The printed form never charges more than the operators and opening parentheses it shows. -/
theorem HasNumerals.charge_le (h : e.HasNumerals) :
    e.charge ≤ e.display.toList.countP isNesting :=
  h.derives_tokens.charge_le

/-- **What was compiled has numerals for literals.** -/
theorem hasNumerals_of_compile {text : String} (h : compile text = .ok e) : e.HasNumerals := by
  obtain ⟨ts, htok, hparse⟩ := compile_eq_ok_iff.1 h
  obtain ⟨c, -, hderives⟩ := exists_derives_of_parse hparse
  have hnum := Token.haveNumerals_joinLiterals (isTypable_of_tokenize htok)
  intro text htext
  rw [hderives.literals_eq] at htext
  obtain ⟨t, ht, rfl⟩ := List.mem_map.1 htext
  obtain ⟨hmem, hlit⟩ := List.mem_filter.1 ht
  exact hnum t hmem hlit

end Expr

/-- **Compiling takes printing back**, where literals are numerals: the answer is the printed
expression or, only if more operators and parentheses are printed than the limit, a refusal for
the nesting. Whatever is compiled has numerals for literals. -/
theorem compile_display (e : Expr) :
    (e.HasNumerals →
      (compile e.display = .ok e ∨
        ∃ position, compile e.display = .error (.syntactic ⟨.nestingTooDeep, position⟩)) ∧
      (e.display.toList.countP isNesting ≤ maxNesting → compile e.display = .ok e)) ∧
    ∀ text, compile text = .ok e → e.HasNumerals := by
  refine ⟨fun h => ⟨?_, fun hcount => ?_⟩, fun text => Expr.hasNumerals_of_compile⟩
  · by_cases hc : e.charge ≤ maxNesting
    · exact .inl (h.compile_display_of_le hc)
    · exact .inr (h.compile_display_of_lt (Nat.lt_of_not_le hc))
  · exact h.compile_display_of_le (Nat.le_trans h.charge_le hcount)

/-- Parentheses that the grouping needs are printed, and read back. -/
theorem compile_display_difference :
    compile "1.5-(2-X)" =
      .ok (.binary (.literal "1.5") .sub (.binary (.literal "2") .sub .variable)) := by
  have h := compile_display (.binary (.literal "1.5") .sub (.binary (.literal "2") .sub .variable))
  have htext : Expr.display (.binary (.literal "1.5") .sub (.binary (.literal "2") .sub .variable)) =
      "1.5-(2-X)" := by decide
  rw [htext] at h
  exact (h.1 (by decide)).2 (by decide)

/-- **What compiles survives being printed exactly if its printed form stays within the limit**,
and is refused for its nesting otherwise. -/
theorem compile_display_iff_of_compile {text : String} {e : Expr} (h : compile text = .ok e) :
    (compile e.display = .ok e ↔ e.charge ≤ maxNesting) ∧
      (maxNesting < e.charge →
        ∃ position, compile e.display = .error (.syntactic ⟨.nestingTooDeep, position⟩)) := by
  have hnum := Expr.hasNumerals_of_compile h
  refine ⟨⟨fun hok => ?_, hnum.compile_display_of_le⟩, hnum.compile_display_of_lt⟩
  by_contra hc
  obtain ⟨position, herror⟩ := hnum.compile_display_of_lt (Nat.lt_of_not_le hc)
  rw [hok] at herror
  cases herror

/-! ## A group that printing opens -/

/-- So many calls of a function, one inside the other, around the variable. -/
def Expr.nest (f : Func) : Nat → Expr
  | 0 => .variable
  | n + 1 => .call f (nest f n)

/-- An expression as the last operand of a sum of three. -/
def Expr.onto (right : Expr) : Expr :=
  .binary (.binary (.literal "1") .add (.literal "2")) .add right

namespace Expr

theorem charge_nest (f : Func) (n : Nat) : (nest f n).charge = n := by
  induction n with
  | zero => rfl
  | succ n ih => rw [nest, charge, ih, Nat.add_comm]

theorem binding_nest (f : Func) (n : Nat) : (nest f n).binding = 4 := by
  cases n <;> rfl

theorem literals_nest (f : Func) (n : Nat) : (nest f n).literals = [] := by
  induction n with
  | zero => rfl
  | succ n ih => exact ih

theorem hasNumerals_onto_nest (f : Func) (n : Nat) : (nest f n).onto.HasNumerals := by
  have hsum : ∀ text ∈ ["1", "2"], Text.IsNumeral text := by decide
  intro text htext
  have hlit : (nest f n).onto.literals = ["1", "2"] ++ (nest f n).literals := rfl
  rw [hlit, literals_nest, List.append_nil] at htext
  exact hsum text htext

/-- Without parentheses around the sum on the left, calls charge one level more than as the
second operand of a sum. -/
theorem charge_onto_nest (f : Func) (n : Nat) : n + 2 ≤ (nest f n).onto.charge := by
  have h : (nest f n).onto.charge =
      max (enclosedCharge false 1)
        (2 + enclosedCharge ((nest f n).needsParensRight .add) (nest f n).charge) := rfl
  have hbinding : ¬ (nest f n).binding < Operator.add.rightBinding := by
    rw [binding_nest]
    decide
  rw [h, needsParensRight_eq, decide_eq_false hbinding, charge_nest]
  exact Nat.le_trans (Nat.le_of_eq (Nat.add_comm n 2)) (Nat.le_max_right _ _)

theorem isTypable_of_mem_tokens_nest {f : Func} {n : Nat} {t : Token}
    (h : t ∈ (nest f n).tokens) : t.IsTypable := by
  obtain ht | ⟨text, htext, -⟩ := (nest f n).prints_of_mem_tokens t h
  · exact ht
  · rw [literals_nest] at htext
    exact absurd htext List.not_mem_nil

/-- With parentheses around the sum on the left, calls are the second operand of a sum. -/
theorem derives_onto_nest (f : Func) (n : Nat) :
    Derives .expression
      ([.openParen, .number "1", .operator "+", .number "2", .closeParen] ++
        .operator "+" :: (nest f n).tokens)
      (nest f n).onto (max 2 (1 + n)) := by
  have hnum : (binary (.literal "1") .add (.literal "2")).HasNumerals := by decide
  have hleft : Derives (.links .sum 0)
      [.openParen, .number "1", .operator "+", .number "2", .closeParen] _ 2 :=
    .first (Derives.base (.group hnum.derives_tokens)).toTerm
  have hlit : ∀ text ∈ (nest f n).literals, ∀ k : Constant, text ≠ k.symbol := by
    rw [literals_nest]
    exact fun text htext => absurd htext List.not_mem_nil
  have hcalls := derives_tokens_of_binding hlit
  rw [binding_nest, charge_nest] at hcalls
  have hright : Derives (.ofBinding 2 0) (nest f n).tokens (nest f n) n :=
    Derives.loosen_to (by decide) (by decide) (Nat.le_refl 4) hcalls
  have h := Derives.chain (.next hleft .add (.chain hright))
  rwa [Nat.zero_add] at h

/-- Calls with a sum in parentheses before them compile, one level below the limit. -/
theorem compile_onto_nest (f : Func) {n : Nat} (h : 1 + n ≤ maxNesting) :
    compile ("(1+2)+" ++ (nest f n).display) = .ok (nest f n).onto := by
  have htext : "(1+2)+" ++ (nest f n).display = Token.displayText
      ([.openParen, .number "1", .operator "+", .number "2", .closeParen] ++
        .operator "+" :: (nest f n).tokens) := by
    rw [List.append_cons, Token.displayText_append]
    rfl
  have hbefore : ∀ t ∈ [Token.openParen, .number "1", .operator "+", .number "2", .closeParen] ++
      [.operator "+"], t.IsTypable := by decide
  have htyped : ∀ t ∈ [Token.openParen, .number "1", .operator "+", .number "2", .closeParen] ++
      .operator "+" :: (nest f n).tokens, t.IsTypable := by
    intro t ht
    rw [List.append_cons] at ht
    rcases List.mem_append.1 ht with ht | ht
    · exact hbefore t ht
    · exact isTypable_of_mem_tokens_nest ht
  have hderives := derives_onto_nest f n
  have hnum : Token.HaveNumerals _ := fun t ht hlit => (htyped t ht).isNumeral hlit
  rw [htext, compile_displayText hnum hderives.areSeparate fun t ht _ => htyped t ht,
    hderives.parse_eq_ok (Nat.max_le.2 ⟨by decide, h⟩)]
  rfl

end Expr

/-- **Not everything that compiles survives being printed**: printing opens the group, and the
calls after it are then one level too deep. -/
theorem not_forall_compile_display :
    ¬ ∀ text e, compile text = .ok e → compile e.display = .ok e := by
  intro hall
  have h := hall _ _ (Expr.compile_onto_nest .sin (n := 255) (by decide))
  have hnum := Expr.hasNumerals_onto_nest .sin 255
  have hcharge := Nat.lt_of_lt_of_le (by decide : maxNesting < 255 + 2)
    (Expr.charge_onto_nest .sin 255)
  obtain ⟨position, herror⟩ := hnum.compile_display_of_lt hcharge
  rw [h] at herror
  cases herror

/-- The calls are refused for their nesting, although the text with the group compiles. -/
theorem compile_display_onto_nest_sin :
    compile ("(1+2)+" ++ (Expr.nest .sin 255).display) = .ok (Expr.nest .sin 255).onto ∧
      ∃ position, compile (Expr.nest .sin 255).onto.display =
        .error (.syntactic ⟨.nestingTooDeep, position⟩) := by
  have h := Expr.compile_onto_nest .sin (n := 255) (by decide)
  have hcharge := Nat.lt_of_lt_of_le (by decide : maxNesting < 255 + 2)
    (Expr.charge_onto_nest .sin 255)
  exact ⟨h, (compile_display_iff_of_compile h).2 hcharge⟩

end Calculator
