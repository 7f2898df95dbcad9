import Calculator.Proofs.Expr.Reprint
import Calculator.Proofs.Lexeme.Placement
import Calculator.Proofs.Token.Grouping
import Mathlib.Data.List.Flatten

/-!
# No shorter way to type an expression

Of all the texts that compile to an expression, none has fewer characters than its printed form,
and none has fewer parentheses.

**Parentheses.** A line of the grammar asks what it derives to bind as tightly as the line does,
or to stand in parentheses. So whatever the derivation, where printing puts parentheses there are
parentheses too, and the printed tokens are found among the derived ones, in the same order
(`Derives.sublist_tokensAt`).

**Spellings.** The text of a token is no longer than the other ways to type it, and what stands
between tokens is not printed (`Lexeme.Spells.countP_le`).

Main result: `display_minimal`.
-/

namespace Calculator

/-! ## What a line asks for -/

/-- How tightly the operators of a tier bind. -/
def Tier.binding : Tier → Nat
  | .sum => 1
  | .product => 2

/-- How tightly an expression binds at least, to be derived without parentheses around it. -/
def Line.binding : Line → Nat
  | .links tier _ | .chain tier => tier.binding
  | .factor => 3
  | .primary => 4

theorem Tier.binding_operandLine (tier : Tier) :
    tier.operandLine.binding = tier.binding + 1 := by
  cases tier <;> rfl

theorem Tier.Joins.binding_eq {op : Operator} {tier : Tier} (h : tier.Joins op) :
    op.precedence = tier.binding ∧ op.leftBinding = tier.binding ∧
      op.rightBinding = tier.operandLine.binding := by
  cases h <;> decide

namespace Expr

theorem sublist_enclosed (needed : Bool) (ts : List Token) : ts.Sublist (enclosed needed ts) := by
  cases needed with
  | false => exact List.Sublist.refl ts
  | true => exact (List.sublist_append_left ts _).trans (List.sublist_cons_self _ _)

theorem enclosed_sublist (needed : Bool) (ts : List Token) :
    (enclosed needed ts).Sublist (.openParen :: (ts ++ [.closeParen])) := by
  cases needed with
  | false => exact sublist_enclosed true ts
  | true => exact List.Sublist.refl _

/-- A place that asks for less has no parentheses that one asking for more would not have. -/
theorem tokensAt_sublist (e : Expr) {b b' : Nat} (h : b ≤ b') :
    (e.tokensAt b).Sublist (e.tokensAt b') := by
  by_cases hb : b ≤ e.binding
  · rw [tokensAt_of_le hb]
    exact sublist_enclosed _ _
  · have hlt := Nat.not_le.1 hb
    rw [tokensAt_of_lt hlt, tokensAt_of_lt (Nat.lt_of_lt_of_le hlt h)]

end Expr

/-! ## Derived tokens and printed tokens -/

namespace Derives

variable {line : Line} {ts : List Token} {e : Expr} {c : Nat}

/-- Parentheses around derived tokens are around the printed ones, or left out. -/
theorem enclose_sublist (h : (e.tokensAt 1).Sublist ts) (needed : Bool) :
    (Expr.enclosed needed e.tokens).Sublist (.openParen :: (ts ++ [.closeParen])) := by
  rw [Expr.tokensAt_of_le e.binding_bounds.1] at h
  exact (Expr.enclosed_sublist needed _).trans ((h.append_right _).cons_cons _)

/-- **However an expression is derived, its printed tokens are among those it is derived from**, in
the same order, with the parentheses that the line asks for. -/
theorem sublist_tokensAt (h : Derives line ts e c)
    (hvar : ∀ t ∈ ts, t.kind = .variable → t = .freeVariable) :
    (e.tokensAt line.binding).Sublist ts := by
  induction h with
  | constant k => exact List.Sublist.refl _
  | literal h => exact List.Sublist.refl _
  | «variable» text =>
    rw [hvar _ (List.mem_singleton_self _) rfl]
    exact List.Sublist.refl _
  | call f h ih =>
    rw [Expr.tokensAt_of_le (Nat.le_refl 4), Expr.tokens_call]
    exact (enclose_sublist (ih fun t ht => hvar t (by simp [ht])) true).cons_cons _
  | group h ih => exact enclose_sublist (ih fun t ht => hvar t (by simp [ht])) _
  | base h ih => exact (Expr.tokensAt_sublist _ (by decide)).trans (ih hvar)
  | power hb he ihb ihe =>
    rw [Expr.tokensAt_of_le (Nat.le_refl 3), Expr.tokens_binary_eq]
    exact (ihb fun t ht => hvar t (by simp [ht])).append
      ((ihe fun t ht => hvar t (by simp [ht])).cons_cons _)
  | @first tier ts e c h ih =>
    have hle : tier.binding ≤ tier.operandLine.binding :=
      tier.binding_operandLine ▸ Nat.le_succ _
    exact (Expr.tokensAt_sublist _ hle).trans (ih hvar)
  | @next tier n ts us l r op c d hl hop hr ihl ihr =>
    obtain ⟨hprec, hleft, hright⟩ := hop.binding_eq
    have hbinding : Line.binding (.links tier (n + 1)) ≤ (Expr.binary l op r).binding :=
      Nat.le_of_eq hprec.symm
    rw [Expr.tokensAt_of_le hbinding, Expr.tokens_binary_eq, hleft, hright]
    exact (ihl fun t ht => hvar t (by simp [ht])).append
      ((ihr fun t ht => hvar t (by simp [ht])).cons_cons _)
  | chain h ih => exact ih hvar

theorem tokens_sublist (h : Derives .expression ts e c)
    (hvar : ∀ t ∈ ts, t.kind = .variable → t = .freeVariable) : e.tokens.Sublist ts := by
  have hsub : (e.tokensAt 1).Sublist ts := h.sublist_tokensAt hvar
  rwa [Expr.tokensAt_of_le e.binding_bounds.1] at hsub

end Derives

/-! ## Typed text and printed text -/

namespace Token

variable {t : Token} {ts : List Token}

/-- Only one variable can be typed. -/
theorem IsTypable.eq_freeVariable (h : t.IsTypable) (ht : t.kind = .variable) :
    t = freeVariable := by
  have hall : ∀ s ∈ Spelling.all, s.token.kind = .variable → s.token = freeVariable := by decide
  obtain ⟨s, hs, rfl⟩ := h
  exact hall s hs ht

theorem eq_freeVariable_of_mem_joinLiterals (hts : ∀ t ∈ ts, t.IsTypable)
    (h : t ∈ joinLiterals ts) (ht : t.kind = .variable) : t = freeVariable := by
  rcases mem_or_kind_of_mem_joinOnto h with hmem | hnum
  · exact (hts t hmem).eq_freeVariable ht
  · rw [ht] at hnum
    cases hnum

end Token

/-- A class of characters that no spelling has fewer of than the token it stands for. -/
def Spelling.Keeps (p : Char → Bool) : Prop :=
  ∀ s ∈ all, s.token.text.toList.countP p ≤ s.written.countP p

/-- Whether the character is a parenthesis. -/
def isParenthesis (c : Char) : Bool := c = '(' || c = ')'

theorem Spelling.keeps_true : Keeps fun _ => true := by unfold Keeps; decide

theorem Spelling.keeps_isParenthesis : Keeps isParenthesis := by unfold Keeps; decide

variable {p : Char → Bool}

/-- Tokens show no more characters of the class than were typed for them. -/
theorem Lexeme.Spells.countP_le {offset : Nat} {cs : List Char} {placed : List PlacedToken}
    (h : Spells offset cs placed) (hp : Spelling.Keeps p) :
    (Token.displayText (placed.map PlacedToken.token)).toList.countP p ≤ cs.countP p := by
  induction h with
  | nil offset => exact Nat.zero_le _
  | layout hc h ih => exact Nat.le_trans ih ((List.sublist_cons_self _ _).countP_le)
  | spelling hs h ih =>
    rw [List.map_cons, Token.displayText_cons, String.toList_append, List.countP_append,
      List.countP_append]
    exact Nat.add_le_add (hp _ hs) ih

/-- What compiles has no fewer characters of the class than its printed form. -/
theorem countP_display_le {text : String} {e : Expr} (h : compile text = .ok e)
    (hp : Spelling.Keeps p) : e.display.toList.countP p ≤ text.toList.countP p := by
  obtain ⟨ts, htok, hparse⟩ := compile_eq_ok_iff.1 h
  obtain ⟨c, -, hderives⟩ := exists_derives_of_parse hparse
  obtain ⟨placed, rfl, hspells⟩ := exists_spells_of_tokenize htok
  have hsub : e.tokens.Sublist _ := hderives.tokens_sublist fun t =>
    Token.eq_freeVariable_of_mem_joinLiterals (isTypable_of_tokenize htok)
  calc e.display.toList.countP p
      ≤ (Token.displayText (Token.joinLiterals (placed.map PlacedToken.token))).toList.countP p := by
        rw [Expr.display, Token.toList_displayText, Token.toList_displayText]
        exact (hsub.flatMap _).countP_le
    _ = (Token.displayText (placed.map PlacedToken.token)).toList.countP p := by
        rw [Token.displayText_joinLiterals]
    _ ≤ text.toList.countP p := hspells.countP_le hp

/-- **Printing is minimal**: whatever text compiles to an expression, the printed form has at most
as many characters as the text, and at most as many parentheses. -/
theorem display_minimal {text : String} {e : Expr} (h : compile text = .ok e) :
    e.display.length ≤ text.length ∧
      e.display.toList.countP isParenthesis ≤ text.toList.countP isParenthesis := by
  refine ⟨?_, countP_display_le h Spelling.keeps_isParenthesis⟩
  have hlen := countP_display_le h Spelling.keeps_true
  rwa [List.countP_true, String.length_toList, String.length_toList] at hlen

/-- Blanks, the long spelling of the root and the parentheses around it are not printed, and those
around the sum are. -/
theorem display_minimal_product :
    let e : Expr := .binary (.binary (.literal "1.5") .add .variable) .mul (.call .sqrt .variable)
    let text := "(1.5 + x) * (sqrt(x))"
    compile text = .ok e ∧ e.display = "(1.5+X)×√(X)" ∧ e.display.length ≤ text.length ∧
      e.display.toList.countP isParenthesis ≤ text.toList.countP isParenthesis := by
  intro e text
  have htokens : tokenize text = .ok [.openParen, .number "1", .number ".", .number "5",
      .operator "+", .freeVariable, .closeParen, .operator "×", .openParen, .function "√",
      .openParen, .freeVariable, .closeParen, .closeParen] := by decide +kernel
  have hsum : (Expr.binary (.literal "1.5") .add .variable).HasNumerals := by decide
  have hroot : (Expr.call .sqrt .variable).HasNumerals := by decide
  have hfactor : Derives .factor _ _ _ := .base (.group hsum.derives_tokens)
  have hproduct : Derives (.links .product 1) _ e _ :=
    .next (.first hfactor) .mul (.base (.group hroot.derives_tokens))
  have hparse := (Derives.chain hproduct).toExpression.parse_eq_ok (by decide)
  have h : compile text = .ok e := compile_eq_ok_iff.2 ⟨_, htokens, hparse⟩
  exact ⟨h, by decide, display_minimal h⟩

end Calculator
