import Calculator.Lexeme

/-!
# Decoding typed text

Reading typed text, token by token: which spelling a text begins with, what one step of the scan
gives, and that the display text of tokens is read back as these tokens.

**Typable tokens.** A token is typable when some spelling stands for it. The text of a typable
token is itself a spelling of it, and no spelling begins another, so however typable tokens are
put side by side their display text splits in one way only.

Main results: `tokenize_displayText`, and its converse `isTypable_of_tokenize`: only typable tokens
come out of typed text.
-/

namespace Calculator

/-! ## Finding a spelling -/

namespace Spelling

theorem token_eq_of_written_eq :
    ∀ s ∈ all, ∀ t ∈ all, s.written = t.written → s.token = t.token := by decide

/-- The text of a token is a spelling of it. -/
theorem exists_written_eq_text :
    ∀ s ∈ all, ∃ t ∈ all, t.written = s.token.text.toList ∧ t.token = s.token := by decide

/-- No spelling contains layout. -/
theorem any_isLayout_written : ∀ s ∈ all, s.written.any Lexeme.isLayout = false := by decide

theorem not_isLayout {s : Spelling} (hs : s ∈ all) {c : Char} (hc : c ∈ s.written) :
    ¬ Lexeme.isLayout c = true :=
  List.any_eq_false.1 (any_isLayout_written s hs) c hc

theorem eq_of_written_eq {s t : Spelling} (hs : s ∈ all) (ht : t ∈ all)
    (h : s.written = t.written) : s = t := by
  have htok := token_eq_of_written_eq s hs t ht h
  cases s
  cases t
  cases h
  cases htok
  rfl

theorem mem_and_prefix_of_at? {cs : List Char} {s : Spelling} (h : at? cs = some s) :
    s ∈ all ∧ s.written <+: cs := by
  unfold at? at h
  have hpre := List.find?_some h
  exact ⟨List.mem_of_find?_eq_some h, List.isPrefixOf_iff_prefix.1 hpre⟩

theorem at?_eq_some_iff {cs : List Char} {s : Spelling} :
    at? cs = some s ↔ s ∈ all ∧ s.written <+: cs := by
  refine ⟨mem_and_prefix_of_at?, ?_⟩
  rintro ⟨hs, hpre⟩
  cases h : at? cs with
  | none =>
    have hnone := List.find?_eq_none.1 h s hs
    exact absurd (List.isPrefixOf_iff_prefix.2 hpre) hnone
  | some t =>
    obtain ⟨ht, htpre⟩ := mem_and_prefix_of_at? h
    -- Two beginnings of one text, so one of them begins the other.
    have heq : t.written = s.written := by
      rcases List.prefix_or_prefix_of_prefix htpre hpre with h' | h'
      · exact eq_of_isPrefixOf t ht s hs (List.isPrefixOf_iff_prefix.2 h')
      · exact (eq_of_isPrefixOf s hs t ht (List.isPrefixOf_iff_prefix.2 h')).symm
    rw [eq_of_written_eq ht hs heq]

theorem at?_append {s : Spelling} (hs : s ∈ all) (cs : List Char) :
    at? (s.written ++ cs) = some s :=
  at?_eq_some_iff.2 ⟨hs, List.prefix_append _ _⟩

end Spelling

/-! ## One step of the scan -/

namespace Lexeme

theorem scanFrom_layout {c : Char} (h : isLayout c = true) (offset : Nat) (cs : List Char) :
    scanFrom offset (c :: cs) = scanFrom (offset + c.utf8Size) cs := by
  rw [scanFrom, if_pos h]

theorem scanFrom_spelling {s : Spelling} (hs : s ∈ Spelling.all) (offset : Nat)
    (cs : List Char) :
    scanFrom offset (s.written ++ cs) =
      .token ⟨s.token, offset, offset + s.width⟩ :: scanFrom (offset + s.width) cs := by
  have hat := Spelling.at?_append hs cs
  cases hw : s.written with
  | nil => exact absurd hw (Spelling.written_ne_nil s hs)
  | cons c w =>
    have hc : ¬ isLayout c = true := Spelling.not_isLayout hs (hw ▸ List.mem_cons_self)
    rw [hw, List.cons_append] at hat
    rw [List.cons_append, scanFrom, if_neg hc, hat]
    simp [hw]

theorem scanFrom_stray {c : Char} {cs : List Char} (hc : isLayout c = false)
    (h : Spelling.at? (c :: cs) = none) (offset : Nat) :
    scanFrom offset (c :: cs) = .stray ⟨offset, c⟩ :: scanFrom (offset + c.utf8Size) cs := by
  rw [scanFrom, if_neg (by rw [hc]; exact Bool.false_ne_true), h]

end Lexeme

/-- A text ends, or goes on with a layout character, a spelling, or a stray character. -/
@[elab_as_elim]
theorem Lexeme.text_induction {motive : List Char → Prop} (nil : motive [])
    (layout : ∀ c cs, isLayout c = true → motive cs → motive (c :: cs))
    (spelling : ∀ s ∈ Spelling.all, ∀ cs, motive cs → motive (s.written ++ cs))
    (stray : ∀ c cs, isLayout c = false → Spelling.at? (c :: cs) = none → motive cs →
      motive (c :: cs)) (cs : List Char) : motive cs := by
  induction hn : cs.length using Nat.strongRecOn generalizing cs with
  | ind n ih =>
    cases cs with
    | nil => exact nil
    | cons c cs =>
      have hcs : cs.length < n := by rw [← hn]; exact Nat.lt_succ_self _
      by_cases hc : isLayout c = true
      · exact layout c cs hc (ih _ hcs cs rfl)
      · cases hat : Spelling.at? (c :: cs) with
        | none => exact stray c cs (Bool.eq_false_iff.2 hc) hat (ih _ hcs cs rfl)
        | some s =>
          obtain ⟨hs, rest, hrest⟩ := Spelling.at?_eq_some_iff.1 hat
          have hpos := List.length_pos_iff.2 (Spelling.written_ne_nil s hs)
          have hlen := congrArg List.length hrest
          rw [List.length_append] at hlen
          rw [← hrest]
          exact spelling s hs rest (ih _ (by omega) rest rfl)

/-- The tokens of a text that begins at byte `offset`. -/
def tokensFrom (offset : Nat) (cs : List Char) : Except LexError (List Token) :=
  (Lexeme.scanFrom offset cs).mapM Lexeme.read

theorem tokenize_eq_tokensFrom (text : String) : tokenize text = tokensFrom 0 text.toList := rfl

theorem tokensFrom_nil (offset : Nat) : tokensFrom offset [] = .ok [] := by
  rw [tokensFrom, Lexeme.scanFrom]
  rfl

theorem tokensFrom_layout {c : Char} (h : Lexeme.isLayout c = true) (offset : Nat)
    (cs : List Char) : tokensFrom offset (c :: cs) = tokensFrom (offset + c.utf8Size) cs := by
  rw [tokensFrom, Lexeme.scanFrom_layout h, tokensFrom]

theorem tokensFrom_spelling {s : Spelling} (hs : s ∈ Spelling.all) (offset : Nat)
    (cs : List Char) :
    tokensFrom offset (s.written ++ cs) =
      (tokensFrom (offset + s.width) cs).map (s.token :: ·) := by
  rw [tokensFrom, Lexeme.scanFrom_spelling hs, List.mapM_cons, tokensFrom]
  cases (Lexeme.scanFrom (offset + s.width) cs).mapM Lexeme.read <;> rfl

theorem tokensFrom_stray {c : Char} {cs : List Char} (hc : Lexeme.isLayout c = false)
    (h : Spelling.at? (c :: cs) = none) (offset : Nat) :
    tokensFrom offset (c :: cs) = .error ⟨offset, c⟩ := by
  rw [tokensFrom, Lexeme.scanFrom_stray hc h, List.mapM_cons]
  rfl

/-! ## Typable tokens -/

/-- Some spelling stands for the token. -/
def Token.IsTypable (t : Token) : Prop := ∃ s ∈ Spelling.all, s.token = t

instance (t : Token) : Decidable t.IsTypable := by unfold Token.IsTypable; infer_instance

/-- The text of a typable token stands for it. -/
theorem Token.IsTypable.exists_spelling {t : Token} (h : t.IsTypable) :
    ∃ s ∈ Spelling.all, s.written = t.text.toList ∧ s.token = t := by
  obtain ⟨s, hs, rfl⟩ := h
  exact Spelling.exists_written_eq_text s hs

theorem tokensFrom_append_text {t : Token} (h : t.IsTypable) (offset : Nat) (cs : List Char) :
    ∃ next, tokensFrom offset (t.text.toList ++ cs) = (tokensFrom next cs).map (t :: ·) := by
  obtain ⟨s, hs, hw, rfl⟩ := h.exists_spelling
  rw [← hw]
  exact ⟨_, tokensFrom_spelling hs offset cs⟩

theorem tokensFrom_texts {ts : List Token} (h : ∀ t ∈ ts, t.IsTypable) (offset : Nat) :
    tokensFrom offset (ts.flatMap (·.text.toList)) = .ok ts := by
  induction ts generalizing offset with
  | nil => exact tokensFrom_nil offset
  | cons t ts ih =>
    obtain ⟨ht, hts⟩ := List.forall_mem_cons.1 h
    rw [List.flatMap_cons]
    obtain ⟨next, hnext⟩ := tokensFrom_append_text ht offset (ts.flatMap (·.text.toList))
    rw [hnext, ih hts next]
    rfl

/-- **The display text of typable tokens is read back as these tokens.** -/
theorem tokenize_displayText {ts : List Token} (h : ∀ t ∈ ts, t.IsTypable) :
    tokenize (Token.displayText ts) = .ok ts := by
  rw [tokenize_eq_tokensFrom, Token.toList_displayText]
  exact tokensFrom_texts h 0

theorem isTypable_of_tokensFrom {offset : Nat} {cs : List Char} {ts : List Token}
    (h : tokensFrom offset cs = .ok ts) : ∀ t ∈ ts, t.IsTypable := by
  induction cs using Lexeme.text_induction generalizing offset ts with
  | nil =>
    rw [tokensFrom_nil] at h
    cases h
    exact fun t ht => absurd ht List.not_mem_nil
  | layout c cs hc ih =>
    rw [tokensFrom_layout hc] at h
    exact ih h
  | spelling s hs cs ih =>
    rw [tokensFrom_spelling hs] at h
    cases hrest : tokensFrom (offset + s.width) cs with
    | error e =>
      rw [hrest] at h
      cases h
    | ok us =>
      rw [hrest] at h
      cases h
      exact List.forall_mem_cons.2 ⟨⟨s, hs, rfl⟩, ih hrest⟩
  | stray c cs hc hat _ =>
    rw [tokensFrom_stray hc hat] at h
    cases h

/-- **Only typable tokens come out of typed text.** -/
theorem isTypable_of_tokenize {text : String} {ts : List Token} (h : tokenize text = .ok ts) :
    ∀ t ∈ ts, t.IsTypable :=
  isTypable_of_tokensFrom h

end Calculator
