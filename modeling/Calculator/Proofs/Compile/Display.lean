import Calculator.Proofs.Compile.Composition

/-!
# The display as a code for tokens

What is on the display can be typed, and then stands for the same tokens.

**The alphabet** of the code is `Token.alphabet`, the tokens that have a key. They are the typable
ones (`Token.isTypable_iff_mem_alphabet`), so they are what comes out of typed text, and a sequence
of them is the only one that shows its display text (`tokenize_displayText`).

**Joined tokens** need not be in the alphabet. Joining leaves the display text alone, so what is
read from it are the tokens before joining, and they are joined to the same tokens again.

Main result: `display_faithful`.
-/

namespace Calculator

namespace Token

/-- The tokens that have a key. -/
def alphabet : List Token :=
  ["0", "1", "2", "3", "4", "5", "6", "7", "8", "9", ".", "e", "π"].map number ++ [freeVariable] ++
    ["+", "-", "×", "÷", "^"].map operator ++
    ["sin", "cos", "tan", "log", "ln", "√"].map function ++ [openParen, closeParen]

/-- Every spelling stands for a token of the alphabet, and every one of them has a spelling. -/
theorem isTypable_iff_mem_alphabet {t : Token} : t.IsTypable ↔ t ∈ alphabet := by
  have hspellings : ∀ s ∈ Spelling.all, s.token ∈ alphabet := by decide
  have halphabet : ∀ t ∈ alphabet, t.IsTypable := by decide
  refine ⟨?_, halphabet t⟩
  rintro ⟨s, hs, rfl⟩
  exact hspellings s hs

/-- The tokens of the alphabet are those that come out of typed text. -/
theorem mem_alphabet_iff {t : Token} :
    t ∈ alphabet ↔ ∃ text ts, tokenize text = .ok ts ∧ t ∈ ts := by
  rw [← isTypable_iff_mem_alphabet]
  constructor
  · intro ht
    have hread := tokenize_displayText (List.forall_mem_singleton.2 ht)
    exact ⟨_, [t], hread, List.mem_singleton_self t⟩
  · rintro ⟨text, ts, htext, ht⟩
    exact isTypable_of_tokenize htext t ht

end Token

open Token

variable {text : String} {ts : List Token}

/-- The display text of joined tokens is read as the tokens before joining. -/
theorem tokenize_displayText_joinLiterals (h : tokenize text = .ok ts) :
    tokenize (displayText (joinLiterals ts)) = .ok ts := by
  rw [displayText_joinLiterals]
  exact tokenize_displayText (isTypable_of_tokenize h)

/-- **What the display shows of a text compiles as the text does**, if the text has tokens. -/
theorem compile_displayText_joinLiterals (h : tokenize text = .ok ts) :
    compile (displayText (joinLiterals ts)) = compile text := by
  rw [compile, compile, tokenize_displayText_joinLiterals h, h]

/-- **The display is a code for tokens.** Tokens that come out of typed text are read back from
their display text. The joined tokens of a text are read back from theirs, up to joining, so that it
compiles to the same expression or fails with the same error. And texts side by side are read as
their tokens side by side. -/
theorem display_faithful :
    (∀ t, t ∈ alphabet ↔ ∃ text ts, tokenize text = .ok ts ∧ t ∈ ts) ∧
    (∀ ts, (∀ t ∈ ts, t ∈ alphabet) → tokenize (displayText ts) = .ok ts) ∧
    (∀ text ts, tokenize text = .ok ts →
      (tokenize (displayText (joinLiterals ts))).map joinLiterals = .ok (joinLiterals ts) ∧
      compile (displayText (joinLiterals ts)) = compile text) ∧
    ∀ a b ts us, tokenize a = .ok ts → tokenize b = .ok us →
      tokenize (a ++ b) = .ok (ts ++ us) := by
  refine ⟨fun t => mem_alphabet_iff, fun ts hts => ?_, fun text ts htext => ⟨?_, ?_⟩,
    fun a b ts us ha hb => tokenize_append ha hb⟩
  · exact tokenize_displayText fun t ht => isTypable_iff_mem_alphabet.2 (hts t ht)
  · rw [tokenize_displayText_joinLiterals htext]
    rfl
  · exact compile_displayText_joinLiterals htext

/-- Digits with a blank between them, and spellings that are not those on the keypad. -/
theorem display_faithful_spaced :
    tokenize "12×π÷X" =
        .ok [number "1", number "2", operator "×", number "π", operator "÷", freeVariable] ∧
      compile "12×π" = compile "1 2*pi" ∧
      tokenize ("1 2*pi" ++ "/x") =
        .ok [number "1", number "2", operator "×", number "π", operator "÷", freeVariable] := by
  obtain ⟨-, hread, hjoined, happend⟩ := display_faithful
  have htokens : tokenize "1 2*pi" = .ok [number "1", number "2", operator "×", number "π"] := by
    decide +kernel
  have hrest : tokenize "/x" = .ok [operator "÷", freeVariable] := by decide +kernel
  have hshown : displayText (joinLiterals [number "1", number "2", operator "×", number "π"]) =
      "12×π" := by decide
  have hcompile := (hjoined _ _ htokens).2
  rw [hshown] at hcompile
  have htext : displayText
      [number "1", number "2", operator "×", number "π", operator "÷", freeVariable] =
      "12×π÷X" := by decide
  rw [← htext]
  exact ⟨hread _ (by decide), hcompile, happend _ _ _ _ htokens hrest⟩

end Calculator
