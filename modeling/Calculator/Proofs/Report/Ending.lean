import Calculator.Proofs.Decimal.Writing
import Calculator.Proofs.Report.Rows
import Calculator.Report
import Calculator.Text.Lines
import Mathlib.Data.List.Basic
import Mathlib.Tactic.SplitIfs

/-!
# Where reports end

A text that **ends inside a line** has a last character, and it neither ends a line nor could be
left out before a line feed. So one line feed more behind the text does not change its lines
(`Text.lines_append_lineFeed`).

What is shown of a value ends in a digit or a letter, and what is shown of a failure in its caret,
in a hint, or in what closes a message.

Main results: `endsInsideLine_formatResult` and `Failure.endsInsideLine_render`.
-/

namespace Calculator

namespace Text

variable {cs ds line : List Char}

/-- The last character is neither a line feed nor a carriage return. -/
def EndsInsideLine (cs : List Char) : Prop := ∃ c ∈ cs.getLast?, c ≠ '\n' ∧ c ≠ '\r'

instance : Decidable (EndsInsideLine cs) :=
  Option.decidableExistsMem cs.getLast?

theorem EndsInsideLine.append (h : EndsInsideLine ds) (cs : List Char) :
    EndsInsideLine (cs ++ ds) := by
  obtain ⟨c, hc, hne⟩ := h
  exact ⟨c, by rw [List.getLast?_append, hc]; rfl, hne⟩

theorem EndsInsideLine.of_mem (hne : cs ≠ []) (h : ∀ c ∈ cs, c ≠ '\n' ∧ c ≠ '\r') :
    EndsInsideLine cs :=
  ⟨cs.getLast hne, List.getLast?_eq_some_getLast hne, h _ (List.getLast_mem hne)⟩

/-- What ends inside a line is not all of it before a line feed. -/
theorem EndsInsideLine.of_append_lineFeed (h : EndsInsideLine (cs ++ '\n' :: ds)) :
    EndsInsideLine ds := by
  obtain ⟨c, hc, hne⟩ := h
  cases ds with
  | nil =>
    rw [List.getLast?_concat] at hc
    exact absurd (Option.some.inj hc).symm hne.1
  | cons d ds =>
    rw [List.getLast?_append_cons, List.getLast?_cons_cons] at hc
    exact ⟨c, hc, hne⟩

theorem finishLine_cons {c : Char} (h : c ≠ '\r') (line : List Char) :
    finishLine (c :: line) = (c :: line).reverse := by
  unfold finishLine
  split
  · exact absurd (List.cons.inj ‹_›).1 h
  · rfl

theorem linesOnto_append_lineFeed (h : EndsInsideLine (line.reverse ++ cs)) :
    linesOnto line (cs ++ ['\n']) = linesOnto line cs := by
  induction cs generalizing line with
  | nil =>
    cases line with
    | nil => exact absurd h (by rintro ⟨c, ⟨⟩, -⟩)
    | cons c line =>
      obtain ⟨d, hd, hne⟩ := h
      rw [List.append_nil, List.reverse_cons, List.getLast?_concat] at hd
      obtain rfl := Option.some.inj hd
      have hline : linesOnto (c :: line) ['\n'] = [finishLine (c :: line)] := rfl
      rw [List.nil_append, hline, finishLine_cons hne.2]
      rfl
  | cons c cs ih =>
    rw [List.cons_append, linesOnto, linesOnto]
    split_ifs with hc
    · subst hc
      have hrest : EndsInsideLine ([].reverse ++ cs) := h.of_append_lineFeed
      rw [ih hrest]
    · refine ih ?_
      rwa [List.reverse_cons, List.append_assoc]

/-- **A line feed behind the last line makes no other line.** -/
theorem lines_append_lineFeed {text : String} (h : EndsInsideLine text.toList) :
    lines (text ++ "\n") = lines text := by
  have hfeed : (text ++ "\n").toList = text.toList ++ ['\n'] := by simp
  rw [lines, lines, hfeed, linesOnto_append_lineFeed h]

end Text

open Text (EndsInsideLine)

/-! ## Values -/

namespace Decimal.Layout

theorem positionally_ne_nil (l : Layout) {ds : List Char} (h : ds ≠ []) (exponent : Int) :
    l.positionally ds exponent ≠ [] := by
  unfold positionally
  dsimp only
  split_ifs <;> simp [h]

theorem finite_ne_nil (l : Layout) (x : Float) : l.finite x ≠ [] := by
  unfold finite
  refine List.append_ne_nil_of_right_ne_nil _ ?_
  split
  · exact List.cons_ne_nil _ _
  · unfold magnitude
    dsimp only
    split
    · exact l.positionally_ne_nil Nat.toDigits_ne_nil _
    · exact List.append_ne_nil_of_right_ne_nil _ (List.cons_ne_nil _ _)

theorem endsInsideLine_finite (l : Layout) (x : Float) : EndsInsideLine (l.finite x) := by
  have hnot {c : Char} (hc : ¬ (c.isDigit = true ∨ c ∈ ['-', '.', 'e'])) : c ∉ l.finite x :=
    fun hmem => hc (l.inked_finite x c hmem)
  refine .of_mem (l.finite_ne_nil x) fun c hc => ⟨?_, ?_⟩
  · rintro rfl
    exact hnot (by decide) hc
  · rintro rfl
    exact hnot (by decide) hc

/-- **Whatever its layout, a number ends inside a line.** -/
theorem endsInsideLine_text (l : Layout) (x : Float) : EndsInsideLine (l.text x).toList := by
  unfold text
  split_ifs
  · decide
  · decide
  · decide
  · rw [String.toList_ofList]
    exact l.endsInsideLine_finite x

end Decimal.Layout

theorem endsInsideLine_formatResult (x : Float) : EndsInsideLine (formatResult x).toList := by
  unfold formatResult
  split
  · exact Decimal.Layout.endsInsideLine_text _ x
  · decide

/-! ## Failures -/

theorem endsInsideLine_append {text : String} (h : EndsInsideLine text.toList) (before : String) :
    EndsInsideLine (before ++ text).toList := by
  rw [String.toList_append]
  exact h.append _

theorem endsInsideLine_quote (text : String) : EndsInsideLine (Text.quote text).toList := by
  have hquote : EndsInsideLine ['"'] := by decide
  rw [Text.quote, String.toList_ofList]
  exact hquote.append ('"' :: text.toList.flatMap Text.quoteChar)

namespace Diagnostic

theorem endsInsideLine_withCaret (message source : String) (column : Nat) :
    EndsInsideLine (withCaret message source column).toList :=
  endsInsideLine_append (by decide) _

theorem endsInsideLine_of_help? (c : SyntaxError.Cause) :
    ∀ help ∈ help? c, EndsInsideLine help.toList := by
  intro help hhelp
  obtain ⟨hne, hfeed, hreturn⟩ := single_line_of_help? c help hhelp
  exact .of_mem hne fun char hmem =>
    ⟨ne_of_mem_of_not_mem hmem hfeed, ne_of_mem_of_not_mem hmem hreturn⟩

theorem endsInsideLine_renderAt {d : Diagnostic} (h : ∀ help ∈ d.help, EndsInsideLine help.toList)
    (source : String) (column : Nat) : EndsInsideLine (d.renderAt source column).toList := by
  unfold renderAt
  cases hhelp : d.help with
  | none =>
    rw [String.append_empty]
    exact endsInsideLine_withCaret _ _ _
  | some help => exact endsInsideLine_append (endsInsideLine_append (h help hhelp) _) _

end Diagnostic

/-- **A report of a failure ends inside a line.** -/
theorem Failure.endsInsideLine_render (f : Failure) (source : String) :
    EndsInsideLine (f.render source).toList := by
  unfold render
  cases f with
  | lexical e => exact Diagnostic.endsInsideLine_withCaret _ _ _
  | numeric e =>
    cases e with
    | invalidNumber text =>
      exact endsInsideLine_append (endsInsideLine_append (endsInsideLine_quote text) _) _
  | syntactic e =>
    dsimp only
    cases e.offset? source with
    | some offset =>
      exact Diagnostic.endsInsideLine_renderAt (Diagnostic.endsInsideLine_of_help? e.cause) _ _
    | none =>
      have hclose : EndsInsideLine e.message.toList :=
        endsInsideLine_append (by decide) _
      exact endsInsideLine_append hclose _

end Calculator
