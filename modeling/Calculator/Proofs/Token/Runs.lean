import Calculator.Proofs.Decimal.Reading
import Calculator.Proofs.Token.Grouping
import Mathlib.Data.List.Find

/-!
# Runs of digits and points

Typed digits and points come one token each. A **run** is as many of them side by side as there are;
any other token between two of them, a constant included, ends the run, and blanks do not.

**Joining.** A run is joined to one token and every other token stays, so the literals among the
joined tokens are the runs, in their order (`literalTexts_joinLiterals`).

**Malformed runs.** A run without a digit or with more than one point is malformed, and that is when
its text is no decimal number. Hence `find?_literalTexts_joinLiterals`: the first literal that is no
number comes from the first malformed run.
-/

namespace Calculator.Token

variable {t : Token} {ts us run : List Token}

/-- A single digit. -/
def isDigit (t : Token) : Bool :=
  match t.kind, t.text.toList with
  | .number, [c] => c.isDigit
  | _, _ => false

/-- The decimal point. -/
def isPoint (t : Token) : Bool := t = number "."

/-- What ends a run. -/
def isSeparator (t : Token) : Bool := !t.isDigit && !t.isPoint

/-- The maximal runs of digits and points, from left to right. -/
def runs (ts : List Token) : List (List Token) :=
  (ts.splitOnP isSeparator).filter (!·.isEmpty)

/-- A run without a digit, or with more than one point. -/
def isMalformed (run : List Token) : Bool := !run.any isDigit || 1 < run.countP isPoint

/-- The first malformed run. -/
def malformedRun? (ts : List Token) : Option (List Token) := (runs ts).find? isMalformed

/-! ## Typed digits and points -/

/-- A typed digit or point. -/
def IsPiece (t : Token) : Prop := t.IsTypable ∧ t.isLiteral = true

/-- The literals that can be typed are the digits and the points. -/
theorem IsTypable.isSeparator_iff (h : t.IsTypable) :
    t.isSeparator = true ↔ ¬ t.isLiteral = true := by
  have hall : ∀ s ∈ Spelling.all,
      (s.token.isSeparator = true ↔ ¬ s.token.isLiteral = true) := by decide
  obtain ⟨s, hs, rfl⟩ := h
  exact hall s hs

theorem IsPiece.isSeparator_eq_false (h : t.IsPiece) : t.isSeparator = false := by
  rw [← Bool.not_eq_true, h.1.isSeparator_iff, not_not]
  exact h.2

/-- A typed digit or point is a single character. -/
theorem IsPiece.exists_char (h : t.IsPiece) :
    ∃ c, t.text.toList = [c] ∧ t.isDigit = c.isDigit ∧ t.isPoint = decide (c = '.') := by
  have hall : ∀ s ∈ Spelling.all, s.token.isLiteral = true →
      s.token.text.toList = [s.written.headD ' '] ∧
        s.token.isDigit = (s.written.headD ' ').isDigit ∧
        s.token.isPoint = decide (s.written.headD ' ' = '.') := by decide
  obtain ⟨⟨s, hs, rfl⟩, ht⟩ := h
  exact ⟨_, hall s hs ht⟩

/-- Digits and points, in parts with a token that is neither between each two of them. -/
inductive Parted : List Token → Prop
  | pieces {run : List Token} (h : ∀ t ∈ run, t.IsPiece) : Parted run
  | separator {run ts : List Token} {t : Token} (h : ∀ t ∈ run, t.IsPiece)
      (hlit : ¬ t.isLiteral = true) (ht : t.isSeparator = true) (hts : Parted ts) :
      Parted (run ++ t :: ts)

theorem parted_of_isTypable (h : ∀ t ∈ ts, t.IsTypable) : Parted ts := by
  induction ts using run_induction with
  | literals run hrun => exact .pieces fun t ht => ⟨h t ht, hrun t ht⟩
  | other run t ts hrun hlit ih =>
    obtain ⟨hbefore, hafter⟩ := List.forall_mem_append.1 h
    obtain ⟨ht, hts⟩ := List.forall_mem_cons.1 hafter
    exact .separator (fun u hu => ⟨hbefore u hu, hrun u hu⟩) hlit (ht.isSeparator_iff.2 hlit)
      (ih hts)

/-! ## The text of a run -/

theorem isNumeral_displayText (h : ∀ t ∈ run, t.IsPiece) (hne : run ≠ []) :
    Text.IsNumeral (displayText run) := by
  refine ⟨displayText_ne_empty (haveText_of_isTypable fun t ht => (h t ht).1) hne, fun c hc => ?_⟩
  rw [toList_displayText] at hc
  obtain ⟨t, ht, hc⟩ := List.mem_flatMap.1 hc
  exact ((h t ht).1.isNumeral (h t ht).2).2 c hc

theorem any_isDigit (h : ∀ t ∈ run, t.IsPiece) :
    run.any isDigit = (displayText run).toList.any Char.isDigit := by
  induction run with
  | nil => rfl
  | cons t run ih =>
    obtain ⟨ht, hrun⟩ := List.forall_mem_cons.1 h
    obtain ⟨c, htext, hdigit, -⟩ := ht.exists_char
    rw [displayText_cons, String.toList_append, htext, List.any_cons, ih hrun, hdigit]
    rfl

theorem countP_isPoint (h : ∀ t ∈ run, t.IsPiece) :
    run.countP isPoint = (displayText run).toList.count '.' := by
  induction run with
  | nil => rfl
  | cons t run ih =>
    obtain ⟨ht, hrun⟩ := List.forall_mem_cons.1 h
    obtain ⟨c, htext, -, hpoint⟩ := ht.exists_char
    rw [displayText_cons, String.toList_append, htext, List.countP_cons, ih hrun, hpoint,
      List.singleton_append, List.count_cons]
    simp

/-- **A run is malformed exactly if its text is no decimal number.** -/
theorem isMalformed_iff (h : ∀ t ∈ run, t.IsPiece) (hne : run ≠ []) :
    isMalformed run = true ↔ ¬ Text.IsDecimal (displayText run) := by
  have hnum := (isNumeral_displayText h hne).2
  rw [isMalformed, any_isDigit h, countP_isPoint h, Text.IsDecimal, and_iff_right hnum, not_and_or,
    Nat.not_le, or_comm, Bool.or_eq_true, Bool.not_eq_true', List.any_eq_false]
  simp

/-! ## Runs -/

/-- **Runs split at what ends them.** -/
theorem runs_append_cons (h : t.isSeparator = true) (ts us : List Token) :
    runs (ts ++ t :: us) = runs ts ++ runs us := by
  unfold runs
  rw [List.splitOnP_append_cons ts us h, List.filter_append]

/-- Digits and points with nothing between them are one run, if there are any. -/
theorem runs_of_isPiece (h : ∀ t ∈ run, t.IsPiece) :
    runs run = if run = [] then [] else [run] := by
  rw [runs, List.splitOnP_eq_singleton fun t ht => (h t ht).isSeparator_eq_false]
  by_cases hne : run = [] <;> simp [hne]

/-- Runs are made of digits and points, and none is empty. -/
theorem isPiece_of_mem_runs (h : Parted ts) :
    ∀ run ∈ runs ts, run ≠ [] ∧ ∀ t ∈ run, t.IsPiece := by
  have hpieces (us : List Token) (hus : ∀ t ∈ us, t.IsPiece) :
      ∀ run ∈ runs us, run ≠ [] ∧ ∀ t ∈ run, t.IsPiece := by
    intro run hrun
    rw [runs_of_isPiece hus] at hrun
    split at hrun
    · cases hrun
    · next hne =>
      obtain rfl := List.mem_singleton.1 hrun
      exact ⟨hne, hus⟩
  induction h with
  | pieces hus => exact hpieces _ hus
  | separator hus _ ht _ ih =>
    rw [runs_append_cons ht]
    exact List.forall_mem_append.2 ⟨hpieces _ hus, ih⟩

/-! ## Literals among joined tokens -/

/-- A run is joined to a single literal. -/
theorem literalTexts_joinLiterals_of_isPiece (h : ∀ t ∈ run, t.IsPiece) :
    literalTexts (joinLiterals run) = (runs run).map displayText := by
  rw [runs_of_isPiece h, joinLiterals, joinOnto_of_forall_isLiteral fun t ht => (h t ht).2,
    String.empty_append]
  split
  · next hne =>
    subst hne
    rfl
  · next hne =>
    have hnum := isNumeral_displayText h hne
    rw [ofRun_of_ne hnum.1, literalTexts_singleton (isLiteral_number hnum)]
    rfl

/-- **The literals among joined tokens are the runs of the tokens before**, in their order. -/
theorem literalTexts_joinLiterals (h : Parted ts) :
    literalTexts (joinLiterals ts) = (runs ts).map displayText := by
  induction h with
  | pieces hrun => exact literalTexts_joinLiterals_of_isPiece hrun
  | separator hrun hlit ht _ ih =>
    rw [joinLiterals_append_cons hlit, literalTexts_append, literalTexts_cons hlit,
      runs_append_cons ht, List.map_append, literalTexts_joinLiterals_of_isPiece hrun, ih]

/-- **The first literal that is no number comes from the first malformed run.** -/
theorem find?_literalTexts_joinLiterals (hts : ∀ t ∈ ts, t.IsTypable) :
    (literalTexts (joinLiterals ts)).find? (¬ Text.IsDecimal ·) =
      (malformedRun? ts).map displayText := by
  have hparted := parted_of_isTypable hts
  rw [literalTexts_joinLiterals hparted, List.find?_map]
  refine congrArg (Option.map displayText) (List.find?_congr fun run hrun => ?_)
  obtain ⟨hne, hpieces⟩ := isPiece_of_mem_runs hparted run hrun
  rw [Bool.eq_iff_iff, isMalformed_iff hpieces hne, Function.comp_apply, decide_eq_true_iff]

end Calculator.Token
