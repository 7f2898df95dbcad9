import Calculator.Proofs.Lexeme.Tiling
import Calculator.Proofs.Report.Caret

/-!
# The caret and the place it is for

**A place** cuts the typed text in two. Its row is what stands before it since the last line feed
and after it up to the next. Every text that does not compile is refused for something at a place,
and only at one.

The caret comes behind as many blanks as the text has characters before the place, line feeds
included, below the last row. So it is under its place as long as the text is a single row, and
among several rows almost never.

Main results: `caret_under_place_iff` and `not_forall_caret_under_place`.
-/

namespace Calculator

open String (utf8Len)
open Text (rows firstRow lastRow indent caretRow HasCaret)

/-! ## Places -/

namespace PlacedToken

variable {placed before after before' after' : List PlacedToken} {position m n : Nat}

/-- More tokens leave more text. -/
theorem eq_nil_of_joined_append (h : Token.HaveText (after.map token))
    (hjoined : joined (before ++ after) = joined before) : after = [] := by
  have hlength := congrArg (fun ts => (Token.displayText ts).length) hjoined
  simp only [joined, Token.displayText_joinLiterals, List.map_append, Token.displayText_append,
    String.length_append] at hlength
  have hempty : Token.displayText (after.map token) = "" :=
    String.length_eq_zero_iff.1 (by omega)
  by_contra hne
  exact Token.displayText_ne_empty h (by simpa using hne) hempty

/-- Tokens are cut in one place only so that a given part of what they leave comes first. -/
theorem append_inj_of_joined_eq (h : Token.HaveText ((before ++ after).map token))
    (happend : before ++ after = before' ++ after') (hjoined : joined before = joined before') :
    before = before' ∧ after = after' := by
  have hsub {first more rest : List PlacedToken}
      (hmore : before ++ after = first ++ (more ++ rest)) : Token.HaveText (more.map token) := by
    intro t ht
    refine h t ?_
    rw [hmore]
    simp only [List.map_append, List.mem_append]
    exact .inr (.inl ht)
  rcases List.append_eq_append_iff.1 happend with ⟨more, rfl, rfl⟩ | ⟨more, rfl, rfl⟩
  · obtain rfl := eq_nil_of_joined_append (hsub rfl) hjoined.symm
    simp
  · obtain rfl := eq_nil_of_joined_append (hsub (List.append_assoc _ _ _)) hjoined
    simp

/-- **There is one place only that a position points at.** -/
theorem PointsAt.offset_eq (h : Token.HaveText (placed.map token))
    (hposition : position ≤ (joined placed).length) (hm : PointsAt placed position m)
    (hn : PointsAt placed position n) : m = n := by
  rcases Nat.lt_or_eq_of_le hposition with hlt | heq
  · have hx := List.getElem?_eq_getElem hlt
    obtain ⟨before, first, group, after, rfl, hbefore, -, -, rfl⟩ := hm.1 _ hx
    obtain ⟨before', first', group', after', hsplit, hbefore', -, -, rfl⟩ := hn.1 _ hx
    rw [List.append_assoc, List.append_assoc] at hsplit
    rw [List.append_assoc] at h
    obtain ⟨-, hrest⟩ := append_inj_of_joined_eq h hsplit (hbefore.trans hbefore'.symm)
    rw [(List.cons.inj hrest).1]
  · rw [hm.2 heq, hn.2 heq]

end PlacedToken

namespace Failure

/-- What is shown about a failure, apart from the text. -/
def diagnostic : Failure → Diagnostic
  | .lexical e => ⟨e.message, 0, none⟩
  | .syntactic e => .ofSyntaxError e
  | .numeric e => ⟨e.message, 0, none⟩

/-- The place of a failure in a text: before the character that begins no spelling, before the first
of the tokens joined into the offending one, or behind the last token where the input ended. -/
def LiesAt (f : Failure) (before after : List Char) : Prop :=
  match f with
  | .lexical e => e.offset = utf8Len before ∧ after.head? = some e.fragment ∧
      ∀ s ∈ Spelling.all, ¬ s.written <+: after
  | .syntactic e => ∃ placed, tokenizeSpanned (.ofList (before ++ after)) = .ok placed ∧
      e.position ≤ (PlacedToken.joined placed).length ∧
      PlacedToken.PointsAt placed e.position (utf8Len before)
  | .numeric _ => False

theorem not_mem_of_help_diagnostic (f : Failure) :
    ∀ help ∈ f.diagnostic.help, '\n' ∉ help.toList := by
  cases f with
  | lexical e | numeric e => exact nofun
  | syntactic e => exact Diagnostic.not_mem_of_help? e.cause

variable {before after : List Char}

theorem render_lexical {e : LexError} (h : e.offset = utf8Len before) (after : List Char) :
    (lexical e).render (.ofList (before ++ after)) =
      (lexical e).diagnostic.renderAt (.ofList (before ++ after)) before.length := by
  rw [render, h, String.ofList_append, ← String.utf8ByteSize_ofList, Text.column?_append,
    String.length_ofList]
  exact String.append_empty.symm

theorem render_syntactic {e : SyntaxError} {placed : List PlacedToken}
    (hplaced : tokenizeSpanned (.ofList (before ++ after)) = .ok placed)
    (h : offsetIn placed e.position = utf8Len before) :
    (syntactic e).render (.ofList (before ++ after)) =
      (syntactic e).diagnostic.renderAt (.ofList (before ++ after)) before.length := by
  rw [← String.utf8ByteSize_ofList] at h
  rw [String.ofList_append] at hplaced ⊢
  rw [render_of_offset? (e.offset?_of_offsetIn hplaced h), String.length_ofList]
  rfl

/-- **The caret is drawn behind as many blanks as characters come before the place.** -/
theorem render_of_liesAt {f : Failure} {text : String} (htext : text.toList = before ++ after)
    (h : f.LiesAt before after) :
    f.render text = f.diagnostic.renderAt text before.length := by
  obtain rfl : text = .ofList (before ++ after) := by rw [← htext, String.ofList_toList]
  cases f with
  | lexical e => exact render_lexical h.1 after
  | syntactic e =>
    obtain ⟨placed, hplaced, hposition, hpoints⟩ := h
    have hhave := haveText_of_tokenizeSpanned hplaced
    exact render_syntactic hplaced
      ((PlacedToken.pointsAt_offsetIn hhave e.position).offset_eq hhave hposition hpoints)
  | numeric e => exact h.elim

end Failure

/-! ## Refused texts have a place -/

/-- The stray character that a text is refused for stands in it. -/
theorem liesAt_of_tokenizeSpanned {text : String} {e : LexError}
    (h : tokenizeSpanned text = .error e) :
    ∃ before after, text.toList = before ++ after ∧ (Failure.lexical e).LiesAt before after := by
  have hmem : .stray e ∈ Lexeme.scan text := by
    rw [tokenizeSpanned] at h
    rcases Lexeme.eq_map_token_or_stray (Lexeme.scan text) with
      ⟨placed, hall⟩ | ⟨placed, e', after, hstray⟩
    · rw [hall, Lexeme.placedTokens_map_token] at h
      cases h
    · rw [hstray, Lexeme.placedTokens_stray] at h
      cases h
      rw [hstray]
      simp
  obtain ⟨before, slice, after, htext, -, hspan, rfl, -, hnot⟩ :=
    Lexeme.standsIn_of_mem_scanFrom _ hmem
  refine ⟨before, e.fragment :: after, ?_, ?_, rfl, hnot⟩
  · rw [htext, List.append_assoc]
    rfl
  · have hstart := congrArg Span.start hspan
    simpa [Lexeme.span] using hstart

/-- A position among joined tokens points into the text. -/
theorem exists_pointsAt {text : String} {placed : List PlacedToken}
    (h : tokenizeSpanned text = .ok placed) (position : Nat) :
    ∃ before after, text.toList = before ++ after ∧
      PlacedToken.PointsAt placed position (utf8Len before) := by
  obtain ⟨before, after, htext, hplace⟩ := (tokenizeSpanned_eq_ok_iff.1 h).exists_placeIn
    (Token.rawIndex (placed.map PlacedToken.token) position)
  rw [← offsetIn_eq_placeIn, Nat.zero_add] at hplace
  refine ⟨before, after, htext, ?_⟩
  rw [← hplace]
  exact PlacedToken.pointsAt_offsetIn (haveText_of_tokenizeSpanned h) position

/-- **What a text is refused for lies somewhere in it.** -/
theorem exists_liesAt {text : String} {f : Failure} (h : compile text = .error f) :
    ∃ before after, text.toList = before ++ after ∧ f.LiesAt before after := by
  rcases cases_of_compile_eq_error h with ⟨e, rfl, htokens⟩ | ⟨e, placed, rfl, hplaced, hparse⟩
  · exact liesAt_of_tokenizeSpanned htokens
  · obtain ⟨before, after, htext, hpoints⟩ := exists_pointsAt hplaced e.position
    refine ⟨before, after, htext, placed, ?_, SyntaxError.position_le_of_parse_eq_error hparse,
      hpoints⟩
    rw [← htext, String.ofList_toList]
    exact hplaced

/-! ## Carets under places -/

/-- The caret of a report stands under the place between `before` and `after`, below the row of that
place. -/
def Failure.HasCaretAt (f : Failure) (text : String) (before after : List Char) : Prop :=
  HasCaret (rows (f.render text).toList) f.diagnostic.foot (lastRow before ++ firstRow after)
    (lastRow before).length

theorem hasCaretAt_iff {text : String} {f : Failure} {before after : List Char}
    (htext : text.toList = before ++ after) (h : f.LiesAt before after) :
    f.HasCaretAt text before after ↔ '\n' ∉ before ∧ ('\n' ∈ after →
      lastRow text.toList = indent ++ firstRow text.toList) := by
  rw [Failure.HasCaretAt, Failure.render_of_liesAt htext h,
    Diagnostic.rows_renderAt f.not_mem_of_help_diagnostic, Text.hasCaret_iff, htext]
  exact Text.lastRow_indent_iff before after

/-- **When the caret stands under the place it is for.** Every refused text has a place where it
fails, and its report consists of the message, the text, the first row of it behind two blanks, the
caret behind as many more blanks as there are characters before the place, and perhaps a hint. So
the caret stands below the row of the place, in its column, exactly if no line feed comes before the
place, and either none comes after it or the last row of the text happens to be its first row behind
two blanks. -/
theorem caret_under_place_iff {text : String} {f : Failure} (h : compile text = .error f) :
    (∃ before after, text.toList = before ++ after ∧ f.LiesAt before after) ∧
    ∀ before after, text.toList = before ++ after → f.LiesAt before after →
      rows (f.render text).toList =
        rows ("error: " ++ f.diagnostic.message).toList ++ rows (indent ++ text.toList) ++
          caretRow before.length :: f.diagnostic.foot ∧
      (f.HasCaretAt text before after ↔ '\n' ∉ before ∧ ('\n' ∈ after →
        lastRow text.toList = indent ++ firstRow text.toList)) := by
  refine ⟨exists_liesAt h, fun before after htext hlies => ⟨?_, hasCaretAt_iff htext hlies⟩⟩
  rw [Failure.render_of_liesAt htext hlies, Diagnostic.rows_renderAt f.not_mem_of_help_diagnostic]

/-- In a single row the caret stands where it should. -/
theorem caret_under_place_single_row :
    compile "2 $" = .error (.lexical ⟨2, '$'⟩) ∧
      ∃ before after, "2 $".toList = before ++ after ∧
        (Failure.lexical ⟨2, '$'⟩).LiesAt before after ∧
        (Failure.lexical ⟨2, '$'⟩).HasCaretAt "2 $" before after := by
  have h : compile "2 $" = .error (.lexical ⟨2, '$'⟩) := by
    have htokens : tokenize "2 $" = .error ⟨2, '$'⟩ := by decide +kernel
    rw [compile, htokens]
  obtain ⟨⟨before, after, htext, hlies⟩, hall⟩ := caret_under_place_iff h
  have hnot : '\n' ∉ before ++ after := by
    rw [← htext]
    decide
  rw [List.mem_append, not_or] at hnot
  obtain ⟨-, hiff⟩ := hall before after htext hlies
  exact ⟨h, before, after, htext, hlies, hiff.2 ⟨hnot.1, fun hafter => absurd hafter hnot.2⟩⟩

/-- **The caret does not stand under every place.** With the stray `y` in a third row, it is drawn
in column 4 below `y` without its two blanks. -/
theorem not_forall_caret_under_place :
    ¬ ∀ text f, compile text = .error f → ∃ before after, text.toList = before ++ after ∧
      f.LiesAt before after ∧ f.HasCaretAt text before after := by
  intro hall
  have h : compile "x\n+\ny" = .error (.lexical ⟨4, 'y'⟩) := by
    have htokens : tokenize "x\n+\ny" = .error ⟨4, 'y'⟩ := by decide +kernel
    rw [compile, htokens]
  obtain ⟨before, after, htext, hlies, hcaret⟩ := hall _ _ h
  have hbefore := ((hasCaretAt_iff htext hlies).1 hcaret).1
  -- Four characters come before the `y`, two line feeds among them.
  have hcolumn : Text.columnIn? (utf8Len before) (before ++ after) = some 4 := by
    rw [← hlies.1, ← htext]
    decide +kernel
  rw [Text.columnIn?_utf8Len] at hcolumn
  have htake : "x\n+\ny".toList.take 4 = before := by
    rw [htext, ← Option.some.inj hcolumn, List.take_left]
  exact hbefore (htake ▸ by decide)

end Calculator
