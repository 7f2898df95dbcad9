import Calculator.Proofs.Lexeme.Placement
import Calculator.Proofs.Parser.Refusal
import Calculator.Proofs.Report.Rows
import Calculator.Proofs.Token.Grouping

/-!
# Where the caret stands

The caret of a syntax error, followed from the joined token that the error names to a column of the
typed text. The typed tokens of a joined one are found by cutting the sequence at `Token.rawIndex`;
their place is a span's, and lies between characters; the column is the number of characters before
it.

Main result: `caret_of_compile_eq_error`.
-/

namespace Calculator

open String (utf8Len)
open Calculator.Parser (Run)
open PlacedToken (placeIn)
open Text (rows indent caretRow)

/-! ## Columns -/

theorem Text.columnIn?_of_le {offset : Nat} {c : Char} (h : c.utf8Size ≤ offset)
    (cs : List Char) :
    columnIn? offset (c :: cs) = (columnIn? (offset - c.utf8Size) cs).map (· + 1) := by
  have hne : offset ≠ 0 := Nat.ne_of_gt (Nat.lt_of_lt_of_le c.utf8Size_pos h)
  rw [columnIn?, if_pos h]
  exact hne

theorem Text.columnIn?_utf8Len (before after : List Char) :
    columnIn? (utf8Len before) (before ++ after) = some before.length := by
  induction before with
  | nil => cases after <;> rfl
  | cons c before ih =>
    rw [String.utf8Len_cons, List.cons_append, columnIn?_of_le (Nat.le_add_left _ _),
      Nat.add_sub_cancel, ih]
    rfl

/-- The column of the byte after the first characters of a text is their number. -/
theorem Text.column?_append (before after : String) :
    column? (before ++ after) before.utf8ByteSize = some before.length := by
  have hsize : before.utf8ByteSize = utf8Len before.toList := by
    rw [← String.utf8ByteSize_ofList, String.ofList_toList]
  rw [column?, hsize, String.toList_append, columnIn?_utf8Len, String.length_toList]

theorem Token.length_displayText (ts : List Token) :
    (displayText ts).length = ts.foldr (fun t column => t.text.length + column) 0 := by
  induction ts with
  | nil => rfl
  | cons t ts ih => rw [displayText_cons, String.length_append, ih, List.foldr_cons]

/-! ## The tokens the parser reads -/

namespace PlacedToken

/-- What joining leaves of placed tokens. -/
def joined (placed : List PlacedToken) : List Token := Token.joinLiterals (placed.map token)

/-- Byte `offset` is where the first of the tokens starts that are joined into number `position`;
behind the last joined token, it is where the last of all tokens stops. -/
def PointsAt (placed : List PlacedToken) (position offset : Nat) : Prop :=
  (∀ x, (joined placed)[position]? = some x → ∃ before first group after,
    placed = before ++ (first :: group) ++ after ∧
      joined before = (joined placed).take position ∧ joined (first :: group) = [x] ∧
      joined after = (joined placed).drop (position + 1) ∧ offset = first.span.start) ∧
  (position = (joined placed).length → offset = (placed.getLast?.map (·.span.stop)).getD 0)

/-- The first of the tokens joined into one, and the others around it. -/
theorem exists_group {placed : List PlacedToken} (h : Token.HaveText (placed.map token))
    {x : Token} {xs : List Token} (hx : joined placed = x :: xs) :
    ∃ first group after, placed = first :: group ++ after ∧ joined (first :: group) = [x] ∧
      joined after = xs := by
  have hne : placed.map token ≠ [] := by
    rw [joined] at hx
    intro hnil
    rw [hnil] at hx
    cases hx
  obtain ⟨y, hgroup, -, hcons⟩ := Token.exists_joinLiterals_eq_cons h hne
  obtain ⟨rfl, rfl⟩ := List.cons.inj (hcons.symm.trans hx)
  generalize Token.groupSize (placed.map token) = size at hgroup
  rw [← List.map_take] at hgroup
  cases htake : placed.take size with
  | nil =>
    rw [htake] at hgroup
    cases hgroup
  | cons first group =>
    rw [htake] at hgroup
    refine ⟨first, group, placed.drop size, ?_, hgroup, ?_⟩
    · rw [← htake, List.take_append_drop]
    · rw [joined, List.map_drop]

/-- **The place of a syntax error is where the tokens begin that it points at.** -/
theorem pointsAt_offsetIn {placed : List PlacedToken} (h : Token.HaveText (placed.map token))
    (position : Nat) : PointsAt placed position (offsetIn placed position) := by
  have htake := Token.joinLiterals_take_rawIndex h position
  have hdrop := Token.joinLiterals_drop_rawIndex h position
  have hrest := h.drop (Token.rawIndex (placed.map token) position)
  rw [offsetIn_eq_placeIn]
  generalize Token.rawIndex (placed.map token) position = index at htake hdrop hrest
  rw [← List.map_take] at htake
  rw [← List.map_drop] at hdrop hrest
  refine ⟨fun x hx => ?_, fun hlen => ?_⟩
  · obtain ⟨hlt, rfl⟩ := List.getElem?_eq_some_iff.1 hx
    have hcons : joined (placed.drop index) = _ := hdrop.trans (List.drop_eq_getElem_cons hlt)
    obtain ⟨first, group, after, hsplit, hgroup, hafter⟩ := exists_group hrest hcons
    refine ⟨placed.take index, first, group, after, ?_, htake, hgroup, hafter, ?_⟩
    · rw [List.append_assoc, ← hsplit, List.take_append_drop]
    · apply placeIn_of_getElem?
      rw [← List.head?_drop, hsplit]
      rfl
  · apply placeIn_of_length_le
    rw [hlen, joined, List.drop_length, Token.joinLiterals_eq_nil_iff hrest, List.map_eq_nil_iff]
      at hdrop
    exact List.drop_eq_nil_iff.1 hdrop

end PlacedToken

/-! ## Carets -/

theorem SyntaxError.position_le_of_parse_eq_error {ts : List Token} {e : SyntaxError}
    (h : parse ts = .error e) : e.position ≤ ts.length := by
  rcases run_of_parse_eq_error h with ⟨f, -, rfl⟩ | ⟨x, t, rest, -, rfl⟩
  · exact Nat.sub_le _ _
  · exact Nat.sub_le _ _

/-- A text that does not compile is refused as it is read or as it is parsed. -/
theorem cases_of_compile_eq_error {text : String} {f : Failure} (h : compile text = .error f) :
    (∃ e, f = .lexical e ∧ tokenizeSpanned text = .error e) ∨
      ∃ e placed, f = .syntactic e ∧ tokenizeSpanned text = .ok placed ∧
        parse (PlacedToken.joined placed) = .error e := by
  rw [compile, tokenize_eq_map] at h
  cases htokens : tokenizeSpanned text with
  | error e =>
    rw [htokens] at h
    cases h
    exact .inl ⟨e, rfl, rfl⟩
  | ok placed =>
    rw [htokens] at h
    change (parse (PlacedToken.joined placed)).mapError Failure.syntactic = _ at h
    cases hparse : parse (PlacedToken.joined placed) with
    | error e =>
      rw [hparse] at h
      cases h
      exact .inr ⟨e, placed, rfl, rfl, hparse⟩
    | ok x =>
      rw [hparse] at h
      cases h

theorem haveText_of_tokenizeSpanned {text : String} {placed : List PlacedToken}
    (h : tokenizeSpanned text = .ok placed) :
    Token.HaveText (placed.map PlacedToken.token) := by
  have htokens : tokenize text = .ok (placed.map PlacedToken.token) := by
    rw [tokenize_eq_map, h]
    rfl
  exact Token.haveText_of_isTypable (isTypable_of_tokenize htokens)

theorem SyntaxError.offset?_of_offsetIn {e : SyntaxError} {text : String}
    {placed : List PlacedToken} {offset : Nat} (hplaced : tokenizeSpanned text = .ok placed)
    (h : offsetIn placed e.position = offset) : e.offset? text = some offset := by
  rw [SyntaxError.offset?, hplaced]
  exact congrArg some h

/-- The caret is drawn behind the characters before the byte that an error points at. -/
theorem Failure.render_of_offset? {e : SyntaxError} {before after : String}
    (h : e.offset? (before ++ after) = some before.utf8ByteSize) :
    (Failure.syntactic e).render (before ++ after) =
      (Diagnostic.ofSyntaxError e).renderAt (before ++ after) before.length := by
  rw [Failure.render, h]
  change Diagnostic.renderSource _ _ _ = _
  rw [Diagnostic.renderSource, Text.column?_append, Option.getD_some]

/-- In display text, the place of a joined token comes after the texts of those before it. -/
theorem column?_offsetIn_displayText {placed : List PlacedToken}
    (h : Lexeme.Spells 0 (Token.displayText (placed.map PlacedToken.token)).toList placed)
    (htext : Token.HaveText (placed.map PlacedToken.token)) (position : Nat) :
    Text.column? (Token.displayText (placed.map PlacedToken.token)) (offsetIn placed position) =
      some (Token.displayText ((PlacedToken.joined placed).take position)).length := by
  rw [offsetIn_eq_placeIn, h.placeIn_of_texts (Token.toList_displayText _), Nat.zero_add,
    ← String.utf8ByteSize_ofList, PlacedToken.joined, ← Token.joinLiterals_take_rawIndex htext,
    Token.displayText_joinLiterals]
  generalize Token.rawIndex (placed.map PlacedToken.token) position = index
  generalize placed.map PlacedToken.token = ts
  have hsplit := Token.displayText_append (ts.take index) (ts.drop index)
  rw [List.take_append_drop] at hsplit
  rw [hsplit]
  exact Text.column?_append _ _

/-- **The caret of a syntax error stands where the tokens begin that the error names**, in the
column after all characters before them: its row has so many blanks and two more, below the rows of
the text. In display text, that is where it would stand had the tokens been given without a text. -/
theorem caret_of_compile_eq_error {text : String} {e : SyntaxError}
    (h : compile text = .error (.syntactic e)) :
    ∃ placed before after, tokenizeSpanned text = .ok placed ∧ Lexeme.Spells 0 text.toList placed ∧
      e.position ≤ (PlacedToken.joined placed).length ∧ text = before ++ after ∧
      e.offset? text = some before.utf8ByteSize ∧
      PlacedToken.PointsAt placed e.position before.utf8ByteSize ∧
      Text.column? text before.utf8ByteSize = some before.length ∧
      (Failure.syntactic e).render text = (Diagnostic.ofSyntaxError e).renderAt text before.length ∧
      rows ((Failure.syntactic e).render text).toList =
        rows ("error: " ++ e.cause.message).toList ++ rows (indent ++ text.toList) ++
          caretRow before.length :: (Diagnostic.ofSyntaxError e).foot ∧
      (text = Token.displayText (placed.map PlacedToken.token) →
        (Failure.syntactic e).render text =
          (Diagnostic.ofSyntaxError e).render (PlacedToken.joined placed)) := by
  obtain ⟨_, hf, -⟩ | ⟨_, placed, hf, hplaced, hparse⟩ := cases_of_compile_eq_error h
  · cases hf
  obtain rfl := Failure.syntactic.inj hf
  have hspells := tokenizeSpanned_eq_ok_iff.1 hplaced
  have htext := haveText_of_tokenizeSpanned hplaced
  obtain ⟨before, after, hsplit, hplace⟩ :=
    hspells.exists_placeIn (Token.rawIndex (placed.map PlacedToken.token) e.position)
  rw [← offsetIn_eq_placeIn, Nat.zero_add, ← String.utf8ByteSize_ofList] at hplace
  obtain rfl : text = .ofList before ++ .ofList after := by
    rw [← String.ofList_append, ← hsplit, String.ofList_toList]
  have hoffset := e.offset?_of_offsetIn hplaced hplace
  have hcolumn := Text.column?_append (.ofList before) (.ofList after)
  have hrender := Failure.render_of_offset? hoffset
  refine ⟨placed, .ofList before, .ofList after, hplaced, hspells,
    SyntaxError.position_le_of_parse_eq_error hparse, rfl, hoffset, ?_, hcolumn, hrender, ?_,
    fun hdisplay => ?_⟩
  · rw [← hplace]
    exact PlacedToken.pointsAt_offsetIn htext e.position
  · rw [hrender]
    exact Diagnostic.rows_renderAt (Diagnostic.not_mem_of_help? e.cause) _ _
  · -- Two ways to count the characters before one byte.
    rw [hdisplay] at hspells hcolumn
    rw [← hplace, column?_offsetIn_displayText hspells htext] at hcolumn
    rw [hrender, ← Option.some.inj hcolumn, hdisplay, Token.length_displayText, Diagnostic.render,
      PlacedToken.joined, Token.displayText_joinLiterals]
    rfl

/-- In `(π 34` the caret stands under the `3`, in column 3 although it is byte 4, and in the report
two blanks further on. -/
theorem caret_unclosed_group :
    (Failure.syntactic ⟨.missingClose, 2⟩).render "(π 34" =
        (Diagnostic.ofSyntaxError ⟨.missingClose, 2⟩).renderAt "(π 34" 3 ∧
      rows ((Failure.syntactic ⟨.missingClose, 2⟩).render "(π 34").toList =
        ["error: missing closing parenthesis".toList, "  (π 34".toList, "     ^".toList,
          "  help: Add ')' to close the group".toList] := by
  have htokens : tokenize "(π 34" =
      .ok [.openParen, .number "π", .number "3", .number "4"] := by decide +kernel
  have hinner : Run (.chain .sum) 1 [.number "π", .number "34"]
      (.ok (.constant .pi, [.number "34"])) :=
    (Derives.constant .pi).base.toTerm.toExpression.reads (Nat.zero_le _) [.number "34"] rfl
  have hgroup : Run .primary 0 [.openParen, .number "π", .number "34"]
      (.error ⟨.missingClose, [.number "34"]⟩) :=
    .group (.unclosed (by decide) hinner (by decide))
  have hparse : parse [.openParen, .number "π", .number "34"] = .error ⟨.missingClose, 2⟩ :=
    parse_of_run_error (.firstRefused (.firstRefused (.baseRefused hgroup)))
  have h : compile "(π 34" = .error (.syntactic ⟨.missingClose, 2⟩) := by
    rw [compile, htokens]
    exact congrArg (Except.mapError Failure.syntactic) hparse
  obtain ⟨-, before, -, -, -, -, -, hoffset, -, hcolumn, hrender, hrows, -⟩ :=
    caret_of_compile_eq_error h
  have hfour : SyntaxError.offset? ⟨.missingClose, 2⟩ "(π 34" = some 4 := by decide +kernel
  have hthree : Text.column? "(π 34" 4 = some 3 := by decide +kernel
  rw [← Option.some.inj (hoffset.symm.trans hfour)] at hthree
  have hlength : before.length = 3 := Option.some.inj (hcolumn.symm.trans hthree)
  rw [hlength] at hrender hrows
  refine ⟨hrender, hrows.trans ?_⟩
  decide +kernel

end Calculator
