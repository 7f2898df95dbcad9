import Calculator.Proofs.Lexeme.Decoding
import Calculator.Report
import Mathlib.Data.String.Basic

/-!
# Where tokens stand in typed text

The spans that the scan gives are those of the spellings in the text.

**Spelling out.** `Lexeme.Spells offset cs placed` says that the text `cs`, which begins at byte
`offset`, is layout and the spellings of the tokens `placed`, each where its span says it is. This
is what reading a text with all its tokens placed comes to (`tokenizeSpanned_eq_ok_iff`).

**Places.** The place of a token is where its span begins; past the last token it is the end of
that one (`PlacedToken.placeIn`). A place lies between characters (`Lexeme.Spells.exists_placeIn`),
so it has a column. In display text, it comes after the texts of the tokens before it
(`Lexeme.Spells.placeIn_of_texts`).
-/

namespace Calculator

open String (utf8Len)

theorem Spelling.width_eq_utf8Len (s : Spelling) : s.width = utf8Len s.written := by
  unfold Spelling.width
  induction s.written with
  | nil => rfl
  | cons c cs ih => rw [List.foldr_cons, ih, String.utf8Len_cons, Nat.add_comm]

namespace Lexeme

/-! ## Text that spells out tokens -/

/-- The text is layout and the spellings of the tokens, which stand where their spans say. -/
inductive Spells : Nat → List Char → List PlacedToken → Prop
  | nil (offset : Nat) : Spells offset [] []
  | layout {c : Char} (hc : isLayout c = true) {offset : Nat} {cs : List Char}
      {placed : List PlacedToken} (h : Spells (offset + c.utf8Size) cs placed) :
      Spells offset (c :: cs) placed
  | spelling {s : Spelling} (hs : s ∈ Spelling.all) {offset : Nat} {cs : List Char}
      {placed : List PlacedToken} (h : Spells (offset + s.width) cs placed) :
      Spells offset (s.written ++ cs) (⟨s.token, offset, offset + s.width⟩ :: placed)

theorem Spells.placedTokens_scanFrom {offset : Nat} {cs : List Char} {placed : List PlacedToken}
    (h : Spells offset cs placed) : placedTokens (scanFrom offset cs) = .ok placed := by
  induction h with
  | nil offset =>
    rw [scanFrom]
    rfl
  | layout hc _ ih => rw [scanFrom_layout hc, ih]
  | spelling hs _ ih =>
    rw [scanFrom_spelling hs, placedTokens, ih]
    rfl

theorem spells_of_placedTokens {offset : Nat} {cs : List Char} {placed : List PlacedToken}
    (h : placedTokens (scanFrom offset cs) = .ok placed) : Spells offset cs placed := by
  induction cs using text_induction generalizing offset placed with
  | nil =>
    rw [scanFrom] at h
    cases h
    exact .nil offset
  | layout c cs hc ih =>
    rw [scanFrom_layout hc] at h
    exact .layout hc (ih h)
  | spelling s hs cs ih =>
    rw [scanFrom_spelling hs, placedTokens] at h
    cases hrest : placedTokens (scanFrom (offset + s.width) cs) with
    | error e =>
      rw [hrest] at h
      cases h
    | ok rest =>
      rw [hrest] at h
      cases h
      exact .spelling hs (ih hrest)
  | stray c cs hc hat _ =>
    rw [scanFrom_stray hc hat] at h
    cases h

end Lexeme

/-- **Text is read as the tokens that it spells out**, with the spans they are spelled at. -/
theorem tokenizeSpanned_eq_ok_iff {text : String} {placed : List PlacedToken} :
    tokenizeSpanned text = .ok placed ↔ Lexeme.Spells 0 text.toList placed :=
  ⟨Lexeme.spells_of_placedTokens, Lexeme.Spells.placedTokens_scanFrom⟩

theorem exists_spells_of_tokenize {text : String} {ts : List Token} (h : tokenize text = .ok ts) :
    ∃ placed, placed.map PlacedToken.token = ts ∧ Lexeme.Spells 0 text.toList placed := by
  rw [tokenize_eq_map] at h
  cases hplaced : tokenizeSpanned text with
  | error e =>
    rw [hplaced] at h
    cases h
  | ok placed =>
    rw [hplaced] at h
    cases h
    exact ⟨placed, rfl, tokenizeSpanned_eq_ok_iff.1 hplaced⟩

/-! ## Places -/

/-- The place of token `index` in a text that begins at byte `offset`. -/
def PlacedToken.placeIn (offset : Nat) (placed : List PlacedToken) (index : Nat) : Nat :=
  match placed[index]? with
  | some p => p.span.start
  | none => (placed.getLast?.map (·.span.stop)).getD offset

open PlacedToken (placeIn)

theorem offsetIn_eq_placeIn (placed : List PlacedToken) (position : Nat) :
    offsetIn placed position =
      placeIn 0 placed (Token.rawIndex (placed.map PlacedToken.token) position) := rfl

theorem placeIn_succ (offset : Nat) (p : PlacedToken) (placed : List PlacedToken) (index : Nat) :
    placeIn offset (p :: placed) (index + 1) = placeIn p.span.stop placed index := by
  unfold placeIn
  rw [List.getElem?_cons_succ, List.getLast?_cons]
  cases placed[index]? with
  | some q => rfl
  | none => cases placed.getLast? <;> rfl

theorem placeIn_of_getElem? {offset index : Nat} {placed : List PlacedToken} {p : PlacedToken}
    (h : placed[index]? = some p) : placeIn offset placed index = p.span.start := by
  rw [placeIn, h]

theorem placeIn_of_length_le {index : Nat} {placed : List PlacedToken} (h : placed.length ≤ index)
    (offset : Nat) :
    placeIn offset placed index = (placed.getLast?.map (·.span.stop)).getD offset := by
  rw [placeIn, List.getElem?_eq_none h]

/-- Where the text begins does not matter to the place of a token in it. -/
theorem placeIn_congr {placed : List PlacedToken} (h : placed ≠ []) (m n index : Nat) :
    placeIn m placed index = placeIn n placed index := by
  cases placed with
  | nil => exact absurd rfl h
  | cons p placed =>
    cases index with
    | zero => rfl
    | succ index => rw [placeIn_succ, placeIn_succ]

namespace Lexeme

variable {offset : Nat} {cs : List Char} {placed : List PlacedToken}

/-- **A place lies between the characters of the text.** -/
theorem Spells.exists_placeIn (h : Spells offset cs placed) (index : Nat) :
    ∃ before after, cs = before ++ after ∧
      placeIn offset placed index = offset + utf8Len before := by
  induction h generalizing index with
  | nil offset => exact ⟨[], [], rfl, rfl⟩
  | @layout c hc offset cs placed _ ih =>
    -- Without tokens the place is where the text begins, before this layout.
    by_cases hplaced : placed = []
    · subst hplaced
      exact ⟨[], c :: cs, rfl, rfl⟩
    · obtain ⟨before, after, rfl, hplace⟩ := ih index
      refine ⟨c :: before, after, rfl, ?_⟩
      rw [placeIn_congr hplaced offset (offset + c.utf8Size), hplace, String.utf8Len_cons]
      omega
  | @spelling s hs offset cs placed _ ih =>
    cases index with
    | zero => exact ⟨[], s.written ++ cs, rfl, rfl⟩
    | succ index =>
      obtain ⟨before, after, rfl, hplace⟩ := ih index
      refine ⟨s.written ++ before, after, (List.append_assoc ..).symm, ?_⟩
      rw [placeIn_succ, hplace, String.utf8Len_append, ← s.width_eq_utf8Len, Nat.add_assoc]

/-- Layout does not begin the text of a token. -/
theorem not_isLayout_of_texts {c : Char} {ts : List Token} (hts : ∀ t ∈ ts, t.IsTypable)
    (h : c :: cs = ts.flatMap (·.text.toList)) : ¬ isLayout c = true := by
  cases ts with
  | nil => cases h
  | cons t ts =>
    obtain ⟨s, hs, hw, rfl⟩ := (hts t List.mem_cons_self).exists_spelling
    rw [List.flatMap_cons, ← hw] at h
    cases hw' : s.written with
    | nil => exact absurd hw' (Spelling.written_ne_nil s hs)
    | cons d ds =>
      rw [hw', List.cons_append] at h
      cases h
      exact Spelling.not_isLayout hs (hw' ▸ List.mem_cons_self)

/-- A spelling at the beginning of a token's text is that text. -/
theorem written_eq_text {s : Spelling} (hs : s ∈ Spelling.all) {more : List Char}
    (h : s.written ++ cs = s.token.text.toList ++ more) : s.written = s.token.text.toList := by
  obtain ⟨t, ht, hw, -⟩ := Spelling.exists_written_eq_text s hs
  have hat := Spelling.at?_append hs cs
  rw [h, ← hw, Spelling.at?_append ht] at hat
  cases hat
  exact hw

/-- **In display text, the place of a token comes after the texts of the tokens before it.** -/
theorem Spells.placeIn_of_texts (h : Spells offset cs placed)
    (hcs : cs = (placed.map PlacedToken.token).flatMap (·.text.toList)) (index : Nat) :
    placeIn offset placed index =
      offset + utf8Len (((placed.map PlacedToken.token).take index).flatMap (·.text.toList)) := by
  -- No token begins with layout, so display text has none.
  have htypable : ∀ t ∈ placed.map PlacedToken.token, t.IsTypable := by
    have htokens : tokensFrom offset cs = .ok (placed.map PlacedToken.token) := by
      rw [tokensFrom, mapM_read, h.placedTokens_scanFrom]
      rfl
    exact isTypable_of_tokensFrom htokens
  induction h generalizing index with
  | nil offset =>
    rw [List.map_nil, List.take_nil]
    rfl
  | layout hc _ _ => exact absurd hc (not_isLayout_of_texts htypable hcs)
  | @spelling s hs offset cs placed _ ih =>
    rw [List.map_cons, List.flatMap_cons] at hcs
    have hw := written_eq_text hs hcs
    rw [hw] at hcs
    have hrest := List.append_cancel_left hcs
    cases index with
    | zero => rfl
    | succ index =>
      rw [placeIn_succ, ih hrest index (List.forall_mem_cons.1 htypable).2, List.map_cons,
        List.take_succ_cons, List.flatMap_cons, String.utf8Len_append, ← hw,
        ← s.width_eq_utf8Len, Nat.add_assoc]

end Lexeme

end Calculator
