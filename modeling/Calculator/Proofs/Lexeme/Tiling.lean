import Calculator.Proofs.Lexeme.Placement

/-!
# Lexemes tile the typed text

Every character of a text either belongs to exactly one lexeme or is layout between lexemes.

**Slices.** A lexeme's span is that of a piece of the text (`standsIn_of_mem_scanFrom`): one of the
longest spelling that begins there, or one stray character at which no spelling begins. Lexemes come
in the order of the text and do not overlap (`pairwise_scanFrom`), and what they leave out is layout
(`isLayout_iff_not_covers`).

**Tokens.** A text is accepted with all its lexemes, or refused for the first stray one
(`eq_map_token_or_stray`).

Each of these is an induction on how a text goes on: with layout, a spelling, or a stray character.

Main result: `scan_tiles`.
-/

namespace Calculator

open String (utf8Len)

/-- A span holds a byte. -/
def Span.Covers (s : Span) (offset : Nat) : Prop := s.start ≤ offset ∧ offset < s.stop

namespace Lexeme

/-! ## The piece of text behind a lexeme -/

/-- The lexeme is what one reads at a text that begins with `slice` and goes on with `after`. -/
def IsReadFrom (slice after : List Char) : Lexeme → Prop
  | .token placed => ∃ s ∈ Spelling.all, s.written = slice ∧ s.token = placed.token ∧
      ∀ t ∈ Spelling.all, t.written <+: slice ++ after → t.written.length ≤ slice.length
  | .stray error => slice = [error.fragment] ∧ isLayout error.fragment = false ∧
      ∀ t ∈ Spelling.all, ¬ t.written <+: slice ++ after

theorem isReadFrom_spelling {s : Spelling} (hs : s ∈ Spelling.all) (after : List Char)
    (span : Span) : IsReadFrom s.written after (.token ⟨s.token, span⟩) := by
  refine ⟨s, hs, rfl, rfl, fun t ht hpre => ?_⟩
  have hat := Spelling.at?_append hs after
  rw [Spelling.at?_eq_some_iff.2 ⟨ht, hpre⟩] at hat
  cases hat
  exact Nat.le_refl _

theorem isReadFrom_stray {c : Char} {after : List Char} (hc : isLayout c = false)
    (hat : Spelling.at? (c :: after) = none) (offset : Nat) :
    IsReadFrom [c] after (.stray ⟨offset, c⟩) := by
  refine ⟨rfl, hc, fun t ht hpre => ?_⟩
  have hsome : Spelling.at? (c :: after) = some t := Spelling.at?_eq_some_iff.2 ⟨ht, hpre⟩
  rw [hat] at hsome
  cases hsome

/-- The lexeme stands in the text `cs`, which begins at byte `offset`. -/
def StandsIn (offset : Nat) (cs : List Char) (l : Lexeme) : Prop :=
  ∃ before slice after, cs = before ++ slice ++ after ∧ slice ≠ [] ∧
    l.span = ⟨offset + utf8Len before, offset + utf8Len before + utf8Len slice⟩ ∧
    l.IsReadFrom slice after

/-- A lexeme stands in a longer text, too. -/
theorem StandsIn.append_left {l : Lexeme} {offset : Nat} {cs : List Char} (more : List Char)
    (h : l.StandsIn (offset + utf8Len more) cs) : l.StandsIn offset (more ++ cs) := by
  obtain ⟨before, slice, after, rfl, hne, hspan, hread⟩ := h
  refine ⟨more ++ before, slice, after, ?_, hne, ?_, hread⟩
  · rw [List.append_assoc, List.append_assoc, List.append_assoc]
  · rw [hspan, String.utf8Len_append, Nat.add_assoc]

theorem StandsIn.cons {l : Lexeme} {offset : Nat} {cs : List Char} {c : Char}
    (h : l.StandsIn (offset + c.utf8Size) cs) : l.StandsIn offset (c :: cs) :=
  StandsIn.append_left [c] (by rwa [String.utf8Len_cons, String.utf8Len_nil, Nat.zero_add])

theorem StandsIn.le_start {l : Lexeme} {offset : Nat} {cs : List Char} (h : l.StandsIn offset cs) :
    offset ≤ l.span.start := by
  obtain ⟨before, slice, after, -, -, hspan, -⟩ := h
  rw [hspan]
  exact Nat.le_add_right _ _

/-- **Every lexeme stands in its text.** -/
theorem standsIn_of_mem_scanFrom {offset : Nat} {cs : List Char} :
    ∀ l ∈ scanFrom offset cs, l.StandsIn offset cs := by
  induction cs using text_induction generalizing offset with
  | nil =>
    rw [scanFrom]
    exact fun l hl => absurd hl List.not_mem_nil
  | layout c cs hc ih =>
    rw [scanFrom_layout hc]
    exact fun l hl => (ih l hl).cons
  | spelling s hs cs ih =>
    rw [scanFrom_spelling hs, List.forall_mem_cons]
    refine ⟨⟨[], s.written, cs, rfl, Spelling.written_ne_nil s hs, ?_, isReadFrom_spelling hs cs _⟩,
      fun l hl => ?_⟩
    · rw [← s.width_eq_utf8Len]
      rfl
    · exact .append_left s.written (by rw [← s.width_eq_utf8Len]; exact ih l hl)
  | stray c cs hc hat ih =>
    rw [scanFrom_stray hc hat, List.forall_mem_cons]
    refine ⟨⟨[], [c], cs, rfl, List.cons_ne_nil _ _, ?_, isReadFrom_stray hc hat offset⟩,
      fun l hl => (ih l hl).cons⟩
    rw [String.utf8Len_cons, String.utf8Len_nil, Nat.zero_add]
    rfl

/-! ## Order -/

theorem length_scanFrom_le (offset : Nat) (cs : List Char) :
    (scanFrom offset cs).length ≤ cs.length := by
  induction cs using text_induction generalizing offset with
  | nil =>
    rw [scanFrom]
    exact Nat.le_refl _
  | layout c cs hc ih =>
    rw [scanFrom_layout hc]
    exact Nat.le_succ_of_le (ih _)
  | spelling s hs cs ih =>
    have hpos := List.length_pos_iff.2 (Spelling.written_ne_nil s hs)
    have hrest := ih (offset + s.width)
    rw [scanFrom_spelling hs, List.length_cons, List.length_append]
    omega
  | stray c cs hc hat ih =>
    rw [scanFrom_stray hc hat]
    exact Nat.succ_le_succ (ih _)

/-- **Lexemes come in the order of the text and do not overlap.** -/
theorem pairwise_scanFrom (offset : Nat) (cs : List Char) :
    (scanFrom offset cs).Pairwise fun l m => l.span.stop ≤ m.span.start := by
  induction cs using text_induction generalizing offset with
  | nil =>
    rw [scanFrom]
    exact List.Pairwise.nil
  | layout c cs hc ih =>
    rw [scanFrom_layout hc]
    exact ih _
  | spelling s hs cs ih =>
    rw [scanFrom_spelling hs]
    exact List.Pairwise.cons (fun m hm => (standsIn_of_mem_scanFrom m hm).le_start) (ih _)
  | stray c cs hc hat ih =>
    rw [scanFrom_stray hc hat]
    exact List.Pairwise.cons (fun m hm => (standsIn_of_mem_scanFrom m hm).le_start) (ih _)

/-! ## What lexemes leave out -/

/-- No lexeme of a text covers a byte before it. -/
theorem not_covers_of_lt {offset place : Nat} (h : place < offset) {cs : List Char} :
    ∀ l ∈ scanFrom offset cs, ¬ l.span.Covers place := by
  intro l hl hcovers
  have hle := (standsIn_of_mem_scanFrom l hl).le_start
  exact absurd hcovers.1 (by omega)

/-- A character of two texts side by side belongs to the one or to the other. -/
theorem split_append {before after slice cs : List Char} {c : Char}
    (h : before ++ c :: after = slice ++ cs) :
    (∃ more, slice = before ++ c :: more) ∨
      ∃ rest, before = slice ++ rest ∧ rest ++ c :: after = cs := by
  rcases List.append_eq_append_iff.1 h with ⟨more, hslice, hmore⟩ | ⟨rest, hbefore, hrest⟩
  · cases more with
    | nil => exact .inr ⟨[], by rw [hslice, List.append_nil, List.append_nil], hmore⟩
    | cons d more =>
      obtain ⟨rfl, -⟩ := List.cons.inj hmore
      exact .inl ⟨more, hslice⟩
  · exact .inr ⟨rest, hbefore, hrest.symm⟩

/-- What holds of the text after a lexeme without layout holds of the text from that lexeme on. -/
theorem isLayout_iff_not_covers_cons (slice : List Char) {l : Lexeme} {ls : List Lexeme}
    {offset : Nat} {before after cs : List Char} {c : Char}
    (hspan : l.span = ⟨offset, offset + utf8Len slice⟩)
    (hslice : ∀ d ∈ slice, ¬ isLayout d = true) (h : before ++ c :: after = slice ++ cs)
    (hrest : ∀ rest, rest ++ c :: after = cs → (isLayout c = true ↔
      ∀ m ∈ ls, ¬ m.span.Covers (offset + utf8Len slice + utf8Len rest))) :
    isLayout c = true ↔ ∀ m ∈ l :: ls, ¬ m.span.Covers (offset + utf8Len before) := by
  rw [List.forall_mem_cons, hspan]
  rcases split_append h with ⟨more, rfl⟩ | ⟨rest, rfl, htext⟩
  · have hc : c ∈ before ++ c :: more := List.mem_append_right _ List.mem_cons_self
    have hpos := c.utf8Size_pos
    refine iff_of_false (hslice c hc) fun hnot => hnot.1 ⟨Nat.le_add_right _ _, ?_⟩
    simp only [String.utf8Len_append, String.utf8Len_cons]
    omega
  · have hfirst : ¬ Span.Covers ⟨offset, offset + utf8Len slice⟩
        (offset + utf8Len (slice ++ rest)) := by
      intro hcovers
      have hlt := hcovers.2
      simp only [String.utf8Len_append] at hlt
      omega
    rw [hrest rest htext, String.utf8Len_append, Nat.add_assoc]
    rw [String.utf8Len_append] at hfirst
    exact ⟨fun hall => ⟨hfirst, hall⟩, And.right⟩

/-- **Exactly the layout is left out by the lexemes.** -/
theorem isLayout_iff_not_covers {offset : Nat} {before after cs : List Char} {c : Char}
    (h : before ++ c :: after = cs) :
    isLayout c = true ↔ ∀ l ∈ scanFrom offset cs, ¬ l.span.Covers (offset + utf8Len before) := by
  induction cs using text_induction generalizing offset before with
  | nil => exact absurd h (List.append_ne_nil_of_right_ne_nil _ (List.cons_ne_nil _ _))
  | layout d cs hd ih =>
    rw [scanFrom_layout hd]
    cases before with
    | nil =>
      obtain ⟨rfl, rfl⟩ := List.cons.inj h
      exact iff_of_true hd (not_covers_of_lt (Nat.add_lt_add_left c.utf8Size_pos offset))
    | cons b before =>
      obtain ⟨rfl, htext⟩ := List.cons.inj h
      rw [String.utf8Len_cons, Nat.add_comm (utf8Len before), ← Nat.add_assoc]
      exact ih htext
  | spelling s hs cs ih =>
    rw [scanFrom_spelling hs]
    refine isLayout_iff_not_covers_cons s.written ?_
      (fun d hd => Spelling.not_isLayout hs hd) h fun rest htext => ?_
    · rw [← s.width_eq_utf8Len]
      rfl
    · rw [← s.width_eq_utf8Len]
      exact ih htext
  | stray d cs hd hat ih =>
    rw [scanFrom_stray hd hat]
    have hlen : utf8Len [d] = d.utf8Size := Nat.zero_add _
    refine isLayout_iff_not_covers_cons [d] ?_ ?_ h fun rest htext => ?_
    · rw [hlen]
      rfl
    · intro e he
      rw [List.mem_singleton.1 he, hd]
      exact Bool.false_ne_true
    · rw [hlen]
      exact ih htext

/-! ## Tokens or the first stray character -/

theorem placedTokens_map_token (placed : List PlacedToken) :
    placedTokens (placed.map .token) = .ok placed := by
  induction placed with
  | nil => rfl
  | cons p placed ih =>
    rw [List.map_cons, placedTokens, ih]
    rfl

theorem placedTokens_stray (placed : List PlacedToken) (e : LexError) (ls : List Lexeme) :
    placedTokens (placed.map .token ++ .stray e :: ls) = .error e := by
  induction placed with
  | nil => rfl
  | cons p placed ih =>
    rw [List.map_cons, List.cons_append, placedTokens, ih]
    rfl

/-- Lexemes are all tokens, or there is a first stray character. -/
theorem eq_map_token_or_stray (ls : List Lexeme) :
    (∃ placed : List PlacedToken, ls = placed.map .token) ∨
      ∃ (placed : List PlacedToken) (e : LexError) (after : List Lexeme),
        ls = placed.map .token ++ .stray e :: after := by
  induction ls with
  | nil => exact .inl ⟨[], rfl⟩
  | cons l ls ih =>
    cases l with
    | stray e => exact .inr ⟨[], e, ls, rfl⟩
    | token p =>
      rcases ih with ⟨placed, rfl⟩ | ⟨placed, e, after, rfl⟩
      · exact .inl ⟨p :: placed, rfl⟩
      · exact .inr ⟨p :: placed, e, after, rfl⟩

end Lexeme

/-- **The lexemes of a text tile it.** They are no more than its characters; each stands in the text
and is read from where it stands; they come in order, do not overlap, and leave out exactly the
layout. Without a stray character the text is read as all their tokens at their spans; otherwise it
is refused for the first stray character. -/
theorem scan_tiles (text : String) :
    (Lexeme.scan text).length ≤ text.length ∧
    (∀ l ∈ Lexeme.scan text, ∃ before slice after : String, text = before ++ slice ++ after ∧
      slice ≠ "" ∧ l.span = ⟨before.utf8ByteSize, (before ++ slice).utf8ByteSize⟩ ∧
      l.IsReadFrom slice.toList after.toList) ∧
    ((Lexeme.scan text).Pairwise fun l m => l.span.stop ≤ m.span.start) ∧
    (∀ (before after : String) (c : Char), text = before ++ c.toString ++ after →
      (Lexeme.isLayout c = true ↔
        ∀ l ∈ Lexeme.scan text, ¬ l.span.Covers before.utf8ByteSize)) ∧
    ((∃ placed : List PlacedToken, Lexeme.scan text = placed.map .token ∧
        tokenizeSpanned text = .ok placed ∧ tokenize text = .ok (placed.map PlacedToken.token)) ∨
      ∃ (placed : List PlacedToken) (e : LexError) (after : List Lexeme),
        Lexeme.scan text = placed.map .token ++ .stray e :: after ∧
        tokenizeSpanned text = .error e ∧ tokenize text = .error e) := by
  refine ⟨?length, fun l hl => ?stands, Lexeme.pairwise_scanFrom 0 text.toList, ?layout, ?tokens⟩
  case length =>
    rw [← String.length_toList]
    exact Lexeme.length_scanFrom_le 0 text.toList
  case stands =>
    obtain ⟨before, slice, after, htext, hne, hspan, hread⟩ := Lexeme.standsIn_of_mem_scanFrom l hl
    refine ⟨.ofList before, .ofList slice, .ofList after, ?_, ?_, ?_, ?_⟩
    · rw [← String.ofList_append, ← String.ofList_append, ← htext, String.ofList_toList]
    · intro hempty
      exact hne (by rw [← String.toList_ofList (l := slice), hempty]; rfl)
    · rw [hspan, ← String.ofList_append, String.utf8ByteSize_ofList, String.utf8ByteSize_ofList,
        String.utf8Len_append, Nat.zero_add]
    · rwa [String.toList_ofList, String.toList_ofList]
  case layout =>
    rintro before after c rfl
    have h : Lexeme.isLayout c = true ↔
        ∀ l ∈ Lexeme.scanFrom 0 (before.toList ++ c :: after.toList),
          ¬ l.span.Covers (0 + utf8Len before.toList) := Lexeme.isLayout_iff_not_covers rfl
    rw [Nat.zero_add, ← String.utf8ByteSize_ofList, String.ofList_toList] at h
    rw [h, Lexeme.scan]
    simp [Char.toString]
  case tokens =>
    rw [tokenize_eq_map, tokenizeSpanned]
    rcases Lexeme.eq_map_token_or_stray (Lexeme.scan text) with ⟨placed, h⟩ | ⟨placed, e, after, h⟩
    · rw [h, Lexeme.placedTokens_map_token]
      exact .inl ⟨placed, rfl, rfl, rfl⟩
    · rw [h, Lexeme.placedTokens_stray]
      exact .inr ⟨placed, e, after, rfl, rfl, rfl⟩

/-- Reading goes on after a stray character, and counts bytes. -/
example : Lexeme.scan "1 $π)" =
    [.token ⟨.number "1", 0, 1⟩, .stray ⟨2, '$'⟩, .token ⟨.number "π", 3, 5⟩,
      .token ⟨.closeParen, 5, 6⟩] := by
  decide +kernel

end Calculator
