import Calculator.Expr
import Calculator.Proofs.Lexeme.Decoding
import Calculator.Token.Literal
import Mathlib.Data.List.Chain

/-!
# Joined literals

What joining leaves, and how to undo it.

**Numerals.** The text of a joined literal is a numeral: not empty, and of digits and points only.
That it is a number is not asked.

**Spreading.** `Token.spread` gives every character of a literal a token of its own, the way it was
entered. That leaves the display text alone, and makes the tokens of a numeral typable; joining
takes it back, provided that no two literals stand side by side.

Main results: `joinLiterals_spread`, and `haveNumerals_joinLiterals`: joining typable tokens leaves
numerals.
-/

namespace Calculator

/-! ## Numerals -/

/-- Not empty, and made of digits and points only. -/
def Text.IsNumeral (text : String) : Prop :=
  text ≠ "" ∧ ∀ c ∈ text.toList, c.isDigit = true ∨ c = '.'

theorem Text.isNumeral_iff_all {text : String} :
    IsNumeral text ↔ text ≠ "" ∧ text.toList.all (fun c => c.isDigit || c = '.') = true := by
  simp [IsNumeral]

instance (text : String) : Decidable (Text.IsNumeral text) :=
  decidable_of_iff _ Text.isNumeral_iff_all.symm

theorem Text.IsNumeral.append {a b : String} (ha : IsNumeral a) (hb : IsNumeral b) :
    IsNumeral (a ++ b) := by
  refine ⟨fun h => ha.1 (String.append_eq_empty_iff.1 h).1, fun c hc => ?_⟩
  rw [String.toList_append, List.mem_append] at hc
  exact hc.elim (ha.2 c) (hb.2 c)

theorem Text.IsNumeral.singleton {c : Char} (h : c.isDigit = true ∨ c = '.') :
    IsNumeral c.toString := by
  have htext : c.toString.toList = [c] := String.toList_singleton c
  refine ⟨fun hempty => ?_, fun d hd => ?_⟩
  · rw [hempty] at htext
    cases htext
  · rw [htext, List.mem_singleton] at hd
    exact hd ▸ h

/-- No constant is written like a numeral. -/
theorem Text.IsNumeral.ne_symbol {text : String} (h : IsNumeral text) (k : Constant) :
    text ≠ k.symbol := by
  rintro rfl
  revert h
  cases k <;> decide

theorem mem_of_isDigit {c : Char} (h : c.isDigit = true) :
    c ∈ ['0', '1', '2', '3', '4', '5', '6', '7', '8', '9'] := by
  have hall : ∀ n < 58, 48 ≤ n →
      Char.ofNat n ∈ ['0', '1', '2', '3', '4', '5', '6', '7', '8', '9'] := by decide
  simp only [Char.isDigit, Bool.and_eq_true, decide_eq_true_eq, ge_iff_le, UInt32.le_iff_toNat_le]
    at h
  rw [← Char.ofNat_toNat c]
  exact hall c.toNat (Nat.lt_succ_of_le h.2) h.1

namespace Token

/-- Every literal among the tokens is a numeral. -/
def HaveNumerals (ts : List Token) : Prop := ∀ t ∈ ts, t.isLiteral = true → Text.IsNumeral t.text

theorem isLiteral_iff {t : Token} :
    t.isLiteral = true ↔ t.kind = .number ∧ ∀ k : Constant, t.text ≠ k.symbol := by
  have hk : (∀ k : Constant, t.text ≠ k.symbol) ↔ t.text ≠ "e" ∧ t.text ≠ "π" :=
    ⟨fun h => ⟨h .e, h .pi⟩, fun h k => by cases k; exacts [h.1, h.2]⟩
  rw [hk]
  simp only [isLiteral, isReserved, Bool.and_eq_true, decide_eq_true_eq, Bool.not_eq_true',
    Bool.and_eq_false_iff, decide_eq_false_iff_not, Bool.or_eq_false_iff]
  constructor
  · rintro ⟨hnum, h | h⟩
    · exact absurd hnum h
    · exact ⟨hnum, h⟩
  · rintro ⟨hnum, h⟩
    exact ⟨hnum, .inr h⟩

theorem not_isLiteral {t : Token} (h : t.kind ≠ .number) : ¬ t.isLiteral = true :=
  fun hlit => h (isLiteral_iff.1 hlit).1

theorem isLiteral_number {text : String} (h : Text.IsNumeral text) :
    (number text).isLiteral = true :=
  isLiteral_iff.2 ⟨rfl, h.ne_symbol⟩

theorem eq_number_of_isLiteral {t : Token} (h : t.isLiteral = true) : t = number t.text := by
  obtain ⟨kind, text⟩ := t
  obtain rfl : kind = .number := (isLiteral_iff.1 h).1
  rfl

/-- The texts of the literals among the tokens. -/
def literalTexts (ts : List Token) : List String := (ts.filter isLiteral).map text

theorem literalTexts_append (ts us : List Token) :
    literalTexts (ts ++ us) = literalTexts ts ++ literalTexts us := by
  rw [literalTexts, List.filter_append, List.map_append, literalTexts, literalTexts]

theorem literalTexts_cons {t : Token} (h : ¬ t.isLiteral = true) (ts : List Token) :
    literalTexts (t :: ts) = literalTexts ts := by
  rw [literalTexts, List.filter_cons_of_neg h, literalTexts]

theorem literalTexts_singleton {t : Token} (h : t.isLiteral = true) :
    literalTexts [t] = [t.text] := by
  rw [literalTexts, List.filter_cons_of_pos h]
  rfl

/-- The literals that can be typed are one digit or point long. -/
theorem IsTypable.isNumeral {t : Token} (h : t.IsTypable) (ht : t.isLiteral = true) :
    Text.IsNumeral t.text := by
  have hall : ∀ s ∈ Spelling.all, s.token.isLiteral = true → Text.IsNumeral s.token.text := by
    decide
  obtain ⟨s, hs, rfl⟩ := h
  exact hall s hs ht

theorem isTypable_number {c : Char} (h : c.isDigit = true ∨ c = '.') :
    (number c.toString).IsTypable := by
  have hall : (['0', '1', '2', '3', '4', '5', '6', '7', '8', '9'].all fun c =>
      (number c.toString).IsTypable) = true := by decide
  rcases h with h | rfl
  · exact of_decide_eq_true (List.all_eq_true.1 hall c (mem_of_isDigit h))
  · decide

/-! ## Joining -/

theorem joinOnto_of_isLiteral {t : Token} (h : t.isLiteral = true) (run : String)
    (ts : List Token) : joinOnto run (t :: ts) = joinOnto (run ++ t.text) ts := by
  rw [joinOnto, if_pos h]

theorem joinOnto_of_not_isLiteral {t : Token} (h : ¬ t.isLiteral = true) (run : String)
    (ts : List Token) : joinOnto run (t :: ts) = ofRun run ++ t :: joinOnto "" ts := by
  rw [joinOnto, if_neg h]

theorem mem_ofRun {run : String} {t : Token} : t ∈ ofRun run ↔ run ≠ "" ∧ t = number run := by
  unfold ofRun
  by_cases h : run = "" <;> simp [h]

theorem ofRun_of_ne {run : String} (h : run ≠ "") : ofRun run = [number run] := by
  unfold ofRun
  simp [h]

/-- What joining leaves is a number, or was there before. -/
theorem mem_or_kind_of_mem_joinOnto {t : Token} {ts : List Token} {run : String}
    (h : t ∈ joinOnto run ts) :
    t ∈ ts ∨ t.kind = .number := by
  have hofRun {run : String} {t : Token} (ht : t ∈ ofRun run) : t.kind = .number := by
    rw [(mem_ofRun.1 ht).2]
    rfl
  induction ts generalizing run with
  | nil => exact .inr (hofRun h)
  | cons u ts ih =>
    by_cases hu : u.isLiteral = true
    · rw [joinOnto_of_isLiteral hu] at h
      exact (ih h).imp_left (List.mem_cons_of_mem u)
    · rw [joinOnto_of_not_isLiteral hu, List.mem_append, List.mem_cons] at h
      rcases h with h | rfl | h
      · exact .inr (hofRun h)
      · exact .inl List.mem_cons_self
      · exact (ih h).imp_left (List.mem_cons_of_mem u)

/-- Joining numerals leaves numerals, the pending one included. -/
theorem haveNumerals_joinOnto {ts : List Token} (h : HaveNumerals ts) {run : String}
    (hrun : run ≠ "" → Text.IsNumeral run) : HaveNumerals (joinOnto run ts) := by
  have hofRun : HaveNumerals (ofRun run) := by
    intro t ht _
    obtain ⟨hne, rfl⟩ := mem_ofRun.1 ht
    exact hrun hne
  induction ts generalizing run with
  | nil => exact hofRun
  | cons t ts ih =>
    obtain ⟨ht, hts⟩ := List.forall_mem_cons.1 h
    by_cases hlit : t.isLiteral = true
    · have hnext : Text.IsNumeral (run ++ t.text) := by
        by_cases hne : run = ""
        · rw [hne, String.empty_append]
          exact ht hlit
        · exact (hrun hne).append (ht hlit)
      rw [joinOnto_of_isLiteral hlit]
      refine ih hts (fun _ => hnext) fun u hu _ => ?_
      obtain ⟨_, rfl⟩ := mem_ofRun.1 hu
      exact hnext
    · rw [joinOnto_of_not_isLiteral hlit]
      intro u hu hul
      rcases List.mem_append.1 hu with hu | hu
      · exact hofRun u hu hul
      · rcases List.mem_cons.1 hu with rfl | hu
        · exact absurd hul hlit
        · refine ih hts (fun h => absurd rfl h) (fun u hu _ => ?_) u hu hul
          exact absurd rfl (mem_ofRun.1 hu).1

/-- **Joining typable tokens leaves numerals.** -/
theorem haveNumerals_joinLiterals {ts : List Token} (h : ∀ t ∈ ts, t.IsTypable) :
    HaveNumerals (joinLiterals ts) :=
  haveNumerals_joinOnto (fun t ht hlit => (h t ht).isNumeral hlit) fun h => absurd rfl h

/-! ## Spreading -/

/-- A token of its own for each character of a literal. -/
def spreadOne (t : Token) : List Token :=
  if t.isLiteral then t.text.toList.map fun c => number c.toString else [t]

/-- A token of its own for each character of each literal. -/
def spread (ts : List Token) : List Token := ts.flatMap spreadOne

/-- No two literals stand side by side. -/
def AreSeparate (ts : List Token) : Prop :=
  ts.IsChain fun t u => ¬ (t.isLiteral = true ∧ u.isLiteral = true)

theorem areSeparate_nil : AreSeparate [] := List.isChain_nil

theorem AreSeparate.cons {ts : List Token} {t : Token} (ht : ¬ t.isLiteral = true)
    (hts : AreSeparate ts) : AreSeparate (t :: ts) :=
  List.IsChain.cons hts fun _ _ h => ht h.1

/-- A token that is no literal separates the literals before and after it. -/
theorem AreSeparate.join {ts us : List Token} {t : Token} (hts : AreSeparate ts)
    (ht : ¬ t.isLiteral = true) (hus : AreSeparate us) : AreSeparate (ts ++ t :: us) :=
  List.IsChain.append hts (hus.cons ht) fun _ _ u hu h => by
    obtain rfl : t = u := Option.mem_some_iff.1 hu
    exact ht h.2

theorem flatMap_text_spreadOne (t : Token) :
    (spreadOne t).flatMap (·.text.toList) = t.text.toList := by
  unfold spreadOne
  split
  · simp [List.flatMap_map, number, Char.toString]
  · exact List.flatMap_singleton _ _

/-- Spreading leaves the display text alone. -/
theorem displayText_spread (ts : List Token) : displayText (spread ts) = displayText ts := by
  apply String.toList_injective
  rw [toList_displayText, toList_displayText, spread, List.flatMap_assoc]
  exact congrArg (ts.flatMap ·) (funext flatMap_text_spreadOne)

/-- Spreading numerals leaves typable tokens, if the other tokens are typable. -/
theorem isTypable_of_mem_spread {ts : List Token} (hnum : HaveNumerals ts)
    (h : ∀ t ∈ ts, ¬ t.isLiteral = true → t.IsTypable) : ∀ t ∈ spread ts, t.IsTypable := by
  intro u hu
  obtain ⟨t, ht, hu⟩ := List.mem_flatMap.1 hu
  by_cases hlit : t.isLiteral = true
  · rw [spreadOne, if_pos hlit] at hu
    obtain ⟨c, hc, rfl⟩ := List.mem_map.1 hu
    exact isTypable_number ((hnum t ht hlit).2 c hc)
  · rw [spreadOne, if_neg hlit] at hu
    rw [List.mem_singleton.1 hu]
    exact h t ht hlit

/-- Characters of a numeral are joined to the pending text. -/
theorem joinOnto_map_number {cs : List Char} (h : ∀ c ∈ cs, c.isDigit = true ∨ c = '.')
    (run : String) (ts : List Token) :
    joinOnto run (cs.map (fun c => number c.toString) ++ ts) = joinOnto (run ++ .ofList cs) ts := by
  induction cs generalizing run with
  | nil => simp
  | cons c cs ih =>
    obtain ⟨hc, hcs⟩ := List.forall_mem_cons.1 h
    have hlit : (number c.toString).isLiteral = true := isLiteral_number (.singleton hc)
    rw [List.map_cons, List.cons_append, joinOnto_of_isLiteral hlit, ih hcs, String.append_assoc]
    congr 2
    apply String.toList_injective
    simp [number, Char.toString]

/-- Joining takes spreading back, after a pending text that no literal follows. -/
theorem joinOnto_spread {ts : List Token} (hnum : HaveNumerals ts) (hsep : AreSeparate ts)
    {run : String} (hrun : run = "" ∨ ∀ t ∈ ts.head?, ¬ t.isLiteral = true) :
    joinOnto run (spread ts) = ofRun run ++ ts := by
  induction ts generalizing run with
  | nil => exact (List.append_nil _).symm
  | cons t ts ih =>
    obtain ⟨ht, hts⟩ := List.forall_mem_cons.1 hnum
    obtain ⟨hnext, hsep⟩ := List.isChain_cons.1 hsep
    rw [spread, List.flatMap_cons, ← spread]
    by_cases hlit : t.isLiteral = true
    · obtain rfl : run = "" := hrun.resolve_right fun h => h t rfl hlit
      have hafter : ∀ u ∈ ts.head?, ¬ u.isLiteral = true := fun u hu h => hnext u hu ⟨hlit, h⟩
      rw [spreadOne, if_pos hlit, joinOnto_map_number (ht hlit).2, String.empty_append,
        String.ofList_toList, ih hts hsep (.inr hafter), ofRun_of_ne (ht hlit).1,
        ← eq_number_of_isLiteral hlit]
      rfl
    · rw [spreadOne, if_neg hlit, List.singleton_append, joinOnto_of_not_isLiteral hlit,
        ih hts hsep (.inl rfl)]
      rfl

/-- **Joining takes spreading back**, where literals are numerals and none stands next to
another. -/
theorem joinLiterals_spread {ts : List Token} (hnum : HaveNumerals ts) (hsep : AreSeparate ts) :
    joinLiterals (spread ts) = ts :=
  joinOnto_spread hnum hsep (.inl rfl)

end Token

end Calculator
