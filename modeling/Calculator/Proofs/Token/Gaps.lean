import Calculator.Proofs.Token.Grouping

/-!
# What stands between the tokens that are no literals

The tokens of a sequence that are no literals, constants among them, cut it into **gaps**: one
before the first of them, one after the last, and one between each two. A gap holds literals only,
and it may be empty.

**Joining fills each gap anew**, with one token for all its text or with none, and leaves the tokens
around the gaps as they are (`others_joinLiterals`, `gaps_joinLiterals`). The new token is a literal
again, as no text of a constant is put together from texts of literals
(`isLiteral_number_displayText`). So literals that were joined are joined with what follows as those
they were joined from (`joinLiterals_joinLiterals_append`).

Main result: `joinLiterals_exact`.
-/

namespace Calculator.Token

variable {t : Token} {run ts us : List Token}

/-- No piece of a decimal literal. -/
def isOther (t : Token) : Bool := !t.isLiteral

/-- The tokens that are no literals. -/
def others (ts : List Token) : List Token := ts.filter isOther

/-- The literals before, between and after the tokens that are none. -/
def gaps (ts : List Token) : List (List Token) := ts.splitOnP isOther

theorem isOther_iff : t.isOther = true ↔ ¬ t.isLiteral = true := by
  rw [isOther, Bool.not_eq_true', Bool.not_eq_true]

theorem isOther_eq_false (h : t.isLiteral = true) : t.isOther = false := by
  rw [isOther, h, Bool.not_true]

/-! ## The first gap and what follows it -/

theorem others_of_forall_isLiteral (h : ∀ t ∈ run, t.isLiteral = true) : others run = [] :=
  List.filter_eq_nil_iff.2 fun t ht => Bool.eq_false_iff.1 (isOther_eq_false (h t ht))

/-- Literals with nothing between them are one gap. -/
theorem gaps_of_forall_isLiteral (h : ∀ t ∈ run, t.isLiteral = true) : gaps run = [run] :=
  List.splitOnP_eq_singleton fun t ht => isOther_eq_false (h t ht)

theorem others_run_append_cons (h : ∀ u ∈ run, u.isLiteral = true) (ht : ¬ t.isLiteral = true)
    (ts : List Token) : others (run ++ t :: ts) = t :: others ts := by
  rw [others, List.filter_append, List.filter_cons_of_pos (isOther_iff.2 ht), ← others, ← others,
    others_of_forall_isLiteral h, List.nil_append]

/-- The literals before the first token that is none are the first gap. -/
theorem gaps_run_append_cons (h : ∀ u ∈ run, u.isLiteral = true) (ht : ¬ t.isLiteral = true)
    (ts : List Token) : gaps (run ++ t :: ts) = run :: gaps ts := by
  rw [gaps, List.splitOnP_append_cons run ts (isOther_iff.2 ht), ← gaps, ← gaps,
    gaps_of_forall_isLiteral h, List.singleton_append]

/-- A gap holds literals only. -/
theorem isLiteral_of_mem_gaps (h : run ∈ gaps ts) : ∀ t ∈ run, t.isLiteral = true := by
  induction ts using run_induction with
  | literals us hus =>
    rw [gaps_of_forall_isLiteral hus] at h
    exact List.mem_singleton.1 h ▸ hus
  | other us t ts hus ht ih =>
    rw [gaps_run_append_cons hus ht] at h
    rcases List.mem_cons.1 h with rfl | h
    · exact hus
    · exact ih h

/-- **The gaps and the tokens around them determine the sequence.** -/
theorem eq_of_others_eq_of_gaps_eq (hothers : others ts = others us) (hgaps : gaps ts = gaps us) :
    ts = us := by
  rw [gaps, gaps] at hgaps
  rw [others, others] at hothers
  rw [← List.splitOnP_spec (p := isOther) ts, hgaps, hothers, List.splitOnP_spec]

/-! ## The token of a gap -/

/-- The texts of tokens make up a single character only if one of them is that character. -/
theorem exists_text_of_displayText_eq_singleton {c : Char} (h : (displayText ts).toList = [c]) :
    ∃ t ∈ ts, t.text.toList = [c] := by
  induction ts with
  | nil => cases h
  | cons t ts ih =>
    rw [displayText_cons, String.toList_append, List.append_eq_singleton_iff] at h
    rcases h with ⟨-, hts⟩ | ⟨ht, -⟩
    · obtain ⟨u, hu, htext⟩ := ih hts
      exact ⟨u, List.mem_cons_of_mem t hu, htext⟩
    · exact ⟨t, List.mem_cons_self, ht⟩

/-- The text of a constant is a single character. -/
theorem exists_toList_symbol_eq (k : Constant) : ∃ c, k.symbol.toList = [c] := by
  cases k
  exacts [⟨'e', rfl⟩, ⟨'π', rfl⟩]

/-- **The texts of literals never make up the text of a constant.** -/
theorem isLiteral_number_displayText (h : ∀ t ∈ run, t.isLiteral = true) :
    (number (displayText run)).isLiteral = true := by
  refine isLiteral_iff.2 ⟨rfl, fun k hk => ?_⟩
  obtain ⟨c, hc⟩ := exists_toList_symbol_eq k
  obtain ⟨t, ht, htext⟩ := exists_text_of_displayText_eq_singleton (hk ▸ hc)
  exact (isLiteral_iff.1 (h t ht)).2 k (String.toList_injective (htext.trans hc.symm))

theorem joinLiterals_of_forall_isLiteral (h : ∀ t ∈ run, t.isLiteral = true) :
    joinLiterals run = ofRun (displayText run) := by
  rw [joinLiterals, joinOnto_of_forall_isLiteral h, String.empty_append]

theorem isLiteral_of_mem_joinLiterals (h : ∀ t ∈ run, t.isLiteral = true) :
    ∀ t ∈ joinLiterals run, t.isLiteral = true := by
  intro t ht
  rw [joinLiterals_of_forall_isLiteral h] at ht
  rw [(mem_ofRun.1 ht).2]
  exact isLiteral_number_displayText h

/-! ## Joining fills the gaps -/

theorem others_joinLiterals (ts : List Token) : others (joinLiterals ts) = others ts := by
  induction ts using run_induction with
  | literals run hrun =>
    rw [others_of_forall_isLiteral (isLiteral_of_mem_joinLiterals hrun),
      others_of_forall_isLiteral hrun]
  | other run t ts hrun ht ih =>
    rw [joinLiterals_append_cons ht,
      others_run_append_cons (isLiteral_of_mem_joinLiterals hrun) ht, ih,
      others_run_append_cons hrun ht]

theorem gaps_joinLiterals (ts : List Token) :
    gaps (joinLiterals ts) = (gaps ts).map joinLiterals := by
  induction ts using run_induction with
  | literals run hrun =>
    rw [gaps_of_forall_isLiteral (isLiteral_of_mem_joinLiterals hrun),
      gaps_of_forall_isLiteral hrun, List.map_singleton]
  | other run t ts hrun ht ih =>
    rw [joinLiterals_append_cons ht,
      gaps_run_append_cons (isLiteral_of_mem_joinLiterals hrun) ht, ih,
      gaps_run_append_cons hrun ht, List.map_cons]

theorem areSeparate_joinLiterals (ts : List Token) : AreSeparate (joinLiterals ts) := by
  have hrun {run : List Token} (h : ∀ t ∈ run, t.isLiteral = true) :
      AreSeparate (joinLiterals run) := by
    rw [joinLiterals_of_forall_isLiteral h, ofRun]
    split
    exacts [areSeparate_nil, List.isChain_singleton _]
  induction ts using run_induction with
  | literals run h => exact hrun h
  | other run t ts h ht ih =>
    rw [joinLiterals_append_cons ht]
    exact (hrun h).join ht ih

/-! ## Joining what is joined -/

/-- Literals that were joined before are joined to what follows as if they had not been. -/
theorem joinLiterals_append_of_forall_isLiteral (h : ∀ t ∈ run, t.isLiteral = true)
    (us : List Token) : joinLiterals (joinLiterals run ++ us) = joinLiterals (run ++ us) := by
  rw [joinLiterals, joinOnto_append_of_forall_isLiteral (isLiteral_of_mem_joinLiterals h),
    displayText_joinLiterals, joinLiterals, joinOnto_append_of_forall_isLiteral h]

/-- **Joining can be done in parts**, from the left. -/
theorem joinLiterals_joinLiterals_append (ts us : List Token) :
    joinLiterals (joinLiterals ts ++ us) = joinLiterals (ts ++ us) := by
  induction ts using run_induction with
  | literals run hrun => exact joinLiterals_append_of_forall_isLiteral hrun us
  | other run t ts hrun ht ih =>
    have hagain := joinLiterals_append_of_forall_isLiteral hrun []
    rw [List.append_nil, List.append_nil] at hagain
    rw [joinLiterals_append_cons ht, List.append_assoc, List.cons_append,
      joinLiterals_append_cons ht, hagain, ih, List.append_assoc, List.cons_append,
      joinLiterals_append_cons ht]

theorem joinLiterals_joinLiterals (ts : List Token) :
    joinLiterals (joinLiterals ts) = joinLiterals ts := by
  have hnil := joinLiterals_joinLiterals_append ts []
  rwa [List.append_nil, List.append_nil] at hnil

/-- **What joining leaves**, whatever the tokens and their texts. The tokens that are no literals
stay, in their order; the literals in a gap become one number with all their text, or nothing when
they have none; that number is no constant, and there is nothing else. Hence the display text stays,
literals do not stand side by side, joining twice is joining once, and tokens can be joined before
others follow. -/
theorem joinLiterals_exact (ts : List Token) :
    (∀ us, joinLiterals ts = us ↔ others us = others ts ∧ gaps us = (gaps ts).map fun run =>
      if displayText run = "" then [] else [number (displayText run)]) ∧
    (∀ run ∈ gaps ts, (∀ t ∈ run, t.isLiteral = true) ∧
      (number (displayText run)).isReserved = false) ∧
    displayText (joinLiterals ts) = displayText ts ∧
    AreSeparate (joinLiterals ts) ∧
    joinLiterals (joinLiterals ts) = joinLiterals ts ∧
    ∀ us, joinLiterals (ts ++ us) = joinLiterals (joinLiterals ts ++ us) := by
  have hfilled : (gaps ts).map (fun run =>
      if displayText run = "" then [] else [number (displayText run)]) =
      gaps (joinLiterals ts) := by
    rw [gaps_joinLiterals]
    refine List.map_congr_left fun run hrun => ?_
    rw [joinLiterals_of_forall_isLiteral (isLiteral_of_mem_gaps hrun), ofRun]
    simp only [String.isEmpty_iff]
  refine ⟨fun us => ⟨?_, ?_⟩, fun run hrun => ?_, displayText_joinLiterals ts,
    areSeparate_joinLiterals ts, joinLiterals_joinLiterals ts,
    fun us => (joinLiterals_joinLiterals_append ts us).symm⟩
  · rintro rfl
    exact ⟨others_joinLiterals ts, hfilled.symm⟩
  · rintro ⟨hothers, hgaps⟩
    exact eq_of_others_eq_of_gaps_eq ((others_joinLiterals ts).trans hothers.symm)
      (hfilled.symm.trans hgaps.symm)
  · have hlit := isLiteral_of_mem_gaps hrun
    have hnumber := isLiteral_number_displayText hlit
    rw [isLiteral, Bool.and_eq_true, Bool.not_eq_true'] at hnumber
    exact ⟨hlit, hnumber.2⟩

/-- A constant inside a run, a gap whose only literal has no text, and a point alone. -/
theorem joinLiterals_exact_around_constant :
    gaps [number "", number "1", number "e", number "", operator "+", number "."] =
        [[number "", number "1"], [number ""], [number "."]] ∧
      joinLiterals [number "", number "1", number "e", number "", operator "+", number "."] =
        [number "1", number "e", operator "+", number "."] ∧
      (number (displayText [number "", number "1"])).isReserved = false := by
  have hgaps : gaps [number "", number "1", number "e", number "", operator "+", number "."] =
      [[number "", number "1"], [number ""], [number "."]] := by decide
  obtain ⟨hjoined, hgap, -⟩ :=
    joinLiterals_exact [number "", number "1", number "e", number "", operator "+", number "."]
  refine ⟨hgaps, (hjoined _).2 ⟨by decide, ?_⟩, (hgap _ (hgaps ▸ List.mem_cons_self)).2⟩
  rw [hgaps]
  decide

end Calculator.Token
