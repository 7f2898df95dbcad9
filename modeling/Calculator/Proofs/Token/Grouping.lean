import Calculator.Proofs.Token.Joining

/-!
# The tokens behind a joined token

Joining works group by group: the first `groupSize ts` tokens of `ts` leave one token, and what
they leave does not depend on what follows (`joinLiterals_group_append`). So the joined sequence
splits where the sequence before it does, at the indices that `rawIndex` gives.

Main results: `joinLiterals_take_rawIndex` and `joinLiterals_drop_rawIndex`.
-/

namespace Calculator.Token

variable {ts us : List Token}

/-- No token is without text. -/
def HaveText (ts : List Token) : Prop := ∀ t ∈ ts, t.text ≠ ""

theorem HaveText.drop (h : HaveText ts) (n : Nat) : HaveText (ts.drop n) :=
  fun t ht => h t (List.mem_of_mem_drop ht)

theorem haveText_of_isTypable (h : ∀ t ∈ ts, t.IsTypable) : HaveText ts := by
  have hall : ∀ s ∈ Spelling.all, s.token.text ≠ "" := by decide
  intro t ht
  obtain ⟨s, hs, rfl⟩ := h t ht
  exact hall s hs

@[simp] theorem joinLiterals_nil : joinLiterals [] = [] := rfl

/-! ## What joining does to texts -/

theorem displayText_ofRun (run : String) : displayText (ofRun run) = run := by
  by_cases h : run = ""
  · subst h
    rfl
  · rw [ofRun_of_ne h, displayText_cons, displayText_nil, String.append_empty]
    rfl

theorem displayText_joinOnto (run : String) (ts : List Token) :
    displayText (joinOnto run ts) = run ++ displayText ts := by
  induction ts generalizing run with
  | nil => exact (displayText_ofRun run).trans String.append_empty.symm
  | cons t ts ih =>
    by_cases ht : t.isLiteral = true
    · rw [joinOnto_of_isLiteral ht, ih, displayText_cons, String.append_assoc]
    · rw [joinOnto_of_not_isLiteral ht, displayText_append, displayText_ofRun, displayText_cons, ih,
        String.empty_append, displayText_cons]

/-- **Joining leaves the display text alone.** -/
theorem displayText_joinLiterals (ts : List Token) :
    displayText (joinLiterals ts) = displayText ts :=
  (displayText_joinOnto "" ts).trans String.empty_append

/-! ## One group -/

/-- Joining splits before a token that is no literal. -/
theorem joinOnto_append_of_head (h : ∀ u ∈ us.head?, ¬ u.isLiteral = true) (run : String)
    (ts : List Token) : joinOnto run (ts ++ us) = joinOnto run ts ++ joinLiterals us := by
  induction ts generalizing run with
  | nil =>
    cases us with
    | nil => exact (List.append_nil _).symm
    | cons u us =>
      have hu := h u rfl
      rw [joinLiterals, List.nil_append, joinOnto_of_not_isLiteral hu, joinOnto_of_not_isLiteral hu]
      rfl
  | cons t ts ih =>
    by_cases ht : t.isLiteral = true
    · rw [List.cons_append, joinOnto_of_isLiteral ht, joinOnto_of_isLiteral ht, ih]
    · rw [List.cons_append, joinOnto_of_not_isLiteral ht, joinOnto_of_not_isLiteral ht, ih,
        List.append_assoc]
      rfl

/-- Joining splits after a token that is no literal. -/
theorem joinLiterals_cons_of_not_isLiteral {t : Token} (h : ¬ t.isLiteral = true)
    (ts : List Token) : joinLiterals (t :: ts) = t :: joinLiterals ts :=
  joinOnto_of_not_isLiteral h "" ts

/-- Joining splits around a token that is no literal. -/
theorem joinLiterals_append_cons {t : Token} (ht : ¬ t.isLiteral = true)
    (ts us : List Token) :
    joinLiterals (ts ++ t :: us) = joinLiterals ts ++ t :: joinLiterals us := by
  rw [joinLiterals, joinOnto_append_of_head, joinLiterals_cons_of_not_isLiteral ht]
  · rfl
  · rintro u hu
    rwa [← Option.some.inj hu]

/-- Literals are joined to the pending text. -/
theorem joinOnto_append_of_forall_isLiteral (h : ∀ t ∈ ts, t.isLiteral = true) (run : String)
    (us : List Token) : joinOnto run (ts ++ us) = joinOnto (run ++ displayText ts) us := by
  induction ts generalizing run with
  | nil => rw [List.nil_append, displayText_nil, String.append_empty]
  | cons t ts ih =>
    obtain ⟨ht, hts⟩ := List.forall_mem_cons.1 h
    rw [List.cons_append, joinOnto_of_isLiteral ht, ih hts, displayText_cons, String.append_assoc]

/-- Joining literals leaves a single token. -/
theorem joinOnto_of_forall_isLiteral (h : ∀ t ∈ ts, t.isLiteral = true) (run : String) :
    joinOnto run ts = ofRun (run ++ displayText ts) := by
  have hnil := joinOnto_append_of_forall_isLiteral h run []
  rwa [List.append_nil] at hnil

/-- Tokens are literals only, or literals with a token after them that is none. -/
@[elab_as_elim]
theorem run_induction {motive : List Token → Prop}
    (literals : ∀ run, (∀ t ∈ run, t.isLiteral = true) → motive run)
    (other : ∀ run t ts, (∀ u ∈ run, u.isLiteral = true) → ¬ t.isLiteral = true → motive ts →
      motive (run ++ t :: ts)) (ts : List Token) : motive ts := by
  -- The literals passed by so far are kept for the token that ends them.
  suffices hall : ∀ run, (∀ t ∈ run, t.isLiteral = true) → motive (run ++ ts) from
    hall [] fun _ ht => absurd ht List.not_mem_nil
  induction ts with
  | nil =>
    intro run hrun
    rw [List.append_nil]
    exact literals run hrun
  | cons t ts ih =>
    intro run hrun
    by_cases ht : t.isLiteral = true
    · rw [List.append_cons]
      exact ih _ (List.forall_mem_append.2 ⟨hrun, List.forall_mem_singleton.2 ht⟩)
    · exact other run t ts hrun ht (ih [] fun _ hu => absurd hu List.not_mem_nil)

/-- A group is a single token that is no literal, or literals with no literal after them. -/
theorem group_cases {t : Token} (ts : List Token) :
    (¬ t.isLiteral = true ∧ groupSize (t :: ts) = 1) ∨
      ∃ run rest, t :: ts = run ++ rest ∧ groupSize (t :: ts) = run.length ∧ run ≠ [] ∧
        (∀ u ∈ run, u.isLiteral = true) ∧ ∀ u ∈ rest.head?, ¬ u.isLiteral = true := by
  by_cases ht : t.isLiteral = true
  · refine .inr ⟨t :: ts.takeWhile isLiteral, ts.dropWhile isLiteral, ?_, ?_, List.cons_ne_nil _ _,
      ?_, ?_⟩
    · rw [List.cons_append, List.takeWhile_append_dropWhile]
    · rw [groupSize, if_pos ht, List.length_cons]
    · exact List.forall_mem_cons.2 ⟨ht, List.all_eq_true.1 List.all_takeWhile⟩
    · intro u hu
      have hhead := List.head?_dropWhile_not isLiteral ts
      rw [Option.mem_def.1 hu] at hhead
      simpa using hhead
  · exact .inl ⟨ht, by rw [groupSize, if_neg ht]⟩

/-- What a group leaves does not depend on what follows it. -/
theorem joinLiterals_group_append (h : us <+: ts.drop (groupSize ts)) :
    joinLiterals (ts.take (groupSize ts) ++ us) =
      joinLiterals (ts.take (groupSize ts)) ++ joinLiterals us := by
  cases ts with
  | nil => rfl
  | cons t ts =>
    rcases group_cases (t := t) ts with ⟨ht, hsize⟩ | ⟨run, rest, hts, hsize, -, -, hrest⟩
    · rw [hsize, List.take_one]
      exact (joinLiterals_cons_of_not_isLiteral ht us).trans
        (congrArg (· ++ joinLiterals us) (joinLiterals_cons_of_not_isLiteral ht [])).symm
    · rw [hsize, hts, List.drop_left] at h
      rw [hsize, hts, List.take_left]
      refine joinOnto_append_of_head (fun u hu => hrest u ?_) "" run
      obtain ⟨more, rfl⟩ := h
      rw [List.head?_append, Option.mem_def.1 hu]
      rfl

theorem displayText_ne_empty (hts : HaveText ts) (h : ts ≠ []) : displayText ts ≠ "" := by
  cases ts with
  | nil => exact absurd rfl h
  | cons t ts =>
    rw [displayText_cons]
    exact fun hempty => hts t List.mem_cons_self (String.append_eq_empty_iff.1 hempty).1

/-- A group leaves one token. -/
theorem exists_joinLiterals_group (hts : HaveText ts) (h : ts ≠ []) :
    ∃ x, joinLiterals (ts.take (groupSize ts)) = [x] := by
  cases ts with
  | nil => exact absurd rfl h
  | cons t ts =>
    rcases group_cases (t := t) ts with ⟨ht, hsize⟩ | ⟨run, rest, heq, hsize, hne, hrun, -⟩
    · rw [hsize, List.take_one]
      exact ⟨t, joinLiterals_cons_of_not_isLiteral ht []⟩
    · have htext : displayText run ≠ "" :=
        displayText_ne_empty (fun u hu => hts u (heq ▸ List.mem_append_left rest hu)) hne
      rw [hsize, heq, List.take_left]
      refine ⟨number (displayText run), ?_⟩
      rw [joinLiterals, joinOnto_of_forall_isLiteral hrun, String.empty_append, ofRun_of_ne htext]

/-! ## All groups -/

/-- The first group leaves the first joined token, and the other tokens leave the other ones. -/
theorem exists_joinLiterals_eq_cons (hts : HaveText ts) (h : ts ≠ []) :
    ∃ x, joinLiterals (ts.take (groupSize ts)) = [x] ∧
      (∀ n, joinLiterals (ts.take (groupSize ts + n)) =
        x :: joinLiterals ((ts.drop (groupSize ts)).take n)) ∧
      joinLiterals ts = x :: joinLiterals (ts.drop (groupSize ts)) := by
  obtain ⟨x, hx⟩ := exists_joinLiterals_group hts h
  have happend (us : List Token) (hus : us <+: ts.drop (groupSize ts)) :
      joinLiterals (ts.take (groupSize ts) ++ us) = x :: joinLiterals us := by
    rw [joinLiterals_group_append hus, hx, List.singleton_append]
  refine ⟨x, hx, fun n => ?_, ?_⟩
  · rw [List.take_add]
    exact happend _ (List.take_prefix n _)
  · have hall := happend _ (List.prefix_refl _)
    rwa [List.take_append_drop] at hall

theorem joinLiterals_eq_nil_iff (hts : HaveText ts) : joinLiterals ts = [] ↔ ts = [] := by
  constructor
  · intro hnil
    by_contra h
    obtain ⟨x, -, -, hcons⟩ := exists_joinLiterals_eq_cons hts h
    rw [hnil] at hcons
    cases hcons
  · rintro rfl
    rfl

/-- **The tokens before a joined token leave the joined tokens before it.** -/
theorem joinLiterals_take_rawIndex (hts : HaveText ts) (position : Nat) :
    joinLiterals (ts.take (rawIndex ts position)) = (joinLiterals ts).take position := by
  induction position generalizing ts with
  | zero => rfl
  | succ position ih =>
    by_cases h : ts = []
    · subst h
      rw [List.take_nil, joinLiterals_nil, List.take_nil]
    · obtain ⟨x, -, htake, hcons⟩ := exists_joinLiterals_eq_cons hts h
      rw [rawIndex, htake, ih (hts.drop _), hcons, List.take_succ_cons]

/-- **The tokens from a joined token on leave the joined tokens from it on.** -/
theorem joinLiterals_drop_rawIndex (hts : HaveText ts) (position : Nat) :
    joinLiterals (ts.drop (rawIndex ts position)) = (joinLiterals ts).drop position := by
  induction position generalizing ts with
  | zero => rfl
  | succ position ih =>
    by_cases h : ts = []
    · subst h
      rw [List.drop_nil, joinLiterals_nil, List.drop_nil]
    · obtain ⟨x, -, -, hcons⟩ := exists_joinLiterals_eq_cons hts h
      rw [rawIndex, ← List.drop_drop, ih (hts.drop _), hcons, List.drop_succ_cons]

end Calculator.Token
