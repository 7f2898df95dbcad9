import Calculator.Proofs.Decimal.Writing
import Calculator.Proofs.Session.Keyed

/-!
# What a session keeps and what it forgets

**Kept.** While something is entered, the display shows it (`ShowsEntry`). Keys leave mode and
settings alone, and changes of these leave entry and display alone.

**Forgotten.** What a key does depends on entry, settings and mode, never on the display. `=` and
the clear key empty the entry, so nothing of the expressions before them can be told from what comes
of the keys after them (`transcript_congr`).

Main result: `after_keeps`.
-/

namespace Calculator

namespace Session

/-! ## Keys one by one -/

/-- The session after keys pressed one by one, whatever comes of each. -/
def afterKeys (s : Session) (ks : List Key) : Session := ks.foldl (fun s k => (s.press k).2) s

/-- What comes of each of some keys pressed one by one, and what the display shows then. -/
def transcript (s : Session) : List Key → List (Except Failure Response × String)
  | [] => []
  | k :: ks => ((s.press k).1, (s.press k).2.display) :: transcript (s.press k).2 ks

/-- None of the keys fails. -/
def Accepts (s : Session) (ks : List Key) : Prop := ∀ r ∈ s.transcript ks, r.1.isOk = true

/-- What the last of the keys comes to; `last` stands in where there is none. -/
def lastResponse (s : Session) (last : Response) (ks : List Key) : Except Failure Response :=
  ((s.transcript ks).getLast?.map Prod.fst).getD (.ok last)

/-- The keys pressed one by one, up to and including the first that fails, come to `outcome`. -/
def ComesTo (s : Session) (last : Response) (ks : List Key)
    (outcome : Except Failure Response × Session) : Prop :=
  (s.Accepts ks ∧ outcome = (s.lastResponse last ks, s.afterKeys ks)) ∨
    ∃ before k after f, ks = before ++ k :: after ∧ s.Accepts before ∧
      ((s.afterKeys before).press k).1 = .error f ∧
      outcome = (.error f, s.afterKeys (before ++ [k]))

theorem accepts_nil (s : Session) : s.Accepts [] := fun _ h => absurd h List.not_mem_nil

theorem Accepts.cons {s : Session} {k : Key} {ks : List Key} {r : Response}
    (hk : (s.press k).1 = .ok r) (h : (s.press k).2.Accepts ks) : s.Accepts (k :: ks) :=
  List.forall_mem_cons.2 ⟨by rw [hk]; rfl, h⟩

theorem lastResponse_cons {s : Session} {k : Key} {r : Response} (hk : (s.press k).1 = .ok r)
    (last : Response) (ks : List Key) :
    s.lastResponse last (k :: ks) = (s.press k).2.lastResponse r ks := by
  cases ks with
  | nil => exact hk
  | cons j ks =>
    unfold lastResponse
    rw [transcript, transcript, List.getLast?_cons_cons, List.getLast?_cons]
    rfl

/-- A key that is accepted, and what the keys after it come to. -/
theorem ComesTo.cons {s : Session} {k : Key} {ks : List Key} {r : Response}
    {outcome : Except Failure Response × Session} (hk : (s.press k).1 = .ok r)
    (h : (s.press k).2.ComesTo r ks outcome) (last : Response) :
    s.ComesTo last (k :: ks) outcome := by
  rcases h with ⟨hks, rfl⟩ | ⟨before, j, after, f, rfl, hbefore, hj, rfl⟩
  · refine .inl ⟨.cons hk hks, ?_⟩
    rw [lastResponse_cons hk]
    rfl
  · exact .inr ⟨k :: before, j, after, f, rfl, .cons hk hbefore, hj, rfl⟩

theorem pressFrom_of_ok {s : Session} {k : Key} {r : Response} (hk : (s.press k).1 = .ok r)
    (last : Response) (ks : List Key) :
    pressFrom last s (k :: ks) = pressFrom r (s.press k).2 ks := by
  rw [pressFrom]
  generalize s.press k = answer at hk ⊢
  obtain ⟨response, s'⟩ := answer
  obtain rfl : response = .ok r := hk
  rfl

theorem pressFrom_of_error {s : Session} {k : Key} {f : Failure} (hk : (s.press k).1 = .error f)
    (last : Response) (ks : List Key) :
    pressFrom last s (k :: ks) = (.error f, (s.press k).2) := by
  rw [pressFrom]
  generalize s.press k = answer at hk ⊢
  obtain ⟨response, s'⟩ := answer
  obtain rfl : response = .error f := hk
  rfl

/-- **Keys in turn come to what they come to one by one, up to the first that fails.** -/
theorem comesTo_pressFrom (s : Session) (last : Response) (ks : List Key) :
    s.ComesTo last ks (pressFrom last s ks) := by
  induction ks generalizing s last with
  | nil => exact .inl ⟨s.accepts_nil, rfl⟩
  | cons k ks ih =>
    cases hk : (s.press k).1 with
    | ok r =>
      rw [pressFrom_of_ok hk]
      exact .cons hk (ih _ r) last
    | error f =>
      rw [pressFrom_of_error hk]
      exact .inr ⟨[], k, ks, f, rfl, s.accepts_nil, hk, rfl⟩

/-! ## What is kept -/

/-- While something is entered, the display shows it. -/
def ShowsEntry (s : Session) : Prop := s.entry.tokens ≠ [] → s.display = s.entry.displayText

theorem mode_press (s : Session) (k : Key) : (s.press k).2.mode = s.mode := by
  cases k <;> rfl

theorem settings_press (s : Session) (k : Key) : (s.press k).2.settings = s.settings := by
  cases k <;> rfl

theorem display_press {k : Key} (hk : k ≠ .equals) (s : Session) :
    (s.press k).2.display = (s.press k).2.entry.displayText := by
  cases k with
  | equals => exact absurd rfl hk
  | _ => rfl

theorem showsEntry_perform {s : Session} (h : s.ShowsEntry) (a : Action) :
    (s.perform a).ShowsEntry := by
  cases a with
  | press k =>
    by_cases hk : k = .equals
    · -- Nothing is entered after a submission.
      subst hk
      exact fun hne => absurd rfl hne
    · exact fun _ => display_press hk s
  | _ => exact h

theorem showsEntry_foldl {s : Session} (h : s.ShowsEntry) (as : List Action) :
    (as.foldl perform s).ShowsEntry := by
  induction as generalizing s with
  | nil => exact h
  | cons a as ih => exact ih (showsEntry_perform h a)

/-- In every session that can be reached, the display shows what is entered. -/
theorem showsEntry_after (settings : Settings) (as : List Action) :
    (after settings as).ShowsEntry :=
  showsEntry_foldl (fun hne => absurd rfl hne) as

/-! ## Submitting -/

/-- A failure, or a value that is infinite or not a number. -/
def IsError : Except Failure Response → Prop
  | .ok (.value x) => x.isFinite = false
  | .ok _ => False
  | .error _ => True

/-- A submission is never taken for an edit. -/
theorem respond_ne_edited (settings : Settings) (mode : Mode) (ts : List Token) :
    respond settings mode ts ≠ .ok .edited := by
  unfold respond
  cases compileTokens ts with
  | error f => exact fun h => nomatch h
  | ok e =>
    cases mode with
    | standard =>
      show (do return Response.value (← (e.eval settings.angleMode).mapError .numeric)) ≠
        (.ok .edited : Except Failure Response)
      cases e.eval settings.angleMode <;> exact fun h => nomatch h
    | graphing => exact fun h => nomatch h

theorem displayOf_eq_errorText_iff {response : Except Failure Response} :
    displayOf response = errorText ↔ IsError response := by
  have hne : "" ≠ errorText := by decide
  match response with
  | .error f => exact ⟨fun _ => trivial, fun _ => rfl⟩
  | .ok (.value x) => exact formatResult_eq_errorText_iff
  | .ok (.plot p) => exact ⟨fun h => absurd h hne, False.elim⟩
  | .ok .edited => exact ⟨fun h => absurd h hne, False.elim⟩

/-! ## What is forgotten -/

/-- The keys that leave nothing entered. -/
def IsReset (k : Key) : Prop := k = .equals ∨ k = .clear

theorem entry_press_of_isReset {k : Key} (hk : IsReset k) (s : Session) :
    (s.press k).2.entry = .empty := by
  rcases hk with rfl | rfl <;> rfl

/-- What a key does depends on entry, settings and mode only. -/
theorem press_congr {s t : Session} (he : s.entry = t.entry) (hs : s.settings = t.settings)
    (hm : s.mode = t.mode) (k : Key) : s.press k = t.press k := by
  obtain ⟨entry, settings, mode, display⟩ := s
  obtain ⟨entry', settings', mode', display'⟩ := t
  obtain rfl : entry = entry' := he
  obtain rfl : settings = settings' := hs
  obtain rfl : mode = mode' := hm
  cases k <;> rfl

/-- **Two sessions that differ in their display only cannot be told apart by keys.** -/
theorem transcript_congr {s t : Session} (he : s.entry = t.entry) (hs : s.settings = t.settings)
    (hm : s.mode = t.mode) (ks : List Key) : s.transcript ks = t.transcript ks := by
  cases ks with
  | nil => rfl
  | cons k ks => rw [transcript, transcript, press_congr he hs hm]

/-- **What every session that can be reached keeps, and what it forgets.** While something is
entered the display shows it. After `=` nothing is entered, and the display shows an error exactly
for failures and values that are not finite, nothing for a plot, and otherwise the value. Keys
change neither mode nor settings, other actions neither entry nor display. Keys in turn stop at the
first that fails. And once both have been submitted or cleared, two sessions with the same mode and
settings answer and show the same, whatever was done with them before. -/
theorem after_keeps (settings : Settings) (as : List Action) :
    (after settings as).ShowsEntry ∧
    (∃ response, (after settings as).press .equals =
        (response, { after settings as with entry := .empty, display := displayOf response }) ∧
      (displayOf response = errorText ↔ IsError response) ∧ response ≠ .ok .edited ∧
      (∀ p, response = .ok (.plot p) → displayOf response = "") ∧
      ∀ x, response = .ok (.value x) → displayOf response = formatResult x) ∧
    (∀ k, ((after settings as).press k).2.mode = (after settings as).mode ∧
      ((after settings as).press k).2.settings = (after settings as).settings) ∧
    (∀ a, (∀ k, a ≠ .press k) →
      ((after settings as).perform a).entry = (after settings as).entry ∧
      ((after settings as).perform a).display = (after settings as).display) ∧
    (∀ ks, (after settings as).ComesTo .edited ks ((after settings as).pressAll ks)) ∧
    ∀ settings' as', (after settings' as').settings = (after settings as).settings →
      (after settings' as').mode = (after settings as).mode →
      ∀ j k, IsReset j → IsReset k → ∀ ks,
        ((after settings' as').press j).2.transcript ks =
          ((after settings as).press k).2.transcript ks := by
  generalize hs : after settings as = s
  refine ⟨hs ▸ showsEntry_after settings as, ?submitted,
    fun k => ⟨mode_press s k, settings_press s k⟩, ?others, comesTo_pressFrom s .edited, ?forgotten⟩
  case submitted =>
    refine ⟨respond s.settings s.mode s.entry.tokens, rfl, displayOf_eq_errorText_iff,
      respond_ne_edited _ _ _, fun p hp => ?_, fun x hx => ?_⟩
    · rw [hp]
      rfl
    · rw [hx]
      rfl
  case others =>
    intro a ha
    cases a with
    | press k => exact absurd rfl (ha k)
    | _ => exact ⟨rfl, rfl⟩
  case forgotten =>
    intro settings' as' hsettings hmode j k hj hk
    refine transcript_congr ?_ ?_ ?_
    · rw [entry_press_of_isReset hj, entry_press_of_isReset hk]
    · rw [settings_press, settings_press, hsettings]
    · rw [mode_press, mode_press, hmode]

end Session

end Calculator
