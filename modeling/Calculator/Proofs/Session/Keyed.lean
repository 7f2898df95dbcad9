import Calculator.Proofs.Lexeme.Decoding
import Calculator.Session

/-!
# Keyed and typed input agree

Whatever was keyed into a session could have been typed: the text on the display is read as the
very tokens that were entered, and `=` answers what that text comes to.

**Actions.** A session is used by pressing keys and by changing its mode and its settings, in any
order and also after a failure; `Session.after` is the session that a list of **actions** leaves.

**The invariant.** Every token of the entry is typable. A function key enters two tokens, and each
of them is typable on its own, so taking back half of what a key entered keeps the invariant.

Main result: `press_equals_after`.
-/

namespace Calculator

/-! ## Entries that could have been typed -/

/-- Every token entered is typable. -/
def Entry.IsTypable (e : Entry) : Prop := ∀ t ∈ e.tokens, t.IsTypable

theorem Key.isTypable_of_mem_tokens (k : Key) : ∀ t ∈ k.tokens, t.IsTypable := by
  cases k with
  | digit value =>
    have hall : ∀ v ≤ 9, ∀ t ∈ (Key.digit v).tokens, t.IsTypable := by decide
    by_cases h : value ≤ 9
    · exact hall value h
    · rw [Key.tokens, if_neg h]
      exact fun t ht => absurd ht List.not_mem_nil
  | _ => decide

namespace Entry

theorem isTypable_empty : empty.IsTypable := fun _ ht => absurd ht List.not_mem_nil

theorem IsTypable.extend {e : Entry} (h : e.IsTypable) (k : Key) :
    (e.extend k.tokens).IsTypable := by
  intro t ht
  rcases List.mem_append.1 ht with ht | ht
  · exact h t ht
  · exact k.isTypable_of_mem_tokens t ht

/-- Keys keep the entry typable. -/
theorem IsTypable.press {e : Entry} (h : e.IsTypable) (k : Key) : (e.press k).2.IsTypable := by
  cases k with
  | clear => exact isTypable_empty
  | backspace => exact fun t ht => h t (List.dropLast_subset _ ht)
  | equals => exact h
  | _ => exact h.extend _

/-- **The display text of a typable entry is read as its tokens.** -/
theorem IsTypable.tokenize_displayText {e : Entry} (h : e.IsTypable) :
    tokenize e.displayText = .ok e.tokens :=
  Calculator.tokenize_displayText h

end Entry

/-! ## Using a session -/

namespace Session

/-- What one can do with a session. -/
inductive Action
  | press (k : Key)
  | setMode (mode : Mode)
  | setAngleMode (angleMode : AngleMode)
  | toggleAngleMode
  | setWindow (window : Window)

/-- The session after an action, whatever comes of it. -/
def perform (s : Session) : Action → Session
  | .press k => (s.press k).2
  | .setMode mode => s.setMode mode
  | .setAngleMode angleMode => s.setAngleMode angleMode
  | .toggleAngleMode => s.toggleAngleMode
  | .setWindow window => s.setWindow window

/-- The session after actions in turn, from a new calculator with the given settings. -/
def after (settings : Settings) (as : List Action) : Session := as.foldl perform (start settings)

theorem entry_press (s : Session) (k : Key) :
    (s.press k).2.entry = if k = .equals then .empty else (s.entry.press k).2 := by
  cases k <;> rfl

/-- An action keeps the entry typable. -/
theorem isTypable_entry_perform {s : Session} (h : s.entry.IsTypable) (a : Action) :
    (s.perform a).entry.IsTypable := by
  cases a with
  | press k =>
    rw [perform, entry_press]
    split
    · exact Entry.isTypable_empty
    · exact h.press k
  | _ => exact h

theorem isTypable_entry_foldl {s : Session} (h : s.entry.IsTypable) (as : List Action) :
    (as.foldl perform s).entry.IsTypable := by
  induction as generalizing s with
  | nil => exact h
  | cons a as ih => exact ih (isTypable_entry_perform h a)

/-- **In every session that can be reached, the entry is typable.** -/
theorem isTypable_entry_after (settings : Settings) (as : List Action) :
    (after settings as).entry.IsTypable :=
  isTypable_entry_foldl Entry.isTypable_empty as

/-! ## Submitting -/

/-- What typed text comes to in a mode. -/
def respondToText (settings : Settings) (mode : Mode) (text : String) : Except Failure Response :=
  match mode with
  | .standard => (evaluateText text settings.angleMode).map .value
  | .graphing => (sweepText text settings.angleMode settings.sweep).map .plot

theorem respond_eq_respondToText {text : String} {ts : List Token} (h : tokenize text = .ok ts)
    (settings : Settings) (mode : Mode) :
    respond settings mode ts = respondToText settings mode text := by
  have hcompile : compile text = compileTokens ts := by rw [compile, h]
  cases mode with
  | standard =>
    rw [respondToText, evaluateText, respond, hcompile]
    cases compileTokens ts with
    | error f => rfl
    | ok e =>
      show (do return Response.value (← (e.eval settings.angleMode).mapError .numeric)) =
        ((e.eval settings.angleMode).mapError Failure.numeric).map .value
      cases e.eval settings.angleMode <;> rfl
  | graphing =>
    rw [respondToText, sweepText, respond, hcompile]
    cases compileTokens ts <;> rfl

/-- **`=` answers what the text on the display comes to**, in every session that can be reached;
and that text is read as the tokens entered. -/
theorem press_equals_after (settings : Settings) (as : List Action) :
    tokenize (after settings as).entry.displayText = .ok (after settings as).entry.tokens ∧
      ((after settings as).press .equals).1 =
        respondToText (after settings as).settings (after settings as).mode
          (after settings as).entry.displayText := by
  have h := (isTypable_entry_after settings as).tokenize_displayText
  exact ⟨h, respond_eq_respondToText h _ _⟩

end Session

end Calculator
