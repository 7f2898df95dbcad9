import Calculator.Command.Run
import Calculator.Proofs.Report.Ending

/-!
# Dialogues and single runs

A dialogue answers each line as if it stood alone. All that earlier lines leave behind is the angle
mode, and of them only the last that sets it counts.

**Turns.** What a dialogue does with a line is a **turn**: the prompt before the line, the answer,
and the texts that were evaluated for it. To see the last, `Dialogue.handleLineBy` leaves the
evaluation to a program that may record what it is asked; with the record thrown away it is
`Dialogue.handleLine`. Running a dialogue goes through the turns for its lines, up to one that ends
it.

**Expressions.** A line without blanks around it is empty, begins with a colon, or is an
**expression**. An expression is answered with the lines that evaluating it once shows, on output or
on error output. There a line feed comes behind the text, which makes no line of its own.

Main result: `turns_refine_runEval`.
-/

namespace Calculator.Command

/-! ## What a run shows -/

/-- What an event puts on the terminal. -/
def Event.shown : Event → String
  | .print text => text ++ "\n"
  | .complain text => text ++ "\n"
  | .ask prompt => prompt
  | .remember _ => ""
  | .warn text => "[WARN] " ++ text ++ "\n"

/-- All that a run puts on the terminal. -/
def Outcome.shown (o : Outcome) : String := String.join (o.events.map Event.shown)

theorem endsInsideLine_evaluation (mode : AngleMode) (source : String) :
    Text.EndsInsideLine (Dialogue.evaluation mode source).toList := by
  unfold Dialogue.evaluation
  cases evaluateText source mode with
  | ok x => exact endsInsideLine_formatResult x
  | error failure => exact failure.endsInsideLine_render source

/-- A single run shows the text that answers an expression in a dialogue, and a line feed. -/
theorem shown_runEval (source : String) (mode : AngleMode) :
    (runEval source mode).shown = Dialogue.evaluation mode source ++ "\n" := by
  unfold runEval Dialogue.evaluation
  cases evaluateText source mode <;> simp [Outcome.shown, Event.shown, fail, String.join]

/-- **A single run shows the lines that answer an expression in a dialogue.** -/
theorem lines_shown_runEval (source : String) (mode : AngleMode) :
    Text.lines (runEval source mode).shown = Text.lines (Dialogue.evaluation mode source) := by
  rw [shown_runEval, Text.lines_append_lineFeed (endsInsideLine_evaluation mode source)]

/-! ## Lines -/

/-- A line that is evaluated: without the blanks around it, it is not empty and begins with no
colon. -/
def IsExpression (line : String) : Prop :=
  (Text.trim line).toList ≠ [] ∧ (Text.trim line).toList.head? ≠ some ':'

instance (line : String) : Decidable (IsExpression line) :=
  inferInstanceAs (Decidable (_ ∧ _))

/-- The angle mode that a line sets. -/
def modeSetBy? (line : String) : Option AngleMode :=
  if Text.trim line = ":deg" then some .degrees
  else if Text.trim line = ":rad" then some .radians
  else none

/-- The angle mode in force after some lines: what the last of them that sets one sets, or else the
mode before them. -/
def modeAfter (mode : AngleMode) (lines : List String) : AngleMode :=
  (lines.reverse.findSome? modeSetBy?).getD mode

theorem modeAfter_cons (mode : AngleMode) (line : String) (rest : List String) :
    modeAfter mode (line :: rest) = modeAfter ((modeSetBy? line).getD mode) rest := by
  simp [modeAfter, List.findSome?_append, Option.getD_or]

namespace Dialogue

/-! ## One line -/

/-- Answer a line, the evaluation left to `evaluate`. -/
def handleLineBy {m : Type → Type} [Monad m] (evaluate : AngleMode → String → m String)
    (d : Dialogue) (line : String) : m (Answer × Dialogue) :=
  let trimmed := Text.trim line
  match trimmed.toList with
  | [] => pure (say [], d)
  | ':' :: _ => pure (d.obey trimmed)
  | _ => do
    let answer ← evaluate d.mode trimmed
    return (say (Text.lines answer), d)

/-- Evaluate, and record the mode and the text. -/
def recorded (mode : AngleMode) (source : String) :
    StateM (List (AngleMode × String)) String := do
  modify (· ++ [(mode, source)])
  return evaluation mode source

section Cases

variable {m : Type → Type} [Monad m] {evaluate : AngleMode → String → m String} {line : String}

theorem handleLineBy_of_empty (h : (Text.trim line).toList = []) (d : Dialogue) :
    d.handleLineBy evaluate line = pure (say [], d) := by
  rw [handleLineBy, h]

theorem handleLineBy_of_command (h : (Text.trim line).toList.head? = some ':') (d : Dialogue) :
    d.handleLineBy evaluate line = pure (d.obey (Text.trim line)) := by
  obtain ⟨command, hcommand⟩ := List.head?_eq_some_iff.1 h
  rw [handleLineBy, hcommand]
  rfl

theorem handleLineBy_of_isExpression (h : IsExpression line) (d : Dialogue) :
    d.handleLineBy evaluate line = (do
      let answer ← evaluate d.mode (Text.trim line)
      return (say (Text.lines answer), d)) := by
  obtain ⟨hne, hcolon⟩ := h
  unfold handleLineBy
  dsimp only
  split
  next hempty => exact absurd hempty hne
  next hcommand => exact absurd (congrArg List.head? hcommand) hcolon
  next => rfl

end Cases

/-- Evaluating and recording nothing, a line is answered as in a dialogue. -/
theorem handleLineBy_evaluation (d : Dialogue) (line : String) :
    d.handleLineBy (m := Id) (fun mode source => evaluation mode source) line =
      d.handleLine line := by
  unfold handleLineBy handleLine
  dsimp only
  cases (Text.trim line).toList with
  | nil => rfl
  | cons c cs =>
    by_cases hc : c = ':'
    · rw [hc]
      rfl
    · simp only [List.cons.injEq, hc, false_and, imp_self, implies_true]
      rfl

theorem line_cases (line : String) : (Text.trim line).toList = [] ∨
    (Text.trim line).toList.head? = some ':' ∨ IsExpression line := by
  by_cases hempty : (Text.trim line).toList = []
  · exact .inl hempty
  · by_cases hcolon : (Text.trim line).toList.head? = some ':'
    · exact .inr (.inl hcolon)
    · exact .inr (.inr ⟨hempty, hcolon⟩)

/-- **For a line an expression is evaluated once, and nothing else.** -/
theorem run_handleLineBy_recorded (d : Dialogue) (line : String) :
    (d.handleLineBy recorded line).run [] =
      (d.handleLine line, if IsExpression line then [(d.mode, Text.trim line)] else []) := by
  rw [← handleLineBy_evaluation]
  rcases line_cases line with h | h | h
  · have hnot : ¬ IsExpression line := fun hline => hline.1 h
    rw [handleLineBy_of_empty h, handleLineBy_of_empty h, if_neg hnot]
    rfl
  · have hnot : ¬ IsExpression line := fun hline => hline.2 h
    rw [handleLineBy_of_command h, handleLineBy_of_command h, if_neg hnot]
    rfl
  · rw [handleLineBy_of_isExpression h, handleLineBy_of_isExpression h, if_pos h]
    rfl

/-! ## Commands -/

/-- Commands begin with a colon. -/
theorem trim_ne_of_head? {line command : String} (hcommand : command.toList.head? = some ':')
    (h : (Text.trim line).toList.head? ≠ some ':') : Text.trim line ≠ command := by
  rintro rfl
  exact h hcommand

theorem handleLine_of_head? {line : String} (h : (Text.trim line).toList.head? = some ':')
    (d : Dialogue) : d.handleLine line = d.obey (Text.trim line) := by
  rw [← handleLineBy_evaluation, handleLineBy_of_command h]
  rfl

/-- A line that is no command leaves the dialogue as it is, and it goes on. -/
theorem handleLine_of_head?_ne {line : String} (h : (Text.trim line).toList.head? ≠ some ':')
    (d : Dialogue) : (d.handleLine line).2 = d ∧ (d.handleLine line).1.ends = false := by
  rw [← handleLineBy_evaluation]
  rcases line_cases line with hempty | hcolon | hline
  · rw [handleLineBy_of_empty hempty]
    exact ⟨rfl, rfl⟩
  · exact absurd hcolon h
  · rw [handleLineBy_of_isExpression hline]
    exact ⟨rfl, rfl⟩

theorem mode_obey (d : Dialogue) (command : String) : (d.obey command).2.mode =
    if command = ":deg" then .degrees else if command = ":rad" then .radians else d.mode := by
  unfold obey
  split <;> simp_all [switchTo]

theorem ends_obey (d : Dialogue) (command : String) :
    (d.obey command).1.ends = true ↔ command ∈ [":q", ":quit", ":exit"] := by
  unfold obey
  split <;> simp_all [switchTo, say]

/-- **After a line the mode is the one that it sets, or else the one before it.** -/
theorem mode_handleLine (d : Dialogue) (line : String) :
    (d.handleLine line).2.mode = (modeSetBy? line).getD d.mode := by
  unfold modeSetBy?
  by_cases h : (Text.trim line).toList.head? = some ':'
  · rw [handleLine_of_head? h, mode_obey]
    split_ifs <;> rfl
  · rw [(handleLine_of_head?_ne h d).1, if_neg (trim_ne_of_head? rfl h),
      if_neg (trim_ne_of_head? rfl h)]
    rfl

theorem ends_handleLine (d : Dialogue) (line : String) :
    (d.handleLine line).1.ends = true ↔ Text.trim line ∈ [":q", ":quit", ":exit"] := by
  by_cases h : (Text.trim line).toList.head? = some ':'
  · rw [handleLine_of_head? h, ends_obey]
  · rw [(handleLine_of_head?_ne h d).2]
    refine iff_of_false Bool.false_ne_true fun hmem => ?_
    simp only [List.mem_cons, List.not_mem_nil, or_false] at hmem
    rcases hmem with hq | hquit | hexit
    · exact trim_ne_of_head? rfl h hq
    · exact trim_ne_of_head? rfl h hquit
    · exact trim_ne_of_head? rfl h hexit

/-! ## Turns -/

/-- What a dialogue does with a line. -/
structure Turn where
  prompt : String
  line : String
  answer : Answer
  /-- The modes and the texts that were evaluated. -/
  evaluated : List (AngleMode × String)

/-- The turn for a line. -/
def turn (d : Dialogue) (line : String) : Turn :=
  ⟨d.prompt, line, (d.handleLine line).1, ((d.handleLineBy recorded line).run []).2⟩

theorem answer_turn (d : Dialogue) (line : String) :
    (d.turn line).answer = (d.handleLine line).1 := by
  rw [turn]

theorem prompt_turn (d : Dialogue) (line : String) :
    (d.turn line).prompt = if d.mode = .degrees then "gcalc[deg]> " else "gcalc[rad]> " := by
  obtain ⟨mode⟩ := d
  rw [turn]
  cases mode <;> rfl

theorem evaluated_turn (d : Dialogue) (line : String) :
    (d.turn line).evaluated = if IsExpression line then [(d.mode, Text.trim line)] else [] := by
  rw [turn, run_handleLineBy_recorded]

/-- **A turn ends the dialogue for three commands only.** -/
theorem ends_turn (d : Dialogue) (line : String) :
    (d.turn line).answer.ends = true ↔ Text.trim line ∈ [":q", ":quit", ":exit"] := by
  rw [answer_turn, ends_handleLine]

/-- An expression is answered with the lines that a single run shows. -/
theorem lines_turn {line : String} (h : IsExpression line) (d : Dialogue) :
    (d.turn line).answer.lines = Text.lines (runEval (Text.trim line) d.mode).shown := by
  rw [answer_turn, lines_shown_runEval, ← handleLineBy_evaluation, handleLineBy_of_isExpression h]
  rfl

/-- The turns for lines in order. -/
def turns (d : Dialogue) : List String → List Turn
  | [] => []
  | line :: rest => d.turn line :: (d.handleLine line).2.turns rest

/-- What running does in a turn. -/
def Turn.events (t : Turn) : List Event :=
  .ask t.prompt :: historyOf t.line ++ t.answer.lines.map .print

theorem runDialogue_line (d : Dialogue) (line : String) (arrivals : List Arrival) :
    runDialogue d (.line line :: arrivals) =
      if (d.turn line).answer.ends then ⟨(d.turn line).events, 0⟩
      else
        let later := runDialogue (d.handleLine line).2 arrivals
        { later with events := (d.turn line).events ++ later.events } := by
  rw [runDialogue, Turn.events, turn]

/-- **Running goes through the turns, up to a line that ends the dialogue.** -/
theorem runDialogue_append (d : Dialogue) {lines : List String}
    (h : ∀ line ∈ lines, Text.trim line ∉ [":q", ":quit", ":exit"]) (arrivals : List Arrival) :
    runDialogue d (lines.map .line ++ arrivals) =
      let later := runDialogue ⟨modeAfter d.mode lines⟩ arrivals
      { later with events := (d.turns lines).flatMap Turn.events ++ later.events } := by
  induction lines generalizing d with
  | nil => rfl
  | cons line rest ih =>
    obtain ⟨hline, hrest⟩ := List.forall_mem_cons.1 h
    have hgoes : ¬ (d.turn line).answer.ends = true := fun hends =>
      hline ((ends_turn d line).1 hends)
    rw [List.map_cons, List.cons_append, runDialogue_line, if_neg hgoes, ih _ hrest,
      mode_handleLine, ← modeAfter_cons, turns, List.flatMap_cons]
    simp only [List.append_assoc]

/-- The turn for a line is that of a new dialogue in the mode then in force. -/
theorem getElem?_turns (d : Dialogue) (earlier : List String) (line : String)
    (later : List String) :
    (d.turns (earlier ++ line :: later))[earlier.length]? =
      some (turn ⟨modeAfter d.mode earlier⟩ line) := by
  induction earlier generalizing d with
  | nil => rfl
  | cons first rest ih =>
    rw [modeAfter_cons, ← mode_handleLine, ← ih, List.cons_append, turns, List.length_cons,
      List.getElem?_cons_succ]

/-- **A dialogue answers each line as a single run would.** Take any line of any script. The mode in
force there is the one that the last earlier line to set one set, or else the one at the start, and
the prompt shows it. If the line is an expression, the answer consists of the lines that a single
run shows with that expression for its only word and in that mode, and this is all that is
evaluated; for any other line nothing is. The dialogue is told to end by `:q`, `:quit` and `:exit`,
and by no other line. -/
theorem turns_refine_runEval (mode : AngleMode) (earlier : List String) (line : String)
    (later : List String) :
    let now := modeAfter mode earlier
    ∃ t, (turns ⟨mode⟩ (earlier ++ line :: later))[earlier.length]? = some t ∧
      t.prompt = (if now = .degrees then "gcalc[deg]> " else "gcalc[rad]> ") ∧
      (IsExpression line →
        t.answer.lines = Text.lines (runEval (" ".intercalate [Text.trim line]) now).shown ∧
        t.evaluated = [(now, Text.trim line)]) ∧
      (¬ IsExpression line → t.evaluated = []) ∧
      (t.answer.ends = true ↔ Text.trim line ∈ [":q", ":quit", ":exit"]) := by
  intro now
  refine ⟨turn ⟨now⟩ line, getElem?_turns ⟨mode⟩ earlier line later, prompt_turn ⟨now⟩ line,
    fun h => ⟨?_, ?_⟩, fun h => ?_, ends_turn ⟨now⟩ line⟩
  · rw [String.intercalate_singleton]
    exact lines_turn h ⟨now⟩
  · rw [evaluated_turn, if_pos h]
  · rw [evaluated_turn, if_neg h]

/-- In degrees since the line before last, and whatever the last came to, `(2+3` between blanks is
evaluated and answered as it would be alone. -/
theorem turns_refine_runEval_third :
    let earlier := [" :deg", "1÷"]
    IsExpression " (2+3 " ∧
      ∃ t, (turns ⟨.radians⟩ (earlier ++ " (2+3 " :: [":quit"]))[2]? = some t ∧
        t.prompt = "gcalc[deg]> " ∧ t.answer.lines = Text.lines (runEval "(2+3" .degrees).shown ∧
        t.evaluated = [(.degrees, "(2+3")] ∧ ¬ t.answer.ends = true := by
  intro earlier
  have hline : IsExpression " (2+3 " := by decide +kernel
  have hmode : modeAfter .radians earlier = .degrees := by decide +kernel
  have htrim : Text.trim " (2+3 " = "(2+3" := by decide +kernel
  obtain ⟨t, hturn, hprompt, hanswer, -, hends⟩ :=
    turns_refine_runEval .radians earlier " (2+3 " [":quit"]
  obtain ⟨hlines, hevaluated⟩ := hanswer hline
  rw [hmode] at hprompt hlines hevaluated
  rw [htrim] at hlines hevaluated hends
  refine ⟨hline, t, hturn, hprompt, hlines, hevaluated, ?_⟩
  rw [hends]
  decide

end Dialogue

end Calculator.Command
