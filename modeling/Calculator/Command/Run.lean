import Calculator.Command.Dialogue
import Calculator.Command.Usage
import Calculator.Expr.Document
import Calculator.Expr.Printer

/-!
# Running commands

What running a request does: the **events** on output and error output in order, and the exit
code. A dialogue takes its lines from a list of **arrivals**: what the terminal delivers instead
of a line is an interrupt, which asks for another line, or a fault, which ends it. So does the
end of the list.

Exit codes are 0 for success, 1 where there is no finite value, and 2 where the command itself
could not do its work.
-/

namespace Calculator.Command

/-- Something that running does to its surroundings. -/
inductive Event
  /-- Print a text. -/
  | print (text : String)
  /-- Print a text on error output. -/
  | complain (text : String)
  /-- Ask for a line. -/
  | ask (prompt : String)
  /-- Add a line to the history. -/
  | remember (line : String)
  /-- Log a warning. -/
  | warn (text : String)
  deriving DecidableEq, Repr

/-- All that running does, and its exit code. -/
structure Outcome where
  events : List Event
  exitCode : Nat
  deriving DecidableEq, Repr

/-- What a terminal delivers when asked for a line. -/
inductive Arrival
  | line (text : String)
  | interrupt
  /-- Reading failed. -/
  | fault (text : String)
  deriving DecidableEq, Repr

/-! ## Single runs -/

/-- Report a failure. -/
def fail (f : Failure) (source : String) : Outcome := ⟨[.complain (f.render source)], 1⟩

/-- Evaluate an expression once. -/
def runEval (source : String) (mode : AngleMode) : Outcome :=
  match evaluateText source mode with
  | .ok x => ⟨[.print (formatResult x)], if x.isFinite then 0 else 1⟩
  | .error failure => fail failure source

/-- A point of a graph as text. -/
def pointText (s : Sample) : String :=
  Decimal.Layout.coordinate.text s.x ++ " " ++ Decimal.Layout.coordinate.text s.y

/-- Print the points of a graph that show in its window. -/
def runSweep (source : String) (settings : Settings) : Outcome :=
  match sweepText source settings.angleMode settings.sweep with
  | .ok plot =>
    let points := plot.samples.filter (·.isPlottable settings.window)
    ⟨plot.warning?.toList.map .warn ++ points.map (.print ∘ pointText), 0⟩
  | .error failure => fail failure source

/-- Print the tree of an expression. -/
def runAst (source : String) (asJson : Bool) : Outcome :=
  match compile source with
  | .ok e => ⟨[.print (if asJson then e.toJson else e.display)], 0⟩
  | .error failure => fail failure source

/-! ## Dialogues -/

/-- The history entry for a line: what is left without blanks around it, if anything. -/
def historyOf (line : String) : List Event :=
  let trimmed := Text.trim line
  if trimmed.isEmpty then [] else [.remember trimmed]

/-- Carry on a dialogue with what the terminal delivers. -/
def runDialogue (d : Dialogue) : List Arrival → Outcome
  | [] => ⟨[.ask d.prompt], 0⟩
  | .interrupt :: rest =>
    let later := runDialogue d rest
    { later with events := .ask d.prompt :: later.events }
  | .fault text :: _ => ⟨[.ask d.prompt, .complain ("error: repl failed: " ++ text)], 2⟩
  | .line text :: rest =>
    let (answer, next) := d.handleLine text
    let now := .ask d.prompt :: historyOf text ++ answer.lines.map .print
    if answer.ends then ⟨now, 0⟩
    else
      let later := runDialogue next rest
      { later with events := now ++ later.events }

/-! ## Requests -/

/-- Run a request. -/
def Request.run (arrivals : List Arrival) : Request → Outcome
  | .eval source mode => runEval source mode
  | .ast source asJson => runAst source asJson
  | .repl mode => runDialogue ⟨mode⟩ arrivals
  | .sweep source mode (minX, maxX, minY, maxY) width samples =>
    match Window.make? minX maxX minY maxY with
    | .error e => ⟨[.complain ("error: " ++ e.message)], 2⟩
    | .ok window => runSweep source ⟨mode, window, width, samples⟩

end Calculator.Command
