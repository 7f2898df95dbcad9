import Calculator.Report
import Calculator.Text.Blank
import Calculator.Text.Lines

/-!
# The dialogue

One expression or command per line. Blanks around a line do not count, and an empty line does
nothing. Lines that begin with a colon are commands: for help, for the angle mode, and for the
end. Every other line is evaluated and answered with its value or with the failure, shown
against the line; nothing but the angle mode carries over to the next line.
-/

namespace Calculator.Command

/-- What a dialogue remembers between lines. -/
structure Dialogue where
  mode : AngleMode
  deriving DecidableEq, Repr

/-- The answer to a line: what to print, and whether the dialogue ends. -/
structure Answer where
  lines : List String
  ends : Bool
  deriving DecidableEq, Repr

namespace Dialogue

/-- What asks for the next line. -/
def prompt (d : Dialogue) : String :=
  match d.mode with
  | .radians => "gcalc[rad]> "
  | .degrees => "gcalc[deg]> "

/-- Lines to print while the dialogue goes on. -/
def say (lines : List String) : Answer := ⟨lines, false⟩

/-- Switch the angle mode. -/
def switchTo (mode : AngleMode) : Answer × Dialogue :=
  (say ["angle mode: " ++ mode.name], ⟨mode⟩)

/-- Carry out a command. -/
def obey (d : Dialogue) (command : String) : Answer × Dialogue :=
  match command with
  | ":help" => (say ["commands: :help, :quit, :deg, :rad",
      "enter an expression such as 2×(3+4) or sin(π÷6); X is 0"], d)
  | ":q" => (⟨[], true⟩, d)
  | ":quit" => (⟨[], true⟩, d)
  | ":exit" => (⟨[], true⟩, d)
  | ":deg" => switchTo .degrees
  | ":rad" => switchTo .radians
  | other => (say ["error: unknown command '" ++ other ++ "'"], d)

/-- The text that answers an expression. -/
def evaluation (mode : AngleMode) (source : String) : String :=
  match evaluateText source mode with
  | .ok x => formatResult x
  | .error failure => failure.render source

/-- Answer a line. -/
def handleLine (d : Dialogue) (line : String) : Answer × Dialogue :=
  let trimmed := Text.trim line
  match trimmed.toList with
  | [] => (say [], d)
  | ':' :: _ => d.obey trimmed
  | _ => (say (Text.lines (evaluation d.mode trimmed)), d)

end Dialogue

end Calculator.Command
