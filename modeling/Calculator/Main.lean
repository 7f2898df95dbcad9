import Calculator.Command.Run

/-!
# The command-line tool

Reads the arguments, runs the request they make, and puts its events on the terminal. A dialogue
reads its lines as it goes.
-/

open Calculator Command

/-- What is printed for arguments that are not run. -/
def refusalText : Refusal → String
  | .help => "usage: gcalc [-v] [eval | sweep | ast | repl] [options] [expression]"
  | .version => "gcalc 0.1.0"
  | .missingWords => "error: an expression is required"
  | .unknownArgument => "error: unexpected argument"
  | .unknownCommand => "error: unrecognized subcommand"
  | .repeated => "error: an option cannot be used multiple times"
  | .unwantedValue => "error: unexpected value for an option"
  | .invalidValue => "error: invalid value for an option"
  | .missingValue => "error: a value is required for an option"

/-- Put one event on the terminal; there is no history to keep. -/
def perform : Event → IO Unit
  | .print text => IO.println text
  | .complain text => IO.eprintln text
  | .ask prompt => do
    IO.print prompt
    (← IO.getStdout).flush
  | .remember _ => pure ()
  | .warn text => IO.eprintln ("[WARN] " ++ text)

/-- Hold a dialogue until it ends or the input does. -/
partial def converse (d : Dialogue) : IO UInt32 := do
  perform (.ask d.prompt)
  let line ← (← IO.getStdin).getLine
  if line.isEmpty then
    return 0
  let (answer, next) := d.handleLine line
  for text in answer.lines do
    perform (.print text)
  if answer.ends then return 0 else converse next

/-- The tool. -/
def main (arguments : List String) : IO UInt32 := do
  match read arguments with
  | .error refusal =>
    if refusal = .help || refusal = .version then
      IO.println (refusalText refusal)
      return 0
    IO.eprintln (refusalText refusal)
    return 2
  | .ok (.repl mode) => converse ⟨mode⟩
  | .ok request =>
    let outcome := request.run []
    outcome.events.forM perform
    return outcome.exitCode.toUInt32
