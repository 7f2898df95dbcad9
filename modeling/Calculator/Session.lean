import Calculator.Compile
import Calculator.Keypad.Entry

/-!
# Calculator sessions

A **session** is the calculator as one uses it: an entry that keys build up, a display, settings,
and a mode. `=` submits the entry: in standard mode it is evaluated once, in graphing mode it is
sampled across the window. Whatever comes of it, the entry is empty afterwards.

Keys never change mode or settings, and changing these never touches entry or display.
-/

namespace Calculator

/-- The settings of a session. -/
structure Settings where
  angleMode : AngleMode
  window : Window
  /-- The width of the plotting surface in pixels. -/
  width : UInt64
  samplesPerPixel : UInt64

namespace Settings

/-- The settings of a new calculator. -/
def standard : Settings := ⟨.radians, .standard, 400, 5⟩

/-- The sweep that a graph with these settings takes. -/
def sweep (s : Settings) : Sweep := .forWidth s.window s.width s.samplesPerPixel

end Settings

/-- What `=` does. -/
inductive Mode
  /-- Evaluate once. -/
  | standard
  /-- Sample across the window. -/
  | graphing
  deriving DecidableEq, Repr

/-- What comes of a key press. -/
inductive Response
  /-- The entry was edited. -/
  | edited
  | value (x : Float)
  | plot (p : Plot)

/-- What a response logs. -/
def Response.warning? : Response → Option String
  | .plot p => p.warning?
  | _ => none

/-- The state of a calculator. -/
structure Session where
  entry : Entry
  settings : Settings
  mode : Mode
  display : String

namespace Session

/-- A calculator with nothing entered. -/
def start (settings : Settings) : Session := ⟨.empty, settings, .standard, ""⟩

def setMode (s : Session) (mode : Mode) : Session := { s with mode }

def setAngleMode (s : Session) (angleMode : AngleMode) : Session :=
  { s with settings := { s.settings with angleMode } }

def toggleAngleMode (s : Session) : Session := s.setAngleMode s.settings.angleMode.toggle

def setWindow (s : Session) (window : Window) : Session :=
  { s with settings := { s.settings with window } }

/-- What submitting tokens comes to. -/
def respond (settings : Settings) (mode : Mode) (ts : List Token) : Except Failure Response := do
  let e ← compileTokens ts
  match mode with
  | .standard => return .value (← (e.eval settings.angleMode).mapError .numeric)
  | .graphing => return .plot (settings.sweep.run settings.angleMode e)

/-- What the display shows after a submission. -/
def displayOf : Except Failure Response → String
  | .ok (.value x) => formatResult x
  | .ok _ => ""
  | .error _ => errorText

/-- Submit the entry. -/
def submit (s : Session) : Except Failure Response × Session :=
  let response := respond s.settings s.mode s.entry.tokens
  (response, { s with entry := .empty, display := displayOf response })

/-- Press a key. -/
def press (s : Session) (k : Key) : Except Failure Response × Session :=
  match s.entry.press k with
  | (.edited, entry) => (.ok .edited, { s with entry, display := entry.displayText })
  | (.submit, entry) => submit { s with entry }

/-- Press keys in turn, up to the first that fails; `last` is the response so far. -/
def pressFrom (last : Response) (s : Session) : List Key → Except Failure Response × Session
  | [] => (.ok last, s)
  | k :: ks =>
    match s.press k with
    | (.ok response, s') => pressFrom response s' ks
    | (.error failure, s') => (.error failure, s')

/-- What comes of each of some keys pressed in turn, up to the first that fails. -/
def responses (s : Session) : List Key → List (Except Failure Response)
  | [] => []
  | k :: ks =>
    match s.press k with
    | (.ok response, s') => .ok response :: responses s' ks
    | (.error failure, _) => [.error failure]

/-- Press keys in turn, up to the first that fails. -/
def pressAll (s : Session) (ks : List Key) : Except Failure Response × Session :=
  pressFrom .edited s ks

end Session

end Calculator
