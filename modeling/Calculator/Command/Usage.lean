import Calculator.Session

/-!
# The command line

The arguments of the command-line tool and what they ask for. The tool has four **commands**,
`eval`, `sweep`, `ast` and `repl`; without a command it starts a dialogue. A command takes
**words**, which make up an expression, **switches**, which are given or not, and **settings**,
which have a value. The value of a setting follows it as the next argument or after `=`.

Arguments are read from left to right. A setting without `=` **awaits** its value; the value is
checked when the next argument is acted on, or at the end. Acting on an unknown option, or on a
switch that is given a value, comes before that check. After `--` all arguments are words.

A **refusal** says why arguments are not acceptable; asking for help or for the version counts
as one, since nothing is run.
-/

namespace Calculator.Command

/-- Why arguments are not run. -/
inductive Refusal
  | help
  | version
  /-- No expression. -/
  | missingWords
  /-- An option or a word that the command does not take. -/
  | unknownArgument
  | unknownCommand
  /-- A switch or a setting given twice. -/
  | repeated
  /-- A switch with a value. -/
  | unwantedValue
  /-- A value that the setting cannot have. -/
  | invalidValue
  /-- A setting without a value. -/
  | missingValue
  deriving DecidableEq, Repr

/-- What the arguments ask for. -/
inductive Request
  | eval (source : String) (mode : AngleMode)
  | sweep (source : String) (mode : AngleMode) (bounds : Float × Float × Float × Float)
      (width samples : UInt64)
  | ast (source : String) (asJson : Bool)
  | repl (mode : AngleMode)

/-! ## What commands take -/

/-- A command. -/
inductive Verb
  | eval
  | sweep
  | ast
  | repl
  deriving DecidableEq, Repr

/-- An option without a value. -/
inductive Switch
  | degrees
  | json
  deriving DecidableEq, Repr

/-- An option with a value. -/
inductive Setting
  | minX
  | maxX
  | minY
  | maxY
  | width
  | samples
  deriving DecidableEq, Repr

/-- An option of any command. -/
inductive Flag
  | help
  | version
  | verbose
  | switch (s : Switch)
  | setting (s : Setting)
  deriving DecidableEq, Repr

def Verb.ofName? : String → Option Verb
  | "eval" => some .eval
  | "sweep" => some .sweep
  | "ast" => some .ast
  | "repl" => some .repl
  | _ => none

/-- Whether the setting is a bound, which may be negative. -/
def Setting.isBound : Setting → Bool
  | .minX | .maxX | .minY | .maxY => true
  | .width | .samples => false

/-- The option that a long name means where no command has been given. -/
def topFlag? : String → Option Flag
  | "help" => some .help
  | "version" => some .version
  | "verbose" => some .verbose
  | _ => none

/-- The option that a letter means where no command has been given. -/
def topLetter? : Char → Option Flag
  | 'h' => some .help
  | 'V' => some .version
  | 'v' => some .verbose
  | _ => none

/-- The setting of a sweep that a long name means. -/
def settingNamed? : String → Option Setting
  | "min-x" => some .minX
  | "max-x" => some .maxX
  | "min-y" => some .minY
  | "max-y" => some .maxY
  | "width" => some .width
  | "samples" => some .samples
  | _ => none

/-- The option that a long name means after a command. -/
def Verb.flag? (verb : Verb) (name : String) : Option Flag :=
  match name with
  | "help" => some .help
  | "verbose" => some .verbose
  | "degrees" => if verb = .ast then none else some (.switch .degrees)
  | "json" => if verb = .ast then some (.switch .json) else none
  | name => if verb = .sweep then (settingNamed? name).map .setting else none

/-- The option that a letter means after a command. -/
def letter? : Char → Option Flag
  | 'h' => some .help
  | 'v' => some .verbose
  | _ => none

/-! ## The shape of an argument -/

/-- An argument by its first characters. -/
inductive Shape
  /-- `--` alone. -/
  | separator
  /-- `--name` or `--name=value`. -/
  | long (name : String) (value : Option String)
  /-- `-` and letters. -/
  | letters (cs : List Char)
  | word
  deriving DecidableEq, Repr

/-- The shape of an argument. -/
def shapeOf (argument : String) : Shape :=
  match argument.toList with
  | ['-', '-'] => .separator
  | '-' :: '-' :: cs =>
    let name := String.ofList (cs.takeWhile (· ≠ '='))
    match cs.dropWhile (· ≠ '=') with
    | _ :: value => .long name (some (.ofList value))
    | [] => .long name none
  | ['-'] => .word
  | '-' :: cs => .letters cs
  | _ => .word

/-- Digits with at most one point, not first, and at most one power of ten, neither first nor
without digits: what passes for a negative number after its sign. -/
def looksNumeric (first pointAllowed powerAllowed : Bool) : List Char → Bool
  | [] => true
  | '.' :: cs => pointAllowed && !first && looksNumeric false false powerAllowed cs
  | c :: cs =>
    if c = 'e' || c = 'E' then
      powerAllowed && !first && !cs.isEmpty && looksNumeric false false false cs
    else c.isDigit && looksNumeric false pointAllowed powerAllowed cs

/-! ## Reading the arguments of a command -/

/-- What has been read so far. -/
structure Draft where
  /-- Words in reverse. -/
  words : List String
  switches : List Switch
  bounds : List (Setting × Float)
  counts : List (Setting × UInt64)
  /-- A setting that still has to be checked, with its value once it has come. -/
  pending : Option (Setting × Option String)

namespace Draft

/-- Nothing read. -/
def empty : Draft := ⟨[], [], [], [], none⟩

/-- Whether the setting has its value. -/
def has (d : Draft) (s : Setting) : Bool :=
  d.bounds.any (·.1 = s) || d.counts.any (·.1 = s)

/-- Give a setting its value. -/
def store (d : Draft) (s : Setting) (value : String) : Except Refusal Draft :=
  if d.has s then .error .repeated
  else if s.isBound then
    match Decimal.float? value with
    | some x => .ok { d with bounds := (s, x) :: d.bounds }
    | none => .error .invalidValue
  else
    match Decimal.natural? value with
    | some n => .ok { d with counts := (s, n) :: d.counts }
    | none => .error .invalidValue

/-- Check the setting that is pending. -/
def settle (d : Draft) : Except Refusal Draft :=
  match d.pending with
  | none => .ok d
  | some (_, none) => .error .missingValue
  | some (s, some value) => { d with pending := none }.store s value

/-- Act on an option that has no value attached. -/
def act (d : Draft) : Flag → Except Refusal Draft
  | .help => do
    let _ ← d.settle
    .error .help
  | .version => do
    let _ ← d.settle
    .error .version
  | .verbose => d.settle
  | .switch s => do
    let d ← d.settle
    if s ∈ d.switches then .error .repeated else return { d with switches := s :: d.switches }
  | .setting s => do
    let d ← d.settle
    return { d with pending := some (s, none) }

/-- Act on an option with a value attached. -/
def actWith (d : Draft) (f : Flag) (value : String) : Except Refusal Draft :=
  match f with
  | .setting s => do
    let d ← d.settle
    d.store s value
  | _ => .error .unwantedValue

/-- Act on letters. -/
def actLetters (d : Draft) : List Char → Except Refusal Draft
  | [] => .ok d
  | c :: cs =>
    match letter? c with
    | none => .error .unknownArgument
    | some f => do
      let d ← d.act f
      d.actLetters cs

/-- Whether letters are the value that a bound awaits. -/
def awaitsNumber (d : Draft) (cs : List Char) : Bool :=
  match d.pending with
  | some (s, none) => s.isBound && looksNumeric true true true cs
  | _ => false

/-- Take a word of the expression. -/
def takeWord (d : Draft) (verb : Verb) (word : String) : Except Refusal Draft :=
  if verb = .repl then .error .unknownArgument
  else do
    let d ← d.settle
    return { d with words := word :: d.words }

/-- Take a word or the value that a setting awaits. -/
def takePlain (d : Draft) (verb : Verb) (argument : String) : Except Refusal Draft :=
  match d.pending with
  | some (s, none) => .ok { d with pending := some (s, some argument) }
  | _ => d.takeWord verb argument

/-- Read the arguments of a command; after the separator they are all words. -/
def read (verb : Verb) (wordsOnly : Bool) (d : Draft) : List String → Except Refusal Draft
  | [] => d.settle
  | argument :: rest =>
    if wordsOnly then do
      let d ← d.takeWord verb argument
      d.read verb true rest
    else
      match shapeOf argument with
      | .separator => d.read verb true rest
      | .long name value =>
        match verb.flag? name, value with
        | none, _ => .error .unknownArgument
        | some f, none => do
          let d ← d.act f
          d.read verb false rest
        | some f, some value => do
          let d ← d.actWith f value
          d.read verb false rest
      | .letters cs =>
        if d.awaitsNumber cs then do
          let d ← d.takePlain verb argument
          d.read verb false rest
        else do
          let d ← d.actLetters cs
          d.read verb false rest
      | .word => do
        let d ← d.takePlain verb argument
        d.read verb false rest

/-- The value of a bound, or its default. -/
def bound (d : Draft) (s : Setting) (default : Float) : Float :=
  (d.bounds.lookup s).getD default

/-- The value of a count, or its default. -/
def count (d : Draft) (s : Setting) (default : UInt64) : UInt64 :=
  (d.counts.lookup s).getD default

def mode (d : Draft) : AngleMode := .ofRadians (.degrees ∉ d.switches)

/-- The expression, its words joined by spaces; there must be one. -/
def source (d : Draft) : Except Refusal String :=
  if d.words.isEmpty then .error .missingWords
  else .ok (" ".intercalate d.words.reverse)

/-- The request that was read. -/
def request (d : Draft) : Verb → Except Refusal Request
  | .eval => do return .eval (← d.source) d.mode
  | .sweep => do
    let w := Window.standard
    return .sweep (← d.source) d.mode
      (d.bound .minX w.horizontal.min, d.bound .maxX w.horizontal.max,
        d.bound .minY w.vertical.min, d.bound .maxY w.vertical.max)
      (d.count .width Settings.standard.width)
      (d.count .samples Settings.standard.samplesPerPixel)
  | .ast => do return .ast (← d.source) (.json ∈ d.switches)
  | .repl => .ok (.repl d.mode)

end Draft

/-! ## Reading all arguments -/

/-- Act on letters where no command has been given. -/
def actTopLetters : List Char → Except Refusal Unit
  | [] => .ok ()
  | c :: cs =>
    match topLetter? c with
    | some .help => .error .help
    | some .version => .error .version
    | some _ => actTopLetters cs
    | none => .error .unknownArgument

/-- Act on a long option where no command has been given. -/
def actTopLong (name : String) (value : Option String) : Except Refusal Unit :=
  match topFlag? name, value with
  | none, _ => .error .unknownArgument
  | some _, some _ => .error .unwantedValue
  | some .help, none => .error .help
  | some .version, none => .error .version
  | some _, none => .ok ()

/-- What `help` with the names of commands comes to: only commands, and the help command itself,
have help, and none of them has commands of its own. -/
def helpOn : List String → Refusal
  | [] => .help
  | [name] => if name = "help" || (Verb.ofName? name).isSome then .help else .unknownCommand
  | _ => .unknownCommand

/-- What a word that should be a command comes to after the separator. -/
def refuseWord (word : String) : Refusal :=
  if word = "help" || (Verb.ofName? word).isSome then .unknownArgument else .unknownCommand

/-- What the arguments ask for. -/
def read : List String → Except Refusal Request
  | [] => .ok (.repl .radians)
  | argument :: rest =>
    match shapeOf argument with
    | .separator =>
      match rest with
      | [] => .ok (.repl .radians)
      | word :: _ => .error (refuseWord word)
    | .long name value => do
      actTopLong name value
      read rest
    | .letters cs => do
      actTopLetters cs
      read rest
    | .word =>
      if argument = "help" then .error (helpOn rest)
      else
        match Verb.ofName? argument with
        | none => .error .unknownCommand
        | some verb => do
          let d ← Draft.empty.read verb false rest
          d.request verb

/-! ## Verbosity -/

/-- How much the log tells. -/
inductive LogLevel
  | warn
  | info
  | debug
  | trace
  deriving DecidableEq, Repr

/-- The level for a number of `-v`. -/
def LogLevel.ofCount : Nat → LogLevel
  | 0 => .warn
  | 1 => .info
  | 2 => .debug
  | _ => .trace

end Calculator.Command
