import Calculator.Token

/-!
# Joining literals

Keypad and keyboard deliver one token per digit and per point. Before an expression is read,
every maximal run of literal tokens becomes one token with the run's texts side by side
(`joinLiterals`); reserved constants and all other tokens stay as they are. A run without any
text leaves no token.

Whether a joined text is a well-formed number is not decided here.

**Positions.** `rawIndex` maps the index of a joined token back to the index, in the sequence
before joining, of the token where its run starts.
-/

namespace Calculator.Token

/-- The token that a run of literals with the given text leaves. -/
def ofRun (run : String) : List Token := if run.isEmpty then [] else [number run]

/-- Join the literals of `ts`, the first of them to the pending text `run`. -/
def joinOnto (run : String) : List Token → List Token
  | [] => ofRun run
  | t :: ts =>
    if t.isLiteral then joinOnto (run ++ t.text) ts else ofRun run ++ t :: joinOnto "" ts

/-- Every maximal run of literals joined into one token. -/
def joinLiterals (ts : List Token) : List Token := joinOnto "" ts

/-- How many tokens the first token of the joined sequence stands for. -/
def groupSize : List Token → Nat
  | [] => 0
  | t :: ts => if t.isLiteral then (ts.takeWhile isLiteral).length + 1 else 1

/-- The index in `ts` where token `position` of the joined sequence starts; past the end it is
the length of `ts`. -/
def rawIndex (ts : List Token) : Nat → Nat
  | 0 => 0
  | position + 1 => groupSize ts + rawIndex (ts.drop (groupSize ts)) position

theorem groupSize_le_length (ts : List Token) : groupSize ts ≤ ts.length := by
  cases ts with
  | nil => simp [groupSize]
  | cons t ts =>
    have := (List.takeWhile_prefix isLiteral (l := ts)).length_le
    simp only [groupSize, List.length_cons]
    split <;> omega

theorem rawIndex_le_length (ts : List Token) (position : Nat) :
    rawIndex ts position ≤ ts.length := by
  induction position generalizing ts with
  | zero => simp [rawIndex]
  | succ position ih =>
    have h := ih (ts.drop (groupSize ts))
    have := groupSize_le_length ts
    simp only [rawIndex, List.length_drop] at *
    omega

end Calculator.Token
