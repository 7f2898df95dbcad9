import Calculator.Parser

/-!
# The cursor

A place in a sequence of tokens: how many tokens lie before it (`position`), the tokens from it
on (`rest`), and the nesting depth. Tokens are only ever taken from the front of `rest`, so the
position never passes the end and never moves back; the depth may be set to anything.

**Reading.** An expression is read by moving the cursor: past it on success, and to the offending
token on failure. The cursor goes one level deeper inside parentheses, in an exponent and with each
operator of a chain. Whoever sets out on such a way notes the depth and restores it at the end,
whether the way led to an expression or not.

A reading carries the proof that an expression took a token, which bounds the recursion as in the
parsers.
-/

namespace Calculator

/-- A place in a sequence of tokens. -/
structure Cursor where
  position : Nat
  rest : List Token
  depth : Nat
  deriving DecidableEq, Repr

namespace Cursor

/-- The cursor before all tokens. -/
def start (ts : List Token) : Cursor := ⟨0, ts, 0⟩

/-- The next token. -/
def peek (c : Cursor) : Option Token := c.rest.head?

/-- Take the next token, if there is one. -/
def next (c : Cursor) : Option Token × Cursor :=
  match c.rest with
  | [] => (none, c)
  | t :: rest => (some t, { c with position := c.position + 1, rest })

/-- Whether all tokens are taken. -/
def isEmpty (c : Cursor) : Bool := c.rest.isEmpty

/-- Whether the next token is the parenthesis written `p`. -/
def peekParen (c : Cursor) (p : Char) : Bool := isParenAt p c.rest

/-- The next token as an operator, if it is one of `accepted`. -/
def peekOperator (c : Cursor) (accepted : List Operator) : Option Operator :=
  operatorAt? accepted c.rest

/-- A syntax error at the cursor. -/
def error (c : Cursor) (cause : SyntaxError.Cause) : SyntaxError := ⟨cause, c.position⟩

/-- Go one level deeper; at the limit the depth stays. -/
def descend (c : Cursor) : Except SyntaxError Unit × Cursor :=
  match Parser.descend c.depth c.rest with
  | .ok depth => (.ok (), { c with depth })
  | .error refusal => (.error (c.error refusal.cause), c)

/-- Set the depth. -/
def restoreDepth (c : Cursor) (depth : Nat) : Cursor := { c with depth }

/-! ## Seeing a token -/

theorem rest_descend (c : Cursor) : c.descend.2.rest = c.rest := by
  unfold descend
  split <;> rfl

theorem length_rest_next {c : Cursor} (h : c.rest ≠ []) :
    c.next.2.rest.length < c.rest.length := by
  unfold next
  cases hc : c.rest with
  | nil => exact absurd hc h
  | cons t rest => exact Nat.lt_succ_self _

theorem rest_ne_nil_of_peek {c : Cursor} {t : Token} (h : c.peek = some t) : c.rest ≠ [] := by
  rintro hc
  rw [peek, hc] at h
  cases h

theorem rest_ne_nil_of_peekParen {c : Cursor} {p : Char} (h : c.peekParen p = true) :
    c.rest ≠ [] := by
  rintro hc
  rw [peekParen, hc] at h
  cases h

theorem rest_ne_nil_of_peekOperator {c : Cursor} {accepted : List Operator}
    (h : (c.peekOperator accepted).isSome = true) : c.rest ≠ [] := by
  rintro hc
  rw [peekOperator, hc] at h
  cases h

/-! ## Readings -/

/-- What reading leaves: an expression or an error, and the cursor, with fewer than `bound` tokens
after it if there is an expression. -/
structure Reading (bound : Nat) where
  result : Except SyntaxError Expr
  cursor : Cursor
  shorter : ∀ e, result = .ok e → cursor.rest.length < bound

namespace Reading

variable {m n : Nat}

/-- An expression that ends at the cursor. -/
def done (e : Expr) (c : Cursor) (h : c.rest.length < n) : Reading n := ⟨.ok e, c, fun _ _ => h⟩

/-- An error at the cursor. -/
def fail (c : Cursor) (cause : SyntaxError.Cause) : Reading n := ⟨.error (c.error cause), c, nofun⟩

/-- Read on after an expression; an error ends the reading. -/
def andThen (r : Reading m) (next : Expr → (c : Cursor) → c.rest.length < m → Reading n) :
    Reading n :=
  match r with
  | ⟨.ok e, c, h⟩ => next e c (h e rfl)
  | ⟨.error err, c, _⟩ => ⟨.error err, c, nofun⟩

/-- The same reading with another expression. -/
def map (f : Expr → Expr) (r : Reading n) : Reading n := r.andThen fun e c h => done (f e) c h

/-- The same reading under a larger bound. -/
def relax (r : Reading m) (h : m ≤ n) : Reading n :=
  ⟨r.result, r.cursor, fun e he => Nat.lt_of_lt_of_le (r.shorter e he) h⟩

/-- The same reading, with the depth set at its end. -/
def restoreDepth (r : Reading n) (depth : Nat) : Reading n :=
  ⟨r.result, r.cursor.restoreDepth depth, r.shorter⟩

/-- What was read, without the proof that it took a token. -/
def toProd (r : Reading n) : Except SyntaxError Expr × Cursor := (r.result, r.cursor)

end Reading

theorem length_rest_enter {c : Cursor} (h : c.rest ≠ []) :
    c.descend.2.next.2.rest.length < c.rest.length := by
  rw [← c.rest_descend] at h ⊢
  exact length_rest_next h

/-- Go one level deeper and take the next token, and read `inside` from there. -/
def enter {n : Nat} (c : Cursor) (h : c.rest ≠ [])
    (inside : (d : Cursor) → d.rest.length < c.rest.length → Reading n) : Reading n :=
  match c.descend.1 with
  | .error err => ⟨.error err, c.descend.2, nofun⟩
  | .ok () => inside c.descend.2.next.2 (length_rest_enter h)

/-- Enter past the next token, if it is one of the operators `accepted`, and read `inside` for that
operator from there. -/
def enterOperator {n : Nat} (c : Cursor) (accepted : List Operator) (otherwise : Reading n)
    (inside : Operator → (d : Cursor) → d.rest.length < c.rest.length → Reading n) : Reading n :=
  if h : (c.peekOperator accepted).isSome = true then
    c.enter (rest_ne_nil_of_peekOperator h) (inside ((c.peekOperator accepted).get h))
  else otherwise

/-! ## Reading an expression -/

mutual

/-- Read a chain of one tier. -/
def readChain (tier : Tier) (c : Cursor) : Reading c.rest.length :=
  let whole := (readOperand tier c).andThen fun first d h => (readLinks tier first d).relax h
  whole.restoreDepth c.depth
termination_by (c.rest.length, 2 * tier.height + 1, 0)
decreasing_by
  · exact Prod.Lex.right _ (Prod.Lex.left _ _ (by omega))
  · exact Prod.Lex.left _ _ h

/-- Read an operand of a chain. -/
def readOperand (tier : Tier) (c : Cursor) : Reading c.rest.length :=
  match tier with
  | .sum => readChain .product c
  | .product => readFactor c
termination_by (c.rest.length, 2 * tier.height, 0)
decreasing_by
  · exact Prod.Lex.right _ (Prod.Lex.left _ _ (by decide))
  · exact Prod.Lex.right _ (Prod.Lex.left _ _ (by decide))

/-- Read the operators of a tier and their operands after the chain `left`. -/
def readLinks (tier : Tier) (left : Expr) (c : Cursor) : Reading (c.rest.length + 1) :=
  c.enterOperator tier.operators (.done left c (Nat.lt_succ_self _)) fun op inner hi =>
    (readOperand tier inner).andThen fun right d hd =>
      (readLinks tier (.binary left op right) d).relax (by omega)
termination_by (c.rest.length, 0, 0)
decreasing_by
  · exact Prod.Lex.left _ _ hi
  · exact Prod.Lex.left _ _ (Nat.lt_trans hd hi)

/-- Read a primary, and the exponent it may carry. -/
def readFactor (c : Cursor) : Reading c.rest.length :=
  (readPrimary c).andThen fun base d hd =>
    d.enterOperator [.pow] (.done base d hd) fun op inner hi =>
      let exponent := (readFactor inner).restoreDepth d.depth
      (exponent.map (.binary base op ·)).relax (by omega)
termination_by (c.rest.length, 1, 0)
decreasing_by
  · exact Prod.Lex.right _ (Prod.Lex.left _ _ (by decide))
  · exact Prod.Lex.left _ _ (Nat.lt_trans hi hd)

/-- Read a number, the variable, a call or a group. -/
def readPrimary (c : Cursor) : Reading c.rest.length :=
  match h : c.peek with
  | none => .fail c .unexpectedEnd
  | some t =>
    have hlt := length_rest_next (rest_ne_nil_of_peek h)
    match t.kind with
    | .number => .done (Parser.numberExpr t.text) c.next.2 hlt
    | .variable => .done .variable c.next.2 hlt
    | .function =>
      match Func.ofName? t.text with
      | none => .fail c (.unexpectedToken t.text)
      | some f =>
        if hp : c.next.2.peekParen '(' = true then
          let argument :=
            readGroup .missingCloseAfterArgument c.next.2 (rest_ne_nil_of_peekParen hp)
          (argument.map (.call f ·)).relax (Nat.le_of_lt hlt)
        else .fail c.next.2 (.functionWithoutParens t.text)
    | .parenthesis =>
      if t.isParen '(' then readGroup .missingClose c (rest_ne_nil_of_peek h)
      else .fail c (.unexpectedToken t.text)
    | .operator => .fail c (.unexpectedToken t.text)
termination_by (c.rest.length, 0, 1)
decreasing_by
  · exact Prod.Lex.left _ _ hlt
  · exact Prod.Lex.right _ (Prod.Lex.right _ Nat.zero_lt_one)

/-- Read what stands between the opening parenthesis at the cursor and the one that closes it. -/
def readGroup (missing : SyntaxError.Cause) (c : Cursor) (h : c.rest ≠ []) :
    Reading c.rest.length :=
  c.enter h fun inner hi =>
    let closed := (readChain .sum inner).andThen fun e d hd =>
      if hp : d.peekParen ')' = true then
        .done e d.next.2 (by have := length_rest_next (rest_ne_nil_of_peekParen hp); omega)
      else .fail d missing
    closed.restoreDepth c.depth
termination_by (c.rest.length, 0, 0)
decreasing_by exact Prod.Lex.left _ _ hi

end

/-- Read one expression. -/
def parseExpression (c : Cursor) : Except SyntaxError Expr × Cursor := (c.readChain .sum).toProd

end Cursor

end Calculator
