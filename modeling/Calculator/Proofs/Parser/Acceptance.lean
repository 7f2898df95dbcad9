import Calculator.Proofs.Grammar
import Calculator.Proofs.Parser.Run

/-!
# What the parser accepts

The parser accepts exactly what the grammar derives, as far as the nesting limit reaches, and the
limit is the charge of the derivation: at depth `d` there are `maxNesting - d` levels left.

* `Parser.Run.sound` — what a parser takes from the tokens is derived, within the levels left.
* `Derives.reads` — what is derived within the levels left is read, before any tokens that do not
  continue it.
* `Derives.run_tooDeep` — what is derived at a greater charge is refused for its nesting, whatever
  comes after it.

The operators of a chain are counted twice over: by the rule `Derives.next`, which charges them to
the operands after them, and by the depth that the links go down. Both count from the same
operand, so the two agree on every chain.
-/

namespace Calculator

open Calculator.Parser

/-! ## Where a line ends -/

/-- The operators that bind more tightly than those of a tier. -/
def Tier.tighter : Tier → List Operator
  | .sum => [.mul, .div, .pow]
  | .product => [.pow]

/-- The operators that continue a line. -/
def Line.absorbed : Line → List Operator
  | .links tier _ | .chain tier => tier.operators ++ tier.tighter
  | .factor => [.pow]
  | .primary => []

theorem operatorAt?_eq_none_of_subset {small big : List Operator} (h : small ⊆ big)
    {ts : List Token} (hts : operatorAt? big ts = none) : operatorAt? small ts = none := by
  cases hs : operatorAt? small ts with
  | none => rfl
  | some op =>
    obtain ⟨hop, us, rfl⟩ := operatorAt?_eq_some.1 hs
    rw [operatorAt?_cons_operator (h hop)] at hts
    cases hts

/-- An operator of a tier binds no more tightly than the tier. -/
theorem operatorAt?_tighter_cons {tier : Tier} {op : Operator} (h : tier.Joins op)
    (ts : List Token) : operatorAt? tier.tighter (.operator op.symbol :: ts) = none := by
  cases h <;> rfl

/-! ## Soundness -/

namespace Parser

/-- The tokens `ts`, taken for a goal at depth `d`, make `e` within the levels left. Links go on
with a chain whose first operand was read at some depth `top`. -/
def Goal.Takes : Goal → Nat → List Token → Expr → Prop
  | .chain tier, d, ts, e => ∃ c ≤ maxNesting - d, Derives (.chain tier) ts e c
  | .links tier left, d, ts, e => ∀ top n before c, d = top + n → c ≤ maxNesting - top →
      Derives (.links tier n) before left c →
      ∃ c' ≤ maxNesting - top, Derives (.chain tier) (before ++ ts) e c'
  | .factor, d, ts, e => ∃ c ≤ maxNesting - d, Derives .factor ts e c
  | .primary, d, ts, e => ∃ c ≤ maxNesting - d, Derives .primary ts e c
  | .group _, d, ts, e => ∃ inner, ts = inner ++ [.closeParen] ∧
      ∃ c, 1 + c ≤ maxNesting - d ∧ Derives .expression inner e c

theorem Goal.takes_operand {tier : Tier} {d : Nat} {ts : List Token} {e : Expr} :
    (Goal.operand tier).Takes d ts e ↔
      ∃ c ≤ maxNesting - d, Derives tier.operandLine ts e c := by
  cases tier <;> rfl

theorem Goal.takes_number (d : Nat) (text : String) :
    Goal.primary.Takes d [.number text] (numberExpr text) := by
  refine ⟨0, Nat.zero_le _, ?_⟩
  unfold numberExpr
  cases h : Constant.ofSymbol? text with
  | some k =>
    rw [Constant.ofSymbol?_eq_some.1 h]
    exact .constant k
  | none =>
    refine .literal fun k hk => ?_
    rw [Constant.ofSymbol?_eq_some.2 hk] at h
    cases h

/-- A link goes one level down, and charges its operand one level more than the link before. -/
theorem Goal.takes_link {tier : Tier} {left right : Expr} {op : Operator} {d : Nat}
    {ts us : List Token} {e : Expr} (hop : tier.Joins op) (hd : d < maxNesting)
    (hr : (Goal.operand tier).Takes (d + 1) ts right)
    (hl : (Goal.links tier (.binary left op right)).Takes (d + 1) us e) :
    (Goal.links tier left).Takes d (.operator op.symbol :: (ts ++ us)) e := by
  intro top n before c htop hc hbefore
  obtain ⟨c', hc', hts⟩ := takes_operand.1 hr
  have h := hl top (n + 1) (before ++ .operator op.symbol :: ts) (max c (n + 1 + c'))
    (by omega) (by omega) (.next hbefore hop hts)
  rwa [List.append_assoc, List.cons_append] at h

/-- **What a parser takes from the tokens is derived, within the levels left.** -/
theorem Run.sound {goal : Goal} {d : Nat} {ts us : List Token} {e : Expr}
    (h : Run goal d ts (.ok (e, us))) : ∃ taken, ts = taken ++ us ∧ goal.Takes d taken e := by
  generalize ha : Except.ok (e, us) = a at h
  induction h generalizing e us with
  | firstRefused | linkTooDeep | linkRefused | baseRefused | powerTooDeep | exponentRefused
  | ended | unexpected | bare | argumentRefused | groupTooDeep | innerRefused | unclosed =>
    cases ha
  | chain _ _ ihf ihl =>
    obtain ⟨first, rfl, hfirst⟩ := ihf rfl
    obtain ⟨more, rfl, hmore⟩ := ihl ha
    obtain ⟨c, hc, hfirst⟩ := Goal.takes_operand.1 hfirst
    obtain ⟨c', hc', h⟩ := hmore _ 0 first c rfl hc (.first hfirst)
    exact ⟨first ++ more, (List.append_assoc ..).symm, c', hc', h⟩
  | linksEnd _ =>
    cases ha
    refine ⟨[], rfl, fun top n before c _ hc h => ⟨c, hc, ?_⟩⟩
    rw [List.append_nil]
    exact .chain h
  | link hop hd _ _ ihr ihl =>
    obtain ⟨ts, rfl, hts⟩ := ihr rfl
    obtain ⟨vs, rfl, hvs⟩ := ihl ha
    exact ⟨_ :: (ts ++ vs), by rw [List.cons_append, List.append_assoc],
      Goal.takes_link (Tier.joins_iff.2 hop) hd hts hvs⟩
  | base _ _ ih =>
    cases ha
    obtain ⟨ts, rfl, c, hc, h⟩ := ih rfl
    exact ⟨ts, rfl, c, hc, .base h⟩
  | power _ hd _ ihb ihe =>
    cases ha
    obtain ⟨ts, rfl, c, hc, hb⟩ := ihb rfl
    obtain ⟨us, rfl, c', hc', he⟩ := ihe rfl
    exact ⟨ts ++ _ :: us, by rw [List.append_assoc, List.cons_append], max c (1 + c'),
      by omega, .power hb he⟩
  | number text =>
    cases ha
    exact ⟨[_], rfl, Goal.takes_number _ text⟩
  | «variable» text =>
    cases ha
    exact ⟨[_], rfl, 0, Nat.zero_le _, .variable text⟩
  | call f _ ih =>
    cases ha
    obtain ⟨_, rfl, inner, rfl, c, hc, h⟩ := ih rfl
    exact ⟨_ :: _ :: (inner ++ [_]), rfl, 1 + c, hc, .call f h⟩
  | group _ ih =>
    obtain ⟨_, rfl, inner, rfl, c, hc, h⟩ := ih ha
    exact ⟨_ :: (inner ++ [_]), rfl, 1 + c, hc, .group h⟩
  | closed hd _ ih =>
    cases ha
    obtain ⟨inner, rfl, c, hc, h⟩ := ih rfl
    exact ⟨inner ++ [.closeParen], by simp, inner, rfl, c, by omega, h⟩

end Parser

/-! ## Completeness -/

/-- At depth `d`, the tokens `ts` are read as `e` before any tokens that do not continue the line.
Links are read as a part of their chain, which then answers what the links after them do. -/
def Line.Reads : Line → Nat → List Token → Expr → Prop
  | .links tier n, d, ts, e => ∀ rest a, operatorAt? tier.tighter rest = none →
      Run (.links tier e) (d + n) rest a → Run (.chain tier) d (ts ++ rest) a
  | .chain tier, d, ts, e => ∀ rest, operatorAt? (Line.chain tier).absorbed rest = none →
      Run (.chain tier) d (ts ++ rest) (.ok (e, rest))
  | .factor, d, ts, e => ∀ rest, operatorAt? [.pow] rest = none →
      Run .factor d (ts ++ rest) (.ok (e, rest))
  | .primary, d, ts, e => ∀ rest, Run .primary d (ts ++ rest) (.ok (e, rest))

theorem Line.reads_operand {tier : Tier} {d : Nat} {ts : List Token} {e : Expr} :
    tier.operandLine.Reads d ts e ↔ ∀ rest, operatorAt? tier.tighter rest = none →
      Run (.operand tier) d (ts ++ rest) (.ok (e, rest)) := by
  cases tier <;> rfl

/-- A whole expression is read up to a closing parenthesis. -/
theorem Line.Reads.closed {d : Nat} {ts : List Token} {e : Expr} (h : Line.expression.Reads d ts e)
    (rest : List Token) :
    Run (.chain .sum) d (ts ++ .closeParen :: rest) (.ok (e, .closeParen :: rest)) :=
  h _ rfl

namespace Derives

variable {line : Line} {ts : List Token} {e : Expr} {c : Nat}

/-- **What is derived within the levels left is read**, before any tokens that do not continue
it. -/
theorem reads (h : Derives line ts e c) {d : Nat} (hc : c ≤ maxNesting - d) :
    line.Reads d ts e := by
  induction h generalizing d with
  | constant k =>
    intro rest
    have hk : numberExpr k.symbol = .constant k := by rw [numberExpr, Constant.ofSymbol?_symbol]
    exact hk ▸ .number k.symbol
  | @literal text htext =>
    intro rest
    have hn : Constant.ofSymbol? text = none := by
      cases hk : Constant.ofSymbol? text with
      | none => rfl
      | some k => exact absurd (Constant.ofSymbol?_eq_some.1 hk) (htext k)
    have hl : numberExpr text = .literal text := by rw [numberExpr, hn]
    exact hl ▸ .number text
  | «variable» text =>
    intro rest
    exact .variable text
  | call f _ ih =>
    intro rest
    have hinner := (ih (d := d + 1) (by omega)).closed rest
    rw [List.cons_append, List.cons_append, List.append_assoc]
    exact .call f (.closed (by omega) hinner)
  | group _ ih =>
    intro rest
    have hinner := (ih (d := d + 1) (by omega)).closed rest
    rw [List.cons_append, List.append_assoc]
    exact .group (.closed (by omega) hinner)
  | base _ ih =>
    intro rest hrest
    exact .base (ih hc rest) hrest
  | power _ _ ihb ihe =>
    intro rest hrest
    rw [List.append_assoc, List.cons_append]
    exact .power (ihb (by omega) _) (by omega) (ihe (by omega) rest hrest)
  | first _ ih =>
    intro rest a hrest ha
    exact .chain (Line.reads_operand.1 (ih hc) rest hrest) ha
  | @next _ n _ _ _ _ _ _ _ _ hop _ ihl ihr =>
    intro rest a hrest ha
    have hright := Line.reads_operand.1 (ihr (d := d + n + 1) (by omega)) rest hrest
    rw [List.append_assoc, List.cons_append]
    exact ihl (by omega) _ a (operatorAt?_tighter_cons hop _)
      (.link (Tier.joins_iff.1 hop) (by omega) hright ha)
  | chain _ ih =>
    intro rest hrest
    have htighter := operatorAt?_eq_none_of_subset (List.subset_append_right _ _) hrest
    have hend := operatorAt?_eq_none_of_subset (List.subset_append_left _ _) hrest
    exact ih hc rest _ htighter (.linksEnd hend)

end Derives

/-- The goal that a line is read for. -/
def Line.goal : Line → Goal
  | .links tier _ | .chain tier => .chain tier
  | .factor => .factor
  | .primary => .primary

theorem Line.goal_operandLine (tier : Tier) : tier.operandLine.goal = .operand tier := by
  cases tier <;> rfl

namespace Derives

variable {line : Line} {ts : List Token} {e : Expr} {c : Nat}

/-- **What is derived at a greater charge is refused for its nesting**, whatever comes after it. -/
theorem run_tooDeep (h : Derives line ts e c) {d : Nat} (hc : maxNesting - d < c)
    (rest : List Token) :
    ∃ stopped, Run line.goal d (ts ++ rest) (.error ⟨.nestingTooDeep, stopped⟩) := by
  induction h generalizing d rest with
  | constant | literal | «variable» => exact absurd hc (Nat.not_lt_zero _)
  | call f _ ih =>
    rw [List.cons_append, List.cons_append, List.append_assoc]
    by_cases hd : d < maxNesting
    · obtain ⟨stopped, hinner⟩ := ih (d := d + 1) (by omega) (.closeParen :: rest)
      exact ⟨stopped, .argumentRefused f (.innerRefused hd hinner)⟩
    · exact ⟨_, .argumentRefused f (.groupTooDeep (Nat.not_lt.1 hd))⟩
  | group _ ih =>
    rw [List.cons_append, List.append_assoc]
    by_cases hd : d < maxNesting
    · obtain ⟨stopped, hinner⟩ := ih (d := d + 1) (by omega) (.closeParen :: rest)
      exact ⟨stopped, .group (.innerRefused hd hinner)⟩
    · exact ⟨_, .group (.groupTooDeep (Nat.not_lt.1 hd))⟩
  | base _ ih =>
    obtain ⟨stopped, hbase⟩ := ih hc rest
    exact ⟨stopped, .baseRefused hbase⟩
  | @power _ us _ _ cb _ hb _ ihb ihe =>
    rw [List.append_assoc, List.cons_append]
    by_cases hcb : maxNesting - d < cb
    · obtain ⟨stopped, hbase⟩ := ihb hcb _
      exact ⟨stopped, .baseRefused hbase⟩
    · have hbase := hb.reads (Nat.not_lt.1 hcb) (.operator Operator.pow.symbol :: (us ++ rest))
      by_cases hd : d < maxNesting
      · obtain ⟨stopped, hexp⟩ := ihe (d := d + 1) (by omega) rest
        exact ⟨stopped, .exponentRefused hbase hd hexp⟩
      · exact ⟨_, .powerTooDeep hbase (Nat.not_lt.1 hd)⟩
  | @first tier _ _ _ _ ih =>
    rw [Line.goal_operandLine] at ih
    obtain ⟨stopped, hfirst⟩ := ih hc rest
    exact ⟨stopped, .firstRefused hfirst⟩
  | @next tier n _ us _ _ _ cl _ hl hop _ ihl ihr =>
    rw [Line.goal_operandLine] at ihr
    rw [List.append_assoc, List.cons_append]
    by_cases hcl : maxNesting - d < cl
    · exact ihl hcl _
    · -- The links before are read, so the chain answers what the links from here on do.
      have hbefore := hl.reads (Nat.not_lt.1 hcl)
      have htighter := operatorAt?_tighter_cons hop (us ++ rest)
      have hmem := Tier.joins_iff.1 hop
      by_cases hd : d + n < maxNesting
      · obtain ⟨stopped, hright⟩ := ihr (d := d + n + 1) (by omega) rest
        exact ⟨stopped, hbefore _ _ htighter (.linkRefused hmem hd hright)⟩
      · exact ⟨_, hbefore _ _ htighter (.linkTooDeep hmem (Nat.not_lt.1 hd))⟩
  | chain _ ih => exact ih hc rest

end Derives

/-! ## The parser -/

theorem parse_eq_ok_iff {ts : List Token} {e : Expr} :
    parse ts = .ok e ↔ Run (.chain .sum) 0 ts (.ok (e, [])) := by
  have hexp : Parser.expression 0 ts = (Goal.chain .sum).answer 0 ts := rfl
  rw [run_iff, parse, hexp]
  cases (Goal.chain .sum).answer 0 ts with
  | error f => simp
  | ok p =>
    obtain ⟨e, us⟩ := p
    cases us <;> simp

theorem parse_of_run_error {ts : List Token} {f : Refusal} (h : Run (.chain .sum) 0 ts (.error f)) :
    parse ts = .error (f.toSyntaxError ts.length) := by
  have h' : Parser.expression 0 ts = .error f := h.answer_eq
  rw [parse, h']

theorem exists_derives_of_parse {ts : List Token} {e : Expr} (h : parse ts = .ok e) :
    ∃ c ≤ maxNesting, Derives .expression ts e c := by
  obtain ⟨taken, hts, c, hc, h⟩ := (parse_eq_ok_iff.1 h).sound
  rw [List.append_nil] at hts
  exact ⟨c, hc, hts ▸ h⟩

namespace Derives

variable {ts : List Token} {e : Expr} {c : Nat}

theorem parse_eq_ok (h : Derives .expression ts e c) (hc : c ≤ maxNesting) : parse ts = .ok e := by
  have hrun := h.reads (d := 0) hc [] rfl
  rw [List.append_nil] at hrun
  exact parse_eq_ok_iff.2 hrun

theorem parse_eq_tooDeep (h : Derives .expression ts e c) (hc : maxNesting < c) :
    ∃ position, parse ts = .error ⟨.nestingTooDeep, position⟩ := by
  obtain ⟨stopped, hrun⟩ := h.run_tooDeep (d := 0) hc []
  rw [List.append_nil] at hrun
  exact ⟨_, parse_of_run_error hrun⟩

end Derives

/-- **The parser accepts exactly what the grammar derives within the nesting limit**, and what the
grammar derives only past the limit it refuses for its nesting. -/
theorem parse_eq_ok_iff_derives (ts : List Token) (e : Expr) :
    (parse ts = .ok e ↔ ∃ c ≤ maxNesting, Derives .expression ts e c) ∧
      ∀ c, maxNesting < c → Derives .expression ts e c →
        ∃ position, parse ts = .error ⟨.nestingTooDeep, position⟩ := by
  refine ⟨⟨exists_derives_of_parse, ?_⟩, fun c hc h => h.parse_eq_tooDeep hc⟩
  rintro ⟨c, hc, h⟩
  exact h.parse_eq_ok hc

/-- So many pairs of parentheses around the variable. -/
def groups : Nat → List Token
  | 0 => [.freeVariable]
  | n + 1 => .openParen :: (groups n ++ [.closeParen])

theorem derives_groups (n : Nat) : Derives .factor (groups n) .variable n := by
  have h : Derives .primary (groups n) .variable n := by
    induction n with
    | zero => exact .variable "X"
    | succ n ih =>
      rw [groups, Nat.add_comm]
      exact .group (Derives.base ih).toTerm.toExpression
  exact .base h

/-- Operators of both tiers, and so many pairs of parentheses around the last operand. -/
def joinedGroups (n : Nat) : List Token :=
  [.freeVariable, .operator "+", .freeVariable, .operator "×", .freeVariable, .operator "-",
    .freeVariable, .operator "÷"] ++ groups n

/-- The last term is charged two levels and its second factor one more. -/
theorem derives_joinedGroups (n : Nat) : Derives .expression (joinedGroups n)
    (.binary (.binary .variable .add (.binary .variable .mul .variable)) .sub
      (.binary .variable .div .variable)) (n + 3) := by
  have hfirst : Derives .factor [.freeVariable] .variable 0 := derives_groups 0
  have hsecond : Derives (.chain .product) _ _ _ := .chain (.next (.first hfirst) .mul hfirst)
  have hthird : Derives (.chain .product) _ _ _ :=
    .chain (.next (.first hfirst) .div (derives_groups n))
  have h : Derives .expression _ _ _ :=
    .chain (.next (.next (.first hfirst.toTerm) .add hsecond) .sub hthird)
  have hcharge :
      max (max 0 (0 + 1 + max 0 (0 + 1 + 0))) (0 + 1 + 1 + max 0 (0 + 1 + n)) = n + 3 := by
    omega
  rwa [hcharge] at h

/-- At the limit parentheses are read, and one more pair is refused: alone, and in the last of the
operands that operators of both tiers join, where there is room for three pairs less. -/
theorem parse_groups_at_limit :
    (parse (groups maxNesting) = .ok .variable ∧
      ∃ position, parse (groups (maxNesting + 1)) = .error ⟨.nestingTooDeep, position⟩) ∧
    parse (joinedGroups (maxNesting - 3)) =
        .ok (.binary (.binary .variable .add (.binary .variable .mul .variable)) .sub
          (.binary .variable .div .variable)) ∧
      ∃ position, parse (joinedGroups (maxNesting - 2)) = .error ⟨.nestingTooDeep, position⟩ := by
  refine ⟨⟨?read, ?refused⟩, ?readJoined, ?refusedJoined⟩
  case read =>
    have h := (derives_groups maxNesting).toTerm.toExpression
    exact (parse_eq_ok_iff_derives _ _).1.2 ⟨maxNesting, Nat.le_refl _, h⟩
  case refused =>
    have h := (derives_groups (maxNesting + 1)).toTerm.toExpression
    exact (parse_eq_ok_iff_derives _ _).2 _ (Nat.lt_succ_self _) h
  case readJoined =>
    have h := derives_joinedGroups (maxNesting - 3)
    exact (parse_eq_ok_iff_derives _ _).1.2 ⟨maxNesting, Nat.le_refl _, h⟩
  case refusedJoined =>
    have h := derives_joinedGroups (maxNesting - 2)
    exact (parse_eq_ok_iff_derives _ _).2 _ (by decide) h

end Calculator
