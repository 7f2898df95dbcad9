import Calculator.Proofs.Parser.Cursor

/-!
# The limit cuts short

Two runs from the same tokens for the same goal, at different depths. The limit stops the deeper one
first, and until it does the two go the same way: nothing else in a parser looks at the depth.

**Answers that stay** (`Run.shallower`). Whatever a run answers, other than that the tokens nest too
deep, the run from a smaller depth answers too.

**Answers cut short** (`Run.rest_suffix_of_isTooDeep`). Where the deeper run stops for the nesting,
the other has not stopped before. Each part of a run leaves at least what the whole run leaves, so
it is enough to compare the parts in which the deeper run stopped.

Main result: `parseExpression_restoreDepth`.
-/

namespace Calculator

namespace Parser

variable {goal : Goal} {tier : Tier} {missing : SyntaxError.Cause} {d d' : Nat}
  {ts us : List Token} {a a' b : Answer}

/-! ## What the parts of a run leave -/

theorem Run.unique (h : Run goal d ts a) (h' : Run goal d ts a') : a = a' :=
  h.answer_eq.symm.trans h'.answer_eq

/-- The tokens given for a goal; those given for a group begin with its parenthesis. -/
def Goal.given : Goal → List Token → List Token
  | .group _, ts => .openParen :: ts
  | _, ts => ts

/-- Tokens are taken from the front. -/
theorem Run.rest_suffix (h : Run goal d ts a) : a.rest <:+ goal.given ts := by
  have hreads := Cursor.reads_of_run h
  cases goal with
  | links tier left =>
    obtain ⟨k, hgives⟩ := hreads
    obtain ⟨taken, hts, -⟩ := hgives 0
    exact ⟨taken, hts.symm⟩
  | chain | factor | primary | group =>
    obtain ⟨taken, hts, -⟩ := hreads 0
    exact ⟨taken, hts.symm⟩

/-- A chain leaves no more than its first operand. -/
theorem Run.rest_suffix_first (h : Run (.chain tier) d ts a) (hb : Run (.operand tier) d ts b) :
    a.rest <:+ b.rest := by
  match b with
  | .error f =>
    obtain rfl := h.unique (.firstRefused hb)
    exact List.suffix_rfl
  | .ok (e, us) =>
    obtain ⟨c, hc⟩ := exists_run (.links tier e) d us
    rw [h.unique (.chain hb hc)]
    exact hc.rest_suffix

/-- Links leave no more than the first operand in them. -/
theorem Run.rest_suffix_linked {left : Expr} {op : Operator} (hop : op ∈ tier.operators)
    (hd : d < maxNesting) (h : Run (.links tier left) d (.operator op.symbol :: ts) a)
    (hb : Run (.operand tier) (d + 1) ts b) : a.rest <:+ b.rest := by
  match b with
  | .error f =>
    obtain rfl := h.unique (.linkRefused hop hd hb)
    exact List.suffix_rfl
  | .ok (right, us) =>
    obtain ⟨c, hc⟩ := exists_run (.links tier (.binary left op right)) (d + 1) us
    rw [h.unique (.link hop hd hb hc)]
    exact hc.rest_suffix

/-- A power leaves what its exponent leaves. -/
theorem Run.rest_eq_exponent {e : Expr} (hd : d < maxNesting) (h : Run .factor d ts a)
    (hbase : Run .primary d ts (.ok (e, .operator Operator.pow.symbol :: us)))
    (hb : Run .factor (d + 1) us b) : a.rest = b.rest := by
  match b with
  | .error f => rw [h.unique (.exponentRefused hbase hd hb)]
  | .ok (e, vs) =>
    rw [h.unique (.power hbase hd hb)]
    rfl

/-- A factor leaves no more than its base. -/
theorem Run.rest_suffix_base (h : Run .factor d ts a) (hb : Run .primary d ts b) :
    a.rest <:+ b.rest := by
  match b with
  | .error f =>
    obtain rfl := h.unique (.baseRefused hb)
    exact List.suffix_rfl
  | .ok (e, us) =>
    cases hat : operatorAt? [.pow] us with
    | none =>
      obtain rfl := h.unique (.base hb hat)
      exact List.suffix_rfl
    | some op =>
      obtain ⟨hop, vs, rfl⟩ := operatorAt?_eq_some.1 hat
      obtain rfl := List.mem_singleton.1 hop
      by_cases hd : d < maxNesting
      · obtain ⟨c, hc⟩ := exists_run .factor (d + 1) vs
        rw [h.rest_eq_exponent hd hb hc]
        exact hc.rest_suffix.trans (List.suffix_cons _ vs)
      · obtain rfl := h.unique (.powerTooDeep hb (Nat.not_lt.1 hd))
        exact List.suffix_rfl

/-- A call leaves what its argument leaves. -/
theorem Run.rest_eq_argument {f : Func}
    (h : Run .primary d (.function f.name :: .openParen :: ts) a)
    (hb : Run (.group .missingCloseAfterArgument) d ts b) : a.rest = b.rest := by
  match b with
  | .error r => rw [h.unique (.argumentRefused f hb)]
  | .ok (e, us) =>
    rw [h.unique (.call f hb)]
    rfl

/-- A group leaves no more than the expression in it. -/
theorem Run.rest_suffix_inner (hd : d < maxNesting) (h : Run (.group missing) d ts a)
    (hb : Run (.chain .sum) (d + 1) ts b) : a.rest <:+ b.rest := by
  match b with
  | .error f =>
    obtain rfl := h.unique (.innerRefused hd hb)
    exact List.suffix_rfl
  | .ok (e, us) =>
    by_cases hc : us.head? = some .closeParen
    · obtain ⟨vs, rfl⟩ := List.head?_eq_some_iff.1 hc
      obtain rfl := h.unique (.closed hd hb)
      exact List.suffix_cons _ vs
    · obtain rfl := h.unique (.unclosed hd hb hc)
      exact List.suffix_rfl

/-! ## Two depths -/

/-- **A run that the limit does not stop goes the same way from a smaller depth.** -/
theorem Run.shallower (h : Run goal d ts a) (ha : ¬ a.IsTooDeep) (hle : d' ≤ d) :
    Run goal d' ts a := by
  induction h generalizing d' with
  | linkTooDeep | powerTooDeep | groupTooDeep => exact absurd rfl ha
  | firstRefused _ ih => exact .firstRefused (ih ha hle)
  | chain _ _ ihf ihl => exact .chain (ihf id hle) (ihl ha hle)
  | linksEnd hend => exact .linksEnd hend
  | linkRefused hop hd _ ih =>
    exact .linkRefused hop (Nat.lt_of_le_of_lt hle hd) (ih ha (Nat.succ_le_succ hle))
  | link hop hd _ _ ihr ihl =>
    exact .link hop (Nat.lt_of_le_of_lt hle hd) (ihr id (Nat.succ_le_succ hle))
      (ihl ha (Nat.succ_le_succ hle))
  | baseRefused _ ih => exact .baseRefused (ih ha hle)
  | base _ hus ih => exact .base (ih id hle) hus
  | exponentRefused _ hd _ ihb ihe =>
    exact .exponentRefused (ihb id hle) (Nat.lt_of_le_of_lt hle hd) (ihe ha (Nat.succ_le_succ hle))
  | power _ hd _ ihb ihe =>
    exact .power (ihb id hle) (Nat.lt_of_le_of_lt hle hd) (ihe id (Nat.succ_le_succ hle))
  | ended => exact .ended
  | unexpected ht => exact .unexpected ht
  | number text => exact .number text
  | «variable» text => exact .variable text
  | bare f hbare => exact .bare f hbare
  | argumentRefused f _ ih => exact .argumentRefused f (ih ha hle)
  | call f _ ih => exact .call f (ih id hle)
  | group _ ih => exact .group (ih ha hle)
  | innerRefused hd _ ih =>
    exact .innerRefused (Nat.lt_of_le_of_lt hle hd) (ih ha (Nat.succ_le_succ hle))
  | unclosed hd _ hus ih =>
    exact .unclosed (Nat.lt_of_le_of_lt hle hd) (ih id (Nat.succ_le_succ hle)) hus
  | closed hd _ ih => exact .closed (Nat.lt_of_le_of_lt hle hd) (ih id (Nat.succ_le_succ hle))

/-- **Where the limit stops a run, one from a smaller depth has not stopped before.** -/
theorem Run.rest_suffix_of_isTooDeep (h : Run goal d ts a) (ha : a.IsTooDeep) (hle : d' ≤ d)
    (h' : Run goal d' ts a') : a'.rest <:+ a.rest := by
  induction h generalizing d' a' with
  -- These answers have other causes.
  | linksEnd | base | power | number | «variable» | call | closed => exact ha.elim
  | ended | unexpected | bare => cases ha
  -- The deeper run stops at the first token given, or right behind a part it shares with the other.
  | linkTooDeep | groupTooDeep => exact h'.rest_suffix
  | powerTooDeep hb _ _ =>
    have hsuffix := h'.rest_suffix_base (hb.shallower id hle)
    exact hsuffix
  -- The deeper run stops in a part that the other begins as well.
  | firstRefused _ ih =>
    obtain ⟨b, hb⟩ := exists_run _ d' _
    exact (h'.rest_suffix_first hb).trans (ih ha hle hb)
  | linkRefused hop hd _ ih =>
    obtain ⟨b, hb⟩ := exists_run _ (d' + 1) _
    exact (h'.rest_suffix_linked hop (Nat.lt_of_le_of_lt hle hd) hb).trans
      (ih ha (Nat.succ_le_succ hle) hb)
  | baseRefused _ ih =>
    obtain ⟨b, hb⟩ := exists_run _ d' _
    exact (h'.rest_suffix_base hb).trans (ih ha hle hb)
  | argumentRefused f _ ih =>
    obtain ⟨b, hb⟩ := exists_run _ d' _
    rw [h'.rest_eq_argument hb]
    exact ih ha hle hb
  | group _ ih =>
    obtain ⟨b, hb⟩ := exists_run _ d' _
    rw [h'.unique (.group hb)]
    exact ih ha hle hb
  | innerRefused hd _ ih =>
    obtain ⟨b, hb⟩ := exists_run _ (d' + 1) _
    exact (h'.rest_suffix_inner (Nat.lt_of_le_of_lt hle hd) hb).trans
      (ih ha (Nat.succ_le_succ hle) hb)
  -- It stops behind a part that ends the same way in both.
  | chain hf _ _ ihl =>
    obtain ⟨b, hb⟩ := exists_run _ d' _
    rw [h'.unique (.chain (hf.shallower id hle) hb)]
    exact ihl ha hle hb
  | link hop hd hr _ _ ihl =>
    obtain ⟨b, hb⟩ := exists_run _ (d' + 1) _
    rw [h'.unique (.link hop (Nat.lt_of_le_of_lt hle hd)
      (hr.shallower id (Nat.succ_le_succ hle)) hb)]
    exact ihl ha (Nat.succ_le_succ hle) hb
  | exponentRefused hb hd _ _ ihe =>
    obtain ⟨c, hc⟩ := exists_run _ (d' + 1) _
    rw [h'.rest_eq_exponent (Nat.lt_of_le_of_lt hle hd) (hb.shallower id hle) hc]
    exact ihe ha (Nat.succ_le_succ hle) hc
  | unclosed hd hi hus _ =>
    obtain rfl := h'.unique (.unclosed (Nat.lt_of_le_of_lt hle hd)
      (hi.shallower id (Nat.succ_le_succ hle)) hus)
    exact List.suffix_rfl

/-- A run stopped for the nesting is stopped for it from a greater depth as well, no later. -/
theorem Run.isTooDeep_of_le (h : Run goal d ts a) (h' : Run goal d' ts a') (hle : d' ≤ d)
    (ha' : a'.IsTooDeep) : a.IsTooDeep ∧ a'.rest <:+ a.rest := by
  by_cases ha : a.IsTooDeep
  · exact ⟨ha, h.rest_suffix_of_isTooDeep ha hle h'⟩
  · rw [h'.unique (h.shallower ha hle)] at ha'
    exact absurd ha' ha

end Parser

namespace Cursor

open Calculator.Parser

/-- A reading fails for the nesting where a run does. -/
theorem resultAt_eq_tooDeep_iff {position q : Nat} {a : Answer} :
    resultAt position a = .error ⟨.nestingTooDeep, q⟩ ↔ a.IsTooDeep ∧ position = q := by
  cases a with
  | ok p => simp [resultAt, Answer.IsTooDeep]
  | error f => simp [resultAt, Answer.IsTooDeep]

/-- **The nesting depth can only cut a reading short.** Started at two depths before the same
tokens, a reading that comes to anything but a refusal for the nesting at the greater depth comes to
the same at the smaller one, and stops at the same place. One that is refused for the nesting at the
smaller depth is so at the greater one, no later. -/
theorem parseExpression_restoreDepth (c : Cursor) {d d' : Nat} (hle : d' ≤ d) :
    let deep := (c.restoreDepth d).parseExpression
    let shallow := (c.restoreDepth d').parseExpression
    ((∀ q, deep.1 ≠ .error ⟨.nestingTooDeep, q⟩) →
      shallow.1 = deep.1 ∧ shallow.2 = deep.2.restoreDepth d') ∧
    ∀ q, shallow.1 = .error ⟨.nestingTooDeep, q⟩ →
      ∃ q' ≤ q, deep.1 = .error ⟨.nestingTooDeep, q'⟩ := by
  intro deep shallow
  obtain ⟨a, hrun, taken, hrest, hdeep⟩ := (c.restoreDepth d).exists_gives_parseExpression
  obtain ⟨a', hrun', taken', hrest', hshallow⟩ := (c.restoreDepth d').exists_gives_parseExpression
  constructor
  · intro hother
    have ha : ¬ a.IsTooDeep := fun ha =>
      hother _ ((congrArg Prod.fst hdeep).trans (resultAt_eq_tooDeep_iff.2 ⟨ha, rfl⟩))
    obtain rfl := (hrun.shallower ha hle).unique hrun'
    obtain rfl := List.append_cancel_right (hrest.symm.trans hrest')
    exact ⟨(congrArg Prod.fst hshallow).trans (congrArg Prod.fst hdeep).symm,
      (congrArg Prod.snd hshallow).trans
        (congrArg (fun o => o.2.restoreDepth d') hdeep).symm⟩
  · intro q hq
    obtain ⟨ha', rfl⟩ := resultAt_eq_tooDeep_iff.1 ((congrArg Prod.fst hshallow).symm.trans hq)
    obtain ⟨ha, hsuffix⟩ := hrun.isTooDeep_of_le hrun' hle ha'
    refine ⟨_, ?_, (congrArg Prod.fst hdeep).trans (resultAt_eq_tooDeep_iff.2 ⟨ha, rfl⟩)⟩
    have hlength := congrArg List.length (hrest.symm.trans hrest')
    have hle' := hsuffix.length_le
    simp only [List.length_append] at hlength
    exact Nat.add_le_add_left (by omega) _

/-- In `(1)` there is one level to go down, for which 255 leaves room as well as 0 does. In `((1))`
there are two, and 255 leaves room for the first of them only, 300 for none. -/
theorem parseExpression_restoreDepth_last_level :
    let single := start [.openParen, .number "1", .closeParen]
    let double := start [.openParen, .openParen, .number "1", .closeParen, .closeParen]
    0 ≤ 255 ∧ (single.restoreDepth 255).parseExpression.1 = .ok (.literal "1") ∧
      (single.restoreDepth 0).parseExpression.1 = .ok (.literal "1") ∧
    255 ≤ 300 ∧ (double.restoreDepth 255).parseExpression.1 = .error ⟨.nestingTooDeep, 1⟩ ∧
      ∃ q ≤ 1, (double.restoreDepth 300).parseExpression.1 = .error ⟨.nestingTooDeep, q⟩ := by
  intro single double
  have hone : Derives .primary [.number "1"] (.literal "1") 0 :=
    .literal (by intro k; cases k <;> decide)
  have hgroup := (Derives.group hone.base.toTerm.toExpression).base.toTerm.toExpression
  have hread : (single.restoreDepth 255).parseExpression.1 = .ok (.literal "1") :=
    parseExpression_eq_ok_iff.2 ⟨[], hgroup.reads (d := 255) (by decide) [] rfl⟩
  -- The inner parenthesis is at the limit.
  have hinner : Run (.chain .sum) 256 [.openParen, .number "1", .closeParen, .closeParen]
      (.error ⟨.nestingTooDeep, [.openParen, .number "1", .closeParen, .closeParen]⟩) :=
    .firstRefused (.firstRefused (.baseRefused (.group (.groupTooDeep (by decide)))))
  have hrefused : Run (.chain .sum) 255 double.rest
      (.error ⟨.nestingTooDeep, [.openParen, .number "1", .closeParen, .closeParen]⟩) :=
    .firstRefused (.firstRefused (.baseRefused (.group (.innerRefused (by decide) hinner))))
  have hdouble : (double.restoreDepth 255).parseExpression.1 = .error ⟨.nestingTooDeep, 1⟩ := by
    obtain ⟨taken, htaken, ho⟩ := gives_parseExpression (c := double.restoreDepth 255) hrefused
    obtain rfl : taken = [.openParen] := List.append_cancel_right htaken.symm
    rw [ho]
    rfl
  have hother : ∀ q, (single.restoreDepth 255).parseExpression.1 ≠ .error ⟨.nestingTooDeep, q⟩ := by
    intro q
    rw [hread]
    exact nofun
  have hkept := (parseExpression_restoreDepth single (Nat.zero_le 255)).1 hother
  exact ⟨by decide, hread, hkept.1.trans hread, by decide, hdouble,
    (parseExpression_restoreDepth double (by decide)).2 1 hdouble⟩

end Cursor

end Calculator
