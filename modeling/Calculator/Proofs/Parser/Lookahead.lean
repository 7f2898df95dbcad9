import Calculator.Proofs.Parser.Run

/-!
# Lookahead

A parser decides everything by the tokens it takes and the one it stops at. Whatever it answers, it
answers the same when the tokens after that one are exchanged (`Parser.Run.lookahead`).

The statement is about the head of what is left, not about a token: where nothing is left, the
parser has seen that nothing is. A refusal for the nesting is left out, since it is the one answer
that may lie at a token already taken.
-/

namespace Calculator

theorem operatorAt?_congr {accepted : List Operator} {ts us : List Token}
    (h : ts.head? = us.head?) : operatorAt? accepted ts = operatorAt? accepted us := by
  cases ts <;> cases us <;> simp_all [operatorAt?]

namespace Parser

namespace Answer

/-- The tokens that an answer leaves. -/
def rest : Answer → List Token
  | .ok (_, us) => us
  | .error f => f.rest

/-- The same answer, leaving other tokens. -/
def before (us : List Token) : Answer → Answer
  | .ok (e, _) => .ok (e, us)
  | .error f => .error ⟨f.cause, us⟩

/-- A refusal for the nesting. -/
def IsTooDeep : Answer → Prop
  | .ok _ => False
  | .error f => f.cause = .nestingTooDeep

end Answer

variable {goal : Goal} {d : Nat} {ts : List Token} {a : Answer}

theorem head?_append_congr {ts us : List Token} (before : List Token) (h : us.head? = ts.head?) :
    (before ++ us).head? = (before ++ ts).head? := by
  rw [List.head?_append, List.head?_append, h]

/-- **What a parser answers depends on the tokens up to the one it stops at only.** -/
theorem Run.lookahead (h : Run goal d ts a) (ha : ¬ a.IsTooDeep) :
    ∃ taken, ts = taken ++ a.rest ∧
      ∀ us, us.head? = a.rest.head? → Run goal d (taken ++ us) (a.before us) := by
  induction h with
  | firstRefused _ ih =>
    obtain ⟨taken, hts, hrun⟩ := ih ha
    exact ⟨taken, hts, fun us hus => .firstRefused (hrun us hus)⟩
  | chain _ _ ihf ihl =>
    obtain ⟨first, rfl, hfirst⟩ := ihf id
    obtain ⟨more, rfl, hmore⟩ := ihl ha
    refine ⟨first ++ more, (List.append_assoc ..).symm, fun us hus => ?_⟩
    rw [List.append_assoc]
    exact .chain (hfirst _ (head?_append_congr more hus)) (hmore us hus)
  | linksEnd hend =>
    exact ⟨[], rfl, fun us hus => .linksEnd ((operatorAt?_congr hus).trans hend)⟩
  | linkTooDeep | powerTooDeep | groupTooDeep => exact absurd rfl ha
  | linkRefused hop hd _ ih =>
    obtain ⟨taken, rfl, hrun⟩ := ih ha
    exact ⟨_ :: taken, rfl, fun us hus => .linkRefused hop hd (hrun us hus)⟩
  | link hop hd _ _ ihr ihl =>
    obtain ⟨right, rfl, hright⟩ := ihr id
    obtain ⟨more, rfl, hmore⟩ := ihl ha
    refine ⟨_ :: (right ++ more), by rw [List.cons_append, List.append_assoc]; rfl,
      fun us hus => ?_⟩
    rw [List.cons_append, List.append_assoc]
    exact .link hop hd (hright _ (head?_append_congr more hus)) (hmore us hus)
  | baseRefused _ ih =>
    obtain ⟨taken, hts, hrun⟩ := ih ha
    exact ⟨taken, hts, fun us hus => .baseRefused (hrun us hus)⟩
  | base _ hend ih =>
    obtain ⟨taken, hts, hrun⟩ := ih id
    exact ⟨taken, hts, fun us hus => .base (hrun us hus) ((operatorAt?_congr hus).trans hend)⟩
  | exponentRefused _ hd _ ihb ihe =>
    obtain ⟨base, rfl, hbase⟩ := ihb id
    obtain ⟨taken, rfl, hrun⟩ := ihe ha
    refine ⟨base ++ _ :: taken, by rw [List.append_assoc, List.cons_append]; rfl,
      fun us hus => ?_⟩
    rw [List.append_assoc, List.cons_append]
    exact .exponentRefused (hbase _ rfl) hd (hrun us hus)
  | power _ hd _ ihb ihe =>
    obtain ⟨base, rfl, hbase⟩ := ihb id
    obtain ⟨taken, rfl, hrun⟩ := ihe id
    refine ⟨base ++ _ :: taken, by rw [List.append_assoc, List.cons_append]; rfl,
      fun us hus => ?_⟩
    rw [List.append_assoc, List.cons_append]
    exact .power (hbase _ rfl) hd (hrun us hus)
  | ended =>
    refine ⟨[], rfl, fun us hus => ?_⟩
    obtain rfl := List.head?_eq_none_iff.1 hus
    exact .ended
  | unexpected ht =>
    refine ⟨[], rfl, fun us hus => ?_⟩
    obtain ⟨us, rfl⟩ := List.head?_eq_some_iff.1 hus
    exact .unexpected ht
  | number text => exact ⟨[_], rfl, fun us _ => .number text⟩
  | «variable» text => exact ⟨[_], rfl, fun us _ => .variable text⟩
  | bare f hbare =>
    exact ⟨[_], rfl, fun us hus => .bare f fun hopen => hbare (hus.symm.trans hopen)⟩
  | argumentRefused f _ ih =>
    obtain ⟨taken, rfl, hrun⟩ := ih ha
    exact ⟨_ :: _ :: taken, rfl, fun us hus => .argumentRefused f (hrun us hus)⟩
  | call f _ ih =>
    obtain ⟨taken, rfl, hrun⟩ := ih id
    exact ⟨_ :: _ :: taken, rfl, fun us hus => .call f (hrun us hus)⟩
  | group _ ih =>
    obtain ⟨taken, rfl, hrun⟩ := ih ha
    exact ⟨_ :: taken, rfl, fun us hus => .group (hrun us hus)⟩
  | innerRefused hd _ ih =>
    obtain ⟨taken, hts, hrun⟩ := ih ha
    exact ⟨taken, hts, fun us hus => .innerRefused hd (hrun us hus)⟩
  | unclosed hd _ hopen ih =>
    obtain ⟨taken, hts, hrun⟩ := ih id
    exact ⟨taken, hts, fun us hus =>
      .unclosed hd (hrun us hus) fun hclose => hopen (hus.symm.trans hclose)⟩
  | closed hd _ ih =>
    obtain ⟨taken, rfl, hrun⟩ := ih id
    refine ⟨taken ++ [.closeParen], by simp [Answer.rest], fun us _ => ?_⟩
    rw [List.append_assoc]
    exact .closed hd (hrun _ rfl)

end Parser

end Calculator
