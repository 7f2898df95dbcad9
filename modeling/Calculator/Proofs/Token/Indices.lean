import Calculator.Proofs.Session.Keyed
import Calculator.Proofs.Token.Grouping
import Mathlib.Data.Nat.SuccPred
import Mathlib.Order.Interval.Set.Monotone

/-!
# Indices before joining

`rawIndex` counts groups where `joinLiterals` merges them. The two agree as long as no token is
without text: a run whose texts are all empty is a group, but it leaves no joined token.

**Behind a joined token** are the tokens from its index up to the index of the next one
(`behind`). They are one group, so they leave this token alone, and they have its kind.

Main result: `rawIndex_inverts_joining`.
-/

namespace Calculator.Token

variable {ts : List Token} {position : Nat}

/-- The tokens that are joined into number `position`. -/
def behind (ts : List Token) (position : Nat) : List Token :=
  (ts.take (rawIndex ts (position + 1))).drop (rawIndex ts position)

/-! ## From one index to the next -/

theorem groupSize_pos (h : ts ≠ []) : 0 < groupSize ts := by
  cases ts with
  | nil => exact absurd rfl h
  | cons t ts =>
    rw [groupSize]
    split <;> exact Nat.succ_pos _

/-- The next index is one group further on. -/
theorem rawIndex_succ (ts : List Token) (position : Nat) :
    rawIndex ts (position + 1) =
      rawIndex ts position + groupSize (ts.drop (rawIndex ts position)) := by
  induction position generalizing ts with
  | zero => simp [rawIndex]
  | succ position ih =>
    have hnext := ih (ts.drop (groupSize ts))
    rw [List.drop_drop] at hnext
    rw [rawIndex, hnext, ← Nat.add_assoc]
    rfl

theorem behind_eq (ts : List Token) (position : Nat) :
    behind ts position = (ts.drop (rawIndex ts position)).take
      (groupSize (ts.drop (rawIndex ts position))) := by
  rw [behind, List.drop_take, rawIndex_succ, Nat.add_sub_cancel_left]

/-- Something is left at the index of a joined token. -/
theorem drop_rawIndex_ne_nil (hts : HaveText ts) (h : position < (joinLiterals ts).length) :
    ts.drop (rawIndex ts position) ≠ [] := by
  intro hnil
  have hdrop := joinLiterals_drop_rawIndex hts position
  rw [hnil, joinLiterals_nil] at hdrop
  have := List.drop_eq_nil_iff.1 hdrop.symm
  omega

theorem rawIndex_lt_succ (hts : HaveText ts) (h : position < (joinLiterals ts).length) :
    rawIndex ts position < rawIndex ts (position + 1) := by
  have := groupSize_pos (drop_rawIndex_ne_nil hts h)
  rw [rawIndex_succ]
  omega

/-- **The indices of joined tokens increase**, up to the one past the last. -/
theorem strictMonoOn_rawIndex (hts : HaveText ts) :
    StrictMonoOn (rawIndex ts) (Set.Iic (joinLiterals ts).length) :=
  strictMonoOn_Iic_of_lt_succ fun _ h => rawIndex_lt_succ hts h

/-- Past the last joined token there is nothing left. -/
theorem rawIndex_of_length_le (hts : HaveText ts) (h : (joinLiterals ts).length ≤ position) :
    rawIndex ts position = ts.length := by
  refine Nat.le_antisymm (rawIndex_le_length ts position) ?_
  have hdrop := joinLiterals_drop_rawIndex hts position
  rw [List.drop_of_length_le h, joinLiterals_eq_nil_iff (hts.drop _)] at hdrop
  exact List.drop_eq_nil_iff.1 hdrop

/-! ## The tokens behind one -/

/-- A group has the kind of the token that it leaves. -/
theorem kind_of_mem_group {x : Token} (h : joinLiterals (ts.take (groupSize ts)) = [x]) :
    ∀ t ∈ ts.take (groupSize ts), t.kind = x.kind := by
  cases ts with
  | nil => cases h
  | cons u us =>
    rcases group_cases (t := u) us with ⟨hu, hsize⟩ | ⟨run, rest, heq, hsize, -, hrun, -⟩
    · -- A token that is no literal leaves itself.
      rw [hsize] at h ⊢
      obtain ⟨rfl, -⟩ := List.cons.inj ((joinLiterals_cons_of_not_isLiteral hu []).symm.trans h)
      simp
    · -- Literals leave a number, as they are themselves.
      rw [hsize, heq, List.take_left] at h ⊢
      have hx : x ∈ ofRun (displayText run) := by
        rw [joinLiterals, joinOnto_of_forall_isLiteral hrun, String.empty_append] at h
        rw [h]
        exact List.mem_singleton_self x
      intro t ht
      rw [(mem_ofRun.1 hx).2]
      exact (isLiteral_iff.1 (hrun t ht)).1

/-- The tokens behind a joined token leave this token. -/
theorem joinLiterals_behind (hts : HaveText ts) {x : Token}
    (h : (joinLiterals ts)[position]? = some x) : joinLiterals (behind ts position) = [x] := by
  obtain ⟨hlt, rfl⟩ := List.getElem?_eq_some_iff.1 h
  obtain ⟨x, hgroup, -, hcons⟩ :=
    exists_joinLiterals_eq_cons (hts.drop _) (drop_rawIndex_ne_nil hts hlt)
  rw [joinLiterals_drop_rawIndex hts, List.drop_eq_getElem_cons hlt] at hcons
  rw [behind_eq, hgroup, (List.cons.inj hcons).1]

/-- **`rawIndex` is joining read backwards**, where no token is without text. The indices begin with
zero, increase up to the number of joined tokens, and are the number of all tokens from there on.
From the index of a joined token to the next stand the tokens it was joined from: they have its
kind, their texts make up its text, and they leave this token while those before and after them
leave the others. Typed and keyed tokens do have texts. -/
theorem rawIndex_inverts_joining :
    (∀ ts, HaveText ts →
      rawIndex ts 0 = 0 ∧
      StrictMonoOn (rawIndex ts) (Set.Iic (joinLiterals ts).length) ∧
      (∀ position, (joinLiterals ts).length ≤ position → rawIndex ts position = ts.length) ∧
      ∀ position x, (joinLiterals ts)[position]? = some x →
        displayText (behind ts position) = x.text ∧
        (∀ t ∈ behind ts position, t.kind = x.kind) ∧
        joinLiterals (behind ts position) = [x] ∧
        joinLiterals (ts.take (rawIndex ts position)) = (joinLiterals ts).take position ∧
        joinLiterals (ts.drop (rawIndex ts (position + 1))) =
          (joinLiterals ts).drop (position + 1)) ∧
    (∀ text ts, tokenize text = .ok ts → HaveText ts) ∧
    ∀ key : Key, HaveText key.tokens := by
  refine ⟨fun ts hts => ⟨rfl, strictMonoOn_rawIndex hts, fun position h =>
    rawIndex_of_length_le hts h, fun position x hx => ?_⟩, fun text ts h => ?_, fun key => ?_⟩
  · have hbehind := joinLiterals_behind hts hx
    refine ⟨?_, ?_, hbehind, joinLiterals_take_rawIndex hts position,
      joinLiterals_drop_rawIndex hts (position + 1)⟩
    · rw [← displayText_joinLiterals, hbehind, displayText_cons, displayText_nil,
        String.append_empty]
    · rw [behind_eq] at hbehind ⊢
      exact kind_of_mem_group hbehind
  · exact haveText_of_isTypable (isTypable_of_tokenize h)
  · exact haveText_of_isTypable (Key.isTypable_of_mem_tokens key)

/-- In `12+π3` the joined tokens begin at 0, 2, 3 and 4, and the `1` and the `2` stand behind the
first. -/
theorem rawIndex_inverts_joining_around_constant :
    let ts := [number "1", number "2", operator "+", number "π", number "3"]
    HaveText ts ∧ (joinLiterals ts)[0]? = some (number "12") ∧
      behind ts 0 = [number "1", number "2"] ∧ displayText (behind ts 0) = "12" ∧
      rawIndex ts 3 < rawIndex ts 4 ∧ rawIndex ts 4 = 5 := by
  intro ts
  have htext : HaveText ts := by
    unfold HaveText
    decide
  have hlength : (joinLiterals ts).length = 4 := by decide
  have hfirst : (joinLiterals ts)[0]? = some (number "12") := by decide
  obtain ⟨-, hmono, hpast, hbehind⟩ := rawIndex_inverts_joining.1 ts htext
  refine ⟨htext, hfirst, by decide, (hbehind 0 _ hfirst).1, hmono ?_ ?_ (Nat.lt_succ_self 3),
    hpast 4 hlength.le⟩ <;> simp [hlength]

end Calculator.Token
