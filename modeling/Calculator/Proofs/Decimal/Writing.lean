import Calculator.Compile

/-!
# What written numbers are made of

Whatever its layout, a finite double is written in digits, a minus sign, a point, and the `e` before
a power of ten (`Decimal.Layout.inked_finite`). So the display tells a value from an error:
`formatResult_eq_errorText_iff`.
-/

namespace Calculator

namespace Decimal.Layout

/-- Made of the characters that numbers are written with. -/
def Inked (cs : List Char) : Prop := ∀ c ∈ cs, c.isDigit = true ∨ c ∈ ['-', '.', 'e']

theorem Inked.append {cs ds : List Char} (hc : Inked cs) (hd : Inked ds) : Inked (cs ++ ds) :=
  fun c h => (List.mem_append.1 h).elim (hc c) (hd c)

theorem Inked.cons {c : Char} {cs : List Char} (hc : c ∈ ['-', '.', 'e']) (hcs : Inked cs) :
    Inked (c :: cs) :=
  List.forall_mem_cons.2 ⟨.inr hc, hcs⟩

theorem inked_nil : Inked [] := fun _ h => absurd h List.not_mem_nil

theorem inked_digitsOf (n : Nat) : Inked (digitsOf n) :=
  fun _ h => .inl (Nat.isDigit_of_mem_toDigits (by decide) (by decide) h)

theorem inked_zeros (n : Nat) : Inked (zeros n) := by
  intro c h
  rw [List.eq_of_mem_replicate h]
  exact .inl (by decide)

theorem inked_wholeEnd (l : Layout) : Inked l.wholeEnd := by
  unfold wholeEnd
  split
  · intro c h
    rcases List.mem_cons.1 h with rfl | h
    · exact .inr (by decide)
    · rw [List.mem_singleton.1 h]
      exact .inl (by decide)
  · exact inked_nil

theorem inked_positionally (l : Layout) {ds : List Char} (h : Inked ds) (exponent : Int) :
    Inked (l.positionally ds exponent) := by
  unfold positionally
  split
  · exact (h.append (inked_zeros _)).append l.inked_wholeEnd
  · dsimp only
    split
    · have hwhole : Inked (ds.take (ds.length - (-exponent).toNat)) :=
        fun c hc => h c (List.mem_of_mem_take hc)
      have hfraction : Inked (ds.drop (ds.length - (-exponent).toNat)) :=
        fun c hc => h c (List.mem_of_mem_drop hc)
      exact hwhole.append (hfraction.cons (by decide))
    · have hzero : Inked ['0'] := inked_zeros 1
      exact hzero.append (((inked_zeros _).append h).cons (by decide))

theorem inked_scientifically {ds : List Char} (h : Inked ds) (power : Int) :
    Inked (scientifically ds power) := by
  have hpower : Inked
      (if power < 0 then '-' :: digitsOf power.natAbs else digitsOf power.natAbs) := by
    split
    · exact (inked_digitsOf _).cons (by decide)
    · exact inked_digitsOf _
  unfold scientifically
  refine Inked.append ?_ (hpower.cons (by decide))
  match ds with
  | [] => exact inked_nil
  | [d] => exact h
  | d :: e :: rest =>
    obtain ⟨hd, hrest⟩ := List.forall_mem_cons.1 h
    exact List.forall_mem_cons.2 ⟨hd, Inked.cons (by decide) hrest⟩

theorem inked_magnitude (l : Layout) (d : Scaled) : Inked (l.magnitude d) := by
  unfold magnitude
  dsimp only
  split
  · exact l.inked_positionally (inked_digitsOf _) _
  · exact inked_scientifically (inked_digitsOf _) _

/-- **A finite double is written in digits, signs, points and an `e`.** -/
theorem inked_finite (l : Layout) (x : Float) : Inked (l.finite x) := by
  unfold finite
  refine Inked.append ?_ ?_
  · split
    · exact inked_nil.cons (by decide)
    · exact inked_nil
  · split
    · have hzero : Inked ['0'] := inked_zeros 1
      exact hzero.append l.inked_wholeEnd
    · exact l.inked_magnitude _

/-- No double is written as the word for an error. -/
theorem text_ne_errorText (l : Layout) (x : Float) : l.text x ≠ errorText := by
  unfold text
  split
  · decide
  · split
    · split <;> decide
    · intro h
      have hE : 'E' ∈ l.finite x := by
        rw [← String.toList_ofList (l := l.finite x), h]
        decide
      exact absurd (l.inked_finite x 'E' hE) (by decide)

end Decimal.Layout

/-- **The display shows an error in place of a value exactly when the value is not finite.** -/
theorem formatResult_eq_errorText_iff {x : Float} :
    formatResult x = errorText ↔ x.isFinite = false := by
  unfold formatResult
  cases x.isFinite with
  | false => simp
  | true => simp [Decimal.Layout.text_ne_errorText]

end Calculator
