import Calculator.Decimal.Reader
import Mathlib.Data.List.TakeWhile

/-!
# Which texts are decimal numbers

A decimal number is written with digits and at most one point, and with at least one digit. The
reader finds this out from the front: it takes digits, a point if there is one, and digits again.
Texts of that form are the decimal ones, and the reader takes the whole of a text only then.

Main result: `fixed?_eq_none_iff`.
-/

namespace Calculator

/-- Digits and at most one point, with at least one digit. -/
def Text.IsDecimal (text : String) : Prop :=
  (∀ c ∈ text.toList, c.isDigit = true ∨ c = '.') ∧ text.toList.count '.' ≤ 1 ∧
    ∃ c ∈ text.toList, c.isDigit = true

theorem Text.isDecimal_iff_all {text : String} :
    IsDecimal text ↔ text.toList.all (fun c => c.isDigit || c = '.') = true ∧
      text.toList.count '.' ≤ 1 ∧ text.toList.any Char.isDigit = true := by
  simp [IsDecimal]

instance (text : String) : Decidable (Text.IsDecimal text) :=
  decidable_of_iff _ Text.isDecimal_iff_all.symm

namespace Decimal

/-! ## The form of a decimal number -/

/-- Digits, and perhaps a point with digits after it. -/
def IsFixed (cs : List Char) : Prop :=
  ∃ whole fraction : List Char, (∀ c ∈ whole ++ fraction, c.isDigit = true) ∧
    whole ++ fraction ≠ [] ∧ (cs = whole ∧ fraction = [] ∨ cs = whole ++ '.' :: fraction)

theorem count_point_of_digits {ds : List Char} (h : ∀ c ∈ ds, c.isDigit = true) :
    ds.count '.' = 0 :=
  List.count_eq_zero.2 fun hmem => absurd (h _ hmem) (by decide)

theorem isDecimal_of_isFixed {text : String} (h : IsFixed text.toList) : Text.IsDecimal text := by
  obtain ⟨whole, fraction, hdigits, hne, hform⟩ := h
  obtain ⟨d, hd⟩ := List.exists_mem_of_ne_nil _ hne
  have hnone := count_point_of_digits hdigits
  have hd' : d ∈ whole ∨ d ∈ fraction := List.mem_append.1 hd
  unfold Text.IsDecimal
  rcases hform with ⟨htext, rfl⟩ | htext
  · rw [List.append_nil] at hdigits hnone hd
    rw [htext, hnone]
    exact ⟨fun c hc => .inl (hdigits c hc), Nat.zero_le _, d, hd, hdigits d hd⟩
  · rw [List.count_append] at hnone
    rw [htext, List.count_append, List.count_cons_self]
    refine ⟨fun c hc => ?_, by omega, d, ?_, hdigits d (List.mem_append.2 hd')⟩
    · rcases List.mem_append.1 hc with hc | hc
      · exact .inl (hdigits c (List.mem_append_left _ hc))
      · rcases List.mem_cons.1 hc with rfl | hc
        · exact .inr rfl
        · exact .inl (hdigits c (List.mem_append_right _ hc))
    · exact List.mem_append.2 (hd'.imp_right (List.mem_cons_of_mem _))

theorem isFixed_of_isDecimal {text : String} (h : Text.IsDecimal text) : IsFixed text.toList := by
  obtain ⟨hall, hcount, d, hd, hdigit⟩ := h
  have hne : d ≠ '.' := fun h => absurd hdigit (by rw [h]; decide)
  by_cases hpoint : '.' ∈ text.toList
  · obtain ⟨whole, fraction, htext⟩ := List.append_of_mem hpoint
    rw [htext, List.count_append, List.count_cons_self] at hcount
    have hnone : '.' ∉ whole ++ fraction := by
      rw [← List.count_eq_zero, List.count_append]
      omega
    have hmem : ∀ c ∈ whole ++ fraction, c ∈ text.toList := fun c hc => by
      rw [htext]
      exact List.mem_append.2 ((List.mem_append.1 hc).imp_right (List.mem_cons_of_mem _))
    refine ⟨whole, fraction, fun c hc => ?_, ?_, .inr htext⟩
    · exact (hall c (hmem c hc)).resolve_right fun h => hnone (h ▸ hc)
    · rw [htext] at hd
      refine List.ne_nil_of_mem (a := d) (List.mem_append.2 ((List.mem_append.1 hd).imp_right ?_))
      exact fun h => List.mem_of_ne_of_mem hne h
  · refine ⟨text.toList, [], fun c hc => ?_, ?_, .inl ⟨rfl, rfl⟩⟩
    · rw [List.append_nil] at hc
      exact (hall c hc).resolve_right fun h => hpoint (h ▸ hc)
    · rw [List.append_nil]
      exact List.ne_nil_of_mem hd

theorem isFixed_iff {text : String} : IsFixed text.toList ↔ Text.IsDecimal text :=
  ⟨isDecimal_of_isFixed, isFixed_of_isDecimal⟩

/-! ## Reading it -/

/-- Digits are taken up to the point. -/
theorem span_digits {ds : List Char} (h : ∀ c ∈ ds, c.isDigit = true) (rest : List Char) :
    (ds ++ '.' :: rest).takeWhile Char.isDigit = ds ∧
      (ds ++ '.' :: rest).dropWhile Char.isDigit = '.' :: rest := by
  have hpoint : ¬ Char.isDigit '.' = true := by decide
  rw [List.takeWhile_append_of_pos h, List.dropWhile_append_of_pos h,
    List.takeWhile_cons_of_neg hpoint, List.dropWhile_cons_of_neg hpoint, List.append_nil]
  exact ⟨rfl, rfl⟩

theorem readFixed?_of_digits {whole : List Char} (h : ∀ c ∈ whole, c.isDigit = true)
    (hne : whole ≠ []) : readFixed? whole = some ⟨whole, [], 0⟩ := by
  have htake := List.takeWhile_eq_self_iff.2 h
  have hdrop := List.dropWhile_eq_nil_iff.2 h
  simp [readFixed?, readMantissa?, htake, hdrop, hne]

theorem readFixed?_of_point {whole fraction : List Char}
    (hwhole : ∀ c ∈ whole, c.isDigit = true) (hfraction : ∀ c ∈ fraction, c.isDigit = true)
    (hne : whole ++ fraction ≠ []) :
    readFixed? (whole ++ '.' :: fraction) = some ⟨whole, fraction, 0⟩ := by
  obtain ⟨htake, hdrop⟩ := span_digits hwhole fraction
  have htake' := List.takeWhile_eq_self_iff.2 hfraction
  have hdrop' := List.dropWhile_eq_nil_iff.2 hfraction
  rw [ne_eq, List.append_eq_nil_iff] at hne
  simp [readFixed?, readMantissa?, htake, hdrop, htake', hdrop', hne]

/-- What is read before the rest is digits, and perhaps a point with digits after it. -/
theorem of_readMantissa? {cs whole fraction rest : List Char}
    (h : readMantissa? cs = some (whole, fraction, rest)) :
    (∀ c ∈ whole ++ fraction, c.isDigit = true) ∧ whole ++ fraction ≠ [] ∧
      (cs = whole ++ rest ∧ fraction = [] ∨ cs = whole ++ '.' :: (fraction ++ rest)) := by
  have htaken (ds : List Char) : ∀ c ∈ ds.takeWhile Char.isDigit, c.isDigit = true :=
    List.all_eq_true.1 List.all_takeWhile
  have hsplit (ds : List Char) : ds.takeWhile Char.isDigit ++ ds.dropWhile Char.isDigit = ds :=
    List.takeWhile_append_dropWhile
  have hcs := hsplit cs
  unfold readMantissa? at h
  simp only [Option.ite_none_left_eq_some, Option.some.injEq, Prod.mk.injEq] at h
  obtain ⟨hne, rfl, hfraction, hrest⟩ := h
  rw [hfraction] at hne
  rw [Bool.and_eq_true, List.isEmpty_iff, List.isEmpty_iff, ← List.append_eq_nil_iff] at hne
  split at hfraction
  · next after hdrop =>
    rw [hdrop] at hcs hrest
    subst hfraction hrest
    refine ⟨fun c hc => ?_, hne, .inr ?_⟩
    · exact (List.mem_append.1 hc).elim (htaken cs c) (htaken after c)
    · show cs = cs.takeWhile Char.isDigit ++
        '.' :: (after.takeWhile Char.isDigit ++ after.dropWhile Char.isDigit)
      rw [hsplit after, hcs]
  · next hdrop =>
    subst hfraction
    split at hrest
    · next after hpoint => exact absurd hpoint (hdrop after)
    · subst hrest
      refine ⟨?_, hne, .inl ⟨hcs.symm, rfl⟩⟩
      rw [List.append_nil]
      exact htaken cs

theorem isFixed_of_readFixed? {cs : List Char} {n : Numeral} (h : readFixed? cs = some n) :
    IsFixed cs := by
  unfold readFixed? at h
  split at h
  · next whole fraction hread =>
    obtain ⟨hdigits, hne, hform⟩ := of_readMantissa? hread
    refine ⟨whole, fraction, hdigits, hne, ?_⟩
    rwa [List.append_nil, List.append_nil] at hform
  · cases h

theorem exists_readFixed?_of_isFixed {cs : List Char} (h : IsFixed cs) :
    ∃ n, readFixed? cs = some n := by
  obtain ⟨whole, fraction, hdigits, hne, ⟨rfl, rfl⟩ | rfl⟩ := h
  · rw [List.append_nil] at hdigits hne
    exact ⟨_, readFixed?_of_digits hdigits hne⟩
  · obtain ⟨hwhole, hfraction⟩ := List.forall_mem_append.1 hdigits
    exact ⟨_, readFixed?_of_point hwhole hfraction hne⟩

/-- **The reader refuses exactly the texts that are no decimal numbers.** -/
theorem fixed?_eq_none_iff {text : String} : fixed? text = none ↔ ¬ Text.IsDecimal text := by
  rw [fixed?, Option.map_eq_none_iff, ← isFixed_iff]
  constructor
  · intro hnone hfixed
    obtain ⟨n, hread⟩ := exists_readFixed?_of_isFixed hfixed
    rw [hnone] at hread
    cases hread
  · intro hfixed
    exact Option.eq_none_iff_forall_ne_some.2 fun n hread => hfixed (isFixed_of_readFixed? hread)

end Decimal

end Calculator
