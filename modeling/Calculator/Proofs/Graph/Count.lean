import Calculator.Proofs.Graph.Samples
import Mathlib.Algebra.Group.Nat.Defs

/-!
# How many samples a sweep counts

The size of a sweep is a 64-bit word, one more than its steps, and so are the steps. Any positive
word may be a number of steps: `make?` only refuses zero, and `forWidth` cuts a product off at the
greatest word. There the size wraps around to zero, although the sweep has `2 ^ 64` abscissae.

Everywhere else the count is right (`Counts`). So a sweep counts its samples exactly if the steps
that `make?` or `forWidth` were **asked** for, and one more, fit in a word.

Main results: `counts_iff` and `not_counts_of_greatest`.
-/

namespace Calculator.Sweep

/-- The size of a sweep is the number of its abscissae; it is at least two, and the sweep is empty
only if it is zero. -/
structure Counts (s : Sweep) : Prop where
  toNat_size : s.size.toNat = s.abscissae.length
  two_le : 2 ≤ s.size.toNat
  isEmpty_iff : s.isEmpty = true ↔ s.size.toNat = 0

/-- A sweep, and the number of steps asked for. A product may be any number, whatever fits in a
word. -/
inductive Asked : Sweep → Nat → Prop
  | make {s : Sweep} {minX maxX : Float} {steps : UInt64} (h : make? minX maxX steps = .ok s) :
    Asked s steps.toNat
  | width (w : Window) (width samples : UInt64) :
    Asked (forWidth w width samples) (width.toNat * samples.toNat)

variable {s : Sweep} {minX maxX : Float} {steps : UInt64} {asked : Nat}

/-! ## Words -/

theorem toNat_size_eq (s : Sweep) : s.size.toNat = (s.steps.toNat + 1) % 2 ^ 64 :=
  UInt64.toNat_add _ _

theorem toNat_saturatingMul (a b : UInt64) :
    (saturatingMul a b).toNat = min (a.toNat * b.toNat) (2 ^ 64 - 1) := by
  unfold saturatingMul
  split_ifs with h
  · have hfits : a.toNat * b.toNat ≤ 2 ^ 64 - 1 := Nat.le_sub_one_of_lt h
    rw [UInt64.toNat_mul, Nat.mod_eq_of_lt h, Nat.min_eq_left hfits]
  · have hover : 2 ^ 64 - 1 ≤ a.toNat * b.toNat := Nat.le_trans (Nat.sub_le _ _) (Nat.not_lt.1 h)
    rw [Nat.min_eq_right hover]
    rfl

/-! ## The steps asked for -/

theorem steps_of_make? (h : make? minX maxX steps = .ok s) : s.steps = steps := by
  unfold make? at h
  split_ifs at h
  cases h
  rfl

theorem toNat_steps_forWidth (w : Window) (width samples : UInt64) :
    (forWidth w width samples).steps.toNat =
      max 1 (min (width.toNat * samples.toNat) (2 ^ 64 - 1)) := by
  rw [← toNat_saturatingMul]
  unfold forWidth
  dsimp only
  split_ifs with h
  · exact (Nat.max_eq_right (UInt64.lt_iff_toNat_lt.1 h)).symm
  · have hzero : (saturatingMul width samples).toNat = 0 :=
      Nat.eq_zero_of_not_pos fun hpos => h (UInt64.lt_iff_toNat_lt.2 hpos)
    rw [hzero]
    rfl

/-! ## Which sweeps count their samples -/

theorem two_le_length_abscissae (s : Sweep) : 2 ≤ s.abscissae.length := by
  have hpos : 0 < s.steps.toNat := UInt64.lt_iff_toNat_lt.1 s.steps_pos
  rw [length_abscissae]
  exact Nat.succ_le_succ hpos

/-- One sample more than steps has to fit in a word. -/
theorem counts_iff_steps : s.Counts ↔ s.steps.toNat + 1 < 2 ^ 64 := by
  constructor
  · intro h
    have hsize := h.toNat_size
    rw [length_abscissae] at hsize
    exact hsize ▸ s.size.toNat_lt
  · intro h
    have hsize : s.size.toNat = s.abscissae.length := by
      rw [length_abscissae, toNat_size_eq, Nat.mod_eq_of_lt h]
    have htwo : 2 ≤ s.size.toNat := hsize ▸ two_le_length_abscissae s
    exact {
      toNat_size := hsize
      two_le := htwo
      isEmpty_iff := iff_of_false Bool.false_ne_true (by omega) }

/-- A sweep that does not count its samples has size zero. -/
theorem size_eq_zero_of_not_counts (h : ¬ s.Counts) : s.size = 0 := by
  have hlt := s.steps.toNat_lt
  rw [counts_iff_steps] at h
  have hgreatest : s.steps.toNat + 1 = 2 ^ 64 := by omega
  rw [← UInt64.toNat_inj, toNat_size_eq, hgreatest]
  rfl

theorem Asked.counts_iff_asked (h : Asked s asked) : s.Counts ↔ asked + 1 < 2 ^ 64 := by
  rw [counts_iff_steps]
  cases h with
  | make h => rw [steps_of_make? h]
  | width w width samples =>
    rw [toNat_steps_forWidth]
    omega

/-- **Which sweeps count their samples.** A sweep has one abscissa more than steps, two at least.
Its size is their number exactly where the steps asked for, and one more, fit in a word. Otherwise
its size is zero. -/
theorem counts_iff (h : Asked s asked) :
    s.abscissae.length = s.steps.toNat + 1 ∧ 2 ≤ s.abscissae.length ∧
      (s.Counts ↔ asked + 1 < 2 ^ 64) ∧ (¬ s.Counts → s.size = 0) :=
  ⟨length_abscissae s, two_le_length_abscissae s, h.counts_iff_asked, size_eq_zero_of_not_counts⟩

/-- One step below the greatest number a sweep still counts its samples. -/
theorem counts_iff_one_below :
    ∃ s, Asked s (2 ^ 64 - 2) ∧ s.Counts ∧ s.size.toNat = 2 ^ 64 - 1 := by
  let s : Sweep := ⟨⟨0.0, 1.0, by decide, by decide, by decide⟩, 0xfffffffffffffffe, by decide⟩
  have hmake : make? 0.0 1.0 0xfffffffffffffffe = .ok s := rfl
  exact ⟨s, .make hmake, (counts_iff (.make hmake)).2.2.1.2 (by decide), rfl⟩

/-- **In the greatest number of steps a sweep counts no samples at all**, though it has `2 ^ 64`. -/
theorem not_counts_of_greatest :
    ∃ s, make? 0.0 1.0 0xffffffffffffffff = .ok s ∧ s.abscissae.length = 2 ^ 64 ∧ s.size = 0 ∧
      s.isEmpty = false ∧ ¬ s.Counts := by
  refine ⟨⟨⟨0.0, 1.0, by decide, by decide, by decide⟩, 0xffffffffffffffff, by decide⟩, rfl,
    length_abscissae _, rfl, rfl, ?_⟩
  rw [counts_iff_steps]
  decide

end Calculator.Sweep
