import Calculator.Graph.Sweep
import Calculator.Proofs.Double.Arithmetic

/-!
# The abscissae of a sweep

An abscissa between the ends is the doubled sum of half the minimum and so many half-steps, cut off
at the maximum. Each of these operations rounds, and rounding keeps the order, so the abscissae
after the first come in order and stay finite whatever the range.

**The first step.** Half of the minimum may be rounded down, where it is odd on the finest grid.
Any half-step that is not zero makes up for that (`min_le_stepsValue`); where the half-step rounds
to zero too, the second abscissa is the doubled half of the minimum, below the minimum itself.

Main result: `crosses_and_wellFormed_iff`.
-/

namespace Calculator.Sweep

open Double

variable (s : Sweep)

/-! ## The ends and the half-step -/

theorem denotes_min : Denotes s.range.min (valueOf s.range.min) :=
  denotes_of_isFinite s.range.min_finite

theorem denotes_max : Denotes s.range.max (valueOf s.range.max) :=
  denotes_of_isFinite s.range.max_finite

theorem valueOf_min_lt_max : valueOf s.range.min < valueOf s.range.max :=
  (s.denotes_min.lt_iff s.denotes_max).mp s.range.min_lt_max

theorem toNat_steps_pos : 0 < s.steps.toNat := UInt64.lt_iff_toNat_lt.mp s.steps_pos

theorem one_le_nearest_steps : 1 ≤ nearest s.steps.toNat := one_le_nearest s.toNat_steps_pos

/-- Half the minimum. -/
def halfMin : ℚ := nearest (valueOf s.range.min / 2)

/-- Half the width of the range. -/
def halfWidth : ℚ := nearest (nearest (valueOf s.range.max / 2) - s.halfMin)

theorem denotes_halfMin : Denotes (s.range.min / 2.0) s.halfMin :=
  s.denotes_min.half s.range.min_finite

theorem denotes_halfWidth : Denotes (s.range.max / 2.0 - s.range.min / 2.0) s.halfWidth :=
  (s.denotes_max.half s.range.max_finite).sub s.denotes_halfMin
    (isFinite_half s.range.max_finite) (isFinite_half s.range.min_finite)

theorem halfWidth_nonneg : 0 ≤ s.halfWidth := by
  refine nearest_nonneg (sub_nonneg.mpr (nearest_mono ?_))
  have := s.valueOf_min_lt_max
  gcongr

/-- The halves of two finite doubles are no further apart than the greatest double. -/
theorem halfWidth_le : s.halfWidth ≤ greatest := by
  rw [← nearest_greatest]
  refine nearest_mono ?_
  have hmax := abs_le.mp (s.denotes_max.abs_nearest_half_le s.range.max_finite)
  have hmin := abs_le.mp (s.denotes_min.abs_nearest_half_le s.range.min_finite)
  rw [halfMin]
  linarith

theorem abs_halfWidth_le : |s.halfWidth| ≤ greatest := by
  rw [abs_of_nonneg s.halfWidth_nonneg]
  exact s.halfWidth_le

theorem denotes_halfStep : Denotes s.halfStep (nearest (s.halfWidth / nearest s.steps.toNat)) := by
  have hsteps := s.one_le_nearest_steps
  exact s.denotes_halfWidth.div (denotes_toFloat s.steps)
    (s.denotes_halfWidth.isFinite_of_abs_le s.abs_halfWidth_le) (isFinite_toFloat _) (by linarith)

theorem valueOf_halfStep_nonneg : 0 ≤ valueOf s.halfStep := by
  have hsteps := s.one_le_nearest_steps
  rw [s.denotes_halfStep.valueOf_eq]
  exact nearest_nonneg (div_nonneg s.halfWidth_nonneg (by linarith))

theorem isFinite_halfStep : s.halfStep.isFinite := by
  have hsteps := s.one_le_nearest_steps
  refine s.denotes_halfStep.isFinite_of_abs_le (abs_nearest_le_greatest ?_)
  rw [abs_of_nonneg (div_nonneg s.halfWidth_nonneg (by linarith))]
  exact (div_le_self s.halfWidth_nonneg hsteps).trans s.halfWidth_le

theorem denotes_valueOf_halfStep : Denotes s.halfStep (valueOf s.halfStep) :=
  denotes_of_isFinite s.isFinite_halfStep

/-! ## Steps from the minimum -/

/-- The length of `i` half-steps. -/
def lengthValue (i : ℕ) : ℚ := nearest (nearest i * valueOf s.halfStep)

/-- The value of `i` steps from the minimum. -/
def stepsValue (i : ℕ) : ℚ := nearest (nearest (s.halfMin + s.lengthValue i) * 2)

/-- Half the minimum, doubled. -/
def doubledMin : ℚ := nearest (s.halfMin * 2)

theorem denotes_stepsFromMin {i : ℕ} (hi : i < 2 ^ 64) :
    Denotes (s.stepsFromMin i) (s.stepsValue i) := by
  have hi' : i.toUInt64.toNat = i := Nat.mod_eq_of_lt hi
  have hlength := (denotes_toFloat i.toUInt64).mul s.denotes_valueOf_halfStep
    (isFinite_toFloat _) s.isFinite_halfStep
  rw [hi'] at hlength
  exact (s.denotes_halfMin.add hlength (isFinite_half s.range.min_finite)).mul_two

theorem denotes_doubledMin : Denotes (s.range.min / 2.0 * 2.0) s.doubledMin :=
  s.denotes_halfMin.mul_two

theorem lengthValue_mono : Monotone s.lengthValue := by
  intro i j h
  have hstep := s.valueOf_halfStep_nonneg
  have hij : nearest i ≤ nearest j := nearest_mono (by exact_mod_cast h)
  exact nearest_mono (by gcongr)

theorem lengthValue_nonneg (i : ℕ) : 0 ≤ s.lengthValue i :=
  nearest_nonneg (mul_nonneg (nearest_nonneg i.cast_nonneg) s.valueOf_halfStep_nonneg)

theorem halfStep_le_lengthValue {i : ℕ} (hi : 0 < i) : valueOf s.halfStep ≤ s.lengthValue i := by
  rw [← s.denotes_valueOf_halfStep.nearest_eq]
  exact nearest_mono (le_mul_of_one_le_left s.valueOf_halfStep_nonneg (one_le_nearest hi))

theorem stepsValue_mono : Monotone s.stepsValue := by
  intro i j h
  have hij := s.lengthValue_mono h
  refine nearest_mono (mul_le_mul_of_nonneg_right (nearest_mono ?_) zero_le_two)
  gcongr

theorem doubledMin_le_stepsValue (i : ℕ) : s.doubledMin ≤ s.stepsValue i := by
  have hlength := s.lengthValue_nonneg i
  refine nearest_mono (mul_le_mul_of_nonneg_right ?_ zero_le_two)
  rw [← s.denotes_halfMin.nearest_eq]
  exact nearest_mono (by rw [s.denotes_halfMin.nearest_eq]; linarith)

theorem stepsValue_of_halfStep_eq_zero (h : valueOf s.halfStep = 0) (i : ℕ) :
    s.stepsValue i = s.doubledMin := by
  rw [stepsValue, lengthValue, doubledMin, h, mul_zero, nearest_zero, add_zero,
    s.denotes_halfMin.nearest_eq]

/-- A half-step of any length makes up for what halving the minimum loses. -/
theorem min_le_stepsValue (h : 0 < valueOf s.halfStep) {i : ℕ} (hi : 0 < i) :
    valueOf s.range.min ≤ s.stepsValue i := by
  rcases s.denotes_min.nearest_half s.range.min_finite with hexact | ⟨k, hk, hmin⟩
  · calc valueOf s.range.min = s.doubledMin := by
          rw [doubledMin, halfMin, hexact, div_mul_cancel₀ _ two_ne_zero, s.denotes_min.nearest_eq]
      _ ≤ s.stepsValue i := s.doubledMin_le_stepsValue i
  · have hstep := s.denotes_valueOf_halfStep.tiny_le s.isFinite_halfStep h
    rw [stepsValue, halfMin, hmin]
    exact le_nearest_doubled hk (hstep.trans (s.halfStep_le_lengthValue hi))

/-! ## One abscissa -/

/-- The value of an abscissa but the first. -/
def abscissaValue (i : ℕ) : ℚ :=
  if i = s.steps.toNat then valueOf s.range.max else min (s.stepsValue i) (valueOf s.range.max)

theorem denotes_abscissa {i : ℕ} (h0 : 0 < i) (hi : i ≤ s.steps.toNat) :
    Denotes (s.abscissa i) (s.abscissaValue i) := by
  have hd := s.denotes_stepsFromMin (hi.trans_lt s.steps.toNat_lt)
  unfold abscissa abscissaValue
  rw [if_neg h0.ne']
  split_ifs with hn hlt
  · exact s.denotes_max
  · rw [min_eq_left ((hd.lt_iff s.denotes_max).mp hlt).le]
    exact hd
  · rw [min_eq_right (not_lt.mp fun h => hlt ((hd.lt_iff s.denotes_max).mpr h))]
    exact s.denotes_max

theorem abscissaValue_le_max (i : ℕ) : s.abscissaValue i ≤ valueOf s.range.max := by
  unfold abscissaValue
  split_ifs
  · exact le_rfl
  · exact min_le_right _ _

theorem abscissaValue_mono {i j : ℕ} (hij : i ≤ j) (hj : j ≤ s.steps.toNat) :
    s.abscissaValue i ≤ s.abscissaValue j := by
  by_cases hn : j = s.steps.toNat
  · rw [abscissaValue, abscissaValue, if_pos hn]
    exact s.abscissaValue_le_max i
  · rw [abscissaValue, abscissaValue, if_neg (by omega), if_neg hn]
    exact min_le_min_right _ (s.stepsValue_mono hij)

theorem abscissa_zero : s.abscissa 0 = s.range.min := if_pos rfl

theorem abscissa_steps : s.abscissa s.steps.toNat = s.range.max := by
  rw [abscissa, if_neg s.toNat_steps_pos.ne', if_pos rfl]

/-- Not even doubling overflows below: half the minimum is not beyond half the greatest double. -/
theorem isFinite_abscissa {i : ℕ} (hi : i ≤ s.steps.toNat) : (s.abscissa i).isFinite := by
  rcases i.eq_zero_or_pos with rfl | h0
  · exact s.abscissa_zero ▸ s.range.min_finite
  have hmax := abs_le.mp (s.denotes_max.abs_le_greatest s.range.max_finite)
  have hdoubled : -greatest ≤ s.doubledMin := by
    have hhalf := s.denotes_min.abs_nearest_half_le s.range.min_finite
    refine neg_le_of_abs_le (abs_nearest_le_greatest ?_)
    rw [abs_mul, abs_two, halfMin]
    linarith
  have hlow : -greatest ≤ s.abscissaValue i := by
    unfold abscissaValue
    split_ifs
    · exact hmax.1
    · exact le_min (hdoubled.trans (s.doubledMin_le_stepsValue i)) hmax.1
  refine (s.denotes_abscissa h0 hi).isFinite_of_abs_le (abs_le.mpr ⟨hlow, ?_⟩)
  exact (s.abscissaValue_le_max i).trans hmax.2

theorem abscissa_le_max {i : ℕ} (hi : i ≤ s.steps.toNat) : s.abscissa i ≤ s.range.max := by
  rcases i.eq_zero_or_pos with rfl | h0
  · rw [s.abscissa_zero, s.denotes_min.le_iff s.denotes_max]
    exact s.valueOf_min_lt_max.le
  · rw [(s.denotes_abscissa h0 hi).le_iff s.denotes_max]
    exact s.abscissaValue_le_max i

theorem abscissa_mono {i j : ℕ} (h0 : 0 < i) (hij : i ≤ j) (hj : j ≤ s.steps.toNat) :
    s.abscissa i ≤ s.abscissa j := by
  rw [(s.denotes_abscissa h0 (hij.trans hj)).le_iff (s.denotes_abscissa (h0.trans_le hij) hj)]
  exact s.abscissaValue_mono hij hj

/-- Why no abscissa is below the minimum: there is none between the ends, or the half-step did
not round to zero, or halving the minimum and doubling it again does not lower it. -/
def Rises : Prop :=
  s.steps = 1 ∨ 0.0 < s.halfStep ∨ s.range.min ≤ s.range.min / 2.0 * 2.0

theorem min_le_abscissa (h : s.Rises) {i : ℕ} (hi : i ≤ s.steps.toNat) :
    s.range.min ≤ s.abscissa i := by
  rcases i.eq_zero_or_pos with rfl | h0
  · rw [s.abscissa_zero, s.denotes_min.le_iff s.denotes_min]
  rw [s.denotes_min.le_iff (s.denotes_abscissa h0 hi)]
  have hmax := s.valueOf_min_lt_max.le
  unfold abscissaValue
  split_ifs with hn
  · exact hmax
  refine le_min ?_ hmax
  rcases h with hone | hstep | hmin
  · have hsteps : s.steps.toNat = 1 := congrArg UInt64.toNat hone
    omega
  · rw [denotes_zero.lt_iff s.denotes_valueOf_halfStep] at hstep
    exact s.min_le_stepsValue hstep h0
  · rw [s.denotes_min.le_iff s.denotes_doubledMin] at hmin
    exact hmin.trans (s.doubledMin_le_stepsValue i)

/-- Without such a reason already the second abscissa is below the first. -/
theorem rises_of_min_le_abscissa_one (h : s.range.min ≤ s.abscissa 1) : s.Rises := by
  by_contra hnot
  obtain ⟨hone, hstep, hmin⟩ := (not_or.mp hnot).imp_right not_or.mp
  rw [denotes_zero.lt_iff s.denotes_valueOf_halfStep] at hstep
  rw [s.denotes_min.le_iff s.denotes_doubledMin] at hmin
  have hzero := le_antisymm (not_lt.mp hstep) s.valueOf_halfStep_nonneg
  have hsteps : 1 ≠ s.steps.toNat := fun h1 => hone (UInt64.toNat_inj.mp h1.symm)
  rw [s.denotes_min.le_iff (s.denotes_abscissa one_pos s.toNat_steps_pos), abscissaValue,
    if_neg hsteps, s.stepsValue_of_halfStep_eq_zero hzero] at h
  exact hmin (h.trans (min_le_left _ _))

/-! ## All abscissae -/

theorem mem_abscissae {x : Float} :
    x ∈ s.abscissae ↔ ∃ i ≤ s.steps.toNat, s.abscissa i = x := by
  simp only [abscissae, List.mem_map, List.mem_range, Nat.lt_succ_iff]

theorem abscissae_eq_cons :
    s.abscissae = s.range.min :: (List.range s.steps.toNat).map (fun i => s.abscissa (i + 1)) := by
  rw [abscissae, List.range_succ_eq_map, List.map_cons, List.map_map, abscissa_zero]
  rfl

theorem pairwise_tail_abscissae : s.abscissae.tail.Pairwise (· ≤ ·) := by
  rw [abscissae_eq_cons, List.tail_cons, List.pairwise_map]
  refine List.pairwise_lt_range.imp_of_mem fun {i j} _ hj hij => ?_
  exact s.abscissa_mono i.succ_pos (by omega) (List.mem_range.mp hj)

/-- What every sweep keeps to: it starts at the minimum and ends at the maximum, with finite
abscissae that are at most the maximum and, from the second on, never turn back. -/
structure Crosses : Prop where
  isFinite : ∀ x ∈ s.abscissae, x.isFinite
  le_max : ∀ x ∈ s.abscissae, x ≤ s.range.max
  pairwise_tail : s.abscissae.tail.Pairwise (· ≤ ·)
  head?_eq : s.abscissae.head? = some s.range.min
  getLast?_eq : s.abscissae.getLast? = some s.range.max

/-- A sweep is well-formed if it also stays in its range and never turns back at all. -/
structure WellFormed : Prop extends s.Crosses where
  min_le : ∀ x ∈ s.abscissae, s.range.min ≤ x
  pairwise : s.abscissae.Pairwise (· ≤ ·)

theorem crosses : s.Crosses where
  isFinite := by
    intro x hx
    obtain ⟨i, hi, rfl⟩ := s.mem_abscissae.mp hx
    exact s.isFinite_abscissa hi
  le_max := by
    intro x hx
    obtain ⟨i, hi, rfl⟩ := s.mem_abscissae.mp hx
    exact s.abscissa_le_max hi
  pairwise_tail := s.pairwise_tail_abscissae
  head?_eq := by rw [abscissae_eq_cons, List.head?_cons]
  getLast?_eq := by
    rw [abscissae, List.range_succ, List.map_append, List.map_singleton, List.getLast?_concat,
      abscissa_steps]

theorem Rises.wellFormed (h : s.Rises) : s.WellFormed := by
  have hmin : ∀ x ∈ s.abscissae, s.range.min ≤ x := by
    intro x hx
    obtain ⟨i, hi, rfl⟩ := s.mem_abscissae.mp hx
    exact s.min_le_abscissa h hi
  refine ⟨s.crosses, hmin, ?_⟩
  have htail := s.pairwise_tail_abscissae
  rw [abscissae_eq_cons] at hmin htail ⊢
  exact List.pairwise_cons.mpr ⟨fun x hx => hmin x (List.mem_cons_of_mem _ hx), htail⟩

theorem WellFormed.rises (h : s.WellFormed) : s.Rises :=
  s.rises_of_min_le_abscissa_one
    (h.min_le _ (s.mem_abscissae.mpr ⟨1, s.toNat_steps_pos, rfl⟩))

/-- **How a sweep spans its range.** A sweep of any finite range, subnormal or wider than the
greatest double, crosses it from end to end. It is well-formed unless there are abscissae between
the ends, the half-step rounds to zero, and half the minimum, rounded and doubled, is below it. -/
theorem crosses_and_wellFormed_iff :
    s.Crosses ∧ (s.WellFormed ↔
      s.steps = 1 ∨ 0.0 < s.halfStep ∨ s.range.min ≤ s.range.min / 2.0 * 2.0) :=
  ⟨s.crosses, WellFormed.rises s, Rises.wellFormed s⟩

/-- In three steps from the least positive double to the next: half the minimum rounds to zero, and
so does the half-step. -/
theorem not_wellFormed_of_least :
    ¬ WellFormed ⟨⟨Float.ofBits 1, Float.ofBits 2, by decide, by decide, by decide⟩, 3,
      by decide⟩ := by
  intro h
  have hle := h.min_le 0.0 ((mem_abscissae _).mpr ⟨1, by decide, by decide +kernel⟩)
  exact absurd hle (by decide +kernel)

end Calculator.Sweep
