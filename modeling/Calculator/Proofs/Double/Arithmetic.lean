import Calculator.Proofs.Double.Operations

/-!
# The arithmetic of doubles

A double that is a number **denotes** a rational one, its value; an infinity denotes 2 ^ 1025 or
its negative. An operation gives what is nearest to the exact result for the numbers denoted, and
doubles compare as these numbers do.

Main results: `Denotes.add`, `Denotes.sub`, `Denotes.mul`, `Denotes.div`, `denotes_toFloat` and
`Denotes.le_iff`.
-/

namespace Calculator.Double

open Float.Model (UnpackedFloat)

/-- A double is a number and stands for the given one. -/
structure Denotes (x : Float) (q : ℚ) : Prop where
  isNaN_eq : x.isNaN = false
  value_eq : value x.toModel.unpack = q

/-- The number that a double denotes, if it is a number. -/
def valueOf (x : Float) : ℚ := value x.toModel.unpack

theorem denotes_of_packs {f : UnpackedFloat} {q : ℚ} (h : Packs f q) :
    Denotes ⟨.pack f⟩ (nearest q) :=
  ⟨h.isNaN_eq, h.value_eq⟩

theorem denotes_of_isFinite {x : Float} (h : x.isFinite) : Denotes x (valueOf x) :=
  ⟨isNaN_eq_false h, rfl⟩

/-- Converting a word rounds it. -/
theorem denotes_toFloat (n : UInt64) : Denotes n.toFloat (nearest n.toNat) := by
  have h := denotes_of_packs (packs_normalize n.toNat 0 .positive)
  rwa [zpow_zero, mul_one, Int.cast_natCast] at h

theorem denotes_zero : Denotes 0.0 0 := by
  have hzero : (0.0 : Float) = UInt64.toFloat 0 := by decide
  have h := denotes_toFloat 0
  rwa [← hzero, show (((0 : UInt64).toNat : ℕ) : ℚ) = 0 from rfl, nearest_zero] at h

theorem denotes_two : Denotes 2.0 2 := by
  have htwo : (2.0 : Float) = UInt64.toFloat 2 := by decide
  have hnearest : nearest 2 = 2 := by
    simpa using nearest_natCast_mul_two_zpow (m := 2) (e := 0) (by norm_num) (by norm_num)
      (by norm_num)
  have h := denotes_toFloat 2
  rwa [← htwo, show (((2 : UInt64).toNat : ℕ) : ℚ) = 2 from rfl, hnearest] at h

namespace Denotes

variable {x y : Float} {p q : ℚ}

theorem isFinite_iff (h : Denotes x q) : x.isFinite ↔ |q| < limit := by
  rw [← h.value_eq]
  exact Double.isFinite_iff (isDouble_unpack _) h.isNaN_eq

theorem valueOf_eq (h : Denotes x q) : valueOf x = q := h.value_eq

theorem isFinite_of_abs_le (h : Denotes x q) (hq : |q| ≤ greatest) : x.isFinite :=
  h.isFinite_iff.mpr (hq.trans_lt greatest_lt_limit)

/-- A double is nearest to itself. -/
theorem nearest_eq (h : Denotes x q) : nearest q = q := by
  rw [← h.value_eq]
  exact (isDouble_unpack _).nearest_value h.isNaN_eq

/-! ### Order -/

theorem lt_iff (hx : Denotes x p) (hy : Denotes y q) : x < y ↔ p < q := by
  obtain ⟨o, ho, hc⟩ :=
    compares_compare (isDouble_unpack _) (isDouble_unpack _) hx.isNaN_eq hy.isNaN_eq
  rw [← hx.value_eq, ← hy.value_eq, ← hc.eq_lt]
  change decide (x.toModel.unpack.lt y.toModel.unpack = true) = true ↔ _
  rw [decide_eq_true_iff, UnpackedFloat.lt, ho]
  cases o <;> decide

theorem le_iff (hx : Denotes x p) (hy : Denotes y q) : x ≤ y ↔ p ≤ q := by
  obtain ⟨o, ho, hc⟩ :=
    compares_compare (isDouble_unpack _) (isDouble_unpack _) hx.isNaN_eq hy.isNaN_eq
  rw [← hx.value_eq, ← hy.value_eq, ← hc.ne_gt]
  change decide (x.toModel.unpack.le y.toModel.unpack = true) = true ↔ _
  rw [decide_eq_true_iff, UnpackedFloat.le, ho]
  cases o <;> decide

/-! ### Operations -/

theorem add (hx : Denotes x p) (hy : Denotes y q) (hp : x.isFinite) :
    Denotes (x + y) (nearest (p + q)) := by
  rw [← hx.value_eq, ← hy.value_eq]
  exact denotes_of_packs (packs_add (isDouble_unpack _) (isDouble_unpack _) hp hy.isNaN_eq)

theorem sub (hx : Denotes x p) (hy : Denotes y q) (hp : x.isFinite) (hq : y.isFinite) :
    Denotes (x - y) (nearest (p - q)) := by
  rw [← hx.value_eq, ← hy.value_eq]
  exact denotes_of_packs (packs_sub (isDouble_unpack _) (isDouble_unpack _) hp hq)

theorem mul (hx : Denotes x p) (hy : Denotes y q) (hp : x.isFinite) (hq : y.isFinite) :
    Denotes (x * y) (nearest (p * q)) := by
  rw [← hx.value_eq, ← hy.value_eq]
  exact denotes_of_packs (packs_mul (isDouble_unpack _) (isDouble_unpack _) hp hq)

theorem div (hx : Denotes x p) (hy : Denotes y q) (hp : x.isFinite) (hq : y.isFinite)
    (h : q ≠ 0) : Denotes (x / y) (nearest (p / q)) := by
  rw [← hy.value_eq] at h
  rw [← hx.value_eq, ← hy.value_eq]
  exact denotes_of_packs (packs_div (isDouble_unpack _) (isDouble_unpack _) hp hq h)

/-- Doubling, of an infinity too. -/
theorem mul_two (hx : Denotes x p) : Denotes (x * 2.0) (nearest (p * 2)) := by
  by_cases hfin : x.isFinite
  · exact hx.mul denotes_two hfin (by decide)
  obtain ⟨s, hs⟩ := exists_eq_infinity hx.isNaN_eq hfin
  have htwo := denotes_two.value_eq
  have hpacks := packs_infinity_mul s (b := (2.0 : Float).toModel.unpack) (by decide)
    (by rw [htwo]; norm_num)
  rw [← hs, htwo, hx.value_eq] at hpacks
  exact denotes_of_packs hpacks

/-! ### What finite doubles there are -/

theorem exists_eq_mul (h : Denotes x q) (hfin : x.isFinite) :
    ∃ k e : ℤ, |k| < 2 ^ 53 ∧ -1074 ≤ e ∧ e ≤ 971 ∧ q = k * 2 ^ e := by
  rw [← h.value_eq]
  exact exists_value_eq_mul (isDouble_unpack _) hfin

theorem abs_le_greatest (h : Denotes x q) (hfin : x.isFinite) : |q| ≤ greatest := by
  obtain ⟨k, e, hk, -, he, rfl⟩ := h.exists_eq_mul hfin
  have hk' : ((|k| : ℤ) : ℚ) ≤ (2 ^ 53 - 1 : ℕ) := by
    have : |k| ≤ ((2 ^ 53 - 1 : ℕ) : ℤ) := by omega
    exact_mod_cast this
  rw [abs_mul, abs_of_pos (by positivity : (0 : ℚ) < 2 ^ e), ← Int.cast_abs]
  unfold greatest
  gcongr
  exact one_le_two

theorem half (h : Denotes x q) (hfin : x.isFinite) : Denotes (x / 2.0) (nearest (q / 2)) :=
  h.div denotes_two hfin (by decide) two_ne_zero

theorem abs_nearest_half_le (h : Denotes x q) (hfin : x.isFinite) :
    |nearest (q / 2)| ≤ greatest / 2 := by
  rw [abs_nearest, ← nearest_greatest_half]
  refine nearest_mono ?_
  rw [abs_div, abs_two]
  gcongr
  exact h.abs_le_greatest hfin

/-- Halving is exact, but for the doubles on the finest grid. -/
theorem nearest_half (h : Denotes x q) (hfin : x.isFinite) :
    nearest (q / 2) = q / 2 ∨ ∃ k : ℤ, |k| < 2 ^ 53 ∧ q = k * tiny := by
  obtain ⟨k, e, hk, hmin, hmax, rfl⟩ := h.exists_eq_mul hfin
  rcases hmin.eq_or_lt with rfl | he
  · exact .inr ⟨k, hk, by rw [tiny]⟩
  · have hhalf : (k * 2 ^ e / 2 : ℚ) = k * 2 ^ (e - 1) := by
      rw [zpow_sub_one₀ two_ne_zero]
      ring
    rw [hhalf]
    exact .inl (nearest_intCast_mul_two_zpow hk (by omega) (by omega))

theorem tiny_le (h : Denotes x q) (hfin : x.isFinite) (hq : 0 < q) : tiny ≤ q := by
  obtain ⟨k, e, -, hmin, -, rfl⟩ := h.exists_eq_mul hfin
  have hk : (1 : ℚ) ≤ k := by
    have : 0 < k := by exact_mod_cast pos_of_mul_pos_left hq (by positivity)
    exact_mod_cast this
  unfold tiny
  calc (2 : ℚ) ^ (-1074 : ℤ) ≤ 2 ^ e := zpow_le_zpow_right₀ one_le_two hmin
    _ = 1 * 2 ^ e := (one_mul _).symm
    _ ≤ k * 2 ^ e := by gcongr

end Denotes

theorem isFinite_half {x : Float} (h : x.isFinite) : (x / 2.0).isFinite := by
  have hx := denotes_of_isFinite h
  have hle := hx.abs_nearest_half_le h
  have hpos := abs_nonneg (nearest (valueOf x / 2))
  exact (hx.half h).isFinite_of_abs_le (by linarith)

theorem isFinite_toFloat (n : UInt64) : n.toFloat.isFinite := by
  refine (denotes_toFloat n).isFinite_of_abs_le (abs_nearest_le_greatest ?_)
  rw [Nat.abs_cast]
  exact natCast_le_greatest n.toNat_lt

end Calculator.Double
