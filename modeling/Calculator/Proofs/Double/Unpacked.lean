import Mathlib
import Calculator.Proofs.Double.Rounding

/-!
# Unpacked doubles

The logical model of doubles computes on unpacked ones: a sign, a mantissa and an exponent, or one
of the special values. Here the parts of that model get their meaning in rational numbers.

**Value.** `value` is the number that an unpacked double stands for. A mantissa and an exponent are
canonical if the mantissa has 53 bits, or fewer on the finest grid.

**Accuracy.** The model keeps of an inexact mantissa how the rest compares to one half;
`Approximates` is what that tells of the exact number. Shifting keeps it true.

Main result: `rounds_roundWithAccuracy`, by which the model rounds to nearest.
-/

namespace Calculator.Double

open Float.Model (Format UnpackedFloat totalExponent)
open Float.Model.UnpackedFloat

/-! ## Values -/

/-- A magnitude with a sign. -/
def signed : Sign → ℚ → ℚ
  | .negative, v => -v
  | .positive, v => v

@[simp] theorem signed_zero (s : Sign) : signed s 0 = 0 := by
  cases s <;> simp [signed]

theorem nearest_signed (s : Sign) (q : ℚ) : nearest (signed s q) = signed s (nearest q) := by
  cases s <;> simp [signed]

/-- The number that an unpacked double stands for; 0 if it is not a number. -/
def value : UnpackedFloat → ℚ
  | .notANumber => 0
  | .infinity s => signed s infinity
  | .zero _ => 0
  | .finite s m e _ => signed s (m * 2 ^ e)

@[simp] theorem value_zero (s : Sign) : value (.zero s) = 0 := rfl

/-- The mantissa and the exponent are those of a double, were there no greatest exponent. -/
structure Canonical (m : ℕ) (e : ℤ) : Prop where
  lt : m < 2 ^ 53
  le : -1074 ≤ e
  normal : 2 ^ 52 ≤ m ∨ e = -1074

/-- The unpacked doubles that come from packed ones. -/
def IsDouble : UnpackedFloat → Prop
  | .finite _ m e _ => Canonical m e ∧ e ≤ 971
  | _ => True

/-! ## Accuracy -/

/-- What a mantissa and its accuracy tell of the exact number. -/
def Approximates (m : ℕ) : Accuracy → ℚ → Prop
  | .exact, x => x = m
  | .inexact .lt, x => m < x ∧ x < m + 1 / 2
  | .inexact .eq, x => x = m + 1 / 2
  | .inexact .gt, x => m + 1 / 2 < x ∧ x < m + 1

theorem Approximates.le {m : ℕ} {a : Accuracy} {x : ℚ} (h : Approximates m a x) : m ≤ x := by
  rcases a with _ | _ | _ | _ <;> simp only [Approximates] at h <;> linarith

theorem Approximates.lt {m : ℕ} {a : Accuracy} {x : ℚ} (h : Approximates m a x) : x < m + 1 := by
  rcases a with _ | _ | _ | _ <;> simp only [Approximates] at h <;> linarith

/-- The accuracy is all that rounding needs. -/
theorem Approximates.roundToNearestEven {m : ℕ} {a : Accuracy} {x : ℚ} (h : Approximates m a x) :
    a.roundToNearestEven m = roundEven x := by
  have hfloor : ⌊x⌋₊ = m :=
    (Nat.floor_eq_iff ((Nat.cast_nonneg m).trans h.le)).mpr ⟨h.le, h.lt⟩
  unfold roundEven
  rw [hfloor]
  rcases a with _ | _ | _ | _ <;> simp only [Approximates] at h
  case exact => rw [if_pos (by linarith)]; rfl
  case inexact.lt => rw [if_pos (by linarith)]; rfl
  case inexact.eq => rw [if_neg (by linarith), if_neg (by linarith)]; rfl
  case inexact.gt => rw [if_neg (by linarith), if_pos (by linarith)]; rfl

/-- What a mantissa with its residual bits tells of the exact number. -/
def Extends (em : ExtendedMantissa) (x : ℚ) : Prop := Approximates em.mantissa em.accuracy x

theorem extends_ofMantissaAndAccuracy {m : ℕ} {a : Accuracy} {x : ℚ} (h : Approximates m a x) :
    Extends (.ofMantissaAndAccuracy m a) x := by
  rcases a with _ | _ | _ | _ <;> exact h

/-- The round bit is worth one half; the sticky bit tells whether anything is left beyond it. -/
theorem extends_iff {m : ℕ} {r s : Bool} {x : ℚ} : Extends ⟨m, r, s⟩ x ↔
    if s then m + r.toNat / 2 < x ∧ x < m + r.toNat / 2 + 1 / 2 else x = m + r.toNat / 2 := by
  have hunit : (m : ℚ) + 1 / 2 + 1 / 2 = m + 1 := by ring
  cases r <;> cases s <;>
    simp only [Extends, ExtendedMantissa.accuracy, Approximates, Bool.toNat_false, Bool.toNat_true,
      Nat.cast_zero, Nat.cast_one, zero_div, add_zero, hunit, if_true, Bool.false_eq_true, if_false]

theorem Extends.shiftRightOne {em : ExtendedMantissa} {x : ℚ} (h : Extends em x) :
    Extends em.shiftRightOne (x / 2) := by
  obtain ⟨m, r, s⟩ := em
  have hbit : (m % 2 != 0).toNat = m % 2 := by
    rcases Nat.mod_two_eq_zero_or_one m with h0 | h0 <;> rw [h0] <;> rfl
  have hhalf : ((m / 2 : ℕ) : ℚ) + (m % 2 != 0).toNat / 2 = m / 2 := by
    have : (m : ℚ) = 2 * (m / 2 : ℕ) + (m % 2 : ℕ) := by exact_mod_cast (Nat.div_add_mod m 2).symm
    rw [hbit]
    linarith
  rw [extends_iff] at h
  change Extends ⟨m / 2, m % 2 != 0, r || s⟩ (x / 2)
  rw [extends_iff, hhalf]
  cases r <;> cases s <;>
    simp only [Bool.toNat_false, Bool.toNat_true, Nat.cast_zero, Nat.cast_one, zero_div, add_zero,
      Bool.or_self, Bool.or_true, Bool.or_false, if_true, Bool.false_eq_true, if_false] at h ⊢
  case false.false => rw [h]
  case false.true | true.true | true.false => constructor <;> linarith

theorem Extends.shiftRight {em : ExtendedMantissa} {x : ℚ} (h : Extends em x) (n : ℕ) :
    Extends (em >>> n) (x / 2 ^ n) := by
  induction n with
  | zero =>
    rw [pow_zero, div_one]
    exact h
  | succ n ih =>
    rw [pow_succ, ← div_div]
    exact ih.shiftRightOne

theorem Extends.roundedMantissa {em : ExtendedMantissa} {x : ℚ} (h : Extends em x) :
    em.roundedMantissa = roundEven x :=
  Approximates.roundToNearestEven h

/-! ## Rounding -/

/-- The result of rounding a magnitude, before it is packed. -/
inductive Rounds (s : Sign) (q : ℚ) : UnpackedFloat → Prop
  | zero : nearestMagnitude q = 0 → Rounds s q (.zero s)
  | finite {m : ℕ} {e : ℤ} (hm : 0 < m) :
      Canonical m e → m * 2 ^ e = nearestMagnitude q → Rounds s q (.finite s m e hm)

theorem targetExponent_binary64 (t : ℤ) :
    Format.binary64.targetExponent t = max (t - 53) (-1074) :=
  rfl

theorem targetExponent_totalExponent (m : ℕ) (e : ℤ) :
    Format.binary64.targetExponent (totalExponent m e) = max (m.log2 + e - 52) (-1074) := by
  rw [targetExponent_binary64, totalExponent]
  omega

/-- A mantissa of 53 bits or fewer needs no shift. -/
theorem shiftToTargetExponent_of_lt {m : ℕ} {e : ℤ} (hm : m < 2 ^ 53) (he : -1074 ≤ e) :
    shiftToTargetExponent .binary64 m e .exact = (⟨m, false, false⟩, e) := by
  have hlog : m.log2 < 53 := by
    rcases eq_or_ne m 0 with rfl | hne
    · simp
    · exact (Nat.log2_lt hne).mpr hm
  have hshift : (Format.binary64.targetExponent (totalExponent m e) - e).toNat = 0 := by
    rw [targetExponent_totalExponent]
    omega
  unfold shiftToTargetExponent shiftToExponent
  simp only [hshift, Nat.cast_zero, add_zero]
  rfl

/-- A mantissa that has just grown out of 53 bits is shifted by one. -/
theorem shiftToTargetExponent_carry {e : ℤ} (he : -1074 ≤ e) :
    shiftToTargetExponent .binary64 (2 ^ 53) e .exact = (⟨2 ^ 52, false, false⟩, e + 1) := by
  have hshift : (Format.binary64.targetExponent (totalExponent (2 ^ 53) e) - e).toNat = 1 := by
    rw [targetExponent_totalExponent, Nat.log2_two_pow]
    omega
  unfold shiftToTargetExponent shiftToExponent
  simp only [hshift, Nat.cast_one]
  rfl

theorem Approximates.log_eq {m : ℕ} {a : Accuracy} {x : ℚ} (h : Approximates m a x) (hm : 0 < m)
    (e : ℤ) : Int.log 2 (x * 2 ^ e) = m.log2 + e := by
  have hlow : (2 : ℚ) ^ (m.log2 : ℤ) ≤ x := by
    rw [zpow_natCast]
    exact le_trans (by exact_mod_cast Nat.log2_self_le hm.ne') h.le
  have hhigh : x < 2 ^ (m.log2 + 1 : ℤ) := by
    have : m + 1 ≤ 2 ^ (m.log2 + 1) := Nat.lt_log2_self
    exact h.lt.trans_le (by exact_mod_cast this)
  have hx : 0 < x := lt_of_lt_of_le (by positivity) hlow
  have hq : 0 < x * 2 ^ e := by positivity
  apply le_antisymm
  · rw [← Int.lt_add_one_iff, ← Int.lt_zpow_iff_log_lt one_lt_two hq,
      show (m.log2 + e + 1 : ℤ) = (m.log2 + 1) + e by ring]
    push_cast
    rw [zpow_add₀ two_ne_zero]
    gcongr
  · rw [← Int.zpow_le_iff_le_log one_lt_two hq]
    push_cast
    rw [zpow_add₀ two_ne_zero]
    gcongr

/-- The target exponent of a mantissa is the grid of the number that it approximates. -/
theorem Approximates.targetExponent_eq {m : ℕ} {a : Accuracy} {x : ℚ} (h : Approximates m a x)
    (hm : 0 < m) (e : ℤ) :
    Format.binary64.targetExponent (totalExponent m e) = grid (x * 2 ^ e) := by
  rw [targetExponent_totalExponent, grid, h.log_eq hm]

/-- So it is where nothing is left of the mantissa, if its exponent is fine enough. -/
theorem Approximates.targetExponent_eq_of_le {m : ℕ} {a : Accuracy} {x : ℚ} {e : ℤ}
    (h : Approximates m a x) (hx : 0 < x) (he : e ≤ grid (x * 2 ^ e)) :
    Format.binary64.targetExponent (totalExponent m e) = grid (x * 2 ^ e) := by
  rcases Nat.eq_zero_or_pos m with rfl | hm
  · have hlog : Int.log 2 (x * 2 ^ e) < e := by
      rw [← Int.lt_zpow_iff_log_lt one_lt_two (by positivity)]
      have := h.lt
      push_cast at this ⊢
      exact mul_lt_of_lt_one_left (by positivity) (by linarith)
    rw [targetExponent_totalExponent, Nat.log2_zero]
    unfold grid at he ⊢
    omega
  · exact h.targetExponent_eq hm e

/-- The model rounds to nearest, given a mantissa on a grid that is fine enough. -/
theorem rounds_roundWithAccuracy {m : ℕ} {a : Accuracy} {x : ℚ} {e : ℤ} (s : Sign) (hx : 0 < x)
    (h : Approximates m a x) (he : e ≤ grid (x * 2 ^ e)) :
    Rounds s (x * 2 ^ e) (roundWithAccuracy .binary64 s m e a) := by
  have hmin : -1074 ≤ grid (x * 2 ^ e) := le_max_right _ _
  have hnormal := le_mantissa (show 0 < x * 2 ^ e by positivity)
  have hexponent : e + ((grid (x * 2 ^ e) - e).toNat : ℤ) = grid (x * 2 ^ e) := by omega
  have hshift : shiftToTargetExponent .binary64 m e a =
      (ExtendedMantissa.ofMantissaAndAccuracy m a >>> (grid (x * 2 ^ e) - e).toNat,
        grid (x * 2 ^ e)) := by
    unfold shiftToTargetExponent shiftToExponent
    simp only [h.targetExponent_eq_of_le hx he, hexponent]
  have hrounded : (ExtendedMantissa.ofMantissaAndAccuracy m a >>>
      (grid (x * 2 ^ e) - e).toNat).roundedMantissa = mantissa (x * 2 ^ e) := by
    rw [((extends_ofMantissaAndAccuracy h).shiftRight _).roundedMantissa, mantissa]
    congr 1
    rw [← zpow_natCast, Int.toNat_of_nonneg (by omega), zpow_sub₀ two_ne_zero]
    field_simp
  unfold roundWithAccuracy
  simp only [hshift, hrounded]
  rcases (mantissa (x * 2 ^ e)).eq_zero_or_pos with hzero | hpos
  · simp only [hzero, shiftToTargetExponent_of_lt (m := 0) (by norm_num) hmin, dite_true]
    exact .zero (by simp [nearestMagnitude, hzero])
  rcases (mantissa_le (x * 2 ^ e)).lt_or_eq with hlt | hcarry
  · simp only [shiftToTargetExponent_of_lt hlt hmin, dif_neg hpos.ne']
    exact .finite hpos ⟨hlt, hmin, hnormal⟩ rfl
  · simp only [hcarry, shiftToTargetExponent_carry hmin]
    refine .finite (by norm_num) ⟨by norm_num, by omega, .inl le_rfl⟩ ?_
    rw [nearestMagnitude, hcarry, zpow_add_one₀ two_ne_zero]
    push_cast
    ring

end Calculator.Double
