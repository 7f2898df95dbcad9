import Mathlib.Algebra.Order.Field.Power
import Mathlib.Data.Int.Log
import Mathlib.Data.Rat.Floor
import Mathlib.Order.Monotone.Odd
import Mathlib.Tactic.GCongr
import Mathlib.Tactic.Linarith
import Mathlib.Tactic.NormNum
import Mathlib.Tactic.Positivity
import Mathlib.Tactic.Ring

/-!
# Rounding to doubles

Binary64 arithmetic is exact arithmetic on rational numbers followed by rounding to the nearest
double, of two equally near ones to that with the even mantissa.

**The grid.** The doubles near a number are the multiples of a power of two that leaves 53 bits to
the mantissa and is never finer than 2 ^ -1074; `grid` is its exponent.

**Overflow.** A number that rounds to 2 ^ 1024 or more becomes infinite. An infinity counts as
2 ^ 1025 here, with its sign. That is so far out that it stays an infinity, rounded again, when a
finite double is added to it or when it is doubled; no law has to treat infinities apart.

Main results: rounding keeps the order (`nearest_mono`) and changes no double
(`nearest_intCast_mul_two_zpow`).
-/

namespace Calculator.Double

/-! ## Rounding to whole numbers -/

/-- The natural number nearest to a number that is not negative, of two the even one. -/
def roundEven (x : ℚ) : ℕ :=
  if x - ⌊x⌋₊ < 1 / 2 then ⌊x⌋₊
  else if 1 / 2 < x - ⌊x⌋₊ then ⌊x⌋₊ + 1
  else ⌊x⌋₊ + ⌊x⌋₊ % 2

@[simp] theorem roundEven_natCast (n : ℕ) : roundEven n = n := by
  simp [roundEven]

theorem floor_le_roundEven (x : ℚ) : ⌊x⌋₊ ≤ roundEven x := by
  unfold roundEven
  split_ifs <;> omega

theorem roundEven_le_floor_succ (x : ℚ) : roundEven x ≤ ⌊x⌋₊ + 1 := by
  unfold roundEven
  split_ifs <;> omega

theorem roundEven_mono {x y : ℚ} (h : x ≤ y) : roundEven x ≤ roundEven y := by
  rcases (Nat.floor_mono h).eq_or_lt with hf | hf
  · -- Within one unit the three cases come in the order of the distance from the floor.
    unfold roundEven
    rw [hf]
    split_ifs <;> first | omega | (exfalso; linarith)
  · calc roundEven x ≤ ⌊x⌋₊ + 1 := roundEven_le_floor_succ x
      _ ≤ ⌊y⌋₊ := hf
      _ ≤ roundEven y := floor_le_roundEven y

theorem le_roundEven {x : ℚ} {n : ℕ} (h : n ≤ x) : n ≤ roundEven x := by
  simpa using roundEven_mono h

theorem roundEven_le {x : ℚ} {n : ℕ} (h : x ≤ n) : roundEven x ≤ n := by
  simpa using roundEven_mono h

/-! ## The grid of a number -/

/-- The exponent of the last place of the doubles near a positive number. -/
def grid (q : ℚ) : ℤ := max (Int.log 2 q - 52) (-1074)

theorem grid_mono {p q : ℚ} (hp : 0 < p) (h : p ≤ q) : grid p ≤ grid q :=
  max_le_max_right _ (sub_le_sub_right (Int.log_mono_right hp h) _)

theorem lt_two_zpow_grid (q : ℚ) : q < 2 ^ (grid q + 53) := by
  have hlog : q < (2 : ℚ) ^ (Int.log 2 q + 1) := by
    exact_mod_cast Int.lt_zpow_succ_log_self one_lt_two q
  refine hlog.trans_le (zpow_le_zpow_right₀ one_le_two ?_)
  unfold grid
  omega

/-- A grid coarser than the finest is the coarsest that leaves 53 bits to the mantissa. -/
theorem two_zpow_grid_le {q : ℚ} (hq : 0 < q) (h : -1074 < grid q) : 2 ^ (grid q + 52) ≤ q := by
  have hlog : (2 : ℚ) ^ Int.log 2 q ≤ q := by
    exact_mod_cast Int.zpow_log_le_self one_lt_two hq
  have hgrid : grid q + 52 = Int.log 2 q := by
    unfold grid at h ⊢
    omega
  rwa [hgrid]

/-- The exponent of a double is on the grid of its value, or coarser. -/
theorem grid_le_of_lt {q : ℚ} {e : ℤ} (hq : 0 < q) (he : -1074 ≤ e) (h : q < 2 ^ (e + 53)) :
    grid q ≤ e := by
  have hlog : Int.log 2 q < e + 53 := by
    rw [← Int.lt_zpow_iff_log_lt one_lt_two hq]
    exact_mod_cast h
  unfold grid
  omega

/-- A number on a grid is on every finer one. -/
theorem natCast_mul_two_zpow {g e : ℤ} (h : g ≤ e) (m : ℕ) :
    (m : ℚ) * 2 ^ e = (m * 2 ^ (e - g).toNat : ℕ) * 2 ^ g := by
  have he : e = ((e - g).toNat : ℤ) + g := by omega
  conv_lhs => rw [he, zpow_add₀ two_ne_zero, zpow_natCast]
  push_cast
  ring

/-- A number that is not negative, rounded and counted in units of its last place. -/
def mantissa (q : ℚ) : ℕ := roundEven (q / 2 ^ grid q)

theorem mantissa_le (q : ℚ) : mantissa q ≤ 2 ^ 53 := by
  refine roundEven_le ((div_le_iff₀ (by positivity)).mpr ?_)
  have := lt_two_zpow_grid q
  rw [zpow_add₀ two_ne_zero, mul_comm] at this
  exact_mod_cast this.le

theorem le_mantissa {q : ℚ} (hq : 0 < q) : 2 ^ 52 ≤ mantissa q ∨ grid q = -1074 := by
  rcases (le_max_right _ _ : -1074 ≤ grid q).lt_or_eq with h | h
  · left
    refine le_roundEven ((le_div_iff₀ (by positivity)).mpr ?_)
    have := two_zpow_grid_le hq h
    rw [zpow_add₀ two_ne_zero, mul_comm] at this
    exact_mod_cast this
  · exact .inr h.symm

/-! ## Rounding without overflow -/

/-- The nearest double to a number that is not negative, if exponents had no upper bound. -/
def nearestMagnitude (q : ℚ) : ℚ := mantissa q * 2 ^ grid q

@[simp] theorem nearestMagnitude_zero : nearestMagnitude 0 = 0 := by
  have h : roundEven 0 = 0 := by exact_mod_cast roundEven_natCast 0
  simp [nearestMagnitude, mantissa, h]

theorem nearestMagnitude_nonneg (q : ℚ) : 0 ≤ nearestMagnitude q := by
  unfold nearestMagnitude
  positivity

/-- A bound on the grid of a number bounds its rounding too. -/
theorem nearestMagnitude_le {q : ℚ} {m : ℕ} {e : ℤ} (he : grid q ≤ e) (h : q ≤ m * 2 ^ e) :
    nearestMagnitude q ≤ m * 2 ^ e := by
  rw [natCast_mul_two_zpow he] at h ⊢
  unfold nearestMagnitude mantissa
  gcongr
  exact roundEven_le ((div_le_iff₀ (by positivity)).mpr h)

theorem le_nearestMagnitude {q : ℚ} {m : ℕ} {e : ℤ} (he : grid q ≤ e) (h : m * 2 ^ e ≤ q) :
    m * 2 ^ e ≤ nearestMagnitude q := by
  rw [natCast_mul_two_zpow he] at h ⊢
  unfold nearestMagnitude mantissa
  gcongr
  exact le_roundEven ((le_div_iff₀ (by positivity)).mpr h)

theorem nearestMagnitude_mono {p q : ℚ} (hp : 0 ≤ p) (h : p ≤ q) :
    nearestMagnitude p ≤ nearestMagnitude q := by
  rcases hp.eq_or_lt with rfl | hp
  · simpa using nearestMagnitude_nonneg q
  rcases (grid_mono hp h).eq_or_lt with hg | hg
  · unfold nearestMagnitude mantissa
    rw [hg]
    gcongr
    exact roundEven_mono (by gcongr)
  · -- A power of two lies between numbers with different grids, and it is on both.
    have hmin : -1074 ≤ grid p := le_max_right _ _
    have hlow : p ≤ (1 : ℕ) * 2 ^ (grid q + 52) := by
      rw [Nat.cast_one, one_mul]
      exact (lt_two_zpow_grid p).le.trans (zpow_le_zpow_right₀ one_le_two (by omega))
    have hhigh : (1 : ℕ) * 2 ^ (grid q + 52) ≤ q := by
      rw [Nat.cast_one, one_mul]
      exact two_zpow_grid_le (hp.trans_le h) (by omega)
    calc nearestMagnitude p ≤ (1 : ℕ) * 2 ^ (grid q + 52) := nearestMagnitude_le (by omega) hlow
      _ ≤ nearestMagnitude q := le_nearestMagnitude (by omega) hhigh

theorem natCast_mul_two_zpow_lt {m : ℕ} (hm : m < 2 ^ 53) (e : ℤ) :
    (m : ℚ) * 2 ^ e < 2 ^ (e + 53) := by
  rw [zpow_add₀ two_ne_zero, mul_comm]
  gcongr
  exact_mod_cast hm

theorem nearestMagnitude_natCast_mul_two_zpow {m : ℕ} {e : ℤ} (hm : m < 2 ^ 53) (he : -1074 ≤ e) :
    nearestMagnitude (m * 2 ^ e) = m * 2 ^ e := by
  rcases Nat.eq_zero_or_pos m with rfl | hpos
  · simp
  have hgrid : grid ((m : ℚ) * 2 ^ e) ≤ e :=
    grid_le_of_lt (by positivity) he (natCast_mul_two_zpow_lt hm e)
  exact le_antisymm (nearestMagnitude_le hgrid le_rfl) (le_nearestMagnitude hgrid le_rfl)

/-! ## Rounding with overflow -/

/-- The least power of two that no finite double reaches. -/
@[irreducible] def limit : ℚ := 2 ^ (1024 : ℤ)

/-- The value that stands for an infinity. -/
@[irreducible] def infinity : ℚ := 2 ^ (1025 : ℤ)

theorem limit_pos : 0 < limit := by
  unfold limit
  exact zpow_pos two_pos _

theorem infinity_eq : infinity = 2 * limit := by
  unfold infinity limit
  rw [show (1025 : ℤ) = 1 + 1024 by norm_num, zpow_add₀ two_ne_zero, zpow_one]

theorem limit_lt_infinity : limit < infinity := by
  rw [infinity_eq]
  linarith [limit_pos]

/-- A magnitude too great for a finite double is infinite. -/
def overflow (v : ℚ) : ℚ := if v < limit then v else infinity

theorem overflow_of_lt {v : ℚ} (h : v < limit) : overflow v = v := if_pos h

theorem overflow_of_le {v : ℚ} (h : limit ≤ v) : overflow v = infinity := if_neg h.not_gt

@[simp] theorem overflow_zero : overflow 0 = 0 := overflow_of_lt limit_pos

theorem overflow_mono {v w : ℚ} (h : v ≤ w) : overflow v ≤ overflow w := by
  have := limit_lt_infinity
  unfold overflow
  split_ifs <;> linarith

/-- The value of the nearest double, which may be infinite. -/
def nearest (q : ℚ) : ℚ :=
  if 0 ≤ q then overflow (nearestMagnitude q) else -overflow (nearestMagnitude (-q))

theorem nearest_of_nonneg {q : ℚ} (h : 0 ≤ q) : nearest q = overflow (nearestMagnitude q) :=
  if_pos h

@[simp] theorem nearest_zero : nearest 0 = 0 := by simp [nearest]

@[simp] theorem nearest_neg (q : ℚ) : nearest (-q) = -nearest q := by
  unfold nearest
  rcases lt_trichotomy q 0 with h | rfl | h
  · rw [if_pos (by linarith), if_neg (by linarith), neg_neg]
  · simp
  · rw [if_neg (by linarith), if_pos h.le, neg_neg]

theorem nearest_mono : Monotone nearest := by
  refine monotone_of_odd_of_monotoneOn_nonneg nearest_neg fun p hp q _ h => ?_
  rw [nearest_of_nonneg hp, nearest_of_nonneg (le_trans hp h)]
  exact overflow_mono (nearestMagnitude_mono hp h)

theorem nearest_nonneg {q : ℚ} (h : 0 ≤ q) : 0 ≤ nearest q := by
  simpa using nearest_mono h

/-- What is not below the limit overflows. -/
theorem nearest_of_limit_le {q : ℚ} (h : limit ≤ q) : nearest q = infinity := by
  have hq : 0 ≤ q := limit_pos.le.trans h
  rw [nearest_of_nonneg hq, overflow_of_le]
  have hlimit : nearestMagnitude limit = limit := by
    simpa [limit] using nearestMagnitude_natCast_mul_two_zpow (m := 1) (e := 1024) (by norm_num)
      (by norm_num)
  calc limit = nearestMagnitude limit := hlimit.symm
    _ ≤ nearestMagnitude q := nearestMagnitude_mono limit_pos.le h

theorem abs_nearest (q : ℚ) : |nearest q| = nearest |q| := by
  rcases le_total 0 q with h | h
  · rw [abs_of_nonneg h, abs_of_nonneg (nearest_nonneg h)]
  · have hneg : 0 ≤ -nearest q := by
      rw [← nearest_neg]
      exact nearest_nonneg (by linarith)
    rw [abs_of_nonpos h, abs_of_nonpos (by linarith), nearest_neg]

/-! ## Doubles are their own nearest -/

theorem natCast_mul_two_zpow_lt_limit {m : ℕ} {e : ℤ} (hm : m < 2 ^ 53) (he : e ≤ 971) :
    (m : ℚ) * 2 ^ e < limit := by
  unfold limit
  exact (natCast_mul_two_zpow_lt hm e).trans_le (zpow_le_zpow_right₀ one_le_two (by omega))

/-- The greatest finite double. -/
@[irreducible] def greatest : ℚ := (2 ^ 53 - 1 : ℕ) * 2 ^ (971 : ℤ)

theorem greatest_lt_limit : greatest < limit := by
  unfold greatest
  exact natCast_mul_two_zpow_lt_limit (by norm_num) le_rfl

theorem nearest_natCast_mul_two_zpow {m : ℕ} {e : ℤ} (hm : m < 2 ^ 53) (he : -1074 ≤ e)
    (he' : e ≤ 971) : nearest (m * 2 ^ e) = m * 2 ^ e := by
  rw [nearest_of_nonneg (by positivity), nearestMagnitude_natCast_mul_two_zpow hm he,
    overflow_of_lt (natCast_mul_two_zpow_lt_limit hm he')]

theorem nearest_greatest : nearest greatest = greatest := by
  unfold greatest
  exact nearest_natCast_mul_two_zpow (by norm_num) (by norm_num) le_rfl

theorem nearest_greatest_half : nearest (greatest / 2) = greatest / 2 := by
  have h : greatest / 2 = (2 ^ 53 - 1 : ℕ) * 2 ^ (970 : ℤ) := by
    unfold greatest
    rw [show (971 : ℤ) = 970 + 1 by norm_num, zpow_add_one₀ two_ne_zero]
    ring
  rw [h]
  exact nearest_natCast_mul_two_zpow (by norm_num) (by norm_num) (by norm_num)

theorem abs_nearest_le_greatest {q : ℚ} (h : |q| ≤ greatest) : |nearest q| ≤ greatest := by
  rw [abs_nearest, ← nearest_greatest]
  exact nearest_mono h

/-- No word is too great for a finite double. -/
theorem natCast_le_greatest {n : ℕ} (h : n < 2 ^ 64) : (n : ℚ) ≤ greatest := by
  unfold greatest
  calc (n : ℚ) ≤ (1 : ℕ) * 2 ^ (64 : ℤ) := by
        norm_num
        exact_mod_cast h.le
    _ ≤ (2 ^ 53 - 1 : ℕ) * 2 ^ (971 : ℤ) := by
      gcongr
      · norm_num
      · exact one_le_two
      · norm_num

theorem one_le_nearest {n : ℕ} (h : 0 < n) : 1 ≤ nearest n := by
  have hone : nearest 1 = 1 := by
    simpa using nearest_natCast_mul_two_zpow (m := 1) (e := 0) (by norm_num) (by norm_num)
      (by norm_num)
  rw [← hone]
  exact nearest_mono (by exact_mod_cast h)

theorem nearest_intCast_mul_two_zpow {k e : ℤ} (hk : |k| < 2 ^ 53) (he : -1074 ≤ e)
    (he' : e ≤ 971) : nearest (k * 2 ^ e) = k * 2 ^ e := by
  obtain ⟨m, rfl | rfl⟩ := k.eq_nat_or_neg
  · simp only [Nat.abs_cast] at hk
    exact nearest_natCast_mul_two_zpow (by exact_mod_cast hk) he he'
  · simp only [abs_neg, Nat.abs_cast] at hk
    rw [Int.cast_neg, Int.cast_natCast, neg_mul, nearest_neg,
      nearest_natCast_mul_two_zpow (by exact_mod_cast hk) he he']

/-- The least positive double. -/
@[irreducible] def tiny : ℚ := 2 ^ (-1074 : ℤ)

theorem tiny_pos : 0 < tiny := by
  unfold tiny
  positivity

theorem nearest_intCast_mul_tiny {k : ℤ} (hk : |k| < 2 ^ 53) : nearest (k * tiny) = k * tiny := by
  unfold tiny
  exact nearest_intCast_mul_two_zpow hk le_rfl (by norm_num)

theorem nearest_intCast_mul_tiny_two {k : ℤ} (hk : |k| < 2 ^ 53) :
    nearest (k * tiny * 2) = k * tiny * 2 := by
  have h : k * tiny * 2 = k * 2 ^ (-1073 : ℤ) := by
    unfold tiny
    rw [show (-1073 : ℤ) = -1074 + 1 by norm_num, zpow_add_one₀ two_ne_zero, mul_assoc]
  rw [h]
  exact nearest_intCast_mul_two_zpow hk (by norm_num) (by norm_num)

/-- Halving a subnormal may lose half a unit; the least step before doubling makes up for it. -/
theorem le_nearest_doubled {k : ℤ} (hk : |k| < 2 ^ 53) {p : ℚ} (hp : tiny ≤ p) :
    k * tiny ≤ nearest (nearest (nearest (k * tiny / 2) + p) * 2) := by
  have hbound := abs_lt.mp hk
  have hfloor : |k / 2| < 2 ^ 53 := abs_lt.mpr (by omega)
  have hnext : |k / 2 + 1| < 2 ^ 53 := abs_lt.mpr (by omega)
  have hlow : ((k / 2 : ℤ) : ℚ) * 2 ≤ k := by exact_mod_cast Int.ediv_mul_le k two_ne_zero
  have hhigh : (k : ℚ) ≤ ((k / 2 + 1 : ℤ) : ℚ) * 2 := by
    have : k ≤ (k / 2 + 1) * 2 := by omega
    exact_mod_cast this
  have hhalf : ((k / 2 : ℤ) : ℚ) * tiny ≤ nearest (k * tiny / 2) := by
    rw [← nearest_intCast_mul_tiny hfloor]
    exact nearest_mono (by linarith [mul_le_mul_of_nonneg_right hlow tiny_pos.le])
  have hsum : ((k / 2 + 1 : ℤ) : ℚ) * tiny ≤ nearest (nearest (k * tiny / 2) + p) := by
    rw [← nearest_intCast_mul_tiny hnext]
    refine nearest_mono ?_
    push_cast
    linarith
  calc k * tiny ≤ (k / 2 + 1 : ℤ) * 2 * tiny := mul_le_mul_of_nonneg_right hhigh tiny_pos.le
    _ = (k / 2 + 1 : ℤ) * tiny * 2 := by ring
    _ = nearest ((k / 2 + 1 : ℤ) * tiny * 2) := (nearest_intCast_mul_tiny_two hnext).symm
    _ ≤ nearest (nearest (nearest (k * tiny / 2) + p) * 2) :=
      nearest_mono (mul_le_mul_of_nonneg_right hsum zero_le_two)

end Calculator.Double
