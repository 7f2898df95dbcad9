import Calculator.Proofs.Double.Packing

/-!
# Operations on unpacked doubles

Each operation of the model, once packed, gives the nearest double to the exact result. Sums and
differences align two mantissas and round the sum; products and quotients round the product or the
quotient of two mantissas.

Main results: `packs_add`, `packs_sub`, `packs_mul`, `packs_div`, and `compares_compare` for the
order.
-/

namespace Calculator.Double

open Float.Model (Format UnpackedFloat totalExponent)
open Float.Model.UnpackedFloat

/-! ## Finite doubles and infinities -/

theorem abs_signed (s : Sign) (v : ℚ) : |signed s v| = |v| := by
  cases s <;> simp [signed]

/-- The finite doubles are those below the limit. -/
theorem isFinite_iff {f : UnpackedFloat} (h : IsDouble f) (hnan : f.isNaN = false) :
    f.isFinite ↔ |value f| < limit := by
  have hlimit := limit_pos
  cases f with
  | notANumber => contradiction
  | infinity s =>
    have hinf := limit_lt_infinity
    have hvalue : |value (.infinity s)| = infinity := by
      rw [value, abs_signed, abs_of_pos (hlimit.trans hinf)]
    rw [hvalue]
    exact iff_of_false Bool.false_ne_true hinf.not_gt
  | zero s => simpa [value, UnpackedFloat.isFinite] using hlimit
  | finite s m e hm =>
    rw [value, abs_signed, abs_of_pos (by positivity)]
    exact iff_of_true rfl (natCast_mul_two_zpow_lt_limit h.1.lt h.2)

theorem isNaN_eq_false {f : UnpackedFloat} (h : f.isFinite) : f.isNaN = false := by
  cases f <;> first | rfl | contradiction

theorem exists_eq_infinity {f : UnpackedFloat} (hnan : f.isNaN = false) (hfin : ¬ f.isFinite) :
    ∃ s, f = .infinity s := by
  cases f with
  | notANumber => contradiction
  | infinity s => exact ⟨s, rfl⟩
  | zero s => exact absurd rfl hfin
  | finite s m e hm => exact absurd rfl hfin

theorem abs_value_lt {f : UnpackedFloat} (h : IsDouble f) (hf : f.isFinite) : |value f| < limit :=
  (isFinite_iff h (isNaN_eq_false hf)).mp hf

/-- The finite doubles are multiples of powers of two. -/
theorem exists_value_eq_mul {f : UnpackedFloat} (h : IsDouble f) (hf : f.isFinite) :
    ∃ k e : ℤ, |k| < 2 ^ 53 ∧ -1074 ≤ e ∧ e ≤ 971 ∧ value f = k * 2 ^ e := by
  cases f with
  | notANumber => contradiction
  | infinity s => contradiction
  | zero s => exact ⟨0, 0, by norm_num, by norm_num, by norm_num, by simp⟩
  | finite s m e hm =>
    have hlt : |(m : ℤ)| < 2 ^ 53 := by
      have := h.1.lt
      rw [Nat.abs_cast]
      exact_mod_cast this
    cases s with
    | negative => exact ⟨-m, e, by rwa [abs_neg], h.1.le, h.2, by simp [value, signed]⟩
    | positive => exact ⟨m, e, hlt, h.1.le, h.2, by simp [value, signed]⟩

/-! ## Rounding whole mantissas -/

theorem decreaseExponent_eq (m : ℕ) (e t : ℤ) :
    decreaseExponent m e t = (m * 2 ^ (e - min e t).toNat, min e t) := by
  have h : (e - t).toNat = (e - min e t).toNat := by omega
  unfold decreaseExponent
  simp only [Nat.shiftLeft_eq, h, Prod.mk.injEq, true_and]
  omega

theorem decreaseExponent_of_le (m : ℕ) {e t : ℤ} (h : t ≤ e) :
    decreaseExponent m e t = (m * 2 ^ (e - t).toNat, t) := by
  rw [decreaseExponent_eq, min_eq_right h]

theorem rounds_round (s : Sign) {m : ℕ} (hm : 0 < m) (e : ℤ) :
    Rounds s (m * 2 ^ e) (UnpackedFloat.round .binary64 s m e) := by
  unfold UnpackedFloat.round
  simp only [decreaseExponent_eq]
  have hexact : Approximates m .exact m := rfl
  have htarget := hexact.targetExponent_eq hm e
  generalize Format.binary64.targetExponent (totalExponent m e) = t at htarget ⊢
  rw [natCast_mul_two_zpow (min_le_left e t)] at htarget ⊢
  refine rounds_roundWithAccuracy s (by positivity) rfl ?_
  rw [← htarget]
  exact min_le_right e t

theorem packs_normalize (k e : ℤ) (s : Sign) :
    Packs (UnpackedFloat.normalize .binary64 k e s) (k * 2 ^ e) := by
  unfold UnpackedFloat.normalize
  rcases lt_trichotomy k 0 with hk | rfl | hk
  · obtain ⟨n, rfl⟩ := Int.exists_eq_neg_ofNat hk.le
    have hround := (rounds_round .negative (m := n) (by omega) e).packs (by positivity)
    rw [compare_lt_iff_lt.mpr hk]
    simpa [signed] using hround
  · simpa using packs_zero s
  · obtain ⟨n, rfl⟩ := Int.eq_ofNat_of_zero_le hk.le
    have hround := (rounds_round .positive (m := n) (by omega) e).packs (by positivity)
    rw [compare_gt_iff_gt.mpr hk]
    simpa [signed] using hround

/-! ## Sums and differences -/

/-- A finite double as a multiple of a smaller power of two. -/
theorem value_finite {g e : ℤ} (h : g ≤ e) (s : Sign) {m : ℕ} (hm : 0 < m) :
    value (.finite s m e hm) = (s.apply (m * 2 ^ (e - g).toNat : ℕ) : ℤ) * 2 ^ g := by
  rw [value, natCast_mul_two_zpow h]
  cases s <;> simp [signed, Sign.apply]

theorem packs_infinity_add (s : Sign) {q : ℚ} (h : |q| < limit) :
    Packs (.infinity s) (q + signed s infinity) := by
  have hq := abs_lt.mp h
  have hinf := infinity_eq
  cases s with
  | positive => exact packs_infinity .positive (q := q + infinity) (by linarith)
  | negative =>
    have hpacks := packs_infinity .negative (q := infinity - q) (by linarith)
    simpa [signed, sub_eq_add_neg, add_comm] using hpacks

theorem packs_add {a b : UnpackedFloat} (ha : IsDouble a) (hb : IsDouble b) (hfin : a.isFinite)
    (hnan : b.isNaN = false) : Packs (add .binary64 a b) (value a + value b) := by
  cases b with
  | notANumber => contradiction
  | infinity s =>
    have hadd : add .binary64 a (.infinity s) = .infinity s := by
      cases a <;> first | contradiction | rfl
    rw [hadd]
    exact packs_infinity_add s (abs_value_lt ha hfin)
  | zero s =>
    have hadd : Packs (add .binary64 a (.zero s)) (value a) := by
      cases a with
      | zero t => cases s <;> cases t <;> exact packs_zero _
      | finite => exact ha.packs rfl
      | _ => contradiction
    simpa using hadd
  | finite s₂ m₂ e₂ h₂ =>
    cases a with
    | zero t =>
      have hadd : add .binary64 (.zero t) (.finite s₂ m₂ e₂ h₂) = .finite s₂ m₂ e₂ h₂ := rfl
      rw [hadd, value_zero, zero_add]
      exact hb.packs rfl
    | finite s₁ m₁ e₁ h₁ =>
      simp only [value_finite (min_le_left e₁ e₂), value_finite (min_le_right e₁ e₂), ← add_mul,
        ← Int.cast_add, add, decreaseExponent_of_le _ (min_le_left e₁ e₂),
        decreaseExponent_of_le _ (min_le_right e₁ e₂)]
      exact packs_normalize _ _ _
    | _ => contradiction

theorem packs_sub {a b : UnpackedFloat} (ha : IsDouble a) (hb : IsDouble b) (hfa : a.isFinite)
    (hfb : b.isFinite) : Packs (sub .binary64 a b) (value a - value b) := by
  cases b with
  | notANumber => contradiction
  | infinity s => contradiction
  | zero s =>
    have hsub : Packs (sub .binary64 a (.zero s)) (value a) := by
      cases a with
      | zero t => cases s <;> cases t <;> exact packs_zero _
      | finite => exact ha.packs rfl
      | _ => contradiction
    simpa using hsub
  | finite s₂ m₂ e₂ h₂ =>
    cases a with
    | zero t =>
      have hsub : sub .binary64 (.zero t) (.finite s₂ m₂ e₂ h₂) = .finite (-s₂) m₂ e₂ h₂ := rfl
      have hneg : 0 - value (.finite s₂ m₂ e₂ h₂) = value (.finite (-s₂) m₂ e₂ h₂) := by
        cases s₂ <;> simp [value, signed]
      rw [hsub, value_zero, hneg]
      exact IsDouble.packs (f := .finite (-s₂) m₂ e₂ h₂) hb rfl
    | finite s₁ m₁ e₁ h₁ =>
      simp only [value_finite (min_le_left e₁ e₂), value_finite (min_le_right e₁ e₂), ← sub_mul,
        ← Int.cast_sub, sub, decreaseExponent_of_le _ (min_le_left e₁ e₂),
        decreaseExponent_of_le _ (min_le_right e₁ e₂)]
      exact packs_normalize _ _ _
    | _ => contradiction

/-! ## Products and quotients -/

theorem signed_mul (s t : Sign) (p q : ℚ) : signed (s * t) (p * q) = signed s p * signed t q := by
  cases s <;> cases t
  · exact (neg_mul_neg p q).symm
  · exact (neg_mul p q).symm
  · exact (mul_neg p q).symm
  · rfl

theorem signed_div (s t : Sign) (p q : ℚ) : signed (s / t) (p / q) = signed s p / signed t q := by
  cases s <;> cases t
  · exact (neg_div_neg_eq p q).symm
  · exact (neg_div q p).symm
  · exact (div_neg p).symm
  · rfl

/-- The product of two mantissas is long enough, but for two on the finest grid. -/
theorem le_grid_mul {m₁ m₂ : ℕ} {e₁ e₂ : ℤ} (h₁ : Canonical m₁ e₁) (h₂ : Canonical m₂ e₂)
    (hpos : 0 < m₁ * m₂) : e₁ + e₂ ≤ grid ((m₁ * m₂ : ℕ) * 2 ^ (e₁ + e₂)) := by
  have hexact : Approximates (m₁ * m₂) .exact (m₁ * m₂ : ℕ) := rfl
  have hlong (h : 2 ^ 52 ≤ m₁ * m₂) : 52 ≤ (m₁ * m₂).log2 := (Nat.le_log2 hpos.ne').mpr h
  rw [grid, hexact.log_eq hpos]
  rcases h₁.normal with hn | hn
  · have := hlong (hn.trans (Nat.le_mul_of_pos_right _ (Nat.pos_of_mul_pos_left hpos)))
    omega
  rcases h₂.normal with hn' | hn'
  · have := hlong (hn'.trans (Nat.le_mul_of_pos_left _ (Nat.pos_of_mul_pos_right hpos)))
    omega
  · omega

theorem packs_mul {a b : UnpackedFloat} (ha : IsDouble a) (hb : IsDouble b) (hfa : a.isFinite)
    (hfb : b.isFinite) : Packs (mul .binary64 a b) (value a * value b) := by
  cases a with
  | notANumber => contradiction
  | infinity s => contradiction
  | zero s =>
    rw [value_zero, zero_mul]
    cases b with
    | zero t => exact packs_zero (s * t)
    | finite t => exact packs_zero (s * t)
    | _ => contradiction
  | finite s m₁ e₁ h₁ =>
    cases b with
    | notANumber => contradiction
    | infinity t => contradiction
    | zero t =>
      rw [value_zero, mul_zero]
      exact packs_zero (s * t)
    | finite t m₂ e₂ h₂ =>
      have hpos : 0 < m₁ * m₂ := Nat.mul_pos h₁ h₂
      have hrounds := rounds_roundWithAccuracy (s * t) (a := .exact) (by positivity) rfl
        (le_grid_mul ha.1 hb.1 hpos)
      have hvalue : signed (s * t) ((m₁ * m₂ : ℕ) * 2 ^ (e₁ + e₂)) =
          value (.finite s m₁ e₁ h₁) * value (.finite t m₂ e₂ h₂) := by
        rw [value, value, ← signed_mul, zpow_add₀ two_ne_zero]
        push_cast
        congr 1
        ring
      rw [← hvalue]
      exact hrounds.packs (by positivity)

/-- The accuracy of a quotient rounded down tells what was cut off. -/
theorem approximates_div (m : ℕ) {n : ℕ} (hn : 0 < n) :
    Approximates (m / n) (accuracyOfFraction (m % n) n) (m / n) := by
  have hsplit : (m / n : ℚ) = (m / n : ℕ) + (m % n : ℕ) / n := by
    have : (m : ℚ) = n * (m / n : ℕ) + (m % n : ℕ) := by exact_mod_cast (Nat.div_add_mod m n).symm
    field_simp
    linarith
  have hlt : m % n < n := Nat.mod_lt m hn
  have hn' : (0 : ℚ) < n := by exact_mod_cast hn
  rw [hsplit]
  generalize m % n = r at hlt
  generalize m / n = k
  unfold accuracyOfFraction
  split_ifs with hr
  · simp [hr, Approximates]
  have hr' : (0 : ℚ) < r := by exact_mod_cast Nat.pos_of_ne_zero hr
  have hfrac : (r : ℚ) / n < 1 := (div_lt_one hn').mpr (by exact_mod_cast hlt)
  rcases lt_trichotomy (2 * r) n with h | h | h
  · have hhalf : (r : ℚ) / n < 1 / 2 := by
      have : (2 * r : ℚ) < n := by exact_mod_cast h
      rw [div_lt_iff₀ hn']
      linarith
    rw [compare_lt_iff_lt.mpr h]
    exact ⟨by linarith [div_pos hr' hn'], by linarith⟩
  · have hhalf : (r : ℚ) / n = 1 / 2 := by
      have : (2 * r : ℚ) = n := by exact_mod_cast h
      rw [div_eq_iff hn'.ne']
      linarith
    rw [compare_eq_iff_eq.mpr h]
    simp only [Approximates, hhalf]
  · have hhalf : 1 / 2 < (r : ℚ) / n := by
      have : (n : ℚ) < 2 * r := by exact_mod_cast h
      rw [lt_div_iff₀ hn']
      linarith
    rw [compare_gt_iff_gt.mpr h]
    exact ⟨by linarith, by linarith⟩

theorem log_sub_le_log_div {p q : ℚ} (hp : 0 < p) (hq : 0 < q) :
    Int.log 2 p - Int.log 2 q - 1 ≤ Int.log 2 (p / q) := by
  have hlow : (2 : ℚ) ^ Int.log 2 p ≤ p := by
    exact_mod_cast Int.zpow_log_le_self one_lt_two hp
  have hhigh : q < (2 : ℚ) ^ (Int.log 2 q + 1) := by
    exact_mod_cast Int.lt_zpow_succ_log_self one_lt_two q
  rw [← Int.zpow_le_iff_le_log one_lt_two (by positivity), le_div_iff₀ hq]
  push_cast
  calc (2 : ℚ) ^ (Int.log 2 p - Int.log 2 q - 1) * q
      ≤ 2 ^ (Int.log 2 p - Int.log 2 q - 1) * 2 ^ (Int.log 2 q + 1) := by gcongr
    _ = 2 ^ Int.log 2 p := by
      rw [← zpow_add₀ two_ne_zero]
      congr 1
      ring
    _ ≤ p := hlow

/-- What the quotient of two mantissas approximates. -/
theorem rounds_divCore (s : Sign) {m₁ m₂ : ℕ} {e₁ e₂ : ℤ} (h₁ : 0 < m₁) (h₂ : 0 < m₂) :
    Rounds s (m₁ * 2 ^ e₁ / (m₂ * 2 ^ e₂))
      (roundWithAccuracy .binary64 s (divCore .binary64 m₁ e₁ m₂ e₂).1
        (divCore .binary64 m₁ e₁ m₂ e₂).2.1 (divCore .binary64 m₁ e₁ m₂ e₂).2.2) := by
  unfold divCore
  generalize htarget : min (e₁ - e₂) (Format.binary64.targetExponent
    (totalExponent m₁ e₁ - totalExponent m₂ e₂)) = t
  simp only [Nat.shiftLeft_eq]
  generalize hm : m₁ * 2 ^ (e₁ - e₂ - t).toNat = m
  have hvalue : (m₁ * 2 ^ e₁ / (m₂ * 2 ^ e₂) : ℚ) = m / m₂ * 2 ^ t := by
    have hshift := natCast_mul_two_zpow (g := t) (e := e₁ - e₂) (by omega) m₁
    rw [hm, zpow_sub₀ two_ne_zero] at hshift
    rw [div_mul_eq_mul_div, ← hshift]
    field_simp
  have hlog : (m₁.log2 + e₁) - (m₂.log2 + e₂) - 1 ≤
      Int.log 2 (m₁ * 2 ^ e₁ / (m₂ * 2 ^ e₂) : ℚ) := by
    have hlog₁ := Approximates.log_eq (a := .exact) (x := m₁) rfl h₁ e₁
    have hlog₂ := Approximates.log_eq (a := .exact) (x := m₂) rfl h₂ e₂
    rw [← hlog₁, ← hlog₂]
    exact log_sub_le_log_div (by positivity) (by positivity)
  have hgrid : t ≤ grid (m / m₂ * 2 ^ t) := by
    rw [← hvalue, ← htarget, grid, targetExponent_binary64, totalExponent, totalExponent]
    omega
  have hpos : 0 < m := by
    rw [← hm]
    positivity
  rw [hvalue]
  exact rounds_roundWithAccuracy s (by positivity) (approximates_div m h₂) hgrid

theorem packs_infinity_mul {b : UnpackedFloat} (s : Sign) (hfb : b.isFinite)
    (h : 1 ≤ |value b|) :
    Packs (mul .binary64 (.infinity s) b) (value (.infinity s) * value b) := by
  cases b with
  | notANumber => contradiction
  | infinity t => contradiction
  | zero t => norm_num [value] at h
  | finite t m e hm =>
    rw [value, abs_signed, abs_of_pos (by positivity)] at h
    rw [value, value, ← signed_mul]
    refine packs_infinity (s * t) ?_
    calc limit ≤ infinity := limit_lt_infinity.le
      _ = infinity * 1 := (mul_one _).symm
      _ ≤ infinity * (m * 2 ^ e) := by
        gcongr
        exact (limit_pos.trans limit_lt_infinity).le

theorem packs_div {a b : UnpackedFloat} (ha : IsDouble a) (hb : IsDouble b) (hfa : a.isFinite)
    (hfb : b.isFinite) (hne : value b ≠ 0) : Packs (div .binary64 a b) (value a / value b) := by
  cases b with
  | notANumber => contradiction
  | infinity t => contradiction
  | zero t => contradiction
  | finite t m₂ e₂ h₂ =>
    cases a with
    | notANumber => contradiction
    | infinity s => contradiction
    | zero s =>
      rw [value_zero, zero_div]
      exact packs_zero (s / t)
    | finite s m₁ e₁ h₁ =>
      rw [value, value, ← signed_div]
      exact (rounds_divCore (s / t) h₁ h₂).packs (by positivity)

/-! ## Order -/

/-- Of two positive doubles the one with the greater exponent is greater. -/
theorem Canonical.mul_lt_mul {m₁ m₂ : ℕ} {e₁ e₂ : ℤ} (h₁ : Canonical m₁ e₁)
    (h₂ : Canonical m₂ e₂) (h : e₁ < e₂) : (m₁ * 2 ^ e₁ : ℚ) < m₂ * 2 ^ e₂ := by
  have hmin := h₁.le
  have hfull : 2 ^ 52 ≤ m₂ := h₂.normal.resolve_right (by omega)
  calc (m₁ * 2 ^ e₁ : ℚ) < 2 ^ (e₁ + 53) := natCast_mul_two_zpow_lt h₁.lt e₁
    _ ≤ 2 ^ (52 + e₂) := zpow_le_zpow_right₀ one_le_two (by omega)
    _ = 2 ^ (52 : ℤ) * 2 ^ e₂ := zpow_add₀ two_ne_zero _ _
    _ ≤ m₂ * 2 ^ e₂ := by
      gcongr
      exact_mod_cast hfull

theorem compares_magnitudes {m₁ m₂ : ℕ} {e₁ e₂ : ℤ} (h₁ : Canonical m₁ e₁)
    (h₂ : Canonical m₂ e₂) :
    ((compare e₁ e₂).then (compare m₁ m₂)).Compares (m₁ * 2 ^ e₁ : ℚ) (m₂ * 2 ^ e₂) := by
  rcases lt_trichotomy e₁ e₂ with he | rfl | he
  · rw [compare_lt_iff_lt.mpr he]
    exact h₁.mul_lt_mul h₂ he
  · rw [compare_eq_iff_eq.mpr rfl]
    rcases lt_trichotomy m₁ m₂ with hm | rfl | hm
    · rw [compare_lt_iff_lt.mpr hm]
      show (m₁ * 2 ^ e₁ : ℚ) < m₂ * 2 ^ e₁
      gcongr
    · rw [compare_eq_iff_eq.mpr rfl]
      rfl
    · rw [compare_gt_iff_gt.mpr hm]
      show (m₂ * 2 ^ e₁ : ℚ) < m₁ * 2 ^ e₁
      gcongr
  · rw [compare_gt_iff_gt.mpr he]
    exact h₂.mul_lt_mul h₁ he

theorem compares_neg {o : Ordering} {p q : ℚ} (h : o.Compares p q) : o.Compares (-q) (-p) := by
  cases o with
  | lt => exact neg_lt_neg h
  | eq => exact congrArg Neg.neg (Eq.symm h)
  | gt => exact neg_lt_neg h

/-- Comparing tells the order of the values. -/
theorem compares_compare {a b : UnpackedFloat} (ha : IsDouble a) (hb : IsDouble b)
    (hna : a.isNaN = false) (hnb : b.isNaN = false) :
    ∃ o, a.compare b = some o ∧ o.Compares (value a) (value b) := by
  rcases a with (_ | _) | _ | _ | ⟨_ | _, m₁, e₁, h₁⟩ <;>
    rcases b with (_ | _) | _ | _ | ⟨_ | _, m₂, e₂, h₂⟩
  all_goals try contradiction
  case finite.negative.finite.negative =>
    refine ⟨_, rfl, ?_⟩
    rw [Ordering.compares_swap]
    exact compares_neg (compares_magnitudes ha.1 hb.1)
  case finite.positive.finite.positive =>
    exact ⟨_, rfl, compares_magnitudes ha.1 hb.1⟩
  -- Elsewhere the signs decide, or that an infinity is greater than all finite doubles.
  all_goals
    have hlimit := limit_pos
    have hinf := limit_lt_infinity
    try have hfa := abs_lt.mp (abs_value_lt ha rfl)
    try have hfb := abs_lt.mp (abs_value_lt hb rfl)
    try have hpa : (0 : ℚ) < m₁ * 2 ^ e₁ := by positivity
    try have hpb : (0 : ℚ) < m₂ * 2 ^ e₂ := by positivity
    simp only [value, signed] at *
    first
      | exact ⟨.lt, rfl, show _ < _ by linarith⟩
      | exact ⟨.gt, rfl, show _ < _ by linarith⟩
      | exact ⟨.eq, rfl, Eq.refl _⟩

end Calculator.Double
