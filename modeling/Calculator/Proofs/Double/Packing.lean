import Calculator.Proofs.Double.Unpacked

/-!
# Packing

A double is kept packed, in 64 bits. An operation unpacks its operands, computes, and packs what it
gets; that is rounded, but its exponent may be too great for a double, and then it is packed as an
infinity.

Main results: what was rounded is packed as the nearest double (`Rounds.packs`), and every packed
double is unpacked to a canonical one (`isDouble_unpack`).
-/

namespace Calculator.Double

open Float.Model (Format UnpackedFloat totalExponent)
open Float.Model.UnpackedFloat

/-! ## Packing and unpacking -/

/-- A double packed and unpacked again. -/
def repack (f : UnpackedFloat) : UnpackedFloat := (Float.Model.pack f).unpack

@[simp] theorem repack_infinity (s : Sign) : repack (.infinity s) = .infinity s := by
  cases s <;> rfl

@[simp] theorem repack_zero (s : Sign) : repack (.zero s) = .zero s := by
  cases s <;> rfl

/-- The biased exponent, as it is stored. -/
theorem toNat_bias (e : ℤ) :
    (e + (Format.binary64.exponentBias : ℤ) + (52 : ℕ)).toNat = (e + 1075).toNat := by
  simp only [Format.exponentBias]
  congr 1
  omega

theorem repack_of_lt {s : Sign} {m : ℕ} {e : ℤ} (hm : 0 < m) (he : 971 < e) :
    repack (.finite s m e hm) = .infinity s := by
  have hbias : 2 ^ 11 ≤ (e + 1075).toNat + 1 := by omega
  have h : Float.Model.pack (.finite s m e hm) = Float.Model.pack (.infinity s) := by
    unfold Float.Model.pack
    congr 2
    simp only [UnpackedFloat.pack, toNat_bias, if_pos hbias]
  rw [repack, h]
  exact repack_infinity s

/-- A normal mantissa is stored without its first bit. -/
theorem toNat_implicit (m : BitVec 52) : (1#1 ++ m).toNat = 2 ^ 52 + m.toNat := by
  rw [BitVec.toNat_append, ← Nat.shiftLeft_add_eq_or_of_lt m.isLt]
  rfl

theorem repack_subnormal {s : Sign} {m : ℕ} (hm : 0 < m) (hsub : m < 2 ^ 52) :
    repack (.finite s m (-1074) hm) = .finite s m (-1074) hm := by
  have hbias : ¬ 2 ^ 11 ≤ (-1074 + 1075 : ℤ).toNat + 1 := by decide
  have hlog : m.log2 + 1 ≠ Format.binary64.mantissaBits := by
    have := (Nat.log2_lt hm.ne').mpr hsub
    simp only [Format.mantissaBits]
    omega
  have hfield : (BitVec.ofNat 52 m).toNat = m := by
    rw [BitVec.toNat_ofNat, Nat.mod_eq_of_lt hsub]
  have hzero : BitVec.ofNat 52 m ≠ 0#52 := fun h0 => by
    rw [h0] at hfield
    exact hm.ne hfield
  unfold repack Float.Model.pack Float.Model.unpack
  simp only [UnpackedFloat.pack, toNat_bias, if_neg hbias, if_neg hlog, UnpackedFloat.unpack,
    unpackExponent_packComponents, unpackMantissa_packComponents, unpackSign_packComponents,
    Sign.ofBitVec_toBitVec]
  rw [if_neg (by decide), if_pos trivial, dif_neg hzero]
  simp only [hfield]
  rfl

theorem repack_normal {s : Sign} {m : ℕ} {e : ℤ} (hm : 0 < m) (hnormal : 2 ^ 52 ≤ m)
    (hlt : m < 2 ^ 53) (hmin : -1074 ≤ e) (he : e ≤ 971) :
    repack (.finite s m e hm) = .finite s m e hm := by
  have hbias : ¬ 2 ^ 11 ≤ (e + 1075).toNat + 1 := by omega
  have hlog : m.log2 + 1 = Format.binary64.mantissaBits := by
    have := (Nat.log2_lt hm.ne').mpr hlt
    have := (Nat.le_log2 hm.ne').mpr hnormal
    simp only [Format.mantissaBits]
    omega
  have hexponent : (BitVec.ofNat 11 (e + 1075).toNat).toNat = (e + 1075).toNat := by
    rw [BitVec.toNat_ofNat, Nat.mod_eq_of_lt (by omega)]
  have hones : BitVec.ofNat 11 (e + 1075).toNat ≠ -1#11 := fun h1 => by
    rw [h1] at hexponent
    have : (-1#11 : BitVec 11).toNat = 2047 := by decide
    omega
  have hzero : BitVec.ofNat 11 (e + 1075).toNat ≠ 0#11 := fun h0 => by
    rw [h0] at hexponent
    have : (0#11).toNat = 0 := by decide
    omega
  have hmantissa : (1#1 ++ BitVec.ofNat 52 m).toNat = m := by
    rw [toNat_implicit, BitVec.toNat_ofNat]
    omega
  unfold repack Float.Model.pack Float.Model.unpack
  simp only [UnpackedFloat.pack, toNat_bias, if_neg hbias, if_pos hlog, UnpackedFloat.unpack,
    unpackExponent_packComponents, unpackMantissa_packComponents, unpackSign_packComponents,
    Sign.ofBitVec_toBitVec]
  rw [if_neg hones, if_neg hzero]
  simp only [hmantissa, hexponent, Format.exponentBias]
  congr 1
  omega

theorem repack_of_le {s : Sign} {m : ℕ} {e : ℤ} (hm : 0 < m) (h : Canonical m e) (he : e ≤ 971) :
    repack (.finite s m e hm) = .finite s m e hm := by
  rcases lt_or_ge m (2 ^ 52) with hsub | hnormal
  · obtain rfl : e = -1074 := h.normal.resolve_left hsub.not_ge
    exact repack_subnormal hm hsub
  · exact repack_normal hm hnormal h.lt h.le he

/-! ## What packed doubles unpack to -/

theorem isDouble_unpack (x : Float.Model) : IsDouble x.unpack := by
  unfold Float.Model.unpack UnpackedFloat.unpack
  dsimp only
  have hm : (@unpackMantissa .binary64 x.toBits.toBitVec).toNat < 2 ^ 52 :=
    BitVec.isLt _
  have he : (@unpackExponent .binary64 x.toBits.toBitVec).toNat < 2 ^ 11 :=
    BitVec.isLt _
  have hbias : (Format.binary64.exponentBias : ℤ) + (52 : ℕ) = 1075 := by decide
  rw [hbias]
  split_ifs with hones _ hzero
  case pos | neg | pos => trivial
  case neg =>
    have h0 : ((@unpackExponent .binary64 x.toBits.toBitVec).toNat : ℤ) = 0 := by
      rw [hzero]
      rfl
    exact ⟨⟨by omega, by omega, .inr (by omega)⟩, by omega⟩
  case neg =>
    have h1 : (@unpackExponent .binary64 x.toBits.toBitVec).toNat ≠ 2047 := fun h =>
      hones (BitVec.toNat_inj.mp h)
    have h0 : (@unpackExponent .binary64 x.toBits.toBitVec).toNat ≠ 0 := fun h =>
      hzero (BitVec.toNat_inj.mp h)
    rw [IsDouble, toNat_implicit]
    exact ⟨⟨by omega, by omega, .inl (by omega)⟩, by omega⟩

theorem IsDouble.repack_eq {f : UnpackedFloat} (h : IsDouble f) : repack f = f := by
  cases f with
  | notANumber => rfl
  | infinity s => exact repack_infinity s
  | zero s => exact repack_zero s
  | finite s m e hm => exact repack_of_le hm h.1 h.2

/-! ## Packing what was rounded -/

/-- Packed, an unpacked result is the nearest double to a number. -/
structure Packs (f : UnpackedFloat) (q : ℚ) : Prop where
  isNaN_eq : (repack f).isNaN = false
  value_eq : value (repack f) = nearest q

theorem packs_infinity (s : Sign) {q : ℚ} (h : limit ≤ q) : Packs (.infinity s) (signed s q) := by
  refine ⟨?_, ?_⟩
  · rw [repack_infinity]
    rfl
  · rw [repack_infinity, nearest_signed, nearest_of_limit_le h]
    rfl

/-- An exponent too great for a double comes with a full mantissa. -/
theorem Canonical.limit_le {m : ℕ} {e : ℤ} (h : Canonical m e) (he : 971 < e) :
    limit ≤ m * 2 ^ e := by
  have hm : 2 ^ 52 ≤ m := h.normal.resolve_right (by omega)
  unfold limit
  calc (2 : ℚ) ^ (1024 : ℤ) ≤ 2 ^ (52 + e) := zpow_le_zpow_right₀ one_le_two (by omega)
    _ = 2 ^ (52 : ℤ) * 2 ^ e := zpow_add₀ two_ne_zero _ _
    _ ≤ m * 2 ^ e := by
      gcongr
      exact_mod_cast hm

/-- What was rounded is packed as the nearest double. -/
theorem Rounds.packs {s : Sign} {q : ℚ} {f : UnpackedFloat} (h : Rounds s q f) (hq : 0 ≤ q) :
    Packs f (signed s q) := by
  have hnearest : nearest (signed s q) = signed s (overflow (nearestMagnitude q)) := by
    rw [nearest_signed, nearest_of_nonneg hq]
  cases h with
  | zero h0 =>
    refine ⟨?_, ?_⟩ <;> rw [repack_zero]
    · rfl
    · rw [hnearest, h0, overflow_zero, signed_zero]
      rfl
  | @finite m e hm hc hv =>
    rcases lt_or_ge 971 e with he | he
    · refine ⟨?_, ?_⟩ <;> rw [repack_of_lt hm he]
      · rfl
      · rw [hnearest, ← hv, overflow_of_le (hc.limit_le he)]
        rfl
    · refine ⟨?_, ?_⟩ <;> rw [repack_of_le hm hc he]
      · rfl
      · rw [hnearest, ← hv, overflow_of_lt (natCast_mul_two_zpow_lt_limit hc.lt he)]
        rfl

theorem packs_zero (s : Sign) : Packs (.zero s) 0 := by
  simpa using (Rounds.zero (s := s) nearestMagnitude_zero).packs le_rfl

/-- A double is packed as itself, which is nearest to its own value. -/
theorem IsDouble.packs {f : UnpackedFloat} (h : IsDouble f) (hnan : f.isNaN = false) :
    Packs f (value f) := by
  cases f with
  | notANumber => contradiction
  | infinity s => exact packs_infinity s limit_lt_infinity.le
  | zero s => exact packs_zero s
  | finite s m e hm =>
    have hv := nearestMagnitude_natCast_mul_two_zpow h.1.lt h.1.le
    exact (Rounds.finite hm h.1 hv.symm).packs (by positivity)

theorem IsDouble.nearest_value {f : UnpackedFloat} (h : IsDouble f) (hnan : f.isNaN = false) :
    nearest (value f) = value f := by
  have hvalue := (h.packs hnan).value_eq
  rw [h.repack_eq] at hvalue
  exact hvalue.symm

end Calculator.Double
