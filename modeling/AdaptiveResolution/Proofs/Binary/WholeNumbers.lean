import AdaptiveResolution.Proofs.Binary.Arithmetic
import Mathlib.Tactic.Ring

namespace AdaptiveResolution

theorem Format.units_normal (F : Format) {exponent significand : Nat}
    (hlow : 2 ^ F.fractionBits ≤ significand) (hhigh : significand < 2 * 2 ^ F.fractionBits) :
    F.units (exponent * 2 ^ F.fractionBits + significand) = significand * 2 ^ exponent := by
  obtain ⟨rest, rfl⟩ := Nat.exists_eq_add_of_le hlow
  have hrest : rest < 2 ^ F.fractionBits := by omega
  have hexponent : F.exponent (exponent * 2 ^ F.fractionBits + (2 ^ F.fractionBits + rest)) =
      exponent := by
    have hdiv : (exponent * 2 ^ F.fractionBits + (2 ^ F.fractionBits + rest)) /
        2 ^ F.fractionBits = exponent + 1 := by
      rw [← Nat.add_assoc, ← Nat.succ_mul, Nat.mul_comm,
        Nat.mul_add_div (Nat.two_pow_pos _), Nat.div_eq_of_lt hrest, Nat.add_zero]
    rw [Format.exponent, hdiv, Nat.add_sub_cancel]
  rw [F.units_eq, hexponent, Format.significand, hexponent, Nat.add_sub_cancel_left]

def Format.oneExponent (F : Format) : Nat := 1 <<< (F.exponentBits - 1) - 2

theorem Format.one_eq (F : Format) : F.one = 2 ^ (F.oneExponent + F.fractionBits) := by
  rw [Format.one, Nat.shiftLeft_eq, Nat.one_mul]
  rfl

theorem Format.exponent_limit (F : Format) :
    (F.oneExponent + F.fractionBits + 2) * 2 ^ F.fractionBits ≤ F.infinity := by
  cases F <;> decide

namespace Binary

variable {F : Format} {x y : Binary F}

theorem ofNat_units {n : Nat} (h : n < 2 ^ (F.fractionBits + 1)) :
    (ofNat n : Binary F).units = n * F.one := by
  rcases Nat.eq_zero_or_pos n with rfl | hpos
  · cases F <;> decide +kernel
  let binade := 2 ^ F.fractionBits
  let significand := n * 2 ^ (F.fractionBits - n.log2)
  let code := (F.oneExponent + n.log2) * binade + significand
  have hlog : n.log2 ≤ F.fractionBits := Nat.le_of_lt_succ ((Nat.log2_lt hpos.ne').mpr h)
  have hbinade : 2 ^ n.log2 * 2 ^ (F.fractionBits - n.log2) = binade := by
    rw [← Nat.pow_add, Nat.add_sub_cancel' hlog]
  have hlow : binade ≤ significand :=
    hbinade ▸ Nat.mul_le_mul_right _ (Nat.log2_self_le hpos.ne')
  have hhigh : significand < 2 * binade := by
    have hlt := Nat.mul_lt_mul_of_pos_right (Nat.lt_log2_self (n := n))
      (Nat.two_pow_pos (F.fractionBits - n.log2))
    rwa [Nat.pow_succ, Nat.mul_right_comm, hbinade, Nat.mul_comm _ 2] at hlt
  have hcode : F.units code = n * F.one := by
    have hexponent : F.fractionBits - n.log2 + (F.oneExponent + n.log2) =
        F.oneExponent + F.fractionBits := by omega
    rw [F.units_normal hlow hhigh, Nat.mul_assoc, ← Nat.pow_add, hexponent, F.one_eq]
  have hfinite : code ≤ F.infinity := by
    have hexponent := Nat.mul_le_mul_right binade (Nat.add_le_add_left hlog F.oneExponent)
    calc
      code ≤ (F.oneExponent + F.fractionBits) * binade + 2 * binade :=
        Nat.add_le_add hexponent hhigh.le
      _ = (F.oneExponent + F.fractionBits + 2) * binade := (Nat.add_mul _ _ _).symm
      _ ≤ F.infinity := F.exponent_limit
  change F.units (F.nearest (n * F.one) 1) = _
  rw [← hcode, ← Nat.mul_one (F.units code), F.nearest_units hfinite Nat.one_pos, Nat.mul_one]

theorem ofNat_units_of_le {n : Nat} (h : n ≤ 2 ^ (F.fractionBits + 1)) :
    (ofNat n : Binary F).units = n * F.one := by
  rcases h.lt_or_eq with hlt | rfl
  · exact ofNat_units hlt
  · cases F <;> decide +kernel

theorem ofNat_not_isZero {n : Nat} (h : 0 < n) : ¬(ofNat n : Binary F).IsZero :=
  not_isZero_of_le one_not_isZero (ofNat_mono h)

theorem div_eq_ofNat (hx : x.IsFinite) (hy : y.IsFinite) (hxs : x.negative = false)
    (hys : y.negative = false) {m n : Nat} (hn : 0 < n) (hxu : x.units = m * n * F.one)
    (hyu : y.units = n * F.one) : x / y = ofNat m := by
  have hden : 0 < n * F.one := Nat.mul_pos hn (one_pos F)
  have hy0 : ¬y.IsZero := fun hzero => by
    rw [hzero.units_eq] at hyu
    omega
  rw [div_eq hx hy hy0, hxs, hys, Bool.xor_self, hxu, hyu, ofNat, ofRatio, ofRatio]
  congr 1
  exact F.nearest_congr hden Nat.one_pos (by ring)

theorem div_self (hx : x.IsFinite) (hx0 : ¬x.IsZero) : x / x = ofNat 1 := by
  rw [div_eq hx hx hx0, Bool.xor_self, ofNat, ofRatio, ofRatio]
  congr 1
  exact F.nearest_congr (units_pos hx hx0) Nat.one_pos (by ring)

theorem ofNat_mul_div {m n : Nat} (hm : 0 < m) (hn : 0 < n) (h : m * n ≤ 1 <<< 53) :
    (ofNat (m * n) / ofNat n : Double) = ofNat m := by
  have hnle : n ≤ 1 <<< 53 := (Nat.le_mul_of_pos_left n hm).trans h
  have hfinite {k : Nat} (hk : k ≤ 1 <<< 53) : (ofNat k : Double).IsFinite :=
    ofNat_isFinite (hk.trans_lt (by decide))
  exact div_eq_ofNat (hfinite h) (hfinite hnle) rfl rfl hn (ofNat_units_of_le h)
    (ofNat_units_of_le hnle)

end Binary

end AdaptiveResolution
