import AdaptiveResolution.Binary.Rounding
import Mathlib.Data.Nat.Log
import Mathlib.Tactic.Linarith

namespace AdaptiveResolution

section

variable {num den num' den' : Nat}

theorem div_le_div_of_ratio_le (hden : 0 < den) (hden' : 0 < den')
    (h : num * den' ≤ num' * den) : num / den ≤ num' / den' := by
  rw [Nat.le_div_iff_mul_le hden']
  apply Nat.le_of_mul_le_mul_right _ hden
  calc
    num / den * den' * den = num / den * den * den' := Nat.mul_right_comm _ _ _
    _ ≤ num * den' := Nat.mul_le_mul_right _ (Nat.div_mul_le_self _ _)
    _ ≤ num' * den := h

theorem nearestEven_bounds (num den : Nat) :
    num / den ≤ nearestEven num den ∧ nearestEven num den ≤ num / den + 1 := by
  unfold nearestEven
  split_ifs <;> omega

theorem nearestEven_mono (hden : 0 < den) (hden' : 0 < den') (h : num * den' ≤ num' * den) :
    nearestEven num den ≤ nearestEven num' den' := by
  rcases (div_le_div_of_ratio_le hden hden' h).lt_or_eq with hlt | heq
  · have hupper := (nearestEven_bounds num den).2
    have hlower := (nearestEven_bounds num' den').1
    omega
  · -- Equal quotients leave the comparison to the remainders.
    have hrest : num % den * den' ≤ num' % den' * den := by
      have hnum := Nat.div_add_mod num den
      have hnum' := Nat.div_add_mod num' den'
      rw [← hnum, ← hnum', ← heq] at h
      linarith
    have hhalf (hr : den ≤ 2 * (num % den)) : den' ≤ 2 * (num' % den') := by
      have := Nat.mul_le_mul_right den' hr
      exact Nat.le_of_mul_le_mul_right (by linarith) hden
    have hmore (hr : den < 2 * (num % den)) : den' < 2 * (num' % den') := by
      have := Nat.mul_lt_mul_of_pos_right hr hden'
      exact Nat.lt_of_mul_lt_mul_right (a := den) (by linarith)
    unfold nearestEven
    split_ifs <;> omega

theorem nearestEven_mul (n : Nat) (hden : 0 < den) : nearestEven (n * den) den = n := by
  unfold nearestEven
  rw [Nat.mul_mod_left, Nat.mul_div_cancel _ hden, if_pos (by omega)]

theorem nearestEven_le (hden : 0 < den) {n : Nat} (h : num ≤ n * den) :
    nearestEven num den ≤ n := by
  have hmono := nearestEven_mono hden hden (Nat.mul_le_mul_right den h)
  rwa [nearestEven_mul n hden] at hmono

theorem le_nearestEven (hden : 0 < den) {n : Nat} (h : n * den ≤ num) :
    n ≤ nearestEven num den := by
  have hmono := nearestEven_mono hden hden (Nat.mul_le_mul_right den h)
  rwa [nearestEven_mul n hden] at hmono

end

namespace Format

variable (F : Format)

def excess (quotient : Nat) : Nat := quotient.log2 - F.fractionBits

theorem excess_mono {q q' : Nat} (h : q ≤ q') : F.excess q ≤ F.excess q' := by
  unfold excess
  rw [Nat.log2_eq_log_two, Nat.log2_eq_log_two]
  exact Nat.sub_le_sub_right (Nat.log_mono_right h) _

theorem lt_of_excess (q : Nat) : q < 2 ^ (F.fractionBits + 1 + F.excess q) := by
  have hle : q.log2 + 1 ≤ F.fractionBits + 1 + F.excess q := by
    unfold excess
    omega
  exact Nat.lt_log2_self.trans_le (Nat.pow_le_pow_right (by decide) hle)

theorem le_of_excess {q : Nat} (h : F.excess q ≠ 0) : 2 ^ (F.fractionBits + F.excess q) ≤ q := by
  unfold excess at h ⊢
  have hq : q ≠ 0 := by
    rintro rfl
    simp at h
  rw [Nat.add_sub_cancel' (by omega)]
  exact Nat.log2_self_le hq

theorem excess_eq {q s : Nat} (hlow : s ≠ 0 → 2 ^ (F.fractionBits + s) ≤ q)
    (hhigh : q < 2 ^ (F.fractionBits + 1 + s)) : F.excess q = s := by
  unfold excess
  by_cases hq : q = 0
  · have hs : s = 0 := by
      by_contra hs
      have := hlow hs
      have := Nat.two_pow_pos (F.fractionBits + s)
      omega
    simp [hq, hs]
  · have hlt := (Nat.log2_lt hq).mpr hhigh
    by_cases hs : s = 0
    · omega
    · have hge := (Nat.le_log2 hq).mpr (hlow hs)
      omega

theorem nearest_eq (num den : Nat) : F.nearest num den =
    min (F.excess (num / den) * 2 ^ F.fractionBits +
      nearestEven num (den * 2 ^ F.excess (num / den))) F.infinity := by
  simp only [nearest, excess, Nat.shiftLeft_eq]

section

variable {num den : Nat}

theorem rounded_le (hden : 0 < den) :
    nearestEven num (den * 2 ^ F.excess (num / den)) ≤ 2 * 2 ^ F.fractionBits := by
  apply nearestEven_le (Nat.mul_pos hden (Nat.two_pow_pos _))
  have hlt := F.lt_of_excess (num / den)
  rw [Nat.div_lt_iff_lt_mul hden, Nat.pow_add, Nat.pow_succ] at hlt
  linarith

theorem le_rounded (hden : 0 < den) (h : F.excess (num / den) ≠ 0) :
    2 ^ F.fractionBits ≤ nearestEven num (den * 2 ^ F.excess (num / den)) := by
  apply le_nearestEven (Nat.mul_pos hden (Nat.two_pow_pos _))
  have hle := F.le_of_excess h
  rw [Nat.le_div_iff_mul_le hden, Nat.pow_add] at hle
  linarith

theorem nearest_mono {num' den' : Nat} (hden : 0 < den) (hden' : 0 < den')
    (h : num * den' ≤ num' * den) : F.nearest num den ≤ F.nearest num' den' := by
  rw [nearest_eq, nearest_eq]
  apply min_le_min_right
  rcases (F.excess_mono (div_le_div_of_ratio_le hden hden' h)).lt_or_eq with hlt | heq
  · -- The carry of the shorter quotient ends where the binade of the longer one begins.
    have hupper : nearestEven num _ ≤ _ := F.rounded_le hden
    have hlower : _ ≤ nearestEven num' _ := F.le_rounded hden' (by omega)
    have hbinade := Nat.mul_le_mul_right (2 ^ F.fractionBits) hlt
    rw [Nat.succ_mul] at hbinade
    omega
  · rw [heq]
    apply Nat.add_le_add_left
    have hpos := Nat.two_pow_pos (F.excess (num' / den'))
    apply nearestEven_mono (Nat.mul_pos hden hpos) (Nat.mul_pos hden' hpos)
    rw [← Nat.mul_assoc, ← Nat.mul_assoc]
    exact Nat.mul_le_mul_right _ h

theorem nearest_congr {num' den' : Nat} (hden : 0 < den) (hden' : 0 < den')
    (h : num * den' = num' * den) : F.nearest num den = F.nearest num' den' :=
  Nat.le_antisymm (F.nearest_mono hden hden' h.le) (F.nearest_mono hden' hden h.ge)

end

def exponent (code : Nat) : Nat := code / 2 ^ F.fractionBits - 1

def significand (code : Nat) : Nat := code - F.exponent code * 2 ^ F.fractionBits

theorem exponent_add_significand (code : Nat) :
    F.exponent code * 2 ^ F.fractionBits + F.significand code = code := by
  have hle : F.exponent code * 2 ^ F.fractionBits ≤ code :=
    (Nat.mul_le_mul_right _ (Nat.sub_le _ _)).trans (Nat.div_mul_le_self _ _)
  unfold significand
  omega

theorem significand_subnormal {code : Nat} (h : code < 2 ^ F.fractionBits) :
    F.exponent code = 0 ∧ F.significand code = code := by
  simp [significand, exponent, Nat.div_eq_of_lt h]

theorem significand_normal {code : Nat} (h : 2 ^ F.fractionBits ≤ code) :
    F.significand code = 2 ^ F.fractionBits + code % 2 ^ F.fractionBits := by
  have hsum := F.exponent_add_significand code
  have hsplit := Nat.div_add_mod' code (2 ^ F.fractionBits)
  have hpos := Nat.div_pos h (Nat.two_pow_pos _)
  have hquot : code / 2 ^ F.fractionBits = F.exponent code + 1 := by
    unfold exponent
    omega
  rw [hquot, Nat.succ_mul] at hsplit
  omega

theorem significand_lt (code : Nat) : F.significand code < 2 * 2 ^ F.fractionBits := by
  rcases Nat.lt_or_ge code (2 ^ F.fractionBits) with h | h
  · have := (F.significand_subnormal h).2
    omega
  · have := F.significand_normal h
    have := Nat.mod_lt code (Nat.two_pow_pos F.fractionBits)
    omega

theorem le_significand {code : Nat} (h : F.exponent code ≠ 0) :
    2 ^ F.fractionBits ≤ F.significand code := by
  rcases Nat.lt_or_ge code (2 ^ F.fractionBits) with hc | hc
  · exact absurd (F.significand_subnormal hc).1 h
  · rw [F.significand_normal hc]
    exact Nat.le_add_right _ _

theorem units_eq (code : Nat) : F.units code = F.significand code * 2 ^ F.exponent code := by
  simp only [units, Nat.shiftLeft_eq, Nat.one_mul]
  split_ifs with h
  · rw [(F.significand_subnormal h).1, (F.significand_subnormal h).2, Nat.pow_zero, Nat.mul_one]
  · rw [F.significand_normal (Nat.le_of_not_lt h), exponent]

theorem excess_units (code : Nat) : F.excess (F.units code) = F.exponent code := by
  apply excess_eq
  · intro hs
    rw [units_eq, Nat.pow_add]
    exact Nat.mul_le_mul_right _ (F.le_significand hs)
  · rw [units_eq, Nat.pow_add, Nat.pow_succ, Nat.mul_comm _ 2]
    exact Nat.mul_lt_mul_of_pos_right (F.significand_lt code) (Nat.two_pow_pos _)

theorem nearest_units {code k : Nat} (hcode : code ≤ F.infinity) (hk : 0 < k) :
    F.nearest (F.units code * k) k = code := by
  rw [nearest_eq, Nat.mul_div_cancel _ hk, excess_units, units_eq, Nat.mul_right_comm,
    Nat.mul_assoc, nearestEven_mul _ (Nat.mul_pos hk (Nat.two_pow_pos _)),
    exponent_add_significand, min_eq_left hcode]

theorem units_lt_units {code code' : Nat} (h : code < code') (hcode' : code' ≤ F.infinity) :
    F.units code < F.units code' := by
  by_contra hle
  have hmono : F.nearest (F.units code' * 1) 1 ≤ F.nearest (F.units code * 1) 1 :=
    F.nearest_mono Nat.one_pos Nat.one_pos (by omega)
  rw [F.nearest_units hcode' Nat.one_pos, F.nearest_units (by omega) Nat.one_pos] at hmono
  omega

theorem units_le_units {code code' : Nat} (h : code ≤ code') (hcode' : code' ≤ F.infinity) :
    F.units code ≤ F.units code' := by
  rcases h.lt_or_eq with hlt | rfl
  · exact (F.units_lt_units hlt hcode').le
  · exact Nat.le_refl _

end Format

end AdaptiveResolution
