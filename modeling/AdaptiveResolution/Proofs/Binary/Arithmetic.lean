import AdaptiveResolution.Binary.Convert
import AdaptiveResolution.Proofs.Binary.Rounding

namespace AdaptiveResolution.Binary

variable {F : Format} {x y z : Binary F}

theorem le_trans (h : x ≤ y) (h' : y ≤ z) : x ≤ z :=
  ⟨h.1, h'.2.1, h.2.2.trans h'.2.2⟩

theorem lt_of_lt_of_le (h : x < y) (h' : y ≤ z) : x < z :=
  ⟨h.1, h'.2.1, Int.lt_of_lt_of_le h.2.2 h'.2.2⟩

theorem le_of_lt (h : x < y) : x ≤ y := ⟨h.1, h.2.1, h.2.2.le⟩

theorem le_refl (hx : ¬x.IsNaN) : x ≤ x := ⟨hx, hx, Int.le_refl _⟩

theorem le_of_not_lt (hx : ¬x.IsNaN) (hy : ¬y.IsNaN) (h : ¬x < y) : y ≤ x :=
  ⟨hy, hx, Int.not_lt.mp fun hkey => h ⟨hx, hy, hkey⟩⟩

theorem not_lt_of_le (h : x ≤ y) : ¬y < x := fun h' => Int.not_lt.mpr h.2.2 h'.2.2

theorem IsFinite.not_isNaN (h : x.IsFinite) : ¬x.IsNaN := Nat.not_lt.mpr (Nat.le_of_lt h)

theorem IsFinite.not_isInfinite (h : x.IsFinite) : ¬x.IsInfinite := Nat.ne_of_lt h

theorem isInfinite_of_not_isFinite (hx : ¬x.IsNaN) (h : ¬x.IsFinite) : x.IsInfinite :=
  Nat.le_antisymm (Nat.le_of_not_lt hx) (Nat.le_of_not_lt h)

theorem not_isZero_of_pos (h : zero false < x) : ¬x.IsZero := by
  intro hx
  have hkey := h.2.2
  simp [key, zero, show x.magnitude = 0 from hx] at hkey

theorem negative_of_pos (h : zero false < x) : x.negative = false := by
  have hkey : 0 < x.key := h.2.2
  unfold key at hkey
  split at hkey
  · omega
  · rename_i hx
    exact Bool.eq_false_iff.mpr hx

theorem magnitude_le_of_le (hx : x.negative = false) (hy : y.negative = false) (h : x ≤ y) :
    x.magnitude ≤ y.magnitude := by
  simpa [key, hx, hy] using h.2.2

theorem natAbs_key (x : Binary F) : x.key.natAbs = x.magnitude := by
  unfold key
  split <;> simp

theorem not_isZero_of_le (hx : ¬x.IsZero) (h : x.magnitude ≤ y.magnitude) : ¬y.IsZero := by
  unfold IsZero at hx ⊢
  omega

theorem isFinite_of_between (hlow : zero false ≤ x) (hhigh : x ≤ y) (hy : y.IsFinite) :
    x.IsFinite := by
  have hpos : 0 ≤ x.key := hlow.2.2
  have hkey := hhigh.2.2
  unfold IsFinite at hy ⊢
  rw [← natAbs_key] at hy ⊢
  omega

theorem IsInfinite.not_isZero (h : x.IsInfinite) : ¬x.IsZero := by
  intro hx
  have hinf : F.infinity = 0 := h.symm.trans hx
  cases F <;> contradiction

theorem ofRatio_not_isNaN (negative : Bool) (num den : Nat) :
    ¬(ofRatio negative num den : Binary F).IsNaN :=
  Nat.not_lt.mpr (Nat.min_le_right _ _)

theorem zero_not_isNaN (negative : Bool) : ¬(zero negative : Binary F).IsNaN := Nat.not_lt_zero _

theorem infinity_not_isNaN (negative : Bool) : ¬(infinity negative : Binary F).IsNaN :=
  Nat.lt_irrefl _

theorem add_not_isNaN (hx : x.IsFinite) (hy : ¬y.IsNaN) : ¬(x + y).IsNaN := by
  change ¬(add x y).IsNaN
  unfold add
  rw [if_neg (not_or.mpr ⟨hx.not_isNaN, hy⟩), if_neg hx.not_isInfinite]
  split_ifs
  · exact hy
  · exact zero_not_isNaN _
  · exact ofRatio_not_isNaN _ _ _

theorem sub_not_isNaN (hx : x.IsFinite) (hy : ¬y.IsNaN) : ¬(x - y).IsNaN :=
  add_not_isNaN (y := -y) hx hy

theorem mul_not_isNaN (hx : x.IsFinite) (hx0 : ¬x.IsZero) (hy : ¬y.IsNaN) : ¬(x * y).IsNaN := by
  change ¬(mul x y).IsNaN
  unfold mul
  rw [if_neg (not_or.mpr ⟨hx.not_isNaN, hy⟩)]
  split_ifs with hinfinite hzero
  · have hy' : y.IsInfinite := hinfinite.resolve_left hx.not_isInfinite
    exact absurd (hzero.resolve_left hx0) hy'.not_isZero
  · exact infinity_not_isNaN _
  · exact ofRatio_not_isNaN _ _ _

theorem mul_cases (h : ¬(x * y).IsNaN) :
    (¬x.IsNaN ∧ ¬y.IsNaN) ∧
      ((x.IsInfinite ∨ y.IsInfinite) ∧ ¬(x.IsZero ∨ y.IsZero) ∧
          x * y = infinity (x.negative ^^ y.negative) ∨
        ¬(x.IsInfinite ∨ y.IsInfinite) ∧
          x * y = ofRatio (x.negative ^^ y.negative) (x.units * y.units) F.one) := by
  change ¬(mul x y).IsNaN at h
  change _ ∧ (_ ∧ _ ∧ mul x y = _ ∨ _ ∧ mul x y = _)
  unfold mul at h ⊢
  split_ifs at h ⊢ with hnan hinfinite hzero
  · exact absurd F.infinity_lt_quiet h
  · exact absurd F.infinity_lt_quiet h
  · exact ⟨not_or.mp hnan, .inl ⟨hinfinite, hzero, rfl⟩⟩
  · exact ⟨not_or.mp hnan, .inr ⟨hinfinite, rfl⟩⟩

theorem mul_of_isInfinite (h : x.IsInfinite ∨ y.IsInfinite) (hmul : ¬(x * y).IsNaN) :
    (x * y).IsInfinite := by
  obtain ⟨-, ⟨-, -, heq⟩ | ⟨hfinite, -⟩⟩ := mul_cases hmul
  · rw [heq]
    rfl
  · exact absurd h hfinite

theorem div_not_isNaN (hx : ¬x.IsNaN) (hy : y.IsFinite) (hy0 : ¬y.IsZero) : ¬(x / y).IsNaN := by
  change ¬(div x y).IsNaN
  unfold div
  rw [if_neg (not_or.mpr ⟨hx, hy.not_isNaN⟩), if_neg hy.not_isInfinite, if_neg hy.not_isInfinite,
    if_neg hy0]
  split_ifs
  · exact infinity_not_isNaN _
  · exact ofRatio_not_isNaN _ _ _

theorem div_eq (hx : x.IsFinite) (hy : y.IsFinite) (hy0 : ¬y.IsZero) :
    x / y = ofRatio (x.negative ^^ y.negative) (x.units * F.one) y.units := by
  change div x y = _
  unfold div
  rw [if_neg (not_or.mpr ⟨hx.not_isNaN, hy.not_isNaN⟩), if_neg hx.not_isInfinite,
    if_neg hy.not_isInfinite, if_neg hy0]

theorem units_pos (hx : x.IsFinite) (hx0 : ¬x.IsZero) : 0 < x.units := by
  have hlt := F.units_lt_units (Nat.pos_of_ne_zero hx0) (Nat.le_of_lt hx)
  exact Nat.zero_lt_of_lt hlt

theorem IsZero.units_eq (hx : x.IsZero) : x.units = 0 := by
  have h := F.units_eq 0
  rw [(F.significand_subnormal (Nat.two_pow_pos _)).2, Nat.zero_mul] at h
  rw [units, show x.magnitude = 0 from hx, h]

theorem IsZero.isFinite (hx : x.IsZero) : x.IsFinite := by
  unfold IsFinite
  rw [show x.magnitude = 0 from hx]
  cases F <;> decide

theorem ofNat_mono {m n : Nat} (h : m ≤ n) :
    (ofNat m : Binary F).magnitude ≤ (ofNat n : Binary F).magnitude := by
  apply F.nearest_mono Nat.one_pos Nat.one_pos
  exact Nat.mul_le_mul_right _ (Nat.mul_le_mul_right _ h)

theorem le_of_magnitude_le (hx : x.negative = false) (hy : y.negative = false) (hyn : ¬y.IsNaN)
    (h : x.magnitude ≤ y.magnitude) : x ≤ y := by
  refine ⟨?_, hyn, ?_⟩
  · exact fun hxn => hyn (Nat.lt_of_lt_of_le hxn h)
  · simpa [key, hx, hy] using h

theorem units_one : (ofNat 1 : Binary F).units = F.one := by
  cases F <;> decide +kernel

theorem one_isFinite : (ofNat 1 : Binary F).IsFinite := by
  cases F <;> decide +kernel

theorem one_not_isZero : ¬(ofNat 1 : Binary F).IsZero := by
  cases F <;> decide +kernel

theorem zero_lt_one : zero false < (ofNat 1 : Binary F) := by
  cases F <;> decide +kernel

theorem one_pos (F : Format) : 0 < F.one := by
  cases F <;> decide +kernel

theorem mul_eq (hx : x.IsFinite) (hy : y.IsFinite) :
    x * y = ofRatio (x.negative ^^ y.negative) (x.units * y.units) F.one := by
  change mul x y = _
  unfold mul
  rw [if_neg (not_or.mpr ⟨hx.not_isNaN, hy.not_isNaN⟩),
    if_neg (not_or.mpr ⟨hx.not_isInfinite, hy.not_isInfinite⟩)]

theorem one_le_div (hx : x.IsFinite) (hy : y.IsFinite) (hy0 : ¬y.IsZero)
    (hxs : x.negative = false) (hys : y.negative = false) (h : y.magnitude ≤ x.magnitude) :
    ofNat 1 ≤ x / y := by
  rw [div_eq hx hy hy0, hxs, hys, Bool.xor_self]
  apply le_of_magnitude_le rfl rfl (ofRatio_not_isNaN _ _ _)
  apply F.nearest_mono Nat.one_pos (units_pos hy hy0)
  have hunits : y.units ≤ x.units := F.units_le_units h (Nat.le_of_lt hx)
  rw [Nat.one_mul, Nat.mul_one, Nat.mul_comm]
  exact Nat.mul_le_mul_right _ hunits

theorem div_magnitude_le (hx : x.IsFinite) (hy : y.IsFinite)
    (h : (ofNat 1 : Binary F).magnitude ≤ y.magnitude) : (x / y).magnitude ≤ x.magnitude := by
  have hunits : F.one ≤ y.units := by
    rw [← units_one]
    exact F.units_le_units h (Nat.le_of_lt hy)
  have hone := one_pos F
  rw [div_eq hx hy (not_isZero_of_le one_not_isZero h)]
  calc
    F.nearest (x.units * F.one) y.units ≤ F.nearest (x.units * F.one) F.one :=
      F.nearest_mono (hone.trans_le hunits) hone (Nat.mul_le_mul_left _ hunits)
    _ = x.magnitude := F.nearest_units (Nat.le_of_lt hx) hone

theorem div_isFinite (hx : x.IsFinite) (hy : y.IsFinite)
    (h : (ofNat 1 : Binary F).magnitude ≤ y.magnitude) : (x / y).IsFinite :=
  (div_magnitude_le hx hy h).trans_lt hx

theorem ofNat_isFinite {n : Nat} (h : n < UInt64.size) : (ofNat n : Double).IsFinite := by
  have hlimit : (ofNat UInt64.size : Double).IsFinite := by decide +kernel
  exact (ofNat_mono (Nat.le_of_lt h)).trans_lt hlimit

end AdaptiveResolution.Binary
