import AdaptiveResolution.Proofs.Binary.Arithmetic

namespace AdaptiveResolution

namespace Format

variable (F : Format)

def nearestKey (units : Int) : Int :=
  if units < 0 then -F.nearest units.natAbs 1 else F.nearest units.natAbs 1

theorem nearest_zero (den : Nat) : F.nearest 0 den = 0 := by
  simp [nearest, nearestEven]

theorem nearestKey_zero : F.nearestKey 0 = 0 := by
  simp [nearestKey, nearest_zero]

theorem nearestKey_mono {u v : Int} (h : u ≤ v) : F.nearestKey u ≤ F.nearestKey v := by
  have hmono {m n : Nat} (hmn : m ≤ n) : F.nearest m 1 ≤ F.nearest n 1 :=
    F.nearest_mono Nat.one_pos Nat.one_pos (Nat.mul_le_mul_right 1 hmn)
  unfold nearestKey
  by_cases hu : u < 0
  · by_cases hv : v < 0
    · have := hmono (show v.natAbs ≤ u.natAbs by omega)
      rw [if_pos hu, if_pos hv]
      omega
    · rw [if_pos hu, if_neg hv]
      omega
  · have := hmono (show u.natAbs ≤ v.natAbs by omega)
    rw [if_neg hu, if_neg (by omega)]
    omega

end Format

namespace Binary

variable {F : Format} {x y : Binary F} {negative : Bool}

theorem nearest_units_eq (hx : x.IsFinite) : F.nearest x.units 1 = x.magnitude := by
  have h := F.nearest_units (Nat.le_of_lt hx) Nat.one_pos
  rwa [Nat.mul_one] at h

theorem nearestKey_value (hx : x.IsFinite) : F.nearestKey x.value = x.key := by
  have hnearest := nearest_units_eq hx
  have hzero := F.nearest_zero 1
  unfold Format.nearestKey value key
  cases x.negative with
  | false => simp [hnearest]
  | true =>
    by_cases hu : x.units = 0
    · rw [hu, hzero] at hnearest
      simp [hu, hzero, ← hnearest]
    · simp [hnearest, Nat.pos_of_ne_zero hu]

theorem IsZero.value_eq (hx : x.IsZero) : x.value = 0 := by
  simp [value, hx.units_eq]

theorem value_neg (x : Binary F) : (-x).value = -x.value := by
  change (neg x).value = -x.value
  unfold value neg units
  cases x.negative <;> simp

theorem key_add (hx : x.IsFinite) (hy : y.IsFinite) :
    (x + y).key = F.nearestKey (x.value + y.value) := by
  change (add x y).key = _
  unfold add
  rw [if_neg (not_or.mpr ⟨hx.not_isNaN, hy.not_isNaN⟩), if_neg hx.not_isInfinite,
    if_neg hy.not_isInfinite]
  split_ifs with hzero
  · rw [hzero.1.value_eq, hzero.2.value_eq, Int.add_zero, F.nearestKey_zero]
    simp [key, zero]
  · simp [key, ofRatio, Format.nearestKey]

theorem value_le_value (hx : x.IsFinite) (hy : y.IsFinite) (h : x ≤ y) : x.value ≤ y.value := by
  have hkey := h.2.2
  have hunits {a b : Binary F} (hb : b.IsFinite) (hab : a.magnitude ≤ b.magnitude) :
      a.units ≤ b.units := F.units_le_units hab (Nat.le_of_lt hb)
  unfold key at hkey
  unfold value
  cases hxs : x.negative <;> cases hys : y.negative <;>
    simp only [hxs, hys, if_true, Bool.false_eq_true, if_false] at hkey ⊢
  · exact Int.ofNat_le.mpr (hunits hy (Int.ofNat_le.mp hkey))
  · -- Only zeros of either sign are ordered this way around.
    have hxz : x.IsZero := by unfold IsZero; omega
    have hyz : y.IsZero := by unfold IsZero; omega
    rw [hxz.units_eq, hyz.units_eq]
    exact Int.le_refl _
  · omega
  · have := hunits hx (show y.magnitude ≤ x.magnitude by omega)
    omega

def HasSign (x : Binary F) (negative : Bool) : Prop :=
  ¬x.IsNaN ∧ (x.negative = negative ∨ x.IsZero)

theorem hasSign_iff :
    x.HasSign negative ↔ ¬x.IsNaN ∧ if negative then x.key ≤ 0 else 0 ≤ x.key := by
  unfold HasSign key IsZero
  cases negative <;> cases x.negative <;> simp

theorem HasSign.value_nonpos (h : x.HasSign true) : x.value ≤ 0 := by
  rcases h.2 with hsign | hzero
  · simp [value, hsign]
  · exact hzero.value_eq.le

theorem HasSign.value_nonneg (h : x.HasSign false) : 0 ≤ x.value := by
  rcases h.2 with hsign | hzero
  · simp [value, hsign]
  · exact hzero.value_eq.ge

section

variable (hx : x.IsFinite)

include hx

theorem sub_hasSign_true (hy : y.IsFinite) (h : x ≤ y) : (x - y).HasSign true := by
  rw [hasSign_iff]
  refine ⟨sub_not_isNaN hx hy.not_isNaN, ?_⟩
  have hvalue := value_le_value hx hy h
  change (x + -y).key ≤ 0
  rw [key_add hx (show (-y).IsFinite from hy), value_neg, ← F.nearestKey_zero]
  exact F.nearestKey_mono (by omega)

theorem sub_hasSign_false (hy : y.IsFinite) (h : y ≤ x) : (x - y).HasSign false := by
  rw [hasSign_iff]
  refine ⟨sub_not_isNaN hx hy.not_isNaN, ?_⟩
  have hvalue := value_le_value hy hx h
  change 0 ≤ (x + -y).key
  rw [key_add hx (show (-y).IsFinite from hy), value_neg, ← F.nearestKey_zero]
  exact F.nearestKey_mono (by omega)

theorem sub_self_isZero : (x - x).IsZero := by
  have hkey : (x + -x).key = 0 := by
    rw [key_add hx (show (-x).IsFinite from hx), value_neg, Int.add_right_neg, F.nearestKey_zero]
  unfold IsZero
  rw [← natAbs_key]
  exact Int.natAbs_eq_zero.mpr hkey

theorem add_of_infinite (hy : ¬y.IsNaN) (hyf : ¬y.IsFinite) : x + y = y := by
  have hinfinite : y.IsInfinite := isInfinite_of_not_isFinite hy hyf
  change add x y = y
  unfold add
  rw [if_neg (not_or.mpr ⟨hx.not_isNaN, hy⟩), if_neg hx.not_isInfinite, if_pos hinfinite]

theorem key_le_of_not_isFinite (hy : y.HasSign false) (hyf : ¬y.IsFinite) : x.key ≤ y.key := by
  have hkey : 0 ≤ y.key := (hasSign_iff.mp hy).2
  have hxk := natAbs_key x
  have hyk := natAbs_key y
  unfold IsFinite at hx hyf
  omega

theorem key_ge_of_not_isFinite (hy : y.HasSign true) (hyf : ¬y.IsFinite) : y.key ≤ x.key := by
  have hkey : y.key ≤ 0 := (hasSign_iff.mp hy).2
  have hxk := natAbs_key x
  have hyk := natAbs_key y
  unfold IsFinite at hx hyf
  omega

theorem add_le_self (hy : y.HasSign true) : x + y ≤ x := by
  refine ⟨add_not_isNaN hx hy.1, hx.not_isNaN, ?_⟩
  by_cases hyf : y.IsFinite
  · have := hy.value_nonpos
    rw [key_add hx hyf, ← nearestKey_value hx]
    exact F.nearestKey_mono (by omega)
  · rw [add_of_infinite hx hy.1 hyf]
    exact key_ge_of_not_isFinite hx hy hyf

theorem self_le_add (hy : y.HasSign false) : x ≤ x + y := by
  refine ⟨hx.not_isNaN, add_not_isNaN hx hy.1, ?_⟩
  by_cases hyf : y.IsFinite
  · have := hy.value_nonneg
    rw [key_add hx hyf, ← nearestKey_value hx]
    exact F.nearestKey_mono (by omega)
  · rw [add_of_infinite hx hy.1 hyf]
    exact key_le_of_not_isFinite hx hy hyf

end

theorem mul_negative (h : ¬(x * y).IsNaN) : (x * y).negative = (x.negative ^^ y.negative) := by
  obtain ⟨-, ⟨-, -, heq⟩ | ⟨-, heq⟩⟩ := mul_cases h
  · rw [heq]
    rfl
  · rw [heq]
    rfl

theorem div_negative (h : ¬(x / y).IsNaN) : (x / y).negative = (x.negative ^^ y.negative) := by
  change (div x y).negative = _
  change ¬(div x y).IsNaN at h
  unfold div at h ⊢
  split_ifs at h ⊢ with hnan hinfinite hboth hinfinite' hzero hzeros
  · exact absurd F.infinity_lt_quiet h
  · exact absurd F.infinity_lt_quiet h
  · rfl
  · rfl
  · exact absurd F.infinity_lt_quiet h
  · rfl
  · rfl

theorem ofRatio_zero_isZero (negative : Bool) (den : Nat) :
    (ofRatio negative 0 den : Binary F).IsZero := F.nearest_zero den

theorem mul_of_isZero (h : x.IsZero ∨ y.IsZero) (hmul : ¬(x * y).IsNaN) : (x * y).IsZero := by
  obtain ⟨-, ⟨-, hzero, -⟩ | ⟨-, heq⟩⟩ := mul_cases hmul
  · exact absurd h hzero
  · have hunits : x.units * y.units = 0 := by
      rcases h with h | h
      · rw [h.units_eq, Nat.zero_mul]
      · rw [h.units_eq, Nat.mul_zero]
    rw [heq, hunits]
    exact ofRatio_zero_isZero _ _

theorem HasSign.mul (hx : zero false < x) (hxf : x.IsFinite) (hy : y.HasSign negative) :
    (x * y).HasSign negative := by
  have hnan := mul_not_isNaN hxf (not_isZero_of_pos hx) hy.1
  refine ⟨hnan, ?_⟩
  rcases hy.2 with hsign | hzero
  · left
    rw [mul_negative hnan, negative_of_pos hx, hsign, Bool.false_xor]
  · exact .inr (mul_of_isZero (.inr hzero) hnan)

theorem HasSign.div (hx : x.HasSign negative) (hy : zero false < y) (hyf : y.IsFinite) :
    (x / y).HasSign negative := by
  have hnan := div_not_isNaN hx.1 hyf (not_isZero_of_pos hy)
  refine ⟨hnan, ?_⟩
  rcases hx.2 with hsign | hzero
  · left
    rw [div_negative hnan, negative_of_pos hy, hsign, Bool.xor_false]
  · right
    rw [div_eq hzero.isFinite hyf (not_isZero_of_pos hy), hzero.units_eq, Nat.zero_mul]
    exact ofRatio_zero_isZero _ _

theorem abs_sub_self_lt (hx : x.IsFinite) (hy : zero false < y) : (x - x).abs < y := by
  have hzero : (x - x).IsZero := sub_self_isZero hx
  have hkey : (x - x).abs.key = 0 := Int.ofNat_eq_zero.mpr hzero
  refine ⟨sub_not_isNaN hx hx.not_isNaN, hy.2.1, ?_⟩
  rw [hkey]
  exact hy.2.2

theorem not_abs_lt_of_isZero (hy : y.IsZero) : ¬x.abs < y := by
  intro h
  have hkey : x.abs.key < y.key := h.2.2
  have habs : x.abs.key = x.magnitude := rfl
  have hzero : y.key.natAbs = 0 := (natAbs_key y).trans hy
  omega

theorem isZero_of_not_pos (h : zero false ≤ y) (hpos : ¬zero false < y) : y.IsZero := by
  have hle := le_of_not_lt (zero_not_isNaN false) h.2.1 hpos
  have hkey : (zero false : Binary F).key = 0 := by simp [key, zero]
  have hlow := h.2.2
  have hhigh := hle.2.2
  unfold IsZero
  rw [← natAbs_key]
  omega

theorem eq_of_le_of_le (hx : zero false < x) (h : x ≤ y) (h' : y ≤ x) : x = y := by
  have hxs := negative_of_pos hx
  have hys := negative_of_pos (lt_of_lt_of_le hx h)
  have hmagnitude : x.magnitude = y.magnitude :=
    Nat.le_antisymm (magnitude_le_of_le hxs hys h) (magnitude_le_of_le hys hxs h')
  cases x
  cases y
  simp only [mk.injEq]
  exact ⟨hxs.trans hys.symm, hmagnitude⟩

end Binary

end AdaptiveResolution
