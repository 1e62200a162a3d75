import AdaptiveResolution.Extent
import AdaptiveResolution.Proofs.Binary.Signs
import AdaptiveResolution.Proofs.Binary.WholeNumbers

namespace AdaptiveResolution

namespace Binary

variable {F : Format} {x y x' y' : Binary F}

theorem pos_iff : zero false < x ↔ ¬x.IsNaN ∧ x.negative = false ∧ ¬x.IsZero := by
  constructor
  · exact fun h => ⟨h.2.1, negative_of_pos h, not_isZero_of_pos h⟩
  · rintro ⟨hnan, hsign, hzero⟩
    refine ⟨zero_not_isNaN _, hnan, ?_⟩
    have hpos : 0 < x.magnitude := Nat.pos_of_ne_zero hzero
    simpa [key, zero, hsign] using hpos

theorem pos_of_mul_pos (hx : x.negative = false) (h : zero false < x * y) :
    zero false < x ∧ zero false < y := by
  obtain ⟨hmul, hsign, hzero⟩ := pos_iff.mp h
  obtain ⟨⟨hxn, hyn⟩, -⟩ := mul_cases hmul
  rw [mul_negative hmul, hx, Bool.false_xor] at hsign
  have hfactors := not_or.mp fun hfactor => hzero (mul_of_isZero hfactor hmul)
  exact ⟨pos_iff.mpr ⟨hxn, hx, hfactors.1⟩, pos_iff.mpr ⟨hyn, hsign, hfactors.2⟩⟩

theorem units_le_units (h : x.magnitude ≤ y.magnitude) (hy : ¬y.IsNaN) : x.units ≤ y.units :=
  F.units_le_units h (Nat.le_of_not_lt hy)

theorem mul_magnitude_mono (hx : x.magnitude ≤ x'.magnitude) (hy : y.magnitude ≤ y'.magnitude)
    (hmul : ¬(x * y).IsNaN) (hmul' : ¬(x' * y').IsNaN) :
    (x * y).magnitude ≤ (x' * y').magnitude := by
  obtain ⟨⟨hxn, hyn⟩, -⟩ := mul_cases hmul'
  by_cases hfinite : x'.IsFinite ∧ y'.IsFinite
  · obtain ⟨hxf, hyf⟩ := hfinite
    rw [mul_eq (hx.trans_lt hxf) (hy.trans_lt hyf), mul_eq hxf hyf]
    apply F.nearest_mono (one_pos F) (one_pos F)
    exact Nat.mul_le_mul_right _ (Nat.mul_le_mul (units_le_units hx hxn) (units_le_units hy hyn))
  · -- The larger product is infinite, and no number has a greater magnitude.
    have hinfinite : (x' * y').IsInfinite := by
      apply mul_of_isInfinite _ hmul'
      rcases not_and_or.mp hfinite with h | h
      · exact .inl (isInfinite_of_not_isFinite hxn h)
      · exact .inr (isInfinite_of_not_isFinite hyn h)
    rw [show (x' * y').magnitude = F.infinity from hinfinite]
    exact Nat.le_of_not_lt hmul

theorem mul_le_mul (hx : zero false < x) (hx' : x ≤ x') (hfinite : x'.IsFinite)
    (hy : zero false < y) (hy' : y ≤ y') : x * y ≤ x' * y' := by
  have hpos := lt_of_lt_of_le hx hx'
  have hxs := negative_of_pos hx
  have hxs' := negative_of_pos hpos
  have hys := negative_of_pos hy
  have hys' := negative_of_pos (lt_of_lt_of_le hy hy')
  have hxm := magnitude_le_of_le hxs hxs' hx'
  have hmul : ¬(x * y).IsNaN :=
    mul_not_isNaN (hxm.trans_lt hfinite) (not_isZero_of_pos hx) hy.2.1
  have hmul' : ¬(x' * y').IsNaN := mul_not_isNaN hfinite (not_isZero_of_pos hpos) hy'.2.1
  apply le_of_magnitude_le _ _ hmul'
  · exact mul_magnitude_mono hxm (magnitude_le_of_le hys hys' hy') hmul hmul'
  · rw [mul_negative hmul, hxs, hys, Bool.xor_false]
  · rw [mul_negative hmul', hxs', hys', Bool.xor_false]

theorem mul_one (hx : x.IsFinite) : x * ofNat 1 = x := by
  have hmagnitude : F.nearest (x.units * F.one) F.one = x.magnitude :=
    F.nearest_units (Nat.le_of_lt hx) (one_pos F)
  rw [mul_eq hx one_isFinite, units_one]
  cases x
  simp only [ofRatio, mk.injEq]
  exact ⟨Bool.xor_false _, hmagnitude⟩

theorem roundToUInt32_of_not_pos (h : ¬zero false < x) : x.roundToUInt32 = 0 := by
  unfold roundToUInt32
  split_ifs with hx
  · rfl
  · have hzero : x.IsZero := by
      obtain ⟨hnan, hsign⟩ := not_or.mp hx
      by_contra hne
      exact h (pos_iff.mpr ⟨hnan, Bool.eq_false_iff.mpr hsign, hne⟩)
    have hone := one_pos F
    rw [hzero.units_eq, Nat.div_eq_of_lt (by omega)]
    rfl

theorem roundToUInt32_toNat (hsign : x.negative = false) (hnan : ¬x.IsNaN) :
    x.roundToUInt32.toNat = min ((2 * x.units + F.one) / (2 * F.one)) (UInt32.size - 1) := by
  rw [roundToUInt32, if_neg (by simp [hsign, hnan])]
  exact UInt32.toNat_ofNat_of_lt' ((Nat.min_le_right _ _).trans_lt (by decide))

theorem roundToUInt32_mono (h : zero false < x → x ≤ y) : x.roundToUInt32 ≤ y.roundToUInt32 := by
  rw [UInt32.le_iff_toNat_le]
  by_cases hx : zero false < x
  · have hy : zero false < y := lt_of_lt_of_le hx (h hx)
    have hxs := negative_of_pos hx
    have hys := negative_of_pos hy
    have hunits : x.units ≤ y.units := units_le_units (magnitude_le_of_le hxs hys (h hx)) hy.2.1
    rw [roundToUInt32_toNat hxs hx.2.1, roundToUInt32_toNat hys hy.2.1]
    exact min_le_min_right _ (Nat.div_le_div_right (by omega))
  · rw [roundToUInt32_of_not_pos hx]
    exact Nat.zero_le _

theorem ofNat_toNat_isFinite (n : UInt32) : (ofNat n.toNat : Double).IsFinite :=
  ofNat_isFinite (n.toNat_lt.trans (by decide))

theorem roundToUInt32_ofNat (n : UInt32) : (ofNat n.toNat : Double).roundToUInt32 = n := by
  have hunits : (ofNat n.toNat : Double).units = n.toNat * Format.double.one :=
    ofNat_units (n.toNat_lt.trans (by decide))
  have hquotient : (2 * (n.toNat * Format.double.one) + Format.double.one) /
      (2 * Format.double.one) = n.toNat := by
    have hone := one_pos .double
    rw [Nat.mul_left_comm, Nat.mul_comm n.toNat, Nat.mul_add_div (by omega),
      Nat.div_eq_of_lt (by omega), Nat.add_zero]
  apply UInt32.toNat_inj.mp
  rw [roundToUInt32_toNat rfl (ofNat_toNat_isFinite n).not_isNaN, hunits, hquotient]
  exact Nat.min_eq_left (Nat.le_sub_one_of_lt n.toNat_lt)

end Binary

theorem max_toNat (x y : UInt32) : (max x y).toNat = max x.toNat y.toNat := by
  rw [show max x y = if x ≤ y then y else x from rfl, Nat.max_def]
  simp only [UInt32.le_iff_toNat_le]
  split <;> rfl

section

variable {dimension dimension' : UInt32} {scale scale' : Double}

theorem one_le_scaledDimension (dimension : UInt32) (scale : Double) :
    1 ≤ scaledDimension dimension scale := by
  rw [UInt32.le_iff_toNat_le, scaledDimension, max_toNat]
  exact Nat.le_max_right _ _

theorem scaledDimension_mono (hdimension : dimension ≤ dimension')
    (hscale : .zero false < scale → scale ≤ scale') :
    scaledDimension dimension scale ≤ scaledDimension dimension' scale' := by
  rw [UInt32.le_iff_toNat_le, scaledDimension, scaledDimension, max_toNat, max_toNat]
  apply max_le_max_right
  apply UInt32.le_iff_toNat_le.mp
  apply Binary.roundToUInt32_mono
  intro hpos
  obtain ⟨hwhole, hs⟩ := Binary.pos_of_mul_pos rfl hpos
  have hfinite := Binary.ofNat_toNat_isFinite dimension'
  have hle : (Binary.ofNat dimension.toNat : Double) ≤ Binary.ofNat dimension'.toNat :=
    Binary.le_of_magnitude_le rfl rfl hfinite.not_isNaN
      (Binary.ofNat_mono (UInt32.le_iff_toNat_le.mp hdimension))
  exact Binary.mul_le_mul hwhole hle hfinite hs (hscale hs)

theorem scaledDimension_one (dimension : UInt32) :
    scaledDimension dimension (.ofNat 1) = max dimension 1 := by
  rw [scaledDimension, Binary.mul_one (Binary.ofNat_toNat_isFinite dimension),
    Binary.roundToUInt32_ofNat]

end

namespace Extent

instance : LE Extent := ⟨fun e e' => e.width ≤ e'.width ∧ e.height ≤ e'.height⟩

variable {output output' : Extent} {scale scale' : Double}

theorem le_refl (e : Extent) : e ≤ e := ⟨UInt32.le_refl _, UInt32.le_refl _⟩

theorem le_trans {e e' e'' : Extent} (h : e ≤ e') (h' : e' ≤ e'') : e ≤ e'' :=
  ⟨UInt32.le_trans h.1 h'.1, UInt32.le_trans h.2 h'.2⟩

theorem scaled_mono (houtput : output ≤ output') (hscale : .zero false < scale → scale ≤ scale') :
    output.scaled scale ≤ output'.scaled scale' :=
  ⟨scaledDimension_mono houtput.1 hscale, scaledDimension_mono houtput.2 hscale⟩

theorem one_le_scaled (output : Extent) (scale : Double) : ⟨1, 1⟩ ≤ output.scaled scale :=
  ⟨one_le_scaledDimension _ _, one_le_scaledDimension _ _⟩

theorem scaled_one (output : Extent) : output.scaled (.ofNat 1) = output.nonempty := by
  rw [scaled, scaledDimension_one, scaledDimension_one, nonempty]

theorem scaled_le_nonempty (output : Extent) (h : scale ≤ .ofNat 1) :
    output.scaled scale ≤ output.nonempty := by
  rw [← output.scaled_one]
  exact scaled_mono output.le_refl fun _ => h

/-- A scaled extent is never empty, grows with the scale and with the extent, and a scale of one
takes it up to the extent itself. None of this asks the scale to be positive or finite. -/
theorem scaled_monotone_bounded (output : Extent) (scale : Double) :
    ⟨1, 1⟩ ≤ output.scaled scale ∧
      output.scaled (.ofNat 1) = ⟨max output.width 1, max output.height 1⟩ ∧
      (∀ scale', scale ≤ scale' → output.scaled scale ≤ output.scaled scale') ∧
      (∀ output', output ≤ output' → output.scaled scale ≤ output'.scaled scale) ∧
      (scale ≤ .ofNat 1 → output.scaled scale ≤ ⟨max output.width 1, max output.height 1⟩) := by
  refine ⟨output.one_le_scaled scale, output.scaled_one, fun scale' h => ?_, fun output' h => ?_,
    output.scaled_le_nonempty⟩
  · exact scaled_mono output.le_refl fun _ => h
  · exact scaled_mono h fun hpos => Binary.le_refl hpos.2.1

theorem scaled_monotone_bounded_halved :
    let half : Double := .ofDecimal false 5 (-1)
    let output : Extent := ⟨0, 1001⟩
    output.scaled half = ⟨1, 501⟩ ∧ output.scaled half ≤ output.scaled (.infinity false) ∧
      output.scaled half ≤ (⟨7, 4294967295⟩ : Extent).scaled half ∧
      output.scaled half ≤ ⟨1, 1001⟩ := by
  intro half output
  obtain ⟨-, -, hscale, houtput, hone⟩ := scaled_monotone_bounded output half
  exact ⟨by decide +kernel, hscale _ (by decide +kernel), houtput _ ⟨by decide, by decide⟩,
    hone (by decide +kernel)⟩

end Extent

end AdaptiveResolution
