import AdaptiveResolution.Pacing.Controller
import Mathlib.Algebra.GroupWithZero.Nat
import Mathlib.Algebra.Order.Group.Nat
import Mathlib.Tactic.SplitIfs

namespace AdaptiveResolution.Pacing.Config

structure Valid (config : Config) : Prop where
  window_pos : 0 < config.windowSize.toNat
  target_pos : 0 < config.targetFrameTime.toNat
  target_sum_lt : config.targetFrameTime.toNat * config.windowSize.toNat < UInt64.size
  floor_pos : .zero false < config.scaleFloor
  floor_le_ceiling : config.scaleFloor ≤ config.scaleCeiling
  ceiling_le_one : config.scaleCeiling ≤ .ofNat 1
  threshold_finite : config.threshold.IsFinite
  threshold_nonneg : .zero false ≤ config.threshold

theorem validate_eq_ok_iff (config : Config) : config.validate = .ok () ↔ config.Valid := by
  have hw : config.windowSize = 0 ↔ config.windowSize.toNat = 0 := UInt64.toNat_inj.symm
  have ht : config.targetFrameTime = 0 ↔ config.targetFrameTime.toNat = 0 := UInt64.toNat_inj.symm
  constructor
  · intro h
    unfold validate at h
    split_ifs at h with hwindow htarget hsum hbounds hthreshold
    rw [hw] at hwindow
    rw [ht] at htarget
    exact {
      window_pos := Nat.pos_of_ne_zero hwindow
      target_pos := Nat.pos_of_ne_zero htarget
      target_sum_lt := Nat.lt_of_not_le hsum
      floor_pos := hbounds.1
      floor_le_ceiling := hbounds.2.1
      ceiling_le_one := hbounds.2.2
      threshold_finite := hthreshold.1
      threshold_nonneg := hthreshold.2 }
  · intro h
    have hwindow : config.windowSize ≠ 0 := fun h0 => h.window_pos.ne' (hw.mp h0)
    have htarget : config.targetFrameTime ≠ 0 := fun h0 => h.target_pos.ne' (ht.mp h0)
    unfold validate
    rw [if_neg hwindow, if_neg htarget, if_neg (Nat.not_le.mpr h.target_sum_lt),
      if_neg (not_not.mpr ⟨h.floor_pos, h.floor_le_ceiling, h.ceiling_le_one⟩),
      if_neg (not_not.mpr ⟨h.threshold_finite, h.threshold_nonneg⟩)]

theorem maxFrameTime_toNat {config : Config} (h : config.Valid) :
    config.maxFrameTime.toNat = (UInt64.size - 1) / config.windowSize.toNat := by
  unfold maxFrameTime
  rw [Nat.max_eq_left h.window_pos, UInt64.toNat_ofNat_of_lt']
  exact (Nat.div_le_self _ _).trans_lt (by decide)

theorem Valid.target_ne_zero {config : Config} (h : config.Valid) : config.targetFrameTime ≠ 0 :=
  fun hzero => h.target_pos.ne' (congrArg UInt64.toNat hzero)

theorem Valid.target_le_max {config : Config} (h : config.Valid) :
    config.targetFrameTime.toNat ≤ config.maxFrameTime.toNat := by
  rw [maxFrameTime_toNat h, Nat.le_div_iff_mul_le h.window_pos]
  have := h.target_sum_lt
  omega

theorem Valid.window_mul_max_lt {config : Config} (h : config.Valid) :
    config.windowSize.toNat * config.maxFrameTime.toNat < UInt64.size := by
  rw [maxFrameTime_toNat h]
  exact (Nat.mul_div_le _ _).trans_lt (by decide)

theorem Valid.max_pos {config : Config} (h : config.Valid) : 0 < config.maxFrameTime.toNat :=
  h.target_pos.trans_le h.target_le_max

def clampScale (config : Config) (scale : Double) : Double :=
  if scale < config.scaleFloor then config.scaleFloor
  else if config.scaleCeiling < scale then config.scaleCeiling
  else scale

theorem Valid.clamp_eq {config : Config} (h : config.Valid) (scale : Double) :
    Checked.clamp scale config.scaleFloor config.scaleCeiling = .ok (config.clampScale scale) :=
  if_pos h.floor_le_ceiling

end AdaptiveResolution.Pacing.Config
