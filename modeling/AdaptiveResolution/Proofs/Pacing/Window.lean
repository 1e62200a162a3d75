import AdaptiveResolution.Proofs.Pacing.ValidConfig
import Mathlib.Algebra.Order.BigOperators.Group.List

/-!
The window of a controller and its running sum. The sum is that of the slots and no slot exceeds
the longest frame time allowed, which is why recording a frame time never leaves the 64 bits.
-/

namespace AdaptiveResolution.Pacing

def total (window : Array UInt64) : Nat := (window.toList.map UInt64.toNat).sum

theorem total_replicate (n : Nat) (x : UInt64) : total (Array.replicate n x) = n * x.toNat := by
  simp [total]

theorem total_set (window : Array UInt64) (i : Nat) (x : UInt64) (hi : i < window.size) :
    total (window.setIfInBounds i x) + window[i].toNat = total window + x.toNat := by
  have hlen : i < (window.toList.map UInt64.toNat).length := by simpa using hi
  have hsplit := List.sum_take_add_sum_drop (window.toList.map UInt64.toNat) i
  rw [List.drop_eq_getElem_cons hlen, List.sum_cons, List.getElem_map, Array.getElem_toList] at hsplit
  simp only [total, Array.toList_setIfInBounds, List.map_set, List.sum_set, if_pos hlen]
  omega

theorem total_le (window : Array UInt64) (bound : Nat) (h : ∀ slot ∈ window, slot.toNat ≤ bound) :
    total window ≤ window.size * bound := by
  have hle := List.sum_le_card_nsmul (window.toList.map UInt64.toNat) bound (by
    intro n hn
    obtain ⟨slot, hslot, rfl⟩ := List.mem_map.mp hn
    exact h slot (Array.mem_toList_iff.mp hslot))
  simpa [total] using hle

namespace Controller

structure Sound (c : Controller) : Prop where
  valid : c.config.Valid
  size_eq : c.window.size = c.config.windowSize.toNat
  index_lt : c.writeIndex < c.config.windowSize.toNat
  slot_pos : ∀ slot ∈ c.window, 1 ≤ slot.toNat
  slot_le : ∀ slot ∈ c.window, slot.toNat ≤ c.config.maxFrameTime.toNat
  sum_eq : c.runningSum.toNat = total c.window
  skip_index : c.state = .skipNext → c.writeIndex = 0

theorem Sound.total_lt {c : Controller} (h : c.Sound) : total c.window < UInt64.size := by
  have hle := total_le c.window _ h.slot_le
  rw [h.size_eq] at hle
  exact hle.trans_lt h.valid.window_mul_max_lt

def fresh (config : Config) (scale : Double) : Controller where
  config := config
  window := Array.replicate config.windowSize.toNat config.targetFrameTime
  writeIndex := 0
  runningSum := config.targetFrameTime * config.windowSize
  state := .normal
  scale := scale

theorem fresh_sound {config : Config} (h : config.Valid) (scale : Double) :
    (fresh config scale).Sound where
  valid := h
  size_eq := by simp [fresh]
  index_lt := h.window_pos
  slot_pos := by
    intro slot hslot
    rw [Array.eq_of_mem_replicate hslot]
    exact h.target_pos
  slot_le := by
    intro slot hslot
    rw [Array.eq_of_mem_replicate hslot]
    exact h.target_le_max
  sum_eq := by
    rw [fresh, total_replicate, UInt64.toNat_mul, Nat.mod_eq_of_lt h.target_sum_lt, Nat.mul_comm]
  skip_index := by simp [fresh]

theorem refill_eq {config : Config} (h : config.Valid) (scale : Double) :
    refill config config.windowSize.toNat scale = .ok (fresh config scale) := by
  have hsize : UInt64.ofNat config.windowSize.toNat = config.windowSize := UInt64.ofNat_toNat
  simp only [refill, Checked.mul64, hsize, if_pos h.target_sum_lt]
  rfl

def startScale (config : Config) (scale : Double) : Double :=
  if scale.IsNaN then config.scaleCeiling else config.clampScale scale

theorem withScale_eq {config : Config} (h : config.Valid) (scale : Double) :
    withScale config scale =
      if config.windowSize.toNat * 8 < 1 <<< 63 then .done (fresh config (startScale config scale))
      else .trapped .capacityOverflow := by
  have hstart : initialScale config scale = .ok (startScale config scale) := by
    unfold initialScale startScale
    rw [h.clamp_eq]
    split <;> rfl
  simp only [withScale, (config.validate_eq_ok_iff).mpr h, refill_eq h, hstart, Checked.reserve]
  split <;> rfl

theorem min_toNat (x y : UInt64) : (min x y).toNat = min x.toNat y.toNat := by
  rw [show min x y = if x ≤ y then x else y from rfl, Nat.min_def]
  simp only [UInt64.le_iff_toNat_le]
  split <;> rfl

theorem min_maxFrameTime {config : Config} {ticks : UInt64}
    (h : ticks.toNat ≤ config.maxFrameTime.toNat) : min ticks config.maxFrameTime = ticks := by
  apply UInt64.toNat_inj.mp
  rw [min_toNat, Nat.min_eq_left h]

def recorded (c : Controller) (ticks : UInt64) : Controller :=
  let window := c.window.setIfInBounds c.writeIndex (min ticks c.config.maxFrameTime)
  { c with
    window
    writeIndex := (c.writeIndex + 1) % c.window.size
    runningSum := UInt64.ofNat (total window) }

theorem recorded_sound {c : Controller} (h : c.Sound) (hn : c.state = .normal) {ticks : UInt64}
    (ht : ticks ≠ 0) : (c.recorded ticks).Sound := by
  have hpos : 1 ≤ ticks.toNat :=
    Nat.pos_of_ne_zero fun h0 => ht (UInt64.toNat_inj.mp h0)
  have hslot_le : ∀ slot ∈ (c.recorded ticks).window, slot.toNat ≤ c.config.maxFrameTime.toNat := by
    intro slot hslot
    rcases Array.mem_or_eq_of_mem_setIfInBounds hslot with hold | rfl
    · exact h.slot_le slot hold
    · rw [min_toNat]
      exact Nat.min_le_right _ _
  have hsize : (c.recorded ticks).window.size = c.config.windowSize.toNat := by
    rw [← h.size_eq]
    exact Array.size_setIfInBounds
  have hsum : total (c.recorded ticks).window < UInt64.size := by
    have hle := total_le _ _ hslot_le
    rw [hsize] at hle
    exact hle.trans_lt h.valid.window_mul_max_lt
  exact {
    valid := h.valid
    size_eq := hsize
    index_lt := by
      simpa only [recorded, h.size_eq] using Nat.mod_lt _ h.valid.window_pos
    slot_pos := by
      intro slot hslot
      rcases Array.mem_or_eq_of_mem_setIfInBounds hslot with hold | rfl
      · exact h.slot_pos slot hold
      · rw [min_toNat]
        exact Nat.le_min.mpr ⟨hpos, h.valid.max_pos⟩
    slot_le := hslot_le
    sum_eq := UInt64.toNat_ofNat_of_lt' hsum
    skip_index := fun hskip => by simp [recorded, hn] at hskip }

theorem Sound.recorded_index {c : Controller} (h : c.Sound) (ticks : UInt64) :
    (c.recorded ticks).writeIndex =
      if c.writeIndex + 1 = c.config.windowSize.toNat then 0 else c.writeIndex + 1 := by
  have hlt := h.index_lt
  simp only [recorded, h.size_eq]
  split
  · rename_i hfull
    rw [hfull, Nat.mod_self]
  · exact Nat.mod_eq_of_lt (by omega)

theorem record_eq {c : Controller} (h : c.Sound) (hn : c.state = .normal) {ticks : UInt64}
    (ht : ticks ≠ 0) : c.record ticks = .ok (c.recorded ticks) := by
  have hi : c.writeIndex < c.window.size := h.size_eq ▸ h.index_lt
  let sample := min ticks c.config.maxFrameTime
  let oldest := c.window[c.writeIndex]
  have hsum := h.sum_eq
  have hset : total (c.recorded ticks).window + oldest.toNat = total c.window + sample.toNat :=
    total_set c.window c.writeIndex sample hi
  have hlt := (recorded_sound h hn ht).total_lt
  -- The oldest slot is part of the sum, so it can be taken off before the new one is added.
  have hoccurs : oldest.toNat ≤ total c.window :=
    List.le_sum_of_mem (List.mem_map_of_mem (Array.getElem_mem_toList hi))
  have hsub : oldest ≤ c.runningSum := by
    rw [UInt64.le_iff_toNat_le]
    omega
  have hrest : (c.runningSum - oldest).toNat = c.runningSum.toNat - oldest.toNat :=
    UInt64.toNat_sub_of_le _ _ hsub
  have hadd : (c.runningSum - oldest).toNat + sample.toNat < UInt64.size := by omega
  have hnew : c.runningSum - oldest + sample = UInt64.ofNat (total (c.recorded ticks).window) := by
    apply UInt64.toNat_inj.mp
    rw [UInt64.toNat_add, Nat.mod_eq_of_lt hadd, UInt64.toNat_ofNat_of_lt' hlt]
    omega
  have hget : Checked.get c.window c.writeIndex = .ok oldest := by
    simp only [Checked.get, Array.getElem?_eq_getElem hi, oldest]
  have hmod : Checked.mod (c.writeIndex + 1) c.window.size =
      .ok ((c.writeIndex + 1) % c.window.size) := if_neg (by omega)
  have hsub64 : Checked.sub64 c.runningSum oldest = .ok (c.runningSum - oldest) := if_pos hsub
  have hadd64 : Checked.add64 (c.runningSum - oldest) sample =
      .ok (c.runningSum - oldest + sample) := if_pos hadd
  rw [hnew] at hadd64
  simp only [record, hget, hmod, hsub64, bind, Except.bind]
  simp only [show min ticks c.config.maxFrameTime = sample from rfl, hadd64]
  rfl

end Controller

end AdaptiveResolution.Pacing
