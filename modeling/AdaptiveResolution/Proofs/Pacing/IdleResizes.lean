import AdaptiveResolution.Proofs.Pacing.Batch
import AdaptiveResolution.Proofs.Binary.WholeNumbers
import AdaptiveResolution.Proofs.Pacing.Feedback

namespace AdaptiveResolution

namespace Pacing

theorem verdict_idle_iff {config : Config} (h : config.Valid) {scale average : Double}
    (hs : config.Admits scale) :
    (verdict config scale average).resizeNeeded = true ∧
        (verdict config scale average).scale = scale ↔
      config.threshold.IsZero ∧ aim config scale average = scale := by
  rw [verdict_eq]
  split_ifs with hnear
  · constructor
    · rintro ⟨hneeded, -⟩
      cases hneeded
    · rintro ⟨hzero, -⟩
      exact absurd hnear (Binary.not_abs_lt_of_isZero hzero)
  · constructor
    · rintro ⟨-, hsame⟩
      refine ⟨?_, hsame⟩
      apply Binary.isZero_of_not_pos h.threshold_nonneg
      intro hpos
      rw [show aim config scale average = scale from hsame] at hnear
      exact hnear (Binary.abs_sub_self_lt (hs.isFinite h) hpos)
    · rintro ⟨-, hsame⟩
      exact ⟨rfl, hsame⟩

namespace Controller

theorem candidate_eq {c : Controller} (h : c.config.Valid) :
    c.candidate = .ok (aim c.config c.scale c.averageFrameTime) := h.clamp_eq _

theorem Advances.idle_iff {config : Config} {c c' : Controller} {ticks : UInt64} {d : Decision}
    (h : Reached config c) (hstep : Advances c ticks (.done d) c') :
    d.resizeNeeded = true ∧ d.scale.Equal c.scale ↔
      config.threshold.IsZero ∧ c.Completes ∧ (c.recorded ticks).candidate = .ok c.scale := by
  have hvalid := h.sound.valid
  have hscale : c.config.Admits c.scale := h.bounded
  let average := (c.recorded ticks).averageFrameTime
  have hidle : (verdict c.config c.scale average).resizeNeeded = true ∧
      (verdict c.config c.scale average).scale = c.scale ↔
        c.config.threshold.IsZero ∧ aim c.config c.scale average = c.scale :=
    verdict_idle_iff hvalid hscale
  have hcandidate : (c.recorded ticks).candidate = .ok (aim c.config c.scale average) :=
    candidate_eq hvalid
  rw [hcandidate, ← h.config_eq]
  constructor
  · rintro ⟨hneeded, hequal⟩
    have hsame : d.scale = c.scale :=
      (Binary.eq_of_le_of_le (hscale.pos hvalid) hequal.2 hequal.1).symm
    obtain ⟨hfull, rfl⟩ := hstep.judged_of_resize h.sound hneeded
    obtain ⟨hzero, haim⟩ := hidle.mp ⟨hneeded, hsame⟩
    exact ⟨hzero, hfull, by rw [haim]⟩
  · rintro ⟨hzero, hfull, haim⟩
    obtain ⟨rfl, -⟩ := hstep.judged_of_completes h.sound hfull
    obtain ⟨hneeded, hsame⟩ := hidle.mpr ⟨hzero, Except.ok.inj haim⟩
    rw [hsame]
    have hself := Binary.le_refl (hscale.isFinite hvalid).not_isNaN
    exact ⟨hneeded, hself, hself⟩

section

variable {config : Config} (h : config.Valid)

include h

theorem verdict_idle_at_ceiling (hzero : config.threshold.IsZero) :
    verdict config config.scaleCeiling (.ofNat 1) = ⟨config.scaleCeiling, true⟩ := by
  have hceiling := h.ceiling_admitted
  have hself : (.ofNat 1 : Double) ≤ .ofNat 1 := Binary.le_refl Binary.one_isFinite.not_isNaN
  have hfast : (.ofNat 1 : Double) ≤ .ofNat config.targetFrameTime.toNat :=
    Binary.le_of_magnitude_le rfl rfl (target_isFinite config).not_isNaN
      (Binary.ofNat_mono h.target_pos)
  have hup := le_aim h hceiling Binary.one_isFinite hself hfast
  have hdown := (aim_admitted h hceiling Binary.one_isFinite hself).2
  have haim := Binary.eq_of_le_of_le (hceiling.pos h) hup hdown
  obtain ⟨hneeded, hsame⟩ := (verdict_idle_iff h hceiling).mpr ⟨hzero, haim.symm⟩
  generalize verdict config config.scaleCeiling (.ofNat 1) = d at hneeded hsame
  cases d
  cases hneeded
  cases hsame
  rfl

theorem fill_at_ceiling (hzero : config.threshold.IsZero) :
    let q := (fresh config config.scaleCeiling).after
      (List.replicate (config.windowSize.toNat - 1) (.advance 1))
    q.scale = config.scaleCeiling ∧
      ((Operation.advance 1).perform q).outcome = .done (some ⟨config.scaleCeiling, true⟩) := by
  intro q
  have hone : min (1 : UInt64).toNat ((UInt64.size - 1) / config.windowSize.toNat) = 1 := by
    rw [← Config.maxFrameTime_toNat h]
    exact Nat.min_eq_left h.max_pos
  have haverage : (.ofNat config.windowSize.toNat / .ofNat config.windowSize.toNat : Double) =
      .ofNat 1 :=
    Binary.div_self (Binary.ofNat_isFinite config.windowSize.toNat_lt)
      (Binary.ofNat_not_isZero h.window_pos)
  have hticks : (1 : UInt64) ≠ 0 := by decide
  obtain ⟨hscale, hanswer⟩ := decision_of_fill h config.scaleCeiling hticks
  rw [hone, Nat.mul_one, haverage, verdict_idle_at_ceiling h hzero] at hanswer
  exact ⟨hscale, hanswer⟩

end

/-- A frame time is answered with a new size for the old scale if and only if the threshold is zero,
the window is full and the scale it aims at is the old one. With a positive threshold, then, every
new size is one of a new scale. With a threshold of zero it is not so: a controller that starts at
its ceiling and is fed the shortest frame times asks for a new size as soon as its window is full. -/
theorem resize_without_change_iff (config : Config) (hv : config.validate = .ok ()) :
    (∀ (scale : Double) (c : Controller), withScale config scale = .done c →
      ∀ (ops : List Operation) (op : Operation) (ticks : UInt64), op.frameTime = some ticks →
        ticks ≠ 0 → ∃ d, (op.perform (c.after ops)).outcome = .done (some d) ∧
          (d.resizeNeeded = true ∧ d.scale.Equal (c.after ops).scale ↔
            config.threshold.IsZero ∧ (c.after ops).Completes ∧
              ((c.after ops).recorded ticks).candidate = .ok (c.after ops).scale)) ∧
      (config.windowSize.toNat * 8 < 1 <<< 63 → config.threshold.IsZero →
        ∃ c, new config = .done c ∧
          let q := c.after (List.replicate (config.windowSize.toNat - 1) (.advance 1))
          q.scale = config.scaleCeiling ∧
            ((Operation.advance 1).perform q).outcome =
              .done (some ⟨config.scaleCeiling, true⟩)) := by
  have hvalid := (config.validate_eq_ok_iff).mp hv
  constructor
  · intro scale c hc ops op ticks hticks ht
    obtain ⟨-, rfl⟩ := withScale_done hc
    have hq := (fresh_reached hvalid scale).after ops
    obtain ⟨d, hd, hstep⟩ := (perform_performs hq.sound op).decides hticks ht
    exact ⟨d, hd, hstep.idle_iff hq⟩
  · intro hfits hzero
    have hstart := (withScale_eq hvalid config.scaleCeiling).trans (if_pos hfits)
    rw [startScale_eq hvalid.ceiling_admitted] at hstart
    exact ⟨_, hstart, fill_at_ceiling hvalid hzero⟩

theorem resize_without_change_iff_lenient :
    let config : Config := { targetFrameTime := 100, windowSize := 3, threshold := .zero false }
    config.validate = .ok () ∧ config.windowSize.toNat * 8 < 1 <<< 63 ∧ config.threshold.IsZero ∧
      (∃ c, withScale config (.ofNat 1) = .done c ∧
        let q := c.after [.advance 100, .advanceDuration (.ofNanos 10000)]
        ∃ d, ((Operation.advance 100).perform q).outcome = .done (some d) ∧
          d.resizeNeeded = true ∧ d.scale.Equal q.scale) ∧
      ∃ c, new config = .done c ∧
        ((Operation.advance 1).perform (c.after [.advance 1, .advance 1])).outcome =
          .done (some ⟨config.scaleCeiling, true⟩) := by
  intro config
  have hv : config.validate = .ok () := by
    rw [Config.validate_eq_ok_iff]
    constructor <;> decide +kernel
  have hfits : config.windowSize.toNat * 8 < 1 <<< 63 := by decide
  have hzero : config.threshold.IsZero := rfl
  have hc := (withScale_eq ((config.validate_eq_ok_iff).mp hv) (.ofNat 1)).trans (if_pos hfits)
  obtain ⟨hexact, hidle⟩ := resize_without_change_iff config hv
  obtain ⟨d, hd, hiff⟩ := hexact (.ofNat 1) _ hc [.advance 100, .advanceDuration (.ofNanos 10000)]
    (.advance 100) 100 rfl (by decide)
  obtain ⟨c, hnew, -, hceiling⟩ := hidle hfits hzero
  refine ⟨hv, hfits, hzero, ⟨_, hc, d, hd, hiff.mpr ⟨hzero, ?_, ?_⟩⟩, c, hnew, hceiling⟩
  · exact ⟨by decide +kernel, by decide +kernel⟩
  · decide +kernel

theorem new_size_without_change :
    let config : Config := { targetFrameTime := 100, windowSize := 1, threshold := .zero false }
    config.validate = .ok () ∧ ∃ c, withScale config (.ofNat 1) = .done c ∧ c.scale = .ofNat 1 ∧
      (advance 100 c).outcome = .done ⟨.ofNat 1, true⟩ ∧
      (advance 100 c).state.state = .skipNext := by
  intro config
  have hv : config.validate = .ok () := by
    rw [Config.validate_eq_ok_iff]
    constructor <;> decide +kernel
  have hc := (withScale_eq ((config.validate_eq_ok_iff).mp hv) (.ofNat 1)).trans (if_pos (by decide))
  exact ⟨hv, _, hc, by decide +kernel, by decide +kernel, by decide +kernel⟩

end Controller

end Pacing

end AdaptiveResolution
