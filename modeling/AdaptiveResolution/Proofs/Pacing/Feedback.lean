import AdaptiveResolution.Proofs.Binary.Signs
import AdaptiveResolution.Proofs.Pacing.ResizeRate

namespace AdaptiveResolution.Pacing

section

variable {config : Config} {scale x : Double}

theorem Config.Admits.clampScale_le (hs : config.Admits scale) (hx : x ≤ scale) :
    config.clampScale x ≤ scale := by
  unfold clampScale
  split_ifs with hlow hhigh
  · exact hs.1
  · exact absurd hhigh (Binary.not_lt_of_le (Binary.le_trans hx hs.2))
  · exact hx

theorem Config.Admits.le_clampScale (hs : config.Admits scale) (hx : scale ≤ x) :
    scale ≤ config.clampScale x := by
  unfold clampScale
  split_ifs with hlow hhigh
  · exact absurd hlow (Binary.not_lt_of_le (Binary.le_trans hs.1 hx))
  · exact hs.2
  · exact hx

end

def aim (config : Config) (scale average : Double) : Double :=
  config.clampScale (scale + scale * ((.ofNat config.targetFrameTime.toNat - average) / average))

theorem verdict_eq (config : Config) (scale average : Double) :
    verdict config scale average =
      if (scale - aim config scale average).abs < config.threshold then ⟨scale, false⟩
      else ⟨aim config scale average, true⟩ := rfl

theorem target_isFinite (config : Config) :
    (Binary.ofNat config.targetFrameTime.toNat : Double).IsFinite :=
  Binary.ofNat_isFinite config.targetFrameTime.toNat_lt

section

variable {config : Config} (h : config.Valid) {scale average : Double} (hs : config.Admits scale)
  (ha : average.IsFinite) (ha1 : .ofNat 1 ≤ average)

include h hs ha ha1

theorem change_hasSign {negative : Bool}
    (hgap : (.ofNat config.targetFrameTime.toNat - average : Double).HasSign negative) :
    (scale * ((.ofNat config.targetFrameTime.toNat - average) / average)).HasSign negative :=
  (hgap.div (Binary.lt_of_lt_of_le Binary.zero_lt_one ha1) ha).mul (hs.pos h) (hs.isFinite h)

theorem aim_admitted : config.Admits (aim config scale average) :=
  h.clampScale_admitted (Controller.changed_not_isNaN h hs ha ha1)

theorem aim_le (hslow : .ofNat config.targetFrameTime.toNat ≤ average) :
    aim config scale average ≤ scale := by
  have hgap := Binary.sub_hasSign_true (target_isFinite config) ha hslow
  exact hs.clampScale_le (Binary.add_le_self (hs.isFinite h) (change_hasSign h hs ha ha1 hgap))

theorem le_aim (hfast : average ≤ .ofNat config.targetFrameTime.toNat) :
    scale ≤ aim config scale average := by
  have hgap := Binary.sub_hasSign_false (target_isFinite config) ha hfast
  exact hs.le_clampScale (Binary.self_le_add (hs.isFinite h) (change_hasSign h hs ha ha1 hgap))

theorem aim_eq (hslow : .ofNat config.targetFrameTime.toNat ≤ average)
    (hfast : average ≤ .ofNat config.targetFrameTime.toNat) : aim config scale average = scale :=
  (Binary.eq_of_le_of_le (hs.pos h) (le_aim h hs ha ha1 hfast) (aim_le h hs ha ha1 hslow)).symm

theorem verdict_le (hslow : .ofNat config.targetFrameTime.toNat ≤ average) :
    (verdict config scale average).scale ≤ scale := by
  rw [verdict_eq]
  split
  · exact Binary.le_refl (hs.isFinite h).not_isNaN
  · exact aim_le h hs ha ha1 hslow

theorem le_verdict (hfast : average ≤ .ofNat config.targetFrameTime.toNat) :
    scale ≤ (verdict config scale average).scale := by
  rw [verdict_eq]
  split
  · exact Binary.le_refl (hs.isFinite h).not_isNaN
  · exact le_aim h hs ha ha1 hfast

end

namespace Controller

theorem averageFrameTime_decided (c : Controller) (d : Decision) :
    (c.decided d).averageFrameTime = c.averageFrameTime := by
  unfold decided
  split <;> rfl

theorem Advances.judged_of_completes {c c' : Controller} {ticks : UInt64} {d : Decision}
    (h : c.Sound) (hc : c.Completes) (hstep : Advances c ticks (.done d) c') :
    d = verdict c.config c.scale (c.recorded ticks).averageFrameTime ∧
      c'.averageFrameTime = (c.recorded ticks).averageFrameTime := by
  cases hstep with
  | skipped ht hs => cases hs.symm.trans hc.1
  | inside ht hs hi => exact absurd ((h.completes_iff hs ticks).mp hc) hi
  | judged ht hs hi d hd => exact ⟨hd, averageFrameTime_decided _ _⟩

/-- Whatever a controller is started with and fed, a call that fills the window gives a scale that
is not above the one before if the average is not below the target, not below it if the average is
not above the target, and the same if the two are equal. -/
theorem feedback_sign (config : Config) (scale : Double) (hv : config.validate = .ok ()) :
    withScale config scale = .trapped .capacityOverflow ∧ 1 <<< 63 ≤ config.windowSize.toNat * 8 ∨
      ∃ c, withScale config scale = .done c ∧ ∀ (ops : List Operation) (op : Operation),
        op.Measures → (c.after ops).state = .normal →
        (c.after ops).writeIndex + 1 = config.windowSize.toNat →
        let q := c.after ops
        let q' := (op.perform q).state
        let target : Double := .ofNat config.targetFrameTime.toNat
        (∃ d, (op.perform q).outcome = .done (some d) ∧ d.scale = q'.scale) ∧
          (target ≤ q'.averageFrameTime ∨ q'.averageFrameTime ≤ target) ∧
          (target ≤ q'.averageFrameTime → q'.scale ≤ q.scale) ∧
          (q'.averageFrameTime ≤ target → q.scale ≤ q'.scale) ∧
          (q'.averageFrameTime.Equal target → q'.scale = q.scale) := by
  rcases withScale_cases hv scale with hlong | ⟨hc, -⟩
  · exact .inl hlong
  · refine .inr ⟨_, hc, fun ops op hop hs hfull => ?_⟩
    have hvalid := (config.validate_eq_ok_iff).mp hv
    obtain ⟨hq, hconfig, hscale⟩ := (fresh_reached hvalid scale).after ops
    intro q q' target
    obtain ⟨ticks, hticks, ht⟩ := hop
    obtain ⟨d, hd, hstep⟩ := (perform_performs hq op).decides hticks ht
    obtain ⟨hdecided, haverage⟩ := hstep.judged_of_completes hq ⟨hs, by rw [hfull, hconfig]⟩
    have hscale' : q'.scale = d.scale := hstep.scale_eq
    have hq' := hstep.sound hq
    have ha := hq'.average_isFinite
    have ha1 := hq'.one_le_average
    rw [hconfig, ← haverage] at hdecided
    rw [hscale', hdecided]
    refine ⟨⟨d, hd, by rw [hdecided]⟩, ?_, verdict_le hvalid hscale ha ha1,
      le_verdict hvalid hscale ha ha1, fun hequal => ?_⟩
    · by_cases hfast : q'.averageFrameTime < target
      · exact .inr (Binary.le_of_lt hfast)
      · exact .inl (Binary.le_of_not_lt ha.not_isNaN (target_isFinite config).not_isNaN hfast)
    · have hkept := aim_eq hvalid hscale ha ha1 hequal.2 hequal.1
      rw [verdict_eq, hkept]
      split <;> rfl

theorem feedback_sign_longest :
    let config : Config := { targetFrameTime := .ofNat (1 <<< 62 + 1), windowSize := 2 }
    let op : Operation := .advanceDuration .greatest
    config.validate = .ok () ∧ op.Measures ∧ ∃ c, withScale config (.ofNat 1) = .done c ∧
      let q := c.after [.advance (.ofNat (1 <<< 62))]
      q.state = .normal ∧ q.writeIndex + 1 = config.windowSize.toNat ∧
        .ofNat config.targetFrameTime.toNat ≤ (op.perform q).state.averageFrameTime ∧
        (op.perform q).state.scale ≤ q.scale := by
  intro config op
  have hv : config.validate = .ok () := by
    rw [Config.validate_eq_ok_iff]
    constructor <;> decide +kernel
  have hop : op.Measures := ⟨_, rfl, by decide⟩
  rcases feedback_sign config (.ofNat 1) hv with ⟨-, hlong⟩ | ⟨c, hc, hrun⟩
  · exact absurd hlong (by decide)
  · have hstart := (withScale_done hc).2
    have hs : (c.after [.advance (.ofNat (1 <<< 62))]).state = .normal := by
      rw [hstart]
      decide +kernel
    have hfull : (c.after [.advance (.ofNat (1 <<< 62))]).writeIndex + 1 = 2 := by
      rw [hstart]
      decide +kernel
    have hslow : .ofNat config.targetFrameTime.toNat ≤
        (op.perform (c.after [.advance (.ofNat (1 <<< 62))])).state.averageFrameTime := by
      rw [hstart]
      decide +kernel
    exact ⟨hv, hop, c, hc, hs, hfull, hslow, (hrun _ op hop hs hfull).2.2.1 hslow⟩

end Controller

end AdaptiveResolution.Pacing
