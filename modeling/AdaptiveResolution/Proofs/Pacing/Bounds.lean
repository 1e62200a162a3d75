import AdaptiveResolution.Proofs.Binary.Arithmetic
import AdaptiveResolution.Proofs.Pacing.Runs

namespace AdaptiveResolution.Pacing

namespace Config

variable {config : Config} {scale : Double}

def Admits (config : Config) (scale : Double) : Prop :=
  config.scaleFloor ≤ scale ∧ scale ≤ config.scaleCeiling

theorem Valid.floor_admitted (h : config.Valid) : config.Admits config.scaleFloor :=
  ⟨Binary.le_refl h.floor_le_ceiling.1, h.floor_le_ceiling⟩

theorem Valid.ceiling_admitted (h : config.Valid) : config.Admits config.scaleCeiling :=
  ⟨h.floor_le_ceiling, Binary.le_refl h.floor_le_ceiling.2.1⟩

theorem Valid.clampScale_admitted (h : config.Valid) (hs : ¬scale.IsNaN) :
    config.Admits (config.clampScale scale) := by
  unfold clampScale
  split_ifs with hlow hhigh
  · exact h.floor_admitted
  · exact h.ceiling_admitted
  · exact ⟨Binary.le_of_not_lt hs h.floor_le_ceiling.1 hlow,
      Binary.le_of_not_lt h.floor_le_ceiling.2.1 hs hhigh⟩

theorem Admits.clampScale_eq (h : config.Admits scale) : config.clampScale scale = scale := by
  rw [clampScale, if_neg (Binary.not_lt_of_le h.1), if_neg (Binary.not_lt_of_le h.2)]

theorem Admits.pos (h : config.Admits scale) (hv : config.Valid) : .zero false < scale :=
  Binary.lt_of_lt_of_le hv.floor_pos h.1

theorem Admits.le_one (h : config.Admits scale) (hv : config.Valid) : scale ≤ .ofNat 1 :=
  Binary.le_trans h.2 hv.ceiling_le_one

theorem Admits.isFinite (h : config.Admits scale) (hv : config.Valid) : scale.IsFinite :=
  Binary.isFinite_of_between (Binary.le_of_lt (h.pos hv)) (h.le_one hv) Binary.one_isFinite

end Config

namespace Controller

theorem startScale_admitted {config : Config} (h : config.Valid) (scale : Double) :
    config.Admits (startScale config scale) := by
  unfold startScale
  split_ifs with hs
  · exact h.ceiling_admitted
  · exact h.clampScale_admitted hs

theorem startScale_eq {config : Config} {scale : Double} (h : config.Admits scale) :
    startScale config scale = scale := by
  rw [startScale, if_neg h.1.2.1, h.clampScale_eq]

theorem le_total (window : Array UInt64) (h : ∀ slot ∈ window, 1 ≤ slot.toNat) :
    window.size ≤ total window := by
  have hle := List.card_nsmul_le_sum (window.toList.map UInt64.toNat) 1 (by
    intro n hn
    obtain ⟨slot, hslot, rfl⟩ := List.mem_map.mp hn
    exact h slot (Array.mem_toList_iff.mp hslot))
  simpa [total] using hle

theorem sum_isFinite (c : Controller) : (Binary.ofNat c.runningSum.toNat : Double).IsFinite :=
  Binary.ofNat_isFinite c.runningSum.toNat_lt

section

variable {c : Controller} (h : c.Sound)

include h

theorem Sound.size_pos : 0 < c.window.size := h.size_eq ▸ h.valid.window_pos

theorem Sound.size_le_sum : c.window.size ≤ c.runningSum.toNat :=
  h.sum_eq ▸ le_total c.window h.slot_pos

theorem Sound.size_isFinite : (Binary.ofNat c.window.size : Double).IsFinite :=
  Binary.ofNat_isFinite (h.size_le_sum.trans_lt c.runningSum.toNat_lt)

theorem Sound.one_le_size :
    (.ofNat 1 : Double).magnitude ≤ (.ofNat c.window.size : Double).magnitude :=
  Binary.ofNat_mono h.size_pos

theorem Sound.average_isFinite : c.averageFrameTime.IsFinite :=
  Binary.div_isFinite c.sum_isFinite h.size_isFinite h.one_le_size

theorem Sound.one_le_average : .ofNat 1 ≤ c.averageFrameTime := by
  have hsize := Binary.not_isZero_of_le Binary.one_not_isZero h.one_le_size
  exact Binary.one_le_div c.sum_isFinite h.size_isFinite hsize rfl rfl
    (Binary.ofNat_mono h.size_le_sum)

end

section

variable {config : Config} (h : config.Valid) {scale average : Double} (hs : config.Admits scale)
  (ha : average.IsFinite) (ha1 : .ofNat 1 ≤ average)

include h hs ha ha1

theorem changed_not_isNaN :
    ¬(scale + scale * ((.ofNat config.targetFrameTime.toNat - average) / average)).IsNaN := by
  have htarget : (.ofNat config.targetFrameTime.toNat : Double).IsFinite :=
    Binary.ofNat_isFinite config.targetFrameTime.toNat_lt
  have haverage := Binary.not_isZero_of_pos (Binary.lt_of_lt_of_le Binary.zero_lt_one ha1)
  have hdelta := Binary.div_not_isNaN (Binary.sub_not_isNaN htarget ha.not_isNaN) ha haverage
  have hscale := hs.isFinite h
  exact Binary.add_not_isNaN hscale
    (Binary.mul_not_isNaN hscale (Binary.not_isZero_of_pos (hs.pos h)) hdelta)

theorem verdict_admitted : config.Admits (verdict config scale average).scale := by
  unfold verdict
  dsimp only
  split_ifs
  · exact hs
  · exact h.clampScale_admitted (changed_not_isNaN h hs ha ha1)

end

def Bounded (c : Controller) : Prop := c.config.Admits c.scale

theorem fresh_bounded {config : Config} {scale : Double} (h : config.Admits scale) :
    (fresh config scale).Bounded := h

theorem decided_bounded {c : Controller} (h : c.Sound) (hb : c.Bounded) :
    (c.decided (verdict c.config c.scale c.averageFrameTime)).Bounded := by
  unfold decided
  split
  · exact verdict_admitted h.valid hb h.average_isFinite h.one_le_average
  · exact hb

theorem Advances.bounded {c c' : Controller} {ticks : UInt64} {o : Outcome Error Decision}
    (h : c.Sound) (hb : c.Bounded) (hstep : Advances c ticks o c') : c'.Bounded := by
  cases hstep with
  | zero ht => exact hb
  | skipped ht hs => exact hb
  | inside ht hs hi => exact hb
  | judged ht hs hi d hd =>
    subst hd
    exact decided_bounded (recorded_sound h hs ht) hb

theorem Advances.scale_eq {c c' : Controller} {ticks : UInt64} {d : Decision}
    (hstep : Advances c ticks (.done d) c') : c'.scale = d.scale := by
  cases hstep with
  | skipped ht hs => rfl
  | inside ht hs hi => rfl
  | judged ht hs hi d hd =>
    unfold decided
    split
    · rfl
    · rename_i hkept
      rw [hd] at hkept ⊢
      exact (verdict_scale (Bool.eq_false_iff.mpr hkept)).symm

theorem Performs.bounded {c c' : Controller} {op : Operation} {o : Outcome Error (Option Decision)}
    (h : c.Sound) (hb : c.Bounded) (hstep : Performs c op o c') : c'.Bounded := by
  cases hstep with
  | advance hop hstep => exact hstep.bounded h hb
  | reset => exact fresh_bounded hb

theorem Performs.scale_eq {c c' : Controller} {op : Operation} {d : Decision}
    (hstep : Performs c op (.done (some d)) c') : c'.scale = d.scale := by
  generalize ho : (Outcome.done (some d) : Outcome Error (Option Decision)) = o at hstep
  cases hstep with
  | @advance op ticks o c' hop hstep =>
    cases o with
    | done d' =>
      cases ho
      exact hstep.scale_eq
    | failed e => cases ho
    | trapped t => cases ho
  | reset => cases ho

theorem after_bounded {c : Controller} (h : c.Sound) (hb : c.Bounded) (ops : List Operation) :
    (c.after ops).Bounded := by
  have hboth : (c.after ops).Sound ∧ (c.after ops).Bounded := by
    apply after_induction (P := fun c => c.Sound ∧ c.Bounded) ⟨h, hb⟩
    rintro c op ⟨h, hb⟩
    have hstep := perform_performs h op
    exact ⟨hstep.sound h, hstep.bounded h hb⟩
  exact hboth.2

structure Reached (config : Config) (c : Controller) : Prop where
  sound : c.Sound
  config_eq : c.config = config
  admits : config.Admits c.scale

theorem Reached.bounded {config : Config} {c : Controller} (h : Reached config c) : c.Bounded := by
  rw [Bounded, h.config_eq]
  exact h.admits

theorem Reached.after {config : Config} {c : Controller} (h : Reached config c)
    (ops : List Operation) : Reached config (c.after ops) where
  sound := after_sound h.sound ops
  config_eq := (after_config h.sound ops).trans h.config_eq
  admits := by
    have hafter := after_bounded h.sound h.bounded ops
    rwa [Bounded, after_config h.sound, h.config_eq] at hafter

theorem fresh_reached {config : Config} (h : config.Valid) (scale : Double) :
    Reached config (fresh config (startScale config scale)) :=
  ⟨fresh_sound h _, rfl, startScale_admitted h scale⟩

/-- Whatever a controller is started with and fed, its scale is a number within the bounds of its
configuration and is what each decision tells, its average is finite and at least one tick, and no
call clamps between bounds that are out of order or traps otherwise. -/
theorem scale_within_bounds (config : Config) (scale : Double) (hv : config.validate = .ok ()) :
    withScale config scale = .trapped .capacityOverflow ∧ 1 <<< 63 ≤ config.windowSize.toNat * 8 ∨
      ∃ c, withScale config scale = .done c ∧ ∀ ops : List Operation,
        let q := c.after ops
        (¬q.scale.IsNaN ∧ config.scaleFloor ≤ q.scale ∧ q.scale ≤ config.scaleCeiling) ∧
          (.zero false < q.scale ∧ q.scale ≤ .ofNat 1) ∧
          (q.averageFrameTime.IsFinite ∧ .ofNat 1 ≤ q.averageFrameTime) ∧
          (∀ (op : Operation) (d : Decision), (op.perform q).outcome = .done (some d) →
            d.scale = (op.perform q).state.scale) ∧
          (∀ x : Double, Checked.clamp x q.config.scaleFloor q.config.scaleCeiling =
            .ok (config.clampScale x)) ∧
          ∀ (op : Operation) (t : Trap), (op.perform q).outcome ≠ .trapped t := by
  rcases withScale_cases hv scale with hlong | ⟨hc, hsound⟩
  · exact .inl hlong
  · refine .inr ⟨_, hc, fun ops => ?_⟩
    have hvalid := (config.validate_eq_ok_iff).mp hv
    have hq := after_sound hsound ops
    have hconfig := after_config hsound ops
    have hscale := after_bounded hsound (fresh_bounded (startScale_admitted hvalid scale)) ops
    rw [Bounded, hconfig] at hscale
    refine ⟨⟨hscale.1.2.1, hscale⟩, ⟨hscale.pos hvalid, hscale.le_one hvalid⟩,
      ⟨hq.average_isFinite, hq.one_le_average⟩, fun op d hd => ?_, fun x => ?_, fun op t => ?_⟩
    · have hstep := perform_performs hq op
      rw [hd] at hstep
      exact hstep.scale_eq.symm
    · rw [hconfig]
      exact hvalid.clamp_eq x
    · exact (perform_performs hq op).not_trapped t

theorem scale_within_bounds_extreme :
    let config : Config := { targetFrameTime := .ofNat (UInt64.size - 1), windowSize := 1 }
    config.validate = .ok () ∧ ∃ c, withScale config .nan = .done c ∧
      let q := c.after [.advance 1, .advance 7, .advance (.ofNat (UInt64.size - 1))]
      config.scaleFloor ≤ q.scale ∧ q.scale ≤ config.scaleCeiling := by
  intro config
  have hv : config.validate = .ok () := by
    rw [Config.validate_eq_ok_iff]
    constructor <;> decide +kernel
  rcases scale_within_bounds config .nan hv with ⟨-, hlong⟩ | ⟨c, hc, hrun⟩
  · exact absurd hlong (by decide)
  · exact ⟨hv, c, hc, (hrun _).1.2⟩

end Controller

end AdaptiveResolution.Pacing
