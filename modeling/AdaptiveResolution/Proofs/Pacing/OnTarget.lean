import AdaptiveResolution.Proofs.Binary.WholeNumbers
import AdaptiveResolution.Proofs.Pacing.Feedback

namespace AdaptiveResolution

namespace Pacing

def Operation.OnTarget (config : Config) : Operation → Prop
  | .advance ticks => ticks = config.targetFrameTime
  | .advanceDuration d => d.nanos / 100 = config.targetFrameTime.toNat
  | .reset => True

theorem Operation.OnTarget.frameTime {config : Config} (h : config.Valid) {op : Operation}
    (hop : op.OnTarget config) {ticks : UInt64} (hticks : op.frameTime = some ticks) :
    ticks = config.targetFrameTime := by
  cases op with
  | advance _ =>
    cases hticks
    exact hop
  | advanceDuration d =>
    cases hticks
    have hpos := h.target_pos
    have hlt : config.targetFrameTime.toNat < UInt64.size := config.targetFrameTime.toNat_lt
    have hd : d.nanos / 100 = config.targetFrameTime.toNat := hop
    apply UInt64.toNat_inj.mp
    rw [Controller.durationTicks_toNat (by omega), hd, Nat.max_eq_left hpos,
      Nat.min_eq_left (by omega)]
  | reset => cases hticks

structure Controller.Steady (config : Config) (scale : Double) (c : Controller) : Prop where
  reached : Reached config c
  window_eq : c.window = Array.replicate config.windowSize.toNat config.targetFrameTime
  state_eq : c.state = .normal
  scale_eq : c.scale = scale

namespace Controller

section

variable {config : Config} {scale : Double} {c : Controller}

theorem fresh_steady (h : config.Valid) (scale : Double) :
    Steady config (startScale config scale) (fresh config (startScale config scale)) :=
  ⟨fresh_reached h scale, rfl, rfl, rfl⟩

theorem verdict_on_target (h : config.Valid) (hpos : .zero false < config.threshold)
    (hs : config.Admits scale) :
    verdict config scale (.ofNat config.targetFrameTime.toNat) = ⟨scale, false⟩ := by
  have hfinite := target_isFinite config
  have hself := Binary.le_refl hfinite.not_isNaN
  have hone : .ofNat 1 ≤ (.ofNat config.targetFrameTime.toNat : Double) :=
    Binary.le_of_magnitude_le rfl rfl hfinite.not_isNaN (Binary.ofNat_mono h.target_pos)
  rw [verdict_eq, aim_eq h hs hfinite hone hself hself]
  exact if_pos (Binary.abs_sub_self_lt (hs.isFinite h) hpos)

section

variable (h : Steady config scale c)

include h

theorem Steady.valid : config.Valid := h.reached.config_eq ▸ h.reached.sound.valid

theorem Steady.average_eq
    (hexact : config.targetFrameTime.toNat * config.windowSize.toNat ≤ 1 <<< 53) :
    c.averageFrameTime = .ofNat config.targetFrameTime.toNat := by
  have hsum : c.runningSum.toNat = config.targetFrameTime.toNat * config.windowSize.toNat := by
    rw [h.reached.sound.sum_eq, h.window_eq, total_replicate, Nat.mul_comm]
  rw [averageFrameTime, hsum, h.window_eq, Array.size_replicate]
  exact Binary.ofNat_mul_div h.valid.target_pos h.valid.window_pos hexact

theorem Steady.recorded : Steady config scale (c.recorded config.targetFrameTime) where
  reached := ⟨recorded_sound h.reached.sound h.state_eq h.valid.target_ne_zero, h.reached.config_eq,
    h.reached.admits⟩
  window_eq := by
    have hcapped : min config.targetFrameTime c.config.maxFrameTime = config.targetFrameTime := by
      rw [h.reached.config_eq, min_maxFrameTime h.valid.target_le_max]
    change c.window.setIfInBounds _ _ = _
    rw [hcapped, h.window_eq]
    exact Array.setIfInBounds_replicate_self
  state_eq := h.state_eq
  scale_eq := h.scale_eq

theorem Steady.reset : Steady config scale (fresh c.config c.scale) where
  reached := ⟨fresh_sound h.reached.sound.valid _, h.reached.config_eq, h.reached.admits⟩
  window_eq := by rw [h.reached.config_eq]; rfl
  state_eq := rfl
  scale_eq := h.scale_eq

variable (hpos : .zero false < config.threshold)
  (hexact : config.targetFrameTime.toNat * config.windowSize.toNat ≤ 1 <<< 53)

include hpos hexact

theorem Steady.advances {o : Outcome Error Decision} {c' : Controller}
    (hstep : Advances c config.targetFrameTime o c') :
    o = .done ⟨scale, false⟩ ∧ Steady config scale c' := by
  have hunchanged : c.unchanged = ⟨scale, false⟩ := by rw [unchanged, h.scale_eq]
  cases hstep with
  | zero ht => exact absurd ht h.valid.target_ne_zero
  | skipped ht hs => cases h.state_eq.symm.trans hs
  | inside ht hs hi => exact ⟨by rw [hunchanged], h.recorded⟩
  | judged ht hs hi d hd =>
    have hverdict := verdict_on_target h.valid hpos (h.scale_eq ▸ h.reached.admits)
    rw [h.recorded.average_eq hexact, h.reached.config_eq, h.scale_eq, hverdict] at hd
    subst hd
    exact ⟨rfl, h.recorded⟩

theorem Steady.performs {op : Operation} (hop : op.OnTarget config)
    {o : Outcome Error (Option Decision)} {c' : Controller} (hstep : Performs c op o c') :
    o = .done (op.frameTime.map fun _ => ⟨scale, false⟩) ∧ Steady config scale c' := by
  cases hstep with
  | advance hticks hstep =>
    cases hop.frameTime h.valid hticks
    obtain ⟨rfl, hsteady⟩ := h.advances hpos hexact hstep
    rw [hticks]
    exact ⟨rfl, hsteady⟩
  | reset => exact ⟨rfl, h.reset⟩

theorem Steady.after {ops : List Operation} (hops : ∀ op ∈ ops, op.OnTarget config) :
    Steady config scale (c.after ops) := by
  induction ops generalizing c with
  | nil => exact h
  | cons op ops ih =>
    obtain ⟨hop, hrest⟩ := List.forall_mem_cons.mp hops
    have hstep := perform_performs h.reached.sound op
    exact ih (h.performs hpos hexact hop hstep).2 hrest

end

end

/-- Frame times of just the target, in ticks or as durations, with resets between them in any order,
never ask for a new size: the scale stays the one the controller started with, every slot holds the
target and the average is the target, after every call. -/
theorem on_target_keeps_scale (config : Config) (scale : Double) (hv : config.validate = .ok ())
    (hpos : .zero false < config.threshold)
    (hexact : config.targetFrameTime.toNat * config.windowSize.toNat ≤ 1 <<< 53) :
    ∃ c, withScale config scale = .done c ∧ c.scale = startScale config scale ∧
      ∀ ops : List Operation, (∀ op ∈ ops, op.OnTarget config) →
        let q := c.after ops
        q.scale = c.scale ∧ q.state = .normal ∧
          q.window = Array.replicate config.windowSize.toNat config.targetFrameTime ∧
          q.averageFrameTime = .ofNat config.targetFrameTime.toNat ∧
          ∀ op : Operation, op.OnTarget config →
            (op.perform q).outcome = .done (op.frameTime.map fun _ => ⟨c.scale, false⟩) := by
  have hvalid := (config.validate_eq_ok_iff).mp hv
  have hfits : config.windowSize.toNat * 8 < 1 <<< 63 := by
    have hle := (Nat.le_mul_of_pos_left config.windowSize.toNat hvalid.target_pos).trans hexact
    exact (Nat.mul_le_mul_right 8 hle).trans_lt (by decide)
  refine ⟨_, (withScale_eq hvalid scale).trans (if_pos hfits), rfl, fun ops hops => ?_⟩
  have hq := (fresh_steady hvalid scale).after hpos hexact hops
  refine ⟨hq.scale_eq, hq.state_eq, hq.window_eq, hq.average_eq hexact, fun op hop => ?_⟩
  exact (hq.performs hpos hexact hop (perform_performs hq.reached.sound op)).1

theorem on_target_keeps_scale_widest :
    let config : Config := { targetFrameTime := .ofNat (1 <<< 51), windowSize := 4 }
    let ops : List Operation := [.advance (.ofNat (1 <<< 51)), .reset,
      .advanceDuration (.ofNanos (1 <<< 51 * 100))]
    config.validate = .ok () ∧ .zero false < config.threshold ∧
      config.targetFrameTime.toNat * config.windowSize.toNat ≤ 1 <<< 53 ∧
      (∀ op ∈ ops, op.OnTarget config) ∧ ∃ c, withScale config .nan = .done c ∧
        (c.after ops).averageFrameTime = .ofNat (1 <<< 51) ∧
        ((Operation.advance (.ofNat (1 <<< 51))).perform (c.after ops)).outcome =
          .done (some ⟨c.scale, false⟩) := by
  intro config ops
  have hv : config.validate = .ok () := by
    rw [Config.validate_eq_ok_iff]
    constructor <;> decide +kernel
  have hpos : .zero false < config.threshold := by decide +kernel
  have hexact : config.targetFrameTime.toNat * config.windowSize.toNat ≤ 1 <<< 53 := by decide
  have hops : ∀ op ∈ ops, op.OnTarget config := by
    simp only [ops, List.forall_mem_cons, List.not_mem_nil, false_imp_iff, implies_true, and_true]
    exact ⟨rfl, trivial, show (Duration.ofNanos (1 <<< 51 * 100)).nanos / 100 = 1 <<< 51 by decide⟩
  obtain ⟨c, hc, -, hrun⟩ := on_target_keeps_scale config .nan hv hpos hexact
  obtain ⟨-, -, -, haverage, hnext⟩ := hrun ops hops
  exact ⟨hv, hpos, hexact, hops, c, hc, haverage, hnext (.advance (.ofNat (1 <<< 51))) rfl⟩

end Controller

end Pacing

end AdaptiveResolution
