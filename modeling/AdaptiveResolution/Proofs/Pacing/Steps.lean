import AdaptiveResolution.Proofs.Pacing.Window

namespace AdaptiveResolution.Pacing

def verdict (config : Config) (scale average : Double) : Decision :=
  let delta := (.ofNat config.targetFrameTime.toNat - average) / average
  let candidate := config.clampScale (scale + scale * delta)
  if (scale - candidate).abs < config.threshold then ⟨scale, false⟩ else ⟨candidate, true⟩

theorem verdict_scale {config : Config} {scale average : Double}
    (h : (verdict config scale average).resizeNeeded = false) :
    (verdict config scale average).scale = scale := by
  unfold verdict at h ⊢
  dsimp only at h ⊢
  split
  · rfl
  · rename_i hfar
    rw [if_neg hfar] at h
    contradiction

theorem verdict_far {config : Config} {scale average : Double}
    (h : (verdict config scale average).resizeNeeded = true) :
    ¬(scale - (verdict config scale average).scale).abs < config.threshold := by
  unfold verdict at h ⊢
  dsimp only at h ⊢
  split
  · rename_i hnear
    rw [if_pos hnear] at h
    contradiction
  · assumption

namespace Controller

def decided (c : Controller) (d : Decision) : Controller :=
  if d.resizeNeeded then { c with scale := d.scale, state := .skipNext } else c

theorem judge_eq {c : Controller} (h : c.config.Valid) :
    (judge c).outcome = .done (verdict c.config c.scale c.averageFrameTime) ∧
      (judge c).state = c.decided (verdict c.config c.scale c.averageFrameTime) := by
  let candidate := c.config.clampScale (c.scale + c.scale *
    ((.ofNat c.config.targetFrameTime.toNat - c.averageFrameTime) / c.averageFrameTime))
  have hcandidate : c.candidate = .ok candidate := h.clamp_eq _
  by_cases hnear : (c.scale - candidate).abs < c.config.threshold
  · have hverdict : verdict c.config c.scale c.averageFrameTime = ⟨c.scale, false⟩ := if_pos hnear
    rw [hverdict]
    simp only [judge, Action.bind_apply, Pure.pure, Action.pure, Action.state, Action.ofChecked,
      Action.ofOutcome, Outcome.ofChecked, Action.note, hcandidate, if_pos hnear]
    exact ⟨rfl, rfl⟩
  · have hverdict : verdict c.config c.scale c.averageFrameTime = ⟨candidate, true⟩ := if_neg hnear
    rw [hverdict]
    simp only [judge, Action.bind_apply, Pure.pure, Action.pure, Action.state, Action.ofChecked,
      Action.ofOutcome, Outcome.ofChecked, Action.note, Action.update, hcandidate, if_neg hnear,
      true_and]
    rfl

inductive Advances (c : Controller) (ticks : UInt64) :
    Outcome Error Decision → Controller → Prop where
  | zero (ht : ticks = 0) : Advances c ticks (.failed .zeroFrameTime) c
  | skipped (ht : ticks ≠ 0) (hs : c.state = .skipNext) :
      Advances c ticks (.done c.unchanged) { c with state := .normal }
  | inside (ht : ticks ≠ 0) (hs : c.state = .normal) (hi : (c.recorded ticks).writeIndex ≠ 0) :
      Advances c ticks (.done c.unchanged) (c.recorded ticks)
  | judged (ht : ticks ≠ 0) (hs : c.state = .normal) (hi : (c.recorded ticks).writeIndex = 0)
      (d : Decision) (hd : d = verdict c.config c.scale (c.recorded ticks).averageFrameTime) :
      Advances c ticks (.done d) ((c.recorded ticks).decided d)

theorem advance_advances {c : Controller} (h : c.Sound) (ticks : UInt64) :
    Advances c ticks (advance ticks c).outcome (advance ticks c).state := by
  by_cases ht : ticks = 0
  · simp only [advance, Action.bind_apply, Action.state, Action.fail, if_pos ht]
    exact .zero ht
  · cases hs : c.state with
    | skipNext =>
      simp only [advance, Action.bind_apply, Pure.pure, Action.pure, Action.state, Action.update,
        Action.note, if_neg ht, if_pos hs]
      exact .skipped ht hs
    | normal =>
      have hrecord : Action.ofChecked (c.record ticks) =
          (pure (c.recorded ticks) : Action Controller Error Controller) := by
        rw [record_eq h hs ht]
        rfl
      have hnormal : ¬c.state = .skipNext := by simp [hs]
      by_cases hi : (c.recorded ticks).writeIndex = 0
      · have hjudge := judge_eq (c := c.recorded ticks) h.valid
        simp only [advance, Action.bind_apply, Pure.pure, Action.pure, Action.state, Action.update,
          hrecord, if_neg ht, if_neg hnormal, if_pos hi]
        rw [hjudge.1, hjudge.2]
        exact .judged ht hs hi _ rfl
      · simp only [advance, Action.bind_apply, Pure.pure, Action.pure, Action.state, Action.update,
          hrecord, if_neg ht, if_neg hnormal, if_neg hi]
        exact .inside ht hs hi

theorem sound_of_frame {c c' : Controller} (h : c.Sound) (hconfig : c'.config = c.config)
    (hwindow : c'.window = c.window) (hindex : c'.writeIndex = c.writeIndex)
    (hsum : c'.runningSum = c.runningSum) (hskip : c'.state = .skipNext → c.writeIndex = 0) :
    c'.Sound where
  valid := hconfig ▸ h.valid
  size_eq := by rw [hwindow, hconfig]; exact h.size_eq
  index_lt := by rw [hindex, hconfig]; exact h.index_lt
  slot_pos := hwindow ▸ h.slot_pos
  slot_le := by rw [hwindow, hconfig]; exact h.slot_le
  sum_eq := by rw [hsum, hwindow]; exact h.sum_eq
  skip_index := fun hs => hindex ▸ hskip hs

theorem decided_sound {c : Controller} (h : c.Sound) (hi : c.writeIndex = 0) (d : Decision) :
    (c.decided d).Sound := by
  unfold decided
  split
  · exact sound_of_frame h rfl rfl rfl rfl fun _ => hi
  · exact h

theorem Advances.sound {c c' : Controller} {ticks : UInt64} {o : Outcome Error Decision}
    (h : c.Sound) (hstep : Advances c ticks o c') : c'.Sound := by
  cases hstep with
  | zero ht => exact h
  | skipped ht hs => exact sound_of_frame h rfl rfl rfl rfl fun hn => by simp at hn
  | inside ht hs hi => exact recorded_sound h hs ht
  | judged ht hs hi d hd => exact decided_sound (recorded_sound h hs ht) hi d

theorem Advances.config_eq {c c' : Controller} {ticks : UInt64} {o : Outcome Error Decision}
    (hstep : Advances c ticks o c') : c'.config = c.config := by
  cases hstep with
  | zero ht => rfl
  | skipped ht hs => rfl
  | inside ht hs hi => rfl
  | judged ht hs hi d hd =>
    unfold decided
    split <;> rfl

theorem Advances.not_trapped {c c' : Controller} {ticks : UInt64} {o : Outcome Error Decision}
    (hstep : Advances c ticks o c') (t : Trap) : o ≠ .trapped t := by
  cases hstep <;> simp

def durationTicks (d : Duration) : UInt64 := if d.nanos = 0 then 0 else ticksOf d

theorem durationTicks_toNat {d : Duration} (hd : d.nanos ≠ 0) :
    (durationTicks d).toNat = min (max (d.nanos / 100) 1) (UInt64.size - 1) := by
  rw [durationTicks, if_neg hd, ticksOf, UInt64.toNat_ofNat_of_lt']
  exact (Nat.min_le_right _ _).trans_lt (by decide)

theorem advanceDuration_eq (d : Duration) : advanceDuration d = advance (durationTicks d) := by
  unfold advanceDuration durationTicks
  split <;> rfl

theorem reset_eq {ε : Type} {c : Controller} (h : c.Sound) :
    (reset : Action Controller ε Unit) c = ⟨.done (), fresh c.config c.scale, []⟩ := by
  have hrefill : Action.ofChecked (refill c.config c.window.size c.scale) =
      (pure (fresh c.config c.scale) : Action Controller ε Controller) := by
    rw [h.size_eq, refill_eq h.valid]
    rfl
  simp only [reset, Action.bind_apply, Action.state, hrefill]
  rfl

end Controller

end AdaptiveResolution.Pacing
