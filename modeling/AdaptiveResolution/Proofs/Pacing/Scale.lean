import AdaptiveResolution.Pacing.Controller
import AdaptiveResolution.Proofs.Endings

namespace AdaptiveResolution.Pacing.Controller

theorem record_scale {c c' : Controller} {ticks : UInt64} (h : c.record ticks = .ok c') :
    c'.scale = c.scale := by
  unfold record at h
  simp only [bind, Except.bind] at h
  split at h
  · contradiction
  split at h
  · contradiction
  split at h
  · contradiction
  split at h
  · contradiction
  cases h
  rfl

theorem judge_scale (c : Controller) :
    (judge : Action Controller Error Decision).Ends c
      (fun d c' => c'.scale = d.scale ∧ (d.resizeNeeded = false → d.scale = c.scale))
      fun c' => c'.scale = c.scale := by
  unfold judge
  rw [Action.ends_bind, Action.ends_state, Action.ends_bind]
  apply Action.ends_ofChecked
  · intro candidate _
    simp [unchanged]
  · rfl

theorem advance_scale (ticks : UInt64) (c : Controller) :
    (advance ticks).Ends c
      (fun d c' => c'.scale = d.scale ∧ (d.resizeNeeded = false → d.scale = c.scale))
      fun c' => c'.scale = c.scale := by
  unfold advance
  simp only [Action.ends_bind, Action.ends_state, Action.ends_ite, Action.ends_fail,
    Action.ends_update, Action.ends_note, Action.ends_pure]
  refine ⟨fun _ => trivial, fun _ => ⟨fun _ => ⟨rfl, fun _ => rfl⟩, fun _ => ?_⟩⟩
  apply Action.ends_ofChecked
  · intro c' hc'
    have hscale := record_scale hc'
    refine ⟨fun _ => ?_, fun _ => ⟨rfl, fun _ => hscale⟩⟩
    rw [← hscale]
    exact judge_scale c'
  · trivial

theorem advanceDuration_scale (elapsed : Duration) (c : Controller) :
    (advanceDuration elapsed).Ends c
      (fun d c' => c'.scale = d.scale ∧ (d.resizeNeeded = false → d.scale = c.scale))
      fun c' => c'.scale = c.scale := by
  unfold advanceDuration
  split
  · exact (Action.ends_fail _ _ _ _).mpr rfl
  · exact advance_scale _ c

end AdaptiveResolution.Pacing.Controller
