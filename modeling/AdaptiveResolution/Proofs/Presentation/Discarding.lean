import AdaptiveResolution.Proofs.Pacing.Skipping
import AdaptiveResolution.Proofs.Presentation.FrameCalls
import AdaptiveResolution.Proofs.Presentation.Scripted
import AdaptiveResolution.Proofs.Presentation.Steering

namespace AdaptiveResolution.Presentation.Presenter

open Pacing (Config Controller Decision)

variable {β ε : Type} [Backend β ε]

theorem after_sound {controller : Controller} {b : β} {p : Presenter β} (h : controller.Sound)
    (hstart : (start controller b).outcome = .done p) (elapsed : List Duration) :
    (p.after elapsed).controller.Sound := by
  rw [after_controller, start_controller hstart]
  exact Controller.after_sound h _

/-- The frame time after a frame is discarded if that frame decided on a size, and recorded if it
did not. A frame that replaces the target has decided on the size itself, unless it begins with one
that an earlier frame has left pending. -/
theorem sample_discarded_iff_frame_decided {config : Config} {scale : Double}
    {controller : Controller} (hc : Controller.withScale config scale = .done controller)
    {b : β} {p : Presenter (Recorded β)}
    (hstart : (start controller ⟨b, []⟩).outcome = .done p) (elapsed : List Duration)
    {d e : Duration} (hd : d.nanos ≠ 0) (he : e.nanos ≠ 0) :
    ((start controller b).outcome = .done p.erased ∧
        (p.after elapsed).erased = p.erased.after elapsed) ∧
      let q := p.after elapsed
      let q' := (presentFrame d q).state
      let c := q'.controller
      let c' := (presentFrame e q').state.controller
      c' = (Controller.advanceDuration e c).state ∧ ∃ decision calls,
        (Controller.advanceDuration d q.controller).outcome = .done decision ∧
          q'.backend.history = calls ++ q.backend.history ∧
          (∀ event earlier size, event :: earlier <:+ calls → event.resized = some size →
            decision.resizeNeeded = true ∨ earlier = [] ∧ q.pendingResize = some size) ∧
          (decision.resizeNeeded = true → Controller.Discards c c') ∧
          (decision.resizeNeeded = false → Controller.Records c (Controller.ticksOf e) c') := by
  refine ⟨⟨start_erased hstart, after_erased p elapsed⟩, ?_⟩
  intro q q' c c'
  have hq : q.controller.Sound := after_sound (Controller.withScale_sound hc) hstart elapsed
  have hstep := presentFrame_advances d hq
  have hnext := presentFrame_advances e (hstep.sound hq)
  obtain ⟨decision, hdecision⟩ := hstep.exists_decision (Controller.durationTicks_ne_zero hd)
  rw [hdecision] at hstep
  obtain ⟨calls, hcalls, -⟩ : Followed q decision q' :=
    ((presentFrame_follows hdecision).mono (fun _ _ hr => hr.followed) fun _ hf => hf).state
  refine ⟨presentFrame_controller e q', decision, calls, hdecision, hcalls.history_eq,
    fun event earlier size hevent hresized => ?_, fun hneeded => ?_, fun hkept => ?_⟩
  · exact ((hcalls.due event earlier hevent).of_resized hresized).symm
  · exact hnext.discards (hstep.skipNext_iff.mpr hneeded)
  · have hticks : Controller.durationTicks e = Controller.ticksOf e := if_neg he
    rw [← hticks]
    refine hnext.records (fun hskip => ?_) (Controller.durationTicks_ne_zero he)
    rw [hstep.skipNext_iff.mp hskip] at hkept
    contradiction

def paired : Config where
  targetFrameTime := 100
  windowSize := 2

def pairedController : Controller :=
  Controller.fresh paired (Controller.startScale paired (.ofNat 1))

def refusingOnce : Scripted where
  output := ⟨1000, 500⟩
  script := [true, true, true, true, true, true, true, true, true, true, false]

theorem paired_withScale : Controller.withScale paired (.ofNat 1) = .done pairedController := by
  have hvalid : paired.Valid := by constructor <;> decide +kernel
  exact (Controller.withScale_eq hvalid _).trans (if_pos (by decide))

theorem sample_discarded_iff_frame_decided_halved :
    Controller.withScale paired (.ofNat 1) = .done pairedController ∧
      (Duration.ofNanos 20000).nanos ≠ 0 ∧ (Duration.ofNanos 10000).nanos ≠ 0 ∧
      ∃ p : Presenter (Recorded Scripted),
        (start pairedController ⟨refusingOnce, []⟩).outcome = .done p ∧
          let q := p.after [.ofNanos 20000]
          let q' := (presentFrame (.ofNanos 20000) q).state
          Controller.Discards q'.controller
            (presentFrame (.ofNanos 10000) q').state.controller := by
  have hstart : (start pairedController (⟨refusingOnce, []⟩ : Recorded Scripted)).outcome =
      .done _ := rfl
  have hd : (Duration.ofNanos 20000).nanos ≠ 0 := by decide
  have he : (Duration.ofNanos 10000).nanos ≠ 0 := by decide
  refine ⟨paired_withScale, hd, he, _, hstart, ?_⟩
  obtain ⟨-, -, decision, calls, hdecision, -, -, hdiscards, -⟩ :=
    sample_discarded_iff_frame_decided paired_withScale hstart [.ofNanos 20000] hd he
  apply hdiscards
  have hneeded : (Controller.advanceDuration (.ofNanos 20000)
      (Controller.advanceDuration (.ofNanos 20000) pairedController).state).outcome =
        .done ⟨.ofDecimal false 5 (-1), true⟩ := by decide +kernel
  cases hneeded.symm.trans hdecision
  rfl

-- The second frame halves the scale and the third, whose time is discarded, replaces the target
-- in its place: so the time that pays for it is the one after, and it is recorded.
theorem late_reallocation_sampled :
    Controller.withScale paired (.ofNat 1) = .done pairedController ∧
      ∃ p : Presenter (Recorded Scripted),
        (start pairedController ⟨refusingOnce, []⟩).outcome = .done p ∧
          let q := p.after [.ofNanos 20000, .ofNanos 20000]
          let q' := (presentFrame (.ofNanos 10000) q).state
          let next := (presentFrame (.ofNanos 500000) q').state.controller
          q'.backend.events.filterMap Event.resized =
              q.backend.events.filterMap Event.resized ++ [⟨500, 250⟩] ∧
            q'.controller.window = #[200, 200] ∧ next.window = #[5000, 200] ∧
            ¬Controller.Discards q'.controller next := by
  refine ⟨paired_withScale, _, rfl, by decide +kernel, by decide +kernel, by decide +kernel, ?_⟩
  rintro ⟨hwindow, -⟩
  revert hwindow
  decide +kernel

end AdaptiveResolution.Presentation.Presenter
