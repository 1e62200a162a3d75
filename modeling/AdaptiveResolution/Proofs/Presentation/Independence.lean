import AdaptiveResolution.Proofs.Presentation.Discarding
import AdaptiveResolution.Proofs.Presentation.FrameCourse

namespace AdaptiveResolution

namespace Duration

theorem ofNanos_nanos (d : Duration) : ofNanos d.nanos = d := by
  have hlt := d.nanos_lt
  unfold ofNanos
  congr 1
  omega

theorem ofNanos_add (n : Nat) (d : Duration) : (ofNanos n).add d = ofNanos (n + d.nanos) := by
  unfold add ofNanos
  congr 1
  dsimp only
  omega

end Duration

namespace Presentation

open Pacing (Config Controller Decision Operation)

def totalTime (elapsed : List Duration) : Duration :=
  .ofNanos (elapsed.map Duration.nanos).sum

namespace Presenter

variable {β β' ε ε' : Type} [Backend β ε] [Backend β' ε']

structure PacedBy (now : Duration) (decided : Outcome Pacing.Error Decision) (d : Duration)
    (p : Presenter (Recorded β)) : Prop where
  renders : ∃ made, (presentFrame d p).state.backend.history = made ++ p.backend.history ∧
    ∀ e ∈ made, ∀ frame, e.call = .render frame → frame.time = now
  reports : ∀ report, (presentFrame d p).outcome = .done report →
    ∃ decision, decided = .done decision ∧ report.scale = decision.scale

variable {p : Presenter (Recorded β)} {d : Duration}

theorem presentFrame_time (h : p.controller.Sound) (d : Duration) :
    (presentFrame d p).state.time = p.time.add d := by
  by_cases hd : d.nanos = 0
  · rw [presentFrame_zero hd, Duration.add, hd]
    exact p.time.ofNanos_nanos.symm
  · obtain ⟨decision, hdecision⟩ := h.exists_decision hd
    obtain ⟨made, hended⟩ := presentFrame_ended hdecision
    exact hended.accounted.time_eq

theorem after_time (h : p.controller.Sound) {n : Nat} (hn : p.time = .ofNanos n)
    (elapsed : List Duration) :
    (p.after elapsed).time = .ofNanos (n + (elapsed.map Duration.nanos).sum) := by
  induction elapsed generalizing p n with
  | nil => exact hn
  | cons d elapsed ih =>
    have hsound := (presentFrame_advances d h).sound h
    have htime : (presentFrame d p).state.time = .ofNanos (n + d.nanos) := by
      rw [presentFrame_time h, hn, Duration.ofNanos_add]
    rw [List.map_cons, List.sum_cons, ← Nat.add_assoc]
    exact ih hsound htime

theorem presentFrame_pacedBy (h : p.controller.Sound) (d : Duration) :
    PacedBy (p.time.add d) (Controller.advanceDuration d p.controller).outcome d p := by
  by_cases hd : d.nanos = 0
  · constructor
    · exact ⟨[], by rw [presentFrame_zero hd]; rfl, by simp⟩
    · intro report hreport
      rw [presentFrame_zero hd] at hreport
      contradiction
  · obtain ⟨decision, hdecision⟩ := h.exists_decision hd
    obtain ⟨made, hended⟩ := presentFrame_ended hdecision
    refine ⟨⟨made, hended.accounted.history_eq, fun e he frame hcall => ?_⟩,
      fun report hreport => ⟨decision, hdecision, ?_⟩⟩
    · obtain ⟨earlier, hapt⟩ := hended.accounted.apt_of_mem he
      rw [hcall] at hapt
      exact hapt.1
    · exact ((Action.ends_of_done hreport _ _).mp (presentFrame_follows hdecision)).scale_eq

theorem run_paced {controller : Controller} (h : controller.Sound) {b : β}
    (hstart : (start controller ⟨b, []⟩).outcome = .done p) (elapsed : List Duration) :
    let alone := controller.after (elapsed.map .advanceDuration)
    let q := p.after elapsed
    q.controller = alone ∧ q.time = totalTime elapsed ∧
      ∀ d, let decided := (Controller.advanceDuration d alone).outcome
        PacedBy (totalTime (elapsed ++ [d])) decided d q := by
  intro alone q
  have hcontroller : q.controller = alone := by
    rw [after_controller, start_controller hstart]
  have hp : p.controller.Sound := start_controller hstart ▸ h
  have hstarted : p.time = .ofNanos 0 := by
    rw [(start_done_iff.mp hstart).2]
    rfl
  have htime (elapsed : List Duration) : (p.after elapsed).time = totalTime elapsed := by
    rw [after_time hp hstarted, Nat.zero_add]
    rfl
  refine ⟨hcontroller, htime elapsed, fun d => ?_⟩
  have hsound : q.controller.Sound := after_sound h hstart elapsed
  have hnow : totalTime (elapsed ++ [d]) = q.time.add d := by
    rw [← htime, after_append]
    exact presentFrame_time hsound d
  rw [hnow, ← hcontroller]
  exact presentFrame_pacedBy hsound d

/-- Two presenters that begin with equal controllers and are given the same frame times stay equal
in their controllers, which are that of a controller alone, and in their times, and these are what
their frames are rendered with and report, whichever frames fail on one backend or the other. -/
theorem pacing_independent_of_backend {config : Config} {scale : Double} {c₀ : Controller}
    (hc : Controller.withScale config scale = .done c₀) (ops : List Operation) {b : β} {b' : β'}
    {p' : Presenter (Recorded β')}
    (hstart : (start (c₀.after ops) ⟨b, []⟩).outcome = .done p)
    (hstart' : (start (c₀.after ops) ⟨b', []⟩).outcome = .done p') (elapsed : List Duration) :
    (((start (c₀.after ops) b).outcome = .done p.erased ∧
          (p.after elapsed).erased = p.erased.after elapsed) ∧
        (start (c₀.after ops) b').outcome = .done p'.erased ∧
          (p'.after elapsed).erased = p'.erased.after elapsed) ∧
      let alone := (c₀.after ops).after (elapsed.map .advanceDuration)
      let q := p.after elapsed
      let q' := p'.after elapsed
      (q.controller = alone ∧ q'.controller = alone) ∧
        (q.time = totalTime elapsed ∧ q'.time = totalTime elapsed) ∧
        ∀ d, let decided := (Controller.advanceDuration d alone).outcome
          PacedBy (totalTime (elapsed ++ [d])) decided d q ∧
            PacedBy (totalTime (elapsed ++ [d])) decided d q' := by
  have hsound : (c₀.after ops).Sound :=
    Controller.after_sound (Controller.withScale_sound hc) ops
  obtain ⟨hcontroller, htime, hframes⟩ := run_paced hsound hstart elapsed
  obtain ⟨hcontroller', htime', hframes'⟩ := run_paced hsound hstart' elapsed
  refine ⟨⟨⟨start_erased hstart, after_erased p elapsed⟩,
    start_erased hstart', after_erased p' elapsed⟩, ?_⟩
  exact ⟨⟨hcontroller, hcontroller'⟩, ⟨htime, htime'⟩, fun d => ⟨hframes d, hframes' d⟩⟩

-- One backend refuses to replace the target from the first frame on, the other never fails.
theorem pacing_independent_of_backend_refusing :
    Controller.withScale eager (.ofNat 1) = .done eagerController ∧
      ∃ p p' : Presenter (Recorded Scripted),
        (start eagerController ⟨refusing, []⟩).outcome = .done p ∧
          (start eagerController ⟨{ output := ⟨640, 480⟩ }, []⟩).outcome = .done p' ∧
          let elapsed : List Duration := [.ofNanos 20000, .zero, .ofNanos 10000, .greatest]
          let q := p.after elapsed
          let q' := p'.after elapsed
          (q.frameIndex = 1 ∧ q'.frameIndex = 3) ∧ q.controller = q'.controller ∧
            q.time = totalTime elapsed ∧ q'.time = totalTime elapsed := by
  have hstart : (start eagerController (⟨refusing, []⟩ : Recorded Scripted)).outcome = .done _ :=
    rfl
  have hstart' : (start eagerController
      (⟨{ output := ⟨640, 480⟩ }, []⟩ : Recorded Scripted)).outcome = .done _ := rfl
  refine ⟨eager_withScale, _, _, hstart, hstart', ?_⟩
  intro elapsed q q'
  obtain ⟨-, ⟨hcontroller, hcontroller'⟩, ⟨htime, htime'⟩, -⟩ :=
    pacing_independent_of_backend eager_withScale [] hstart hstart' elapsed
  exact ⟨by decide +kernel, hcontroller.trans hcontroller'.symm, htime, htime'⟩

end Presenter

end Presentation

end AdaptiveResolution
