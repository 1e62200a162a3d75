import AdaptiveResolution.Proofs.Presentation.FrameCourse

/-!
A backend on which nothing is ever done: every submission signals the same value, which is never
reached, and no wait for it fails. So a frame waits twice, whatever the frames before it waited for.
-/

namespace AdaptiveResolution.Presentation

open Pacing (Controller Decision)

structure Stalled where
  output : Extent

namespace Stalled

def signal : Nat := 5

instance : Backend Stalled Unit where
  outputSize := output
  completed _ := 0
  resize _ := pure ()
  render _ := pure ()
  copy _ := pure ()
  submit := pure signal
  wait _ := pure ()
  present _ := pure ()

variable {α : Type}

theorem ends_perform {call : Call} {answer : α → Answer} {a : α} {r : Recorded Stalled}
    {Q : α → Recorded Stalled → Prop} {E : Recorded Stalled → Prop}
    (h : Q a ⟨r.backend, ⟨call, 0, answer a⟩ :: r.history⟩) :
    (Recorded.perform call answer (pure a : Action Stalled Unit α)).Ends r Q E := h

theorem performAll_done (calls : List Call) (r : Recorded Stalled) :
    (Call.performAll calls r : Reply (Recorded Stalled) Unit Unit).outcome = .done () := by
  induction calls generalizing r with
  | nil => rfl
  | cons call calls ih =>
    have hcall : (call.perform r : Reply (Recorded Stalled) Unit Unit).outcome = .done () := by
      cases call <;> rfl
    rw [Call.performAll, Action.bind_outcome, hcall]
    exact ih _

end Stalled

namespace Presenter

def waits (p : Presenter (Recorded Stalled)) : Nat :=
  (p.backend.history.filterMap Event.waited).length

structure Waiting (n : Nat) (inFlight : Vector Nat 2) (i : BackBuffer)
    (p : Presenter (Recorded Stalled)) : Prop where
  waits_eq : p.waits = n
  inFlight_eq : p.inFlight = inFlight
  backBuffer_eq : p.backBuffer = i

section

variable {p q : Presenter (Recorded Stalled)} {n fence : Nat} {inFlight : Vector Nat 2}
  {i : BackBuffer}

theorem await_stalled (h : Waiting n inFlight i q) (hfence : 0 < fence) (reason : String)
    {E : Presenter (Recorded Stalled) → Prop}
    (hE : Full q.stats.fenceWaits → ∀ q' : Presenter (Recorded Stalled), q'.waits = n + 1 → E q') :
    (await fence reason).Ends q (fun _ => Waiting (n + 1) inFlight i) E := by
  refine (ends_await _ _ _ _ _).mpr ⟨fun _ => Stalled.ends_perform ?_, fun hdone => ?_⟩
  · have hwaits := congrArg (· + 1) h.waits_eq
    exact ⟨fun _ => ⟨hwaits, h.inFlight_eq, h.backBuffer_eq⟩, fun hfull => hE hfull _ hwaits⟩
  · exact absurd hfence hdone

theorem draw_stalled (h : Waiting n inFlight i q) {E : Presenter (Recorded Stalled) → Prop} :
    draw.Ends q (fun frame q' => frame.backBuffer = i ∧ Waiting n inFlight i q') E := by
  refine (ends_draw _ _ _).mpr (Stalled.ends_perform (Stalled.ends_perform ?_))
  exact ⟨h.backBuffer_eq, h.waits_eq, h.inFlight_eq, h.backBuffer_eq⟩

theorem submit_stalled (h : Waiting n inFlight i q) {E : Presenter (Recorded Stalled) → Prop} :
    submit.Ends q (fun fence q' => fence = Stalled.signal ∧
      Waiting n (inFlight.setIfInBounds i Stalled.signal) i q') E := by
  refine (ends_submit _ _ _).mpr (Stalled.ends_perform ⟨rfl, h.waits_eq, ?_, h.backBuffer_eq⟩)
  rw [h.inFlight_eq, h.backBuffer_eq]

theorem presentBuffer_stalled (h : Waiting n inFlight i q) (index : BackBuffer) :
    (presentBuffer index).Ends q (fun _ => Waiting n inFlight index.flip)
      fun q' => q'.waits = n := by
  refine (ends_presentBuffer _ _ _ _).mpr (Stalled.ends_perform ?_)
  refine ⟨fun _ => ⟨fun _ => ?_, fun _ => h.waits_eq⟩, fun _ => h.waits_eq⟩
  exact ⟨h.waits_eq, h.inFlight_eq, rfl⟩

theorem applyPendingResize_stalled (h : Waiting n inFlight i q) :
    applyPendingResize.Ends q (fun _ => Waiting n inFlight i) fun q' => q'.waits = n := by
  cases hpending : q.pendingResize with
  | none => exact (ends_applyPendingResize_none hpending _ _).mpr h
  | some size =>
    refine (ends_applyPendingResize_some hpending _ _).mpr (Stalled.ends_perform ?_)
    exact ⟨fun _ => { h with }, fun _ => h.waits_eq⟩

theorem drawAndPresent_stalled (h : Waiting n inFlight i q)
    (hbusy : inFlight.get i = Stalled.signal) (hroom : ¬Full q.stats.fenceWaits)
    (decision : Decision) :
    (drawAndPresent decision).Ends q
      (fun _ => Waiting (n + 2) (inFlight.setIfInBounds i Stalled.signal) i.flip)
      fun q' => q'.waits = n + 2 := by
  have hpositive : 0 < q.inFlight.get q.backBuffer := by
    rw [h.inFlight_eq, h.backBuffer_eq, hbusy]
    decide
  unfold drawAndPresent
  rw [Action.ends_bind, Action.ends_state, Action.ends_bind]
  refine (await_stalled h hpositive _ fun hfull => absurd hfull hroom).imp fun _ q₁ h₁ => ?_
  rw [Action.ends_bind]
  refine (draw_stalled h₁).imp ?_
  rintro frame q₂ ⟨hframe, h₂⟩
  rw [Action.ends_bind]
  refine (submit_stalled h₂).imp ?_
  rintro _ q₃ ⟨rfl, h₃⟩
  rw [Action.ends_bind]
  refine (await_stalled h₃ (by decide) _ fun _ _ hwaits => hwaits).imp fun _ q₄ h₄ => ?_
  rw [Action.ends_bind, hframe]
  refine (presentBuffer_stalled h₄ i).imp fun _ q₅ h₅ => ?_
  rw [Action.ends_bind]
  refine (applyPendingResize_stalled h₅).imp fun resized q₆ h₆ => ?_
  exact { h₆ with }

theorem presentFrame_stalled (h : Waiting n inFlight i p) (hsettled : p.pendingResize = none)
    (hbusy : inFlight.get i = Stalled.signal) (hroom : ¬Full p.stats.fenceWaits) {d : Duration}
    {decision : Decision}
    (hdecision : (Controller.advanceDuration d p.controller).outcome = .done decision) :
    (presentFrame d).Ends p
      (fun _ => Waiting (n + 2) (inFlight.setIfInBounds i Stalled.signal) i.flip)
      fun q => q.waits = n + 2 := by
  have hpaced : (p.paced d).pendingResize = none := hsettled
  rw [presentFrame_eq, Action.ends_bind, ends_pace, Action.ends_of_done hdecision, Action.ends_bind]
  apply (ends_applyPendingResize_none hpaced _ _).mpr
  rw [Action.ends_bind, ends_scheduleResize]
  apply drawAndPresent_stalled _ hbusy
  · split
    · exact hroom
    · exact hroom
  · split
    · exact { h with }
    · exact { h with }

theorem presentFrame_answered {d : Duration} {decision : Decision} {made : List Event}
    (hdecision : (Controller.advanceDuration d p.controller).outcome = .done decision)
    (hhistory : (presentFrame d p).state.backend.history = made ++ p.backend.history) :
    ∀ m ∈ made, ¬m.Refused := by
  obtain ⟨hmakes, hends⟩ := presentFrame_conducts hdecision
  obtain ⟨made', hmade, -, hthrough, -⟩ := hmakes.history
  cases List.append_cancel_right (hhistory.symm.trans hmade)
  intro m hm hrefused
  -- A refusal would be one of the script, of which nothing is refused.
  obtain ⟨houtcome, -⟩ := hthrough (.inr ⟨m, hm, hrefused⟩)
  rw [Stalled.performAll_done] at houtcome
  cases hreport : (presentFrame d p).outcome with
  | done report =>
    obtain ⟨made', hcompleted⟩ := (Action.ends_of_done hreport _ _).mp hends
    cases List.append_cancel_right (hmade.symm.trans hcompleted.history_eq)
    exact hcompleted.answered m hm hrefused
  | failed error => rw [hreport] at houtcome; contradiction
  | trapped trap => rw [hreport] at houtcome; contradiction

end

end Presenter

end AdaptiveResolution.Presentation
