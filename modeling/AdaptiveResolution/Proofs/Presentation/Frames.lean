import AdaptiveResolution.Presentation.Presenter
import AdaptiveResolution.Proofs.Endings

/-!
A frame of the presentation loop, taken apart, and runs of frames. A run goes on after a failed
frame with the state that the frame has left.
-/

namespace AdaptiveResolution.Presentation

open Pacing (Controller Decision)

structure Backend.EveryCall (β : Type) {ε : Type} [Backend β ε] (R : β → β → Prop) : Prop where
  resize (size : Extent) (b : β) : R b (Backend.resize size b).state
  render (frame : FrameContext) (b : β) : R b (Backend.render frame b).state
  copy (index : BackBuffer) (b : β) : R b (Backend.copy index b).state
  submit (b : β) : R b (Backend.submit b).state
  wait (fence : Nat) (b : β) : R b (Backend.wait fence b).state
  present (index : BackBuffer) (b : β) : R b (Backend.present index b).state

namespace Presenter

variable {β ε α : Type}

@[simp] theorem ends_onBackend (x : Action β ε α) (p : Presenter β) (Q : α → Presenter β → Prop)
    (E : Presenter β → Prop) :
    (onBackend x).Ends p Q E ↔
      x.Ends p.backend (fun a backend => Q a { p with backend })
        fun backend => E { p with backend } :=
  Action.ends_within _ _ _ _ _ _ _

@[simp] theorem ends_onController (x : Action Controller Pacing.Error α) (p : Presenter β)
    (Q : α → Presenter β → Prop) (E : Presenter β → Prop) :
    (onController x : Action (Presenter β) (PresentError ε) α).Ends p Q E ↔
      x.Ends p.controller (fun a controller => Q a { p with controller })
        fun controller => E { p with controller } :=
  Action.ends_within _ _ _ _ _ _ _

theorem ends_pace (elapsed : Duration) (p : Presenter β) (Q : Decision → Presenter β → Prop)
    (E : Presenter β → Prop) :
    (pace elapsed : Action (Presenter β) (PresentError ε) Decision).Ends p Q E ↔
      (Controller.advanceDuration elapsed).Ends p.controller
        (fun decision controller =>
          Q decision { p with controller, time := p.time.add elapsed })
        fun controller => E { p with controller } := by
  simp [pace]

theorem ends_count (counter : Presenter β → UInt64) (set : UInt64 → Presenter β → Presenter β)
    (p : Presenter β) (Q : Unit → Presenter β → Prop) (E : Presenter β → Prop) :
    (count counter set : Action (Presenter β) (PresentError ε) Unit).Ends p Q E ↔
      (¬Full (counter p) → Q () (set (counter p + 1) p)) ∧ (Full (counter p) → E p) := by
  unfold count
  rw [Action.ends_bind, Action.ends_state, Action.ends_bind, Checked.add64_one]
  by_cases hfull : Full (counter p)
  · rw [if_pos hfull]
    exact ⟨fun h => ⟨fun hroom => absurd hfull hroom, fun _ => h⟩, fun h => h.2 hfull⟩
  · rw [if_neg hfull]
    exact ⟨fun h => ⟨fun _ => h, fun hfull' => absurd hfull' hfull⟩, fun h => h.1 hfull⟩

variable [Backend β ε]

theorem start_done_iff {controller : Controller} {b : β} {p : Presenter β} :
    (start controller b).outcome = .done p ↔
      let renderSize := (Backend.outputSize b).scaled controller.scale
      (Backend.resize renderSize b).outcome = .done () ∧
        p = { backend := (Backend.resize renderSize b).state, controller, renderSize } := by
  dsimp only
  simp only [start, Action.bind_apply, Action.state, Pure.pure, Action.pure]
  rcases Backend.resize ((Backend.outputSize b).scaled controller.scale) b
    with ⟨_ | e | t, b', journal⟩
  · simp [eq_comm]
  · simp
  · simp

theorem ends_applyPendingResize_none {p : Presenter β} (hp : p.pendingResize = none)
    (Q : Bool → Presenter β → Prop) (E : Presenter β → Prop) :
    applyPendingResize.Ends p Q E ↔ Q false p := by
  unfold applyPendingResize
  rw [Action.ends_bind, Action.ends_state, hp]
  exact Action.ends_pure _ _ _ _

theorem ends_applyPendingResize_some {p : Presenter β} {size : Extent}
    (hp : p.pendingResize = some size) (Q : Bool → Presenter β → Prop) (E : Presenter β → Prop) :
    applyPendingResize.Ends p Q E ↔
      (Backend.resize size).Ends p.backend
        (fun _ backend =>
          let resized := { p with backend, renderSize := size, pendingResize := none }
          let resizes := p.stats.resizes + 1
          (¬Full p.stats.resizes → Q true { resized with stats := { p.stats with resizes } }) ∧
            (Full p.stats.resizes → E resized))
        fun backend => E { p with backend } := by
  unfold applyPendingResize
  rw [Action.ends_bind, Action.ends_state, hp]
  simp only [Action.ends_bind, Action.ends_note, ends_onBackend, Action.ends_update, ends_count,
    Action.ends_pure, hp]

theorem ends_scheduleResize (decision : Decision) (p : Presenter β)
    (Q : Unit → Presenter β → Prop) (E : Presenter β → Prop) :
    (scheduleResize decision).Ends p Q E ↔
      Q () (if decision.resizeNeeded then
        { p with pendingResize := some ((Backend.outputSize p.backend).scaled decision.scale) }
      else p) := Iff.rfl

theorem ends_await (fence : Nat) (reason : String) (p : Presenter β)
    (Q : Unit → Presenter β → Prop) (E : Presenter β → Prop) :
    (await fence reason).Ends p Q E ↔
      (Backend.completed p.backend < fence →
        (Backend.wait fence).Ends p.backend
          (fun _ backend =>
            let fenceWaits := p.stats.fenceWaits + 1
            (¬Full p.stats.fenceWaits → Q () { p with backend, stats := { p.stats with fenceWaits } }) ∧
              (Full p.stats.fenceWaits → E { p with backend }))
          fun backend => E { p with backend }) ∧
      (¬Backend.completed p.backend < fence → Q () p) := by
  simp only [await, Action.ends_bind, Action.ends_state, Action.ends_ite, Action.ends_note,
    ends_onBackend, ends_count, Action.ends_pure]

theorem ends_draw (p : Presenter β) (Q : FrameContext → Presenter β → Prop)
    (E : Presenter β → Prop) :
    draw.Ends p Q E ↔
      let frame := context { p with state := .rendering }
      (Backend.render frame).Ends p.backend
        (fun _ backend =>
          (Backend.copy p.backBuffer).Ends backend
            (fun _ backend => Q frame { p with state := .rendering, backend })
            fun backend => E { p with state := .rendering, backend })
        fun backend => E { p with state := .rendering, backend } := by
  simp only [draw, Action.ends_bind, Action.ends_update, Action.ends_inspect, ends_onBackend,
    Action.ends_pure]
  rfl

theorem ends_submit (p : Presenter β) (Q : Nat → Presenter β → Prop) (E : Presenter β → Prop) :
    submit.Ends p Q E ↔
      Backend.submit.Ends p.backend
        (fun fence backend =>
          Q fence { p with
            backend
            inFlight := p.inFlight.setIfInBounds p.backBuffer fence
            state := .submitted })
        fun backend => E { p with backend } := by
  simp [submit]

theorem ends_presentBuffer (index : BackBuffer) (p : Presenter β)
    (Q : Unit → Presenter β → Prop) (E : Presenter β → Prop) :
    (presentBuffer index).Ends p Q E ↔
      (Backend.present index).Ends p.backend
        (fun _ backend =>
          let shown := { p with backend, state := .presented, backBuffer := index.flip }
          let indexed := { shown with frameIndex := p.frameIndex + 1 }
          let framesPresented := p.stats.framesPresented + 1
          (¬Full p.frameIndex →
            (¬Full p.stats.framesPresented →
              Q () { indexed with stats := { p.stats with framesPresented } }) ∧
            (Full p.stats.framesPresented → E indexed)) ∧
          (Full p.frameIndex → E shown))
        fun backend => E { p with backend } := by
  simp only [presentBuffer, Action.ends_bind, ends_onBackend, Action.ends_update, ends_count]

def drawAndPresent (decision : Decision) : Action (Presenter β) (PresentError ε) FrameReport := do
  let p ← Action.state
  let busy := p.inFlight.get p.backBuffer
  await busy
    ("Waiting on fence " ++ Nat.repr busy ++ " before reusing back buffer " ++ p.backBuffer.text)
  let frame ← draw
  let fence ← submit
  await (fence - 1) ("GPU fell behind, waiting on fence " ++ Nat.repr (fence - 1))
  presentBuffer frame.backBuffer
  let resized ← applyPendingResize
  Action.update fun p => { p with state := .idle }
  return {
    frameIndex := frame.frameIndex
    backBuffer := frame.backBuffer
    fence
    renderSize := frame.renderSize
    scale := decision.scale
    resized }

theorem presentFrame_eq (elapsed : Duration) :
    (presentFrame elapsed : Action (Presenter β) (PresentError ε) FrameReport) = (do
      let decision ← pace elapsed
      let _ ← applyPendingResize
      scheduleResize decision
      drawAndPresent decision) := rfl

def after (p : Presenter β) (elapsed : List Duration) : Presenter β :=
  elapsed.foldl (fun p d => (presentFrame d p).state) p

theorem after_induction {P : Presenter β → Prop}
    (hstep : ∀ p d, P p → P (presentFrame d p).state) {p : Presenter β} (hp : P p)
    (elapsed : List Duration) : P (p.after elapsed) := by
  induction elapsed generalizing p with
  | nil => exact hp
  | cons d elapsed ih => exact ih (hstep p d hp)

theorem after_append (p : Presenter β) (elapsed more : List Duration) :
    p.after (elapsed ++ more) = (p.after elapsed).after more :=
  List.foldl_append

end Presenter

end AdaptiveResolution.Presentation
