import Mathlib.Tactic.ByContra
import AdaptiveResolution.Proofs.Pacing.Runs
import AdaptiveResolution.Proofs.Presentation.Frames

namespace AdaptiveResolution.Presentation.Presenter

open Pacing (Controller Decision Operation)

variable {β ε α : Type}

def SteeredBy (controller : Controller) (p : Presenter β) : Prop := p.controller = controller

def Undrawn (P : Presenter β → Prop) : Prop :=
  ∀ p q, q.controller = p.controller → q.pendingResize = p.pendingResize →
    q.stats.resizes = p.stats.resizes → P p → P q

section

variable {P : Presenter β → Prop}

theorem Undrawn.onBackend (h : Undrawn P) (x : Action β ε α) : (onBackend x).Keeps P :=
  .of_ends fun p hp => (ends_onBackend _ _ _ _).mpr
    (Action.ends_of_forall (fun _ _ => h p _ rfl rfl rfl hp) fun _ => h p _ rfl rfl rfl hp)

theorem Undrawn.update (h : Undrawn P) {f : Presenter β → Presenter β}
    (hf : ∀ p, (f p).controller = p.controller ∧ (f p).pendingResize = p.pendingResize ∧
      (f p).stats.resizes = p.stats.resizes) :
    (Action.update f : Action (Presenter β) (PresentError ε) Unit).Keeps P :=
  .update fun p hp => h p (f p) (hf p).1 (hf p).2.1 (hf p).2.2 hp

theorem Undrawn.count (h : Undrawn P) {counter : Presenter β → UInt64}
    {set : UInt64 → Presenter β → Presenter β}
    (hset : ∀ n p, (set n p).controller = p.controller ∧
      (set n p).pendingResize = p.pendingResize ∧ (set n p).stats.resizes = p.stats.resizes) :
    (count counter set : Action (Presenter β) (PresentError ε) Unit).Keeps P :=
  .bind .state_self fun _ => .bind (.ofChecked _) fun n => h.update (hset n)

variable [Backend β ε]

theorem Undrawn.await (h : Undrawn P) (fence : Nat) (reason : String) :
    (await fence reason).Keeps P := by
  refine .bind .state_self fun p => ?_
  split
  · refine .bind (fun _ hp => hp) fun _ => ?_
    exact .bind (h.onBackend _) fun _ => h.count fun _ _ => ⟨rfl, rfl, rfl⟩
  · exact .pure _

theorem Undrawn.draw (h : Undrawn P) : draw.Keeps P := by
  refine .bind (h.update fun _ => ⟨rfl, rfl, rfl⟩) fun _ => ?_
  refine .bind (fun _ hp => hp) fun frame => ?_
  exact .bind (h.onBackend _) fun _ => .bind (h.onBackend _) fun _ => .pure _

theorem Undrawn.submit (h : Undrawn P) : submit.Keeps P := by
  refine .bind (h.onBackend _) fun fence => ?_
  exact .bind (h.update fun _ => ⟨rfl, rfl, rfl⟩) fun _ => .pure _

theorem Undrawn.presentBuffer (h : Undrawn P) (index : BackBuffer) :
    (presentBuffer index).Keeps P := by
  refine .bind (h.onBackend _) fun _ => .bind (h.update fun _ => ⟨rfl, rfl, rfl⟩) fun _ => ?_
  exact .bind (h.count fun _ _ => ⟨rfl, rfl, rfl⟩) fun _ => h.count fun _ _ => ⟨rfl, rfl, rfl⟩

theorem Undrawn.drawAndPresent (h : Undrawn P) (happly : applyPendingResize.Keeps P)
    (decision : Decision) : (drawAndPresent decision).Keeps P := by
  refine .bind .state_self fun p => ?_
  refine .bind (h.await _ _) fun _ => ?_
  refine .bind h.draw fun frame => ?_
  refine .bind h.submit fun fence => ?_
  refine .bind (h.await _ _) fun _ => ?_
  refine .bind (h.presentBuffer _) fun _ => ?_
  refine .bind happly fun resized => ?_
  exact .bind (h.update fun _ => ⟨rfl, rfl, rfl⟩) fun _ => .pure _

end

section

variable {controller : Controller}

theorem steeredBy_undrawn : Undrawn (SteeredBy (β := β) controller) :=
  fun _ _ hcontroller _ _ hp => hcontroller.trans hp

variable [Backend β ε]

theorem applyPendingResize_controller :
    applyPendingResize.Keeps (SteeredBy (β := β) controller) := by
  apply Action.Keeps.of_ends
  intro p hp
  cases hpending : p.pendingResize with
  | none => exact (ends_applyPendingResize_none hpending _ _).mpr hp
  | some size =>
    apply (ends_applyPendingResize_some hpending _ _).mpr
    exact Action.ends_of_forall (fun _ _ => ⟨fun _ => hp, fun _ => hp⟩) fun _ => hp

theorem scheduleResize_controller (decision : Decision) :
    (scheduleResize decision).Keeps (SteeredBy (β := β) controller) := by
  apply Action.Keeps.update
  intro p hp
  split
  · exact hp
  · exact hp

end

variable [Backend β ε]

theorem presentFrame_controller (elapsed : Duration) (p : Presenter β) :
    (presentFrame elapsed p).state.controller =
      (Controller.advanceDuration elapsed p.controller).state := by
  apply Action.Ends.state (E := SteeredBy (Controller.advanceDuration elapsed p.controller).state)
  rw [presentFrame_eq, Action.ends_bind, ends_pace]
  refine Action.ends_of_outcome (fun decision _ => ?_) fun _ => rfl
  refine Action.Keeps.ends ?_ rfl
  refine .bind applyPendingResize_controller fun _ => ?_
  refine .bind (scheduleResize_controller decision) fun _ => ?_
  exact steeredBy_undrawn.drawAndPresent applyPendingResize_controller decision

theorem exists_decision {elapsed : Duration} {p : Presenter β} {report : FrameReport}
    (hreport : (presentFrame elapsed p).outcome = .done report) :
    ∃ decision, (Controller.advanceDuration elapsed p.controller).outcome = .done decision := by
  by_contra hnone
  have hends : (presentFrame elapsed).Ends p (fun _ _ => False) fun _ => True := by
    rw [presentFrame_eq, Action.ends_bind, ends_pace]
    exact Action.ends_of_outcome (fun decision hd => absurd ⟨decision, hd⟩ hnone) fun _ => trivial
  exact (Action.ends_of_done hreport _ _).mp hends

theorem after_controller (p : Presenter β) (elapsed : List Duration) :
    (p.after elapsed).controller = p.controller.after (elapsed.map .advanceDuration) := by
  induction elapsed generalizing p with
  | nil => rfl
  | cons d elapsed ih =>
    have hstep : ((Operation.advanceDuration d).perform p.controller).state =
        (Controller.advanceDuration d p.controller).state := by
      rw [Operation.perform, Action.bind_apply]
      rcases Controller.advanceDuration d p.controller with ⟨_ | _ | _, c, journal⟩ <;> rfl
    change ((presentFrame d p).state.after elapsed).controller =
      ((Operation.advanceDuration d).perform p.controller).state.after (elapsed.map .advanceDuration)
    rw [ih, presentFrame_controller, hstep]

theorem presentFrame_advances (elapsed : Duration) {p : Presenter β} (h : p.controller.Sound) :
    Controller.Advances p.controller (Controller.durationTicks elapsed)
      (Controller.advanceDuration elapsed p.controller).outcome
      (presentFrame elapsed p).state.controller := by
  rw [presentFrame_controller, Controller.advanceDuration_eq]
  exact Controller.advance_advances h _

theorem start_controller {controller : Controller} {b : β} {p : Presenter β}
    (hstart : (start controller b).outcome = .done p) : p.controller = controller := by
  obtain ⟨-, rfl⟩ := start_done_iff.mp hstart
  rfl

end AdaptiveResolution.Presentation.Presenter
