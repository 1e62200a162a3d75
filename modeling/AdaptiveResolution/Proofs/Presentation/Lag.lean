import AdaptiveResolution.Proofs.Presentation.FrameCalls
import AdaptiveResolution.Proofs.Presentation.Steering

namespace AdaptiveResolution.Presentation

open Pacing (Controller Decision)

variable {β ε : Type} [Backend β ε]

theorem Traced.rendered_size {p q : Presenter (Recorded β)} {decision : Decision}
    {calls : List Event} (h : Traced p decision calls q) {e : Event} (he : e ∈ calls)
    {frame : FrameContext} (hcall : e.call = .render frame) :
    frame.renderSize = p.wantedSize := by
  obtain ⟨later, earlier, rfl⟩ := List.append_of_mem he
  exact (h.due e earlier (List.suffix_append _ _)).of_render hcall

namespace Presenter

def Resizable (β : Type) {ε : Type} [Backend β ε] : Prop :=
  ∀ size (b : β), (Backend.resize size b).outcome = .done ()

theorem SteadyOutput.recorded (h : SteadyOutput β) : SteadyOutput (Recorded β) where
  resize size r := h.resize size r.backend
  render frame r := h.render frame r.backend
  copy index r := h.copy index r.backend
  submit r := h.submit r.backend
  wait fence r := h.wait fence r.backend
  present index r := h.present index r.backend

theorem Resizable.recorded (h : Resizable β) : Resizable (Recorded β) :=
  fun size r => h size r.backend

theorem presentFrame_output (h : SteadyOutput β) (elapsed : Duration) (p : Presenter β) :
    Backend.outputSize (presentFrame elapsed p).state.backend = Backend.outputSize p.backend := by
  by_cases hdone : ∃ d, (Controller.advanceDuration elapsed p.controller).outcome = .done d
  · obtain ⟨decision, hdecision⟩ := hdone
    by_cases hheld : ∃ size, p.pendingResize = some size ∧ Stops size p
    · obtain ⟨size, hpending, hstops⟩ := hheld
      exact (presentFrame_stopped h hdecision hpending hstops).output_eq
    · refine (presentFrame_applied h hdecision fun size hpending hstops => ?_).output_eq
      exact hheld ⟨size, hpending, hstops⟩
  · rw [presentFrame_undecided fun d hd => hdone ⟨d, hd⟩]

theorem after_output (h : SteadyOutput β) (p : Presenter β) (elapsed : List Duration) :
    Backend.outputSize (p.after elapsed).backend = Backend.outputSize p.backend := by
  induction elapsed generalizing p with
  | nil => rfl
  | cons d elapsed ih => exact (ih (presentFrame d p).state).trans (presentFrame_output h d p)

def Owes (n : Nat) (p : Presenter β) : Prop :=
  p.stats.resizes.toNat + p.pendingResize.toList.length ≤ n

theorem owes_undrawn {n : Nat} : Undrawn (Owes (β := β) n) := by
  intro p q _ hpending hresizes hp
  rw [Owes, hpending, hresizes]
  exact hp

theorem applyPendingResize_owes {n : Nat} : applyPendingResize.Keeps (Owes (β := β) n) := by
  apply Action.Keeps.of_ends
  intro p hp
  cases hpending : p.pendingResize with
  | none => exact (ends_applyPendingResize_none hpending _ _).mpr hp
  | some size =>
    have howed : p.stats.resizes.toNat + 1 ≤ n := by
      rw [Owes, hpending] at hp
      exact hp
    apply (ends_applyPendingResize_some hpending _ _).mpr
    refine Action.ends_of_forall (fun _ _ => ⟨fun hroom => ?_, fun _ => ?_⟩) fun _ => hp
    · exact Nat.le_trans (Nat.le_of_eq (toNat_succ hroom)) howed
    · exact Nat.le_of_succ_le howed

theorem presentFrame_owes {n : Nat} {p : Presenter β} (hp : Owes n p) (d : Duration) :
    Owes (n + 1) (presentFrame d p).state := by
  have hkeeps : applyPendingResize.Keeps (Owes (β := β) (n + 1)) := applyPendingResize_owes
  have hweaken {q : Presenter β} (hq : Owes n q) : Owes (n + 1) q := Nat.le_succ_of_le hq
  apply Action.Ends.state
  rw [presentFrame_eq, Action.ends_bind, ends_pace]
  refine Action.ends_of_forall (fun decision controller => ?_) fun _ => hweaken hp
  have hpaced : Owes n { p with controller, time := p.time.add d } := hp
  rw [Action.ends_bind]
  refine (applyPendingResize_owes.ends hpaced).mono (fun _ q hq => ?_) fun _ hq => hweaken hq
  rw [Action.ends_bind, ends_scheduleResize]
  refine (owes_undrawn.drawAndPresent hkeeps decision).ends ?_
  split
  · exact Nat.succ_le_succ (Nat.le_trans (Nat.le_add_right _ _) hq)
  · exact hweaken hq

theorem start_owes {controller : Controller} {b : β} {p : Presenter β}
    (hstart : (start controller b).outcome = .done p) : Owes 0 p := by
  obtain ⟨-, rfl⟩ := start_done_iff.mp hstart
  exact Nat.le_refl 0

theorem Resizable.not_dropsDecision (h : Resizable β) {n : Nat} {p : Presenter β} (hp : Owes n p)
    (hn : n < UInt64.size) (elapsed : Duration) : ¬DropsDecision elapsed p := by
  rintro ⟨decision, size, -, -, hpending, hrefused | hfull, -⟩
  · exact hrefused (h size p.backend)
  · rw [Owes, hpending] at hp
    exact hfull.not_lt (Nat.lt_of_le_of_lt hp hn)

theorem after_coherent (h : SteadyOutput β) (hresize : Resizable β) {n : Nat} {p : Presenter β}
    (hp : p.Coherent) (howes : Owes n p) {elapsed : List Duration}
    (hn : n + elapsed.length ≤ UInt64.size) : (p.after elapsed).Coherent := by
  induction elapsed generalizing n p with
  | nil => exact hp
  | cons d elapsed ih =>
    rw [List.length_cons, ← Nat.add_assoc, Nat.add_right_comm] at hn
    have hstep : (presentFrame d p).state.Coherent :=
      (presentFrame_coherent_iff h d hp).mpr (hresize.not_dropsDecision howes (by omega) d)
    exact ih hstep (presentFrame_owes howes d) hn

/-- On a steady output and a target that can always be replaced, each of the first 2⁶⁴ frames is
drawn, at every attempt, at the scale from before it was paced. The scale that it decides on is
reported, and the target has that scale when the report is given if the frame asked for a change. -/
theorem decision_takes_effect_next_frame (h : SteadyOutput β) (hresize : Resizable β)
    {controller : Controller} {b : β} {p : Presenter (Recorded β)}
    (hstart : (start controller ⟨b, []⟩).outcome = .done p) {elapsed : List Duration}
    (hfew : elapsed.length < UInt64.size) :
    ((start controller b).outcome = .done p.erased ∧
        (p.after elapsed).erased = p.erased.after elapsed) ∧
      let output := Backend.outputSize b
      let q := p.after elapsed
      ∀ d, let q' := (presentFrame d q).state
        q'.controller = (Controller.advanceDuration d q.controller).state ∧
          (∃ calls, q'.backend.history = calls ++ q.backend.history ∧
            ∀ e ∈ calls, ∀ frame, e.call = .render frame →
              frame.renderSize = output.scaled q.controller.scale) ∧
          ∀ report, (presentFrame d q).outcome = .done report →
            report.renderSize = output.scaled q.controller.scale ∧
              report.scale = q'.controller.scale ∧
              ∃ decision,
                (Controller.advanceDuration d q.controller).outcome = .done decision ∧
                  report.resized = decision.resizeNeeded ∧
                  (report.resized = true →
                    q'.renderSize = output.scaled q'.controller.scale ∧
                      ∃ completed earlier, q'.backend.history =
                        ⟨.resize q'.renderSize, completed, .done⟩ :: earlier) := by
  refine ⟨⟨start_erased hstart, after_erased p elapsed⟩, ?_⟩
  have hcoherent (front : List Duration) (hfront : front.length ≤ UInt64.size) :
      (p.after front).Coherent := by
    refine after_coherent h.recorded hresize.recorded (start_coherent h.recorded hstart)
      (start_owes hstart) ?_
    rwa [Nat.zero_add]
  have houtput (front : List Duration) :
      Backend.outputSize (p.after front).backend = Backend.outputSize b := by
    rw [after_output h.recorded, (start_done_iff.mp hstart).2]
    exact h.resize _ b
  have hwanted (front : List Duration) (hfront : front.length ≤ UInt64.size) :
      (p.after front).wantedSize =
        (Backend.outputSize b).scaled (p.after front).controller.scale := by
    rw [(coherent_iff _).mp (hcoherent front hfront), scaledSize, houtput]
  intro output q d q'
  have hq' : q' = p.after (elapsed ++ [d]) := (after_append p elapsed [d]).symm
  refine ⟨presentFrame_controller d q, ?_, fun report hreport => ?_⟩
  · obtain ⟨decision, calls, hcalls, -⟩ := presentFrame_followed d q
    exact ⟨calls, hcalls.history_eq, fun e he frame hcall =>
      (hcalls.rendered_size he hcall).trans (hwanted elapsed hfew.le)⟩
  · obtain ⟨decision, hdecision⟩ := exists_decision hreport
    have hreported : Reported q decision report q' :=
      (Action.ends_of_done hreport _ _).mp (presentFrame_follows hdecision)
    refine ⟨hreported.renderSize_eq.trans (hwanted elapsed hfew.le), ?_, decision, hdecision,
      hreported.resized_eq, fun hresized => ⟨?_, hreported.latest hresized⟩⟩
    · rw [hreported.scale_eq, presentFrame_controller, (decision_scale hdecision).1]
    · have hsettled : q'.wantedSize = q'.renderSize := by
        rw [wantedSize, hreported.settled]
        rfl
      rw [← hsettled, hq', hwanted]
      rwa [List.length_append, List.length_singleton]

end Presenter

structure Pliant where
  scripted : Scripted

namespace Pliant

def ofScripted {α : Type} (x : Action Scripted Unit α) : Action Pliant Unit α :=
  x.within scripted (fun _ scripted => ⟨scripted⟩) id

instance : Backend Pliant Unit where
  outputSize b := Backend.outputSize b.scripted
  completed b := Backend.completed b.scripted
  resize _ := pure ()
  render frame := ofScripted (Backend.render frame)
  copy index := ofScripted (Backend.copy index)
  submit := ofScripted Backend.submit
  wait fence := ofScripted (Backend.wait fence)
  present index := ofScripted (Backend.present index)

theorem steady : Presenter.SteadyOutput Pliant where
  resize _ _ := rfl
  render frame b := Scripted.steady.render frame b.scripted
  copy index b := Scripted.steady.copy index b.scripted
  submit b := Scripted.steady.submit b.scripted
  wait fence b := Scripted.steady.wait fence b.scripted
  present index b := Scripted.steady.present index b.scripted

theorem resizable : Presenter.Resizable Pliant := fun _ _ => rfl

end Pliant

namespace Presenter

def losing : Pliant where
  scripted := { output := ⟨1000, 500⟩, script := [true, true, true, true, true, true, false] }

theorem decision_takes_effect_next_frame_losing :
    SteadyOutput Pliant ∧ Resizable Pliant ∧ ∃ p : Presenter (Recorded Pliant),
      (start eagerController ⟨losing, []⟩).outcome = .done p ∧
        let q := p.after [.ofNanos 20000, .ofNanos 10000]
        q.scaledSize = ⟨500, 250⟩ ∧ ∀ d, ∃ calls,
          (presentFrame d q).state.backend.history = calls ++ q.backend.history ∧
            ∀ e ∈ calls, ∀ frame, e.call = .render frame →
              frame.renderSize = (Backend.outputSize losing).scaled q.controller.scale := by
  have hstart : (start eagerController (⟨losing, []⟩ : Recorded Pliant)).outcome = .done _ := rfl
  refine ⟨Pliant.steady, Pliant.resizable, _, hstart, by decide +kernel, fun d => ?_⟩
  have hfew : [Duration.ofNanos 20000, .ofNanos 10000].length < UInt64.size := by decide
  exact ((decision_takes_effect_next_frame Pliant.steady Pliant.resizable hstart hfew).2 d).2.1

end Presenter

end AdaptiveResolution.Presentation
