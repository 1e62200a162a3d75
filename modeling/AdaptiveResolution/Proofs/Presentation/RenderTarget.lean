import Mathlib.Tactic.ByContra
import AdaptiveResolution.Proofs.Pacing.Scale
import AdaptiveResolution.Proofs.Pacing.Window
import AdaptiveResolution.Proofs.Presentation.Scripted

/-!
The render target against the scale. Between frames the target has the size that the scale asks
for, or that size is pending, as long as no frame drops a decision: one that decides on a size
while the backend refuses an older size that is still pending.
-/

namespace AdaptiveResolution.Presentation.Presenter

open Pacing (Config Controller Decision)

variable {β ε : Type}

def wantedSize (p : Presenter β) : Extent := p.pendingResize.getD p.renderSize

variable [Backend β ε]

def scaledSize (p : Presenter β) : Extent :=
  (Backend.outputSize p.backend).scaled p.controller.scale

/-- Either the render target is as large as the scale asks for, or that size is pending. -/
def Coherent (p : Presenter β) : Prop :=
  p.pendingResize = none ∧ p.renderSize = p.scaledSize ∨ p.pendingResize = some p.scaledSize

instance (p : Presenter β) : Decidable p.Coherent := inferInstanceAs (Decidable (_ ∨ _))

theorem coherent_iff (p : Presenter β) : p.Coherent ↔ p.wantedSize = p.scaledSize := by
  unfold Coherent wantedSize
  cases p.pendingResize <;> simp

def SteadyOutput (β : Type) {ε : Type} [Backend β ε] : Prop :=
  Backend.EveryCall β fun b b' => Backend.outputSize b' = Backend.outputSize b

structure Targets (output : Extent) (controller : Controller) (size : Extent)
    (p : Presenter β) : Prop where
  output_eq : Backend.outputSize p.backend = output
  controller_eq : p.controller = controller
  wanted_eq : p.wantedSize = size

section

variable {output size : Extent} {controller : Controller}

theorem Targets.of_eq {p q : Presenter β} (h : Targets output controller size p)
    (houtput : Backend.outputSize q.backend = Backend.outputSize p.backend)
    (hcontroller : q.controller = p.controller) (hpending : q.pendingResize = p.pendingResize)
    (hsize : q.renderSize = p.renderSize) : Targets output controller size q where
  output_eq := houtput.trans h.output_eq
  controller_eq := hcontroller.trans h.controller_eq
  wanted_eq := by
    rw [wantedSize, hpending, hsize]
    exact h.wanted_eq

theorem ends_output {α : Type} {x : Action β ε α} (h : ∀ b, Backend.outputSize (x b).state =
    Backend.outputSize b) (b : β) : x.Ends b
      (fun _ b' => Backend.outputSize b' = Backend.outputSize b)
      fun b' => Backend.outputSize b' = Backend.outputSize b :=
  Action.ends_of_state (P := fun b' => Backend.outputSize b' = Backend.outputSize b) (h b)

theorem Targets.coherent_iff {p : Presenter β} (h : Targets output controller size p) :
    p.Coherent ↔ size = output.scaled controller.scale := by
  rw [Presenter.coherent_iff, h.wanted_eq, scaledSize, h.output_eq, h.controller_eq]

theorem await_targets (h : SteadyOutput β) (fence : Nat) (reason : String) :
    (await fence reason).Keeps (Targets (β := β) output controller size) := by
  apply Action.Keeps.of_ends
  intro p hp
  apply (ends_await _ _ _ _ _).mpr
  refine ⟨fun _ => ?_, fun _ => hp⟩
  refine (ends_output (h.wait fence) _).mono (fun _ _ ho => ?_) fun _ ho =>
    hp.of_eq ho rfl rfl rfl
  exact ⟨fun _ => hp.of_eq ho rfl rfl rfl, fun _ => hp.of_eq ho rfl rfl rfl⟩

theorem draw_targets (h : SteadyOutput β) :
    draw.Keeps (Targets (β := β) output controller size) := by
  apply Action.Keeps.of_ends
  intro p hp
  apply (ends_draw _ _ _).mpr
  refine (ends_output (h.render _) _).mono (fun _ b hb => ?_) fun _ ho => hp.of_eq ho rfl rfl rfl
  exact (ends_output (h.copy _) b).mono (fun _ _ ho => hp.of_eq (ho.trans hb) rfl rfl rfl)
    fun _ ho => hp.of_eq (ho.trans hb) rfl rfl rfl

theorem submit_targets (h : SteadyOutput β) :
    submit.Keeps (Targets (β := β) output controller size) := by
  apply Action.Keeps.of_ends
  intro p hp
  apply (ends_submit _ _ _).mpr
  exact (ends_output h.submit _).mono (fun _ _ ho => hp.of_eq ho rfl rfl rfl)
    fun _ ho => hp.of_eq ho rfl rfl rfl

theorem presentBuffer_targets (h : SteadyOutput β) (index : BackBuffer) :
    (presentBuffer index).Keeps (Targets (β := β) output controller size) := by
  apply Action.Keeps.of_ends
  intro p hp
  apply (ends_presentBuffer _ _ _ _).mpr
  refine (ends_output (h.present index) _).mono (fun _ _ ho => ?_) fun _ ho =>
    hp.of_eq ho rfl rfl rfl
  refine ⟨fun _ => ⟨fun _ => ?_, fun _ => ?_⟩, fun _ => ?_⟩
  all_goals exact hp.of_eq ho rfl rfl rfl

theorem applyPendingResize_targets (h : SteadyOutput β) :
    applyPendingResize.Keeps (Targets (β := β) output controller size) := by
  apply Action.Keeps.of_ends
  intro p hp
  cases hpending : p.pendingResize with
  | none => exact (ends_applyPendingResize_none hpending _ _).mpr hp
  | some pending =>
    have hwanted : pending = size := by
      rw [← hp.wanted_eq, wantedSize, hpending]
      rfl
    apply (ends_applyPendingResize_some hpending _ _).mpr
    refine (ends_output (h.resize pending) _).mono (fun _ _ ho => ?_) fun _ ho =>
      hp.of_eq ho rfl rfl rfl
    constructor
    all_goals exact fun _ => ⟨ho.trans hp.output_eq, hp.controller_eq, hwanted⟩

theorem drawAndPresent_targets (h : SteadyOutput β) (decision : Decision) :
    (drawAndPresent decision).Keeps (Targets (β := β) output controller size) := by
  refine .bind .state_self fun p => ?_
  refine .bind (await_targets h _ _) fun _ => ?_
  refine .bind (draw_targets h) fun frame => ?_
  refine .bind (submit_targets h) fun fence => ?_
  refine .bind (await_targets h _ _) fun _ => ?_
  refine .bind (presentBuffer_targets h _) fun _ => ?_
  refine .bind (applyPendingResize_targets h) fun resized => ?_
  refine .bind (.update fun q hq => hq.of_eq rfl rfl rfl rfl) fun _ => ?_
  exact .pure _

theorem scheduleResize_targets (h : SteadyOutput β) (decision : Decision) {p : Presenter β}
    (hp : Targets output controller size p) :
    (do scheduleResize decision; drawAndPresent decision).Ends p
      (fun _ => Targets output controller
        (if decision.resizeNeeded then output.scaled decision.scale else size))
      (Targets output controller
        (if decision.resizeNeeded then output.scaled decision.scale else size)) := by
  rw [Action.ends_bind, ends_scheduleResize]
  apply (drawAndPresent_targets h decision).ends
  split
  · exact ⟨hp.output_eq, hp.controller_eq, by rw [hp.output_eq]; rfl⟩
  · exact hp

end

theorem presentFrame_undecided {elapsed : Duration} {p : Presenter β}
    (hdecision : ∀ d, (Controller.advanceDuration elapsed p.controller).outcome ≠ .done d) :
    (presentFrame elapsed p).state =
      { p with controller := (Controller.advanceDuration elapsed p.controller).state } := by
  have hends : (presentFrame elapsed).Ends p (fun _ _ => False) (fun q => q =
      { p with controller := (Controller.advanceDuration elapsed p.controller).state }) := by
    rw [presentFrame_eq, Action.ends_bind, ends_pace, Action.ends_of_not_done hdecision]
  exact (hends.mono (fun _ _ hf => hf.elim) fun _ hq => hq).state

def paced (elapsed : Duration) (p : Presenter β) : Presenter β :=
  { p with
    controller := (Controller.advanceDuration elapsed p.controller).state
    time := p.time.add elapsed }

theorem presentFrame_decided {elapsed : Duration} {p : Presenter β} {decision : Decision}
    (hdecision : (Controller.advanceDuration elapsed p.controller).outcome = .done decision)
    {E : Presenter β → Prop}
    (h : (do
      let _ ← applyPendingResize
      scheduleResize decision
      drawAndPresent decision).Ends (p.paced elapsed) (fun _ => E) E) :
    E (presentFrame elapsed p).state := by
  apply Action.Ends.state
  rw [presentFrame_eq, Action.ends_bind, ends_pace, Action.ends_of_done hdecision]
  exact h

def Stops (size : Extent) (p : Presenter β) : Prop :=
  (Backend.resize size p.backend).outcome ≠ .done () ∨ Full p.stats.resizes

theorem presentFrame_stopped (h : SteadyOutput β) {elapsed : Duration} {p : Presenter β}
    {decision : Decision} {size : Extent}
    (hdecision : (Controller.advanceDuration elapsed p.controller).outcome = .done decision)
    (hpending : p.pendingResize = some size) (hstops : Stops size p) :
    Targets (Backend.outputSize p.backend)
      (Controller.advanceDuration elapsed p.controller).state size
      (presentFrame elapsed p).state := by
  apply presentFrame_decided hdecision
  have hpaced : (p.paced elapsed).pendingResize = some size := hpending
  have houtput := h.resize size p.backend
  rw [Action.ends_bind, ends_applyPendingResize_some hpaced]
  -- The frame ends here, before the decision is recorded.
  by_cases hdone : (Backend.resize size p.backend).outcome = .done ()
  · have hfull : Full p.stats.resizes := hstops.resolve_left (not_not_intro hdone)
    apply (Action.ends_of_done hdone _ _).mpr
    exact ⟨fun hroom => absurd hfull hroom, fun _ => ⟨houtput, rfl, rfl⟩⟩
  · apply (Action.ends_of_not_done (fun _ => hdone) _ _).mpr
    exact ⟨houtput, rfl, by rw [wantedSize, hpaced]; rfl⟩

theorem presentFrame_applied (h : SteadyOutput β) {elapsed : Duration} {p : Presenter β}
    {decision : Decision}
    (hdecision : (Controller.advanceDuration elapsed p.controller).outcome = .done decision)
    (happlied : ∀ size, p.pendingResize = some size → ¬Stops size p) :
    Targets (Backend.outputSize p.backend)
      (Controller.advanceDuration elapsed p.controller).state
      (if decision.resizeNeeded then (Backend.outputSize p.backend).scaled decision.scale
        else p.wantedSize)
      (presentFrame elapsed p).state := by
  apply presentFrame_decided hdecision
  rw [Action.ends_bind]
  cases hpending : p.pendingResize with
  | none =>
    have hpaced : (p.paced elapsed).pendingResize = none := hpending
    rw [ends_applyPendingResize_none hpaced]
    exact scheduleResize_targets h decision ⟨rfl, rfl, rfl⟩
  | some size =>
    have hpaced : (p.paced elapsed).pendingResize = some size := hpending
    have hwanted : p.wantedSize = size := by
      rw [wantedSize, hpending]
      rfl
    obtain ⟨hdone, hroom⟩ := not_or.mp (happlied size hpending)
    rw [ends_applyPendingResize_some hpaced, hwanted]
    apply (Action.ends_of_done (not_not.mp hdone) _ _).mpr
    refine ⟨fun _ => ?_, fun hfull => absurd hfull hroom⟩
    exact scheduleResize_targets h decision ⟨h.resize size p.backend, rfl, rfl⟩

/-- A frame that decides on a size, cannot apply the older one that is pending, and so forgets the
new one, which is another. -/
def DropsDecision (elapsed : Duration) (p : Presenter β) : Prop :=
  ∃ decision size, (Controller.advanceDuration elapsed p.controller).outcome = .done decision ∧
    decision.resizeNeeded = true ∧ p.pendingResize = some size ∧ Stops size p ∧
    size ≠ (Backend.outputSize p.backend).scaled decision.scale

section

variable {elapsed : Duration} {p : Presenter β} {decision : Decision}

theorem undecided_coherent (hp : p.Coherent)
    (hdecision : ∀ d, (Controller.advanceDuration elapsed p.controller).outcome ≠ .done d) :
    (presentFrame elapsed p).state.Coherent := by
  have hscale := Controller.advanceDuration_scale elapsed p.controller
  rw [Action.ends_of_not_done hdecision] at hscale
  rw [presentFrame_undecided hdecision, coherent_iff, scaledSize, hscale]
  exact p.coherent_iff.mp hp

theorem decision_scale
    (hdecision : (Controller.advanceDuration elapsed p.controller).outcome = .done decision) :
    (Controller.advanceDuration elapsed p.controller).state.scale = decision.scale ∧
      (decision.resizeNeeded = false → decision.scale = p.controller.scale) := by
  have hscale := Controller.advanceDuration_scale elapsed p.controller
  rwa [Action.ends_of_done hdecision] at hscale

theorem applied_coherent (h : SteadyOutput β) (hp : p.Coherent)
    (hdecision : (Controller.advanceDuration elapsed p.controller).outcome = .done decision)
    (happlied : ∀ size, p.pendingResize = some size → ¬Stops size p) :
    (presentFrame elapsed p).state.Coherent := by
  obtain ⟨hnew, hkept⟩ := decision_scale hdecision
  rw [(presentFrame_applied h hdecision happlied).coherent_iff, hnew]
  cases hresize : decision.resizeNeeded with
  | true => rfl
  | false =>
    rw [if_neg Bool.false_ne_true, hkept hresize]
    exact p.coherent_iff.mp hp

theorem stopped_coherent_iff (h : SteadyOutput β) (hp : p.Coherent) {size : Extent}
    (hdecision : (Controller.advanceDuration elapsed p.controller).outcome = .done decision)
    (hpending : p.pendingResize = some size) (hstops : Stops size p) :
    (presentFrame elapsed p).state.Coherent ↔
      (decision.resizeNeeded = true →
        size = (Backend.outputSize p.backend).scaled decision.scale) := by
  obtain ⟨hnew, hkept⟩ := decision_scale hdecision
  rw [(presentFrame_stopped h hdecision hpending hstops).coherent_iff, hnew]
  constructor
  · exact fun hsize _ => hsize
  · intro hsize
    cases hresize : decision.resizeNeeded with
    | true => exact hsize hresize
    | false =>
      have hwanted : p.wantedSize = size := by
        rw [wantedSize, hpending]
        rfl
      rw [hkept hresize, ← hwanted]
      exact p.coherent_iff.mp hp

end

theorem presentFrame_coherent_iff (h : SteadyOutput β) (elapsed : Duration) {p : Presenter β}
    (hp : p.Coherent) :
    (presentFrame elapsed p).state.Coherent ↔ ¬DropsDecision elapsed p := by
  -- A decision can be lost only where it meets an older size at which the frame stops.
  by_cases hdone : ∃ d, (Controller.advanceDuration elapsed p.controller).outcome = .done d
  · obtain ⟨decision, hdecision⟩ := hdone
    by_cases hheld : ∃ size, p.pendingResize = some size ∧ Stops size p
    · obtain ⟨size, hpending, hstops⟩ := hheld
      rw [stopped_coherent_iff h hp hdecision hpending hstops]
      constructor
      · rintro hcoherent ⟨decision', size', hdecision', hresize, hpending', -, hother⟩
        cases hdecision.symm.trans hdecision'
        cases hpending.symm.trans hpending'
        exact hother (hcoherent hresize)
      · intro hdrops hresize
        by_contra hother
        exact hdrops ⟨decision, size, hdecision, hresize, hpending, hstops, hother⟩
    · have happlied (size : Extent) (hpending : p.pendingResize = some size) : ¬Stops size p :=
        fun hstops => hheld ⟨size, hpending, hstops⟩
      apply iff_of_true (applied_coherent h hp hdecision happlied)
      rintro ⟨_, size, -, -, hpending, hstops, -⟩
      exact happlied size hpending hstops
  · have hdecision : ∀ d, (Controller.advanceDuration elapsed p.controller).outcome ≠ .done d :=
      fun d hd => hdone ⟨d, hd⟩
    apply iff_of_true (undecided_coherent hp hdecision)
    rintro ⟨decision, _, hd, -⟩
    exact hdecision decision hd

theorem start_coherent (h : SteadyOutput β) {controller : Controller} {b : β} {p : Presenter β}
    (hstart : (start controller b).outcome = .done p) : p.Coherent := by
  obtain ⟨-, rfl⟩ := start_done_iff.mp hstart
  exact .inl ⟨rfl, by rw [scaledSize, h.resize]⟩

theorem run_coherent_iff (h : SteadyOutput β) {p : Presenter β} (hp : p.Coherent)
    (elapsed : List Duration) :
    (∀ n ≤ elapsed.length, (p.after (elapsed.take n)).Coherent) ↔
      ∀ n (hn : n < elapsed.length), ¬DropsDecision elapsed[n] (p.after (elapsed.take n)) := by
  have hnext (n : Nat) (hn : n < elapsed.length) : p.after (elapsed.take (n + 1)) =
      (presentFrame elapsed[n] (p.after (elapsed.take n))).state := by
    rw [← List.take_append_getElem hn, after_append]
    rfl
  constructor
  · intro hcoherent n hn
    apply (presentFrame_coherent_iff h _ (hcoherent n (by omega))).mp
    rw [← hnext n hn]
    exact hcoherent (n + 1) hn
  · intro hdrops n
    induction n with
    | zero => exact fun _ => hp
    | succ n ih =>
      intro hn
      rw [hnext n hn]
      exact (presentFrame_coherent_iff h _ (ih (by omega))).mpr (hdrops n hn)

theorem drawAndPresent_renders (decision : Decision) (p : Presenter β) :
    (drawAndPresent decision).Ends p (fun report _ => report.renderSize = p.renderSize)
      fun _ => True := by
  have hawait (fence : Nat) (reason : String) :
      (await fence reason).Ends p (fun _ q => q.renderSize = p.renderSize) fun _ => True := by
    rw [ends_await]
    refine ⟨fun _ => Action.ends_of_forall_done fun _ _ => ?_, fun _ => rfl⟩
    exact ⟨fun _ => rfl, fun _ => trivial⟩
  unfold drawAndPresent
  rw [Action.ends_bind, Action.ends_state, Action.ends_bind]
  refine (hawait _ _).mono (fun _ q hq => ?_) fun _ _ => trivial
  rw [Action.ends_bind, ends_draw]
  apply Action.ends_of_forall_done
  intro _ _
  apply Action.ends_of_forall_done
  intro _ _
  -- From here on the frame is only handed on to the report.
  rw [Action.ends_bind]
  apply Action.ends_of_forall_done
  intro fence _
  rw [Action.ends_bind]
  apply Action.ends_of_forall_done
  intro _ _
  rw [Action.ends_bind]
  apply Action.ends_of_forall_done
  intro _ _
  rw [Action.ends_bind]
  apply Action.ends_of_forall_done
  intro resized _
  exact hq

theorem applyPendingResize_renders (p : Presenter β) :
    applyPendingResize.Ends p (fun _ q => q.renderSize = p.wantedSize) fun _ => True := by
  unfold wantedSize
  cases hpending : p.pendingResize with
  | none => exact (ends_applyPendingResize_none hpending _ _).mpr rfl
  | some size =>
    apply (ends_applyPendingResize_some hpending _ _).mpr
    exact Action.ends_of_forall_done fun _ _ => ⟨fun _ => rfl, fun _ => trivial⟩

theorem presentFrame_renders {elapsed : Duration} {p : Presenter β} {report : FrameReport}
    (hreport : (presentFrame elapsed p).outcome = .done report) :
    report.renderSize = p.wantedSize := by
  have hends : (presentFrame elapsed).Ends p (fun report _ => report.renderSize = p.wantedSize)
      fun _ => True := by
    rw [presentFrame_eq, Action.ends_bind, ends_pace]
    apply Action.ends_of_forall_done
    intro decision controller
    rw [Action.ends_bind]
    refine (applyPendingResize_renders _).mono (fun _ q hq => ?_) fun _ _ => trivial
    have hsize : q.renderSize = p.wantedSize := hq
    rw [Action.ends_bind, ends_scheduleResize, ← hsize]
    split
    · exact drawAndPresent_renders decision _
    · exact drawAndPresent_renders decision q
  exact (Action.ends_of_done hreport _ _).mp hends

/-- The target stays coherent for as long as no frame drops a decision, and a frame that is
presented was rendered at the wanted size. -/
theorem target_coherent_iff_no_decision_dropped (h : SteadyOutput β) {controller : Controller}
    {b : β} {p : Presenter β} (hstart : (start controller b).outcome = .done p)
    (elapsed : List Duration) :
    ((∀ n ≤ elapsed.length, (p.after (elapsed.take n)).Coherent) ↔
      ∀ n (hn : n < elapsed.length), ¬DropsDecision elapsed[n] (p.after (elapsed.take n))) ∧
    ∀ d report, (presentFrame d (p.after elapsed)).outcome = .done report →
      report.renderSize = (p.after elapsed).wantedSize :=
  ⟨run_coherent_iff h (start_coherent h hstart) elapsed, fun _ _ => presentFrame_renders⟩

def eager : Config where
  targetFrameTime := 100
  windowSize := 1

def eagerController : Controller :=
  Controller.fresh eager (Controller.startScale eager (.ofNat 1))

def refusing : Scripted where
  output := ⟨1000, 500⟩
  script := [true, true, true, true, true, false, false, false]

theorem eager_withScale : Controller.withScale eager (.ofNat 1) = .done eagerController := by
  have hvalid : eager.Valid := by constructor <;> decide +kernel
  exact (Controller.withScale_eq hvalid _).trans (if_pos (by decide))

theorem target_coherent_iff_no_decision_dropped_refusing :
    SteadyOutput Scripted ∧ ∃ p : Presenter Scripted,
      (start eagerController refusing).outcome = .done p ∧
        ((∀ n ≤ 2, (p.after ([.ofNanos 20000, .ofNanos 10000].take n)).Coherent) ↔
          ∀ n (hn : n < 2), ¬DropsDecision [.ofNanos 20000, .ofNanos 10000][n]
            (p.after ([.ofNanos 20000, .ofNanos 10000].take n))) := by
  have hstart : (start eagerController refusing).outcome = .done _ := rfl
  refine ⟨Scripted.steady, _, hstart, ?_⟩
  exact (target_coherent_iff_no_decision_dropped Scripted.steady hstart
    [.ofNanos 20000, .ofNanos 10000]).1

-- The third frame decides on an eighth of the output while half of it is still refused.
theorem stale_size_pending :
    Controller.withScale eager (.ofNat 1) = .done eagerController ∧ SteadyOutput Scripted ∧
      ∃ p : Presenter Scripted, (start eagerController refusing).outcome = .done p ∧
        let q := p.after [.ofNanos 20000, .ofNanos 10000, .ofNanos 40000]
        q.pendingResize = some ⟨500, 250⟩ ∧ q.scaledSize = ⟨125, 63⟩ ∧ ¬q.Coherent :=
  ⟨eager_withScale, Scripted.steady, _, rfl, by decide +kernel, by decide +kernel,
    by decide +kernel⟩

end AdaptiveResolution.Presentation.Presenter
