import Mathlib.Data.List.Chain
import AdaptiveResolution.Proofs.Presentation.Discarding
import AdaptiveResolution.Proofs.Presentation.Reuse
import AdaptiveResolution.Proofs.Presentation.Tallies

namespace AdaptiveResolution.Presentation

open Pacing (Config Controller Decision Operation)

def Event.signalled (e : Event) : Option Nat :=
  match e.call, e.answer with
  | .submit, .signals fence => some fence
  | _, _ => none

def signals (history : List Event) : List Nat := history.filterMap Event.signalled

structure Smooth (history : List Event) : Prop where
  answered : ∀ e ∈ history, ¬e.Refused
  consecutive : (signals history).IsChain fun later earlier => later = earlier + 1

instance (e : Event) : Decidable e.Refused := inferInstanceAs (Decidable (_ ∨ _))

instance (history : List Event) : Decidable (Smooth history) :=
  decidable_of_iff ((∀ e ∈ history, ¬e.Refused) ∧
      (signals history).IsChain fun later earlier => later = earlier + 1)
    ⟨fun h => ⟨h.1, h.2⟩, fun h => ⟨h.answered, h.consecutive⟩⟩

theorem Event.signalled_of_call {e : Event} (he : e.call ≠ .submit) : e.signalled = none := by
  unfold signalled
  split
  · contradiction
  · rfl

theorem signals_append (made history : List Event) :
    signals (made ++ history) = signals made ++ signals history :=
  List.filterMap_append

theorem signals_cons (e : Event) (history : List Event) :
    signals (e :: history) = e.signalled.toList ++ signals history := by
  unfold signals
  rw [List.filterMap_cons]
  cases e.signalled <;> rfl

theorem Smooth.earlier {made history : List Event} (h : Smooth (made ++ history)) :
    Smooth history where
  answered e he := h.answered e (List.mem_append_right made he)
  consecutive := by
    have hchain := h.consecutive
    rw [signals_append] at hchain
    exact hchain.right_of_append

variable {β ε α : Type} [Backend β ε]

theorem Recorded.ends_answered {call : Call} {answer : α → Answer} {x : Action β ε α}
    {r : Recorded β} {Q : α → Recorded β → Prop}
    (hQ : ∀ a, (x r.backend).outcome = .done a →
      Q a ⟨(x r.backend).state, ⟨call, Backend.completed r.backend, answer a⟩ :: r.history⟩) :
    (Recorded.perform call answer x).Ends r Q fun _ => True := by
  unfold Action.Ends Recorded.perform
  dsimp only
  cases hx : (x r.backend).outcome with
  | done a => exact hQ a hx
  | failed error => trivial
  | trapped trap => trivial

namespace Presenter

structure Unsubmitted (p : Presenter (Recorded β)) (made : List Event)
    (q : Presenter (Recorded β)) : Prop where
  history_eq : q.backend.history = made ++ p.backend.history
  calls : ∀ e ∈ made, e.call ≠ .submit ∧ ∀ value, e.call ≠ .wait value
  completed_le : Backend.completed p.backend ≤ Backend.completed q.backend
  inFlight_eq : q.inFlight = p.inFlight
  backBuffer_eq : q.backBuffer = p.backBuffer
  framesPresented_eq : q.stats.framesPresented = p.stats.framesPresented

structure Queued (p : Presenter (Recorded β)) (fence : Nat) (made : List Event)
    (q : Presenter (Recorded β)) : Prop where
  history_eq : q.backend.history = made ++ p.backend.history
  signals_eq : signals made = [fence]
  drawn : ∃ frame : FrameContext, frame.DrawnIn made
  waits : ∀ e earlier, e :: earlier <:+ made → ∀ value, e.call = .wait value →
    value = fence - 1 ∧ ∃ frame : FrameContext, frame.DrawnIn earlier
  inFlight_eq : q.inFlight = p.inFlight.setIfInBounds p.backBuffer fence

structure Delivered (p : Presenter (Recorded β)) (fence : Nat) (made : List Event)
    (q : Presenter (Recorded β)) : Prop extends Queued p fence made q where
  reached : fence - 1 ≤ Backend.completed q.backend
  backBuffer_eq : q.backBuffer = p.backBuffer.flip
  framesPresented_eq : q.stats.framesPresented.toNat = p.stats.framesPresented.toNat + 1

/-- After `n` frames the latest submission is in flight for the buffer that was drawn to, and the
one for the other buffer is done. -/
structure Trailing (n : Nat) (p : Presenter (Recorded β)) : Prop extends p.OneEach n where
  latest : p.inFlight.get p.backBuffer.flip = (signals p.backend.history).headD 0
  framesPresented_eq : p.stats.framesPresented.toNat = n

section

variable {p q : Presenter (Recorded β)} {fence n : Nat} {made : List Event}

theorem Unsubmitted.ends_call (hq : Unsubmitted p made q) {call : Call} {answer : α → Answer}
    {x : Action β ε α} {Q : α → Recorded β → Prop}
    (hcall : call ≠ .submit ∧ ∀ value, call ≠ .wait value)
    (hmono : Backend.completed q.backend.backend ≤ Backend.completed (x q.backend.backend).state)
    (hQ : ∀ a b, let e : Event := ⟨call, Backend.completed q.backend.backend, answer a⟩
      Unsubmitted p (e :: made) { q with backend := ⟨b, e :: q.backend.history⟩ } →
        Q a ⟨b, e :: q.backend.history⟩) :
    (Recorded.perform call answer x).Ends q.backend Q fun _ => True :=
  Recorded.ends_answered fun a _ => hQ a _ {
    history_eq := congrArg (_ :: ·) hq.history_eq
    calls := List.forall_mem_cons.mpr ⟨hcall, hq.calls⟩
    completed_le := hq.completed_le.trans hmono
    inFlight_eq := hq.inFlight_eq
    backBuffer_eq := hq.backBuffer_eq
    framesPresented_eq := hq.framesPresented_eq }

theorem Unsubmitted.signals_eq (hq : Unsubmitted p made q) : signals made = [] :=
  List.filterMap_eq_nil_iff.mpr fun e he => e.signalled_of_call (hq.calls e he).1

theorem Queued.cons (hq : Queued p fence made q) {e : Event} (he : e.call ≠ .submit)
    (hwait : ∀ value, e.call = .wait value → value = fence - 1) (b : β) :
    Queued p fence (e :: made) { q with backend := ⟨b, e :: q.backend.history⟩ } where
  history_eq := congrArg (e :: ·) hq.history_eq
  signals_eq := by rw [signals_cons, e.signalled_of_call he, hq.signals_eq]; rfl
  drawn := hq.drawn.imp fun _ hframe => hframe.mono (List.suffix_cons e made)
  waits := forall_suffix_cons_iff.mpr ⟨fun value hvalue => ⟨hwait value hvalue, hq.drawn⟩, hq.waits⟩
  inFlight_eq := hq.inFlight_eq

theorem applyPendingResize_unsubmitted (h : HonestFences β) (hq : Unsubmitted p made q) :
    applyPendingResize.Ends q (fun _ q' => ∃ made', Unsubmitted p made' q') (fun _ => True) := by
  cases hpending : q.pendingResize with
  | none => exact (ends_applyPendingResize_none hpending _ _).mpr ⟨made, hq⟩
  | some size =>
    apply (ends_applyPendingResize_some hpending _ _).mpr
    refine hq.ends_call (by simp) (h.completed_mono.resize _ _) fun _ b hnext => ?_
    exact ⟨fun _ => ⟨_, { hnext with }⟩, fun _ => trivial⟩

theorem scheduleResize_unsubmitted (hq : Unsubmitted p made q) (decision : Decision) :
    (scheduleResize decision).Ends q (fun _ => Unsubmitted p made) (fun _ => True) := by
  rw [ends_scheduleResize]
  split
  · exact { hq with }
  · exact hq

theorem await_unsubmitted (hp : Trailing n p) (hq : Unsubmitted p made q) (reason : String) :
    (await (q.inFlight.get q.backBuffer) reason).Ends q (fun _ => Unsubmitted p made) (fun _ => True) := by
  -- What was last submitted for this buffer is done already.
  have hreached : ¬Backend.completed q.backend < q.inFlight.get q.backBuffer := by
    rw [hq.inFlight_eq, hq.backBuffer_eq]
    exact Nat.not_lt.mpr (hp.reached.trans hq.completed_le)
  exact (ends_await _ _ _ _ _).mpr ⟨fun hbusy => absurd hbusy hreached, fun _ => hq⟩

theorem draw_unsubmitted (h : HonestFences β) (hq : Unsubmitted p made q) :
    draw.Ends q
      (fun frame q' => frame.backBuffer = p.backBuffer ∧ ∃ made' copied rendered,
        [⟨.copy frame.backBuffer, copied, .done⟩, ⟨.render frame, rendered, .done⟩] <+: made' ∧
          Unsubmitted p made' q')
      (fun _ => True) := by
  have hrendering : Unsubmitted p made { q with state := .rendering } := { hq with }
  apply (ends_draw _ _ _).mpr
  refine hrendering.ends_call (by simp) (h.completed_mono.render _ _) fun _ b hrendered => ?_
  refine hrendered.ends_call (by simp) (h.completed_mono.copy _ _) fun _ b' hcopied => ?_
  exact ⟨hq.backBuffer_eq, _, _, _, List.prefix_append _ made, hcopied⟩

theorem submit_queued (hq : Unsubmitted p made q) {frame : FrameContext} {copied rendered : Nat}
    (hdrawn : [⟨.copy frame.backBuffer, copied, .done⟩, ⟨.render frame, rendered, .done⟩] <+:
      made) :
    submit.Ends q
      (fun fence q' => (∃ made', Queued p fence made' q') ∧
        q'.stats.framesPresented = p.stats.framesPresented)
      (fun _ => True) := by
  refine (ends_submit _ _ _).mpr (Recorded.ends_answered fun fence _ => ?_)
  let event : Event := ⟨.submit, Backend.completed q.backend.backend, .signals fence⟩
  refine ⟨⟨event :: made, ?_⟩, hq.framesPresented_eq⟩
  exact {
    history_eq := congrArg (event :: ·) hq.history_eq
    signals_eq := by rw [signals_cons, hq.signals_eq]; rfl
    drawn := ⟨frame, rendered, copied, _, fence, (List.cons_prefix_cons.mpr ⟨rfl, hdrawn⟩).isInfix⟩
    waits := by
      intro e earlier he value hvalue
      rcases List.mem_cons.mp (he.subset (List.mem_cons_self ..)) with rfl | he
      · contradiction
      · exact absurd hvalue ((hq.calls e he).2 value)
    inFlight_eq := by rw [← hq.inFlight_eq, ← hq.backBuffer_eq] }

theorem await_queued (h : HonestFences β) (hq : Queued p fence made q) (reason : String) :
    (await (fence - 1) reason).Ends q
      (fun _ q' => (∃ made', Queued p fence made' q') ∧
        fence - 1 ≤ Backend.completed q'.backend ∧
        q'.stats.framesPresented = q.stats.framesPresented)
      (fun _ => True) := by
  refine (ends_await _ _ _ _ _).mpr ⟨fun _ => ?_, fun hreached => ?_⟩
  · refine Recorded.ends_answered fun _ hdone => ?_
    have hwaited := hq.cons (e := ⟨.wait (fence - 1), Backend.completed q.backend.backend, .done⟩)
      (by simp) (fun value hvalue => (Call.wait.inj hvalue).symm)
      (Backend.wait (fence - 1) q.backend.backend).state
    exact ⟨fun _ => ⟨⟨_, { hwaited with }⟩, h.wait_reaches _ _ hdone, rfl⟩, fun _ => trivial⟩
  · exact ⟨⟨made, hq⟩, Nat.le_of_not_lt hreached, rfl⟩

theorem presentBuffer_delivered (h : HonestFences β) (hq : Queued p fence made q)
    (hreached : fence - 1 ≤ Backend.completed q.backend)
    (hpresented : q.stats.framesPresented = p.stats.framesPresented) :
    (presentBuffer p.backBuffer).Ends q (fun _ q' => ∃ made', Delivered p fence made' q')
      (fun _ => True) := by
  refine (ends_presentBuffer _ _ _ _).mpr (Recorded.ends_answered fun _ _ => ?_)
  have hnext := hq.cons
    (e := ⟨.present p.backBuffer, Backend.completed q.backend.backend, .done⟩)
    (by simp) (by simp) (Backend.present p.backBuffer q.backend.backend).state
  refine ⟨fun _ => ⟨fun hroom => ?_, fun _ => trivial⟩, fun _ => trivial⟩
  exact ⟨_, { hnext with }, hreached.trans (h.completed_mono.present _ _), rfl,
    (toNat_succ hroom).trans (congrArg (·.toNat + 1) hpresented)⟩

theorem applyPendingResize_delivered (h : HonestFences β) (hq : Delivered p fence made q) :
    applyPendingResize.Ends q (fun _ q' => ∃ made', Delivered p fence made' q') (fun _ => True) := by
  cases hpending : q.pendingResize with
  | none => exact (ends_applyPendingResize_none hpending _ _).mpr ⟨made, hq⟩
  | some size =>
    refine (ends_applyPendingResize_some hpending _ _).mpr (Recorded.ends_answered fun _ _ => ?_)
    have hnext := hq.toQueued.cons
      (e := ⟨.resize size, Backend.completed q.backend.backend, .done⟩)
      (by simp) (by simp) (Backend.resize size q.backend.backend).state
    refine ⟨fun _ => ?_, fun _ => trivial⟩
    exact ⟨_, { hnext with }, hq.reached.trans (h.completed_mono.resize _ _), hq.backBuffer_eq,
      hq.framesPresented_eq⟩

theorem drawAndPresent_delivered (h : HonestFences β) (hp : Trailing n p)
    (hq : Unsubmitted p made q) (decision : Decision) :
    (drawAndPresent decision).Ends q
      (fun report q' => ∃ made', Delivered p report.fence made' q') (fun _ => True) := by
  unfold drawAndPresent
  rw [Action.ends_bind, Action.ends_state, Action.ends_bind]
  refine (await_unsubmitted hp hq _).imp fun _ q₁ h₁ => ?_
  rw [Action.ends_bind]
  refine (draw_unsubmitted h h₁).imp ?_
  rintro frame q₂ ⟨hframe, made₂, copied, rendered, hdrawn, h₂⟩
  rw [Action.ends_bind]
  refine (submit_queued h₂ hdrawn).imp ?_
  rintro fence q₃ ⟨⟨made₃, h₃⟩, hpresented₃⟩
  rw [Action.ends_bind]
  refine (await_queued h h₃ _).imp ?_
  rintro _ q₄ ⟨⟨made₄, h₄⟩, hreached, hpresented₄⟩
  rw [Action.ends_bind, hframe]
  refine (presentBuffer_delivered h h₄ hreached (hpresented₄.trans hpresented₃)).imp ?_
  rintro _ q₅ ⟨made₅, h₅⟩
  rw [Action.ends_bind]
  refine (applyPendingResize_delivered h h₅).imp ?_
  rintro resized q₆ ⟨made₆, h₆⟩
  rw [Action.ends_bind, Action.ends_update, Action.ends_pure]
  exact ⟨made₆, { h₆ with }⟩

theorem presentFrame_delivered (h : HonestFences β) (hp : Trailing n p) (hsound : p.controller.Sound)
    {d : Duration} (hd : d.nanos ≠ 0) :
    (presentFrame d).Ends p (fun report q => ∃ made, Delivered p report.fence made q) (fun _ => True) := by
  obtain ⟨decision, hdecision⟩ := hsound.exists_decision hd
  rw [presentFrame_eq, Action.ends_bind, ends_pace, Action.ends_of_done hdecision, Action.ends_bind]
  have hpaced : Unsubmitted p [] (p.paced d) :=
    ⟨rfl, by simp, Nat.le_refl _, rfl, rfl, rfl⟩
  refine (applyPendingResize_unsubmitted h hpaced).imp ?_
  rintro resized q ⟨made, hq⟩
  rw [Action.ends_bind]
  exact (scheduleResize_unsubmitted hq decision).imp fun _ q' hq' =>
    drawAndPresent_delivered h hp hq' decision

theorem exists_delivered (h : HonestFences β) (hp : Trailing n p) (hn : n + 1 < UInt64.size)
    (hsound : p.controller.Sound) {d : Duration} (hd : d.nanos ≠ 0)
    (hanswered : ∀ e ∈ (presentFrame d p).state.backend.history, ¬e.Refused) :
    ∃ report made, (presentFrame d p).outcome = .done report ∧
      Delivered p report.fence made (presentFrame d p).state := by
  obtain ⟨decision, hdecision⟩ := hsound.exists_decision hd
  obtain ⟨report, hreport⟩ := hp.toOneEach.exists_report hn hdecision hanswered
  obtain ⟨made, hmade⟩ :=
    (Action.ends_of_done hreport _ _).mp (presentFrame_delivered h hp hsound hd)
  exact ⟨report, made, hreport, hmade⟩

theorem Queued.follows (hq : Queued p fence made q) (hsmooth : Smooth q.backend.history)
    {last : Nat} {older : List Nat} (hlast : signals p.backend.history = last :: older) :
    fence = last + 1 := by
  have hchain := hsmooth.consecutive
  rw [hq.history_eq, signals_append, hq.signals_eq, hlast] at hchain
  exact (List.isChain_cons_cons.mp hchain).1

theorem Delivered.trailing (hp : Trailing n p) (hn : n + 1 < UInt64.size) {d : Duration}
    {report : FrameReport} (hreport : (presentFrame d p).outcome = .done report)
    (hq : Delivered p fence made (presentFrame d p).state)
    (hsmooth : Smooth (presentFrame d p).state.backend.history) :
    Trailing (n + 1) (presentFrame d p).state := by
  obtain ⟨decision, hdecision⟩ := exists_decision hreport
  have hreported := (Action.ends_of_done hreport _ _).mp (presentFrame_follows hdecision)
  refine ⟨⟨?_, hreported.settled, hp.toOneEach.counts hn d⟩, ?_, ?_⟩
  · -- The next buffer is the one of the frame before, whose value is one below this frame's.
    rw [hq.inFlight_eq, hq.backBuffer_eq, get_setIfInBounds, if_neg p.backBuffer.flip_ne.symm,
      hp.latest]
    refine Nat.le_trans ?_ hq.reached
    cases hlast : signals p.backend.history with
    | nil => exact Nat.zero_le _
    | cons last older => exact Nat.le_of_eq (congrArg (· - 1) (hq.follows hsmooth hlast)).symm
  · rw [hq.inFlight_eq, hq.backBuffer_eq, hq.history_eq, signals_append, hq.signals_eq,
      get_setIfInBounds, if_pos p.backBuffer.flip_flip.symm]
    rfl
  · rw [hq.framesPresented_eq, hp.framesPresented_eq]

theorem start_trailing {controller : Controller} {b : β}
    (hstart : (start controller ⟨b, []⟩).outcome = .done p) :
    Trailing 0 p ∧ signals p.backend.history = [] := by
  have hsignals : signals p.backend.history = [] := by rw [start_history hstart]; rfl
  obtain ⟨-, rfl⟩ := start_done_iff.mp hstart
  have hnone : (0 : UInt64).toNat ≤ 0 := Nat.le_refl _
  exact ⟨⟨⟨Nat.zero_le _, rfl, hnone, hnone, hnone, hnone⟩, by rw [hsignals]; rfl, rfl⟩, hsignals⟩

theorem after_trailing (h : HonestFences β) {controller : Controller} (hsound : controller.Sound)
    {b : β} (hstart : (start controller ⟨b, []⟩).outcome = .done p) {elapsed : List Duration}
    (hfew : elapsed.length < UInt64.size) (hlasting : ∀ d ∈ elapsed, d.nanos ≠ 0)
    (hsmooth : Smooth (p.after elapsed).backend.history) :
    Trailing elapsed.length (p.after elapsed) ∧
      (signals (p.after elapsed).backend.history).length = elapsed.length := by
  induction elapsed using List.reverseRecOn with
  | nil =>
    obtain ⟨htrailing, hnone⟩ := start_trailing hstart
    exact ⟨htrailing, congrArg List.length hnone⟩
  | append_singleton elapsed d ih =>
    rw [after_append] at hsmooth ⊢
    rw [List.length_append] at hfew
    change Smooth (presentFrame d (p.after elapsed)).state.backend.history at hsmooth
    obtain ⟨_, calls, hcalls, -⟩ := presentFrame_followed d (p.after elapsed)
    obtain ⟨htrailing, hlength⟩ := ih (Nat.lt_of_succ_lt hfew)
      (fun e he => hlasting e (List.mem_append_left _ he)) (hcalls.history_eq ▸ hsmooth).earlier
    obtain ⟨report, made, hreport, hmade⟩ := exists_delivered h htrailing hfew
      (after_sound hsound hstart elapsed) (hlasting d (by simp)) hsmooth.answered
    rw [List.length_append]
    refine ⟨hmade.trailing htrailing hfew hreport hsmooth, ?_⟩
    change (signals (presentFrame d (p.after elapsed)).state.backend.history).length = _
    rw [hmade.history_eq, signals_append, hmade.signals_eq, List.length_append, hlength, Nat.add_comm]
    rfl

/-- In a run in which nothing is refused and fence values count up by one, every frame is presented
with the frame before it done, and waits at most for that one, after its own submission. -/
theorem one_frame_queues (h : HonestFences β) {config : Config} {scale : Double} {c₀ : Controller}
    (hc : Controller.withScale config scale = .done c₀) (ops : List Operation) {b : β}
    (hstart : (start (c₀.after ops) ⟨b, []⟩).outcome = .done p) {elapsed : List Duration}
    (hfew : elapsed.length + 1 < UInt64.size) (hlasting : ∀ e ∈ elapsed, e.nanos ≠ 0)
    {d : Duration} (hd : d.nanos ≠ 0)
    (hsmooth : Smooth (presentFrame d (p.after elapsed)).state.backend.history) :
    ((start (c₀.after ops) b).outcome = .done p.erased ∧
        (p.after elapsed).erased = p.erased.after elapsed) ∧
      let q := p.after elapsed
      let q' := (presentFrame d q).state
      ∃ report made, (presentFrame d q).outcome = .done report ∧
        q'.backend.history = made ++ q.backend.history ∧ signals made = [report.fence] ∧
        report.fence - 1 ≤ Backend.completed q'.backend ∧
        (∀ e earlier, e :: earlier <:+ made → ∀ value, e.call = .wait value →
          (∃ frame : FrameContext, frame.DrawnIn earlier) ∧
            (elapsed ≠ [] → (signals q.backend.history).head? = some value)) ∧
        q'.stats.fenceWaits ≤ q'.stats.framesPresented := by
  refine ⟨⟨start_erased hstart, after_erased p elapsed⟩, ?_⟩
  intro q q'
  have hsound : (c₀.after ops).Sound := Controller.after_sound (Controller.withScale_sound hc) ops
  obtain ⟨_, calls, hcalls, -⟩ := presentFrame_followed d q
  obtain ⟨htrailing, hlength⟩ := after_trailing h hsound hstart (Nat.lt_of_succ_lt hfew) hlasting
    (hcalls.history_eq ▸ hsmooth).earlier
  obtain ⟨report, made, hreport, hmade⟩ := exists_delivered h htrailing hfew
    (after_sound hsound hstart elapsed) hd hsmooth.answered
  have hnext := hmade.trailing htrailing hfew hreport hsmooth
  refine ⟨report, made, hreport, hmade.history_eq, hmade.signals_eq, hmade.reached, ?_,
    UInt64.le_iff_toNat_le.mpr (hnext.framesPresented_eq ▸ hnext.counted.fenceWaits_le)⟩
  intro e earlier he value hvalue
  obtain ⟨hprevious, hdrawn⟩ := hmade.waits e earlier he value hvalue
  refine ⟨hdrawn, fun hfirst => ?_⟩
  obtain ⟨last, older, hlast⟩ : ∃ last older, signals q.backend.history = last :: older :=
    List.exists_cons_of_length_pos (hlength ▸ List.length_pos_of_ne_nil hfirst)
  rw [hlast, hprevious, hmade.follows hsmooth hlast]
  rfl

end

def lagging : Scripted where
  output := ⟨1000, 500⟩
  fence := 7
  completed := 3

theorem one_frame_queues_lagging :
    HonestFences Scripted ∧ Controller.withScale paired (.ofNat 1) = .done pairedController ∧
      ∃ p : Presenter (Recorded Scripted),
        (start pairedController ⟨lagging, []⟩).outcome = .done p ∧
          let q := p.after [.ofNanos 20000, .ofNanos 20000]
          let q' := (presentFrame (.ofNanos 20000) q).state
          Smooth q'.backend.history ∧ signals q'.backend.history = [10, 9, 8] ∧
            q'.backend.history.filterMap Event.waited = [9, 8, 7] ∧
            ∃ report, (presentFrame (.ofNanos 20000) q).outcome = .done report ∧
              report.fence - 1 ≤ Backend.completed q'.backend ∧
              q'.stats.fenceWaits ≤ q'.stats.framesPresented := by
  have honest : HonestFences Scripted := ⟨Scripted.completed_mono, Scripted.wait_reaches⟩
  have hstart : (start pairedController (⟨lagging, []⟩ : Recorded Scripted)).outcome = .done _ :=
    rfl
  have hd : (Duration.ofNanos 20000).nanos ≠ 0 := by decide
  have hlasting : ∀ e ∈ [Duration.ofNanos 20000, .ofNanos 20000], e.nanos ≠ 0 :=
    List.forall_mem_cons.mpr ⟨hd, List.forall_mem_singleton.mpr hd⟩
  have hframe := one_frame_queues honest paired_withScale [] hstart (by decide) hlasting hd
  obtain ⟨-, report, made, hreport, -, -, hreached, -, hwaits⟩ := hframe (by decide +kernel)
  exact ⟨honest, paired_withScale, _, hstart, by decide +kernel, by decide +kernel,
    by decide +kernel, report, hreport, hreached, hwaits⟩

end Presenter

end AdaptiveResolution.Presentation
