import AdaptiveResolution.Proofs.Pacing.Skipping
import AdaptiveResolution.Proofs.Presentation.FrameCalls
import AdaptiveResolution.Proofs.Presentation.FrameScript
import AdaptiveResolution.Proofs.Presentation.Steering

/-!
The course of a frame. Its calls are those of its script up to the first that fails, and the call
at which it stops tells what it leaves behind.
-/

namespace AdaptiveResolution.Presentation

open Pacing (Config Controller Decision Operation)

namespace Call

def haltsIn (made : List Call) (before : FrameState) : Call → FrameState
  | resize _ => if made = [] then before else .presented
  | wait _ => if .submit ∈ made then .submitted else before
  | render _ | copy _ | submit => .rendering
  | present _ => .submitted

def leavesPending (decided : Option Extent) : Call → Option Extent
  | resize size => some size
  | render _ | copy _ | submit | wait _ | present _ => decided

end Call

variable {β ε α γ : Type}

namespace Presenter

variable [Backend β ε]

def Apt (p : Presenter (Recorded β)) (decision : Decision) (earlier : List Event) : Call → Prop
  | .resize size => earlier = [] ∧ p.pendingResize = some size ∨ p.decidedSize decision = some size
  | .render frame => frame.time = p.time ∧
      frame.renderSize = (earlier.filterMap Event.resized).head?.getD p.renderSize
  | .copy _ | .submit | .wait _ | .present _ => True

structure Accounted (p : Presenter (Recorded β)) (decision : Decision) (made : List Event)
    (q : Presenter (Recorded β)) : Prop where
  history_eq : q.backend.history = made ++ p.backend.history
  apt : ∀ e earlier, e :: earlier <:+ made → Apt p decision earlier e.call
  controller_eq : q.controller = p.controller
  time_eq : q.time = p.time
  lastFrame_eq : q.lastFrame = p.lastFrame

structure Answered (p : Presenter (Recorded β)) (decision : Decision) (made : List Event)
    (q : Presenter (Recorded β)) : Prop extends Accounted p decision made q where
  answered : ∀ e ∈ made, ¬e.Refused
  ledger_eq : q.ledger = made.foldr Event.post p.ledger

structure Drawing (p : Presenter (Recorded β)) (decision : Decision) (pending : Option Extent)
    (made : List Event) (q : Presenter (Recorded β)) : Prop
    extends Answered p decision made q where
  resized_eq : made.filterMap Event.resized = p.pendingResize.toList
  backBuffer_eq : q.backBuffer = p.backBuffer
  frameIndex_eq : q.frameIndex = p.frameIndex
  renderSize_eq : q.renderSize = p.wantedSize
  pending_eq : q.pendingResize = pending

structure Completed (p : Presenter (Recorded β)) (decision : Decision) (made : List Event)
    (q : Presenter (Recorded β)) : Prop extends Answered p decision made q where
  state_eq : q.state = .idle
  pending_eq : q.pendingResize = none

structure Halted (p : Presenter (Recorded β)) (decision : Decision) (made : List Event) (e : Event)
    (q : Presenter (Recorded β)) : Prop extends Accounted p decision (e :: made) q where
  refused : e.Refused
  answered : ∀ m ∈ made, ¬m.Refused
  ledger_eq : q.ledger = made.foldr Event.post p.ledger
  state_eq : q.state = e.call.haltsIn (made.map Event.call) p.state
  pending_eq : q.pendingResize = e.call.leavesPending (p.decidedSize decision)

structure Overran (p : Presenter (Recorded β)) (decision : Decision) (made : List Event) (e : Event)
    (q : Presenter (Recorded β)) : Prop extends Accounted p decision (e :: made) q where
  answered : ∀ m ∈ e :: made, ¬m.Refused
  fits : (made.foldr Event.post p.ledger).Fits
  overrun : ¬(e.post (made.foldr Event.post p.ledger)).Fits
  renderSize_eq : q.renderSize = (e.post (made.foldr Event.post p.ledger)).renderSize
  pending_eq : q.pendingResize = none ∨ q.pendingResize = p.decidedSize decision

def Stopped (p : Presenter (Recorded β)) (decision : Decision) (made : List Event) (e : Event)
    (q : Presenter (Recorded β)) : Prop :=
  Halted p decision made e q ∨ Overran p decision made e q

def Halts (p : Presenter (Recorded β)) (decision : Decision) (q : Presenter (Recorded β)) : Prop :=
  ∃ made e, Stopped p decision made e q

def Ended (p : Presenter (Recorded β)) (decision : Decision) (made : List Event)
    (q : Presenter (Recorded β)) : Prop :=
  Completed p decision made q ∨ ∃ e earlier, made = e :: earlier ∧ Stopped p decision earlier e q

section

variable {p q q' : Presenter (Recorded β)} {decision : Decision} {pending : Option Extent}
  {made : List Event} {e : Event} {call : Call} {answer : α → Answer} {x : Action β ε α}
  {Q : α → Recorded β → Prop}

theorem Ended.accounted (h : Ended p decision made q) : Accounted p decision made q := by
  rcases h with h | ⟨e, earlier, rfl, h | h⟩
  · exact h.toAccounted
  · exact h.toAccounted
  · exact h.toAccounted

theorem Ended.renderSize_eq (h : Ended p decision made q) :
    q.renderSize = (made.foldr Event.post p.ledger).renderSize := by
  rcases h with h | ⟨e, earlier, rfl, h | h⟩
  · exact congrArg Ledger.renderSize h.ledger_eq
  · rw [List.foldr_cons, h.refused.post_eq]
    exact congrArg Ledger.renderSize h.ledger_eq
  · exact h.renderSize_eq

theorem Accounted.apt_of_mem (h : Accounted p decision made q) {e : Event} (he : e ∈ made) :
    ∃ earlier, Apt p decision earlier e.call := by
  obtain ⟨later, earlier, rfl⟩ := List.append_of_mem he
  exact ⟨earlier, h.apt e earlier (List.suffix_append _ _)⟩

theorem Accounted.cons (h : Accounted p decision made q)
    (he : Apt p decision made e.call) (b : β) :
    Accounted p decision (e :: made) { q with backend := ⟨b, e :: q.backend.history⟩ } where
  history_eq := congrArg (e :: ·) h.history_eq
  apt := forall_suffix_cons_iff.mpr ⟨he, h.apt⟩
  controller_eq := h.controller_eq
  time_eq := h.time_eq
  lastFrame_eq := h.lastFrame_eq

theorem Answered.cons (h : Answered p decision made q) (hnext : Accounted p decision (e :: made) q')
    (he : ¬e.Refused) (hledger : q'.ledger = e.post q.ledger) :
    Answered p decision (e :: made) q' where
  toAccounted := hnext
  answered := List.forall_mem_cons.mpr ⟨he, h.answered⟩
  ledger_eq := by rw [hledger, h.ledger_eq, List.foldr_cons]

theorem Answered.overrun (h : Answered p decision made q)
    (hnext : Accounted p decision (e :: made) q') (he : ¬e.Refused)
    (hoverrun : ¬(e.post q.ledger).Fits) (hsize : q'.renderSize = (e.post q.ledger).renderSize)
    (hpending : q'.pendingResize = none ∨ q'.pendingResize = p.decidedSize decision) :
    Halts p decision q' :=
  ⟨made, e, .inr {
    toAccounted := hnext
    answered := List.forall_mem_cons.mpr ⟨he, h.answered⟩
    fits := h.ledger_eq ▸ q.ledger_fits
    overrun := h.ledger_eq ▸ hoverrun
    renderSize_eq := h.ledger_eq ▸ hsize
    pending_eq := hpending }⟩

theorem Answered.ends_call (h : Answered p decision made q) (hapt : Apt p decision made call)
    (hstate : q.state = call.haltsIn (made.map Event.call) p.state)
    (hpending : q.pendingResize = call.leavesPending (p.decidedSize decision))
    (hQ : ∀ a b, let e : Event := ⟨call, Backend.completed q.backend.backend, answer a⟩
      Accounted p decision (e :: made) { q with backend := ⟨b, e :: q.backend.history⟩ } →
        Q a ⟨b, e :: q.backend.history⟩) :
    (Recorded.perform call answer x).Ends q.backend Q
      fun r => Halts p decision { q with backend := r } := by
  refine Recorded.ends_perform (fun a b => hQ a b (h.toAccounted.cons hapt b)) fun e b he hr => ?_
  subst he
  exact ⟨made, e, .inl ⟨h.toAccounted.cons hapt b, hr, h.answered, h.ledger_eq, hstate, hpending⟩⟩

theorem Drawing.cons (h : Drawing p decision pending made q)
    (hnext : Accounted p decision (e :: made) q') (he : ¬e.Refused)
    (hledger : q'.ledger = e.post q.ledger) (hpresented : e.presented = none)
    (hresized : e.resized = none) (hpending : q'.pendingResize = q.pendingResize) :
    Drawing p decision pending (e :: made) q' := by
  obtain ⟨hindex, hbuffer, hsize⟩ := unmoved_of_ledger hledger hpresented hresized
  exact {
    toAnswered := h.toAnswered.cons hnext he hledger
    resized_eq := by rw [List.filterMap_cons, hresized, h.resized_eq]
    backBuffer_eq := hbuffer.trans h.backBuffer_eq
    frameIndex_eq := hindex.trans h.frameIndex_eq
    renderSize_eq := hsize.trans h.renderSize_eq
    pending_eq := hpending.trans h.pending_eq }

end

structure Conducts (x : Action (Presenter β) (PresentError ε) α) (p : Presenter β)
    (calls : List Call) (Q : α → Presenter β → Prop) (E : Presenter β → Prop) : Prop where
  makes : Makes x p calls
  ends : x.Ends p Q E

theorem Conducts.bind {p : Presenter β} {calls more : List Call} {Q : α → Presenter β → Prop}
    {R : γ → Presenter β → Prop} {E : Presenter β → Prop}
    {x : Action (Presenter β) (PresentError ε) α} {f : α → Action (Presenter β) (PresentError ε) γ}
    (hx : Conducts x p calls Q E)
    (hf : ∀ a q, (x p).outcome = .done a → q.backend = (Call.performAll calls p.backend).state →
      Q a q → Conducts (f a) q more R E) :
    Conducts (x >>= f) p (calls ++ more) R E := by
  have hrest (a : α) (ha : (x p).outcome = .done a) : Conducts (f a) (x p).state more R E :=
    hf a _ ha (hx.makes.done ha).2 ((Action.ends_of_done ha _ _).mp hx.ends)
  refine ⟨hx.makes.bind fun a ha => (hrest a ha).makes, ?_⟩
  rw [Action.ends_bind]
  refine Action.ends_of_outcome (fun a ha => (hrest a ha).ends) fun hnone => ?_
  exact (Action.ends_of_not_done hnone _ _).mp hx.ends

theorem submit_outcome {p : Presenter β} {fence : Nat} (h : (submit p).outcome = .done fence) :
    (Backend.submit p.backend).outcome = .done fence := by
  have hends : submit.Ends p
      (fun fence _ => (Backend.submit p.backend).outcome = .done fence) fun _ => True := by
    rw [ends_submit]
    exact Action.ends_of_outcome (fun _ hdone => hdone) fun _ => trivial
  exact (Action.ends_of_done h _ _).mp hends

theorem performAll_submit_state (b : β) :
    (Call.performAll [.submit] b).state = (Backend.submit b).state := by
  rw [Call.performAll_singleton, Call.perform, Action.bind_apply]
  rcases Backend.submit b with ⟨_ | _ | _, b', journal⟩ <;> rfl

theorem Conducts.state_bind {p : Presenter β} {calls : List Call} {Q : α → Presenter β → Prop}
    {E : Presenter β → Prop} {f : Presenter β → Action (Presenter β) (PresentError ε) α}
    (hf : Conducts (f p) p calls Q E) : Conducts (Action.state >>= f) p calls Q E := by
  refine ⟨.silent_bind (.state p) ?_, (Action.ends_bind _ _ _ _ _).mpr hf.ends⟩
  rintro _ ⟨⟩
  exact hf.makes

section

variable {p q : Presenter (Recorded β)} {decision : Decision} {made : List Event}

theorem begin_conducts (p : Presenter (Recorded β)) (decision : Decision) :
    Conducts applyPendingResize p (resizeCalls p.pendingResize)
      (fun _ q => ∃ made, Drawing p decision none made q ∧ q.state = p.state ∧
        q.inFlight = p.inFlight ∧ .submit ∉ made.map Event.call)
      (Halts p decision) := by
  refine ⟨applyPendingResize_makes p, ?_⟩
  have hbegun : Answered p decision [] p :=
    ⟨⟨rfl, fun e earlier he => by simp at he, rfl, rfl, rfl⟩, by simp, rfl⟩
  cases hpending : p.pendingResize with
  | none =>
    have hwanted : p.renderSize = p.wantedSize := by rw [wantedSize, hpending]; rfl
    apply (ends_applyPendingResize_none hpending _ _).mpr
    exact ⟨[], ⟨hbegun, by rw [hpending]; rfl, rfl, rfl, hwanted, hpending⟩, rfl, rfl, by simp⟩
  | some size =>
    have hwanted : size = p.wantedSize := by rw [wantedSize, hpending]; rfl
    apply (ends_applyPendingResize_some hpending _ _).mpr
    refine hbegun.ends_call (.inl ⟨rfl, hpending⟩) rfl hpending fun _ b hnext => ?_
    let event : Event := ⟨.resize size, Backend.completed p.backend.backend, .done⟩
    have he : ¬event.Refused := by simp [Event.Refused, event]
    refine ⟨fun hroom => ⟨[event], ?_, rfl, rfl, by simp [event]⟩, fun hfull => ?_⟩
    · have hledger := ledger_resized (⟨b, event :: p.backend.history⟩ : Recorded β)
        event.completed size hroom
      exact ⟨hbegun.cons { hnext with } he hledger, by rw [hpending]; rfl, rfl, rfl, hwanted, rfl⟩
    · exact hbegun.overrun { hnext with } he (overrun_resized _ size hfull) rfl (.inl rfl)

theorem schedule_conducts (h : Drawing p decision none made q) (hb : q.backend = p.applied) :
    Conducts (scheduleResize decision) q []
      (fun _ q' => Drawing p decision (p.decidedSize decision) made q' ∧ q'.state = q.state ∧
        q'.inFlight = q.inFlight)
      (Halts p decision) := by
  refine ⟨scheduleResize_makes decision q, ?_⟩
  rw [ends_scheduleResize]
  unfold decidedSize
  rw [← hb]
  split
  · exact ⟨{ h with pending_eq := rfl }, rfl, rfl⟩
  · exact ⟨h, rfl, rfl⟩

theorem await_conducts (h : Drawing p decision (p.decidedSize decision) made q) {fence : Nat}
    (hstate : q.state = (Call.wait fence).haltsIn (made.map Event.call) p.state)
    (reason : String) :
    Conducts (await fence reason) q (waitCalls fence q.backend)
      (fun _ q' => ∃ made', Drawing p decision (p.decidedSize decision) made' q' ∧
        q'.state = q.state ∧ q'.inFlight = q.inFlight)
      (Halts p decision) := by
  refine ⟨await_makes fence reason q, ?_⟩
  refine (ends_await _ _ _ _ _).mpr ⟨fun _ => ?_, fun _ => ⟨made, h, rfl, rfl⟩⟩
  refine h.ends_call trivial hstate h.pending_eq fun _ b hnext => ?_
  let event : Event := ⟨.wait fence, Backend.completed q.backend.backend, .done⟩
  have he : ¬event.Refused := by simp [Event.Refused, event]
  refine ⟨fun hroom => ⟨event :: made, ?_, rfl, rfl⟩, fun hfull => ?_⟩
  · have hledger := ledger_waited (⟨b, event :: q.backend.history⟩ : Recorded β)
      event.completed fence hroom
    exact h.cons { hnext with } he hledger rfl rfl rfl
  · exact h.toAnswered.overrun { hnext with } he (overrun_waited _ fence hfull) rfl
      (.inr h.pending_eq)

theorem Drawing.context_eq {pending : Option Extent} (h : Drawing p decision pending made q) :
    q.context = context { p with backend := q.backend, renderSize := p.wantedSize } := by
  unfold context scaleInUse
  rw [h.frameIndex_eq, h.time_eq, h.controller_eq, h.renderSize_eq, h.backBuffer_eq]

theorem Drawing.renderSize_eq_latest {pending : Option Extent}
    (h : Drawing p decision pending made q) :
    q.renderSize = (made.filterMap Event.resized).head?.getD p.renderSize := by
  rw [h.renderSize_eq, h.resized_eq, wantedSize]
  cases p.pendingResize <;> rfl

theorem draw_conducts (h : Drawing p decision (p.decidedSize decision) made q) :
    Conducts draw q [.render q.context, .copy q.backBuffer]
      (fun frame q' => frame = q.context ∧
        ∃ made', Drawing p decision (p.decidedSize decision) made' q' ∧ q'.state = .rendering)
      (Halts p decision) := by
  refine ⟨draw_makes q, (ends_draw _ _ _).mpr ?_⟩
  have hrendering : Drawing p decision (p.decidedSize decision) made
      { q with state := .rendering } := { h with }
  have hrender : Apt p decision made (.render q.context) := ⟨h.time_eq, h.renderSize_eq_latest⟩
  refine hrendering.ends_call hrender rfl h.pending_eq fun _ b hnext => ?_
  have hrendered := hrendering.cons hnext (by simp [Event.Refused]) rfl rfl rfl rfl
  refine hrendered.ends_call trivial rfl h.pending_eq fun _ b' hnext' => ?_
  exact ⟨rfl, _, hrendered.cons hnext' (by simp [Event.Refused]) rfl rfl rfl rfl, rfl⟩

theorem submit_conducts (h : Drawing p decision (p.decidedSize decision) made q)
    (hstate : q.state = .rendering) :
    Conducts submit q [.submit]
      (fun _ q' => ∃ made', Drawing p decision (p.decidedSize decision) made' q' ∧
        q'.state = .submitted ∧ .submit ∈ made'.map Event.call)
      (Halts p decision) := by
  refine ⟨submit_makes q, (ends_submit _ _ _).mpr ?_⟩
  refine h.ends_call trivial hstate h.pending_eq fun fence b hnext => ?_
  exact ⟨_, h.cons { hnext with } (by simp [Event.Refused]) rfl rfl rfl rfl, rfl, by simp⟩

theorem present_conducts (h : Drawing p decision (p.decidedSize decision) made q)
    (hstate : q.state = .submitted) (index : BackBuffer) :
    Conducts (presentBuffer index) q [.present index]
      (fun _ q' => ∃ e, Answered p decision (e :: made) q' ∧ q'.state = .presented ∧
        q'.pendingResize = p.decidedSize decision)
      (Halts p decision) := by
  refine ⟨presentBuffer_makes index q, (ends_presentBuffer _ _ _ _).mpr ?_⟩
  refine h.ends_call trivial hstate h.pending_eq fun _ b hnext => ?_
  let event : Event := ⟨.present index, Backend.completed q.backend.backend, .done⟩
  have he : ¬event.Refused := by simp [Event.Refused, event]
  refine ⟨fun hindexed => ⟨fun hpresented => ?_, fun hfull => ?_⟩, fun hfull => ?_⟩
  · have hledger := ledger_presented (⟨b, event :: q.backend.history⟩ : Recorded β)
      event.completed index hindexed hpresented
    exact ⟨event, h.toAnswered.cons { hnext with } he hledger, rfl, h.pending_eq⟩
  · exact h.toAnswered.overrun { hnext with } he (overrun_presented _ index (.inr hfull)) rfl
      (.inr h.pending_eq)
  · exact h.toAnswered.overrun { hnext with } he (overrun_presented _ index (.inl hfull)) rfl
      (.inr h.pending_eq)

theorem finish_conducts (h : Answered p decision made q) (hcalls : made ≠ []) (hstate : q.state = .presented)
    (hpending : q.pendingResize = p.decidedSize decision) (report : Bool → FrameReport) :
    Conducts (do
      let resized ← applyPendingResize
      Action.update fun p => { p with state := .idle }
      return report resized) q (resizeCalls (p.decidedSize decision))
      (fun _ q' => ∃ made', Completed p decision made' q') (Halts p decision) := by
  constructor
  · rw [← hpending]
    refine (applyPendingResize_makes q).bind_silent fun _ => ?_
    exact .silent_bind (.update rfl) fun _ _ => .pure _ _
  · rw [Action.ends_bind]
    cases hsize : q.pendingResize with
    | none =>
      apply (ends_applyPendingResize_none hsize _ _).mpr
      exact ⟨made, { h with }, rfl, hsize⟩
    | some size =>
      apply (ends_applyPendingResize_some hsize _ _).mpr
      have hhalts : q.state = (Call.resize size).haltsIn (made.map Event.call) p.state := by
        simpa [Call.haltsIn, hcalls] using hstate
      refine h.ends_call (.inr (hpending.symm.trans hsize)) hhalts hsize fun _ b hnext => ?_
      let event : Event := ⟨.resize size, Backend.completed q.backend.backend, .done⟩
      have he : ¬event.Refused := by simp [Event.Refused, event]
      refine ⟨fun hroom => ?_, fun hfull => ?_⟩
      · have hledger := ledger_resized (⟨b, event :: q.backend.history⟩ : Recorded β)
          event.completed size hroom
        exact ⟨event :: made, h.cons { hnext with } he hledger, rfl, rfl⟩
      · exact h.overrun { hnext with } he (overrun_resized _ size hfull) rfl (.inl rfl)

theorem drawAndPresent_conducts (h : Drawing p decision (p.decidedSize decision) made q)
    (hb : q.backend = p.applied) (hstate : q.state = p.state) (hinFlight : q.inFlight = p.inFlight)
    (hsubmit : .submit ∉ made.map Event.call) :
    Conducts (drawAndPresent decision) q (p.drawingCalls decision)
      (fun _ q' => ∃ made', Completed p decision made' q') (Halts p decision) := by
  apply Conducts.state_bind
  have hbusy : q.inFlight.get q.backBuffer = p.inFlight.get p.backBuffer := by
    rw [hinFlight, h.backBuffer_eq]
  have hwait : q.state = (Call.wait (p.inFlight.get p.backBuffer)).haltsIn
      (made.map Event.call) p.state := by
    rw [hstate, Call.haltsIn, if_neg hsubmit]
  unfold drawingCalls
  dsimp only
  rw [hbusy, ← hb]
  refine (await_conducts h hwait _).bind ?_
  rintro _ q₁ - hfree ⟨made₁, h₁, -⟩
  -- The script is told on the backends that its calls leave, and these are the presenter's.
  rw [← hfree, ← h₁.context_eq, ← h₁.backBuffer_eq]
  refine (draw_conducts h₁).bind ?_
  rintro frame q₂ - hdrawn ⟨rfl, made₂, h₂, hrendering⟩
  rw [← hdrawn]
  refine (submit_conducts h₂ hrendering).bind ?_
  rintro fence q₃ hfence hsubmitted ⟨made₃, h₃, hstate₃, hmade₃⟩
  rw [submit_outcome hfence, ← performAll_submit_state, ← hsubmitted]
  refine (await_conducts h₃ ?_ _).bind ?_
  · rw [hstate₃, Call.haltsIn, if_pos hmade₃]
  rintro _ q₄ - - ⟨made₄, h₄, hstate₄, -⟩
  rw [← h₁.backBuffer_eq]
  refine (present_conducts h₄ (hstate₄.trans hstate₃) _).bind ?_
  rintro _ q₅ - - ⟨e, h₅, hpresented, hpending⟩
  exact finish_conducts h₅ (List.cons_ne_nil _ _) hpresented hpending _

theorem pace_conducts {d : Duration} {p : Presenter (Recorded β)}
    (hdecision : (Controller.advanceDuration d p.controller).outcome = .done decision) :
    Conducts (pace d : Action _ (PresentError ε) Decision) p []
      (fun a q => a = decision ∧ q = p.paced d) (Halts (p.paced d) decision) := by
  have hpaced : (pace d p : Reply _ (PresentError ε) Decision).outcome = .done decision ∧
      (pace d p : Reply _ (PresentError ε) Decision).state = p.paced d := by
    unfold paced
    simp only [pace, onController, Action.within, Action.bind_apply]
    rcases hadvance : Controller.advanceDuration d p.controller with ⟨_ | _ | _, c, journal⟩ <;>
      rw [hadvance] at hdecision <;> cases hdecision
    exact ⟨rfl, rfl⟩
  constructor
  · exact .through (by rw [hpaced.1]; rfl) (by rw [hpaced.2]; rfl)
  · exact (Action.ends_of_done hpaced.1 _ _).mpr ⟨rfl, hpaced.2⟩

theorem presentFrame_conducts {d : Duration} {p : Presenter (Recorded β)}
    (hdecision : (Controller.advanceDuration d p.controller).outcome = .done decision) :
    Conducts (presentFrame d) p ((p.paced d).script decision)
      (fun _ q => ∃ made, Completed (p.paced d) decision made q)
      (Halts (p.paced d) decision) := by
  rw [presentFrame_eq]
  refine (pace_conducts hdecision).bind ?_
  rintro _ _ - - ⟨rfl, rfl⟩
  refine (begin_conducts (p.paced d) _).bind ?_
  rintro resized q - happlied ⟨made, h, hstate, hinFlight, hsubmit⟩
  refine (schedule_conducts h happlied).bind ?_
  rintro _ q' - hscheduled ⟨h', hstate', hinFlight'⟩
  exact drawAndPresent_conducts h' (hscheduled.trans happlied) (hstate'.trans hstate)
    (hinFlight'.trans hinFlight) hsubmit

theorem presentFrame_ended {d : Duration} {p : Presenter (Recorded β)}
    (hdecision : (Controller.advanceDuration d p.controller).outcome = .done decision) :
    ∃ made, Ended (p.paced d) decision made (presentFrame d p).state := by
  apply Action.Ends.state (E := fun q => ∃ made, Ended (p.paced d) decision made q)
  refine (presentFrame_conducts hdecision).ends.mono ?_ ?_
  · rintro report q ⟨made, hq⟩
    exact ⟨made, .inl hq⟩
  · rintro q ⟨earlier, e, hq⟩
    exact ⟨e :: earlier, .inr ⟨e, earlier, rfl, hq⟩⟩

theorem presentFrame_course (d : Duration) (p : Presenter (Recorded β)) :
    (∃ decision made, (Controller.advanceDuration d p.controller).outcome = .done decision ∧
        Ended (p.paced d) decision made (presentFrame d p).state) ∨
      (presentFrame d p).state =
        { p with controller := (Controller.advanceDuration d p.controller).state } := by
  by_cases hdone : ∃ decision, (Controller.advanceDuration d p.controller).outcome = .done decision
  · obtain ⟨decision, hdecision⟩ := hdone
    obtain ⟨made, hended⟩ := presentFrame_ended hdecision
    exact .inl ⟨decision, made, hdecision, hended⟩
  · exact .inr (presentFrame_undecided fun decision hdecision => hdone ⟨decision, hdecision⟩)

theorem presentFrame_zero {d : Duration} (hd : d.nanos = 0) (p : Presenter (Recorded β)) :
    presentFrame d p = ⟨.failed (.pacing .zeroFrameTime), p, []⟩ := by
  have hadvance : Controller.advanceDuration d p.controller =
      ⟨.failed .zeroFrameTime, p.controller, []⟩ := by
    rw [Controller.advanceDuration, if_pos hd]
    rfl
  rw [presentFrame_eq]
  simp only [pace, onController, Action.within, Action.bind_apply, hadvance]
  rfl

end

end Presenter

end AdaptiveResolution.Presentation
