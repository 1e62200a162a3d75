import AdaptiveResolution.Proofs.Presentation.Ledger
import AdaptiveResolution.Proofs.Presentation.RenderTarget

namespace AdaptiveResolution.Presentation

open Pacing (Controller Decision)

def FrameContext.DrawnIn (frame : FrameContext) (calls : List Event) : Prop :=
  ∃ rendered copied submitted fence,
    [⟨.submit, submitted, .signals fence⟩, ⟨.copy frame.backBuffer, copied, .done⟩,
      ⟨.render frame, rendered, .done⟩] <:+: calls

theorem FrameContext.DrawnIn.mono {frame : FrameContext} {calls calls' : List Event}
    (h : frame.DrawnIn calls) (hcalls : calls <:+ calls') : frame.DrawnIn calls' := by
  obtain ⟨rendered, copied, submitted, fence, h⟩ := h
  exact ⟨rendered, copied, submitted, fence, h.trans hcalls.isInfix⟩

variable {β ε : Type}

def Event.Due (p : Presenter (Recorded β)) (decision : Decision) (earlier : List Event)
    (e : Event) : Prop :=
  let now := earlier.foldr Event.post p.ledger
  match e.call with
  | .resize size => earlier = [] ∧ p.pendingResize = some size ∨ decision.resizeNeeded = true
  | .render frame => frame.frameIndex = p.frameIndex ∧ frame.backBuffer = p.backBuffer ∧
      frame.renderSize = p.wantedSize
  | .copy index => index = now.backBuffer
  | .present index => index = now.backBuffer ∧ now.frameIndex = p.frameIndex.toNat ∧
      ∃ frame : FrameContext, frame.DrawnIn earlier ∧ frame.frameIndex = p.frameIndex ∧
        frame.backBuffer = index
  | .submit | .wait _ => True

namespace Event.Due

variable {p : Presenter (Recorded β)} {decision : Decision} {earlier : List Event} {e : Event}

theorem of_resized (h : e.Due p decision earlier) {size : Extent} (he : e.resized = some size) :
    earlier = [] ∧ p.pendingResize = some size ∨ decision.resizeNeeded = true := by
  rw [Event.Due, call_of_resized he] at h
  exact h

theorem of_render (h : e.Due p decision earlier) {frame : FrameContext}
    (he : e.call = .render frame) : frame.renderSize = p.wantedSize := by
  rw [Event.Due, he] at h
  exact h.2.2

theorem of_copy (h : e.Due p decision earlier) {index : BackBuffer} (he : e.call = .copy index) :
    index = (earlier.foldr Event.post p.ledger).backBuffer := by
  rw [Event.Due, he] at h
  exact h

theorem of_presented (h : e.Due p decision earlier) {index : BackBuffer}
    (he : e.presented = some index) :
    let now := earlier.foldr Event.post p.ledger
    index = now.backBuffer ∧ now.frameIndex = p.frameIndex.toNat ∧
      ∃ frame : FrameContext, frame.DrawnIn earlier ∧ frame.frameIndex = p.frameIndex ∧
        frame.backBuffer = index := by
  rw [Event.Due, call_of_presented he] at h
  exact h

end Event.Due

structure Traced (p : Presenter (Recorded β)) (decision : Decision) (calls : List Event)
    (q : Presenter (Recorded β)) : Prop where
  history_eq : q.backend.history = calls ++ p.backend.history
  due : ∀ e earlier, e :: earlier <:+ calls → e.Due p decision earlier

structure Follows (p : Presenter (Recorded β)) (decision : Decision) (calls : List Event)
    (q : Presenter (Recorded β)) : Prop extends Traced p decision calls q where
  ledger_eq : q.ledger = calls.foldr Event.post p.ledger

structure Underway (p : Presenter (Recorded β)) (decision : Decision) (calls : List Event)
    (q : Presenter (Recorded β)) : Prop extends Follows p decision calls q where
  frameIndex_eq : q.frameIndex = p.frameIndex
  backBuffer_eq : q.backBuffer = p.backBuffer
  renderSize_eq : q.renderSize = p.wantedSize
  pending_eq : q.pendingResize.isSome = decision.resizeNeeded

def Followed (p : Presenter (Recorded β)) (decision : Decision)
    (q : Presenter (Recorded β)) : Prop :=
  ∃ calls, Traced p decision calls q ∧
    ((calls.foldr Event.post p.ledger).Fits → q.ledger = calls.foldr Event.post p.ledger)

section

variable {p q q' : Presenter (Recorded β)} {decision : Decision} {calls : List Event} {e : Event}

theorem Follows.followed (h : Follows p decision calls q) : Followed p decision q :=
  ⟨calls, h.toTraced, fun _ => h.ledger_eq⟩

theorem Follows.congr (h : Follows p decision calls q)
    (hhistory : q'.backend.history = q.backend.history) (hledger : q'.ledger = q.ledger) :
    Follows p decision calls q' where
  history_eq := hhistory.trans h.history_eq
  ledger_eq := hledger.trans h.ledger_eq
  due := h.due

theorem Traced.cons (h : Traced p decision calls q)
    (hhistory : q'.backend.history = e :: q.backend.history) (he : e.Due p decision calls) :
    Traced p decision (e :: calls) q' where
  history_eq := by rw [hhistory, h.history_eq, List.cons_append]
  due := forall_suffix_cons_iff.mpr ⟨he, h.due⟩

theorem Follows.cons (h : Follows p decision calls q)
    (hhistory : q'.backend.history = e :: q.backend.history)
    (hledger : q'.ledger = e.post q.ledger) (he : e.Due p decision calls) :
    Follows p decision (e :: calls) q' where
  toTraced := h.toTraced.cons hhistory he
  ledger_eq := by rw [hledger, h.ledger_eq, List.foldr_cons]

theorem Follows.refused (h : Follows p decision calls q) (hrefused : e.Refused)
    (hhistory : q'.backend.history = e :: q.backend.history) (hledger : q'.ledger = q.ledger)
    (he : e.Due p decision calls) : Followed p decision q' :=
  (h.cons hhistory (hledger.trans (hrefused.post_eq _).symm) he).followed

theorem Follows.overrun (h : Follows p decision calls q)
    (hhistory : q'.backend.history = e :: q.backend.history)
    (hoverrun : ¬(e.post q.ledger).Fits) (he : e.Due p decision calls) : Followed p decision q' :=
  ⟨e :: calls, h.toTraced.cons hhistory he, fun hfits => absurd (h.ledger_eq ▸ hfits) hoverrun⟩

theorem Underway.cons (h : Underway p decision calls q)
    (hhistory : q'.backend.history = e :: q.backend.history) (hledger : q'.ledger = e.post q.ledger)
    (he : e.Due p decision calls) (hpresented : e.presented = none) (hresized : e.resized = none)
    (hpending : q'.pendingResize = q.pendingResize) : Underway p decision (e :: calls) q' := by
  obtain ⟨hindex, hbuffer, hsize⟩ := Presenter.unmoved_of_ledger hledger hpresented hresized
  exact {
    toFollows := h.toFollows.cons hhistory hledger he
    frameIndex_eq := hindex.trans h.frameIndex_eq
    backBuffer_eq := hbuffer.trans h.backBuffer_eq
    renderSize_eq := hsize.trans h.renderSize_eq
    pending_eq := hpending ▸ h.pending_eq }

end

namespace Presenter

variable [Backend β ε] {p q : Presenter (Recorded β)} {decision : Decision} {calls : List Event}

theorem await_underway (h : Underway p decision calls q) (fence : Nat) (reason : String) :
    (await fence reason).Ends q
      (fun _ q' => ∃ calls', calls <:+ calls' ∧ Underway p decision calls' q')
      (Followed p decision) := by
  refine (ends_await _ _ _ _ _).mpr ⟨fun _ => ?_, fun _ => ?_⟩
  · refine Recorded.ends_perform (fun _ b => ?_) fun e b he hrefused => ?_
    · constructor
      · intro hroom
        exact ⟨_, List.suffix_cons _ _,
          h.cons rfl (ledger_waited _ _ fence hroom) trivial rfl rfl rfl⟩
      · exact fun hfull => h.overrun rfl (overrun_waited _ fence hfull) trivial
    · exact h.refused hrefused rfl rfl (by rw [Event.Due, he]; trivial)
  · exact ⟨calls, List.suffix_rfl, h⟩

theorem draw_underway (h : Underway p decision calls q) :
    draw.Ends q
      (fun frame q' => frame.frameIndex = p.frameIndex ∧ frame.backBuffer = p.backBuffer ∧
        frame.renderSize = p.wantedSize ∧ ∃ rendered copied, Underway p decision
          (⟨.copy frame.backBuffer, copied, .done⟩ :: ⟨.render frame, rendered, .done⟩ :: calls) q')
      (Followed p decision) := by
  let frame := context { q with state := .rendering }
  have hrender (e : Event) (he : e.call = .render frame) : e.Due p decision calls := by
    rw [Event.Due, he]
    exact ⟨h.frameIndex_eq, h.backBuffer_eq, h.renderSize_eq⟩
  refine (ends_draw _ _ _).mpr (Recorded.ends_perform (fun _ b => ?_) fun e b he hrefused => ?_)
  · let event : Event := ⟨.render frame, Backend.completed q.backend.backend, .done⟩
    have hrendered : Underway p decision (event :: calls)
        { q with state := .rendering, backend := ⟨b, event :: q.backend.history⟩ } :=
      h.cons rfl rfl (hrender event rfl) rfl rfl rfl
    have hcopy (e : Event) (he : e.call = .copy q.backBuffer) :
        e.Due p decision (event :: calls) := by
      rw [Event.Due, he, ← hrendered.ledger_eq]
      rfl
    refine Recorded.ends_perform (fun _ b => ?_) fun e b he hrefused => ?_
    · exact ⟨h.frameIndex_eq, h.backBuffer_eq, h.renderSize_eq, _, _,
        hrendered.cons rfl rfl (hcopy _ rfl) rfl rfl rfl⟩
    · exact hrendered.refused hrefused rfl rfl (hcopy e he)
  · exact h.refused hrefused rfl rfl (hrender e he)

theorem submit_underway (h : Underway p decision calls q) :
    submit.Ends q
      (fun fence q' => ∃ submitted,
        Underway p decision (⟨.submit, submitted, .signals fence⟩ :: calls) q')
      (Followed p decision) := by
  refine (ends_submit _ _ _).mpr (Recorded.ends_perform (fun _ b => ?_) fun e b he hrefused => ?_)
  · exact ⟨_, h.cons rfl rfl trivial rfl rfl rfl⟩
  · exact h.refused hrefused rfl rfl (by rw [Event.Due, he]; trivial)

theorem presentBuffer_follows (h : Underway p decision calls q) {frame : FrameContext}
    (hdrawn : frame.DrawnIn calls) (hindex : frame.frameIndex = p.frameIndex)
    (hbuffer : frame.backBuffer = p.backBuffer) :
    (presentBuffer frame.backBuffer).Ends q
      (fun _ q' => q'.pendingResize = q.pendingResize ∧
        q'.frameIndex.toNat = p.frameIndex.toNat + 1 ∧ ∃ calls', Follows p decision calls' q')
      (Followed p decision) := by
  have hdue (e : Event) (he : e.call = .present frame.backBuffer) : e.Due p decision calls := by
    rw [Event.Due, he, ← h.ledger_eq]
    exact ⟨hbuffer.trans h.backBuffer_eq.symm, congrArg UInt64.toNat h.frameIndex_eq, frame, hdrawn,
      hindex, rfl⟩
  refine (ends_presentBuffer _ _ _ _).mpr
    (Recorded.ends_perform (fun _ b => ?_) fun e b he hrefused => ?_)
  · refine ⟨fun hindexed => ⟨fun hpresented => ?_, fun hfull => ?_⟩, fun hfull => ?_⟩
    · let event : Event :=
        ⟨.present frame.backBuffer, Backend.completed q.backend.backend, .done⟩
      have hposted := h.toFollows.cons (e := event) rfl
        (ledger_presented ⟨b, event :: q.backend.history⟩ _ _ hindexed hpresented) (hdue event rfl)
      exact ⟨rfl, (toNat_succ hindexed).trans (congrArg (·.toNat + 1) h.frameIndex_eq), _, hposted⟩
    · exact h.overrun rfl (overrun_presented _ _ (.inr hfull)) (hdue _ rfl)
    · exact h.overrun rfl (overrun_presented _ _ (.inl hfull)) (hdue _ rfl)
  · exact h.refused hrefused rfl rfl (hdue e he)

structure Applied (q : Presenter (Recorded β)) (resized : Bool) (q' : Presenter (Recorded β)) :
    Prop where
  resized_eq : resized = q.pendingResize.isSome
  settled : q'.pendingResize = none
  renderSize_eq : q'.renderSize = q.wantedSize
  frameIndex_eq : q'.frameIndex = q.frameIndex
  backBuffer_eq : q'.backBuffer = q.backBuffer
  latest : resized = true → ∃ completed,
    q'.backend.history = ⟨.resize q'.renderSize, completed, .done⟩ :: q.backend.history

theorem applyPendingResize_follows (h : Follows p decision calls q)
    (hdue : ∀ size, q.pendingResize = some size →
      calls = [] ∧ p.pendingResize = some size ∨ decision.resizeNeeded = true) :
    applyPendingResize.Ends q
      (fun resized q' => Applied q resized q' ∧ ∃ calls', Follows p decision calls' q')
      (Followed p decision) := by
  cases hpending : q.pendingResize with
  | none =>
    apply (ends_applyPendingResize_none hpending _ _).mpr
    exact ⟨⟨by rw [hpending]; rfl, hpending, by rw [wantedSize, hpending]; rfl, rfl, rfl, by simp⟩,
      calls, h⟩
  | some size =>
    have hresize (e : Event) (he : e.call = .resize size) : e.Due p decision calls := by
      rw [Event.Due, he]
      exact hdue size hpending
    refine (ends_applyPendingResize_some hpending _ _).mpr
      (Recorded.ends_perform (fun _ b => ?_) fun e b he hrefused => ?_)
    · constructor
      · intro hroom
        let event : Event := ⟨.resize size, Backend.completed q.backend.backend, .done⟩
        have hposted := h.cons (e := event) rfl
          (ledger_resized ⟨b, event :: q.backend.history⟩ _ size hroom) (hresize event rfl)
        exact ⟨⟨by rw [hpending]; rfl, rfl, by rw [wantedSize, hpending]; rfl, rfl, rfl,
          fun _ => ⟨_, rfl⟩⟩, _, hposted⟩
      · exact fun hfull => h.overrun rfl (overrun_resized _ size hfull) (hresize _ rfl)
    · exact h.refused hrefused rfl rfl (hresize e he)

structure Reported (p : Presenter (Recorded β)) (decision : Decision) (report : FrameReport)
    (q : Presenter (Recorded β)) : Prop where
  followed : Followed p decision q
  presented : q.frameIndex.toNat = p.frameIndex.toNat + 1
  frameIndex_eq : report.frameIndex = p.frameIndex
  backBuffer_eq : report.backBuffer = p.backBuffer
  renderSize_eq : report.renderSize = p.wantedSize
  scale_eq : report.scale = decision.scale
  resized_eq : report.resized = decision.resizeNeeded
  settled : q.pendingResize = none
  latest : report.resized = true → ∃ completed earlier,
    q.backend.history = ⟨.resize q.renderSize, completed, .done⟩ :: earlier

theorem drawAndPresent_follows (h : Underway p decision calls q) :
    (drawAndPresent decision).Ends q (Reported p decision) (Followed p decision) := by
  unfold drawAndPresent
  rw [Action.ends_bind, Action.ends_state, Action.ends_bind]
  refine (await_underway h _ _).mono ?_ fun _ hq => hq
  rintro _ q₁ ⟨calls₁, -, h₁⟩
  rw [Action.ends_bind]
  refine (draw_underway h₁).mono ?_ fun _ hq => hq
  rintro frame q₂ ⟨hindex, hbuffer, hsize, rendered, copied, h₂⟩
  rw [Action.ends_bind]
  refine (submit_underway h₂).mono ?_ fun _ hq => hq
  rintro fence q₃ ⟨submitted, h₃⟩
  have hdrawn : frame.DrawnIn _ :=
    ⟨rendered, copied, submitted, fence, (List.prefix_append _ calls₁).isInfix⟩
  rw [Action.ends_bind]
  refine (await_underway h₃ _ _).mono ?_ fun _ hq => hq
  rintro _ q₄ ⟨calls₄, hcalls, h₄⟩
  rw [Action.ends_bind]
  refine (presentBuffer_follows h₄ (hdrawn.mono hcalls) hindex hbuffer).mono ?_ fun _ hq => hq
  rintro _ q₅ ⟨hpending, hpresented, calls₅, h₅⟩
  have hneeded : q₅.pendingResize.isSome = decision.resizeNeeded := hpending ▸ h₄.pending_eq
  rw [Action.ends_bind]
  refine (applyPendingResize_follows h₅ fun size hsome => ?_).mono ?_ fun _ hq => hq
  · rw [← hneeded, hsome]
    exact .inr rfl
  rintro resized q₆ ⟨happlied, calls₆, h₆⟩
  rw [Action.ends_bind, Action.ends_update, Action.ends_pure]
  have hidle : Follows p decision calls₆ { q₆ with state := .idle } := h₆.congr rfl rfl
  exact {
    followed := hidle.followed
    presented := (congrArg UInt64.toNat happlied.frameIndex_eq).trans hpresented
    frameIndex_eq := hindex
    backBuffer_eq := hbuffer
    renderSize_eq := hsize
    scale_eq := rfl
    resized_eq := happlied.resized_eq.trans hneeded
    settled := happlied.settled
    latest := fun hresized => (happlied.latest hresized).imp fun _ he => ⟨_, he⟩ }

theorem presentFrame_follows {elapsed : Duration}
    (hdecision : (Controller.advanceDuration elapsed p.controller).outcome = .done decision) :
    (presentFrame elapsed).Ends p (Reported p decision) (Followed p decision) := by
  rw [presentFrame_eq, Action.ends_bind, ends_pace, Action.ends_of_done hdecision]
  have hbegun : Follows p decision [] (p.paced elapsed) :=
    ⟨⟨rfl, fun e earlier he => by simp at he⟩, rfl⟩
  rw [Action.ends_bind]
  refine (applyPendingResize_follows hbegun fun size hsome => .inl ⟨rfl, hsome⟩).mono ?_
    fun _ hq => hq
  rintro resized q ⟨happlied, calls, h⟩
  rw [Action.ends_bind, ends_scheduleResize]
  split_ifs with hresize
  · exact drawAndPresent_follows ⟨h.congr rfl rfl, happlied.frameIndex_eq, happlied.backBuffer_eq,
      happlied.renderSize_eq, hresize.symm⟩
  · have hneeded : q.pendingResize.isSome = decision.resizeNeeded := by
      rw [happlied.settled, Bool.eq_false_iff.mpr hresize]
      rfl
    exact drawAndPresent_follows ⟨h, happlied.frameIndex_eq, happlied.backBuffer_eq,
      happlied.renderSize_eq, hneeded⟩

theorem presentFrame_followed (elapsed : Duration) (p : Presenter (Recorded β)) :
    ∃ decision, Followed p decision (presentFrame elapsed p).state := by
  by_cases hdone : ∃ d, (Controller.advanceDuration elapsed p.controller).outcome = .done d
  · obtain ⟨decision, hdecision⟩ := hdone
    exact ⟨decision, ((presentFrame_follows hdecision).mono (fun _ _ hq => hq.followed)
      fun _ hq => hq).state⟩
  · rw [presentFrame_undecided fun d hd => hdone ⟨d, hd⟩]
    exact ⟨⟨p.controller.scale, false⟩, [], ⟨rfl, fun e earlier he => by simp at he⟩, fun _ => rfl⟩

end Presenter

end AdaptiveResolution.Presentation
