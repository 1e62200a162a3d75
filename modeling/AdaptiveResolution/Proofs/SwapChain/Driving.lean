import AdaptiveResolution.Proofs.Pacing.Bounds
import AdaptiveResolution.Proofs.Presentation.Counting
import AdaptiveResolution.Proofs.Presentation.Reuse
import AdaptiveResolution.Proofs.Presentation.Turns
import AdaptiveResolution.Proofs.SwapChain.Calls

namespace AdaptiveResolution

open Gpu

namespace Presentation

def lastSignal : List Event → Nat
  | [] => 0
  | e :: earlier =>
    match e.answer with
    | .signals fence => fence
    | _ => lastSignal earlier

structure Event.Granted (e : Event) (earlier : List Event) : Prop where
  not_refused : ¬e.Refused
  signalled : ∀ value, e.call = .wait value → value ≤ lastSignal earlier

theorem Recorded.ends_perform_done {β ε α : Type} [Backend β ε] {call : Call} {answer : α → Answer}
    {x : Action β ε α} {r : Recorded β} {Q : α → Recorded β → Prop} {E : Recorded β → Prop}
    (h : x.Ends r.backend
      (fun a b => Q a ⟨b, ⟨call, Backend.completed r.backend, answer a⟩ :: r.history⟩)
      fun _ => False) : (Recorded.perform call answer x).Ends r Q E := by
  obtain ⟨a, ha, hQ⟩ := h.exists_done
  unfold Action.Ends Recorded.perform
  dsimp only
  rw [ha]
  exact hQ

end Presentation

namespace SwapChain

open Presentation Presenter
open Pacing (Config Controller Decision)

/-- What a presenter has asked of the chain so far was done, and will be. -/
structure Attached (r : Recorded Offscreen) : Prop where
  wired : r.backend.equipment.Wired
  reachable : r.backend.fence.Reachable
  last_eq : lastSignal r.history = r.backend.fence.last.toNat
  granted : ∀ e earlier, e :: earlier <:+ r.history → e.Granted earlier

namespace Attached

variable {r : Recorded Offscreen} {c : Offscreen} {e : Event} {calls : List Command}

theorem cons (h : Attached r) (hwired : c.equipment.Wired) (hreachable : c.fence.Reachable)
    (he : ¬e.Refused) (hwait : ∀ value, e.call = .wait value → value ≤ r.backend.fence.last.toNat)
    (hlast : lastSignal (e :: r.history) = c.fence.last.toNat) : Attached ⟨c, e :: r.history⟩ where
  wired := hwired
  reachable := hreachable
  last_eq := hlast
  granted := forall_suffix_cons_iff.mpr
    ⟨⟨he, fun value hvalue => h.last_eq ▸ hwait value hvalue⟩, h.granted⟩

theorem continues (h : Attached r) (hc : r.backend.Continues calls c) (he : e.answer = .done)
    (hwait : ∀ value, e.call = .wait value → value ≤ r.backend.fence.last.toNat) :
    Attached ⟨c, e :: r.history⟩ := by
  refine h.cons (hc.equipment_eq ▸ h.wired) (hc.reachable h.reachable) ?_ hwait ?_
  · simp [Event.Refused, he]
  · rw [lastSignal, he, hc.last_eq]
    exact h.last_eq

theorem resized (h : Attached r) {size : Extent} (hc : r.backend.Resized size c)
    (completed : Nat) : Attached ⟨c, ⟨.resize size, completed, .done⟩ :: r.history⟩ := by
  obtain ⟨values, hvalues⟩ := hc.fence_eq
  refine h.cons hc.wired (hvalues ▸ h.reachable.reportAll values) ?_ ?_ ?_
  · simp [Event.Refused]
  · rintro _ ⟨⟩
  · rw [hvalues, Fence.reportAll_last]
    exact h.last_eq

theorem answered (h : Attached r) : ∀ e ∈ r.history, ¬e.Refused := by
  intro e he
  obtain ⟨later, earlier, hsplit⟩ := List.append_of_mem he
  exact (h.granted e earlier ⟨later, hsplit.symm⟩).not_refused

end Attached

structure Agrees (renderSize : Extent) (inFlight : Vector Nat 2) (r : Recorded Offscreen) : Prop
    extends Attached r where
  renderSize_eq : renderSize = r.backend.renderTarget.extent
  inFlight_le : ∀ i, inFlight.get i ≤ r.backend.fence.last.toNat

theorem Agrees.continues {renderSize : Extent} {inFlight : Vector Nat 2} {r : Recorded Offscreen}
    (h : Agrees renderSize inFlight r) {c : Offscreen} {e : Event} {calls : List Command}
    (hc : r.backend.Continues calls c) (he : e.answer = .done)
    (hwait : ∀ value, e.call = .wait value → value ≤ r.backend.fence.last.toNat) :
    Agrees renderSize inFlight ⟨c, e :: r.history⟩ where
  toAttached := h.toAttached.continues hc he hwait
  renderSize_eq := h.renderSize_eq.trans
    (congrArg (fun e : Equipment => e.renderTarget.extent) hc.equipment_eq.symm)
  inFlight_le := hc.last_eq.symm ▸ h.inFlight_le

abbrev InStep (p : Presenter (Recorded Offscreen)) : Prop :=
  Agrees p.renderSize p.inFlight p.backend

structure Prepared (q : Equipment) (index : BackBuffer) (e : Encoder) (calls : List Command) :
    Prop where
  dispatches : ∃ fill upscale, e.dispatches = [fill, upscale] ∧
    Covers fill q.fillKernel q.renderTarget.extent ∧
    Covers upscale (q.upscaleKernels.get index) q.outputSize
  written : ∃ constants : FrameConstants,
    lastWrite q.constants.buffer.id calls = some (0, constants.bytes) ∧
      constants.renderSize = q.renderTarget.extent ∧ constants.outputSize = q.outputSize

def Submitted (c : Offscreen) (index : BackBuffer) (d : Device) : Prop :=
  ∃ e before later, Prepared c.equipment index e before ∧
    d.submissions = [e] :: c.device.submissions ∧
    d.commands = c.device.commands ++ (before ++ .submit [e.id] :: later) ∧
    ∀ batch, .submit batch ∉ before ∧ .submit batch ∉ later

theorem Prepared.submitted {c c' : Offscreen} {index : BackBuffer} {e : Encoder}
    {calls : List Command} (h : Prepared c.equipment index e calls) (hc : c.Continues calls c')
    {d : Device} (hhistory : d.history = .onDone :: .submit [e.id] :: c'.device.history)
    (hsubmissions : d.submissions = [e] :: c'.device.submissions) : Submitted c index d := by
  refine ⟨e, calls, [.onDone], h, hsubmissions.trans (by rw [hc.issues.submissions_eq]), ?_,
    fun batch => ⟨hc.issues.not_submits batch, by simp⟩⟩
  have hcommands := hc.issues.commands_eq
  unfold Device.commands at hcommands ⊢
  rw [hhistory, List.reverse_cons, List.reverse_cons, hcommands]
  simp

theorem Submitted.issues {c : Offscreen} {index : BackBuffer} {d d' : Device}
    {calls : List Command} (h : Submitted c index d) (hissues : d.Issues calls d') :
    Submitted c index d' := by
  obtain ⟨e, before, later, hprepared, hsubmissions, hcommands, hnone⟩ := h
  refine ⟨e, before, later ++ calls, hprepared, hissues.submissions_eq.trans hsubmissions, ?_,
    fun batch => ⟨(hnone batch).1, fun hbatch => ?_⟩⟩
  · rw [hissues.commands_eq, hcommands]
    simp
  · exact (List.mem_append.mp hbatch).elim (hnone batch).2 (hissues.not_submits batch)

section

variable {p : Presenter (Recorded Offscreen)}

-- The end that is not `done` is the trap of a full counter, where the chain has done its part.
theorem await_inStep (h : InStep p) {value : Nat}
    (hvalue : value ≤ p.backend.backend.fence.last.toNat) (reason : String) :
    (await value reason).Ends p
      (fun _ q => ∃ backend stats calls, q = { p with backend, stats } ∧ InStep q ∧
        p.backend.backend.Stays calls backend.backend ∧ value ≤ backend.backend.fence.completed)
      fun q => Attached q.backend := by
  rw [ends_await]
  refine ⟨fun _ => Recorded.ends_perform_done ?_, fun hreached => ?_⟩
  · refine (Offscreen.wait_stays h.reachable hvalue).imp ?_
    rintro _ c ⟨calls, hstays, hreached⟩
    let event : Event := ⟨.wait value, p.backend.backend.fence.completed, .done⟩
    have hwaited : Agrees p.renderSize p.inFlight ⟨c, event :: p.backend.history⟩ :=
      h.continues hstays.toContinues rfl fun _ hcall => Call.wait.inj hcall ▸ hvalue
    exact ⟨fun _ => ⟨_, _, calls, rfl, hwaited, hstays, hreached⟩, fun _ => hwaited.toAttached⟩
  · exact ⟨p.backend, p.stats, [], rfl, h, ⟨⟨rfl, .refl _, [], rfl⟩, rfl, rfl⟩,
      Nat.le_of_not_lt hreached⟩

theorem draw_inStep (h : InStep p) (hidle : p.backend.backend.encoder = none)
    {E : Presenter (Recorded Offscreen) → Prop} :
    draw.Ends p
      (fun frame q => ∃ backend calls e,
        q = { p with backend, state := .rendering } ∧ InStep q ∧
          frame = context { p with state := .rendering } ∧
          p.backend.backend.Continues calls backend.backend ∧
          backend.backend.encoder = some e ∧
          Prepared p.backend.backend.equipment p.backBuffer e calls)
      E := by
  let frame := context { p with state := .rendering }
  rw [ends_draw]
  refine Recorded.ends_perform_done ?_
  refine (Offscreen.render_records frame h.wired.target.toDispatchable).imp ?_
  rintro _ c ⟨fill, calls, hrender, hfill, hwritten⟩
  refine Recorded.ends_perform_done ?_
  have hwired : c.equipment.Wired := hrender.equipment_eq ▸ h.wired
  refine (Offscreen.copy_records _ hwired.output.toDispatchable).imp ?_
  rintro _ c' ⟨upscale, calls', hcopy, hupscale, hwrites⟩
  obtain ⟨e, he, hrecorded⟩ := hrender.pair hcopy
  have hempty : p.backend.backend.dispatches = [] := by
    rw [Offscreen.dispatches, hidle]
    rfl
  rw [hempty] at hrecorded
  rw [hrender.equipment_eq] at hupscale
  refine ⟨_, calls ++ calls', e, rfl, ?_, rfl, hrender.trans hcopy.toContinues, he,
    ⟨fill, upscale, hrecorded, hfill, hupscale⟩, p.backend.backend.frameConstants frame, ?_,
    rfl, rfl⟩
  · let event : Event := ⟨.render frame, p.backend.backend.fence.completed, .done⟩
    have hrendered : Agrees p.renderSize p.inFlight ⟨c, event :: p.backend.history⟩ :=
      h.continues hrender.toContinues rfl (by rintro _ ⟨⟩)
    exact hrendered.continues hcopy.toContinues rfl (by rintro _ ⟨⟩)
  · rw [lastWrite_append, hwrites]
    exact hwritten

theorem submit_inStep (h : InStep p) {e : Encoder} (he : p.backend.backend.encoder = some e)
    (hroom : ¬Full p.backend.backend.fence.last) {E : Presenter (Recorded Offscreen) → Prop} :
    submit.Ends p
      (fun fence q => ∃ backend,
        q = { p with
          backend
          inFlight := p.inFlight.setIfInBounds p.backBuffer fence
          state := .submitted } ∧
        InStep q ∧ fence = p.backend.backend.fence.last.toNat + 1 ∧
          backend.backend.fence.last.toNat = fence ∧
          backend.backend.equipment = p.backend.backend.equipment ∧
          backend.backend.encoder = none ∧
          backend.backend.device.history =
            .onDone :: .submit [e.id] :: p.backend.backend.device.history ∧
          backend.backend.device.submissions = [e] :: p.backend.backend.device.submissions)
      E := by
  rw [ends_submit]
  refine Recorded.ends_perform_done ?_
  refine (Offscreen.submit_ends_done hroom).imp ?_
  rintro fence c ⟨rfl, device, values, rfl, hdevice⟩
  rw [he] at hdevice
  have hlast : (p.backend.backend.fence.next.reportAll values).last.toNat =
      p.backend.backend.fence.last.toNat + 1 := by
    rw [Fence.reportAll_last, Fence.next_last hroom]
  have hreachable := (h.reachable.next hroom).reportAll values
  refine ⟨_, rfl, ⟨h.toAttached.cons h.wired hreachable ?_ ?_ hlast.symm, h.renderSize_eq,
    fun i => ?_⟩, rfl, hlast, rfl, rfl, hdevice⟩
  · simp [Event.Refused]
  · rintro _ ⟨⟩
  · have hinFlight := h.inFlight_le i
    change _ ≤ (p.backend.backend.fence.next.reportAll values).last.toNat
    rw [get_setIfInBounds, hlast]
    split <;> omega

theorem presentBuffer_inStep (h : InStep p) (index : BackBuffer) :
    (presentBuffer index).Ends p
      (fun _ q => InStep q ∧ q.pendingResize = p.pendingResize ∧ q.inFlight = p.inFlight ∧
        q.backBuffer = index.flip ∧
        p.backend.backend.Continues [] q.backend.backend ∧
        q.backend.backend.encoder = p.backend.backend.encoder ∧
        q.backend.backend.frontBuffer = some index)
      fun q => Attached q.backend := by
  rw [ends_presentBuffer]
  refine Recorded.ends_perform_done ?_
  refine (Offscreen.present_continues index _).imp ?_
  rintro _ c ⟨hcontinues, hencoder, hfront⟩
  let event : Event := ⟨.present index, p.backend.backend.fence.completed, .done⟩
  have hpresented : Agrees p.renderSize p.inFlight ⟨c, event :: p.backend.history⟩ :=
    h.continues hcontinues rfl (by rintro _ ⟨⟩)
  exact ⟨fun _ => ⟨fun _ => ⟨hpresented, rfl, rfl, rfl, hcontinues, hencoder, hfront⟩,
    fun _ => hpresented.toAttached⟩, fun _ => hpresented.toAttached⟩

theorem applyPendingResize_inStep (h : InStep p)
    (hsize : ∀ size, p.pendingResize = some size → size.Drawable) :
    applyPendingResize.Ends p
      (fun _ q => InStep q ∧ q.pendingResize = none ∧
        q.inFlight = p.inFlight ∧ q.backBuffer = p.backBuffer ∧
        (∃ calls, p.backend.backend.device.Issues calls q.backend.backend.device) ∧
        (∃ values, q.backend.backend.fence = p.backend.backend.fence.reportAll values) ∧
        q.backend.backend.outputSize = p.backend.backend.outputSize ∧
        q.backend.backend.encoder = p.backend.backend.encoder ∧
        q.backend.backend.frontBuffer = p.backend.backend.frontBuffer)
      fun q => Attached q.backend := by
  cases hpending : p.pendingResize with
  | none =>
    rw [ends_applyPendingResize_none hpending]
    exact ⟨h, hpending, rfl, rfl, ⟨[], .refl _⟩, ⟨[], rfl⟩, rfl, rfl, rfl⟩
  | some size =>
    rw [ends_applyPendingResize_some hpending]
    refine Recorded.ends_perform_done ?_
    refine (Offscreen.resize_resized (hsize size hpending) h.wired).imp ?_
    rintro _ c hresized
    have hattached := h.toAttached.resized hresized p.backend.backend.fence.completed
    refine ⟨fun _ => ⟨⟨hattached, hresized.extent_eq.symm, ?_⟩, rfl, rfl, rfl, hresized.issues,
      hresized.fence_eq, hresized.outputSize_eq, hresized.encoder_eq, hresized.frontBuffer_eq⟩,
      fun _ => hattached⟩
    obtain ⟨values, hvalues⟩ := hresized.fence_eq
    change ∀ i, _ ≤ c.fence.last.toNat
    rw [hvalues, Fence.reportAll_last]
    exact h.inFlight_le

structure Framed (c : Offscreen) (index : BackBuffer) (report : FrameReport)
    (q : Presenter (Recorded Offscreen)) : Prop where
  inStep : InStep q
  settled : q.pendingResize = none
  encoder_eq : q.backend.backend.encoder = none
  outputSize_eq : q.backend.backend.outputSize = c.outputSize
  submitted : Submitted c index q.backend.backend.device
  last_eq : q.backend.backend.fence.last.toNat = c.fence.last.toNat + 1
  reached : q.inFlight.get q.backBuffer ≤ q.backend.backend.fence.completed
  frontBuffer_eq : q.backend.backend.frontBuffer = some index
  backBuffer_eq : report.backBuffer = index
  renderSize_eq : report.renderSize = c.renderTarget.extent

theorem drawAndPresent_framed (h : InStep p) (hidle : p.backend.backend.encoder = none)
    (hreached : p.inFlight.get p.backBuffer ≤ p.backend.backend.fence.completed)
    (hroom : ¬Full p.backend.backend.fence.last)
    (hsize : ∀ size, p.pendingResize = some size → size.Drawable) (decision : Decision) :
    (drawAndPresent decision).Ends p (Framed p.backend.backend p.backBuffer)
      fun q => Attached q.backend := by
  unfold drawAndPresent
  rw [Action.ends_bind, Action.ends_state, Action.ends_bind]
  refine (ends_await _ _ _ _ _).mpr ⟨fun hbusy => absurd hreached (Nat.not_le.mpr hbusy), fun _ => ?_⟩
  rw [Action.ends_bind]
  refine (draw_inStep h hidle).imp ?_
  rintro _ q₂ ⟨backend₂, calls₂, e, rfl, h₂, rfl, hdrawn, hencoder, hprepared⟩
  rw [Action.ends_bind]
  refine (submit_inStep h₂ hencoder (hdrawn.last_eq.symm ▸ hroom)).imp ?_
  rintro fence q₃ ⟨backend₃, rfl, h₃, hfence, hlast₃, hequipment₃, hencoder₃, hhistory, hsubmissions⟩
  replace hfence : fence = p.backend.backend.fence.last.toNat + 1 := hdrawn.last_eq ▸ hfence
  have hsubmitted : Submitted p.backend.backend p.backBuffer backend₃.backend.device :=
    hprepared.submitted hdrawn hhistory hsubmissions
  rw [Action.ends_bind]
  refine (await_inStep h₃ (hlast₃.symm ▸ Nat.sub_le _ _) _).imp ?_
  rintro _ q₄ ⟨backend₄, stats₄, calls₄, rfl, h₄, hstays₄, hreached₄⟩
  rw [Action.ends_bind]
  refine (presentBuffer_inStep h₄ _).imp ?_
  rintro _ q₅ ⟨h₅, hpending, hinFlight₅, hbuffer₅, hpresented, hencoder₅, hfront⟩
  rw [Action.ends_bind]
  refine (applyPendingResize_inStep h₅ fun size hsome => hsize size ?_).imp ?_
  · exact hpending.symm.trans hsome
  rintro resized q₆ ⟨h₆, hsettled, hinFlight₆, hbuffer₆, ⟨calls₆, hissues₆⟩, ⟨values, hfence₆⟩,
    houtput, hencoder₆, hfront₆⟩
  rw [Action.ends_bind, Action.ends_update, Action.ends_pure]
  have hequipment : q₅.backend.backend.equipment = p.backend.backend.equipment :=
    calc
      q₅.backend.backend.equipment = backend₄.backend.equipment := hpresented.equipment_eq
      _ = backend₃.backend.equipment := hstays₄.equipment_eq
      _ = backend₂.backend.equipment := hequipment₃
      _ = p.backend.backend.equipment := hdrawn.equipment_eq
  -- The other buffer was submitted for by an earlier frame, so the wait has covered its value.
  have hother : q₆.inFlight.get q₆.backBuffer ≤ fence - 1 := by
    rw [hinFlight₆, hinFlight₅, hbuffer₆, hbuffer₅]
    change (p.inFlight.setIfInBounds p.backBuffer fence).get p.backBuffer.flip ≤ fence - 1
    rw [get_setIfInBounds, if_neg p.backBuffer.flip_ne.symm, hfence, Nat.add_sub_cancel]
    exact h.inFlight_le _
  exact {
    inStep := h₆
    settled := hsettled
    encoder_eq := hencoder₆.trans (hencoder₅.trans (hstays₄.encoder_eq.trans hencoder₃))
    outputSize_eq := houtput.trans (congrArg Equipment.outputSize hequipment)
    submitted := ((hsubmitted.issues hstays₄.issues).issues hpresented.issues).issues hissues₆
    last_eq := by
      rw [hfence₆, Fence.reportAll_last, hpresented.last_eq, ← hfence, ← hlast₃]
      exact congrArg UInt64.toNat hstays₄.last_eq
    reached := by
      rw [hfence₆]
      exact (hother.trans (hreached₄.trans hpresented.completed_le)).trans
        (Fence.completed_le_reportAll _ _)
    frontBuffer_eq := hfront₆.trans hfront
    backBuffer_eq := rfl
    renderSize_eq := h.renderSize_eq }

structure Rested (size : Extent) (n : Nat) (p : Presenter (Recorded Offscreen)) : Prop
    extends p.OneEach n where
  inStep : InStep p
  output_eq : p.backend.backend.outputSize = size
  encoder_eq : p.backend.backend.encoder = none
  last_le : p.backend.backend.fence.last.toNat ≤ n
  sound : p.controller.Sound
  bounded : p.controller.Bounded

variable {size : Extent} {n : Nat}

theorem presentFrame_framed (h : Rested size n p) (hn : n + 1 < UInt64.size) {d : Duration}
    {decision : Decision}
    (hdecision : (Controller.advanceDuration d p.controller).outcome = .done decision)
    (hsize : ((Backend.outputSize p.backend).scaled decision.scale).Drawable) :
    (presentFrame d).Ends p (Framed p.backend.backend p.backBuffer) fun q => Attached q.backend := by
  have hpaced : (p.paced d).pendingResize = none := h.settled
  have hstep : InStep (p.paced d) := h.inStep
  have hroom : ¬Full p.backend.backend.fence.last :=
    not_full_iff.mpr (Nat.lt_of_le_of_lt (Nat.succ_le_succ h.last_le) hn)
  rw [presentFrame_eq, Action.ends_bind, ends_pace, Action.ends_of_done hdecision,
    Action.ends_bind]
  refine (ends_applyPendingResize_none hpaced _ _).mpr ?_
  rw [Action.ends_bind, ends_scheduleResize]
  split
  · apply drawAndPresent_framed
    · exact hstep
    · exact h.encoder_eq
    · exact h.reached
    · exact hroom
    · intro size hsome
      rw [← Option.some.inj hsome]
      exact hsize
  · refine drawAndPresent_framed hstep h.encoder_eq h.reached hroom (fun size hsome => ?_) decision
    simp [hpaced] at hsome

theorem Rested.presentFrame (h : Rested size n p) (hn : n + 1 < UInt64.size) {d : Duration}
    (hd : d.nanos ≠ 0) :
    ∃ report, (presentFrame d p).outcome = .done report ∧
      Framed p.backend.backend p.backBuffer report (presentFrame d p).state ∧
      Rested size (n + 1) (presentFrame d p).state := by
  have hstep := presentFrame_advances d h.sound
  have hsound := hstep.sound h.sound
  have hbounded := hstep.bounded h.sound h.bounded
  obtain ⟨decision, hdecision⟩ := hstep.exists_decision (Controller.durationTicks_ne_zero hd)
  rw [hdecision] at hstep
  have hscale : (p.controller.config).Admits decision.scale := by
    have hadmits : (Presenter.presentFrame d p).state.controller.config.Admits _ := hbounded
    rwa [hstep.config_eq, hstep.scale_eq] at hadmits
  have houtput : (Backend.outputSize p.backend).Dispatchable := h.inStep.wired.output.toDispatchable
  have hsize := houtput.scaled (hscale.le_one h.sound.valid)
  have hends := presentFrame_framed h hn hdecision hsize
  have hattached : Attached (Presenter.presentFrame d p).state.backend :=
    (hends.mono (fun _ _ hframed => hframed.inStep.toAttached) fun _ htrap => htrap).state
  obtain ⟨report, hreport⟩ := h.toOneEach.exists_report hn hdecision hattached.answered
  have hframed := (Action.ends_of_done hreport _ _).mp hends
  exact ⟨report, hreport, hframed, {
    reached := hframed.reached
    settled := hframed.settled
    counted := h.toOneEach.counts hn d
    inStep := hframed.inStep
    output_eq := hframed.outputSize_eq.trans h.output_eq
    encoder_eq := hframed.encoder_eq
    last_le := hframed.last_eq.trans_le (Nat.succ_le_succ h.last_le)
    sound := hsound
    bounded := hbounded }⟩

theorem Rested.turn (h : Rested size n p) (hn : n + 1 < UInt64.size) {t : Turn} (ht : t.Lasts) :
    ∃ report, (t.perform p).outcome = .done report ∧
      Framed p.backend.backend p.backBuffer report (t.perform p).state ∧
      Rested size (n + 1) (t.perform p).state := by
  have hd := ht.elapsed_ne_zero p
  rw [t.perform_eq]
  cases t with
  | present elapsed => exact h.presentFrame hn hd
  | run now =>
    have hbegun : Rested size n { p with lastFrame := some now } := { h with }
    exact hbegun.presentFrame hn hd

theorem Rested.afterTurns (h : Rested size n p) {turns : List Turn}
    (hturns : ∀ t ∈ turns, t.Lasts) (hfew : n + turns.length < UInt64.size) :
    Rested size (n + turns.length) (p.afterTurns turns) := by
  induction turns generalizing p n with
  | nil => exact h
  | cons t turns ih =>
    have hlength : n + (t :: turns).length = n + 1 + turns.length := by
      rw [List.length_cons]
      omega
    rw [hlength] at hfew ⊢
    obtain ⟨-, -, -, hturn⟩ :=
      h.turn (Nat.lt_of_le_of_lt (Nat.le_add_right _ _) hfew) (hturns t (List.mem_cons_self ..))
    exact ih hturn (fun u hu => hturns u (List.mem_cons_of_mem _ hu)) hfew

theorem start_attached {c : Offscreen} {target : Extent} (hc : c.New size)
    (htarget : target.Drawable) :
    (Backend.resize target).Ends (⟨c, []⟩ : Recorded Offscreen)
      (fun _ r => Attached r ∧ r.backend.renderTarget.extent = target ∧
        r.backend.outputSize = size.nonempty ∧ r.backend.encoder = none ∧
        r.backend.fence.last.toNat ≤ 0)
      fun _ => False := by
  have hattached : Attached ⟨c, []⟩ :=
    ⟨hc.wired, ⟨[], trivial, hc.fence_eq⟩, by rw [hc.fence_eq]; rfl, fun _ _ he => by simp at he⟩
  refine Recorded.ends_perform_done ?_
  refine (Offscreen.resize_resized htarget hc.wired).imp ?_
  rintro _ c' hresized
  have hlast : c'.fence.last.toNat ≤ 0 := by
    obtain ⟨values, hvalues⟩ := hresized.fence_eq
    rw [hvalues, Fence.reportAll_last, hc.fence_eq]
    exact Nat.le_refl _
  exact ⟨hattached.resized hresized _, hresized.extent_eq,
    hresized.outputSize_eq.trans hc.output_eq, hresized.encoder_eq.trans hc.encoder_eq, hlast⟩

theorem start_rested {controller : Controller} (hsound : controller.Sound)
    (hbounded : controller.Bounded) {c : Offscreen} (hc : c.New size) :
    ∃ p, (start controller (⟨c, []⟩ : Recorded Offscreen)).outcome = .done p ∧
      Rested size.nonempty 0 p := by
  have hadmits : controller.config.Admits controller.scale := hbounded
  have houtput : (Backend.outputSize (⟨c, []⟩ : Recorded Offscreen)).Dispatchable :=
    hc.wired.output.toDispatchable
  have hdrawable := houtput.scaled (hadmits.le_one hsound.valid)
  generalize htarget : (Backend.outputSize (⟨c, []⟩ : Recorded Offscreen)).scaled
    controller.scale = target at hdrawable
  obtain ⟨⟨⟩, hdone, hattached, hextent, houtputSize, hencoder, hlast⟩ :=
    (start_attached hc hdrawable).exists_done
  let r := (Backend.resize target (⟨c, []⟩ : Recorded Offscreen)).state
  have hzero : ∀ i, (#v[0, 0] : Vector Nat 2).get i = 0 := by decide
  have hagrees : Agrees target #v[0, 0] r :=
    ⟨hattached, hextent.symm, fun i => (hzero i).trans_le (Nat.zero_le _)⟩
  let p : Presenter (Recorded Offscreen) := { backend := r, controller, renderSize := target }
  have hnone : p.OneEach 0 := by
    have hcount : (0 : UInt64).toNat ≤ 0 := Nat.le_refl _
    exact ⟨(hzero _).trans_le (Nat.zero_le _), rfl, hcount, hcount, hcount, hcount⟩
  refine ⟨p, ?_, hnone, hagrees, houtputSize, hencoder, hlast, hsound, hbounded⟩
  rw [start_done_iff, htarget]
  exact ⟨hdone, rfl⟩

end

theorem start_cases {config : Config} (hconfig : config.validate = .ok ()) (scale : Double)
    (schedule : Schedule) {size : Extent} (hsize : size.Dispatchable) (fillShader : Shader)
    (fillEntryPoint : String) (palette : List (List Single)) (device : Device) :
    Controller.withScale config scale = .trapped .capacityOverflow ∧
        1 <<< 63 ≤ config.windowSize.toNat * 8 ∨
      ∃ controller c₀ p, Controller.withScale config scale = .done controller ∧
        (Offscreen.create schedule size fillShader fillEntryPoint palette device :
          Reply Device Error Offscreen).outcome = .done c₀ ∧
        (start controller ⟨c₀, []⟩).outcome = .done p ∧ Rested size.nonempty 0 p := by
  rcases Controller.withScale_cases hconfig scale with hlong | ⟨hc, hsound⟩
  · exact .inl hlong
  · have hvalid := (config.validate_eq_ok_iff).mp hconfig
    have hbounded := Controller.fresh_bounded (Controller.startScale_admitted hvalid scale)
    obtain ⟨c₀, hc₀, hnew⟩ :=
      Offscreen.create_new schedule hsize fillShader fillEntryPoint palette device
    obtain ⟨p, hp, hrested⟩ := start_rested hsound hbounded hnew
    exact .inr ⟨_, c₀, p, hc, hc₀, hp, hrested⟩

/-- With any valid configuration a swap chain can be created and a presenter started on it, and
from then on every frame is presented, whatever the durations, the readings of the clock and the
schedule of the work are. No call on the chain is refused, and none waits for a value that was not
signalled before. -/
theorem every_frame_presented (config : Config) (scale : Double)
    (hconfig : config.validate = .ok ()) (schedule : Schedule) {size : Extent}
    (hsize : size.Dispatchable) (fillShader : Shader) (fillEntryPoint : String)
    (palette : List (List Single)) (device : Device) :
    Controller.withScale config scale = .trapped .capacityOverflow ∧
        1 <<< 63 ≤ config.windowSize.toNat * 8 ∨
      ∃ controller c₀ p, Controller.withScale config scale = .done controller ∧
        (Offscreen.create schedule size fillShader fillEntryPoint palette device :
          Reply Device Error Offscreen).outcome = .done c₀ ∧
        (start controller c₀).outcome = .done p.erased ∧
        (start controller ⟨c₀, []⟩).outcome = .done p ∧
        ∀ turns : List Turn, (∀ t ∈ turns, t.Lasts) → turns.length < UInt64.size →
          let q := p.afterTurns turns
          q.erased = p.erased.afterTurns turns ∧
            (turns.length + 1 < UInt64.size → ∀ t : Turn, t.Lasts →
              ∃ report, (t.perform q.erased).outcome = .done report) ∧
            lastSignal q.backend.history = q.backend.backend.fence.last.toNat ∧
            ∀ e earlier, e :: earlier <:+ q.backend.history → e.Granted earlier := by
  rcases start_cases hconfig scale schedule hsize fillShader fillEntryPoint palette device with
    hlong | ⟨controller, c₀, p, hc, hc₀, hp, hrested⟩
  · exact .inl hlong
  refine .inr ⟨controller, c₀, p, hc, hc₀, start_erased hp, hp, fun turns hturns hfew => ?_⟩
  rw [← Nat.zero_add turns.length] at hfew ⊢
  have hq := hrested.afterTurns hturns hfew
  refine ⟨afterTurns_erased p turns, fun hnext t ht => ?_, hq.inStep.last_eq, hq.inStep.granted⟩
  obtain ⟨report, hreport, -⟩ := hq.turn hnext ht
  exact ⟨report, by rw [t.perform_mirrors]; exact hreport⟩

theorem eager_validate : eager.validate = .ok () := by
  rw [Config.validate_eq_ok_iff]
  constructor <;> decide +kernel

-- The clock stands still between the last two frames.
theorem every_frame_presented_stalling :
    eager.validate = .ok () ∧ (⟨1000, 500⟩ : Extent).Dispatchable ∧
      ∃ controller c₀, ∃ p : Presenter (Recorded Offscreen),
        Controller.withScale eager (.ofNat 1) = .done controller ∧
        (start controller ⟨c₀, []⟩).outcome = .done p ∧
        ∃ report, (Turn.perform (.run .greatest)
          (p.afterTurns [.present (.ofNanos 20000), .run .greatest]).erased).outcome =
            .done report := by
  have hsize : (⟨1000, 500⟩ : Extent).Dispatchable := ⟨by decide, by decide⟩
  rcases every_frame_presented eager (.ofNat 1) eager_validate .deferred hsize ⟨0, none⟩ "main"
    fractalTilesPalette {} with ⟨-, hlong⟩ | ⟨controller, c₀, p, hc, -, -, hp, hrun⟩
  · exact absurd hlong (by decide)
  · refine ⟨eager_validate, hsize, controller, c₀, p, hc, hp, ?_⟩
    have hlasts : ∀ t ∈ [Turn.present (.ofNanos 20000), .run .greatest], t.Lasts := by
      simp [Turn.Lasts, Duration.ofNanos, UInt64.size]
    exact (hrun _ hlasts (by decide)).2.1 (by decide) (.run .greatest) trivial

end SwapChain

end AdaptiveResolution
