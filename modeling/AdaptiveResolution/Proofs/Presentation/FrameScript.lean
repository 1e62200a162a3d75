import AdaptiveResolution.Proofs.Presentation.CallSequences
import AdaptiveResolution.Proofs.Presentation.RenderTarget

namespace AdaptiveResolution.Presentation

open Pacing (Controller Decision)

variable {β ε α γ : Type}

namespace Presenter

variable [Backend β ε]

/-- On its backend the action makes these calls and fails if and as one of them fails, unless it
stops after some of them at a counter that is full. -/
inductive Makes (x : Action (Presenter β) (PresentError ε) α) (p : Presenter β)
    (calls : List Call) : Prop
  | through
    (outcome_eq : (x p).outcome.bind (fun _ => .done ()) =
      (Call.performAll calls p.backend).outcome.mapError .backend)
    (backend_eq : (x p).state.backend = (Call.performAll calls p.backend).state)
  | overrun (first : List Call) (hfirst : first <+: calls)
    (hdone : (Call.performAll first p.backend : Reply β ε Unit).outcome = .done ())
    (outcome_eq : (x p).outcome = .trapped .additionOverflow)
    (backend_eq : (x p).state.backend = (Call.performAll first p.backend).state)

namespace Makes

variable {p : Presenter β} {calls more : List Call}
  {x : Action (Presenter β) (PresentError ε) α}
  {f : α → Action (Presenter β) (PresentError ε) γ}

theorem done (h : Makes x p calls) {a : α} (ha : (x p).outcome = .done a) :
    (Call.performAll calls p.backend).outcome = .done () ∧
      (x p).state.backend = (Call.performAll calls p.backend).state := by
  cases h with
  | through houtcome hbackend =>
    rw [ha] at houtcome
    cases hcalls : (Call.performAll calls p.backend).outcome with
    | done => exact ⟨rfl, hbackend⟩
    | failed e => rw [hcalls] at houtcome; contradiction
    | trapped t => rw [hcalls] at houtcome; contradiction
  | overrun _ _ _ houtcome => cases ha.symm.trans houtcome

theorem pure (a : α) (p : Presenter β) :
    Makes (Pure.pure a : Action (Presenter β) (PresentError ε) α) p [] := .through rfl rfl

theorem note (level : Journal.Level) (origin : Journal.Origin) (text : String) (p : Presenter β) :
    Makes (Action.note level origin text : Action (Presenter β) (PresentError ε) Unit) p [] :=
  .through rfl rfl

theorem state (p : Presenter β) :
    Makes (Action.state : Action (Presenter β) (PresentError ε) (Presenter β)) p [] :=
  .through rfl rfl

theorem inspect (f : Presenter β → α) (p : Presenter β) :
    Makes (Action.inspect f : Action (Presenter β) (PresentError ε) α) p [] := .through rfl rfl

theorem update {f : Presenter β → Presenter β} (h : (f p).backend = p.backend) :
    Makes (Action.update f : Action (Presenter β) (PresentError ε) Unit) p [] := .through rfl h

theorem onBackend {x : Action β ε α} (call : Call)
    (h : call.perform = (do let _ ← x; return ())) (p : Presenter β) :
    Makes (onBackend x) p [call] := by
  have hcall : (Call.performAll [call] p.backend : Reply β ε Unit) =
      (x >>= fun _ => Pure.pure ()) p.backend := by
    rw [Call.performAll_singleton, h]
  rw [Action.bind_apply] at hcall
  unfold Presenter.onBackend Action.within
  apply through
  · rw [hcall]
    rcases x p.backend with ⟨_ | _ | _, b, journal⟩ <;> rfl
  · rw [hcall]
    rcases x p.backend with ⟨_ | _ | _, b, journal⟩ <;> rfl

theorem count {counter : Presenter β → UInt64} {set : UInt64 → Presenter β → Presenter β}
    (p : Presenter β) (h : (set (counter p + 1) p).backend = p.backend) :
    Makes (count counter set : Action (Presenter β) (PresentError ε) Unit) p [] := by
  by_cases hfull : Full (counter p)
  · have hcount : Presenter.count (ε := ε) counter set p = ⟨.trapped .additionOverflow, p, []⟩ := by
      unfold Presenter.count
      simp only [Checked.add64_one, Action.bind_apply, Action.state, if_pos hfull]
      rfl
    exact .overrun [] List.prefix_rfl rfl (by rw [hcount]) (by rw [hcount]; rfl)
  · have hcount : Presenter.count (ε := ε) counter set p =
        ⟨.done (), set (counter p + 1) p, []⟩ := by
      unfold Presenter.count
      simp only [Checked.add64_one, Action.bind_apply, Action.state, if_neg hfull]
      rfl
    exact .through (by rw [hcount]; rfl) (by rw [hcount, h]; rfl)

theorem bind (hx : Makes x p calls)
    (hf : ∀ a, (x p).outcome = .done a → Makes (f a) (x p).state more) :
    Makes (x >>= f) p (calls ++ more) := by
  by_cases hdone : ∃ a, (x p).outcome = .done a
  · obtain ⟨a, ha⟩ := hdone
    obtain ⟨hcalls, hbackend⟩ := hx.done ha
    have hstate : ((x >>= f) p).state = (f a (x p).state).state := Action.bind_state_of_done ha
    have hmore (next : List Call) :
        (Call.performAll (calls ++ next) p.backend : Reply β ε Unit).state =
          (Call.performAll next (x p).state.backend).state := by
      rw [Call.performAll_append, Action.bind_state_of_done hcalls, hbackend]
    cases hf a ha with
    | through houtcome' hbackend' =>
      refine .through ?_ (by rw [hstate, hbackend', hmore])
      rw [Call.performAll_append, Action.bind_outcome, Action.bind_outcome, ha, hcalls, ← hbackend]
      exact houtcome'
    | overrun first hfirst hdone' houtcome' hbackend' =>
      refine .overrun (calls ++ first) ((List.prefix_append_right_inj _).mpr hfirst) ?_ ?_
        (by rw [hstate, hbackend', hmore])
      · rw [Call.performAll_append, Action.bind_outcome, hcalls, ← hbackend]
        exact hdone'
      · rw [Action.bind_outcome, ha]
        exact houtcome'
  · have hnone (a : α) : (x p).outcome ≠ .done a := fun ha => hdone ⟨a, ha⟩
    have hstate : ((x >>= f) p).state = (x p).state := Action.bind_state_of_not_done hnone
    cases hx with
    | through houtcome hbackend =>
      cases hfirst : (Call.performAll calls p.backend : Reply β ε Unit).outcome <;>
        cases ho : (x p).outcome <;> rw [ho, hfirst] at houtcome <;> cases houtcome
      · exact absurd ho (hnone _)
      all_goals
        have hstop : (Call.performAll (calls ++ more) p.backend : Reply β ε Unit).state =
            (Call.performAll calls p.backend).state := by
          rw [Call.performAll_append]
          exact Action.bind_state_of_not_done (by simp [hfirst])
        refine .through ?_ (by rw [hstate, hbackend, hstop])
        rw [Call.performAll_append, Action.bind_outcome, Action.bind_outcome, ho, hfirst]
        rfl
    | overrun first hfirst hdone' houtcome hbackend =>
      refine .overrun first (hfirst.trans (List.prefix_append _ _)) hdone' ?_
        (hstate ▸ hbackend)
      rw [Action.bind_outcome, houtcome]
      rfl

theorem silent_bind (hx : Makes x p [])
    (hf : ∀ a, (x p).outcome = .done a → Makes (f a) (x p).state calls) :
    Makes (x >>= f) p calls :=
  hx.bind hf

theorem bind_silent (hx : Makes x p calls) (hf : ∀ a, Makes (f a) (x p).state []) :
    Makes (x >>= f) p calls := by
  simpa using hx.bind fun a _ => hf a

theorem history {p : Presenter (Recorded β)} {calls : List Call}
    {x : Action (Presenter (Recorded β)) (PresentError ε) α} (h : Makes x p calls) :
    ∃ made : List Event, (x p).state.backend.history = made ++ p.backend.history ∧
      (made.map Event.call).reverse <+: calls ∧
      (((∃ a, (x p).outcome = .done a) ∨ ∃ m ∈ made, m.Refused) →
        (x p).outcome.bind (fun _ => .done ()) =
            (Call.performAll calls p.backend).outcome.mapError .backend ∧
          (x p).state.backend = (Call.performAll calls p.backend).state) ∧
      ((∃ a, (x p).outcome = .done a) → (made.map Event.call).reverse = calls) ∧
      ((∀ a, (x p).outcome ≠ .done a) → (∀ m ∈ made, ¬m.Refused) →
        (x p).outcome = .trapped .additionOverflow) := by
  cases h with
  | through houtcome hbackend =>
    obtain ⟨made, hhistory, hfirst, hall, hanswered⟩ := Call.performAll_history calls p.backend
    refine ⟨made, by rw [hbackend, hhistory], hfirst, fun _ => ⟨houtcome, hbackend⟩, ?_, ?_⟩
    · rintro ⟨a, ha⟩
      exact hall ((through houtcome hbackend).done ha).1
    · intro hnone hmade
      rw [hanswered.mpr hmade] at houtcome
      cases ho : (x p).outcome with
      | done a => exact absurd ho (hnone a)
      | failed e => rw [ho] at houtcome; contradiction
      | trapped t => rw [ho] at houtcome; contradiction
  | overrun first hfirst hdone houtcome hbackend =>
    obtain ⟨made, hhistory, hmade, -, hanswered⟩ := Call.performAll_history first p.backend
    have hnone (a : α) : (x p).outcome ≠ .done a := by simp [houtcome]
    refine ⟨made, by rw [hbackend, hhistory], hmade.trans hfirst, ?_, ?_, fun _ _ => houtcome⟩
    · rintro (⟨a, ha⟩ | ⟨m, hm, hrefused⟩)
      · exact absurd ha (hnone a)
      · exact absurd hrefused (hanswered.mp hdone m hm)
    · rintro ⟨a, ha⟩
      exact absurd ha (hnone a)

end Makes

def resizeCalls (size : Option Extent) : List Call := size.toList.map .resize

def waitCalls (fence : Nat) (b : β) : List Call :=
  if Backend.completed b < fence then [.wait fence] else []

theorem applyPendingResize_makes (p : Presenter β) :
    Makes applyPendingResize p (resizeCalls p.pendingResize) := by
  refine .silent_bind (.state p) ?_
  rintro _ ⟨⟩
  change Makes _ p _
  cases hpending : p.pendingResize with
  | none => exact .pure _ p
  | some size =>
    refine .silent_bind (.note _ _ _ p) fun _ _ => ?_
    refine .bind_silent (.onBackend (.resize size) bind_pure_unit.symm p) fun _ => ?_
    refine .silent_bind (.update rfl) fun _ _ => ?_
    exact .silent_bind (.count _ rfl) fun _ _ => .pure _ _

theorem scheduleResize_makes (decision : Decision) (p : Presenter β) :
    Makes (scheduleResize decision) p [] := by
  apply Makes.update
  split <;> rfl

theorem await_makes (fence : Nat) (reason : String) (p : Presenter β) :
    Makes (await fence reason) p (waitCalls fence p.backend) := by
  refine .silent_bind (.state p) ?_
  rintro _ ⟨⟩
  change Makes _ p _
  unfold waitCalls
  split_ifs with hbusy
  · refine .silent_bind (.note _ _ _ p) fun _ _ => ?_
    exact .bind_silent (.onBackend (.wait fence) bind_pure_unit.symm p) fun _ => .count _ rfl
  · exact .pure _ p

theorem draw_makes (p : Presenter β) :
    Makes draw p [.render p.context, .copy p.backBuffer] := by
  refine .silent_bind (.update rfl) fun _ _ => ?_
  refine .silent_bind (.inspect _ _) ?_
  rintro _ ⟨⟩
  refine .bind (.onBackend (.render p.context) bind_pure_unit.symm _) fun _ _ => ?_
  exact .bind_silent (.onBackend (.copy p.backBuffer) bind_pure_unit.symm _) fun _ => .pure _ _

theorem submit_makes (p : Presenter β) : Makes submit p [.submit] := by
  refine .bind_silent (.onBackend .submit rfl p) fun _ => ?_
  exact .silent_bind (.update rfl) fun _ _ => .pure _ _

theorem presentBuffer_makes (index : BackBuffer) (p : Presenter β) :
    Makes (presentBuffer index) p [.present index] := by
  refine .bind_silent (.onBackend (.present index) bind_pure_unit.symm p) fun _ => ?_
  refine .silent_bind (.update rfl) fun _ _ => ?_
  exact .silent_bind (.count _ rfl) fun _ _ => .count _ rfl

def applied (p : Presenter β) : β := (Call.performAll (resizeCalls p.pendingResize) p.backend).state

def decidedSize (p : Presenter β) (decision : Decision) : Option Extent :=
  if decision.resizeNeeded then some ((Backend.outputSize p.applied).scaled decision.scale)
  else none

def closingCalls (p : Presenter β) (decision : Decision) (submitted : β) (fence : Nat) :
    List Call :=
  waitCalls (fence - 1) submitted ++ .present p.backBuffer :: resizeCalls (p.decidedSize decision)

def drawingCalls (p : Presenter β) (decision : Decision) : List Call :=
  let reuse := waitCalls (p.inFlight.get p.backBuffer) p.applied
  let free := (Call.performAll reuse p.applied).state
  let frame := context { p with backend := free, renderSize := p.wantedSize }
  let drawing := [.render frame, .copy p.backBuffer]
  let drawn := (Call.performAll drawing free).state
  let closing := match (Backend.submit drawn).outcome with
    | .done fence => p.closingCalls decision (Backend.submit drawn).state fence
    | _ => []
  reuse ++ (drawing ++ .submit :: closing)

def script (p : Presenter β) (decision : Decision) : List Call :=
  resizeCalls p.pendingResize ++ p.drawingCalls decision

end Presenter

end AdaptiveResolution.Presentation
