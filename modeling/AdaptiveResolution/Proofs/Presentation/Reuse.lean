import AdaptiveResolution.Proofs.Pacing.Window
import AdaptiveResolution.Proofs.Presentation.Recording
import AdaptiveResolution.Proofs.Presentation.Scripted

/-!
No back buffer is drawn to while the GPU may still read from it. The presenter remembers one fence
value a buffer, and the ones that it has forgotten were reached before.
-/

namespace AdaptiveResolution.Presentation

def Call.drawsTo : Call → Option BackBuffer
  | render frame => some frame.backBuffer
  | copy index => some index
  | _ => none

structure Submission where
  target : Option BackBuffer
  fence : Nat
  deriving DecidableEq

def target : List Event → Option BackBuffer
  | [] => none
  | e :: earlier => e.call.drawsTo.or (target earlier)

def submissions : List Event → List Submission
  | [] => []
  | e :: earlier =>
    match e.call, e.answer with
    | .submit, .signals fence => ⟨target earlier, fence⟩ :: submissions earlier
    | _, _ => submissions earlier

def unfinished (i : BackBuffer) (completed : Nat) (work : List Submission) : Nat :=
  work.countP fun s => s.target = some i ∧ completed < s.fence

def FewUnfinished (completed : Nat) (work : List Submission) : Prop :=
  (∀ i, unfinished i completed work ≤ 1) ∧ work.countP (fun s => completed < s.fence) ≤ 2

structure SafeCall (e : Event) (earlier : List Event) : Prop where
  drawn : ∀ i, e.call.drawsTo = some i →
    ∀ s ∈ submissions earlier, s.target = some i → s.fence ≤ e.completed
  few : FewUnfinished e.completed (submissions earlier)

theorem submissions_of_call {e : Event} (he : e.call ≠ .submit) (earlier : List Event) :
    submissions (e :: earlier) = submissions earlier := by
  rw [submissions]
  split
  · contradiction
  · rfl

theorem submissions_of_answer {e : Event} (he : ∀ fence, e.answer ≠ .signals fence)
    (earlier : List Event) : submissions (e :: earlier) = submissions earlier := by
  rw [submissions]
  split
  · rename_i fence _ hanswer
    exact absurd hanswer (he fence)
  · rfl

theorem unfinished_mono {i : BackBuffer} {completed completed' : Nat} (h : completed ≤ completed')
    (work : List Submission) : unfinished i completed' work ≤ unfinished i completed work := by
  apply List.countP_mono_left
  intro s _ hs
  simp only [decide_eq_true_eq] at hs ⊢
  exact ⟨hs.1, by omega⟩

theorem unfinished_eq_zero {i : BackBuffer} {completed : Nat} {work : List Submission}
    (h : ∀ s ∈ work, s.target = some i → s.fence ≤ completed) :
    unfinished i completed work = 0 := by
  apply List.countP_eq_zero.mpr
  intro s hs hlate
  simp only [decide_eq_true_eq] at hlate
  have := h s hs hlate.1
  omega

theorem countP_unfinished {completed : Nat} {work : List Submission}
    (h : ∀ s ∈ work, ∃ i, s.target = some i) :
    work.countP (fun s => completed < s.fence) =
      unfinished 0 completed work + unfinished 1 completed work := by
  induction work with
  | nil => rfl
  | cons s work ih =>
    obtain ⟨i, hi⟩ := h s (List.mem_cons_self ..)
    have ih := ih fun t ht => h t (List.mem_cons_of_mem _ ht)
    simp only [unfinished, List.countP_cons, hi] at ih ⊢
    rw [ih]
    match i with
    | 0 => simp; omega
    | 1 => simp; omega

/-- The fence values that are waited for are reached, and none that was reached is taken back. -/
structure HonestFences (β : Type) {ε : Type} [Backend β ε] : Prop where
  completed_mono : Backend.EveryCall β fun b b' => Backend.completed b ≤ Backend.completed b'
  wait_reaches : ∀ fence (b : β), (Backend.wait fence b).outcome = .done () →
    fence ≤ Backend.completed (Backend.wait fence b).state

section

variable {β ε α : Type} [Backend β ε]

theorem BackBuffer.flip_ne (i : BackBuffer) : i.flip ≠ i := by
  revert i
  decide

theorem BackBuffer.flip_flip (i : BackBuffer) : i.flip.flip = i := by
  revert i
  decide

theorem get_setIfInBounds (inFlight : Vector Nat 2) (i j : BackBuffer) (fence : Nat) :
    (inFlight.setIfInBounds i fence).get j = if i = j then fence else inFlight.get j := by
  have hget : (inFlight.setIfInBounds i fence)[j.val] =
      if i.val = j.val then fence else inFlight[j.val] := Vector.getElem_setIfInBounds j.isLt
  simp only [Fin.val_inj] at hget
  exact hget

structure Guarded (inFlight : Vector Nat 2) (r : Recorded β) : Prop where
  known : ∀ s ∈ submissions r.history, ∃ i, s.target = some i ∧
    (s.fence ≤ Backend.completed r.backend ∨ s.fence ≤ inFlight.get i)
  few : ∀ i, unfinished i (Backend.completed r.backend) (submissions r.history) ≤ 1
  safe : ∀ e earlier, e :: earlier <:+ r.history → SafeCall e earlier

theorem Guarded.fewUnfinished {inFlight : Vector Nat 2} {r : Recorded β}
    (h : Guarded inFlight r) :
    FewUnfinished (Backend.completed r.backend) (submissions r.history) := by
  refine ⟨h.few, ?_⟩
  rw [countP_unfinished fun s hs => (h.known s hs).imp fun _ hi => hi.1]
  have hfirst := h.few 0
  have hsecond := h.few 1
  omega

structure Free (inFlight : Vector Nat 2) (i : BackBuffer) (r : Recorded β) : Prop
    extends Guarded inFlight r where
  reached : ∀ s ∈ submissions r.history, s.target = some i →
    s.fence ≤ Backend.completed r.backend

theorem Guarded.free {inFlight : Vector Nat 2} {r : Recorded β} (h : Guarded inFlight r)
    {i : BackBuffer} (hi : inFlight.get i ≤ Backend.completed r.backend) : Free inFlight i r := by
  refine ⟨h, fun s hs htarget => ?_⟩
  obtain ⟨j, hj, hknown⟩ := h.known s hs
  cases htarget.symm.trans hj
  omega

theorem Guarded.extend {inFlight : Vector Nat 2} {r r' : Recorded β} (h : Guarded inFlight r)
    {e : Event} (hhistory : r'.history = e :: r.history)
    (hcompleted : e.completed = Backend.completed r.backend)
    (hmono : Backend.completed r.backend ≤ Backend.completed r'.backend)
    (hsubmissions : submissions (e :: r.history) = submissions r.history)
    (hfree : ∀ i, e.call.drawsTo = some i → ∀ s ∈ submissions r.history, s.target = some i →
      s.fence ≤ Backend.completed r.backend) : Guarded inFlight r' where
  known s hs := by
    rw [hhistory, hsubmissions] at hs
    obtain ⟨i, hi, hknown⟩ := h.known s hs
    exact ⟨i, hi, by omega⟩
  few i := by
    rw [hhistory, hsubmissions]
    exact Nat.le_trans (unfinished_mono hmono _) (h.few i)
  safe := by
    rw [hhistory]
    refine forall_suffix_cons_iff.mpr ⟨⟨?_, ?_⟩, h.safe⟩
    · rw [hcompleted]
      exact hfree
    · rw [hcompleted]
      exact h.fewUnfinished

theorem Guarded.perform_idle {inFlight : Vector Nat 2} {r : Recorded β} (h : Guarded inFlight r)
    {call : Call} (answer : α → Answer) {x : Action β ε α}
    (hmono : Backend.completed r.backend ≤ Backend.completed (x r.backend).state)
    (hcall : call ≠ .submit) (hidle : call.drawsTo = none) :
    Guarded inFlight (Recorded.perform call answer x r).state := by
  obtain ⟨e, he, hcompleted, hhistory⟩ := Recorded.perform_history call answer x r
  subst he
  apply h.extend hhistory hcompleted hmono (submissions_of_call hcall _)
  intro i hi
  rw [hidle] at hi
  contradiction

theorem Free.perform {inFlight : Vector Nat 2} {i : BackBuffer} {r : Recorded β}
    (h : Free inFlight i r) {call : Call} (answer : α → Answer) {x : Action β ε α}
    (hmono : Backend.completed r.backend ≤ Backend.completed (x r.backend).state)
    (hcall : call.drawsTo = some i) :
    Free inFlight i (Recorded.perform call answer x r).state ∧
      target (Recorded.perform call answer x r).state.history = some i := by
  obtain ⟨e, he, hcompleted, hhistory⟩ := Recorded.perform_history call answer x r
  subst he
  have hsubmit : e.call ≠ .submit := by
    intro hsubmit
    rw [hsubmit] at hcall
    contradiction
  have hsubmissions := submissions_of_call hsubmit r.history
  have hguarded := h.extend hhistory hcompleted hmono hsubmissions fun j hj => by
    cases hcall.symm.trans hj
    exact h.reached
  refine ⟨⟨hguarded, ?_⟩, ?_⟩
  · rw [hhistory, hsubmissions]
    exact fun s hs htarget => Nat.le_trans (h.reached s hs htarget) hmono
  · rw [hhistory, target, hcall]
    rfl

theorem Free.submitted {inFlight : Vector Nat 2} {i : BackBuffer} {r r' : Recorded β}
    (h : Free inFlight i r) (htarget : target r.history = some i) {fence : Nat}
    (hhistory : r'.history =
      ⟨.submit, Backend.completed r.backend, .signals fence⟩ :: r.history)
    (hmono : Backend.completed r.backend ≤ Backend.completed r'.backend) :
    Guarded (inFlight.setIfInBounds i fence) r' := by
  have hsubmissions : submissions r'.history = ⟨some i, fence⟩ :: submissions r.history := by
    rw [hhistory, submissions, htarget]
  constructor
  · intro s hs
    rw [hsubmissions, List.mem_cons] at hs
    rcases hs with hs | hs
    · exact ⟨i, by rw [hs], .inr (by rw [hs, get_setIfInBounds, if_pos rfl])⟩
    · -- The value that is displaced had been reached before the buffer was drawn to.
      obtain ⟨j, hj, hknown⟩ := h.known s hs
      refine ⟨j, hj, ?_⟩
      by_cases hij : i = j
      · subst hij
        have := h.reached s hs hj
        exact .inl (by omega)
      · rw [get_setIfInBounds, if_neg hij]
        omega
  · intro j
    rw [hsubmissions]
    have hold := Nat.le_trans (unfinished_mono hmono _) (h.few j)
    by_cases hij : i = j
    · subst hij
      have hzero := unfinished_eq_zero fun s hs ht => Nat.le_trans (h.reached s hs ht) hmono
      rw [unfinished] at hzero ⊢
      rw [List.countP_cons, hzero]
      split <;> omega
    · rw [unfinished, List.countP_cons]
      simp only [Option.some.injEq, hij, false_and, decide_false]
      exact hold
  · rw [hhistory]
    refine forall_suffix_cons_iff.mpr ⟨⟨?_, h.fewUnfinished⟩, h.safe⟩
    exact fun j hj => by simp [Call.drawsTo] at hj

end

namespace Presenter

open Pacing (Controller Decision)

variable {β ε : Type} [Backend β ε]

def Held (p : Presenter (Recorded β)) : Prop := Guarded p.inFlight p.backend

def Ready (p : Presenter (Recorded β)) : Prop := Free p.inFlight p.backBuffer p.backend

def Drawn (p : Presenter (Recorded β)) : Prop :=
  p.Ready ∧ target p.backend.history = some p.backBuffer

theorem wait_guarded (h : HonestFences β) {inFlight : Vector Nat 2} {r : Recorded β}
    (hr : Guarded inFlight r) (fence : Nat) :
    (Backend.wait fence).Ends r
      (fun _ r' => Guarded inFlight r' ∧ fence ≤ Backend.completed r') (Guarded inFlight) := by
  have hguarded : Guarded inFlight (Backend.wait fence r).state :=
    hr.perform_idle _ (h.completed_mono.wait fence r.backend) (by simp) rfl
  by_cases hdone : (Backend.wait fence r).outcome = .done ()
  · rw [Action.ends_of_done hdone]
    exact ⟨hguarded, h.wait_reaches fence r.backend hdone⟩
  · rw [Action.ends_of_not_done fun _ => hdone]
    exact hguarded

theorem await_held (h : HonestFences β) (fence : Nat) (reason : String) :
    (await fence reason).Keeps (Held (β := β)) := by
  apply Action.Keeps.of_ends
  intro p hp
  apply (ends_await _ _ _ _ _).mpr
  refine ⟨fun _ => ?_, fun _ => hp⟩
  exact (wait_guarded h hp fence).mono (fun _ _ hr => ⟨fun _ => hr.1, fun _ => hr.1⟩) fun _ hr => hr

theorem await_ready (h : HonestFences β) {p : Presenter (Recorded β)} (hp : p.Held)
    (reason : String) :
    (await (p.inFlight.get p.backBuffer) reason).Ends p (fun _ q => q.Ready) Held := by
  refine (ends_await _ _ _ _ _).mpr ⟨fun _ => ?_, fun hreached => ?_⟩
  · refine (wait_guarded h hp _).mono (fun _ r hr => ?_) fun _ hr => hr
    exact ⟨fun _ => hr.1.free hr.2, fun _ => hr.1⟩
  · exact hp.free (Nat.le_of_not_lt hreached)

theorem render_free (h : HonestFences β) {inFlight : Vector Nat 2} {r : Recorded β}
    (frame : FrameContext) (hr : Free inFlight frame.backBuffer r) :
    (Backend.render frame).Ends r (fun _ => Free inFlight frame.backBuffer) (Guarded inFlight) := by
  have hfree : Free inFlight frame.backBuffer (Backend.render frame r).state :=
    (hr.perform _ (h.completed_mono.render frame r.backend) rfl).1
  exact (Action.ends_of_state hfree).mono (fun _ _ hf => hf) fun _ hf => hf.toGuarded

theorem copy_free (h : HonestFences β) {inFlight : Vector Nat 2} {r : Recorded β}
    {i : BackBuffer} (hr : Free inFlight i r) :
    (Backend.copy i).Ends r (fun _ r' => Free inFlight i r' ∧ target r'.history = some i)
      (Guarded inFlight) := by
  have hcopied : Free inFlight i (Backend.copy i r).state ∧
      target (Backend.copy i r).state.history = some i :=
    hr.perform _ (h.completed_mono.copy i r.backend) rfl
  exact (Action.ends_of_state (P := fun r' => Free inFlight i r' ∧ target r'.history = some i)
    hcopied).mono (fun _ _ hf => hf) fun _ hf => hf.1.toGuarded

theorem submit_guarded (h : HonestFences β) {inFlight : Vector Nat 2} {r : Recorded β}
    {i : BackBuffer} (hr : Free inFlight i r) (htarget : target r.history = some i) :
    Backend.submit.Ends r (fun fence => Guarded (inFlight.setIfInBounds i fence))
      (Guarded inFlight) := by
  have hmono := h.completed_mono.submit r.backend
  by_cases hdone : ∃ fence, (Backend.submit r).outcome = .done fence
  · obtain ⟨fence, hfence⟩ := hdone
    rw [Action.ends_of_done hfence]
    exact hr.submitted htarget (Recorded.perform_done .signals hfence) hmono
  · have hnone : ∀ fence, (Backend.submit r).outcome ≠ .done fence :=
      fun fence hfence => hdone ⟨fence, hfence⟩
    obtain ⟨e, hcall, hcompleted, hanswer, hhistory⟩ :=
      Recorded.perform_not_done .submit .signals hnone
    rw [Action.ends_of_not_done hnone]
    apply hr.extend hhistory hcompleted hmono (submissions_of_answer hanswer _)
    intro j hj
    rw [hcall] at hj
    contradiction

theorem draw_drawn (h : HonestFences β) {p : Presenter (Recorded β)} (hp : p.Ready) :
    draw.Ends p (fun _ q => q.Drawn) Held := by
  apply (ends_draw _ _ _).mpr
  have hrender := render_free h (context { p with state := .rendering }) hp
  refine hrender.mono (fun _ r hr => ?_) fun _ hr => hr
  exact (copy_free h hr).mono (fun _ _ hcopied => hcopied) fun _ hr => hr

theorem submit_held (h : HonestFences β) {p : Presenter (Recorded β)} (hp : p.Drawn) :
    submit.Ends p (fun _ q => q.Held) Held :=
  (ends_submit _ _ _).mpr ((submit_guarded h hp.1 hp.2).mono (fun _ _ hr => hr) fun _ hr => hr)

theorem presentBuffer_held (h : HonestFences β) (index : BackBuffer) :
    (presentBuffer index).Keeps (Held (β := β)) := by
  apply Action.Keeps.of_ends
  intro p hp
  apply (ends_presentBuffer _ _ _ _).mpr
  have hguarded : Guarded p.inFlight (Backend.present index p.backend).state :=
    hp.perform_idle _ (h.completed_mono.present index p.backend.backend) (by simp) rfl
  refine (Action.ends_of_state hguarded).mono (fun _ _ hr => ?_) fun _ hr => hr
  exact ⟨fun _ => ⟨fun _ => hr, fun _ => hr⟩, fun _ => hr⟩

theorem applyPendingResize_held (h : HonestFences β) :
    applyPendingResize.Keeps (Held (β := β)) := by
  apply Action.Keeps.of_ends
  intro p hp
  cases hpending : p.pendingResize with
  | none => exact (ends_applyPendingResize_none hpending _ _).mpr hp
  | some size =>
    apply (ends_applyPendingResize_some hpending _ _).mpr
    have hguarded : Guarded p.inFlight (Backend.resize size p.backend).state :=
      hp.perform_idle _ (h.completed_mono.resize size p.backend.backend) (by simp) rfl
    exact (Action.ends_of_state hguarded).mono (fun _ _ hr => ⟨fun _ => hr, fun _ => hr⟩) fun _ hr =>
      hr

theorem scheduleResize_held (decision : Decision) :
    (scheduleResize decision).Keeps (Held (β := β)) := by
  apply Action.Keeps.of_ends
  intro p hp
  apply (ends_scheduleResize _ _ _ _).mpr
  split
  · exact hp
  · exact hp

theorem drawAndPresent_held (h : HonestFences β) (decision : Decision) :
    (drawAndPresent decision).Keeps (Held (β := β)) := by
  apply Action.Keeps.of_ends
  intro p hp
  unfold drawAndPresent
  rw [Action.ends_bind, Action.ends_state, Action.ends_bind]
  refine (await_ready h hp _).mono (fun _ q hready => ?_) fun _ hq => hq
  rw [Action.ends_bind]
  refine (draw_drawn h hready).mono (fun frame q hdrawn => ?_) fun _ hq => hq
  rw [Action.ends_bind]
  refine (submit_held h hdrawn).mono (fun fence q hq => ?_) fun _ hq => hq
  apply Action.Keeps.ends _ hq
  refine .bind (await_held h _ _) fun _ => ?_
  refine .bind (presentBuffer_held h _) fun _ => ?_
  refine .bind (applyPendingResize_held h) fun resized => ?_
  refine .bind (.update fun q hq => hq) fun _ => ?_
  exact .pure _

theorem presentFrame_held (h : HonestFences β) (elapsed : Duration) :
    (presentFrame elapsed).Keeps (Held (β := β)) := by
  rw [presentFrame_eq]
  refine .bind (.of_ends fun p hp => ?_) fun decision => ?_
  · exact (ends_pace _ _ _ _).mpr (Action.ends_of_forall (fun _ _ => hp) fun _ => hp)
  · refine .bind (applyPendingResize_held h) fun _ => ?_
    exact .bind (scheduleResize_held decision) fun _ => drawAndPresent_held h decision

theorem after_held (h : HonestFences β) {p : Presenter (Recorded β)} (hp : p.Held)
    (elapsed : List Duration) : (p.after elapsed).Held :=
  after_induction (fun q d hq => presentFrame_held h d q hq) hp elapsed

theorem start_held (h : HonestFences β) {controller : Controller} {b : β}
    {p : Presenter (Recorded β)} (hstart : (start controller ⟨b, []⟩).outcome = .done p) :
    p.Held := by
  have hnew : Guarded #v[0, 0] (⟨b, []⟩ : Recorded β) := by
    constructor
    · simp [submissions]
    · simp [submissions, unfinished]
    · simp
  obtain ⟨-, rfl⟩ := start_done_iff.mp hstart
  exact hnew.perform_idle _ (h.completed_mono.resize _ b) (by simp) rfl

/-- Whatever fails, nothing is drawn to a buffer before all that was submitted for it is known to
be reached, and at no moment are more than two submissions unfinished, one for each buffer. -/
theorem back_buffer_reuse_safe (h : HonestFences β) {controller : Controller} {b : β}
    {p : Presenter (Recorded β)} (hstart : (start controller ⟨b, []⟩).outcome = .done p)
    (elapsed : List Duration) :
    ((start controller b).outcome = .done p.erased ∧
        (p.after elapsed).erased = p.erased.after elapsed) ∧
      let r := (p.after elapsed).backend
      (∀ s ∈ submissions r.history, ∃ i, s.target = some i) ∧
        (∀ e earlier, e :: earlier <:+ r.history → SafeCall e earlier) ∧
        FewUnfinished (Backend.completed r) (submissions r.history) := by
  have hheld := after_held h (start_held h hstart) elapsed
  refine ⟨⟨start_erased hstart, after_erased p elapsed⟩, ?_⟩
  exact ⟨fun s hs => (hheld.known s hs).imp fun _ hi => hi.1, hheld.safe, hheld.fewUnfinished⟩

def faltering : Scripted where
  output := ⟨1000, 500⟩
  script := [true, true, true, true, false]

theorem back_buffer_reuse_safe_faltering :
    HonestFences Scripted ∧ ∃ p : Presenter (Recorded Scripted),
      (start (Controller.fresh {} (.ofNat 1)) ⟨faltering, []⟩).outcome = .done p ∧
      let r := (p.after [.ofNanos 100, .ofNanos 100, .ofNanos 100]).backend
      (submissions r.history).map Submission.target = [some 1, some 0, some 0] ∧
        (∀ e earlier, e :: earlier <:+ r.history → SafeCall e earlier) ∧
        FewUnfinished (Backend.completed r) (submissions r.history) := by
  have honest : HonestFences Scripted := ⟨Scripted.completed_mono, Scripted.wait_reaches⟩
  refine ⟨honest, _, rfl, by decide +kernel, ?_⟩
  have hstart : (start (Controller.fresh {} (.ofNat 1))
      (⟨faltering, []⟩ : Recorded Scripted)).outcome = .done _ := rfl
  exact (back_buffer_reuse_safe honest hstart [.ofNanos 100, .ofNanos 100, .ofNanos 100]).2.2

end Presenter

end AdaptiveResolution.Presentation
