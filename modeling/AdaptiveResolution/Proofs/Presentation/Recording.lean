import AdaptiveResolution.Presentation.Recorded
import AdaptiveResolution.Proofs.Presentation.Frames

namespace AdaptiveResolution.Presentation

open Pacing (Controller Decision)

variable {β ε ε' α γ : Type}

theorem forall_suffix_cons_iff {P : α → List α → Prop} {e : α} {history : List α} :
    (∀ d earlier, d :: earlier <:+ e :: history → P d earlier) ↔
      P e history ∧ ∀ d earlier, d :: earlier <:+ history → P d earlier := by
  constructor
  · intro h
    refine ⟨h e history List.suffix_rfl, fun d earlier hd => ?_⟩
    exact h d earlier (hd.trans (List.suffix_cons e history))
  · rintro ⟨he, h⟩ d earlier hd
    rcases List.suffix_cons_iff.mp hd with hd | hd
    · cases hd
      exact he
    · exact h d earlier hd

theorem forall_suffix_append_iff {P : α → List α → Prop} {since history : List α} :
    (∀ e earlier, e :: earlier <:+ since ++ history → P e earlier) ↔
      (∀ e earlier, e :: earlier <:+ since → P e (earlier ++ history)) ∧
        ∀ e earlier, e :: earlier <:+ history → P e earlier := by
  induction since with
  | nil => simp
  | cons e since ih =>
    rw [List.cons_append, forall_suffix_cons_iff, ih, forall_suffix_cons_iff, and_assoc]

def Presenter.erased (p : Presenter (Recorded β)) : Presenter β :=
  { p with backend := p.backend.backend }

namespace Recorded

variable [Backend β ε]

theorem perform_history (call : Call) (answer : α → Answer) (x : Action β ε α)
    (r : Recorded β) : ∃ e : Event, e.call = call ∧ e.completed = Backend.completed r.backend ∧
      (perform call answer x r).state.history = e :: r.history :=
  ⟨_, rfl, rfl, rfl⟩

theorem perform_done {call : Call} (answer : α → Answer) {x : Action β ε α}
    {r : Recorded β} {a : α} (ha : (x r.backend).outcome = .done a) :
    (perform call answer x r).state.history =
      ⟨call, Backend.completed r.backend, answer a⟩ :: r.history := by
  simp only [Recorded.perform, ha]

theorem perform_not_done (call : Call) (answer : α → Answer) {x : Action β ε α}
    {r : Recorded β} (hx : ∀ a, (x r.backend).outcome ≠ .done a) :
    ∃ e : Event, e.call = call ∧ e.completed = Backend.completed r.backend ∧
      (∀ fence, e.answer ≠ .signals fence) ∧
      (perform call answer x r).state.history = e :: r.history := by
  refine ⟨_, rfl, rfl, ?_, rfl⟩
  intro fence
  cases ho : (x r.backend).outcome with
  | done a => exact absurd ho (hx a)
  | failed error => simp
  | trapped trap => simp

end Recorded

/-- The first action does on a recorded backend what the second does on the backend. -/
def Mirrors (x : Action (Presenter (Recorded β)) ε α) (y : Action (Presenter β) ε α) : Prop :=
  ∀ p, y p.erased = ⟨(x p).outcome, (x p).state.erased, (x p).journal⟩

namespace Mirrors

theorem pure (a : α) :
    Mirrors (Pure.pure a : Action (Presenter (Recorded β)) ε α) (Pure.pure a) := fun _ => rfl

theorem bind {x : Action (Presenter (Recorded β)) ε α} {y : Action (Presenter β) ε α}
    {f : α → Action (Presenter (Recorded β)) ε γ} {g : α → Action (Presenter β) ε γ}
    (h : Mirrors x y) (hfg : ∀ a, Mirrors (f a) (g a)) : Mirrors (x >>= f) (y >>= g) := by
  intro p
  simp only [Action.bind_apply, h p]
  rcases x p with ⟨a | e | t, q, journal⟩
  · simp only [hfg a q]
  · rfl
  · rfl

theorem state_bind {f : Presenter (Recorded β) → Action (Presenter (Recorded β)) ε α}
    {g : Presenter β → Action (Presenter β) ε α} (h : ∀ p, Mirrors (f p) (g p.erased)) :
    Mirrors (Action.state >>= f) (Action.state >>= g) := by
  intro p
  simp only [Action.bind_apply, Action.state, h p p]

theorem update {f : Presenter (Recorded β) → Presenter (Recorded β)}
    {g : Presenter β → Presenter β} (h : ∀ p, (f p).erased = g p.erased) :
    Mirrors (Action.update f : Action _ ε Unit) (Action.update g) := by
  intro p
  simp only [Action.update, h p]

theorem inspect {f : Presenter (Recorded β) → α} {g : Presenter β → α}
    (h : ∀ p, f p = g p.erased) :
    Mirrors (Action.inspect f : Action _ ε α) (Action.inspect g) := by
  intro p
  simp only [Action.inspect, h p]

theorem note (level : Journal.Level) (origin : Journal.Origin) (text : String) :
    Mirrors (Action.note level origin text : Action (Presenter (Recorded β)) ε Unit)
      (Action.note level origin text) := fun _ => rfl

theorem ite {c : Prop} [Decidable c] {x x' : Action (Presenter (Recorded β)) ε α}
    {y y' : Action (Presenter β) ε α} (h : Mirrors x y) (h' : Mirrors x' y') :
    Mirrors (if c then x else x') (if c then y else y') := by
  split
  · exact h
  · exact h'

theorem onController (x : Action Controller Pacing.Error α) :
    Mirrors (Presenter.onController x : Action (Presenter (Recorded β)) (PresentError ε) α)
      (Presenter.onController x) := fun _ => rfl

theorem count {counter : Presenter (Recorded β) → UInt64} {counter' : Presenter β → UInt64}
    {set : UInt64 → Presenter (Recorded β) → Presenter (Recorded β)}
    {set' : UInt64 → Presenter β → Presenter β} (hcounter : ∀ p, counter p = counter' p.erased)
    (hset : ∀ n p, (set n p).erased = set' n p.erased) :
    Mirrors (Presenter.count counter set : Action _ (PresentError ε) Unit)
      (Presenter.count counter' set') := by
  refine .state_bind fun p => ?_
  rw [hcounter]
  exact .bind (fun _ => rfl) fun n => .update (hset n)

variable [Backend β ε]

theorem onBackend (call : Call) (answer : α → Answer) (x : Action β ε α) :
    Mirrors (Presenter.onBackend (Recorded.perform call answer x)) (Presenter.onBackend x) :=
  fun _ => rfl

end Mirrors

namespace Presenter

theorem pace_mirrors (elapsed : Duration) :
    Mirrors (pace elapsed : Action (Presenter (Recorded β)) (PresentError ε) Decision)
      (pace elapsed) :=
  .bind (.onController _) fun _ => .bind (.update fun _ => rfl) fun _ => .pure _

variable [Backend β ε]

theorem applyPendingResize_mirrors :
    Mirrors (β := β) applyPendingResize applyPendingResize := by
  apply Mirrors.state_bind
  intro p
  cases hpending : p.pendingResize with
  | none =>
    have herased : p.erased.pendingResize = none := hpending
    simp only [herased]
    exact .pure _
  | some size =>
    have herased : p.erased.pendingResize = some size := hpending
    simp only [herased]
    refine .bind (.note _ _ _) fun _ => .bind (.onBackend _ _ _) fun _ => ?_
    refine .bind (.update fun _ => rfl) fun _ => ?_
    exact .bind (.count (fun _ => rfl) fun _ _ => rfl) fun _ => .pure _

theorem scheduleResize_mirrors (decision : Decision) :
    Mirrors (β := β) (scheduleResize decision) (scheduleResize decision) := by
  apply Mirrors.update
  intro p
  split
  · rfl
  · rfl

theorem await_mirrors (fence : Nat) (reason : String) :
    Mirrors (β := β) (await fence reason) (await fence reason) := by
  refine .state_bind fun p => .ite ?_ (.pure _)
  refine .bind (.note _ _ _) fun _ => .bind (.onBackend _ _ _) fun _ => ?_
  exact .count (fun _ => rfl) fun _ _ => rfl

theorem draw_mirrors : Mirrors (β := β) draw draw := by
  refine .bind (.update fun _ => rfl) fun _ => .bind (.inspect fun _ => rfl) fun frame => ?_
  exact .bind (.onBackend _ _ _) fun _ => .bind (.onBackend _ _ _) fun _ => .pure _

theorem submit_mirrors : Mirrors (β := β) submit submit :=
  .bind (.onBackend _ _ _) fun _ => .bind (.update fun _ => rfl) fun _ => .pure _

theorem presentBuffer_mirrors (index : BackBuffer) :
    Mirrors (β := β) (presentBuffer index) (presentBuffer index) := by
  refine .bind (.onBackend _ _ _) fun _ => .bind (.update fun _ => rfl) fun _ => ?_
  exact .bind (.count (fun _ => rfl) fun _ _ => rfl) fun _ => .count (fun _ => rfl) fun _ _ => rfl

theorem drawAndPresent_mirrors (decision : Decision) :
    Mirrors (β := β) (drawAndPresent decision) (drawAndPresent decision) := by
  apply Mirrors.state_bind
  intro p
  apply Mirrors.bind (await_mirrors _ _)
  intro _
  apply Mirrors.bind draw_mirrors
  intro frame
  apply Mirrors.bind submit_mirrors
  intro fence
  apply Mirrors.bind (await_mirrors _ _)
  intro _
  apply Mirrors.bind (presentBuffer_mirrors _)
  intro _
  apply Mirrors.bind applyPendingResize_mirrors
  intro resized
  exact .bind (.update fun _ => rfl) fun _ => .pure _

theorem presentFrame_mirrors (elapsed : Duration) :
    Mirrors (β := β) (presentFrame elapsed) (presentFrame elapsed) := by
  rw [presentFrame_eq, presentFrame_eq]
  apply Mirrors.bind (pace_mirrors elapsed)
  intro decision
  apply Mirrors.bind applyPendingResize_mirrors
  intro _
  exact .bind (scheduleResize_mirrors decision) fun _ => drawAndPresent_mirrors decision

theorem after_erased (p : Presenter (Recorded β)) (elapsed : List Duration) :
    (p.after elapsed).erased = p.erased.after elapsed := by
  induction elapsed generalizing p with
  | nil => rfl
  | cons d elapsed ih =>
    have hframe : (presentFrame d p.erased).state = (presentFrame d p).state.erased := by
      rw [presentFrame_mirrors d p]
    change ((presentFrame d p).state.after elapsed).erased =
      (presentFrame d p.erased).state.after elapsed
    rw [ih, hframe]

theorem start_erased {controller : Controller} {b : β} {p : Presenter (Recorded β)}
    (hstart : (start controller ⟨b, []⟩).outcome = .done p) :
    (start controller b).outcome = .done p.erased := by
  obtain ⟨hresized, hp⟩ := start_done_iff.mp hstart
  exact start_done_iff.mpr ⟨hresized, by rw [hp]; rfl⟩

end Presenter

end AdaptiveResolution.Presentation
