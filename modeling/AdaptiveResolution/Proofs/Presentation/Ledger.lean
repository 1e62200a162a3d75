import AdaptiveResolution.Proofs.Presentation.Recording

namespace AdaptiveResolution.Presentation

namespace Event

def presented (e : Event) : Option BackBuffer :=
  match e.call, e.answer with
  | .present index, .done => some index
  | _, _ => none

def waited (e : Event) : Option Nat :=
  match e.call, e.answer with
  | .wait fence, .done => some fence
  | _, _ => none

def resized (e : Event) : Option Extent :=
  match e.call, e.answer with
  | .resize size, .done => some size
  | _, _ => none

def Refused (e : Event) : Prop := e.answer = .failed ∨ e.answer = .trapped

end Event

structure Ledger where
  backBuffer : BackBuffer
  inFlight : Vector Nat 2
  renderSize : Extent
  frameIndex : Nat
  framesPresented : Nat
  resizes : Nat
  fenceWaits : Nat

structure Ledger.Fits (l : Ledger) : Prop where
  frameIndex_lt : l.frameIndex < UInt64.size
  framesPresented_lt : l.framesPresented < UInt64.size
  resizes_lt : l.resizes < UInt64.size
  fenceWaits_lt : l.fenceWaits < UInt64.size

def Presenter.ledger {β : Type} (p : Presenter β) : Ledger where
  backBuffer := p.backBuffer
  inFlight := p.inFlight
  renderSize := p.renderSize
  frameIndex := p.frameIndex.toNat
  framesPresented := p.stats.framesPresented.toNat
  resizes := p.stats.resizes.toNat
  fenceWaits := p.stats.fenceWaits.toNat

theorem Presenter.ledger_fits {β : Type} (p : Presenter β) : p.ledger.Fits where
  frameIndex_lt := p.frameIndex.toNat_lt_size
  framesPresented_lt := p.stats.framesPresented.toNat_lt_size
  resizes_lt := p.stats.resizes.toNat_lt_size
  fenceWaits_lt := p.stats.fenceWaits.toNat_lt_size

def Event.post (e : Event) (l : Ledger) : Ledger :=
  match e.call, e.answer with
  | .resize size, .done => { l with renderSize := size, resizes := l.resizes + 1 }
  | .submit, .signals fence => { l with inFlight := l.inFlight.setIfInBounds l.backBuffer fence }
  | .wait _, .done => { l with fenceWaits := l.fenceWaits + 1 }
  | .present index, .done =>
    { l with
      backBuffer := index.flip
      frameIndex := l.frameIndex + 1
      framesPresented := l.framesPresented + 1 }
  | _, _ => l

namespace Presenter

variable {β : Type} {p : Presenter β} (backend : β) (completed : Nat)

theorem ledger_waited (fence : Nat) (h : ¬Full p.stats.fenceWaits) :
    { p with
      backend
      stats := { p.stats with fenceWaits := p.stats.fenceWaits + 1 } }.ledger =
      Event.post ⟨.wait fence, completed, .done⟩ p.ledger := by
  simp only [ledger, toNat_succ h, Event.post]

theorem ledger_resized (size : Extent) (h : ¬Full p.stats.resizes) :
    { p with
      backend
      renderSize := size
      pendingResize := none
      stats := { p.stats with resizes := p.stats.resizes + 1 } }.ledger =
      Event.post ⟨.resize size, completed, .done⟩ p.ledger := by
  simp only [ledger, toNat_succ h, Event.post]

theorem ledger_presented (index : BackBuffer) (hindex : ¬Full p.frameIndex)
    (hpresented : ¬Full p.stats.framesPresented) :
    { p with
      backend
      state := .presented
      backBuffer := index.flip
      frameIndex := p.frameIndex + 1
      stats := { p.stats with framesPresented := p.stats.framesPresented + 1 } }.ledger =
      Event.post ⟨.present index, completed, .done⟩ p.ledger := by
  simp only [ledger, toNat_succ hindex, toNat_succ hpresented, Event.post]

theorem overrun_waited (fence : Nat) (h : Full p.stats.fenceWaits) :
    ¬(Event.post ⟨.wait fence, completed, .done⟩ p.ledger).Fits :=
  fun hfits => h.not_lt hfits.fenceWaits_lt

theorem overrun_resized (size : Extent) (h : Full p.stats.resizes) :
    ¬(Event.post ⟨.resize size, completed, .done⟩ p.ledger).Fits :=
  fun hfits => h.not_lt hfits.resizes_lt

theorem overrun_presented (index : BackBuffer)
    (h : Full p.frameIndex ∨ Full p.stats.framesPresented) :
    ¬(Event.post ⟨.present index, completed, .done⟩ p.ledger).Fits :=
  fun hfits => h.elim (fun hindex => hindex.not_lt hfits.frameIndex_lt)
    fun hpresented => hpresented.not_lt hfits.framesPresented_lt

end Presenter

theorem Event.call_of_presented {e : Event} {i : BackBuffer} (h : e.presented = some i) :
    e.call = .present i := by
  unfold presented at h
  split at h
  · cases h
    assumption
  · contradiction

theorem Event.call_of_resized {e : Event} {size : Extent} (h : e.resized = some size) :
    e.call = .resize size := by
  unfold resized at h
  split at h
  · cases h
    assumption
  · contradiction

theorem Event.post_frameIndex (e : Event) (l : Ledger) :
    (e.post l).frameIndex = e.presented.elim l.frameIndex fun _ => l.frameIndex + 1 := by
  obtain ⟨call, completed, answer⟩ := e
  cases call <;> cases answer <;> rfl

theorem Event.post_backBuffer (e : Event) (l : Ledger) :
    (e.post l).backBuffer = e.presented.elim l.backBuffer BackBuffer.flip := by
  obtain ⟨call, completed, answer⟩ := e
  cases call <;> cases answer <;> rfl

theorem Event.post_renderSize (e : Event) (l : Ledger) :
    (e.post l).renderSize = e.resized.getD l.renderSize := by
  obtain ⟨call, completed, answer⟩ := e
  cases call <;> cases answer <;> rfl

theorem Event.post_framesPresented (e : Event) (l : Ledger) :
    (e.post l).framesPresented = l.framesPresented + e.presented.toList.length := by
  obtain ⟨call, completed, answer⟩ := e
  cases call <;> cases answer <;> rfl

theorem Event.post_resizes (e : Event) (l : Ledger) :
    (e.post l).resizes = l.resizes + e.resized.toList.length := by
  obtain ⟨call, completed, answer⟩ := e
  cases call <;> cases answer <;> rfl

theorem Event.post_fenceWaits (e : Event) (l : Ledger) :
    (e.post l).fenceWaits = l.fenceWaits + e.waited.toList.length := by
  obtain ⟨call, completed, answer⟩ := e
  cases call <;> cases answer <;> rfl

theorem Event.Refused.post_eq {e : Event} (h : e.Refused) (l : Ledger) : e.post l = l := by
  obtain ⟨call, completed, answer⟩ := e
  rcases h with h | h <;> cases h <;> cases call <;> rfl

theorem Presenter.unmoved_of_ledger {β : Type} {p q : Presenter β} {e : Event}
    (h : q.ledger = e.post p.ledger) (hpresented : e.presented = none) (hresized : e.resized = none) :
    q.frameIndex = p.frameIndex ∧ q.backBuffer = p.backBuffer ∧ q.renderSize = p.renderSize := by
  refine ⟨UInt64.toNat_inj.mp ?_, ?_, ?_⟩
  · have hindex := congrArg Ledger.frameIndex h
    rwa [e.post_frameIndex, hpresented] at hindex
  · have hbuffer := congrArg Ledger.backBuffer h
    rwa [e.post_backBuffer, hpresented] at hbuffer
  · have hsize := congrArg Ledger.renderSize h
    rwa [e.post_renderSize, hresized] at hsize

theorem Recorded.ends_perform {β ε α : Type} [Backend β ε] {call : Call} {answer : α → Answer}
    {x : Action β ε α} {r : Recorded β} {Q : α → Recorded β → Prop} {E : Recorded β → Prop}
    (hQ : ∀ a b, Q a ⟨b, ⟨call, Backend.completed r.backend, answer a⟩ :: r.history⟩)
    (hE : ∀ e b, e.call = call → e.Refused → E ⟨b, e :: r.history⟩) :
    (Recorded.perform call answer x).Ends r Q E := by
  unfold Action.Ends Recorded.perform
  dsimp only
  cases (x r.backend).outcome with
  | done a => exact hQ a _
  | failed error => exact hE _ _ rfl (.inl rfl)
  | trapped trap => exact hE _ _ rfl (.inr rfl)

end AdaptiveResolution.Presentation
