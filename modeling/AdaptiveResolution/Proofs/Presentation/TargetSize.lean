import AdaptiveResolution.Proofs.Binary.Scaling
import AdaptiveResolution.Proofs.Pacing.Bounds
import AdaptiveResolution.Proofs.Presentation.FrameCourse
import AdaptiveResolution.Proofs.Presentation.Lag
import AdaptiveResolution.Proofs.Presentation.Tallies

namespace AdaptiveResolution.Presentation

open Pacing (Config Controller Decision Operation)

def latestSize (history : List Event) : Option Extent := (history.filterMap Event.resized).head?

theorem latestSize_append (since history : List Event) :
    latestSize (since ++ history) = (latestSize since).or (latestSize history) := by
  unfold latestSize
  rw [List.filterMap_append, List.head?_append]

theorem foldr_post_renderSize (since : List Event) (l : Ledger) :
    (since.foldr Event.post l).renderSize = (latestSize since).getD l.renderSize := by
  unfold latestSize
  induction since with
  | nil => rfl
  | cons e since ih =>
    rw [List.foldr_cons, Event.post_renderSize, List.filterMap_cons, ih]
    cases e.resized <;> rfl

def Permits (config : Config) (output size : Extent) : Prop :=
  output.scaled config.scaleFloor ≤ size ∧ size ≤ output.scaled config.scaleCeiling

section

variable {config : Config} {output size : Extent} {scale : Double}

theorem permits_scaled (h : config.Admits scale) : Permits config output (output.scaled scale) :=
  ⟨Extent.scaled_mono output.le_refl fun _ => h.1, Extent.scaled_mono output.le_refl fun _ => h.2⟩

theorem Permits.one_le (h : Permits config output size) : ⟨1, 1⟩ ≤ size :=
  Extent.le_trans (output.one_le_scaled config.scaleFloor) h.1

theorem Permits.le_nonempty (hv : config.Valid) (h : Permits config output size) :
    size ≤ output.nonempty :=
  Extent.le_trans h.2 (output.scaled_le_nonempty hv.ceiling_le_one)

end

variable {β ε : Type}

namespace Presenter

structure Informed (p : Presenter (Recorded β)) : Prop where
  latest : latestSize p.backend.history = some p.renderSize
  renders : ∀ e earlier, e :: earlier <:+ p.backend.history →
    ∀ frame, e.call = .render frame → latestSize earlier = some frame.renderSize

variable [Backend β ε]

section

variable {p : Presenter (Recorded β)} {decision : Decision} {d : Duration}

theorem presentFrame_informed (hp : p.Informed) (d : Duration) :
    (presentFrame d p).state.Informed := by
  rcases presentFrame_course d p with ⟨decision, made, -, hended⟩ | hstate
  · have hmade := hended.accounted
    have hlatest (earlier : List Event) : latestSize (earlier ++ p.backend.history) =
        some ((latestSize earlier).getD p.renderSize) := by
      rw [latestSize_append, hp.latest]
      cases latestSize earlier <;> rfl
    have hsize : (presentFrame d p).state.renderSize = (latestSize made).getD p.renderSize :=
      hended.renderSize_eq.trans (foldr_post_renderSize made p.ledger)
    have hhistory : (presentFrame d p).state.backend.history = made ++ p.backend.history :=
      hmade.history_eq
    constructor
    · rw [hsize, hhistory]
      exact hlatest made
    · rw [hhistory, forall_suffix_append_iff]
      refine ⟨fun e earlier he frame hcall => ?_, hp.renders⟩
      have hapt := hmade.apt e earlier he
      rw [hcall] at hapt
      rw [hlatest, hapt.2]
      rfl
  · rw [hstate]
    exact ⟨hp.latest, hp.renders⟩

theorem after_informed (hp : p.Informed) (elapsed : List Duration) :
    (p.after elapsed).Informed := by
  apply after_induction _ hp
  intro q d hq
  exact presentFrame_informed hq d

theorem start_informed {controller : Controller} {b : β}
    (hstart : (start controller ⟨b, []⟩).outcome = .done p) : p.Informed := by
  have hhistory := start_history hstart
  constructor
  · rw [hhistory]
    rfl
  · rw [hhistory]
    refine forall_suffix_cons_iff.mpr ⟨fun frame hcall => ?_, fun e earlier he => ?_⟩
    · contradiction
    · exact absurd he (by simp)

theorem Ended.of_refused_resize {q : Presenter (Recorded β)} {made earlier : List Event}
    {e : Event} {size : Extent} (h : Ended p decision made q) (he : e :: earlier <:+ made)
    (hcall : e.call = .resize size) (hrefused : e.Refused) :
    made = e :: earlier ∧ q.pendingResize = some size ∧
      q.ledger = earlier.foldr Event.post p.ledger := by
  rcases h with h | ⟨last, before, rfl, h | h⟩
  · exact absurd hrefused (h.answered e (he.subset (List.mem_cons_self ..)))
  · rcases List.suffix_cons_iff.mp he with heq | hbefore
    · cases heq
      refine ⟨rfl, ?_, h.ledger_eq⟩
      rw [h.pending_eq, hcall]
      rfl
    · exact absurd hrefused (h.answered e (hbefore.subset (List.mem_cons_self ..)))
  · exact absurd hrefused (h.answered e (he.subset (List.mem_cons_self ..)))

theorem Ended.pending {q : Presenter (Recorded β)} {made : List Event} {size : Extent}
    (h : Ended p decision made q) (hsize : q.pendingResize = some size) :
    (∃ e ∈ made, e.call = .resize size) ∨ p.decidedSize decision = some size := by
  rcases h with h | ⟨e, earlier, rfl, h | h⟩
  · cases h.pending_eq.symm.trans hsize
  · have hleft := h.pending_eq.symm.trans hsize
    cases hcall : e.call with
    | resize size' =>
      rw [hcall] at hleft
      cases hleft
      exact .inl ⟨e, List.mem_cons_self .., hcall⟩
    | _ =>
      rw [hcall] at hleft
      exact .inr hleft
  · rcases h.pending_eq with hnone | hdecided
    · cases hnone.symm.trans hsize
    · exact .inr (hdecided.symm.trans hsize)

theorem presentFrame_refused_resize (d : Duration) (p : Presenter (Recorded β)) :
    ∃ made, (presentFrame d p).state.backend.history = made ++ p.backend.history ∧
      ∀ e earlier size, e :: earlier <:+ made → e.call = .resize size → e.Refused →
        made = e :: earlier ∧ (presentFrame d p).state.pendingResize = some size ∧
          (presentFrame d p).state.ledger = earlier.foldr Event.post p.ledger := by
  rcases presentFrame_course d p with ⟨decision, made, -, hended⟩ | hstate
  · exact ⟨made, hended.accounted.history_eq, fun e earlier size he hcall hrefused =>
      hended.of_refused_resize he hcall hrefused⟩
  · rw [hstate]
    exact ⟨[], rfl, fun e earlier size he => absurd he (by simp)⟩

theorem applyPendingResize_refused {p : Presenter β} {size : Extent}
    (hpending : p.pendingResize = some size)
    (hrefused : (Backend.resize size p.backend).outcome ≠ .done ()) :
    (applyPendingResize p).state =
      { p with backend := (Backend.resize size p.backend).state } := by
  have hends : applyPendingResize.Ends p (fun _ _ => False) fun q =>
      q = { p with backend := (Backend.resize size p.backend).state } := by
    rw [ends_applyPendingResize_some hpending]
    exact (Action.ends_of_not_done (fun _ => hrefused) _ _).mpr rfl
  exact (hends.mono (fun _ _ hf => hf.elim) fun _ hq => hq).state

theorem applied_output (h : SteadyOutput β) (p : Presenter β) :
    Backend.outputSize p.applied = Backend.outputSize p.backend := by
  unfold applied resizeCalls
  cases p.pendingResize with
  | none => rfl
  | some size =>
    have hcall : Call.performAll [.resize size] = (Backend.resize size : Action β ε Unit) :=
      Call.performAll_singleton (.resize size)
    change Backend.outputSize (Call.performAll [.resize size] p.backend).state = _
    rw [hcall]
    exact h.resize size p.backend

theorem decidedSize_steady (h : SteadyOutput β) {p : Presenter β} {size : Extent}
    (hsize : p.decidedSize decision = some size) :
    size = (Backend.outputSize p.backend).scaled decision.scale := by
  unfold decidedSize at hsize
  split at hsize
  · rw [← Option.some.inj hsize, applied_output h]
  · contradiction

structure Confined (config : Config) (output : Extent) (p : Presenter (Recorded β)) : Prop where
  output_eq : Backend.outputSize p.backend = output
  config_eq : p.controller.config = config
  sound : p.controller.Sound
  bounded : p.controller.Bounded
  pending : ∀ size, p.pendingResize = some size → Permits config output size
  resizes : ∀ e ∈ p.backend.history, ∀ size, e.call = .resize size → Permits config output size

theorem Confined.decided {config : Config} {output size : Extent} (h : SteadyOutput β)
    (hp : Confined config output p)
    (hdecision : (Controller.advanceDuration d p.controller).outcome = .done decision)
    (hsize : (p.paced d).decidedSize decision = some size) : Permits config output size := by
  have hadvances := presentFrame_advances d hp.sound
  have hscale : (presentFrame d p).state.controller.scale = decision.scale := by
    rw [presentFrame_controller]
    exact (decision_scale hdecision).1
  have hadmits : config.Admits decision.scale := by
    have hbounded := hadvances.bounded hp.sound hp.bounded
    rwa [Controller.Bounded, hadvances.config_eq, hp.config_eq, hscale] at hbounded
  have hoften := decidedSize_steady h.recorded hsize
  have houtput : Backend.outputSize (p.paced d).backend = output := hp.output_eq
  rw [hoften, houtput]
  exact permits_scaled hadmits

theorem presentFrame_confined {config : Config} {output : Extent} (h : SteadyOutput β)
    (hp : Confined config output p) (d : Duration) :
    Confined config output (presentFrame d p).state := by
  have hadvances := presentFrame_advances d hp.sound
  have hcalls : (∀ size, (presentFrame d p).state.pendingResize = some size →
        Permits config output size) ∧
      ∀ e ∈ (presentFrame d p).state.backend.history, ∀ size, e.call = .resize size →
        Permits config output size := by
    rcases presentFrame_course d p with ⟨decision, made, hdecision, hended⟩ | hstate
    · have hmade : ∀ e ∈ made, ∀ size, e.call = .resize size → Permits config output size := by
        intro e he size hcall
        obtain ⟨earlier, hapt⟩ := hended.accounted.apt_of_mem he
        rw [hcall] at hapt
        rcases hapt with ⟨-, hpending⟩ | hdecided
        · exact hp.pending size hpending
        · exact hp.decided h hdecision hdecided
      constructor
      · intro size hsize
        rcases hended.pending hsize with ⟨e, he, hcall⟩ | hdecided
        · exact hmade e he size hcall
        · exact hp.decided h hdecision hdecided
      · rw [hended.accounted.history_eq]
        exact List.forall_mem_append.mpr ⟨hmade, hp.resizes⟩
    · rw [hstate]
      exact ⟨hp.pending, hp.resizes⟩
  exact {
    output_eq := (presentFrame_output h.recorded d p).trans hp.output_eq
    config_eq := hadvances.config_eq.trans hp.config_eq
    sound := hadvances.sound hp.sound
    bounded := hadvances.bounded hp.sound hp.bounded
    pending := hcalls.1
    resizes := hcalls.2 }

theorem after_confined {config : Config} {output : Extent} (h : SteadyOutput β)
    (hp : Confined config output p) (elapsed : List Duration) :
    Confined config output (p.after elapsed) := by
  apply after_induction _ hp
  intro q d hq
  exact presentFrame_confined h hq d

theorem start_confined (h : SteadyOutput β) {config : Config} {scale : Double} {c₀ : Controller}
    (hc : Controller.withScale config scale = .done c₀) (ops : List Operation) {b : β}
    (hstart : (start (c₀.after ops) ⟨b, []⟩).outcome = .done p) :
    Confined config (Backend.outputSize b) p := by
  obtain ⟨hvalid, hfresh⟩ := Controller.withScale_done hc
  have hsound : c₀.Sound := Controller.withScale_sound hc
  have hconfig : (c₀.after ops).config = config := by
    rw [Controller.after_config hsound, hfresh]
    rfl
  have hbounded : (c₀.after ops).Bounded := by
    apply Controller.after_bounded hsound
    rw [hfresh]
    exact Controller.fresh_bounded (Controller.startScale_admitted hvalid scale)
  have hpermits : Permits config (Backend.outputSize b) p.renderSize := by
    rw [(start_done_iff.mp hstart).2]
    rw [Controller.Bounded, hconfig] at hbounded
    exact permits_scaled hbounded
  have hcontroller := start_controller hstart
  have hhistory := start_history hstart
  constructor
  · rw [(start_done_iff.mp hstart).2]
    exact h.resize _ b
  · rw [hcontroller, hconfig]
  · rw [hcontroller]
    exact Controller.after_sound hsound ops
  · rw [hcontroller]
    exact hbounded
  · intro size hpending
    rw [(start_done_iff.mp hstart).2] at hpending
    contradiction
  · intro e he size hcall
    rw [hhistory, List.mem_singleton] at he
    cases he
    cases hcall
    exact hpermits

end

/-- Whatever fails, the presenter's render size is that of the latest successful resize, every
frame is rendered at the size that was then the latest, and a resize that is refused changes no
more than the backend. On a steady output every size that is ever asked for lies between those of
the scale's floor and ceiling. -/
theorem target_size_known {controller : Controller} {b : β} {p : Presenter (Recorded β)}
    (hstart : (start controller ⟨b, []⟩).outcome = .done p) (elapsed : List Duration) :
    ((start controller b).outcome = .done p.erased ∧
        (p.after elapsed).erased = p.erased.after elapsed) ∧
      let q := p.after elapsed
      latestSize q.backend.history = some q.renderSize ∧
        (∀ e earlier, e :: earlier <:+ q.backend.history →
          ∀ frame, e.call = .render frame → latestSize earlier = some frame.renderSize) ∧
        (∀ d, ∃ made, (presentFrame d q).state.backend.history = made ++ q.backend.history ∧
          ∀ e earlier size, e :: earlier <:+ made → e.call = .resize size → e.Refused →
            made = e :: earlier ∧ (presentFrame d q).state.pendingResize = some size ∧
              (presentFrame d q).state.ledger = earlier.foldr Event.post q.ledger) ∧
        (∀ (r : Presenter β) size, r.pendingResize = some size →
          (Backend.resize size r.backend).outcome ≠ .done () →
            (applyPendingResize r).state =
              { r with backend := (Backend.resize size r.backend).state }) ∧
        (SteadyOutput β → ∀ config scale c₀ (ops : List Operation),
          Controller.withScale config scale = .done c₀ → controller = c₀.after ops →
            ∀ e ∈ q.backend.history, ∀ size, e.call = .resize size →
              ((Backend.outputSize b).scaled config.scaleFloor ≤ size ∧
                size ≤ (Backend.outputSize b).scaled config.scaleCeiling) ∧
              ⟨1, 1⟩ ≤ size ∧ size ≤ (Backend.outputSize b).nonempty) := by
  have hinformed := after_informed (start_informed hstart) elapsed
  refine ⟨⟨start_erased hstart, after_erased p elapsed⟩, hinformed.latest, hinformed.renders,
    fun d => presentFrame_refused_resize d _, fun r size => applyPendingResize_refused, ?_⟩
  intro hsteady config scale c₀ ops hc hcontroller e he size hcall
  cases hcontroller
  have hpermits := (after_confined hsteady (start_confined hsteady hc ops hstart) elapsed).resizes
    e he size hcall
  exact ⟨hpermits, hpermits.one_le, hpermits.le_nonempty (Controller.withScale_done hc).1⟩

theorem target_size_known_refusing :
    Controller.withScale eager (.ofNat 1) = .done eagerController ∧ SteadyOutput Scripted ∧
      ∃ p : Presenter (Recorded Scripted),
        (start eagerController ⟨refusing, []⟩).outcome = .done p ∧
          let q := p.after [.ofNanos 20000, .ofNanos 10000]
          (latestSize q.backend.history = some q.renderSize ∧ q.renderSize = ⟨1000, 500⟩) ∧
            (∀ e ∈ q.backend.history, ∀ size, e.call = .resize size →
              size ≤ (⟨1000, 500⟩ : Extent).scaled eager.scaleCeiling) ∧
            ∃ e ∈ q.backend.history, e.call = .resize ⟨500, 250⟩ := by
  have hstart : (start eagerController (⟨refusing, []⟩ : Recorded Scripted)).outcome = .done _ :=
    rfl
  obtain ⟨-, hlatest, -, -, -, hrange⟩ :=
    target_size_known hstart [.ofNanos 20000, .ofNanos 10000]
  refine ⟨eager_withScale, Scripted.steady, _, hstart, ⟨hlatest, by decide +kernel⟩, ?_, ?_⟩
  · intro e he size hcall
    exact (hrange Scripted.steady eager (.ofNat 1) _ [] eager_withScale rfl e he size hcall).1.2
  · decide +kernel

end Presenter

end AdaptiveResolution.Presentation
