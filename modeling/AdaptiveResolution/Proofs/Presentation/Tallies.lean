import Mathlib.Data.List.Induction
import AdaptiveResolution.Proofs.Presentation.Counting
import AdaptiveResolution.Proofs.Presentation.Discarding
import AdaptiveResolution.Proofs.Presentation.Stalled

namespace AdaptiveResolution.Presentation

open Pacing (Controller Decision)

def displayed (history : List Event) : List BackBuffer := history.filterMap Event.presented

theorem BackBuffer.flip_ofFrame (n : Nat) : (ofFrame n).flip = ofFrame (n + 1) := by
  apply Fin.ext
  simp [flip, ofFrame, Fin.ofNat, Fin.add_def]

theorem BackBuffer.ofFrame_ne_succ (n : Nat) : ofFrame n ≠ ofFrame (n + 1) := by
  intro h
  have hval := congrArg Fin.val h
  simp only [ofFrame, Fin.ofNat] at hval
  omega

structure Tallies (l : Ledger) (history : List Event) : Prop where
  displayed_eq : displayed history = ((List.range l.frameIndex).map BackBuffer.ofFrame).reverse
  backBuffer_eq : l.backBuffer = .ofFrame l.frameIndex
  framesPresented_eq : l.framesPresented = l.frameIndex
  fenceWaits_eq : l.fenceWaits = (history.filterMap Event.waited).length
  resizes_eq : l.resizes + 1 = (history.filterMap Event.resized).length
  copies : ∀ e earlier, e :: earlier <:+ history →
    ∀ i, e.call = .copy i → (displayed earlier).head? ≠ some i

namespace Tallies

variable {l : Ledger} {history : List Event} {e : Event}

theorem displayed_length (h : Tallies l history) : (displayed history).length = l.frameIndex := by
  simp [h.displayed_eq]

theorem not_displayed (h : Tallies l history) : (displayed history).head? ≠ some l.backBuffer := by
  rw [h.displayed_eq, h.backBuffer_eq]
  cases l.frameIndex with
  | zero => simp
  | succ n =>
    rw [List.range_succ, List.map_append, List.reverse_append]
    simpa using BackBuffer.ofFrame_ne_succ n

theorem post (h : Tallies l history) (hcopy : ∀ i, e.call = .copy i → i = l.backBuffer)
    (hpresent : ∀ i, e.presented = some i → i = l.backBuffer) :
    Tallies (e.post l) (e :: history) := by
  have hpresented (i : BackBuffer) (hi : e.presented = some i) : i = .ofFrame l.frameIndex :=
    (hpresent i hi).trans h.backBuffer_eq
  exact {
    displayed_eq := by
      have hold := h.displayed_eq
      unfold displayed at hold ⊢
      rw [List.filterMap_cons, hold, e.post_frameIndex]
      cases hi : e.presented with
      | none => rfl
      | some i => simp [hpresented i hi, List.range_succ]
    backBuffer_eq := by
      rw [e.post_backBuffer, e.post_frameIndex]
      cases hi : e.presented with
      | none => exact h.backBuffer_eq
      | some i => exact hpresented i hi ▸ BackBuffer.flip_ofFrame l.frameIndex
    framesPresented_eq := by
      rw [e.post_framesPresented, e.post_frameIndex, h.framesPresented_eq]
      cases e.presented <;> rfl
    fenceWaits_eq := by
      rw [e.post_fenceWaits, h.fenceWaits_eq, List.filterMap_cons]
      cases e.waited <;> rfl
    resizes_eq := by
      rw [e.post_resizes, Nat.add_right_comm, h.resizes_eq, List.filterMap_cons]
      cases e.resized <;> rfl
    copies := by
      refine forall_suffix_cons_iff.mpr ⟨fun i hi => ?_, h.copies⟩
      rw [hcopy i hi]
      exact h.not_displayed }

end Tallies

variable {β ε : Type}

theorem Traced.tallies {p q : Presenter (Recorded β)} {decision : Decision} {calls : List Event}
    (h : Traced p decision calls q) (hp : Tallies p.ledger p.backend.history) {since : List Event}
    (hsince : since <:+ calls) :
    Tallies (since.foldr Event.post p.ledger) (since ++ p.backend.history) := by
  induction since with
  | nil => exact hp
  | cons e since ih =>
    have hdue := h.due e since hsince
    exact (ih ((List.suffix_cons e since).trans hsince)).post (fun i hi => hdue.of_copy hi)
      fun i hi => (hdue.of_presented hi).1

namespace Presenter

variable [Backend β ε]

theorem start_history {controller : Controller} {b : β} {p : Presenter (Recorded β)}
    (hstart : (start controller ⟨b, []⟩).outcome = .done p) :
    p.backend.history = [⟨.resize p.renderSize, Backend.completed b, .done⟩] := by
  obtain ⟨hresized, rfl⟩ := start_done_iff.mp hstart
  exact Recorded.perform_done (fun _ => .done) hresized

theorem start_tallies {controller : Controller} {b : β} {p : Presenter (Recorded β)}
    (hstart : (start controller ⟨b, []⟩).outcome = .done p) :
    Tallies p.ledger p.backend.history := by
  rw [start_history hstart]
  obtain ⟨-, rfl⟩ := start_done_iff.mp hstart
  refine ⟨rfl, rfl, rfl, rfl, rfl, forall_suffix_cons_iff.mpr ⟨fun i hi => ?_, ?_⟩⟩
  · contradiction
  · exact fun e earlier he => absurd he (by simp)

abbrev Few (n : Nat) (l : Ledger) : Prop := l.AtMost n (2 * n - 1)

theorem Few.fits {n : Nat} {l : Ledger} (h : Few n l) (hn : n ≤ 2 ^ 63) : l.Fits := by
  have hsize : UInt64.size = 2 * 2 ^ 63 := rfl
  exact Ledger.AtMost.fits h (by omega) (by omega)

theorem MayCount.few_first {p : Presenter β} {now : Ledger} (h : p.MayCount now)
    {controller : Controller} {b : β} (hstart : (start controller b).outcome = .done p) :
    Few 1 now := by
  obtain ⟨-, rfl⟩ := start_done_iff.mp hstart
  obtain ⟨hindex, hpresented, hresizes, hwaits⟩ := h
  exact ⟨hindex, hpresented, hresizes, by simpa [waitCalls, Vector.get, BackBuffer.first] using hwaits⟩

theorem MayCount.few_next {p : Presenter β} {now : Ledger} (h : p.MayCount now) {n : Nat}
    (hp : Few n p.ledger) (hn : 0 < n) : Few (n + 1) now := by
  obtain ⟨hindex, hpresented, hresizes, hwaits⟩ := h
  obtain ⟨hindexed, hcounted, hresized, hwaited⟩ := hp
  have hpending := length_toList_le_one p.pendingResize
  have hbusy := length_waitCalls_le (p.inFlight.get p.backBuffer) p.applied
  simp only [ledger] at hindexed hcounted hresized hwaited
  constructor <;> omega

theorem after_tallies {controller : Controller} {b : β} {p : Presenter (Recorded β)}
    (hstart : (start controller ⟨b, []⟩).outcome = .done p) {elapsed : List Duration}
    (hfew : elapsed.length ≤ 2 ^ 63) :
    Tallies (p.after elapsed).ledger (p.after elapsed).backend.history ∧
      Few elapsed.length (p.after elapsed).ledger := by
  induction elapsed using List.reverseRecOn with
  | nil =>
    refine ⟨start_tallies hstart, ?_⟩
    obtain ⟨-, rfl⟩ := start_done_iff.mp hstart
    exact ⟨Nat.le_refl _, Nat.le_refl _, Nat.le_refl _, Nat.le_refl _⟩
  | append_singleton elapsed d ih =>
    rw [List.length_append] at hfew ⊢
    obtain ⟨htallies, hcounts⟩ := ih (Nat.le_of_succ_le hfew)
    obtain ⟨decision, calls, htraced, hledger⟩ := presentFrame_followed d (p.after elapsed)
    have hmay := presentFrame_mayCount htraced.history_eq
    have hnow : Few (elapsed.length + 1) (calls.foldr Event.post (p.after elapsed).ledger) := by
      cases elapsed with
      | nil => exact hmay.few_first hstart
      | cons first rest => exact hmay.few_next hcounts (Nat.succ_pos _)
    have hnext : p.after (elapsed ++ [d]) = (presentFrame d (p.after elapsed)).state :=
      after_append p elapsed [d]
    rw [hnext, hledger (hnow.fits hfew), htraced.history_eq]
    exact ⟨htraced.tallies htallies List.suffix_rfl, hnow⟩

/-- Whatever fails, frames are presented in order and one for each that is counted, on the buffers
in turn, each after it was drawn to its buffer and submitted in the same call, and a frame that is
reported has been presented. Nothing is drawn to the buffer on display, and the counts of waits and
resizes are those of the calls. A frame may wait twice, so this holds for 2⁶³ frames. -/
theorem frames_presented_in_order {controller : Controller} {b : β} {p : Presenter (Recorded β)}
    (hstart : (start controller ⟨b, []⟩).outcome = .done p) {elapsed : List Duration}
    (hfew : elapsed.length ≤ 2 ^ 63) :
    ((start controller b).outcome = .done p.erased ∧
        (p.after elapsed).erased = p.erased.after elapsed) ∧
      p.backend.history = [⟨.resize p.renderSize, Backend.completed b, .done⟩] ∧
      let q := p.after elapsed
      let history := q.backend.history
      let n := q.frameIndex.toNat
      q.backend.events.filterMap Event.presented = (List.range n).map BackBuffer.ofFrame ∧
        (q.stats.framesPresented = q.frameIndex ∧ n ≤ elapsed.length) ∧
        q.backBuffer = .ofFrame n ∧
        q.stats.fenceWaits.toNat = (history.filterMap Event.waited).length ∧
        q.stats.resizes.toNat + 1 = (history.filterMap Event.resized).length ∧
        (∀ e earlier, e :: earlier <:+ history →
          ∀ i, e.call = .copy i → (displayed earlier).head? ≠ some i) ∧
        ∀ d, (∃ calls, (presentFrame d q).state.backend.history = calls ++ history ∧
            ∀ e since i, e :: since <:+ calls → e.presented = some i →
              let k := (displayed (since ++ history)).length
              i = .ofFrame k ∧ ∃ frame : FrameContext, frame.DrawnIn since ∧
                frame.frameIndex.toNat = k ∧ frame.backBuffer = i) ∧
          ∀ report, (presentFrame d q).outcome = .done report →
            report.frameIndex = q.frameIndex ∧ report.backBuffer = q.backBuffer ∧
              (presentFrame d q).state.frameIndex.toNat = n + 1 := by
  obtain ⟨hq, hcounts⟩ := after_tallies hstart hfew
  refine ⟨⟨start_erased hstart, after_erased p elapsed⟩, start_history hstart, ?_,
    ⟨UInt64.toNat_inj.mp hq.framesPresented_eq, hcounts.frameIndex_le⟩, hq.backBuffer_eq,
    hq.fenceWaits_eq, hq.resizes_eq, hq.copies, fun d => ⟨?_, fun report hreport => ?_⟩⟩
  · rw [Recorded.events, List.filterMap_reverse]
    exact List.reverse_eq_iff.mpr hq.displayed_eq
  · obtain ⟨decision, calls, h, -⟩ := presentFrame_followed d (p.after elapsed)
    refine ⟨calls, h.history_eq, fun e since i he hi => ?_⟩
    have htallies := h.tallies hq ((List.suffix_cons e since).trans he)
    obtain ⟨hindex, hnow, frame, hdrawn, hframe, hbuffer⟩ := (h.due e since he).of_presented hi
    dsimp only
    rw [htallies.displayed_length]
    exact ⟨hindex.trans htallies.backBuffer_eq, frame, hdrawn,
      (congrArg UInt64.toNat hframe).trans hnow.symm, hbuffer⟩
  · obtain ⟨decision, hdecision⟩ := exists_decision hreport
    have hreported := (Action.ends_of_done hreport _ _).mp (presentFrame_follows hdecision)
    exact ⟨hreported.frameIndex_eq, hreported.backBuffer_eq, hreported.presented⟩

def interrupted : Scripted where
  output := ⟨1000, 500⟩
  script := [true, true, true, true, false]

theorem frames_presented_in_order_interrupted :
    ∃ p : Presenter (Recorded Scripted),
      (start (Controller.fresh {} (.ofNat 1)) ⟨interrupted, []⟩).outcome = .done p ∧
        let elapsed : List Duration := [.ofNanos 100, .ofNanos 100, .ofNanos 100]
        let q := p.after elapsed
        elapsed.length ≤ 2 ^ 63 ∧ q.frameIndex = 2 ∧
          q.backend.events.filterMap Event.presented =
            (List.range q.frameIndex.toNat).map BackBuffer.ofFrame := by
  have hstart : (start (Controller.fresh {} (.ofNat 1))
      (⟨interrupted, []⟩ : Recorded Scripted)).outcome = .done _ := rfl
  have hfew : [Duration.ofNanos 100, .ofNanos 100, .ofNanos 100].length ≤ 2 ^ 63 := by decide
  exact ⟨_, hstart, hfew, by decide +kernel, (frames_presented_in_order hstart hfew).2.2.1⟩

def stalled : Recorded Stalled := ⟨⟨⟨1000, 500⟩⟩, []⟩

def pulses (n : Nat) : List Duration := .replicate n (.ofNanos 100)

section

variable {p : Presenter (Recorded Stalled)}

theorem both_signal (i : BackBuffer) :
    (#v[Stalled.signal, Stalled.signal]).get i = Stalled.signal := by
  revert i
  decide

theorem stalled_counted {n : Nat} {inFlight : Vector Nat 2} {i : BackBuffer}
    (htallies : Tallies p.ledger p.backend.history) (hwaiting : Waiting n inFlight i p)
    (hn : n + 1 < 2 * 2 ^ 63) : ¬Full p.stats.fenceWaits := by
  have hwaits : p.stats.fenceWaits.toNat = n := htallies.fenceWaits_eq.trans hwaiting.waits_eq
  rw [not_full_iff, hwaits]
  exact hn

theorem after_pulses_succ (p : Presenter (Recorded Stalled)) (n : Nat) :
    p.after (pulses (n + 1)) = (presentFrame (.ofNanos 100) (p.after (pulses n))).state := by
  rw [pulses, List.replicate_succ', after_append]
  rfl

variable (hstart : (start eagerController stalled).outcome = .done p) {n : Nat}

include hstart

theorem pulses_decision (n : Nat) : ∃ decision,
    (Controller.advanceDuration (.ofNanos 100) (p.after (pulses n)).controller).outcome =
      .done decision :=
  (after_sound (Controller.withScale_sound eager_withScale) hstart (pulses n)).exists_decision
    (by decide)

theorem pulses_tallies (hn : n ≤ 2 ^ 63) :
    Tallies (p.after (pulses n)).ledger (p.after (pulses n)).backend.history ∧
      Few n (p.after (pulses n)).ledger := by
  have hlength : (pulses n).length = n := List.length_replicate
  have htallies := after_tallies hstart (hlength.trans_le hn)
  rwa [hlength] at htallies

theorem stalled_run (hn : n + 2 ≤ 2 ^ 63) :
    Waiting (2 * n + 2) #v[Stalled.signal, Stalled.signal] (.ofFrame n) (p.after (pulses (n + 2))) ∧
      (p.after (pulses (n + 2))).pendingResize = none := by
  induction n with
  | zero =>
    obtain ⟨-, rfl⟩ := start_done_iff.mp hstart
    exact ⟨⟨by decide +kernel, by decide +kernel, by decide +kernel⟩, by decide +kernel⟩
  | succ n ih =>
    obtain ⟨hwaiting, hsettled⟩ := ih (Nat.le_of_succ_le hn)
    obtain ⟨htallies, hfew⟩ := pulses_tallies hstart (Nat.le_of_succ_le hn)
    obtain ⟨decision, hdecision⟩ := pulses_decision hstart (n + 2)
    obtain ⟨_, calls, hcalls, -⟩ := presentFrame_followed (.ofNanos 100) (p.after (pulses (n + 2)))
    have hroom : (p.after (pulses (n + 2))).Room := fun now hnow =>
      (hnow.few_next hfew (Nat.succ_pos _)).fits hn
    obtain ⟨report, hreport⟩ := hroom.exists_report hdecision hcalls.history_eq
      (presentFrame_answered hdecision hcalls.history_eq)
    have hcounted := stalled_counted htallies hwaiting (by omega)
    have hnext := (Action.ends_of_done hreport _ _).mp
      (presentFrame_stalled hwaiting hsettled (both_signal _) hcounted hdecision)
    have hreported := (Action.ends_of_done hreport _ _).mp (presentFrame_follows hdecision)
    rw [after_pulses_succ]
    refine ⟨⟨hnext.waits_eq, hnext.inFlight_eq.trans ?_, ?_⟩, hreported.settled⟩
    · generalize BackBuffer.ofFrame n = i
      revert i
      decide
    · rw [hnext.backBuffer_eq, BackBuffer.flip_ofFrame]

theorem stalled_last :
    (presentFrame (.ofNanos 100) (p.after (pulses (2 ^ 63)))).state.waits = UInt64.size := by
  obtain ⟨n, hn⟩ : ∃ n, n + 2 = 2 ^ 63 := ⟨2 ^ 63 - 2, rfl⟩
  obtain ⟨htallies, -⟩ := pulses_tallies hstart (Nat.le_refl (2 ^ 63))
  obtain ⟨decision, hdecision⟩ := pulses_decision hstart (2 ^ 63)
  rw [← hn] at htallies hdecision ⊢
  obtain ⟨hwaiting, hsettled⟩ := stalled_run hstart (Nat.le_of_eq hn)
  have hends := presentFrame_stalled hwaiting hsettled (both_signal _)
    (stalled_counted htallies hwaiting (by omega)) hdecision
  have hsize : UInt64.size = 2 * 2 ^ 63 := rfl
  rw [(hends.imp fun _ q hq => hq.waits_eq).state, hsize, ← hn]
  omega

end

-- The counter of waits is full before that of the frames is half full.
theorem fence_waits_run_out :
    ∃ p : Presenter (Recorded Stalled), (start eagerController stalled).outcome = .done p ∧
      let q := p.after (pulses (2 ^ 63 + 1))
      (pulses (2 ^ 63 + 1)).length < UInt64.size ∧
        q.stats.fenceWaits.toNat ≠ (q.backend.history.filterMap Event.waited).length := by
  have hstart : (start eagerController stalled).outcome = .done _ := rfl
  have hlength : (pulses (2 ^ 63 + 1)).length < UInt64.size := by
    rw [pulses, List.length_replicate]
    decide
  refine ⟨_, hstart, hlength, ?_⟩
  have hwaits := stalled_last hstart
  rw [← after_pulses_succ, waits] at hwaits
  dsimp only
  rw [hwaits]
  exact (UInt64.toNat_lt_size _).ne

end Presenter

end AdaptiveResolution.Presentation
