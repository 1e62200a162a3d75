import AdaptiveResolution.Proofs.Presentation.FrameCourse

namespace AdaptiveResolution.Presentation

open Pacing (Controller Decision)

namespace Call

def isResize : Call → Bool
  | resize _ => true
  | _ => false

def isWait : Call → Bool
  | wait _ => true
  | _ => false

def isPresent : Call → Bool
  | present _ => true
  | _ => false

end Call

structure Ledger.AtMost (frames others : Nat) (l : Ledger) : Prop where
  frameIndex_le : l.frameIndex ≤ frames
  framesPresented_le : l.framesPresented ≤ frames
  resizes_le : l.resizes ≤ others
  fenceWaits_le : l.fenceWaits ≤ others

theorem Ledger.AtMost.fits {frames others : Nat} {l : Ledger} (h : l.AtMost frames others)
    (hframes : frames < UInt64.size) (hothers : others < UInt64.size) : l.Fits where
  frameIndex_lt := h.frameIndex_le.trans_lt hframes
  framesPresented_lt := h.framesPresented_le.trans_lt hframes
  resizes_lt := h.resizes_le.trans_lt hothers
  fenceWaits_lt := h.fenceWaits_le.trans_lt hothers

structure Ledger.Within (l : Ledger) (calls : List Call) (now : Ledger) : Prop where
  frameIndex_le : now.frameIndex ≤ l.frameIndex + calls.countP Call.isPresent
  framesPresented_le : now.framesPresented ≤ l.framesPresented + calls.countP Call.isPresent
  resizes_le : now.resizes ≤ l.resizes + calls.countP Call.isResize
  fenceWaits_le : now.fenceWaits ≤ l.fenceWaits + calls.countP Call.isWait

theorem Ledger.Within.cons {l now : Ledger} {calls : List Call} (h : l.Within calls now)
    (e : Event) : l.Within (e.call :: calls) (e.post now) := by
  obtain ⟨hindex, hpresented, hresizes, hwaits⟩ := h
  obtain ⟨call, completed, answer⟩ := e
  cases call <;> cases answer <;> constructor <;>
    simp only [Event.post, List.countP_cons, Call.isPresent, Call.isResize, Call.isWait,
      Bool.false_eq_true, if_true, if_false] <;> omega

theorem foldr_post_within (made : List Event) (l : Ledger) :
    l.Within (made.map Event.call) (made.foldr Event.post l) := by
  induction made with
  | nil => exact ⟨Nat.le_refl _, Nat.le_refl _, Nat.le_refl _, Nat.le_refl _⟩
  | cons e made ih => exact ih.cons e

theorem countP_made_le {made : List Event} {calls : List Call}
    (h : (made.map Event.call).reverse <+: calls) (f : Call → Bool) :
    (made.map Event.call).countP f ≤ calls.countP f := by
  rw [← List.countP_reverse]
  exact h.sublist.countP_le

namespace Presenter

variable {β ε : Type} [Backend β ε]

section

variable {f : Call → Bool}

theorem countP_resizeCalls_eq_zero (h : ∀ size, f (.resize size) = false) (size : Option Extent) :
    (resizeCalls size).countP f = 0 := by
  cases size <;> simp [resizeCalls, h]

theorem countP_resizeCalls_le (size : Option Extent) :
    (resizeCalls size).countP Call.isResize ≤ size.toList.length :=
  List.countP_le_length.trans (Nat.le_of_eq (List.length_map _))

theorem length_toList_le_one (size : Option Extent) : size.toList.length ≤ 1 := by
  cases size <;> simp

theorem countP_waitCalls_eq_zero (h : ∀ fence, f (.wait fence) = false) (fence : Nat) (b : β) :
    (waitCalls fence b).countP f = 0 := by
  unfold waitCalls
  split <;> simp [h]

theorem length_waitCalls_le (fence : Nat) (b : β) : (waitCalls fence b).length ≤ 1 := by
  unfold waitCalls
  split <;> simp

end

theorem closingCalls_counts (p : Presenter β) (decision : Decision) (b : β) (fence : Nat) :
    let calls := p.closingCalls decision b fence
    calls.countP Call.isPresent ≤ 1 ∧ calls.countP Call.isResize ≤ 1 ∧
      calls.countP Call.isWait ≤ 1 := by
  have hresizes := countP_resizeCalls_le (p.decidedSize decision)
  have hdecided := length_toList_le_one (p.decidedSize decision)
  have hwaits : (waitCalls (fence - 1) b).countP Call.isWait ≤ 1 :=
    List.countP_le_length.trans (length_waitCalls_le _ b)
  unfold closingCalls
  simp only [List.countP_append, List.countP_cons]
  rw [countP_resizeCalls_eq_zero (f := Call.isPresent) (fun _ => rfl),
    countP_resizeCalls_eq_zero (f := Call.isWait) (fun _ => rfl),
    countP_waitCalls_eq_zero (f := Call.isPresent) (fun _ => rfl),
    countP_waitCalls_eq_zero (f := Call.isResize) (fun _ => rfl)]
  simp only [Call.isPresent, Call.isResize, Call.isWait, Bool.false_eq_true, if_true, if_false]
  omega

theorem script_counts (p : Presenter β) (decision : Decision) :
    (p.script decision).countP Call.isPresent ≤ 1 ∧
      (p.script decision).countP Call.isResize ≤ p.pendingResize.toList.length + 1 ∧
      (p.script decision).countP Call.isWait ≤
        (waitCalls (p.inFlight.get p.backBuffer) p.applied).length + 1 := by
  have hresizes := countP_resizeCalls_le p.pendingResize
  have hwaits : (waitCalls (p.inFlight.get p.backBuffer) p.applied).countP Call.isWait ≤
    (waitCalls (p.inFlight.get p.backBuffer) p.applied).length := List.countP_le_length
  unfold script drawingCalls
  dsimp only
  generalize (Backend.submit (β := β) _ : Reply β ε Nat) = submitted
  simp only [List.countP_append, List.countP_cons, List.countP_nil]
  rw [countP_resizeCalls_eq_zero (f := Call.isPresent) (fun _ => rfl),
    countP_resizeCalls_eq_zero (f := Call.isWait) (fun _ => rfl),
    countP_waitCalls_eq_zero (f := Call.isPresent) (fun _ => rfl),
    countP_waitCalls_eq_zero (f := Call.isResize) (fun _ => rfl)]
  simp only [Call.isPresent, Call.isResize, Call.isWait, Bool.false_eq_true, if_false]
  split
  · rename_i fence _
    have hclosing := p.closingCalls_counts decision submitted.state fence
    omega
  · simp only [List.countP_nil]
    omega

structure MayCount (p : Presenter β) (now : Ledger) : Prop where
  frameIndex_le : now.frameIndex ≤ p.frameIndex.toNat + 1
  framesPresented_le : now.framesPresented ≤ p.stats.framesPresented.toNat + 1
  resizes_le : now.resizes ≤ p.stats.resizes.toNat + (p.pendingResize.toList.length + 1)
  fenceWaits_le : now.fenceWaits ≤ p.stats.fenceWaits.toNat +
    ((waitCalls (p.inFlight.get p.backBuffer) p.applied).length + 1)

def Room (p : Presenter β) : Prop := ∀ now, p.MayCount now → now.Fits

/-- No counter is over `n`, and a frame counts at most one more: no resize is pending, and what was
last submitted for its buffer is done. -/
structure OneEach (n : Nat) (p : Presenter β) : Prop where
  reached : p.inFlight.get p.backBuffer ≤ Backend.completed p.backend
  settled : p.pendingResize = none
  counted : p.ledger.AtMost n n

theorem OneEach.mayCount {n : Nat} {p : Presenter β} (h : p.OneEach n) {now : Ledger}
    (hnow : p.MayCount now) : now.AtMost (n + 1) (n + 1) := by
  obtain ⟨hindex, hpresented, hresizes, hwaits⟩ := hnow
  obtain ⟨hindexed, hcounted, hresized, hwaited⟩ := h.counted
  have happlied : p.applied = p.backend := by
    rw [applied, h.settled]
    rfl
  rw [happlied, waitCalls, if_neg (Nat.not_lt.mpr h.reached)] at hwaits
  rw [h.settled] at hresizes
  simp only [Option.toList_none, List.length_nil] at hresizes hwaits
  simp only [ledger] at hindexed hcounted hresized hwaited
  constructor <;> omega

theorem OneEach.room {n : Nat} {p : Presenter β} (h : p.OneEach n) (hn : n + 1 < UInt64.size) :
    p.Room :=
  fun _ hnow => (h.mayCount hnow).fits hn hn

variable {p : Presenter (Recorded β)} {d : Duration} {decision : Decision} {made : List Event}

theorem presentFrame_history
    (hdecision : (Controller.advanceDuration d p.controller).outcome = .done decision)
    (hhistory : (presentFrame d p).state.backend.history = made ++ p.backend.history) :
    (made.map Event.call).reverse <+: (p.paced d).script decision := by
  obtain ⟨made', hmade, hfirst, -⟩ := (presentFrame_conducts hdecision).makes.history
  cases List.append_cancel_right (hhistory.symm.trans hmade)
  exact hfirst

theorem presentFrame_mayCount
    (hhistory : (presentFrame d p).state.backend.history = made ++ p.backend.history) :
    p.MayCount (made.foldr Event.post p.ledger) := by
  by_cases hdone : ∃ decision, (Controller.advanceDuration d p.controller).outcome = .done decision
  · obtain ⟨decision, hdecision⟩ := hdone
    have hfirst := presentFrame_history hdecision hhistory
    obtain ⟨hpresents, hresizes, hwaits⟩ := script_counts (p.paced d) decision
    obtain ⟨hindex, hpresented, hresized, hwaited⟩ := foldr_post_within made p.ledger
    have hcounted (f : Call → Bool) := countP_made_le hfirst f
    exact {
      frameIndex_le := hindex.trans (Nat.add_le_add_left ((hcounted _).trans hpresents) _)
      framesPresented_le := hpresented.trans (Nat.add_le_add_left ((hcounted _).trans hpresents) _)
      resizes_le := hresized.trans (Nat.add_le_add_left ((hcounted _).trans hresizes) _)
      fenceWaits_le := hwaited.trans (Nat.add_le_add_left ((hcounted _).trans hwaits) _) }
  · rw [presentFrame_undecided fun decision hd => hdone ⟨decision, hd⟩] at hhistory
    have hnone : made = [] := List.append_left_eq_self.mp hhistory.symm
    rw [hnone]
    exact ⟨Nat.le_add_right _ _, Nat.le_add_right _ _, Nat.le_add_right _ _, Nat.le_add_right _ _⟩

theorem Room.exists_report (h : p.Room)
    (hdecision : (Controller.advanceDuration d p.controller).outcome = .done decision)
    (hhistory : (presentFrame d p).state.backend.history = made ++ p.backend.history)
    (hanswered : ∀ m ∈ made, ¬m.Refused) : ∃ report, (presentFrame d p).outcome = .done report := by
  by_contra hnone
  obtain ⟨earlier, e, hstopped⟩ := (Action.ends_of_not_done
    (fun report hreport => hnone ⟨report, hreport⟩) _ _).mp (presentFrame_conducts hdecision).ends
  rcases hstopped with hhalted | hoverran
  · cases List.append_cancel_right (hhistory.symm.trans hhalted.history_eq)
    exact hanswered e (List.mem_cons_self ..) hhalted.refused
  · exact hoverran.overrun (h _ (presentFrame_mayCount hoverran.history_eq))

theorem OneEach.counts {n : Nat} (h : p.OneEach n) (hn : n + 1 < UInt64.size) (d : Duration) :
    (presentFrame d p).state.ledger.AtMost (n + 1) (n + 1) := by
  obtain ⟨_, made, htraced, hledger⟩ := presentFrame_followed d p
  have hmay := presentFrame_mayCount htraced.history_eq
  rw [hledger (h.room hn _ hmay)]
  exact h.mayCount hmay

theorem OneEach.exists_report {n : Nat} (h : p.OneEach n) (hn : n + 1 < UInt64.size)
    (hdecision : (Controller.advanceDuration d p.controller).outcome = .done decision)
    (hanswered : ∀ e ∈ (presentFrame d p).state.backend.history, ¬e.Refused) :
    ∃ report, (presentFrame d p).outcome = .done report := by
  obtain ⟨_, made, htraced, -⟩ := presentFrame_followed d p
  rw [htraced.history_eq] at hanswered
  exact (h.room hn).exists_report hdecision htraced.history_eq
    fun e he => hanswered e (List.mem_append_left _ he)

end Presenter

end AdaptiveResolution.Presentation
