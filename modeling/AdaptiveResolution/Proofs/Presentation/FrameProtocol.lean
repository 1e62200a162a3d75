import AdaptiveResolution.Proofs.Presentation.Tallies

namespace AdaptiveResolution.Presentation.Presenter

open Pacing (Config Controller Decision Operation)

section

variable {β ε : Type} [Backend β ε] {p : Presenter (Recorded β)} {d : Duration}
  {decision : Decision} {made : List Event}

section

variable (hdecision : (Controller.advanceDuration d p.controller).outcome = .done decision)
  (hhistory : (presentFrame d p).state.backend.history = made ++ p.backend.history)

include hdecision hhistory

theorem presentFrame_completed {report : FrameReport}
    (hreport : (presentFrame d p).outcome = .done report) :
    Completed (p.paced d) decision made (presentFrame d p).state := by
  obtain ⟨made', hcompleted⟩ :=
    (Action.ends_of_done hreport _ _).mp (presentFrame_conducts hdecision).ends
  cases List.append_cancel_right (hhistory.symm.trans hcompleted.history_eq)
  exact hcompleted

theorem presentFrame_stops (hnone : ∀ report, (presentFrame d p).outcome ≠ .done report) :
    ∃ e earlier, made = e :: earlier ∧
      Stopped (p.paced d) decision earlier e (presentFrame d p).state := by
  obtain ⟨earlier, e, hstopped⟩ :=
    (Action.ends_of_not_done hnone _ _).mp (presentFrame_conducts hdecision).ends
  have hmade : made = e :: earlier := by
    rcases hstopped with h | h <;>
      exact List.append_cancel_right (hhistory.symm.trans h.history_eq)
  exact ⟨e, earlier, hmade, hstopped⟩

variable (hfits : (made.foldr Event.post p.ledger).Fits)

include hfits

theorem presentFrame_halts (hnone : ∀ report, (presentFrame d p).outcome ≠ .done report) :
    ∃ e earlier, made = e :: earlier ∧
      Halted (p.paced d) decision earlier e (presentFrame d p).state := by
  obtain ⟨e, earlier, rfl, hhalted | hoverran⟩ := presentFrame_stops hdecision hhistory hnone
  · exact ⟨e, earlier, rfl, hhalted⟩
  · exact absurd hfits hoverran.overrun

theorem presentFrame_through :
    (presentFrame d p).outcome.bind (fun _ => .done ()) =
        (Call.performAll ((p.paced d).script decision) p.backend).outcome.mapError .backend ∧
      (presentFrame d p).state.backend =
        (Call.performAll ((p.paced d).script decision) p.backend).state := by
  obtain ⟨made', hmade, -, hthrough, -⟩ := (presentFrame_conducts hdecision).makes.history
  cases List.append_cancel_right (hhistory.symm.trans hmade)
  apply hthrough
  by_cases hdone : ∃ report, (presentFrame d p).outcome = .done report
  · exact .inl hdone
  · obtain ⟨e, earlier, rfl, hhalted⟩ := presentFrame_halts hdecision hhistory hfits
      fun report hreport => hdone ⟨report, hreport⟩
    exact .inr ⟨e, List.mem_cons_self .., hhalted.refused⟩

theorem presentFrame_ledger : (presentFrame d p).state.ledger = made.foldr Event.post p.ledger := by
  by_cases hdone : ∃ report, (presentFrame d p).outcome = .done report
  · obtain ⟨report, hreport⟩ := hdone
    exact (presentFrame_completed hdecision hhistory hreport).ledger_eq
  · obtain ⟨e, earlier, rfl, hhalted⟩ := presentFrame_halts hdecision hhistory hfits
      fun report hreport => hdone ⟨report, hreport⟩
    rw [List.foldr_cons, hhalted.refused.post_eq]
    exact hhalted.ledger_eq

end

theorem presentFrame_overran
    (hdecision : (Controller.advanceDuration d p.controller).outcome = .done decision)
    (hhistory : (presentFrame d p).state.backend.history = made ++ p.backend.history)
    (hoverrun : ¬(made.foldr Event.post p.ledger).Fits) :
    (presentFrame d p).outcome = .trapped .additionOverflow ∧ (∀ m ∈ made, ¬m.Refused) ∧
      ∃ e earlier, made = e :: earlier ∧ (earlier.foldr Event.post p.ledger).Fits := by
  have hnone (report : FrameReport) : (presentFrame d p).outcome ≠ .done report := by
    intro hreport
    have hledger := (presentFrame_completed hdecision hhistory hreport).ledger_eq
    exact hoverrun (hledger ▸ ledger_fits _)
  obtain ⟨e, earlier, rfl, hhalted | hoverran⟩ := presentFrame_stops hdecision hhistory hnone
  · rw [List.foldr_cons, hhalted.refused.post_eq] at hoverrun
    exact absurd (hhalted.ledger_eq ▸ ledger_fits _) hoverrun
  · obtain ⟨made', hmade, -, -, -, htrapped⟩ := (presentFrame_conducts hdecision).makes.history
    cases List.append_cancel_right (hhistory.symm.trans hmade)
    exact ⟨htrapped hnone hoverran.answered, hoverran.answered, e, earlier, rfl, hoverran.fits⟩

theorem exists_report_iff
    (hdecision : (Controller.advanceDuration d p.controller).outcome = .done decision)
    (hhistory : (presentFrame d p).state.backend.history = made ++ p.backend.history) :
    (∃ report, (presentFrame d p).outcome = .done report) ↔
      (Call.performAll ((p.paced d).script decision) p.backend).outcome = .done () ∧
        (made.foldr Event.post p.ledger).Fits := by
  constructor
  · rintro ⟨report, hreport⟩
    have hledger := (presentFrame_completed hdecision hhistory hreport).ledger_eq
    exact ⟨((presentFrame_conducts hdecision).makes.done hreport).1, hledger ▸ ledger_fits _⟩
  · rintro ⟨hdone, hfits⟩
    obtain ⟨houtcome, -⟩ := presentFrame_through hdecision hhistory hfits
    rw [hdone] at houtcome
    cases hreport : (presentFrame d p).outcome with
    | done report => exact ⟨report, rfl⟩
    | failed error => rw [hreport] at houtcome; contradiction
    | trapped trap => rw [hreport] at houtcome; contradiction

/-- Whatever has been done to the presenter before, a frame that lasts makes the calls of its
script one after the other. It succeeds if none is refused and no counter is full. Otherwise it
stops at the first call that is refused, which tells what the frame leaves, or at the first that
cannot be counted. A frame that lasts no time is not begun. -/
theorem frame_follows_script {config : Config} {scale : Double} {c₀ : Controller}
    (hc : Controller.withScale config scale = .done c₀) (ops : List Operation)
    (hp : p.controller = c₀.after ops) (d : Duration) :
    presentFrame d p.erased = ⟨(presentFrame d p).outcome, (presentFrame d p).state.erased,
        (presentFrame d p).journal⟩ ∧
      (d.nanos = 0 → presentFrame d p = ⟨.failed (.pacing .zeroFrameTime), p, []⟩) ∧
      (d.nanos ≠ 0 → ∃ decision,
        (Controller.advanceDuration d p.controller).outcome = .done decision ∧
        let calls := (p.paced d).script decision
        let q := (presentFrame d p).state
        ∃ made, q.backend.history = made ++ p.backend.history ∧
          (made.map Event.call).reverse <+: calls ∧
          q.controller = (Controller.advanceDuration d p.controller).state ∧
          q.time = p.time.add d ∧ q.lastFrame = p.lastFrame ∧
          let now := made.foldr Event.post p.ledger
          ((∃ report, (presentFrame d p).outcome = .done report) ↔
            (Call.performAll calls p.backend).outcome = .done () ∧ now.Fits) ∧
          (now.Fits →
            ((presentFrame d p).outcome.bind (fun _ => .done ()) =
                (Call.performAll calls p.backend).outcome.mapError .backend ∧
              q.backend = (Call.performAll calls p.backend).state) ∧
            q.ledger = now ∧
            (∀ report, (presentFrame d p).outcome = .done report →
              (made.map Event.call).reverse = calls ∧ (∀ m ∈ made, ¬m.Refused) ∧
                q.state = .idle ∧ q.pendingResize = none) ∧
            ((∀ report, (presentFrame d p).outcome ≠ .done report) →
              ∃ e earlier, made = e :: earlier ∧ e.Refused ∧ (∀ m ∈ earlier, ¬m.Refused) ∧
                q.state = e.call.haltsIn (earlier.map Event.call) p.state ∧
                q.pendingResize = e.call.leavesPending ((p.paced d).decidedSize decision))) ∧
          (¬now.Fits →
            (presentFrame d p).outcome = .trapped .additionOverflow ∧ (∀ m ∈ made, ¬m.Refused) ∧
              ∃ e earlier, made = e :: earlier ∧ (earlier.foldr Event.post p.ledger).Fits)) := by
  refine ⟨presentFrame_mirrors d p, fun hd => presentFrame_zero hd p, fun hd => ?_⟩
  have hsound : p.controller.Sound :=
    hp ▸ Controller.after_sound (Controller.withScale_sound hc) ops
  obtain ⟨decision, hdecision⟩ := hsound.exists_decision hd
  refine ⟨decision, hdecision, ?_⟩
  intro calls q
  obtain ⟨made, hhistory, hfirst, -, hall, -⟩ := (presentFrame_conducts hdecision).makes.history
  obtain ⟨since, hended⟩ := presentFrame_ended hdecision
  have hsince := hended.accounted
  refine ⟨made, hhistory, hfirst, presentFrame_controller d p, hsince.time_eq, hsince.lastFrame_eq,
    exists_report_iff hdecision hhistory, fun hfits => ?_, presentFrame_overran hdecision hhistory⟩
  refine ⟨presentFrame_through hdecision hhistory hfits,
    presentFrame_ledger hdecision hhistory hfits, fun report hreport => ?_, fun hnone => ?_⟩
  · have hcompleted := presentFrame_completed hdecision hhistory hreport
    exact ⟨hall ⟨report, hreport⟩, hcompleted.answered, hcompleted.state_eq, hcompleted.pending_eq⟩
  · obtain ⟨e, earlier, hmade, hhalted⟩ := presentFrame_halts hdecision hhistory hfits hnone
    exact ⟨e, earlier, hmade, hhalted.refused, hhalted.answered, hhalted.state_eq,
      hhalted.pending_eq⟩

end

theorem frame_follows_script_refusing :
    Controller.withScale eager (.ofNat 1) = .done eagerController ∧
      ∃ p : Presenter (Recorded Scripted),
        (start eagerController ⟨refusing, []⟩).outcome = .done p ∧
        let q := p.after [.ofNanos 20000]
        q.controller = eagerController.after [.advanceDuration (.ofNanos 20000)] ∧
          q.state = .presented ∧ ∃ decision made,
            let calls := (q.paced (.ofNanos 10000)).script decision
            calls.head? = some (.resize ⟨500, 250⟩) ∧
              (presentFrame (.ofNanos 10000) q).state.backend.history = made ++ q.backend.history ∧
              ((∃ report, (presentFrame (.ofNanos 10000) q).outcome = .done report) ↔
                (Call.performAll calls q.backend).outcome = .done () ∧
                  (made.foldr Event.post q.ledger).Fits) := by
  have hstart : (start eagerController (⟨refusing, []⟩ : Recorded Scripted)).outcome = .done _ :=
    rfl
  refine ⟨eager_withScale, _, hstart, ?_⟩
  intro q
  have hq : q.controller = eagerController.after [.advanceDuration (.ofNanos 20000)] :=
    after_controller _ [.ofNanos 20000]
  have hpending : (q.paced (.ofNanos 10000)).pendingResize = some ⟨500, 250⟩ := by decide +kernel
  obtain ⟨decision, -, made, hhistory, -, -, -, -, hreport, -⟩ :=
    (frame_follows_script eager_withScale _ hq (.ofNanos 10000)).2.2 (by decide)
  refine ⟨hq, by decide +kernel, decision, made, ?_, hhistory, hreport⟩
  rw [script, hpending]
  rfl

theorem stalled_frame_traps {p : Presenter (Recorded Stalled)}
    (hstart : (start eagerController stalled).outcome = .done p) :
    (presentFrame (.ofNanos 100) (p.after (pulses (2 ^ 63)))).outcome =
      .trapped .additionOverflow := by
  obtain ⟨decision, hdecision⟩ := pulses_decision hstart (2 ^ 63)
  obtain ⟨htallies, -⟩ := pulses_tallies hstart (Nat.le_refl (2 ^ 63))
  have hwaits := stalled_last hstart
  generalize p.after (pulses (2 ^ 63)) = q at hdecision htallies hwaits ⊢
  obtain ⟨_, made, hmade, -⟩ := presentFrame_followed (.ofNanos 100) q
  have hoverrun : ¬(made.foldr Event.post q.ledger).Fits := by
    intro hfits
    have hcounted := (hmade.tallies htallies List.suffix_rfl).fenceWaits_eq
    rw [← hmade.history_eq] at hcounted
    exact absurd (hcounted.trans hwaits) hfits.fenceWaits_lt.ne
  exact (presentFrame_overran hdecision hmade.history_eq hoverrun).1

-- No call of the script is refused, but the second wait of the frame cannot be counted.
theorem frame_stopped_by_counter :
    Controller.withScale eager (.ofNat 1) = .done eagerController ∧
      ∃ p : Presenter (Recorded Stalled),
        (start eagerController stalled).outcome = .done p ∧
        let q := p.after (pulses (2 ^ 63))
        q.controller = eagerController.after ((pulses (2 ^ 63)).map .advanceDuration) ∧ ∃ decision,
          (Controller.advanceDuration (.ofNanos 100) q.controller).outcome = .done decision ∧
            let calls := (q.paced (.ofNanos 100)).script decision
            (Call.performAll calls q.backend).outcome = .done () ∧
              (presentFrame (.ofNanos 100) q).outcome = .trapped .additionOverflow := by
  have hstart : (start eagerController stalled).outcome = .done _ := rfl
  obtain ⟨decision, hdecision⟩ := pulses_decision hstart (2 ^ 63)
  exact ⟨eager_withScale, _, hstart, after_controller _ _, decision, hdecision,
    Stalled.performAll_done _ _, stalled_frame_traps hstart⟩

end AdaptiveResolution.Presentation.Presenter
